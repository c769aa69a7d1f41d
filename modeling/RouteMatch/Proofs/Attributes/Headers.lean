import Mathlib.Data.List.Induction
import RouteMatch.Proofs.Attributes.Environment

/-!
# The variables of headers

The environment of a connection has a variable for each header.  Headers of one name,
in any letter case, share it: their values are joined in order of appearance.  Headers
of different names share a variable only if they are spelled alike, that is, if they
differ in hyphens against underscores, or in the sharp s against the two letters it is
written with in upper case.  Of names spelled alike the one that first appears last is
held, so that every other name has its variable to itself.

## Main definitions

* `Scope.headerNames`, `Scope.valuesOf` — the names of headers, and the values under one
  of them.
* `Scope.spelling` — what names with the same variable have in common.

## Main results

* `Scope.get?_headerValues` — headers of one name are joined in order.
* `Scope.pairwise_headerValues` — names are in order of their first appearance.
* `Scope.variableName_eq_iff` — **names have the same variable exactly if they are spelled
  alike.**
* `Attributes.get?_server_header` — **a variable holds all values of its header**, the one
  of a name spelled alike that first appears later aside.
-/

namespace RouteMatch

namespace Scope

open Text

/-! ### Headers of one name -/

/-- The name of a header in lower case. -/
def headerName (header : List Char × List Char) : List Char :=
  header.1.map latinLower

/-- The names of headers in lower case, in order of appearance. -/
def headerNames (headers : List (List Char × List Char)) : List (List Char) :=
  headers.map headerName

/-- The values of the headers of one name, in order of appearance. -/
def valuesOf (headers : List (List Char × List Char)) (name : List Char) : List (List Char) :=
  (headers.filter fun header => headerName header = name).map Prod.snd

theorem headerValues_concat (headers : List (List Char × List Char))
    (header : List Char × List Char) :
    headerValues (headers ++ [header]) = addHeader (headerValues headers) header := by
  rw [headerValues, List.foldl_append]
  rfl

theorem headerNames_concat (headers : List (List Char × List Char))
    (header : List Char × List Char) :
    headerNames (headers ++ [header]) = headerNames headers ++ [headerName header] := by
  simp [headerNames]

theorem valuesOf_concat (headers : List (List Char × List Char)) (header : List Char × List Char)
    (name : List Char) :
    valuesOf (headers ++ [header]) name
      = valuesOf headers name ++ if headerName header = name then [header.2] else [] := by
  by_cases h : headerName header = name <;> simp [valuesOf, h]

theorem valuesOf_eq_nil_iff {headers : List (List Char × List Char)} {name : List Char} :
    valuesOf headers name = [] ↔ name ∉ headerNames headers := by
  simp [valuesOf, headerNames]

/-- A header is put after the earlier value under its name, and leaves other names
alone. -/
theorem get?_addHeader (headers : Entries (List Char) (List Char))
    (header : List Char × List Char) (name : List Char) :
    (addHeader headers header).get? name
      = if headerName header = name then
          some ((headers.get? name).elim header.2 fun earlier => earlier ++ ',' :: header.2)
        else headers.get? name := by
  rw [addHeader, Entries.get?_insert, headerName]
  by_cases hname : header.1.map latinLower = name
  · subst hname
    rw [if_pos (beq_self_eq_true _), if_pos rfl]
    cases headers.get? (header.1.map latinLower) <;> rfl
  · rw [if_neg (by simpa using hname), if_neg hname]

/-- Headers of one name are joined in order of appearance. -/
theorem get?_headerValues (headers : List (List Char × List Char)) (name : List Char) :
    (headerValues headers).get? name
      = if name ∈ headerNames headers then some (join ',' (valuesOf headers name)) else none := by
  -- The last header is added to those before it.
  induction headers using List.reverseRecOn with
  | nil => rfl
  | append_singleton headers header ih =>
    rw [headerValues_concat, get?_addHeader, headerNames_concat, valuesOf_concat, ih]
    by_cases hname : headerName header = name
    · have hmem' : name ∈ headerNames headers ++ [headerName header] := by simp [hname]
      rw [if_pos hname, if_pos hname, if_pos hmem']
      by_cases hmem : name ∈ headerNames headers
      · rw [if_pos hmem, join_concat (mt valuesOf_eq_nil_iff.mp (not_not_intro hmem))]
        rfl
      · rw [if_neg hmem, valuesOf_eq_nil_iff.mpr hmem]
        rfl
    · rw [if_neg hname, if_neg hname, List.append_nil]
      simp [Ne.symm hname]

theorem mem_map_fst_headerValues {headers : List (List Char × List Char)} {name : List Char} :
    name ∈ (headerValues headers).map Prod.fst ↔ name ∈ headerNames headers := by
  rw [← not_iff_not, ← Entries.get?_eq_none_iff, get?_headerValues]
  split <;> simp_all

/-- The names of headers are in order of their first appearance. -/
theorem pairwise_headerValues (headers : List (List Char × List Char)) :
    ((headerValues headers).map Prod.fst).Pairwise fun a b =>
      (headerNames headers).idxOf a < (headerNames headers).idxOf b := by
  induction headers using List.reverseRecOn with
  | nil => exact List.Pairwise.nil
  | append_singleton headers header ih =>
    -- Names that have appeared before stay where they are.
    have hkept : ∀ name ∈ (headerValues headers).map Prod.fst,
        (headerNames headers ++ [headerName header]).idxOf name
          = (headerNames headers).idxOf name := fun name hname => by
      rw [List.idxOf_append, if_pos (mem_map_fst_headerValues.mp hname)]
    have hold : ((headerValues headers).map Prod.fst).Pairwise fun a b =>
        (headerNames headers ++ [headerName header]).idxOf a
          < (headerNames headers ++ [headerName header]).idxOf b :=
      ih.imp_of_mem fun ha hb hab => by rwa [hkept _ ha, hkept _ hb]
    have hkeys : (headerValues (headers ++ [header])).map Prod.fst
        = (headerValues headers).map Prod.fst
          ++ if headerName header ∈ (headerValues headers).map Prod.fst then []
            else [headerName header] := by
      rw [headerValues_concat]
      exact Entries.map_fst_insert _ _ _
    rw [hkeys, headerNames_concat]
    by_cases hmem : headerName header ∈ (headerValues headers).map Prod.fst
    · rwa [if_pos hmem, List.append_nil]
    · rw [if_neg hmem]
      refine List.pairwise_append.mpr ⟨hold, List.pairwise_singleton _ _, fun a ha b hb => ?_⟩
      obtain rfl := List.mem_singleton.mp hb
      have hnew : headerName header ∉ headerNames headers := mt mem_map_fst_headerValues.mpr hmem
      have hfirst := List.idxOf_lt_length_iff.mpr (mem_map_fst_headerValues.mp ha)
      rw [hkept a ha, List.idxOf_append, if_neg hnew]
      omega

/-! ### Names with the same variable -/

/-- A name with hyphens for underscores and two letters for the sharp s. -/
def spelling (name : List Char) : List Char :=
  name.flatMap fun c => if c = '_' then ['-'] else if c = 'ß' then ['s', 's'] else [c]

/-- A name in upper case with underscores for hyphens. -/
def capitals (name : List Char) : List Char :=
  (name.flatMap latinUpper).map fun c => if c = '-' then '_' else c

/-- A header has the variable of its capitals. -/
theorem variableName_eq (name : List Char) :
    variableName name
      = if capitals name = "CONTENT_TYPE".toList ∨ capitals name = "CONTENT_LENGTH".toList then
          capitals name
        else "HTTP_".toList ++ capitals name :=
  rfl

/-- The variable of a header tells its capitals. -/
theorem variableName_eq_iff_capitals {name other : List Char} :
    variableName name = variableName other ↔ capitals name = capitals other := by
  -- No description of the content begins as other variables do.
  have hcontent : ∀ word text : List Char,
      word = "CONTENT_TYPE".toList ∨ word = "CONTENT_LENGTH".toList →
        word ≠ "HTTP_".toList ++ text := by
    rintro word text (rfl | rfl) <;> simp
  constructor
  · intro h
    rw [variableName_eq, variableName_eq] at h
    split at h <;> split at h
    · exact h
    · next hname _ => exact absurd h (hcontent _ _ hname)
    · next _ hother => exact absurd h.symm (hcontent _ _ hother)
    · exact List.append_cancel_left h
  · intro h
    rw [variableName_eq, variableName_eq, h]

/-- The letter of a spelling that a capital stands for. -/
def smallLetter (c : Char) : Char :=
  if c = '_' then '-'
  else if c = Char.ofNat 0x39C then Char.ofNat 0xB5
  else if c = Char.ofNat 0x178 then Char.ofNat 0xFF
  else latinLower c

/-- The capital that stands for a letter of a spelling. -/
def capital (c : Char) : Char :=
  if c = '-' then '_' else (latinUpper c).headD c

/-- The capitals and the spelling of a single small letter tell each other. -/
theorem capitals_latinLower {c : Char} (hc : c.toNat < 0x100) :
    (capitals [latinLower c]).map smallLetter = spelling [latinLower c] ∧
      (spelling [latinLower c]).map capital = capitals [latinLower c] := by
  have hall : ∀ n < 0x100,
      (capitals [latinLower (Char.ofNat n)]).map smallLetter = spelling [latinLower (Char.ofNat n)] ∧
        (spelling [latinLower (Char.ofNat n)]).map capital
          = capitals [latinLower (Char.ofNat n)] := by
    decide +kernel
  have hletter := hall c.toNat hc
  rwa [Char.ofNat_toNat] at hletter

theorem capitals_cons (c : Char) (name : List Char) :
    capitals (c :: name) = capitals [c] ++ capitals name := by
  simp [capitals]

theorem spelling_cons (c : Char) (name : List Char) :
    spelling (c :: name) = spelling [c] ++ spelling name := by
  simp [spelling]

/-- The capitals and the spelling of a name in lower case tell each other. -/
theorem capitals_map_latinLower {raw : List Char} (h : ∀ c ∈ raw, c.toNat < 0x100) :
    (capitals (raw.map latinLower)).map smallLetter = spelling (raw.map latinLower) ∧
      (spelling (raw.map latinLower)).map capital = capitals (raw.map latinLower) := by
  induction raw with
  | nil => exact ⟨rfl, rfl⟩
  | cons c raw ih =>
    obtain ⟨hsmall, hcapital⟩ := capitals_latinLower (h c List.mem_cons_self)
    obtain ⟨ihsmall, ihcapital⟩ := ih fun d hd => h d (List.mem_cons_of_mem _ hd)
    rw [List.map_cons, capitals_cons, spelling_cons, List.map_append, List.map_append, hsmall,
      hcapital, ihsmall, ihcapital]
    exact ⟨rfl, rfl⟩

/-- **Names have the same variable exactly if they are spelled alike.** -/
theorem variableName_eq_iff {raw other : List Char} (hraw : ∀ c ∈ raw, c.toNat < 0x100)
    (hother : ∀ c ∈ other, c.toNat < 0x100) :
    variableName (raw.map latinLower) = variableName (other.map latinLower)
      ↔ spelling (raw.map latinLower) = spelling (other.map latinLower) := by
  rw [variableName_eq_iff_capitals]
  constructor
  · intro h
    rw [← (capitals_map_latinLower hraw).1, ← (capitals_map_latinLower hother).1, h]
  · intro h
    rw [← (capitals_map_latinLower hraw).2, ← (capitals_map_latinLower hother).2, h]

/-! ### What a variable holds -/

/-- A variable holds the last of the headers that have it. -/
theorem get?_headerVariables_append {front back : Entries (List Char) (List Char)}
    {name value : List Char}
    (h : ∀ other ∈ back.map Prod.fst, variableName other ≠ variableName name)
    (environment : Entries Value Value) :
    (Entries.update environment (headerVariables (front ++ (name, value) :: back))).get?
        (.text (String.ofList (variableName name)))
      = some (.text (String.ofList value)) := by
  have hupdate : Entries.update environment (headerVariables (front ++ (name, value) :: back))
      = Entries.update
          ((Entries.update environment (headerVariables front)).insert
            (.text (String.ofList (variableName name))) (.text (String.ofList value)))
          (headerVariables back) := by
    simp [Entries.update, headerVariables]
  rw [hupdate, get?_headerVariables_of_forall_ne h, Entries.get?_insert_text, if_pos rfl]

end Scope

namespace Attributes

open Scope Text

/-- **A variable holds all values of its header.**  For a header name of a scope that
gives attributes, the variable of that name is the values of all headers of the name,
joined in order of appearance, whatever other headers there are: unless another name that
is spelled alike appears for the first time after it. -/
theorem get?_server_header {s : Scope} {a : Attributes} (h : ofScope s = .ok a)
    (hbytes : ∀ header ∈ s.headers, ∀ c ∈ header.1, c.toNat < 0x100) {name : List Char}
    (hname : name ∈ headerNames s.headers)
    (hlast : ∀ other ∈ headerNames s.headers, spelling other = spelling name →
      (headerNames s.headers).idxOf other ≤ (headerNames s.headers).idxOf name) :
    a.server.get? (.text (String.ofList (variableName name)))
      = some (.text (String.ofList (join ',' (valuesOf s.headers name)))) := by
  obtain ⟨port, protocol, server, text, client, -, -, rfl⟩ := ofScope_eq_ok h
  have hget : (headerValues s.headers).get? name = some (join ',' (valuesOf s.headers name)) := by
    rw [get?_headerValues, if_pos hname]
  obtain ⟨front, back, hsplit⟩ := Entries.exists_of_get?_eq_some hget
  have horder := pairwise_headerValues s.headers
  have hmem : ∀ other ∈ back.map Prod.fst, other ∈ headerNames s.headers := fun other hother => by
    rw [← mem_map_fst_headerValues, hsplit, List.map_append, List.map_cons]
    exact List.mem_append_right _ (List.mem_cons_of_mem _ hother)
  rw [hsplit, List.map_append, List.map_cons] at horder
  have hlater := (List.pairwise_cons.mp (List.pairwise_append.mp horder).2.1).1
  have hapart : ∀ other ∈ back.map Prod.fst, variableName other ≠ variableName name := by
    intro other hother heq
    obtain ⟨header, hheader, rfl⟩ := List.mem_map.mp hname
    obtain ⟨header', hheader', rfl⟩ := List.mem_map.mp (hmem other hother)
    have halike := (variableName_eq_iff (hbytes header' hheader') (hbytes header hheader)).mp heq
    exact absurd (hlater _ hother) (Nat.not_lt_of_ge (hlast _ (hmem _ hother) halike))
  change (Entries.update _ (headerVariables (headerValues s.headers))).get? _ = _
  rw [hsplit]
  exact get?_headerVariables_append hapart _

/-- A scope with two names that are spelled alike, each of them in two cases. -/
def tagScope : Scope where
  headers := [("X-Tag".toList, "a".toList), ("x_tag".toList, "b".toList),
    ("x-tag".toList, "c".toList), ("Content-Type".toList, "text/plain".toList),
    ("X_TAG".toList, "d".toList)]
  query := []
  entries := []

theorem get?_server_header_tagScope :
    ∃ a, ofScope tagScope = .ok a ∧ "x_tag".toList ∈ headerNames tagScope.headers ∧
      a.server.get? (.text "HTTP_X_TAG") = some (.text "b,d") := by
  have hbytes : ∀ header ∈ tagScope.headers, ∀ c ∈ header.1, c.toNat < 0x100 := by
    have hall : (tagScope.headers.all fun header => header.1.all fun c => c.toNat < 0x100) = true := by
      decide
    intro header hheader c hc
    exact of_decide_eq_true (List.all_eq_true.mp (List.all_eq_true.mp hall header hheader) c hc)
  have hname : "x_tag".toList ∈ headerNames tagScope.headers := by decide +kernel
  have hlast : ∀ other ∈ headerNames tagScope.headers, spelling other = spelling "x_tag".toList →
      (headerNames tagScope.headers).idxOf other
        ≤ (headerNames tagScope.headers).idxOf "x_tag".toList := by
    decide +kernel
  obtain ⟨a, ha⟩ : ∃ a, ofScope tagScope = .ok a := ⟨_, rfl⟩
  exact ⟨a, ha, hname, get?_server_header ha hbytes hname hlast⟩

/-- A name that is spelled alike takes the variable of one that appeared before it. -/
theorem not_get?_server_header_tagScope :
    ¬ ∀ a, ofScope tagScope = .ok a → ∀ name ∈ headerNames tagScope.headers,
      a.server.get? (.text (String.ofList (variableName name)))
        = some (.text (String.ofList (join ',' (valuesOf tagScope.headers name)))) := by
  intro h
  obtain ⟨a, ha, hget⟩ : ∃ a, ofScope tagScope = .ok a ∧
      a.server.get? (.text "HTTP_X_TAG") = some (.text "b,d") := ⟨_, rfl, rfl⟩
  have hheld := h a ha "x-tag".toList (by decide +kernel)
  have hvalues : String.ofList (join ',' (valuesOf tagScope.headers "x-tag".toList)) = "a,c" := by
    decide +kernel
  have hvariable : String.ofList (variableName "x-tag".toList) = "HTTP_X_TAG" := by decide +kernel
  rw [hvalues, hvariable, hget] at hheld
  exact absurd hheld (by simp)

end Attributes

end RouteMatch
