import RouteMatch.Proofs.Negotiation.Search

/-!
# Negotiation as a plain scan

The verdict of a header can be told without a regular expression.  White space is deleted.
The range of all types accepts everything.  For each type the least index is looked for at
which the type itself or the range of all subtypes of its main type stands, character by
character; whatever else the header holds does not matter, except for the six characters
behind what stands there.

## Main definitions

* `exactRange`, `wideRange` — the two texts that are looked for.
* `firstIndex?` — the least index at which one of them stands.
* `scanAccepts` — the verdict of the scan.

## Main results

* `findSome?_afterRange?` — the search for a range finds what is behind the least index.
* `acceptsMediaType_eq_scan` — the verdict on one type is that of the scan.
* `accepts_eq_scanAccepts` — **the verdict of a header is that of the scan**, which white
  space does not change.
-/

namespace RouteMatch.Negotiation

open Text (occursIn cut? occursIn_iff)

/-! ### The scan -/

/-- The main type: what is before the first slash, or everything. -/
def mainType (mediaType : List Char) : List Char :=
  mediaType.takeWhile (· ≠ '/')

/-- The subtype: what is after the first slash. -/
def subtype (mediaType : List Char) : List Char :=
  (mediaType.dropWhile (· ≠ '/')).tail

/-- The type itself, with a slash in any case. -/
def exactRange (mediaType : List Char) : List Char :=
  mainType mediaType ++ '/' :: subtype mediaType

/-- All subtypes of the main type. -/
def wideRange (mediaType : List Char) : List Char :=
  mainType mediaType ++ ['/', '*']

/-- Whether a text goes on with another one at an index. -/
def standsAt (range text : List Char) (index : Nat) : Bool :=
  range.isPrefixOf (text.drop index)

/-- Whether a text goes on with the type or with all its subtypes at an index. -/
def hasRangeAt (mediaType text : List Char) (index : Nat) : Bool :=
  standsAt (exactRange mediaType) text index || standsAt (wideRange mediaType) text index

/-- The least index at which a text goes on with the type or with all its subtypes. -/
def firstIndex? (mediaType text : List Char) : Option Nat :=
  (List.range (text.length + 1)).find? (hasRangeAt mediaType text)

/-- What is behind the type at an index, if it stands there, and otherwise behind all its
subtypes. -/
def behind (mediaType text : List Char) (index : Nat) : List Char :=
  if standsAt (exactRange mediaType) text index then
    text.drop (index + (exactRange mediaType).length)
  else text.drop (index + (wideRange mediaType).length)

/-- The verdict on one type: it stands somewhere, and the six characters behind it do not
refuse it. -/
def scanMediaType (mediaType text : List Char) : Bool :=
  (firstIndex? mediaType text).any fun index =>
    (behind mediaType text index).take 6 != ";q=0.0".toList

/-- The verdict on several types. -/
def scanAccepts (mediaTypes : List (List Char)) (header : List Char) : Bool :=
  let text := header.filter fun c => !Unicode.isSpace c.toNat
  occursIn "*/*".toList text || mediaTypes.any (scanMediaType · text)

/-! ### The least index -/

/-- The tails of a text are what it goes on with at its indices. -/
theorem tails_eq_map_drop (text : List Char) :
    text.tails = (List.range (text.length + 1)).map text.drop := by
  refine List.ext_getElem (by simp) fun index h₁ h₂ => ?_
  rw [List.getElem_tails, List.getElem_map, List.getElem_range]

/-- What is found first is what is found at the first place where something is. -/
theorem findSome?_eq_bind_find? {α β : Type} (f : α → Option β) (places : List α) :
    places.findSome? f = (places.find? fun place => (f place).isSome).bind f := by
  induction places with
  | nil => rfl
  | cons place places ih =>
    rw [List.findSome?_cons, List.find?_cons]
    cases h : f place with
    | none => exact ih
    | some b => exact h.symm

/-! ### One type -/

/-- The parts of a media type are what is before its first slash and after it. -/
theorem partition_eq (mediaType : List Char) :
    partition mediaType = (mainType mediaType, subtype mediaType) := by
  unfold partition mainType subtype
  induction mediaType with
  | nil => rfl
  | cons c rest ih =>
    by_cases hc : c = '/'
    · simp [cut?, hc]
    · rw [cut?, if_neg hc]
      cases hcut : cut? '/' rest with
      | none =>
        rw [hcut] at ih
        simpa [hc] using ih
      | some parts =>
        rw [hcut] at ih
        simpa [hc, Prod.ext_iff] using ih

/-- What follows a range at an index. -/
theorem afterRange?_drop (mediaType text : List Char) (index : Nat) :
    afterRange? (mainType mediaType) (subtype mediaType) (text.drop index)
      = if hasRangeAt mediaType text index then some (behind mediaType text index) else none := by
  have hexactLength : (exactRange mediaType).length
      = (mainType mediaType).length + ((subtype mediaType).length + 1) := by simp [exactRange]
  have hwideLength : (wideRange mediaType).length = (mainType mediaType).length + 2 := by
    simp [wideRange]
  unfold afterRange? hasRangeAt behind standsAt
  rw [← exactRange, ← wideRange, ← hexactLength, ← hwideLength, List.drop_drop, List.drop_drop]
  by_cases hexact : exactRange mediaType <+: text.drop index
  · simp [hexact]
  · by_cases hwide : wideRange mediaType <+: text.drop index
    · simp [hexact, hwide]
    · simp [hexact, hwide]

/-- The search for a range finds what is behind the least index. -/
theorem findSome?_afterRange? (mediaType text : List Char) :
    text.tails.findSome? (afterRange? (mainType mediaType) (subtype mediaType))
      = (firstIndex? mediaType text).map (behind mediaType text) := by
  rw [tails_eq_map_drop, List.findSome?_map, findSome?_eq_bind_find?, firstIndex?]
  have hplaces : (fun index => (afterRange? (mainType mediaType) (subtype mediaType)
      (text.drop index)).isSome) = hasRangeAt mediaType text := by
    funext index
    rw [afterRange?_drop]
    cases hasRangeAt mediaType text index <;> rfl
  simp only [Function.comp_def, hplaces]
  cases hfound : (List.range (text.length + 1)).find? (hasRangeAt mediaType text) with
  | none => rfl
  | some index =>
    rw [Option.bind_some, afterRange?_drop, if_pos (List.find?_some hfound), Option.map_some]

/-- **The verdict on one type is that of the scan.** -/
theorem acceptsMediaType_eq_scan (mediaType text : List Char) :
    acceptsMediaType mediaType text = scanMediaType mediaType text := by
  rw [acceptsMediaType_eq (partition_eq mediaType), findSome?_afterRange?, scanMediaType,
    Option.any_map]
  congr 1
  funext index
  have hrefusal : refusal <+: behind mediaType text index
      ↔ (behind mediaType text index).take 6 = ";q=0.0".toList := by
    rw [List.prefix_iff_eq_take]
    exact eq_comm
  rw [Bool.eq_iff_iff, decide_eq_true_iff, bne_iff_ne]
  exact not_congr hrefusal

/-! ### White space -/

theorem compact_append (front back : List Char) :
    compact (front ++ back) = compact front ++ compact back :=
  List.filter_append _ _

/-- White space does not count. -/
theorem compact_eq_nil {blanks : List Char}
    (h : ∀ c ∈ blanks, Unicode.isSpace c.toNat = true) : compact blanks = [] := by
  rw [compact, List.filter_eq_nil_iff]
  intro c hc
  simp [h c hc]

/-! ### Several types -/

/-- What stands at an index stands in the text. -/
theorem infix_of_standsAt {range text : List Char} {index : Nat}
    (h : standsAt range text index = true) : range <:+: text :=
  (List.isPrefixOf_iff_prefix.mp h).isInfix.trans (List.drop_suffix index text).isInfix

/-- A type that the scan accepts stands in the text, or all its subtypes do. -/
theorem infix_of_scanMediaType {mediaType text : List Char}
    (h : scanMediaType mediaType text = true) :
    exactRange mediaType <:+: text ∨ wideRange mediaType <:+: text := by
  obtain ⟨index, hindex, -⟩ := (Option.any_eq_true _ _).mp h
  have hrange : hasRangeAt mediaType text index = true := List.find?_some hindex
  rcases Bool.or_eq_true_iff.mp hrange with hexact | hwide
  · exact Or.inl (infix_of_standsAt hexact)
  · exact Or.inr (infix_of_standsAt hwide)

/-- **The verdict of a header is that of the scan.**  White space that is put in or left out
does not change it, and a type is accepted only where the header holds its characters, whatever
they mean in a regular expression, if it does not hold the range of all types. -/
theorem accepts_eq_scanAccepts {mediaTypes : List (List Char)} (hne : mediaTypes ≠ []) :
    (∀ header, accepts mediaTypes (some header) = scanAccepts mediaTypes header) ∧
      (∀ front blanks back, (∀ c ∈ blanks, Unicode.isSpace c.toNat = true) →
        accepts mediaTypes (some (front ++ blanks ++ back))
          = accepts mediaTypes (some (front ++ back))) ∧
      ∀ header, accepts mediaTypes (some header) = true →
        "*/*".toList <:+: compact header ∨
          ∃ mediaType ∈ mediaTypes, exactRange mediaType <:+: compact header ∨
            wideRange mediaType <:+: compact header := by
  have hscan : ∀ header, accepts mediaTypes (some header) = scanAccepts mediaTypes header := by
    intro header
    have hnonempty : mediaTypes.isEmpty = false := List.isEmpty_eq_false_iff.mpr hne
    simp only [accepts, hnonempty, Bool.false_or, acceptsMediaType_eq_scan]
    rfl
  refine ⟨hscan, ?_, ?_⟩
  · intro front blanks back hblanks
    have hcompact : compact (front ++ blanks ++ back) = compact (front ++ back) := by
      rw [compact_append, compact_append, compact_eq_nil hblanks, List.append_nil, compact_append]
    simp only [accepts, hcompact]
  · intro header haccepts
    rw [hscan, scanAccepts] at haccepts
    rcases Bool.or_eq_true_iff.mp haccepts with hany | htype
    · exact Or.inl (occursIn_iff.mp hany)
    · obtain ⟨mediaType, hmem, hscans⟩ := List.any_eq_true.mp htype
      exact Or.inr ⟨mediaType, hmem, infix_of_scanMediaType hscans⟩

/-- Characters with a meaning in regular expressions stand for themselves, and a space within
the type is passed over. -/
theorem accepts_eq_scanAccepts_vector :
    ["image/svg+x.ml".toList] ≠ [] ∧
      accepts ["image/svg+x.ml".toList] (some "image/svggx-ml".toList) = false ∧
      accepts ["image/svg+x.ml".toList]
        (some ("image/svggx-ml,image/".toList ++ [' '] ++ "svg+x.ml;q=0.5".toList)) = true := by
  have hne : ["image/svg+x.ml".toList] ≠ [] := by simp
  obtain ⟨hscan, hblank, -⟩ := accepts_eq_scanAccepts hne
  refine ⟨hne, ?_, ?_⟩
  · rw [hscan]
    decide +kernel
  · have hspace : ∀ c ∈ [' '], Unicode.isSpace c.toNat = true := by
      intro c hc
      rw [List.mem_singleton.mp hc]
      decide
    rw [hblank _ _ _ hspace, hscan]
    decide +kernel

end RouteMatch.Negotiation
