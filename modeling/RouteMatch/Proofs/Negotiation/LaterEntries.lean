import RouteMatch.Proofs.Attributes.Headers
import RouteMatch.Proofs.Negotiation.Scan

/-!
# Later entries of a header

What is put after a comma at the end of a header does not take back what the header
accepts.  The texts that are looked for have no comma in them, and neither has the quality
that refuses a type; so no text is found across the comma, none is found earlier than
before, and what is behind the first one refuses it as before or not at all.

Headers of one name are joined with commas.  A connection that sends a further header of
accepted types therefore has all types accepted that were accepted without it.

## Main results

* `afterRange?_append_cons` — a range is found in front of the comma or not at all.
* `acceptsMediaType_append_cons` — the first range in front of the comma tells the verdict.
* `accepts_foldl_addHeader` — more headers leave what is accepted under a name.
* `accepts_append` — **what a header accepts it accepts with more entries behind it.**
-/

namespace RouteMatch

namespace Negotiation

open Text

/-! ### One type -/

/-- A range is found in front of the comma or not at all. -/
theorem afterRange?_append_cons {main sub : List Char} (hmain : ',' ∉ main) (hsub : ',' ∉ sub)
    (text more : List Char) :
    afterRange? main sub (text ++ ',' :: more)
      = (afterRange? main sub text).map (· ++ ',' :: more) := by
  have hexact : ',' ∉ main ++ '/' :: sub := by simp [hmain, hsub]
  have hwide : ',' ∉ main ++ ['/', '*'] := by simp [hmain]
  unfold afterRange?
  simp only [prefix_append_cons_iff hexact, prefix_append_cons_iff hwide]
  by_cases h : main ++ '/' :: sub <+: text
  · have hle : main.length + (sub.length + 1) ≤ text.length := by simpa using h.length_le
    rw [if_pos h, if_pos h, List.drop_append_of_le_length hle, Option.map_some]
  · rw [if_neg h, if_neg h]
    by_cases h' : main ++ ['/', '*'] <+: text
    · have hle : main.length + 2 ≤ text.length := by simpa using h'.length_le
      rw [if_pos h', if_pos h', List.drop_append_of_le_length hle, Option.map_some]
    · rw [if_neg h', if_neg h', Option.map_none]

/-- A range that is found in a text is found there in front of the comma. -/
theorem findSome?_tails_append_cons {main sub : List Char} (hmain : ',' ∉ main) (hsub : ',' ∉ sub)
    {text after : List Char} (h : text.tails.findSome? (afterRange? main sub) = some after)
    (more : List Char) :
    (text ++ ',' :: more).tails.findSome? (afterRange? main sub)
      = some (after ++ ',' :: more) := by
  induction text with
  | nil =>
    have hfront : afterRange? main sub [] = some after := by simpa using h
    refine findSome?_tails_of_afterRange? ?_
    rw [afterRange?_append_cons hmain hsub, hfront, Option.map_some]
  | cons c text ih =>
    rw [List.tails_cons, List.findSome?_cons] at h
    cases hfront : afterRange? main sub (c :: text) with
    | some found =>
      obtain rfl : found = after := by simpa [hfront] using h
      refine findSome?_tails_of_afterRange? ?_
      rw [afterRange?_append_cons hmain hsub, hfront, Option.map_some]
    | none =>
      -- No range comes to stand here, so the search goes on with the rest of the text.
      have hrest : text.tails.findSome? (afterRange? main sub) = some after := by
        simpa [hfront] using h
      have hnone : afterRange? main sub (c :: (text ++ ',' :: more)) = none := by
        rw [← List.cons_append, afterRange?_append_cons hmain hsub, hfront, Option.map_none]
      rw [List.cons_append, List.tails_cons, List.findSome?_cons, hnone]
      exact ih hrest

/-- The parts of a media type have no character that the type does not have. -/
theorem notMem_mainType_subtype {mediaType : List Char} (h : ',' ∉ mediaType) :
    ',' ∉ mainType mediaType ∧ ',' ∉ subtype mediaType := by
  constructor
  · intro hmem
    exact h ((List.takeWhile_prefix _).subset hmem)
  · intro hmem
    exact h ((List.dropWhile_suffix _).subset (List.mem_of_mem_tail hmem))

/-- **The first range in front of the comma tells the verdict.** -/
theorem acceptsMediaType_append_cons {mediaType : List Char} (hcomma : ',' ∉ mediaType)
    {header : List Char} (h : acceptsMediaType mediaType header = true) (more : List Char) :
    acceptsMediaType mediaType (header ++ ',' :: more) = true := by
  obtain ⟨hmain, hsub⟩ := notMem_mainType_subtype hcomma
  rw [acceptsMediaType_eq (partition_eq mediaType), Option.any_eq_true] at h ⊢
  obtain ⟨after, hfound, hverdict⟩ := h
  refine ⟨after ++ ',' :: more, findSome?_tails_append_cons hmain hsub hfound more, ?_⟩
  have hrefusal : ',' ∉ refusal := by decide
  simpa [prefix_append_cons_iff hrefusal] using hverdict

/-! ### Several types -/

/-- A comma stays where it is when white space is deleted. -/
theorem compact_append_comma (header more : List Char) :
    compact (header ++ ',' :: more) = compact header ++ ',' :: compact more := by
  rw [compact_append]
  rfl

/-- What a header accepts it accepts with more entries behind it. -/
theorem accepts_append_comma {mediaTypes : List (List Char)}
    (hcomma : ∀ mediaType ∈ mediaTypes, ',' ∉ mediaType) {header : List Char}
    (h : accepts mediaTypes (some header) = true) (more : List Char) :
    accepts mediaTypes (some (header ++ ',' :: more)) = true := by
  unfold accepts at h ⊢
  simp only [Bool.or_eq_true, List.any_eq_true, compact_append_comma] at h ⊢
  rcases h with (hempty | hany) | ⟨mediaType, hmem, haccepts⟩
  · exact Or.inl (Or.inl hempty)
  · refine Or.inl (Or.inr (occursIn_iff.mpr ?_))
    exact (occursIn_iff.mp hany).trans (List.prefix_append _ _).isInfix
  · exact Or.inr ⟨mediaType, hmem, acceptsMediaType_append_cons (hcomma mediaType hmem) haccepts _⟩

end Negotiation

/-! ### Headers of a connection -/

namespace Scope

open Negotiation

variable {mediaTypes : List (List Char)} (hcomma : ∀ mediaType ∈ mediaTypes, ',' ∉ mediaType)

include hcomma

/-- One more header leaves what is accepted under a name. -/
theorem accepts_addHeader {name : List Char} {headers : Entries (List Char) (List Char)}
    (h : ∃ value, headers.get? name = some value ∧ accepts mediaTypes (some value) = true)
    (header : List Char × List Char) :
    ∃ value, (addHeader headers header).get? name = some value ∧
      accepts mediaTypes (some value) = true := by
  obtain ⟨value, hget, haccepts⟩ := h
  rw [get?_addHeader, hget]
  by_cases hname : headerName header = name
  · exact ⟨value ++ ',' :: header.2, if_pos hname, accepts_append_comma hcomma haccepts _⟩
  · exact ⟨value, if_neg hname, haccepts⟩

/-- Any number of headers leave what is accepted under a name. -/
theorem accepts_foldl_addHeader {name : List Char} (later : List (List Char × List Char))
    {headers : Entries (List Char) (List Char)}
    (h : ∃ value, headers.get? name = some value ∧ accepts mediaTypes (some value) = true) :
    ∃ value, (later.foldl addHeader headers).get? name = some value ∧
      accepts mediaTypes (some value) = true := by
  induction later generalizing headers with
  | nil => exact h
  | cons header later ih => exact ih (accepts_addHeader hcomma h header)

end Scope

namespace Attributes

open Scope Negotiation

/-- The types that are accepted stand in the headers of their name. -/
theorem accept_eq_text_iff {s : Scope} {a : Attributes} (h : ofScope s = .ok a)
    {value : List Char} :
    a.accept = .text (String.ofList value)
      ↔ (headerValues s.headers).get? "accept".toList = some value := by
  obtain ⟨port, protocol, server, text, client, -, -, rfl⟩ := ofScope_eq_ok h
  cases (headerValues s.headers).get? "accept".toList with
  | none => simp
  | some joined => simp [String.ofList_inj]

/-- Whether a scope has attributes does not depend on its headers. -/
theorem exists_ofScope_of_headers {s : Scope} {a : Attributes} (h : ofScope s = .ok a)
    (headers : List (List Char × List Char)) :
    ∃ a', ofScope { s with headers := headers } = .ok a' := by
  have hsame := sameConnection_ofScope s s.headers headers
  rw [h] at hsame
  cases hother : ofScope { s with headers := headers } with
  | error why =>
    rw [hother] at hsame
    nomatch hsame
  | ok a' => exact ⟨a', rfl⟩

end Attributes

/-- **What a header accepts it accepts with more entries behind it.**  Types without a comma
that a header accepts are accepted by the header with a comma and any text behind it.  So a
connection whose headers accept one of the types still has attributes with any further headers,
and accepts one of the types by them. -/
theorem Negotiation.accepts_append {mediaTypes : List (List Char)}
    (hcomma : ∀ mediaType ∈ mediaTypes, ',' ∉ mediaType) :
    (∀ header more, accepts mediaTypes (some header) = true →
        accepts mediaTypes (some (header ++ ',' :: more)) = true) ∧
      ∀ (s : Scope) (a : Attributes) (value : List Char) (later : List (List Char × List Char)),
        Attributes.ofScope s = .ok a → a.accept = .text (String.ofList value) →
        accepts mediaTypes (some value) = true →
          ∃ a' value', Attributes.ofScope { s with headers := s.headers ++ later } = .ok a' ∧
            a'.accept = .text (String.ofList value') ∧
            accepts mediaTypes (some value') = true := by
  refine ⟨fun header more h => accepts_append_comma hcomma h more, ?_⟩
  intro s a value later hscope haccept haccepts
  obtain ⟨a', hscope'⟩ := Attributes.exists_ofScope_of_headers hscope (s.headers ++ later)
  have hget := (Attributes.accept_eq_text_iff hscope).mp haccept
  obtain ⟨value', hget', haccepts'⟩ :=
    Scope.accepts_foldl_addHeader hcomma later ⟨value, hget, haccepts⟩
  have hjoined : (Scope.headerValues (s.headers ++ later)).get? "accept".toList = some value' := by
    rw [Scope.headerValues, List.foldl_append]
    exact hget'
  exact ⟨a', value', hscope', (Attributes.accept_eq_text_iff hscope').mpr hjoined, haccepts'⟩

/-- A scope with one header of accepted types. -/
def acceptScope : Scope where
  headers := [("Accept".toList, "text/html;q=0.1".toList)]
  query := []
  entries := []

/-- Qualities that refuse the types stay without effect behind one that does not. -/
theorem Negotiation.accepts_append_acceptScope :
    (∀ mediaType ∈ ["text/html".toList], ',' ∉ mediaType) ∧
      accepts ["text/html".toList] (some "text/html;q=0.1".toList) = true ∧
      accepts ["text/html".toList]
        (some ("text/html;q=0.1".toList ++ ',' :: "text/html;q=0.0".toList)) = true ∧
      ∃ a' value', Attributes.ofScope { acceptScope with
            headers := acceptScope.headers ++ [("ACCEPT".toList, "text/*;q=0.0".toList)] } = .ok a' ∧
        a'.accept = .text (String.ofList value') ∧
        accepts ["text/html".toList] (some value') = true := by
  have hcomma : ∀ mediaType ∈ ["text/html".toList], ',' ∉ mediaType := by
    intro mediaType hmem
    rw [List.mem_singleton.mp hmem]
    decide
  have hfirst : accepts ["text/html".toList] (some "text/html;q=0.1".toList) = true := by
    decide +kernel
  obtain ⟨a, hscope, haccept⟩ : ∃ a, Attributes.ofScope acceptScope = .ok a ∧
      a.accept = .text (String.ofList "text/html;q=0.1".toList) := ⟨_, rfl, rfl⟩
  obtain ⟨hentry, hheaders⟩ := accepts_append hcomma
  exact ⟨hcomma, hfirst, hentry _ _ hfirst, hheaders acceptScope a _ _ hscope haccept hfirst⟩

end RouteMatch
