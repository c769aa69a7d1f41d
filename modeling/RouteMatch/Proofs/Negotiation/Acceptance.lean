import RouteMatch.Proofs.Negotiation.Search
import RouteMatch.Route

/-!
# What a header accepts and refuses

A header that consists of one media type with a quality refuses this type if the quality
begins as `0.0`, whatever digits follow; a quality of any other spelling accepts it.

A header that accepts one of several media types holds the range of all types, or one of
these types or the range of its subtypes, without the refusing quality right behind.  It
may hold it within a longer name or in a parameter: its entries are not told apart.

## Main definitions

* `withQuality` — a media type with a quality.
* `ranges` — the media ranges that stand for a media type.
* `Names` — an entry of a header is for a media type.

## Main results

* `accepts_withQuality` — the verdict of a header with one type and a quality.
* `refuses_withQuality_iff` — **a quality refuses the type exactly if it begins as `0.0`.**
* `exists_range_of_accepts` — **a header that accepts some types holds a media range of one
  of them.**
-/

namespace RouteMatch.Negotiation

open Text

/-! ### Media types -/

/-- The parts of a media type. -/
theorem exists_partition_of_isMediaType {mediaType : List Char}
    (h : Route.isMediaType mediaType = true) :
    ∃ main sub, mediaType = main ++ '/' :: sub ∧ partition mediaType = (main, sub) := by
  unfold Route.isMediaType at h
  cases hcut : cut? '/' mediaType with
  | none =>
    rw [hcut] at h
    exact absurd h (by simp)
  | some parts =>
    obtain ⟨main, sub⟩ := parts
    exact ⟨main, sub, (cut?_eq_some_iff.mp hcut).1, by rw [partition, hcut]; rfl⟩

/-- The media ranges that stand for a media type: the type itself, and that of all subtypes
of its main type. -/
def ranges (mediaType : List Char) : List (List Char) :=
  [mediaType, (partition mediaType).1 ++ ['/', '*']]

/-- A comma in a media range is one in the type. -/
theorem comma_notMem_of_mem_ranges {mediaType range : List Char}
    (hmedia : Route.isMediaType mediaType = true) (hcomma : ',' ∉ mediaType)
    (h : range ∈ ranges mediaType) : ',' ∉ range := by
  obtain ⟨main, sub, rfl, hpartition⟩ := exists_partition_of_isMediaType hmedia
  simp only [ranges, hpartition, List.mem_cons, List.not_mem_nil, or_false] at h
  simp only [List.mem_append, not_or] at hcomma
  rcases h with rfl | rfl
  · simpa using hcomma
  · simpa using hcomma.1

/-- A text without white space stays as it is. -/
theorem compact_eq_self {header : List Char}
    (h : ∀ c ∈ header, Unicode.isSpace c.toNat = false) : compact header = header :=
  List.filter_eq_self.mpr fun c hc => by simp [h c hc]

theorem isSpace_of_isDecimal {c : Char} (h : isDecimal c = true) :
    Unicode.isSpace c.toNat = false := by
  simp only [isDecimal, Unicode.isAsciiDigit, Bool.and_eq_true, decide_eq_true_eq] at h
  simp only [Unicode.isSpace, Bool.or_eq_false_iff, Bool.and_eq_false_iff,
    decide_eq_false_iff_not, beq_eq_false_iff_ne]
  omega

/-! ### One type with a quality -/

/-- A media type with a quality. -/
def withQuality (mediaType quality : List Char) : List Char :=
  mediaType ++ (";q=".toList ++ quality)

theorem acceptsMediaType_withQuality {mediaType : List Char}
    (hmedia : Route.isMediaType mediaType = true) (quality : List Char) :
    acceptsMediaType mediaType (withQuality mediaType quality)
      = decide (¬ refusedQuality <+: quality) := by
  obtain ⟨main, sub, rfl, hpartition⟩ := exists_partition_of_isMediaType hmedia
  -- The type stands at the very front, so nothing else is searched.
  have hfind : (withQuality (main ++ '/' :: sub) quality).tails.findSome? (afterRange? main sub)
      = some (";q=".toList ++ quality) :=
    findSome?_tails_of_afterRange? (afterRange?_append main sub _)
  rw [acceptsMediaType_eq hpartition, hfind, Option.any_some]
  exact decide_eq_decide.mpr (not_congr (List.prefix_append_right_inj ";q=".toList))

/-- The verdict of a header that consists of one type with a quality. -/
theorem accepts_withQuality {mediaType quality : List Char}
    (hmedia : Route.isMediaType mediaType = true)
    (h : ∀ c ∈ mediaType ++ quality, Unicode.isSpace c.toNat = false ∧ c ≠ '*') :
    accepts [mediaType] (some (withQuality mediaType quality))
      = decide (¬ refusedQuality <+: quality) := by
  have hplain : ∀ c ∈ withQuality mediaType quality, Unicode.isSpace c.toNat = false ∧ c ≠ '*' := by
    intro c hc
    simp only [withQuality, List.mem_append] at h hc
    rcases hc with hc | hc | hc
    · exact h c (Or.inl hc)
    · have hsign : (";q=".toList.all fun c => Unicode.isSpace c.toNat = false ∧ c ≠ '*') = true := by
        decide
      exact of_decide_eq_true (List.all_eq_true.mp hsign c hc)
    · exact h c (Or.inr hc)
  have hany : occursIn anyRange (withQuality mediaType quality) = false := by
    rw [Bool.eq_false_iff, ne_eq, occursIn_iff]
    exact fun hsub => (hplain '*' (hsub.subset (by decide))).2 rfl
  rw [accepts, compact_eq_self fun c hc => (hplain c hc).1]
  simp [hany, acceptsMediaType_withQuality hmedia]

/-- **A quality refuses the type exactly if it begins as `0.0`.** -/
theorem refuses_withQuality_iff {mediaType quality : List Char}
    (hmedia : Route.isMediaType mediaType = true)
    (hplain : ∀ c ∈ mediaType, Unicode.isSpace c.toNat = false ∧ c ≠ '*')
    (hquality : ∀ c ∈ quality, isDecimal c = true ∨ c = '.') :
    accepts [mediaType] (some (withQuality mediaType quality)) = false
      ↔ refusedQuality <+: quality := by
  rw [accepts_withQuality hmedia, decide_eq_false_iff_not, not_not]
  intro c hc
  rcases List.mem_append.mp hc with hc | hc
  · exact hplain c hc
  · rcases hquality c hc with hdigit | rfl
    · refine ⟨isSpace_of_isDecimal hdigit, ?_⟩
      rintro rfl
      exact absurd hdigit (by decide)
    · exact ⟨by decide, by decide⟩

theorem refuses_withQuality_iff_html :
    Route.isMediaType "text/html".toList = true ∧
      accepts ["text/html".toList] (some (withQuality "text/html".toList "0.05".toList)) = false ∧
      accepts ["text/html".toList] (some (withQuality "text/html".toList "0".toList)) = true := by
  have hmedia : Route.isMediaType "text/html".toList = true := by decide
  have hplain : ∀ c ∈ "text/html".toList, Unicode.isSpace c.toNat = false ∧ c ≠ '*' := by
    have hall : ("text/html".toList.all fun c => Unicode.isSpace c.toNat = false ∧ c ≠ '*') = true := by
      decide
    exact fun c hc => of_decide_eq_true (List.all_eq_true.mp hall c hc)
  have hdigits : ∀ quality ∈ ["0.05".toList, "0".toList],
      ∀ c ∈ quality, isDecimal c = true ∨ c = '.' := by
    have hall : (["0.05".toList, "0".toList].all fun quality =>
        quality.all fun c => isDecimal c = true ∨ c = '.') = true := by decide
    exact fun quality hquality c hc =>
      of_decide_eq_true (List.all_eq_true.mp (List.all_eq_true.mp hall quality hquality) c hc)
  have hlong := refuses_withQuality_iff hmedia hplain (hdigits "0.05".toList (by simp))
  have hshort := refuses_withQuality_iff hmedia hplain (hdigits "0".toList (by simp))
  refine ⟨hmedia, hlong.mpr (by decide), ?_⟩
  rw [← Bool.not_eq_false, hshort]
  decide

/-- A quality that is not zero refuses a type. -/
theorem not_refuses_withQuality_html :
    ¬(accepts ["text/html".toList] (some (withQuality "text/html".toList "0.05".toList)) = false
      ↔ "0.05".toList = refusedQuality) := by
  decide +kernel

/-! ### Several types -/

/-- An entry of a header is for a media type: the text before its first semicolon is the
range of all types, or a range of this type. -/
def Names (entry mediaType : List Char) : Prop :=
  entry.takeWhile (· ≠ ';') = anyRange ∨ entry.takeWhile (· ≠ ';') ∈ ranges mediaType

instance (entry mediaType : List Char) : Decidable (Names entry mediaType) :=
  inferInstanceAs (Decidable (_ ∨ _))

/-- A type that is accepted has a range in the header, without the refusal behind it. -/
theorem exists_range_of_acceptsMediaType {mediaType header : List Char}
    (hmedia : Route.isMediaType mediaType = true)
    (h : acceptsMediaType mediaType header = true) :
    ∃ range ∈ ranges mediaType, ∃ before after,
      header = before ++ range ++ after ∧ ¬ refusal <+: after := by
  obtain ⟨main, sub, rfl, hpartition⟩ := exists_partition_of_isMediaType hmedia
  rw [acceptsMediaType_eq hpartition, Option.any_eq_true] at h
  obtain ⟨after, hfind, hafter⟩ := h
  obtain ⟨tail, htail, hrange⟩ := List.exists_of_findSome?_eq_some hfind
  obtain ⟨before, rfl⟩ := (List.mem_tails _ _).mp htail
  have hrefusal := of_decide_eq_true hafter
  rcases eq_append_of_afterRange? hrange with rfl | rfl
  · exact ⟨main ++ '/' :: sub, by simp [ranges], before, after, by simp, hrefusal⟩
  · exact ⟨main ++ ['/', '*'], by simp [ranges, hpartition], before, after, by simp, hrefusal⟩

/-- **A header that accepts some types holds a media range of one of them.**  Without its
white space the header holds the range of all types in one of its entries, or else a range
of one of the types that is not refused right behind it; this range lies within an entry
unless the type itself has a comma. -/
theorem exists_range_of_accepts {mediaTypes : List (List Char)} (hne : mediaTypes ≠ [])
    (hmedia : ∀ mediaType ∈ mediaTypes, Route.isMediaType mediaType = true) {header : List Char}
    (h : accepts mediaTypes (some header) = true) :
    (∃ entry ∈ split ',' (compact header), anyRange <:+: entry) ∨
      ∃ mediaType ∈ mediaTypes, ∃ range ∈ ranges mediaType,
        (∃ before after, compact header = before ++ range ++ after ∧ ¬ refusal <+: after) ∧
        (',' ∉ mediaType → ∃ entry ∈ split ',' (compact header), range <:+: entry) := by
  simp only [accepts, Bool.or_eq_true, List.isEmpty_iff, hne, false_or, List.any_eq_true] at h
  rcases h with hany | ⟨mediaType, hmem, haccepts⟩
  · exact Or.inl (exists_mem_split_of_occurs (by decide) (occursIn_iff.mp hany))
  · have hvalid := hmedia mediaType hmem
    obtain ⟨range, hrange, before, after, heq, hafter⟩ :=
      exists_range_of_acceptsMediaType hvalid haccepts
    refine Or.inr ⟨mediaType, hmem, range, hrange, ⟨before, after, heq, hafter⟩, fun hcomma => ?_⟩
    exact exists_mem_split_of_occurs (comma_notMem_of_mem_ranges hvalid hcomma hrange)
      ⟨before, after, heq.symm⟩

theorem exists_range_of_accepts_xml :
    accepts ["image/png".toList, "application/xml".toList]
        (some "text/html, application/xml-dtd;q=0.5".toList) = true ∧
      ∃ mediaType ∈ ["image/png".toList, "application/xml".toList], ∃ range ∈ ranges mediaType,
        range <:+: "text/html,application/xml-dtd;q=0.5".toList := by
  have haccepts : accepts ["image/png".toList, "application/xml".toList]
      (some "text/html, application/xml-dtd;q=0.5".toList) = true := by decide +kernel
  have hcompact : compact "text/html, application/xml-dtd;q=0.5".toList
      = "text/html,application/xml-dtd;q=0.5".toList := by decide +kernel
  have hentries : ¬ ∃ entry ∈ split ',' (compact "text/html, application/xml-dtd;q=0.5".toList),
      anyRange <:+: entry := by
    rw [hcompact]
    decide +kernel
  refine ⟨haccepts, ?_⟩
  rcases exists_range_of_accepts (by simp) (by decide +kernel) haccepts with hany | hrange
  · exact absurd hany hentries
  · obtain ⟨mediaType, hmem, range, hmem', ⟨before, after, heq, -⟩, -⟩ := hrange
    exact ⟨mediaType, hmem, range, hmem', before, after, hcompact ▸ heq.symm⟩

/-- A type is accepted by an entry with a longer name. -/
theorem not_names_of_accepts_xml :
    ¬(accepts ["application/xml".toList] (some "application/xml-dtd".toList) = true →
      ∃ entry ∈ split ',' (compact "application/xml-dtd".toList),
        ∃ mediaType ∈ ["application/xml".toList], Names entry mediaType) := by
  decide +kernel

end RouteMatch.Negotiation
