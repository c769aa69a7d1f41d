import Mathlib.Data.Nat.Find
import RouteMatch.Proofs.Template.Placeholders
import RouteMatch.Proofs.Template.StrayBraces

/-!
# The first optional group of any text

The optional group is the first thing in a template that is rewritten, and the rewriting
takes any text: braces may stand alone in it, and the names in a group may be no names.  It
looks for the first place at which a group begins, that is a slash and one or more characters
in braces, none of them a brace.  What stands around this group is kept, and the group becomes
groups inside one another, one for each of the texts between its commas.

Whether the group is at the front is not told by its place but by the first two characters of
the text.  A brace and a slash there may belong to no group; one that stands further on is then
written like one at the front.

## Main definitions

* `HasGroup`, `IsFirstGroup` — a text with an optional group, and what stands around the first
  one.
* `nestedText` — groups for several names, each inside the one before.
* `ExpandsTo` — what becomes of a text when its first optional group is written with tokens.

## Main results

* `hasGroup_iff` — a text has an optional group exactly if one of its pieces is one.
* `IsFirstGroup.unique`, `ExpandsTo.unique` — a text has one first group, and becomes one text.
* `expandOptional_eq_iff` — **what the optional group of any text is rewritten to.**
* `expandsTo_of_closed` — in a valid template without stray braces the place of the group tells
  how it is written.
-/

namespace RouteMatch.Template

open Text

/-! ### Optional groups in a text -/

/-- The text of an optional group, from what it lists. -/
def marker (list : List Char) : List Char :=
  '{' :: '/' :: list ++ ['}']

/-- What an optional group can list: a text without braces, if it is not empty. -/
def IsListing (list : List Char) : Prop :=
  list ≠ [] ∧ '{' ∉ list ∧ '}' ∉ list

/-- A text begins with an optional group. -/
def BeginsWithGroup (text : List Char) : Prop :=
  ∃ list, IsListing list ∧ marker list <+: text

/-- An optional group stands in a text. -/
def HasGroup (text : List Char) : Prop :=
  ∃ list, IsListing list ∧ marker list <:+: text

/-- The first optional group of a text, with the texts before and after it. -/
structure IsFirstGroup (text before list after : List Char) : Prop where
  text_eq : text = before ++ marker list ++ after
  isListing : IsListing list
  /-- No optional group begins at an earlier place. -/
  first : ∀ place < before.length, ¬BeginsWithGroup (text.drop place)

/-- Whether braces are an optional group, going by the text between them. -/
def isGroupInner : List Char → Bool
  | '/' :: _ :: _ => true
  | _ => false

theorem isGroupInner_iff {inner : List Char} :
    isGroupInner inner = true ↔ ∃ list, list ≠ [] ∧ inner = '/' :: list := by
  unfold isGroupInner
  split
  · next c list => exact iff_of_true rfl ⟨c :: list, List.cons_ne_nil c list, rfl⟩
  · next hother =>
    refine iff_of_false (by decide) ?_
    rintro ⟨list, hne, rfl⟩
    obtain ⟨c, rest, rfl⟩ := List.exists_cons_of_ne_nil hne
    exact hother c rest rfl

/-- An optional group at the front of a text is the placeholder that stands there. -/
theorem placeholderAt?_slash_iff {text list : List Char} :
    placeholderAt? text = some ('/' :: list) ↔
      ('{' ∉ list ∧ '}' ∉ list) ∧ marker list <+: text := by
  have hopen : '{' ∉ '/' :: list ↔ '{' ∉ list := by simp
  have hclose : '}' ∉ '/' :: list ↔ '}' ∉ list := by simp
  rw [placeholderAt?_eq_some_iff, hopen, hclose]
  rfl

theorem beginsWithGroup_iff {text : List Char} :
    BeginsWithGroup text ↔ ∃ inner, placeholderAt? text = some inner ∧ isGroupInner inner = true := by
  constructor
  · rintro ⟨list, ⟨hne, hbraces⟩, hprefix⟩
    exact ⟨'/' :: list, placeholderAt?_slash_iff.mpr ⟨hbraces, hprefix⟩,
      isGroupInner_iff.mpr ⟨list, hne, rfl⟩⟩
  · rintro ⟨inner, hinner, hgroup⟩
    obtain ⟨list, hne, rfl⟩ := isGroupInner_iff.mp hgroup
    obtain ⟨hbraces, hprefix⟩ := placeholderAt?_slash_iff.mp hinner
    exact ⟨list, ⟨hne, hbraces⟩, hprefix⟩

instance (text : List Char) : Decidable (BeginsWithGroup text) :=
  decidable_of_iff ((placeholderAt? text).any isGroupInner = true) <| by
    rw [Option.any_eq_true, beginsWithGroup_iff]

theorem hasGroup_iff_suffix {text : List Char} :
    HasGroup text ↔ ∃ rest, rest <:+ text ∧ BeginsWithGroup rest := by
  constructor
  · rintro ⟨list, hlist, hinfix⟩
    obtain ⟨rest, hprefix, hsuffix⟩ := List.infix_iff_prefix_suffix.mp hinfix
    exact ⟨rest, hsuffix, list, hlist, hprefix⟩
  · rintro ⟨rest, hsuffix, list, hlist, hprefix⟩
    exact ⟨list, hlist, List.infix_iff_prefix_suffix.mpr ⟨rest, hprefix, hsuffix⟩⟩

/-- Whether a piece is an optional group. -/
def Piece.isGroup : Piece → Bool
  | .char _ => false
  | .braces inner => isGroupInner inner

/-- **A text has an optional group exactly if one of its pieces is one.** -/
theorem hasGroup_iff {text : List Char} :
    HasGroup text ↔ ∃ p ∈ pieces text, p.isGroup = true := by
  rw [hasGroup_iff_suffix]
  constructor
  · rintro ⟨rest, hsuffix, hbegins⟩
    obtain ⟨inner, hinner, hgroup⟩ := beginsWithGroup_iff.mp hbegins
    have hmem : inner ∈ placeholders text := by
      rw [placeholders_eq]
      exact List.mem_filterMap.mpr ⟨rest, (List.mem_tails rest text).mpr hsuffix, hinner⟩
    exact ⟨.braces inner, mem_placeholders.mp hmem, hgroup⟩
  · rintro ⟨p, hp, hgroup⟩
    cases p with
    | char c => exact absurd hgroup (by simp [Piece.isGroup])
    | braces inner =>
      have hmem : inner ∈ placeholders text := mem_placeholders.mpr hp
      rw [placeholders_eq] at hmem
      obtain ⟨rest, hrest, hinner⟩ := List.mem_filterMap.mp hmem
      exact ⟨rest, (List.mem_tails rest text).mp hrest,
        beginsWithGroup_iff.mpr ⟨inner, hinner, hgroup⟩⟩

/-! ### The first one -/

/-- The first optional group begins at the least of the places where one begins. -/
theorem exists_isFirstGroup {text : List Char} (h : HasGroup text) :
    ∃ before list after, IsFirstGroup text before list after := by
  have hplace : ∃ place, BeginsWithGroup (text.drop place) := by
    obtain ⟨rest, ⟨front, rfl⟩, hbegins⟩ := hasGroup_iff_suffix.mp h
    exact ⟨front.length, by rwa [List.drop_left]⟩
  obtain ⟨list, hlist, after, hafter⟩ := Nat.find_spec hplace
  refine ⟨text.take (Nat.find hplace), list, after, ?_, hlist, fun place hlt => ?_⟩
  · rw [List.append_assoc, hafter, List.take_append_drop]
  · refine Nat.find_min hplace (Nat.lt_of_lt_of_le hlt ?_)
    exact List.length_take_le _ _

namespace IsFirstGroup

variable {text before list after : List Char} (h : IsFirstGroup text before list after)

include h

theorem hasGroup : HasGroup text :=
  ⟨list, h.isListing, before, after, h.text_eq.symm⟩

theorem drop_text : text.drop before.length = marker list ++ after := by
  rw [h.text_eq, List.append_assoc, List.drop_left]

theorem beginsWithGroup_drop : BeginsWithGroup (text.drop before.length) :=
  ⟨list, h.isListing, after, h.drop_text.symm⟩

/-- No optional group stands before the first one. -/
theorem not_hasGroup_before : ¬HasGroup before := by
  intro hgroup
  obtain ⟨rest, ⟨front, hfront⟩, found, hfound, hprefix⟩ := hasGroup_iff_suffix.mp hgroup
  -- A group that stands there begins at an earlier place of the whole text.
  have hplace : front.length < before.length := by
    have hlength := hprefix.length_le
    rw [marker, List.length_append, List.length_cons] at hlength
    rw [← hfront, List.length_append]
    omega
  refine h.first front.length hplace ⟨found, hfound, ?_⟩
  rw [h.text_eq, ← hfront, List.append_assoc, List.append_assoc, List.drop_left]
  exact hprefix.trans (List.prefix_append rest _)

/-- The first optional group is a piece, and cuts the text in two. -/
theorem pieces_eq : pieces text = pieces before ++ .braces ('/' :: list) :: pieces after := by
  obtain ⟨-, hopen, hclose⟩ := h.isListing
  have htext : text = before ++ '{' :: ('/' :: list ++ '}' :: after) := by
    rw [h.text_eq]
    simp [marker]
  rw [htext]
  exact piecesFrom_append_braces (by simpa using hopen) (by simpa using hclose) none before after

theorem length_le {before' list' after' : List Char}
    (h' : IsFirstGroup text before' list' after') : before.length ≤ before'.length := by
  by_contra hlt
  exact h.first before'.length (by omega) h'.beginsWithGroup_drop

/-- A text has one first optional group. -/
theorem unique {before' list' after' : List Char}
    (h' : IsFirstGroup text before' list' after') :
    before = before' ∧ list = list' ∧ after = after' := by
  have hlength : before.length = before'.length := Nat.le_antisymm (h.length_le h') (h'.length_le h)
  have htexts : before ++ (marker list ++ after) = before' ++ (marker list' ++ after') := by
    rw [← List.append_assoc, ← h.text_eq, ← List.append_assoc, ← h'.text_eq]
  obtain ⟨hbefore, hrest⟩ := List.append_inj htexts hlength
  -- The braces at the front of what follows hold both lists.
  have hlist : list = list' := by
    have hleft := placeholderAt?_slash_iff.mpr ⟨h.isListing.2, List.prefix_append _ after⟩
    have hright := placeholderAt?_slash_iff.mpr ⟨h'.isListing.2, List.prefix_append _ after'⟩
    rw [hrest, hright] at hleft
    exact (List.cons.inj (Option.some.inj hleft)).2.symm
  refine ⟨hbefore, hlist, ?_⟩
  rw [hlist] at hrest
  exact List.append_cancel_left hrest

/-- A text begins as an optional group does if its first one is at the front, or if the text
before that one begins so. -/
theorem opensGroup_iff : opensGroup text = true ↔ before = [] ∨ opensGroup before = true := by
  rw [h.text_eq]
  match before with
  | [] => simp [opensGroup, marker, List.isPrefixOf]
  | [c] => simp [opensGroup, marker, List.isPrefixOf]
  | c :: d :: rest => simp [opensGroup, List.isPrefixOf]

end IsFirstGroup

/-! ### Writing it with tokens -/

/-- Groups for several names, each inside the one before: they begin one after another, and
all of them end at the end. -/
def nestedText (names : List (List Char)) : List Char :=
  (names.flatMap fun name => "(/".toList ++ (Piece.braces name).render)
    ++ (List.replicate names.length ")?".toList).flatten

theorem chain_eq_nestedText (names : List (List Char)) : chain names = nestedText names := by
  induction names with
  | nil => rfl
  | cons name rest ih =>
    rw [chain, ih, nestedText, nestedText, List.length_cons, List.replicate_succ',
      List.flatten_concat, List.flatMap_cons]
    simp only [List.append_assoc]

/-- What becomes of a text when its first optional group is written with tokens.  The texts
between the commas of the group are its names.  Whether the group is at the front is told
from the text before it. -/
inductive ExpandsTo (isFront : List Char → Prop) (text : List Char) : List Char → Prop
  /-- There is no optional group, and nothing changes. -/
  | unchanged (hnone : ¬HasGroup text) : ExpandsTo isFront text text
  /-- The groups for the names stand inside one another. -/
  | nested {before list after : List Char} (hfirst : IsFirstGroup text before list after)
      (hfront : ¬isFront before) :
      ExpandsTo isFront text (before ++ nestedText (split ',' list) ++ after)
  /-- The first name follows a slash of its own, and the groups for the others come next. -/
  | leading {before list after name : List Char} {names : List (List Char)}
      (hfirst : IsFirstGroup text before list after) (hnames : split ',' list = name :: names)
      (hfront : isFront before) :
      ExpandsTo isFront text
        (before ++ ("/(".toList ++ (Piece.braces name).render ++ ")?".toList ++ nestedText names)
          ++ after)

/-- A text becomes one text. -/
theorem ExpandsTo.unique {isFront : List Char → Prop} {text result result' : List Char}
    (h : ExpandsTo isFront text result) (h' : ExpandsTo isFront text result') :
    result = result' := by
  cases h with
  | unchanged hnone =>
    cases h' with
    | unchanged => rfl
    | nested hfirst => exact absurd hfirst.hasGroup hnone
    | leading hfirst => exact absurd hfirst.hasGroup hnone
  | nested hfirst hfront =>
    cases h' with
    | unchanged hnone => exact absurd hfirst.hasGroup hnone
    | nested hfirst' =>
      obtain ⟨rfl, rfl, rfl⟩ := hfirst.unique hfirst'
      rfl
    | leading hfirst' hnames hfront' =>
      obtain ⟨rfl, -, -⟩ := hfirst.unique hfirst'
      exact absurd hfront' hfront
  | leading hfirst hnames hfront =>
    cases h' with
    | unchanged hnone => exact absurd hfirst.hasGroup hnone
    | nested hfirst' hfront' =>
      obtain ⟨rfl, -, -⟩ := hfirst.unique hfirst'
      exact absurd hfront hfront'
    | leading hfirst' hnames' =>
      obtain ⟨rfl, rfl, rfl⟩ := hfirst.unique hfirst'
      rw [hnames] at hnames'
      obtain ⟨rfl, rfl⟩ := List.cons.inj hnames'
      rfl

theorem expandFirst_cons_of_not_isGroup {atFront : Bool} {p : Piece} (hp : p.isGroup = false)
    (rest : List Piece) :
    expandFirst atFront (p :: rest) = p.render ++ expandFirst atFront rest := by
  rw [expandFirst]
  rintro c names rfl
  exact absurd hp (by simp [Piece.isGroup, isGroupInner])

/-- Pieces up to an optional group are passed over. -/
theorem expandFirst_append {atFront : Bool} {ps : List Piece} (h : ∀ p ∈ ps, p.isGroup = false)
    (qs : List Piece) : expandFirst atFront (ps ++ qs) = render ps ++ expandFirst atFront qs := by
  induction ps with
  | nil => rfl
  | cons p ps ih =>
    have hp := h p List.mem_cons_self
    have ih := ih fun q hq => h q (List.mem_cons_of_mem _ hq)
    rw [List.cons_append, expandFirst_cons_of_not_isGroup hp, ih, render_cons, List.append_assoc]

theorem isGroup_eq_false {text : List Char} (h : ¬HasGroup text) :
    ∀ p ∈ pieces text, p.isGroup = false := fun p hp =>
  Bool.eq_false_iff.mpr fun hgroup => h (hasGroup_iff.mpr ⟨p, hp, hgroup⟩)

/-- A text without an optional group stays as it is. -/
theorem expandOptional_of_not_hasGroup {text : List Char} (h : ¬HasGroup text) :
    expandOptional text = text := by
  calc expandOptional text
      = expandFirst (opensGroup text) (pieces text ++ []) := by
        rw [List.append_nil]
        rfl
    _ = render (pieces text) := by
        rw [expandFirst_append (isGroup_eq_false h), expandFirst, List.append_nil]
    _ = text := render_pieces text

/-- The first optional group is rewritten, and what stands around it is kept. -/
theorem IsFirstGroup.expandOptional_eq {text before list after : List Char}
    (h : IsFirstGroup text before list after) :
    expandOptional text = before ++ groupText (opensGroup text) (split ',' list) ++ after := by
  obtain ⟨c, rest, rfl⟩ := List.exists_cons_of_ne_nil h.isListing.1
  calc expandOptional text
      = expandFirst (opensGroup text)
          (pieces before ++ .braces ('/' :: c :: rest) :: pieces after) := by
        rw [← h.pieces_eq]
        rfl
    _ = render (pieces before)
          ++ (groupText (opensGroup text) (split ',' (c :: rest)) ++ render (pieces after)) := by
        rw [expandFirst_append (isGroup_eq_false h.not_hasGroup_before), expandFirst]
    _ = before ++ groupText (opensGroup text) (split ',' (c :: rest)) ++ after := by
        rw [render_pieces, render_pieces, List.append_assoc]

theorem expandsTo_expandOptional (text : List Char) :
    ExpandsTo (fun before => before = [] ∨ opensGroup before = true) text
      (expandOptional text) := by
  by_cases hgroup : HasGroup text
  · obtain ⟨before, list, after, hfirst⟩ := exists_isFirstGroup hgroup
    rw [hfirst.expandOptional_eq]
    cases hopens : opensGroup text with
    | true =>
      obtain ⟨name, names, hnames⟩ := List.exists_cons_of_ne_nil (split_ne_nil ',' list)
      rw [hnames, groupText, chain_eq_nestedText]
      exact .leading hfirst hnames (hfirst.opensGroup_iff.mp hopens)
    | false =>
      have hfront : ¬(before = [] ∨ opensGroup before = true) := fun hfront => by
        rw [hfirst.opensGroup_iff.mpr hfront] at hopens
        exact absurd hopens (by decide)
      have hgroupText : groupText false (split ',' list) = nestedText (split ',' list) :=
        chain_eq_nestedText _
      rw [hgroupText]
      exact .nested hfirst hfront
  · rw [expandOptional_of_not_hasGroup hgroup]
    exact .unchanged hgroup

/-- **What the optional group of any text is rewritten to.**  A text without an optional group
does not change.  Else the first one becomes groups inside one another, in its place; the first
name stands apart if nothing comes before the group, or if the text before it begins with a
brace and a slash as a group does. -/
theorem expandOptional_eq_iff {text result : List Char} :
    expandOptional text = result ↔
      ExpandsTo (fun before => before = [] ∨ opensGroup before = true) text result := by
  constructor
  · rintro rfl
    exact expandsTo_expandOptional text
  · intro hexpands
    exact (expandsTo_expandOptional text).unique hexpands

/-- A valid template with a brace and a slash in front of its optional group. -/
def strayTemplate : List Char :=
  "\x7b/\x7b/a\x7d".toList

/-- An optional group that does not come first can be written as if it did. -/
theorem not_expandsTo_strayTemplate :
    ¬ExpandsTo (fun before => before = []) strayTemplate (expandOptional strayTemplate) := by
  intro h
  have hfirst : IsFirstGroup strayTemplate ['{', '/'] ['a'] [] :=
    ⟨by decide, by simp [IsListing], by decide⟩
  have hnested : ExpandsTo (fun before => before = []) strayTemplate
      (['{', '/'] ++ nestedText (split ',' ['a']) ++ []) := .nested hfirst (by decide)
  exact absurd (h.unique hnested) (by decide)

/-! ### Templates without stray braces -/

/-- Two ways to tell what is at the front come to the same if they agree on the text before the
first optional group. -/
theorem ExpandsTo.congr {isFront isFront' : List Char → Prop} {text result : List Char}
    (h : ExpandsTo isFront text result)
    (hagree : ∀ before list after, IsFirstGroup text before list after →
      (isFront before ↔ isFront' before)) : ExpandsTo isFront' text result := by
  cases h with
  | unchanged hnone => exact .unchanged hnone
  | nested hfirst hfront => exact .nested hfirst (mt (hagree _ _ _ hfirst).mpr hfront)
  | leading hfirst hnames hfront =>
    exact .leading hfirst hnames ((hagree _ _ _ hfirst).mp hfront)

/-- In a valid template without stray braces only an optional group begins as one does, so that
none comes after such a text. -/
theorem IsFirstGroup.opensGroup_before {text before list after : List Char}
    (h : IsFirstGroup text before list after) (hvalid : validate text = .ok ())
    (hclosed : Closed text) : opensGroup before = false := by
  rw [Bool.eq_false_iff]
  intro hopens
  have hwell := isWellFormed_of_mem_parts hvalid hclosed
  have hhead : (parts text).head?.any Part.isGroup = true := by
    rw [← isPrefixOf_written hwell, written_parts]
    exact h.opensGroup_iff.mpr (Or.inr hopens)
  obtain ⟨p, hp, hgroup⟩ := (Option.any_eq_true _ _).mp hhead
  obtain ⟨ps, hparts⟩ := List.head?_eq_some_iff.mp hp
  have hpieces : p.piece :: ps.map Part.piece
      = pieces before ++ .braces ('/' :: list) :: pieces after := by
    rw [← h.pieces_eq, ← map_piece_parts, hparts, List.map_cons]
  -- The text before the group is not empty, so it begins with the first piece of the template.
  have hfront : p.piece ∈ pieces before := by
    cases hbefore : pieces before with
    | nil =>
      rw [← render_pieces before, hbefore] at hopens
      exact absurd hopens (by decide)
    | cons q qs =>
      rw [hbefore, List.cons_append] at hpieces
      rw [(List.cons.inj hpieces).1]
      exact List.mem_cons_self
  cases p with
  | char c => exact absurd hgroup (by simp [Part.isGroup])
  | token name => exact absurd hgroup (by simp [Part.isGroup])
  | group names =>
    have hnames : (Part.group names).isWellFormed = true :=
      hwell _ (hparts ▸ List.mem_cons_self)
    have hinner : isGroupInner ('/' :: join ',' names) = true :=
      isGroupInner_iff.mpr ⟨_, join_ne_nil_of_isWellFormed hnames, rfl⟩
    have hnone := isGroup_eq_false h.not_hasGroup_before _ hfront
    exact absurd hinner (Bool.eq_false_iff.mp hnone)

/-- **A valid template without stray braces is rewritten as its first optional group stands**:
the first name stands apart just in case the group is at the front. -/
theorem expandsTo_of_closed {text : List Char} (hvalid : validate text = .ok ())
    (hclosed : Closed text) :
    ExpandsTo (fun before => before = []) text (expandOptional text) := by
  refine (expandsTo_expandOptional text).congr fun before list after hfirst => ?_
  rw [hfirst.opensGroup_before hvalid hclosed]
  exact or_iff_left (by decide)

end RouteMatch.Template
