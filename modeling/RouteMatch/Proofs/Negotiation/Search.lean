import Mathlib.Data.List.Infix
import RouteMatch.Negotiation
import RouteMatch.Proofs.Pattern.Traversal

/-!
# Searching a header for media ranges

A header is searched for a media type as plain text.  At one place after another two
texts are looked for, the type itself and then the range of all subtypes of its main
type, and the first that stands there ends the search.  What follows it tells the
verdict: the type is refused if the characters there begin as a quality of `0.0` does,
whatever comes after them.

## Main definitions

* `afterRange?` — what follows a media range at the front of a text.
* `refusal` — the characters that refuse a type.

## Main results

* `rel_run_mediaRange` — what is searched for, at one place.
* `acceptsMediaType_eq` — **the verdict is that of the first place at which a media range
  stands.**
-/

namespace RouteMatch.Negotiation

open Pattern

/-! ### Texts and digits -/

/-- A literal matches itself. -/
theorem run_literal (text : List Char) (t : Thread) (next : Next) :
    run (literal text) t next
      = if text <+: t.cursor.after then next (t.forward text.length) else none := by
  induction text generalizing t with
  | nil => rw [if_pos List.nil_prefix]; rfl
  | cons c text ih =>
    have hrun : run (literal (c :: text)) t next
        = (Sketch.char c .done).step 0 t fun u => run (literal text) u next := rfl
    rw [hrun]
    cases hafter : t.cursor.after with
    | nil => rw [Sketch.step_char_nil hafter, if_neg (by simp)]
    | cons d rest =>
      rw [Sketch.step_char_cons hafter]
      by_cases hd : d = c
      · subst hd
        have hrest : (t.forward 1).cursor.after = rest := by simp [hafter]
        rw [if_pos rfl, Sketch.step_done]
        change run (literal text) (t.forward 1) next = _
        rw [ih, hrest, Thread.forward_forward, List.length_cons, Nat.add_comm]
        simp [List.cons_prefix_cons]
      · rw [if_neg hd, if_neg fun h => hd (List.cons_prefix_cons.mp h).1.symm]

/-- A digit is one character further on, if it is there. -/
theorem run_digit_cases (t : Thread) (next : Next) :
    run digit t next = next (t.forward 1) ∨ run digit t next = none := by
  rw [digit, run, Cursor.advance?]
  cases hafter : t.cursor.after with
  | nil => exact Or.inr rfl
  | cons d rest =>
    cases haccepts : (CharTest.oneOf false [.range 0x30 0x39]).accepts .exact d with
    | false => exact Or.inr (by simp [haccepts])
    | true => exact Or.inl (by simp [haccepts, Thread.forward, Cursor.forward, hafter])

theorem run_digit_zero {rest : List Char} {t : Thread} (h : t.cursor.after = '0' :: rest)
    (next : Next) : run digit t next = next (t.forward 1) := by
  rw [digit, run, Cursor.advance?, h]
  simp [CharTest.accepts, SetItem.holds, Fold.variants, Fold.bounds, Thread.forward, Cursor.forward, h]

/-! ### The quality -/

/-- What refuses a type. -/
def refusal : List Char := ";q=0.0".toList

/-- The group of a quality: two digits with a point between them. -/
def qualityDigits : Regex :=
  .group qualityGroup (.seq digit (.seq (literal ['.']) digit))

theorem run_qualityDigits_eq (t : Thread) :
    run qualityDigits t some
      = run digit (t.openGroup qualityGroup) fun u => run (literal ['.']) u fun v =>
          run digit v fun w => some (w.closeGroup qualityGroup) :=
  rfl

theorem closeGroup_forward (t : Thread) :
    ((((t.openGroup qualityGroup).forward 1).forward 1).forward 1).closeGroup qualityGroup
      = t.capture qualityGroup 3 := by
  rw [Thread.forward_forward, Thread.forward_forward]
  rfl

/-- The group of a quality takes three characters or does not match. -/
theorem run_qualityDigits_cases (t : Thread) :
    run qualityDigits t some = some (t.capture qualityGroup 3) ∨
      run qualityDigits t some = none := by
  rw [run_qualityDigits_eq]
  rcases run_digit_cases (t.openGroup qualityGroup) fun u => run (literal ['.']) u fun v =>
    run digit v fun w => some (w.closeGroup qualityGroup) with h | h
  · rw [h, run_literal]
    split
    · rcases run_digit_cases (((t.openGroup qualityGroup).forward 1).forward 1)
        fun w => some (w.closeGroup qualityGroup) with h' | h'
      · exact Or.inl (h'.trans (congrArg some (closeGroup_forward t)))
      · exact Or.inr h'
    · exact Or.inr rfl
  · exact Or.inr h

theorem run_qualityDigits_of_refused {t : Thread} (h : refusedQuality <+: t.cursor.after) :
    run qualityDigits t some = some (t.capture qualityGroup 3) := by
  obtain ⟨rest, hrest⟩ := h
  have hafter : t.cursor.after = '0' :: '.' :: '0' :: rest := hrest.symm
  have hpoint : ['.'] <+: ((t.openGroup qualityGroup).forward 1).cursor.after := by
    simp [hafter]
  have hlast : (((t.openGroup qualityGroup).forward 1).forward 1).cursor.after = '0' :: rest := by
    simp [hafter]
  rw [run_qualityDigits_eq, run_digit_zero (t := t.openGroup qualityGroup) hafter, run_literal,
    if_pos hpoint, List.length_singleton, run_digit_zero hlast, closeGroup_forward]

/-- A quality that follows or is missing says whether the type is refused. -/
theorem exists_run_quality {t : Thread} (hfresh : t.captured? qualityGroup = none) :
    ∃ u, run (.rep .greedy 0 (some 1) quality) t some = some u ∧
      (u.captured? qualityGroup = some refusedQuality ↔ refusal <+: t.cursor.after) := by
  have hrun : run (.rep .greedy 0 (some 1) quality) t some
      = (run (literal ";q=".toList) t fun u => run qualityDigits u some).or (some t) := by
    simp only [run, repeatStep, times, optionalCount, Nat.sub_zero, upTo, ite_self]
    rfl
  rw [hrun, run_literal]
  by_cases hsign : ";q=".toList <+: t.cursor.after
  · obtain ⟨rest, hrest⟩ := hsign
    have hafter : (t.forward 3).cursor.after = rest := by
      rw [Thread.cursor_forward, Cursor.after_forward, ← hrest]
      rfl
    have hrefusal : refusal <+: t.cursor.after ↔ refusedQuality <+: rest := by
      rw [← hrest]
      exact List.prefix_append_right_inj (";q=".toList)
    rw [if_pos ⟨rest, hrest⟩, hrefusal]
    change ∃ u, (run qualityDigits (t.forward 3) some).or (some t) = some u ∧ _
    rcases run_qualityDigits_cases (t.forward 3) with h | h
    · refine ⟨_, by rw [h, Option.some_or], ?_⟩
      rw [Thread.captured?_capture_self, hafter, Option.some.injEq, List.prefix_iff_eq_take]
      exact eq_comm
    · refine ⟨t, by rw [h, Option.none_or], ?_⟩
      have hnot : ¬ refusedQuality <+: rest := fun hzero => by
        rw [run_qualityDigits_of_refused (hafter ▸ hzero)] at h
        exact absurd h (by simp)
      simp [hfresh, hnot]
  · have hnot : ¬ refusal <+: t.cursor.after := fun hzero =>
      hsign ((List.prefix_append (";q=".toList) refusedQuality).trans hzero)
    exact ⟨t, by rw [if_neg hsign, Option.none_or], by simp [hfresh, hnot]⟩

/-! ### Media ranges -/

/-- What follows a media range at the front of a text: a type, or else all subtypes of its
main type. -/
def afterRange? (main sub text : List Char) : Option (List Char) :=
  if main ++ '/' :: sub <+: text then some (text.drop (main.length + (sub.length + 1)))
  else if main ++ ['/', '*'] <+: text then some (text.drop (main.length + 2))
  else none

/-- A range that was found stands at the front. -/
theorem eq_append_of_afterRange? {main sub text after : List Char}
    (h : afterRange? main sub text = some after) :
    text = main ++ '/' :: sub ++ after ∨ text = main ++ ['/', '*'] ++ after := by
  unfold afterRange? at h
  split at h
  · next hprefix =>
    obtain ⟨rest, rfl⟩ := hprefix
    have hdrop := Option.some.inj h
    rw [List.drop_left' (by simp)] at hdrop
    exact Or.inl (by rw [hdrop])
  · split at h
    · next hprefix =>
      obtain ⟨rest, rfl⟩ := hprefix
      have hdrop := Option.some.inj h
      rw [List.drop_left' (by simp)] at hdrop
      exact Or.inr (by rw [hdrop])
    · exact absurd h (by simp)

/-- A type at the front is found, and what follows it. -/
theorem afterRange?_append (main sub after : List Char) :
    afterRange? main sub (main ++ '/' :: sub ++ after) = some after := by
  rw [afterRange?, if_pos (List.prefix_append _ _), List.drop_left' (by simp)]

/-- Past the slash a range is the subtype or an asterisk. -/
theorem afterRange?_append_slash (main sub tail : List Char) :
    afterRange? main sub (main ++ '/' :: tail)
      = (if sub <+: tail then some (tail.drop sub.length) else none).or
          (if ['*'] <+: tail then some (tail.drop 1) else none) := by
  have hrange : ∀ text, main ++ '/' :: text <+: main ++ '/' :: tail ↔ text <+: tail := fun text => by
    rw [List.prefix_append_right_inj, List.cons_prefix_cons, and_iff_right rfl]
  have hdrop : ∀ n, (main ++ '/' :: tail).drop (main.length + (n + 1)) = tail.drop n := fun n => by
    simp
  unfold afterRange?
  simp only [hrange, hdrop]
  by_cases h : sub <+: tail <;> simp [h]

theorem afterRange?_eq_none {main sub text : List Char} (h : ¬ main ++ ['/'] <+: text) :
    afterRange? main sub text = none := by
  have hnot : ∀ more, ¬ main ++ '/' :: more <+: text := fun more hmore =>
    h (((List.prefix_append_right_inj main).mpr (List.prefix_append ['/'] more)).trans hmore)
  rw [afterRange?, if_neg (hnot sub), if_neg (hnot ['*'])]

/-- A thread tells the verdict on what follows a range. -/
def Judges (u : Thread) (after : List Char) : Prop :=
  u.captured? qualityGroup = some refusedQuality ↔ refusal <+: after

theorem rel_or {α β : Type} {r : α → β → Prop} {a a' : Option α} {b b' : Option β}
    (h : Option.Rel r a b) (h' : Option.Rel r a' b') : Option.Rel r (a.or a') (b.or b') := by
  cases h with
  | some hab => exact .some hab
  | none => exact h'

/-- The end of a range and a quality that may follow it. -/
theorem rel_run_literal_quality (text : List Char) {t : Thread}
    (hfresh : t.captured? qualityGroup = none) :
    Option.Rel Judges
      (run (literal text) t fun u => run (.rep .greedy 0 (some 1) quality) u some)
      (if text <+: t.cursor.after then some (t.cursor.after.drop text.length) else none) := by
  rw [run_literal]
  by_cases h : text <+: t.cursor.after
  · obtain ⟨u, hu, hjudges⟩ := exists_run_quality (t := t.forward text.length) hfresh
    rw [if_pos h, if_pos h, hu]
    exact .some hjudges
  · rw [if_neg h, if_neg h]
    exact .none

/-- What is searched for, at one place: a range, and a quality that may follow it. -/
theorem rel_run_mediaRange (main sub : List Char) {t : Thread}
    (hfresh : t.captured? qualityGroup = none) :
    Option.Rel Judges (run (mediaRange main sub) t some)
      (afterRange? main sub t.cursor.after) := by
  have hrun : run (mediaRange main sub) t some
      = run (literal main) t fun u => run (literal ['/']) u fun v =>
          (run (literal sub) v fun w => run (.rep .greedy 0 (some 1) quality) w some).or
            (run (literal ['*']) v fun w => run (.rep .greedy 0 (some 1) quality) w some) := rfl
  by_cases hhead : main ++ ['/'] <+: t.cursor.after
  · obtain ⟨tail, htail⟩ := hhead
    have htext : t.cursor.after = main ++ '/' :: tail := by rw [← htail]; simp
    let v := (t.forward main.length).forward 1
    have hafter : v.cursor.after = tail := by simp [v, htext]
    have hmain : main <+: t.cursor.after := ⟨'/' :: tail, htext.symm⟩
    have hslash : ['/'] <+: (t.forward main.length).cursor.after := ⟨tail, by simp [htext]⟩
    -- Past the slash the subtype is tried first, then the asterisk.
    have hsub := rel_run_literal_quality sub (t := v) hfresh
    have hstar := rel_run_literal_quality ['*'] (t := v) hfresh
    rw [hafter] at hsub hstar
    rw [hrun, run_literal, if_pos hmain, run_literal, if_pos hslash, htext,
      afterRange?_append_slash]
    exact rel_or hsub hstar
  · rw [afterRange?_eq_none hhead, hrun, run_literal]
    by_cases hmain : main <+: t.cursor.after
    · obtain ⟨rest, hrest⟩ := hmain
      have hslash : ¬ ['/'] <+: (t.forward main.length).cursor.after := fun h => by
        rw [Thread.cursor_forward, Cursor.after_forward, ← hrest, List.drop_left] at h
        exact hhead (hrest ▸ (List.prefix_append_right_inj main).mpr h)
      rw [if_pos ⟨rest, hrest⟩, run_literal, if_neg hslash]
      exact .none
    · rw [if_neg hmain]
      exact .none

/-! ### The search -/

/-- A range at the front ends the search. -/
theorem findSome?_tails_of_afterRange? {main sub text after : List Char}
    (h : afterRange? main sub text = some after) :
    text.tails.findSome? (afterRange? main sub) = some after := by
  cases text with
  | nil => simpa using h
  | cons c text => rw [List.tails_cons, List.findSome?_cons, h]

/-- The search is one for the first tail with a range at its front. -/
theorem rel_searchFrom? (main sub before text : List Char) (position : Nat) :
    Option.Rel Judges (searchFrom? (mediaRange main sub) before position text)
      (text.tails.findSome? (afterRange? main sub)) := by
  have hplace : ∀ (before text : List Char) (position : Nat),
      Option.Rel Judges (run (mediaRange main sub) ⟨⟨before, text, position⟩, [], []⟩ some)
        (afterRange? main sub text) := fun before text position =>
    rel_run_mediaRange main sub (t := ⟨⟨before, text, position⟩, [], []⟩) rfl
  induction text generalizing before position with
  | nil =>
    have htails : ([] : List Char).tails.findSome? (afterRange? main sub)
        = afterRange? main sub [] := by simp
    rw [searchFrom?, htails]
    exact hplace before [] position
  | cons c text ih =>
    have hcons : (c :: text).tails.findSome? (afterRange? main sub)
        = (afterRange? main sub (c :: text)).or (text.tails.findSome? (afterRange? main sub)) := by
      rw [List.tails_cons, List.findSome?_cons]
      cases afterRange? main sub (c :: text) <;> rfl
    rw [searchFrom?, hcons]
    exact rel_or (hplace before (c :: text) position) (ih (c :: before) (position + 1))

/-- **The verdict on a type is that of the first place at which it or a range of it
stands.** -/
theorem acceptsMediaType_eq {mediaType main sub : List Char}
    (h : partition mediaType = (main, sub)) (header : List Char) :
    acceptsMediaType mediaType header
      = (header.tails.findSome? (afterRange? main sub)).any fun after =>
          decide (¬ refusal <+: after) := by
  have hsearch := rel_searchFrom? main sub [] header 0
  unfold acceptsMediaType search?
  simp only [h]
  generalize searchFrom? (mediaRange main sub) [] 0 header = found at hsearch ⊢
  generalize header.tails.findSome? (afterRange? main sub) = after at hsearch ⊢
  cases hsearch with
  | none => rfl
  | @some u after hjudges =>
    rw [Option.any_some, Bool.eq_iff_iff, bne_iff_ne, decide_eq_true_eq]
    exact not_congr hjudges

end RouteMatch.Negotiation
