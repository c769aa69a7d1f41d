import RouteMatch.Text.Percent
import RouteMatch.Text.Split

/-!
# Decoding a text in pieces

A slash is no part of an escape: it is no hexadecimal digit, and its byte belongs to no
sequence of UTF-8 but stands for itself.  An escape that is cut short by a slash stays as it
is, and a sequence that is cut short by one becomes the same replacement characters as at the
end of a text.  So a text may be cut at its slashes before it is decoded or after.

## Main definitions

* `Utf8.IsPending` — what a sequence that has begun waits for.

## Main results

* `Utf8.decode_append_ascii` — a byte of ASCII parts what is before it from what is behind it.
* `rawText_append_slash` — no escape reaches over a slash.
* `percentDecodeChars_join` — **pieces decoded and joined are the joined pieces decoded.**
-/

namespace RouteMatch.Text

/-! ### Sequences and ASCII -/

namespace Utf8

/-- A sequence that has begun waits for a byte outside ASCII. -/
def IsPending (s : Option Sequence) : Prop :=
  ∀ q, s = some q → 0x80 ≤ q.least

theorem isPending_none : IsPending none := by
  intro q h
  exact absurd h (by simp)

theorem isPending_lead (b : Nat) : IsPending (lead b).2 := by
  unfold lead
  repeat' split
  all_goals simp [IsPending]

/-- Each byte leaves a sequence that waits for a byte outside ASCII, or none. -/
theorem isPending_step (s : Option Sequence) (b : Nat) : IsPending (step s b).2 := by
  cases s with
  | none => exact isPending_lead b
  | some q =>
    rw [step]
    by_cases hbounds : q.least ≤ b ∧ b ≤ q.greatest
    · rw [if_pos hbounds]
      by_cases hmissing : q.missing ≤ 1
      · simp only [if_pos hmissing]
        exact isPending_none
      · simp only [if_neg hmissing]
        intro next h
        obtain rfl := Option.some.inj h
        exact Nat.le_refl _
    · rw [if_neg hbounds]
      exact isPending_lead b

/-- A byte of ASCII ends what has begun, and stands for itself. -/
theorem step_ascii {s : Option Sequence} (hs : IsPending s) {b : Nat} (hb : b < 0x80) :
    step s b = (flush s ++ [Char.ofNat b], none) := by
  have hlead : lead b = ([Char.ofNat b], none) := if_pos hb
  cases s with
  | none => rw [step, hlead, flush, List.nil_append]
  | some q =>
    have hleast := hs q rfl
    have hbounds : ¬(q.least ≤ b ∧ b ≤ q.greatest) := by omega
    rw [step, if_neg hbounds, hlead, flush, List.singleton_append]

/-- **A byte of ASCII parts what is before it from what is behind it.** -/
theorem decode_append_ascii {s : Option Sequence} (hs : IsPending s) (units : List Raw) {b : Nat}
    (hb : b < 0x80) (rest : List Raw) :
    decode s (units ++ .byte b :: rest) = decode s units ++ Char.ofNat b :: decode none rest := by
  induction units generalizing s with
  | nil => simp [step_ascii hs hb]
  | cons unit units ih =>
    cases unit with
    | byte b' => simp [ih (isPending_step s b')]
    | char c => simp [ih isPending_none]

end Utf8

/-! ### Escapes and slashes -/

/-- A character that begins no escape stands for itself. -/
theorem rawText_cons {c : Char} {rest : List Char}
    (h : ∀ a b text high low, c = '%' → rest = a :: b :: text → hexValue? a = some high →
      hexValue? b ≠ some low) : rawText (c :: rest) = rawChar c :: rawText rest := by
  rw [rawText.eq_def]
  split
  · next heq => exact absurd heq (by simp)
  · next a b text heq =>
    obtain ⟨rfl, rfl⟩ := List.cons.inj heq
    split
    · next high low hhigh hlow => exact absurd hlow (h a b text high low rfl rfl hhigh)
    · rfl
  · next heq =>
    obtain ⟨rfl, rfl⟩ := List.cons.inj heq
    rfl

/-- No escape reaches over a slash. -/
theorem rawText_append_slash (text rest : List Char) :
    rawText (text ++ '/' :: rest) = rawText text ++ .byte 0x2F :: rawText rest := by
  have hdigit : hexValue? '/' = none := by decide
  fun_induction rawText text with
  | case1 =>
    refine rawText_cons ?_
    intro _ _ _ _ _ hpercent
    exact absurd hpercent (by decide)
  | case2 a b text high low hlow hhigh ih => simp [rawText, hhigh, hlow, ih]
  | case3 a b text hnone ih =>
    rw [List.cons_append, rawText_cons, ih, List.cons_append]
    intro a' b' text' high low _ heq hhigh hlow
    obtain ⟨ha, hmore⟩ := List.cons.inj heq
    obtain ⟨hb, -⟩ := List.cons.inj hmore
    exact hnone high low (ha ▸ hhigh) (hb ▸ hlow)
  | case4 c text hnone ih =>
    rw [List.cons_append, rawText_cons, ih, List.cons_append]
    intro a b text' high low hpercent heq hhigh hlow
    -- One of the two characters behind the percent sign would be the slash.
    match text, heq with
    | [], heq =>
      obtain rfl : '/' = a := (List.cons.inj heq).1
      exact absurd hhigh (by simp [hdigit])
    | [d], heq =>
      obtain rfl : '/' = b := (List.cons.inj (List.cons.inj heq).2).1
      exact absurd hlow (by simp [hdigit])
    | d :: e :: text, _ => exact hnone d e text hpercent rfl

/-- A slash parts what is before it from what is behind it. -/
theorem percentDecodeChars_append_slash (text rest : List Char) :
    percentDecodeChars (text ++ '/' :: rest)
      = percentDecodeChars text ++ '/' :: percentDecodeChars rest := by
  rw [percentDecodeChars, rawText_append_slash,
    Utf8.decode_append_ascii Utf8.isPending_none _ (by decide)]
  rfl

/-- **Pieces decoded and joined are the joined pieces decoded.** -/
theorem percentDecodeChars_join (pieces : List (List Char)) :
    join '/' (pieces.map percentDecodeChars) = percentDecodeChars (join '/' pieces) := by
  induction pieces with
  | nil => rfl
  | cons piece pieces ih =>
    cases pieces with
    | nil => rfl
    | cons next pieces =>
      calc join '/' ((piece :: next :: pieces).map percentDecodeChars)
          = percentDecodeChars piece ++ '/' :: join '/' ((next :: pieces).map percentDecodeChars) :=
            rfl
        _ = percentDecodeChars piece ++ '/' :: percentDecodeChars (join '/' (next :: pieces)) := by
            rw [ih]
        _ = percentDecodeChars (join '/' (piece :: next :: pieces)) :=
            (percentDecodeChars_append_slash piece (join '/' (next :: pieces))).symm

end RouteMatch.Text
