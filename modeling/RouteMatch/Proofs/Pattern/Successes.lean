import RouteMatch.Proofs.Pattern.Traversal

/-!
# Searches that succeed more often

The search for a match of a tree asks what comes next about one thread after another.  If
something else comes next that succeeds wherever the first did, the search succeeds again, though
it may be with another thread.  So a part at the end of a pattern may be replaced by one that
matches more, and the pattern still matches what it did.

## Main definitions

* `Widens` — something to match next succeeds wherever another does.
* `IsMonotone` — a way to match something that keeps succeeding.

## Main results

* `isMonotone_run` — **the search for a match of a tree is monotone in what comes next.**
* `widens_items`, `widens_branches` — a part at the end of a sequence and of a branch.
-/

namespace RouteMatch.Pattern

/-- What comes next succeeds wherever something else does. -/
def Widens (next next' : Next) : Prop :=
  ∀ t, (next t).isSome → (next' t).isSome

/-- A way to match something that succeeds again if something wider comes next. -/
def IsMonotone (body : Step) : Prop :=
  ∀ ⦃t next next'⦄, Widens next next' → (body t next).isSome → (body t next').isSome

namespace IsMonotone

variable {body : Step}

/-! ### Repetitions -/

theorem times (h : IsMonotone body) (n : Nat) : IsMonotone (times body n) := by
  induction n with
  | zero => exact fun t next next' hnext => hnext t
  | succ n ih =>
    intro t next next' hnext
    exact h fun u => ih hnext

/-- After one repetition more may follow, unless it has matched the empty text. -/
theorem widens_repetition {again : Step} (hagain : IsMonotone again) (position : Nat)
    {next next' : Next} (hnext : Widens next next') :
    Widens (fun u => if u.cursor.position = position then next u else again u next)
      fun u => if u.cursor.position = position then next' u else again u next' := by
  intro u
  simp only []
  split
  · exact hnext u
  · exact hagain hnext

theorem upTo (h : IsMonotone body) (n : Nat) : IsMonotone (upTo body n) := by
  induction n with
  | zero => exact fun t next next' hnext => hnext t
  | succ n ih =>
    intro t next next' hnext hrun
    rw [Pattern.upTo, Option.isSome_or, Bool.or_eq_true] at hrun ⊢
    exact hrun.imp (h (widens_repetition ih _ hnext)) (hnext t)

theorem upToLazily (h : IsMonotone body) (n : Nat) : IsMonotone (upToLazily body n) := by
  induction n with
  | zero => exact fun t next next' hnext => hnext t
  | succ n ih =>
    intro t next next' hnext hrun
    rw [Pattern.upToLazily, Option.isSome_or, Bool.or_eq_true] at hrun ⊢
    exact hrun.imp (hnext t) (h (widens_repetition ih _ hnext))

theorem repeatStep (h : IsMonotone body) (mode : Mode) (least : Nat) (most : Option Nat) :
    IsMonotone (repeatStep mode least most body) := by
  intro t next next' hnext hrun
  cases mode with
  | greedy => exact h.times least (fun u => h.upTo _ hnext) hrun
  | lazy => exact h.times least (fun u => h.upToLazily _ hnext) hrun
  | possessive =>
    -- The repetitions are the same, whatever comes next.
    simp only [Pattern.repeatStep] at hrun ⊢
    split at hrun
    · exact absurd hrun (by simp)
    · exact hnext _ hrun

end IsMonotone

theorem isMonotone_charsStep (mode : Mode) (least : Nat) (most : Option Nat)
    (accepts : Char → Bool) : IsMonotone (charsStep mode least most accepts) := by
  have hfind : ∀ {t : Thread} {next next' : Next} {places : List Cursor}, Widens next next' →
      (places.findSome? fun c => next { t with cursor := c }).isSome →
      (places.findSome? fun c => next' { t with cursor := c }).isSome := by
    intro t next next' places hnext hrun
    obtain ⟨c, hc, hsome⟩ := List.findSome?_isSome_iff.mp hrun
    exact List.findSome?_isSome_iff.mpr ⟨c, hc, hnext _ hsome⟩
  intro t next next' hnext hrun
  cases mode with
  | greedy => exact hfind hnext hrun
  | lazy => exact hfind hnext hrun
  | possessive =>
    simp only [charsStep] at hrun ⊢
    split at hrun
    · exact absurd hrun (by simp)
    · exact hnext _ hrun

/-! ### Trees -/

/-- **The search for a match of a tree is monotone in what comes next.** -/
theorem isMonotone_run (r : Regex) : IsMonotone (run r) := by
  induction r with
  | empty => exact fun t next next' hnext => hnext t
  | fail => exact fun t next next' hnext hrun => absurd hrun (by simp [run])
  | char test fold =>
    intro t next next' hnext hrun
    rw [run] at hrun ⊢
    split at hrun
    · exact absurd hrun (by simp)
    · exact hnext _ hrun
  | anchor a =>
    intro t next next' hnext hrun
    rw [run] at hrun ⊢
    split at hrun
    · next ha =>
      rw [if_pos ha]
      exact hnext t hrun
    · exact absurd hrun (by simp)
  | seq a b iha ihb =>
    intro t next next' hnext hrun
    exact iha (fun u => ihb hnext) hrun
  | alt a b iha ihb =>
    intro t next next' hnext hrun
    rw [run, Option.isSome_or, Bool.or_eq_true] at hrun ⊢
    exact hrun.imp (iha hnext) (ihb hnext)
  | chars mode least most test fold => exact isMonotone_charsStep _ _ _ _
  | rep mode least most body ih => exact ih.repeatStep mode least most
  | group index body ih =>
    intro t next next' hnext hrun
    exact ih (fun u => hnext _) hrun
  | atomic body ih =>
    intro t next next' hnext hrun
    rw [run] at hrun ⊢
    split at hrun
    · exact absurd hrun (by simp)
    · exact hnext _ hrun
  | look back positive body ih =>
    intro t next next' hnext hrun
    rw [run] at hrun ⊢
    split at hrun
    · split at hrun
      · exact absurd hrun (by simp)
      · next hpositive =>
        rw [if_neg hpositive]
        exact hnext t hrun
    · -- What a look-around sees does not depend on what comes next.
      split at hrun
      · exact hnext _ hrun
      · exact hnext _ hrun
      · exact absurd hrun (by simp)
  | backref index fold =>
    intro t next next' hnext hrun
    rw [run] at hrun ⊢
    split at hrun
    · exact absurd hrun (by simp)
    · split at hrun
      · exact absurd hrun (by simp)
      · exact hnext _ hrun
  | cond index yes no ihyes ihno =>
    intro t next next' hnext hrun
    rw [run] at hrun ⊢
    split at hrun
    · next hcaptured =>
      rw [if_pos hcaptured]
      exact ihyes hnext hrun
    · next hcaptured =>
      rw [if_neg hcaptured]
      exact ihno hnext hrun

/-! ### Parts at the end -/

variable {tail tail' : Regex} {next : Next}

/-- A part at the end of a sequence of items may be replaced by one that matches more. -/
theorem widens_items (h : Widens (run tail · next) (run tail' · next)) (items : List Item) :
    Widens (run (items.foldl (fun rest item => .seq item.node rest) tail) · next)
      (run (items.foldl (fun rest item => .seq item.node rest) tail') · next) := by
  induction items generalizing tail tail' with
  | nil => exact h
  | cons item items ih => exact ih fun t => isMonotone_run item.node h

/-- The last one of several branches may be replaced by one that matches more. -/
theorem widens_branches (h : Widens (run tail · next) (run tail' · next))
    (branches : List Regex) :
    Widens (run (branches.foldl (fun rest b => .alt b rest) tail) · next)
      (run (branches.foldl (fun rest b => .alt b rest) tail') · next) := by
  induction branches generalizing tail tail' with
  | nil => exact h
  | cons b branches ih =>
    refine ih fun t hrun => ?_
    simp only [run, Option.isSome_or, Bool.or_eq_true] at hrun ⊢
    exact hrun.imp_right (h t)

end RouteMatch.Pattern
