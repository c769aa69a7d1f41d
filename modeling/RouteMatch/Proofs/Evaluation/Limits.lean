import RouteMatch.Proofs.Evaluation.Conditions
import RouteMatch.Session.Object

/-!
# The limit on the length of paths

A configuration tells an evaluation one thing only: whether the path is too long to be looked
at.  Configurations that agree on this give the same attempts.  A length that is within a limit
is within every greater one, also if the limits are fractions or infinite, so that a match stays
the same match when the limit is raised or dropped.

## Main definitions

* `Number.Admits`, `Config.Admits` — a length is within a limit.
* `Config.IsWidenedBy` — the limit of a configuration is raised or dropped.

## Main results

* `Number.int_gt_of_le` — what exceeds a number exceeds every smaller one.
* `Config.admits_iff` — a length is within a limit unless it exceeds it.
* `evaluate_of_exceeds_congr` — **configurations that agree on a path give the same attempts.**
* `evaluate_of_isWidenedBy` — **a match stays the same match under a greater limit.**
-/

namespace RouteMatch

/-! ### The order of numbers -/

namespace Number

theorem den_pos {n : Number} {num : Int} {den : Nat} (h : n.toFraction? = some (num, den)) :
    0 < den := by
  cases n with
  | bool b =>
    obtain ⟨-, rfl⟩ := Prod.mk.inj (Option.some.inj h)
    exact Nat.one_pos
  | int i =>
    obtain ⟨-, rfl⟩ := Prod.mk.inj (Option.some.inj h)
    exact Nat.one_pos
  | float x =>
    cases x with
    | finite negative mantissa exponent =>
      obtain ⟨-, rfl⟩ := Prod.mk.inj (Option.some.inj h)
      exact Nat.pow_pos Nat.two_pos
    | _ => cases h

/-- A number is no number, infinite, or a fraction. -/
theorem cases_rank (n : Number) :
    n.rank? = none ∨ n.rank? = some (-1) ∨ n.rank? = some 1 ∨
      n.rank? = some 0 ∧ ∃ num den, n.toFraction? = some (num, den) ∧ 0 < den := by
  have hfraction : ∀ {num den}, n.toFraction? = some (num, den) →
      ∃ num den, n.toFraction? = some (num, den) ∧ 0 < den := fun h => ⟨_, _, h, den_pos h⟩
  cases n with
  | bool b => exact Or.inr (Or.inr (Or.inr ⟨rfl, hfraction rfl⟩))
  | int i => exact Or.inr (Or.inr (Or.inr ⟨rfl, hfraction rfl⟩))
  | float x =>
    cases x with
    | nan => exact Or.inl rfl
    | infinite negative => cases negative <;> simp [rank?]
    | finite negative mantissa exponent => exact Or.inr (Or.inr (Or.inr ⟨rfl, hfraction rfl⟩))

section

variable {a b : Number}

/-- Fractions are compared by cross-multiplication. -/
theorem compare?_of_fractions (ha : a.rank? = some 0) (hb : b.rank? = some 0) {n m : Int}
    {d e : Nat} (hn : a.toFraction? = some (n, d)) (hm : b.toFraction? = some (m, e)) :
    a.compare? b = some (compare (n * e) (m * d)) := by
  simp only [compare?, ha, hb, hn, hm]

/-- If one of two numbers is infinite, their ranks are compared. -/
theorem compare?_of_ranks {r s : Int} (ha : a.rank? = some r) (hb : b.rank? = some s)
    (hne : r ≠ 0 ∨ s ≠ 0) : a.compare? b = some (compare r s) := by
  unfold compare?
  rw [ha, hb]
  split
  · next hr hs =>
    obtain rfl := Option.some.inj hr
    obtain rfl := Option.some.inj hs
    simp at hne
  · next hr hs =>
    obtain rfl := Option.some.inj hr
    obtain rfl := Option.some.inj hs
    rfl
  · next hnot => exact absurd rfl (hnot r s rfl)

theorem gt_iff {x y : Int} (h : a.compare? b = some (compare x y)) : a.gt b = true ↔ y < x := by
  rw [gt, h, beq_iff_eq, Option.some_inj, Int.compare_eq_gt]

theorem le_iff {x y : Int} (h : a.compare? b = some (compare x y)) : a.le b = true ↔ x ≤ y := by
  rw [le, h, Bool.or_eq_true, beq_iff_eq, beq_iff_eq, Option.some_inj, Option.some_inj,
    Int.compare_eq_lt, Int.compare_eq_eq]
  omega

theorem rank?_ne_none_of_le (h : a.le b = true) : a.rank? ≠ none := by
  intro ha
  simp [le, compare?, ha] at h

end

/-- What exceeds a number exceeds every smaller one. -/
theorem int_gt_of_le {i : Int} {n m : Number} (hgt : (int i).gt m = true) (hle : n.le m = true) :
    (int i).gt n = true := by
  have hrank : (int i).rank? = some 0 := rfl
  have hfraction : (int i).toFraction? = some (i, 1) := rfl
  rcases n.cases_rank with hn | hn | hn | ⟨hn, num, den, hfn, hden⟩
  · exact absurd hn (rank?_ne_none_of_le hle)
  · -- Every integer exceeds the least of all numbers.
    exact (gt_iff (compare?_of_ranks hrank hn (by decide))).mpr (by decide)
  · -- Nothing exceeds the greatest of all numbers, and nothing else is as great.
    rcases m.cases_rank with hm | hm | hm | ⟨hm, -⟩
    · simp [gt, compare?, hm, hrank] at hgt
    · have := (le_iff (compare?_of_ranks hn hm (by decide))).mp hle
      omega
    · have := (gt_iff (compare?_of_ranks hrank hm (by decide))).mp hgt
      omega
    · have := (le_iff (compare?_of_ranks hn hm (by decide))).mp hle
      omega
  · rcases m.cases_rank with hm | hm | hm | ⟨hm, num', den', hfm, hden'⟩
    · simp [gt, compare?, hm, hrank] at hgt
    · have := (le_iff (compare?_of_ranks hn hm (by decide))).mp hle
      omega
    · have := (gt_iff (compare?_of_ranks hrank hm (by decide))).mp hgt
      omega
    · have hgt := (gt_iff (compare?_of_fractions hrank hm hfraction hfm)).mp hgt
      have hle := (le_iff (compare?_of_fractions hn hm hfn hfm)).mp hle
      refine (gt_iff (compare?_of_fractions hrank hn hfraction hfn)).mpr ?_
      have hpos : (0 : Int) < den := Int.natCast_pos.mpr hden
      have hpos' : (0 : Int) < den' := Int.natCast_pos.mpr hden'
      -- Both sides are multiplied by the denominator in between.
      refine Int.lt_of_mul_lt_mul_right (a := den') ?_ (Int.le_of_lt hpos')
      calc num * (1 : Nat) * den' = num * den' := by rw [Int.natCast_one, Int.mul_one]
        _ ≤ num' * den := hle
        _ = num' * (1 : Nat) * den := by rw [Int.natCast_one, Int.mul_one]
        _ < i * den' * den := Int.mul_lt_mul_of_pos_right hgt hpos
        _ = i * den * den' := Int.mul_right_comm i den' den

/-- Whether a length is within a limit: it is no greater than the fraction that the limit is.  A
limit that is infinite or no number is kept by every length, unless it is below all numbers. -/
def Admits (limit : Number) (length : Nat) : Prop :=
  match limit.toFraction? with
  | some (num, den) => length * den ≤ num
  | none => limit ≠ .float (.infinite true)

/-- A length is within a limit unless it is compared as greater. -/
theorem admits_iff {limit : Number} {length : Nat} :
    limit.Admits length ↔ (int length).gt limit = false := by
  have hrank : (int length).rank? = some 0 := rfl
  have hfinite : ∀ {num den}, limit.rank? = some 0 → limit.toFraction? = some (num, den) →
      (limit.Admits length ↔ (int length).gt limit = false) := by
    intro num den hlimit hfraction
    have hgt := gt_iff (compare?_of_fractions hrank hlimit rfl hfraction)
    rw [Admits, hfraction, ← Bool.not_eq_true, hgt, Int.natCast_one, Int.mul_one]
    exact Int.not_lt.symm
  cases limit with
  | bool b => exact hfinite rfl rfl
  | int i => exact hfinite rfl rfl
  | float x =>
    cases x with
    | nan => exact iff_of_true (by simp [Admits, toFraction?, Binary64.toFraction?]) rfl
    | finite negative mantissa exponent => exact hfinite rfl rfl
    | infinite negative =>
      cases negative with
      | true =>
        have hgt : (int length).gt (.float (.infinite true)) = true := rfl
        exact iff_of_false (by simp [Admits, toFraction?, Binary64.toFraction?]) (by simp [hgt])
      | false => exact iff_of_true (by simp [Admits, toFraction?, Binary64.toFraction?]) rfl

end Number

/-- Whether a length is within the limit of a configuration, if it has one. -/
def Config.Admits (config : Config) (length : Nat) : Prop :=
  ∀ limit, config.maxPathLength = some limit → limit.Admits length

theorem Config.admits_iff {config : Config} {length : Nat} :
    config.Admits length ↔ exceeds config.maxPathLength length = none := by
  rw [Config.Admits, exceeds]
  cases config.maxPathLength with
  | none => simp
  | some limit =>
    simp only [Option.some.injEq, forall_eq', Number.admits_iff, Option.filter_eq_none_iff]
    simp

/-! ### What an evaluation is told -/

section

variable {r : Route} {path : String} {a : Attributes} {config config' : Config}

/-- A path that passes its check is within the limit. -/
theorem exceeds_of_holds (h : Condition.path.holds r path a config = true) :
    exceeds config.maxPathLength path.length = none := by
  have hmatch : (pathMatch? r path config).isSome = true := h
  cases hexceeds : exceeds config.maxPathLength path.length with
  | none => rfl
  | some limit =>
    rw [pathMatch?, hexceeds] at hmatch
    cases hmatch

section

variable (h : (exceeds config.maxPathLength path.length).isSome
  = (exceeds config'.maxPathLength path.length).isSome)

include h

theorem pathMatch?_congr : pathMatch? r path config' = pathMatch? r path config := by
  rw [pathMatch?, pathMatch?, ← Option.not_isSome, ← Option.not_isSome, h]

theorem groupCaptures_congr : groupCaptures r path config' = groupCaptures r path config := by
  rw [groupCaptures, groupCaptures, pathMatch?_congr h]

theorem serverCaptures_congr :
    serverCaptures r path a config' = serverCaptures r path a config := by
  rw [serverCaptures, serverCaptures, groupCaptures_congr h]

theorem answer_congr (c : Condition) : c.answer r path a config' = c.answer r path a config := by
  cases c with
  | path => rw [Condition.answer, Condition.answer, pathMatch?_congr h]
  | predicate => rw [Condition.answer, Condition.answer, serverCaptures_congr h]
  | _ => rfl

theorem holds_congr (c : Condition) : c.holds r path a config' = c.holds r path a config := by
  rw [Condition.holds, Condition.holds, answer_congr h]

theorem left_congr (c : Condition) : c.left r path a config' = c.left r path a config := by
  cases c with
  | routable => rfl
  | secure => rfl
  | server => exact serverCaptures_congr h
  | predicate => rw [Condition.left, Condition.left, serverCaptures_congr h]
  | _ => exact groupCaptures_congr h

/-- **Configurations that agree on a path give the same attempts.**  The rejection of a path that
is too long tells its limit, but its words do not. -/
theorem evaluate_of_exceeds_congr :
    Corresponds (fun x y => KeptAttempt.ofAttempt r x = KeptAttempt.ofAttempt r y)
      (evaluate r path a config) (evaluate r path a config') := by
  have hfind : (Condition.all.find? fun c => !c.holds r path a config')
      = Condition.all.find? fun c => !c.holds r path a config :=
    congrArg (Condition.all.find? ·) (funext fun c => congrArg (!·) (holds_congr h c))
  rw [evaluate_eq, evaluate_eq, hfind, left_congr h]
  cases Condition.all.find? fun c => !c.holds r path a config with
  | none =>
    refine (Corresponds.refl _).map ?_
    rintro params - rfl
    rfl
  | some c =>
    rw [Option.elim_some, Option.elim_some, answer_congr h, left_congr h]
    refine (Corresponds.refl _).map ?_
    rintro ok - rfl
    have htext : (c.rejection r path a config).text = (c.rejection r path a config').text :=
      (text_rejection c).trans (text_rejection c).symm
    rw [KeptAttempt.ofAttempt, KeptAttempt.ofAttempt, Attempt.debug, Attempt.debug,
      Option.map_some, Option.map_some, htext]
    rfl

end

/-! ### Greater limits -/

/-- The limit of a configuration is raised or dropped. -/
def Config.IsWidenedBy (config config' : Config) : Prop :=
  ∀ n', config'.maxPathLength = some n' →
    ∃ n, config.maxPathLength = some n ∧ n.le n' = true

/-- A length that is within a limit is within every greater one. -/
theorem exceeds_of_isWidenedBy (h : config.IsWidenedBy config') {length : Nat}
    (hwithin : exceeds config.maxPathLength length = none) :
    exceeds config'.maxPathLength length = none := by
  cases hlimit : config'.maxPathLength with
  | none => rfl
  | some n' =>
    obtain ⟨n, hn, hle⟩ := h n' hlimit
    rw [hn] at hwithin
    apply Option.filter_eq_none_iff.mpr
    intro m hm hgt
    obtain rfl := Option.some.inj hm
    exact Option.filter_eq_none_iff.mp hwithin n rfl (Number.int_gt_of_le hgt hle)

/-- **A match stays the same match under a greater limit.** -/
theorem evaluate_of_isWidenedBy (h : config.IsWidenedBy config') {attempt : Attempt}
    (heval : evaluate r path a config = .ok attempt) (hmatched : attempt.matched = true) :
    evaluate r path a config' = .ok attempt := by
  rcases evaluate_eq_ok heval with ⟨hholds, params, hextract, rfl⟩ | ⟨c, -, -, rfl⟩
  · have hwithin := exceeds_of_holds (hholds .path)
    have hsame : (exceeds config.maxPathLength path.length).isSome
        = (exceeds config'.maxPathLength path.length).isSome := by
      rw [hwithin, exceeds_of_isWidenedBy h hwithin]
    have hholds' : ∀ c : Condition, c.holds r path a config' = true := fun c =>
      (holds_congr hsame c).trans (hholds c)
    rw [evaluate_of_holds hholds', left_congr hsame, hextract]
    rfl
  · exact absurd hmatched (by simp [Attempt.matched])

end

end RouteMatch
