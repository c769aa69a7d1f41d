import RouteMatch.Route

/-!
# Compiled constraints

The constraints on server variables are compiled one after the other, each of them alone.  So
they are compiled if each of them is, and they can be compiled in any order and in parts.

## Main results

* `compileConstraints_eq_ok_iff` — what constraints are compiled to.
* `map_fst_of_compileConstraints` — compiled constraints keep their names.
* `compileConstraints_perm`, `compileConstraints_append` — constraints in another order, and
  in two parts.
-/

namespace RouteMatch.Route

variable {path : String} {entries entries' : List (String × String)}
  {constraints : List (String × Pattern)}

/-- Constraints are compiled if each of them is, to what each of them is compiled to. -/
theorem compileConstraints_eq_ok_iff :
    compileConstraints path entries = .ok constraints
      ↔ (∀ entry ∈ entries, ∃ constraint, compileConstraint path entry = .ok constraint) ∧
        constraints = entries.filterMap fun entry => (compileConstraint path entry).toOption := by
  induction entries generalizing constraints with
  | nil => simp [compileConstraints, eq_comm]
  | cons entry rest ih =>
    rw [compileConstraints]
    cases hentry : compileConstraint path entry with
    | error failure => simp [hentry]
    | ok constraint =>
      rw [List.filterMap_cons_some (by rw [hentry]; rfl)]
      constructor
      · intro h
        obtain ⟨more, hmore, rfl⟩ := map_eq_ok h
        obtain ⟨hall, rfl⟩ := ih.mp hmore
        refine ⟨?_, rfl⟩
        intro other hother
        rcases List.mem_cons.mp hother with rfl | hother
        · exact ⟨constraint, hentry⟩
        · exact hall other hother
      · rintro ⟨hall, rfl⟩
        have hrest := ih.mpr ⟨fun other hother => hall other (List.mem_cons_of_mem _ hother), rfl⟩
        simp only [hrest, Except.map]

theorem fst_of_compileConstraint {entry : String × String} {constraint : String × Pattern}
    (h : compileConstraint path entry = .ok constraint) :
    constraint.1 = entry.1 := by
  unfold compileConstraint at h
  split at h
  · obtain ⟨p, -, rfl⟩ := map_eq_ok h
    rfl
  · exact absurd h (by simp)

/-- Compiled constraints keep their names. -/
theorem map_fst_of_compileConstraints (h : compileConstraints path entries = .ok constraints) :
    constraints.map Prod.fst = entries.map Prod.fst := by
  induction entries generalizing constraints with
  | nil =>
    rw [← Except.ok.inj h]
    rfl
  | cons entry rest ih =>
    rw [compileConstraints] at h
    split at h
    · exact absurd h (by simp)
    · next constraint hconstraint =>
      obtain ⟨more, hmore, rfl⟩ := map_eq_ok h
      rw [List.map_cons, List.map_cons, ih hmore, fst_of_compileConstraint hconstraint]

/-- Of a list of constraints that is compiled, each is compiled. -/
theorem exists_compileConstraint (h : compileConstraints path entries = .ok constraints)
    {entry : String × String} (hentry : entry ∈ entries) :
    ∃ constraint, compileConstraint path entry = .ok constraint :=
  (compileConstraints_eq_ok_iff.mp h).1 entry hentry

/-- Constraints that are listed otherwise are compiled to the same. -/
theorem compileConstraints_perm (hperm : entries.Perm entries')
    (h : compileConstraints path entries = .ok constraints) :
    ∃ constraints', compileConstraints path entries' = .ok constraints' ∧
      constraints.Perm constraints' := by
  obtain ⟨hall, rfl⟩ := compileConstraints_eq_ok_iff.mp h
  refine ⟨_, compileConstraints_eq_ok_iff.mpr ⟨?_, rfl⟩, hperm.filterMap _⟩
  intro entry hentry
  exact hall entry (hperm.mem_iff.mpr hentry)

/-- Constraints in two parts are compiled to two parts. -/
theorem compileConstraints_append
    (h : compileConstraints path (entries ++ entries') = .ok constraints) :
    ∃ front back, compileConstraints path entries = .ok front ∧
      compileConstraints path entries' = .ok back ∧ constraints = front ++ back := by
  obtain ⟨hall, rfl⟩ := compileConstraints_eq_ok_iff.mp h
  refine ⟨_, _, compileConstraints_eq_ok_iff.mpr ⟨?_, rfl⟩,
    compileConstraints_eq_ok_iff.mpr ⟨?_, rfl⟩, List.filterMap_append⟩
  · intro entry hentry
    exact hall entry (List.mem_append_left _ hentry)
  · intro entry hentry
    exact hall entry (List.mem_append_right _ hentry)

end RouteMatch.Route
