import RouteMatch.Proofs.Pattern.Counts
import RouteMatch.Proofs.Template.Braces

/-!
# How building a route fails

A definition from which no route can be built is refused as faulty, with its path and
what is wrong with it.  One kind of defect escapes: the pattern of a token or of a
constraint with a count in braces that cannot be represented, or that has too many
digits to be read.  Its failure is that of the count and does not name the definition.
The rest of a definition, with whatever text and names, brings about no other failure.

## Main definitions

* `IsCountFailure` — the failures of counts.

## Main results

* `Route.error_of_build` — what a failure to build a route says.
* `Route.build_cases` — **a route is built, or its definition is refused as faulty, or a
  pattern that it was given has an oversized count.**
-/

namespace RouteMatch.Route

open Pattern (HasOversizedCount bracedCounts AreOversized Faults)
open Template

/-- The failures of counts that are too large or too long. -/
inductive IsCountFailure : Failure → Prop
  | repetitionTooLarge : IsCountFailure .repetitionTooLarge
  | numeralTooLong (digits : Nat) : IsCountFailure (.numeralTooLong digits)

/-! ### Patterns -/

/-- A pattern that is not compiled is at fault, or has an oversized count. -/
theorem error_of_compile {path source : String} {failure : Failure}
    (h : compile path source = .error failure) :
    (∃ fault, failure = .route path (.pattern source fault)) ∨
      IsCountFailure failure ∧ HasOversizedCount source.toList := by
  have hparse := Pattern.faults_or_oversized_parse source.toList
  unfold compile Pattern.compile at h
  cases hresult : Pattern.parse source.toList with
  | ok parsed => exact absurd h (by simp [hresult, Except.map])
  | error why =>
    rw [hresult] at h hparse
    simp only [Except.map] at h
    cases why with
    | invalid fault => exact Or.inl ⟨fault, (Except.error.inj h).symm⟩
    | repetitionTooLarge =>
      refine Or.inr ⟨Except.error.inj h ▸ .repetitionTooLarge,
        hparse.resolve_left fun hfaults => ?_⟩
      obtain ⟨fault, hfault⟩ := hfaults _ rfl
      exact absurd hfault (by simp)
    | numeralTooLong digits =>
      refine Or.inr ⟨Except.error.inj h ▸ .numeralTooLong digits,
        hparse.resolve_left fun hfaults => ?_⟩
      obtain ⟨fault, hfault⟩ := hfaults _ rfl
      exact absurd hfault (by simp)

/-- Oversized counts are counting braces. -/
theorem exists_braces_of_areOversized {least : List Char} {most : Option (List Char)}
    (h : AreOversized least most) :
    ∃ inner, IsCounting inner ∧ bracedCounts least most = (Piece.braces inner).render := by
  refine ⟨least ++ most.elim [] fun digits => ',' :: digits, fun c hc => ?_, ?_⟩
  · rcases List.mem_append.mp hc with hc | hc
    · exact Or.inr (h.least_isDecimal c hc)
    · cases most with
      | none => exact absurd hc List.not_mem_nil
      | some digits =>
        exact (List.mem_cons.mp hc).imp_right (h.most_isDecimal digits rfl c)
  · simp [bracedCounts, Piece.render]

/-- An oversized count in the pattern text of a definition is in the pattern of a
token. -/
theorem oversized_of_patternText {d : RouteDefinition} (hfault : definitionFault? d = none)
    (h : HasOversizedCount (patternText d).toList) :
    ∃ body ∈ bodies d, HasOversizedCount body := by
  obtain ⟨least, most, hcounts, hsub⟩ := h
  obtain ⟨inner, hinner, hbraces⟩ := exists_braces_of_areOversized hcounts
  rw [hbraces] at hsub
  obtain ⟨name, hname, hbody⟩ := infix_patternText hfault hinner hsub
  rw [← hbraces] at hbody
  refine ⟨tokenBody d.tokens name, ?_, least, most, hcounts, hbody⟩
  exact List.mem_append_left _ (List.mem_map_of_mem hname)

/-- An oversized count in the text of a constraint is in its pattern. -/
theorem oversized_of_constraintText {name body : String} (hname : isName name.toList = true)
    (h : HasOversizedCount (constraintText name body).toList) : HasOversizedCount body.toList := by
  obtain ⟨least, most, hcounts, hsub⟩ := h
  obtain ⟨inner, hinner, hbraces⟩ := exists_braces_of_areOversized hcounts
  rw [hbraces, constraintText, String.toList_ofList] at hsub
  have hbody := infix_namedGroup hinner hname hsub
  rw [← hbraces] at hbody
  exact ⟨least, most, hcounts, hbody⟩

/-! ### Constraints -/

theorem error_of_compileConstraint {path : String} {entry : String × String} {failure : Failure}
    (h : compileConstraint path entry = .error failure) :
    (∃ fault, failure = .route path fault) ∨
      IsCountFailure failure ∧ HasOversizedCount entry.2.toList := by
  unfold compileConstraint at h
  split at h
  · next hname =>
    cases hcompile : compile path (constraintText entry.1 entry.2) with
    | ok p => exact absurd h (by simp [hcompile, Except.map])
    | error why =>
      rw [hcompile] at h
      obtain rfl := Except.error.inj h
      rcases error_of_compile hcompile with ⟨fault, rfl⟩ | ⟨hfailure, hcount⟩
      · exact Or.inl ⟨_, rfl⟩
      · exact Or.inr ⟨hfailure, oversized_of_constraintText hname hcount⟩
  · exact Or.inl ⟨_, (Except.error.inj h).symm⟩

theorem error_of_compileConstraints {path : String} {entries : List (String × String)}
    {failure : Failure} (h : compileConstraints path entries = .error failure) :
    (∃ fault, failure = .route path fault) ∨
      IsCountFailure failure ∧ ∃ entry ∈ entries, HasOversizedCount entry.2.toList := by
  induction entries with
  | nil => exact absurd h (by simp [compileConstraints])
  | cons entry rest ih =>
    rw [compileConstraints] at h
    split at h
    · next why hconstraint =>
      obtain rfl := Except.error.inj h
      refine (error_of_compileConstraint hconstraint).imp_right fun hcount => ?_
      exact ⟨hcount.1, entry, List.mem_cons_self, hcount.2⟩
    · cases hrest : compileConstraints path rest with
      | ok constraints => exact absurd h (by simp [hrest, Except.map])
      | error why =>
        rw [hrest] at h
        obtain rfl := Except.error.inj h
        refine (ih hrest).imp_right fun ⟨hfailure, entry', hentry, hcount⟩ => ?_
        exact ⟨hfailure, entry', List.mem_cons_of_mem _ hentry, hcount⟩

/-! ### Routes -/

/-- What a failure to build a route says. -/
theorem error_of_build {d : RouteDefinition} {failure : Failure}
    (h : build d = .error failure) :
    (∃ fault, failure = .route d.path fault) ∨
      IsCountFailure failure ∧ ∃ body ∈ bodies d, HasOversizedCount body := by
  unfold build at h
  split at h
  · next fault hfault => exact Or.inl ⟨fault, (Except.error.inj h).symm⟩
  · next hfault =>
    split at h
    · next why hcompile =>
      obtain rfl := Except.error.inj h
      rcases error_of_compile hcompile with ⟨fault, rfl⟩ | ⟨hfailure, hcount⟩
      · exact Or.inl ⟨_, rfl⟩
      · exact Or.inr ⟨hfailure, oversized_of_patternText hfault hcount⟩
    · simp only [] at h
      cases hconstraints : compileConstraints d.path d.server with
      | ok constraints => exact absurd h (by simp [hconstraints, Except.map])
      | error why =>
        rw [hconstraints] at h
        obtain rfl := Except.error.inj h
        refine (error_of_compileConstraints hconstraints).imp_right fun hcount => ?_
        obtain ⟨hfailure, entry, hentry, hcount⟩ := hcount
        refine ⟨hfailure, entry.2.toList, List.mem_append_right _ ?_, hcount⟩
        exact List.mem_map_of_mem hentry

/-- **A route is built, or its definition is refused as faulty, or a pattern that it was
given has an oversized count.** -/
theorem build_cases (d : RouteDefinition) :
    (∃ r, build d = .ok r) ∨ (∃ fault, build d = .error (.route d.path fault)) ∨
      (∃ body ∈ bodies d, HasOversizedCount body) ∧
        ∃ failure, IsCountFailure failure ∧ build d = .error failure := by
  cases hbuild : build d with
  | ok r => exact Or.inl ⟨r, rfl⟩
  | error failure =>
    refine Or.inr ?_
    rcases error_of_build hbuild with ⟨fault, rfl⟩ | ⟨hfailure, hcount⟩
    · exact Or.inl ⟨fault, rfl⟩
    · exact Or.inr ⟨hcount, failure, hfailure, rfl⟩

/-- The definition of a route with a count that cannot be represented. -/
def countDefinition : RouteDefinition :=
  { path := "/\x7bid\x7d"
    tokens := [("id", .text "a\x7b4294967295\x7d")] }

/-- The failure of a count is no fault of the definition. -/
theorem not_build_countDefinition :
    ¬((∃ r, build countDefinition = .ok r) ∨
      ∃ fault, build countDefinition = .error (.route countDefinition.path fault)) := by
  have hfault : definitionFault? countDefinition = none := by decide +kernel
  have hcompile : Pattern.compile (patternText countDefinition) = .error .repetitionTooLarge := by
    decide +kernel
  have hbuild : build countDefinition = .error .repetitionTooLarge := by
    simp [build, hfault, compile, hcompile]
  rw [hbuild]
  simp

end RouteMatch.Route
