import RouteMatch.Proofs.Route.Failures
import RouteMatch.Proofs.Template.Placeholders

/-!
# What a definition must meet

A route is built from a definition that meets some requirements, which can be listed in
advance: one for each placeholder, media type and constraint, and one each for the number
of optional groups, the name of the wildcard and the pattern.  They are asked in this order.
If all of them are met there is a route, and otherwise the first that is not met is what the
definition is refused for, however many others are not met either.

A requirement on a pattern may also not be met because of an oversized count in it.  Then the
failure is that of the count and not a fault of the definition.

## Main definitions

* `Requirement`, `requirements` — the requirements, and those on one definition in order.
* `Requirement.IsMet` — a definition meets a requirement.
* `Requirement.Reports` — the fault that a requirement finds.
* `Requirement.failure?` — the failure that a requirement brings about.

## Main results

* `failureOf?_build` — building a route fails as the first requirement does that fails.
* `build_iff_requirements` — **a route is built exactly if all requirements are met,
  and otherwise the first that is not met is reported.**
-/

namespace RouteMatch.Route

open Pattern (HasOversizedCount)
open Template

/-! ### Requirements -/

/-- What the definition of a route must meet. -/
inductive Requirement
  /-- The text between two braces is that of a token or of an optional group. -/
  | placeholder (inner : List Char)
  /-- There is at most one optional group. -/
  | oneGroup
  /-- A text is a media type. -/
  | mediaType (text : String)
  /-- The wildcard can name a group. -/
  | wildcardName (name : String)
  /-- The pattern of the template is a regular expression. -/
  | pattern
  /-- A server variable can name a group. -/
  | serverName (name : String)
  /-- The pattern of a server variable, as a group of that name, is a regular expression. -/
  | constraint (name body : String)
  deriving DecidableEq, Repr

/-- The texts between the braces of a template, at one place after another. -/
def innerTexts (d : RouteDefinition) : List (List Char) :=
  d.path.toList.tails.filterMap placeholderAt?

/-- The requirements on the pattern of a server variable. -/
def constraintRequirements (entry : String × String) : List Requirement :=
  [.serverName entry.1, .constraint entry.1 entry.2]

/-- The requirements that do not concern patterns, in order. -/
def plainRequirements (d : RouteDefinition) : List Requirement :=
  (innerTexts d).map .placeholder ++ .oneGroup :: (d.accept.map .mediaType
    ++ (wildcardOf d).toList.map .wildcardName)

/-- The requirements on a definition, in the order in which they are asked. -/
def requirements (d : RouteDefinition) : List Requirement :=
  plainRequirements d ++ .pattern :: d.server.flatMap constraintRequirements

namespace Requirement

/-- A definition meets a requirement. -/
def IsMet (d : RouteDefinition) : Requirement → Prop
  | .placeholder inner =>
    isName inner = true ∨
      ∃ names, names ≠ [] ∧ (∀ name ∈ names, isName name = true) ∧
        inner = '/' :: Text.join ',' names
  | .oneGroup => (innerTexts d).countP (fun inner => inner.head? = some '/') ≤ 1
  | .mediaType text =>
    ∃ main sub, main ≠ [] ∧ sub ≠ [] ∧ '/' ∉ main ∧ '/' ∉ sub ∧
      text.toList = main ++ '/' :: sub
  | .wildcardName name => isName name.toList = true
  | .pattern => ∃ p, Pattern.compile (patternText d) = .ok p
  | .serverName name => isName name.toList = true
  | .constraint name body => ∃ p, Pattern.compile (constraintText name body) = .ok p

/-- The text that a requirement wants to be a regular expression. -/
def source? (d : RouteDefinition) : Requirement → Option String
  | .pattern => some (patternText d)
  | .constraint name body => some (constraintText name body)
  | _ => none

/-- The fault that a requirement finds in a definition. -/
inductive Reports (d : RouteDefinition) : Requirement → RouteFault → Prop
  | malformedGroup {inner : List Char} (h : inner.head? = some '/') :
    Reports d (.placeholder inner)
      (.malformedGroup (String.ofList (Piece.braces inner).render))
  | tokenName {inner : List Char} (h : inner.head? ≠ some '/') :
    Reports d (.placeholder inner) (.tokenName (String.ofList inner))
  | severalGroups : Reports d .oneGroup .severalGroups
  | mediaType (text : String) : Reports d (.mediaType text) (.mediaType text)
  | wildcardName (name : String) : Reports d (.wildcardName name) (.wildcardName name)
  | serverName (name : String) : Reports d (.serverName name) (.serverName name)
  | pattern {q : Requirement} {source : String} {fault : Pattern.SyntaxFault}
    (hsource : source ∈ q.source? d) (h : Pattern.compile source = .error (.invalid fault)) :
    Reports d q (.pattern source fault)

/-! ### Failures -/

/-- The failure of a result. -/
def failureOf? {α : Type} : Except Failure α → Option Failure
  | .ok _ => none
  | .error failure => some failure

theorem failureOf?_eq_none_iff {α : Type} {x : Except Failure α} :
    failureOf? x = none ↔ ∃ a, x = .ok a := by
  cases x <;> simp [failureOf?]

theorem failureOf?_eq_some_iff {α : Type} {x : Except Failure α} {failure : Failure} :
    failureOf? x = some failure ↔ x = .error failure := by
  cases x <;> simp [failureOf?]

/-- The failure that a requirement brings about. -/
def failure? (d : RouteDefinition) : Requirement → Option Failure
  | .placeholder inner => (placeholderFault? inner).map (.route d.path)
  | .oneGroup =>
    if (placeholders d.path.toList).countP isOptional ≤ 1 then none
    else some (.route d.path .severalGroups)
  | .mediaType text =>
    if isMediaType text.toList then none else some (.route d.path (.mediaType text))
  | .wildcardName name =>
    if isName name.toList then none else some (.route d.path (.wildcardName name))
  | .pattern => failureOf? (compile d.path (patternText d))
  | .serverName name =>
    if isName name.toList then none else some (.route d.path (.serverName name))
  | .constraint name body => failureOf? (compile d.path (constraintText name body))

end Requirement

open Requirement

variable {d : RouteDefinition}

theorem findSome?_placeholder (texts : List (List Char)) :
    (texts.map .placeholder).findSome? (failure? d)
      = (texts.findSome? placeholderFault?).map (.route d.path) := by
  rw [List.findSome?_map, List.map_findSome?]
  rfl

theorem findSome?_mediaType (texts : List String) :
    (texts.map .mediaType).findSome? (failure? d)
      = (texts.find? fun text => !isMediaType text.toList).map fun text =>
        .route d.path (.mediaType text) := by
  induction texts with
  | nil => rfl
  | cons text texts ih =>
    rw [List.map_cons, List.findSome?_cons, List.find?_cons, ih, failure?]
    cases isMediaType text.toList <;> rfl

/-- The requirements that do not concern patterns find the fault of a definition. -/
theorem findSome?_plainRequirements :
    (plainRequirements d).findSome? (failure? d) = (definitionFault? d).map (.route d.path) := by
  rw [plainRequirements, List.findSome?_append, List.findSome?_cons, List.findSome?_append,
    findSome?_placeholder, findSome?_mediaType, innerTexts, ← placeholders_eq, definitionFault?,
    validate]
  cases (placeholders d.path.toList).findSome? placeholderFault? with
  | some fault => rfl
  | none =>
    by_cases hgroups : (placeholders d.path.toList).countP isOptional ≤ 1
    · have hgroup : failure? d .oneGroup = none := if_pos hgroups
      rw [hgroup]
      simp only [if_neg (Nat.not_lt.mpr hgroups)]
      cases d.accept.find? fun text => !isMediaType text.toList with
      | some text => rfl
      | none =>
        cases wildcardOf d with
        | none => rfl
        | some w => by_cases hname : isName w.toList = true <;> simp [failure?, hname]
    · have hgroup : failure? d .oneGroup = some (.route d.path .severalGroups) := if_neg hgroups
      rw [hgroup]
      simp only [if_pos (Nat.lt_of_not_le hgroups)]
      rfl

theorem findSome?_constraints (entries : List (String × String)) :
    (entries.flatMap constraintRequirements).findSome? (failure? d)
      = failureOf? (compileConstraints d.path entries) := by
  induction entries with
  | nil => rfl
  | cons entry rest ih =>
    rw [List.flatMap_cons, List.findSome?_append, ih, compileConstraints, compileConstraint,
      constraintRequirements]
    by_cases hname : isName entry.1.toList = true
    · have hserver : failure? d (.serverName entry.1) = none := if_pos hname
      rw [List.findSome?_cons, hserver, List.findSome?_singleton, failure?, if_pos hname]
      cases compile d.path (constraintText entry.1 entry.2) with
      | error why => rfl
      | ok p => cases compileConstraints d.path rest <;> rfl
    · have hserver : failure? d (.serverName entry.1)
          = some (.route d.path (.serverName entry.1)) := if_neg hname
      rw [List.findSome?_cons, hserver, if_neg hname]
      rfl

/-- **Building a route fails as the first requirement does that fails.** -/
theorem failureOf?_build : failureOf? (build d) = (requirements d).findSome? (failure? d) := by
  rw [requirements, List.findSome?_append, List.findSome?_cons, findSome?_plainRequirements,
    findSome?_constraints, build]
  cases definitionFault? d with
  | some fault => rfl
  | none =>
    simp only [Option.map_none, Option.none_or, failure?]
    cases compile d.path (patternText d) with
    | error why => rfl
    | ok p => cases compileConstraints d.path d.server <;> rfl

/-! ### When a requirement is met -/

theorem failureOf?_compile_eq_none_iff {path source : String} :
    failureOf? (compile path source) = none ↔ ∃ p, Pattern.compile source = .ok p := by
  unfold compile
  cases Pattern.compile source with
  | ok p => simp [failureOf?]
  | error why => cases why <;> simp [failureOf?]

/-- A media type is a text with something on each side of its only slash. -/
theorem isMediaType_iff {text : List Char} :
    isMediaType text = true ↔
      ∃ main sub, main ≠ [] ∧ sub ≠ [] ∧ '/' ∉ main ∧ '/' ∉ sub ∧ text = main ++ '/' :: sub := by
  unfold isMediaType
  constructor
  · intro h
    cases hcut : Text.cut? '/' text with
    | none =>
      rw [hcut] at h
      exact absurd h (by simp)
    | some parts =>
      obtain ⟨main, sub⟩ := parts
      obtain ⟨htext, hmain⟩ := Text.cut?_eq_some_iff.mp hcut
      simp only [hcut, Bool.and_eq_true, Bool.not_eq_true', List.isEmpty_eq_false_iff,
        List.contains_eq_mem, decide_eq_false_iff_not] at h
      exact ⟨main, sub, h.1.1, h.1.2, hmain, h.2, htext⟩
  · rintro ⟨main, sub, hmain, hsub, hslash, hslash', rfl⟩
    rw [Text.cut?_eq_some_iff.mpr ⟨rfl, hslash⟩]
    simp [hmain, hsub, hslash']

/-- What a placeholder is, told by the first character of its text. -/
theorem ofInner_cases (inner : List Char) :
    (∃ list, inner = '/' :: list ∧ Placeholder.ofInner inner = .optional (Text.split ',' list)) ∨
      inner.head? ≠ some '/' ∧ Placeholder.ofInner inner = .token inner := by
  cases inner with
  | nil => exact Or.inr ⟨by simp, rfl⟩
  | cons c list =>
    by_cases hc : c = '/'
    · exact Or.inl ⟨list, by rw [hc], by rw [hc]; rfl⟩
    · exact Or.inr ⟨by simpa using hc, by simp [Placeholder.ofInner, hc]⟩

theorem isOptional_iff {inner : List Char} : isOptional inner = true ↔ inner.head? = some '/' := by
  rw [isOptional]
  rcases ofInner_cases inner with ⟨list, rfl, h⟩ | ⟨hhead, h⟩
  · simp [h]
  · simp [h, hhead]

/-- A placeholder without fault is a name, or a slash and names with commas between them. -/
theorem placeholderFault?_eq_none_iff_isMet {inner : List Char} :
    placeholderFault? inner = none ↔ IsMet d (.placeholder inner) := by
  rw [placeholderFault?, IsMet]
  rcases ofInner_cases inner with ⟨list, rfl, h⟩ | ⟨hhead, h⟩
  · have hname : isName ('/' :: list) = false := rfl
    simp only [h, hname, Bool.false_eq_true, false_or, ite_eq_left_iff, reduceCtorEq, imp_false,
      not_not, List.all_eq_true, List.cons.injEq, true_and]
    constructor
    · intro hnames
      exact ⟨Text.split ',' list, Text.split_ne_nil ',' list, hnames, (Text.join_split ',' list).symm⟩
    · rintro ⟨names, hne, hnames, rfl⟩
      -- No name has a comma, so that the list is split into the names again.
      rwa [Text.split_join hne fun name hname => notMem_name (hnames name hname) (by decide)]
  · have hslash : ¬ ∃ names : List (List Char), names ≠ [] ∧ (∀ name ∈ names, isName name = true) ∧
        inner = '/' :: Text.join ',' names := by
      rintro ⟨names, -, -, rfl⟩
      exact hhead rfl
    simp only [h, hslash, or_false, ite_eq_left_iff, reduceCtorEq, imp_false, not_not]

/-- A requirement is met exactly if it brings about no failure. -/
theorem failure?_eq_none_iff (q : Requirement) : q.failure? d = none ↔ q.IsMet d := by
  cases q with
  | placeholder inner => rw [failure?, Option.map_eq_none_iff, placeholderFault?_eq_none_iff_isMet]
  | oneGroup =>
    have hcount : (placeholders d.path.toList).countP isOptional
        = (innerTexts d).countP fun inner => inner.head? = some '/' := by
      rw [innerTexts, ← placeholders_eq]
      exact List.countP_congr fun inner _ => by rw [isOptional_iff, decide_eq_true_iff]
    rw [failure?, IsMet, hcount]
    simp
  | mediaType text =>
    rw [failure?, IsMet, ← isMediaType_iff]
    simp
  | wildcardName name => simp [failure?, IsMet]
  | pattern => exact failureOf?_compile_eq_none_iff
  | serverName name => simp [failure?, IsMet]
  | constraint name body => exact failureOf?_compile_eq_none_iff

/-! ### What a requirement reports -/

/-- The fault of a placeholder tells by its first character what it should have been. -/
theorem reports_of_placeholderFault? {inner : List Char} {fault : RouteFault}
    (h : placeholderFault? inner = some fault) : Reports d (.placeholder inner) fault := by
  rw [placeholderFault?] at h
  rcases ofInner_cases inner with ⟨list, rfl, hinner⟩ | ⟨hhead, hinner⟩
  · simp only [hinner, Option.ite_none_left_eq_some, Option.some.injEq] at h
    exact h.2 ▸ .malformedGroup rfl
  · simp only [hinner, Option.ite_none_left_eq_some, Option.some.injEq] at h
    exact h.2 ▸ .tokenName hhead

/-- A pattern that is not compiled is reported, unless a count in it is too large. -/
theorem reports_of_compile {q : Requirement} {source : String} (hsource : source ∈ q.source? d)
    {failure : Failure} (h : failureOf? (compile d.path source) = some failure) :
    (∃ fault, q.Reports d fault ∧ failure = .route d.path fault) ∨
      ∃ source ∈ q.source? d, compile d.path source = .error failure ∧ IsCountFailure failure := by
  have hcompile := failureOf?_eq_some_iff.mp h
  have hresult := hcompile
  rw [compile] at hresult
  cases hread : Pattern.compile source with
  | ok p => exact absurd hresult (by simp [hread])
  | error why =>
    rw [hread] at hresult
    cases why with
    | invalid fault =>
      exact Or.inl ⟨_, .pattern hsource hread, (Except.error.inj hresult).symm⟩
    | repetitionTooLarge =>
      obtain rfl := Except.error.inj hresult
      exact Or.inr ⟨source, hsource, hcompile, .repetitionTooLarge⟩
    | numeralTooLong digits =>
      obtain rfl := Except.error.inj hresult
      exact Or.inr ⟨source, hsource, hcompile, .numeralTooLong digits⟩

/-- A check that is made by a condition reports its fault. -/
theorem reports_of_ite {q : Requirement} {fault : RouteFault} (hreports : q.Reports d fault)
    {c : Prop} [Decidable c] {failure : Failure}
    (h : (if c then none else some (.route d.path fault)) = some failure) :
    ∃ fault, q.Reports d fault ∧ failure = .route d.path fault := by
  obtain ⟨-, hfailure⟩ := Option.ite_none_left_eq_some.mp h
  exact ⟨fault, hreports, (Option.some.inj hfailure).symm⟩

/-- **A requirement that fails reports a fault**, unless a count in its pattern is too
large. -/
theorem reports_of_failure? {q : Requirement} {failure : Failure}
    (h : q.failure? d = some failure) :
    (∃ fault, q.Reports d fault ∧ failure = .route d.path fault) ∨
      ∃ source ∈ q.source? d, compile d.path source = .error failure ∧ IsCountFailure failure := by
  cases q with
  | placeholder inner =>
    obtain ⟨fault, hfault, rfl⟩ := Option.map_eq_some_iff.mp h
    exact Or.inl ⟨fault, reports_of_placeholderFault? hfault, rfl⟩
  | oneGroup => exact Or.inl (reports_of_ite .severalGroups h)
  | mediaType text => exact Or.inl (reports_of_ite (.mediaType text) h)
  | wildcardName name => exact Or.inl (reports_of_ite (.wildcardName name) h)
  | pattern => exact reports_of_compile rfl h
  | serverName name => exact Or.inl (reports_of_ite (.serverName name) h)
  | constraint name body => exact reports_of_compile rfl h

/-! ### The outcome -/

/-- **A route is built exactly if all requirements are met, and otherwise the first that is
not met is reported.**  The report carries the template, whatever other requirements are not
met after that one.  A count in a pattern that is too large fails on its own account, and was
written in the pattern of a token or of a constraint. -/
theorem build_iff_requirements (d : RouteDefinition) :
    ((∃ r, build d = .ok r) ↔ ∀ q ∈ requirements d, q.IsMet d) ∧
      ∀ before q after, requirements d = before ++ q :: after → (∀ p ∈ before, p.IsMet d) →
        ¬ q.IsMet d →
        (∃ fault, q.Reports d fault ∧ build d = .error (.route d.path fault)) ∨
          ∃ source ∈ q.source? d, ∃ failure, IsCountFailure failure ∧
            compile d.path source = .error failure ∧ build d = .error failure ∧
            ∃ body ∈ bodies d, HasOversizedCount body := by
  constructor
  · rw [← failureOf?_eq_none_iff, failureOf?_build, List.findSome?_eq_none_iff]
    exact forall₂_congr fun q _ => failure?_eq_none_iff q
  · intro before q after hsplit hbefore hq
    have hnone : before.findSome? (failure? d) = none :=
      List.findSome?_eq_none_iff.mpr fun p hp => (failure?_eq_none_iff p).mpr (hbefore p hp)
    obtain ⟨failure, hfailure⟩ :=
      Option.ne_none_iff_exists'.mp (mt (failure?_eq_none_iff q).mp hq)
    have hbuild : build d = .error failure := by
      rw [← failureOf?_eq_some_iff, failureOf?_build, hsplit, List.findSome?_append, hnone,
        List.findSome?_cons, hfailure]
      rfl
    rcases reports_of_failure? hfailure with ⟨fault, hreports, rfl⟩ | ⟨source, hsource, hcompile, hcount⟩
    · exact Or.inl ⟨fault, hreports, hbuild⟩
    · refine Or.inr ⟨source, hsource, failure, hcount, hcompile, hbuild, ?_⟩
      rcases error_of_build hbuild with ⟨fault, rfl⟩ | ⟨-, hbody⟩
      · cases hcount
      · exact hbody

/-- A definition with a mistake of almost every kind. -/
def crowdedDefinition : RouteDefinition :=
  { path := "/{id}{/a,b}{/c}"
    tokens := [("id", .text "(")]
    wildcard := some "9w"
    accept := ["text"]
    server := [("1x", "*")] }

/-- Of many mistakes the first in the order of requirements is reported. -/
theorem build_iff_requirements_crowdedDefinition :
    build crowdedDefinition = .error (.route crowdedDefinition.path .severalGroups) := by
  have hsplit : requirements crowdedDefinition
      = [.placeholder "id".toList, .placeholder "/a,b".toList, .placeholder "/c".toList]
        ++ .oneGroup :: [.mediaType "text", .wildcardName "9w", .pattern, .serverName "1x",
          .constraint "1x" "*"] := by
    decide +kernel
  have hbefore : ∀ p ∈ [Requirement.placeholder "id".toList, .placeholder "/a,b".toList,
      .placeholder "/c".toList], p.IsMet crowdedDefinition := by
    intro p hp
    simp only [List.mem_cons, List.not_mem_nil, or_false] at hp
    rcases hp with rfl | rfl | rfl
    · exact Or.inl (by decide)
    · exact Or.inr ⟨["a".toList, "b".toList], by simp, by decide, by decide⟩
    · exact Or.inr ⟨["c".toList], by simp, by decide, by decide⟩
  have hunmet : ¬ Requirement.IsMet crowdedDefinition .oneGroup := by
    rw [IsMet]
    decide +kernel
  rcases (build_iff_requirements crowdedDefinition).2 _ _ _ hsplit hbefore hunmet with
    ⟨fault, hreports, hbuild⟩ | ⟨source, hsource, -⟩
  · cases hreports with
    | severalGroups => exact hbuild
    | pattern hsource => exact absurd hsource (by simp [source?])
  · exact absurd hsource (by simp [source?])

end RouteMatch.Route
