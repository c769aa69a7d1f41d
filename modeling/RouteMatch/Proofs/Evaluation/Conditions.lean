import RouteMatch.Evaluation

/-!
# The conditions of a match

A path matches a route if seven conditions hold.  Each condition has an answer of
its own, which does not mention the order in which the checks of an evaluation are
made or where they stop: it holds, it does not hold, or asking for it fails.  Only
the last condition depends on what was captured, by the path and by the
constraints on server variables.

An evaluation asks the conditions in order and stops at the first that does not
hold.

## Main definitions

* `Condition`, `Condition.answer` — the conditions and their answers.
* `Condition.left` — what has been captured after a condition was asked.
* `Condition.reason` — what is said of a condition that does not hold.
* `Condition.Reached` — every earlier condition holds.
* `attemptOf` — what the predicate decides.

## Main results

* `firstRejection_checksOf` — the checks of one condition give its answer.
* `firstRejection_flatMap` — the checks of several conditions stop at the first
  that does not hold.
* `evaluation_eq`, `evaluate_eq` — **the outcome of an evaluation in terms of the
  conditions.**
* `evaluate_of_not_holds`, `evaluate_of_reached` — an evaluation is decided by an earlier
  condition or by the predicate.
* `evaluate_eq_ok` — what an attempt tells of the conditions.
-/

namespace RouteMatch

/-! ### What is captured -/

section Captures

variable (r : Route) (path : String) (a : Attributes) (config : Config)

/-- The match of a path that is within the limit on its length. -/
def pathMatch? : Option Match :=
  if (exceeds config.maxPathLength path.length).isNone then r.pattern.matchAll? path else none

/-- What the named groups of the pattern captured; nothing if the path does not
match. -/
def groupCaptures : Captures :=
  (pathMatch? r path config).elim [] fun m => Entries.update [] (pathCaptures m)

/-- What a constraint captures from its server variable, if it is found there. -/
def constraintCapture? (constraint : String × Pattern) : Option Value :=
  (serverText a constraint.1).toOption.bind fun text =>
    (constraint.2.find? text).map fun m => (m.namedCapture? constraint.1).elim .none .text

/-- The first constraint that is not found. -/
def missingConstraint? : Option (String × Pattern) :=
  r.constraints.find? fun c => (constraintCapture? a c).isNone

/-- What has been captured after the constraints were tried, up to the first that
is not found. -/
def serverCaptures : Captures :=
  (r.constraints.takeWhile fun c => (constraintCapture? a c).isSome).foldl
    (fun captures c => captures.insert (.text c.1) ((constraintCapture? a c).getD .none))
    (groupCaptures r path config)

/-- The verdict of the predicate of a route, and the captures after it.  Without
one everything is in favour. -/
def judgement (captures : Captures) : Except Failure (Bool × Captures) :=
  match r.definition.predicate with
  | none => .ok (true, captures)
  | some predicate =>
    match predicate a captures with
    | .error failure => .error failure
    | .ok verdict => Verdict.read captures verdict

end Captures

/-- The attempt that a verdict of the predicate decides, given the captures after it. -/
def attemptOf (r : Route) (outcome : Bool × Captures) : Except Failure Attempt :=
  if outcome.1 then (extractParams r outcome.2).map fun params => ⟨params, outcome.2, none⟩
  else .ok ⟨[], outcome.2, some .predicate⟩

/-! ### Conditions -/

/-- The conditions of a match. -/
inductive Condition
  | routable
  | secure
  /-- The path is within the limit on its length, and all of it matches. -/
  | path
  | method
  | accept
  /-- Every constraint is found in its server variable. -/
  | server
  | predicate
  deriving DecidableEq, Repr

namespace Condition

/-- All conditions, in the order in which they are asked. -/
def all : List Condition :=
  [.routable, .secure, .path, .method, .accept, .server, .predicate]

/-- The conditions before one. -/
def earlier (c : Condition) : List Condition :=
  all.takeWhile (· ≠ c)

section

variable (r : Route) (path : String) (a : Attributes) (config : Config)

/-- Whether a condition holds, or why that cannot be told. -/
def answer : Condition → Except Failure Bool
  | .routable => .ok r.definition.routable
  | .secure =>
    match r.definition.secure with
    | none => .ok true
    | some wanted => a.isSecure.map fun secure => wanted == secure
  | .path => .ok (pathMatch? r path config).isSome
  | .method =>
    if r.definition.methods = [] then .ok true
    else a.method.checkHashable.map fun _ => r.definition.methods.any fun m => a.method == .text m
  | .accept =>
    if r.definition.accept = [] then .ok true
    else
      match a.accept with
      | .none => .ok true
      | .text header =>
        .ok (Negotiation.accepts (r.definition.accept.map String.toList) (some header.toList))
      | v => .error (.notText v.kind)
  | .server =>
    match missingConstraint? r a with
    | none => .ok true
    | some c => (serverText a c.1).map fun _ => false
  | .predicate => (judgement r a (serverCaptures r path a config)).map Prod.fst

/-- Whether a condition is known to hold. -/
def holds (c : Condition) : Bool :=
  match c.answer r path a config with
  | .ok b => b
  | .error _ => false

/-- Every earlier condition holds. -/
def Reached (c : Condition) : Prop :=
  ∀ c' ∈ c.earlier, c'.holds r path a config = true

/-- What has been captured after a condition was asked. -/
def left : Condition → Captures
  | .routable | .secure => []
  | .path | .method | .accept => groupCaptures r path config
  | .server => serverCaptures r path a config
  | .predicate =>
    match judgement r a (serverCaptures r path a config) with
    | .ok (_, captures) => captures
    | .error _ => serverCaptures r path a config

/-- What is said of a condition that does not hold.  Of the constraints the first
one that is not found is named. -/
def reason : Condition → String
  | .routable => "not routable."
  | .secure => "not a secure match."
  | .path => "not a regex match."
  | .method => "not a method match."
  | .accept => "not an accept match."
  | .server =>
    "not a server match (" ++ (missingConstraint? r a).elim "" Prod.fst ++ ")."
  | .predicate => "not a custom match."

/-! ### Conditions as checks -/

/-- What has been captured before a condition is asked. -/
def entering : Condition → Captures
  | .routable | .secure | .path => []
  | .method | .accept | .server => groupCaptures r path config
  | .predicate => serverCaptures r path a config

/-- The checks that a condition is asked by. -/
def checksOf : Condition → List Inquiry
  | .routable => [Check.silent (checkRoutable r)]
  | .secure => [Check.silent (checkSecure r a)]
  | .path => [Check.silent (checkPath r path config)]
  | .method => [Check.silent (checkMethod r a)]
  | .accept => [Check.silent (checkAccept r a)]
  | .server => (r.constraints.map (checkConstraint a)).map Check.silent
  | .predicate => [checkPredicate r a]

/-- What the predicate is asked about when a condition is asked. -/
def questions : Condition → List Captures
  | .predicate =>
    if r.definition.predicate.isSome then [serverCaptures r path a config] else []
  | _ => []

/-- What the predicate is asked about when conditions are asked, up to the first that does not
hold. -/
def questionsAlong : List Condition → List Captures
  | [] => []
  | c :: rest =>
    c.questions r path a config
      ++ if c.holds r path a config = true then questionsAlong rest else []

/-- The rejection by a condition that does not hold. -/
def rejection : Condition → Rejection
  | .routable => .notRoutable
  | .secure => .notSecure
  | .path =>
    match exceeds config.maxPathLength path.length with
    | some limit => .tooLong path.length limit
    | none => .path
  | .method => .method
  | .accept => .accept
  | .server => .server ((missingConstraint? r a).elim "" Prod.fst)
  | .predicate => .predicate

end

end Condition

/-! ### One condition -/

section

variable {r : Route} {path : String} {a : Attributes} {config : Config}

theorem Condition.holds_iff {c : Condition} :
    c.holds r path a config = true ↔ c.answer r path a config = .ok true := by
  unfold Condition.holds
  cases c.answer r path a config with
  | error failure => simp
  | ok b => simp

theorem text_rejection (c : Condition) :
    (c.rejection r path a config).text = c.reason r a := by
  cases c with
  | path =>
    rw [Condition.rejection]
    cases exceeds config.maxPathLength path.length <;> rfl
  | _ => rfl

theorem Asked.bind_assoc {α β γ : Type} (x : Asked α) (f : α → Asked β) (g : β → Asked γ) :
    (x.bind f).bind g = x.bind fun v => (f v).bind g := by
  obtain ⟨result, questions⟩ := x
  cases result with
  | error failure => rfl
  | ok v =>
    simp only [Asked.bind]
    cases (f v).result with
    | error failure => rfl
    | ok w => simp only [List.append_assoc]

/-- Checks in two groups. -/
theorem firstRejection_append (front back : List Inquiry) (captures : Captures) :
    firstRejection (front ++ back) captures
      = (firstRejection front captures).bind (Inquiry.onward (firstRejection back)) := by
  induction front generalizing captures with
  | nil => simp [firstRejection, Inquiry.onward]
  | cons check rest ih =>
    rw [List.cons_append, firstRejection, firstRejection, Asked.bind_assoc]
    congr 1
    funext outcome
    obtain ⟨captures, rejection⟩ := outcome
    cases rejection with
    | some why => rfl
    | none => exact ih captures

theorem firstRejection_singleton (check : Inquiry) (captures : Captures) :
    firstRejection [check] captures = check captures := by
  rw [firstRejection]
  obtain ⟨result, questions⟩ := check captures
  cases result with
  | error failure => rfl
  | ok outcome =>
    obtain ⟨captures, rejection⟩ := outcome
    cases rejection <;> simp [Asked.bind, Inquiry.onward, firstRejection]

theorem checkConstraint_eq (constraint : String × Pattern) (captures : Captures) :
    checkConstraint a constraint captures
      = match constraintCapture? a constraint with
        | none => (serverText a constraint.1).map fun _ => (captures, some (.server constraint.1))
        | some v => .ok (captures.insert (.text constraint.1) v, none) := by
  unfold checkConstraint constraintCapture?
  cases serverText a constraint.1 with
  | error failure => rfl
  | ok text =>
    simp only [Except.toOption, Option.bind_some, Except.map]
    cases constraint.2.find? text with
    | none => rfl
    | some m => cases h : m.namedCapture? constraint.1 <;> simp [h]

theorem checkPredicate_eq (captures : Captures) :
    checkPredicate r a captures
      = ⟨(judgement r a captures).map fun (ok, captures) =>
          (captures, if ok then none else some .predicate),
        if r.definition.predicate.isSome then [captures] else []⟩ := by
  unfold checkPredicate judgement
  cases r.definition.predicate with
  | none => rfl
  | some predicate =>
    simp only [Predicate.ask, Asked.bind]
    cases predicate a captures <;> rfl

/-- Trying constraints: each that is found adds its capture, and the first that is
not found rejects. -/
theorem firstRejection_constraints (constraints : List (String × Pattern)) (captures : Captures) :
    firstRejection ((constraints.map (checkConstraint a)).map Check.silent) captures
      = .silent
        (let found := (constraints.takeWhile fun c => (constraintCapture? a c).isSome).foldl
          (fun captures c => captures.insert (.text c.1) ((constraintCapture? a c).getD .none))
          captures
        match constraints.find? fun c => (constraintCapture? a c).isNone with
        | none => .ok (found, none)
        | some c => (serverText a c.1).map fun _ => (found, some (.server c.1))) := by
  induction constraints generalizing captures with
  | nil => rfl
  | cons constraint rest ih =>
    rw [List.map_cons, List.map_cons, firstRejection, Check.silent, checkConstraint_eq]
    cases h : constraintCapture? a constraint with
    | none =>
      cases htext : serverText a constraint.1 <;> simp [h, htext, Except.map, Inquiry.onward]
    | some v =>
      rw [Asked.bind_silent_ok, Inquiry.onward, ih]
      simp [h]

theorem holds_server_iff :
    Condition.server.holds r path a config = true ↔
      ∀ c ∈ r.constraints, (constraintCapture? a c).isSome = true := by
  have hmissing : missingConstraint? r a = none ↔
      ∀ c ∈ r.constraints, (constraintCapture? a c).isSome = true := by
    rw [missingConstraint?, List.find?_eq_none]
    refine forall₂_congr fun c _ => ?_
    cases constraintCapture? a c <;> simp
  rw [Condition.holds_iff, Condition.answer, ← hmissing]
  cases missingConstraint? r a with
  | none => simp
  | some c => cases h : serverText a c.1 <;> simp [Except.map, h]

/-- **The checks of one condition give its answer.** -/
theorem firstRejection_checksOf (c : Condition) :
    firstRejection (c.checksOf r path a config) (c.entering r path a config)
      = ⟨(c.answer r path a config).map fun ok =>
          (c.left r path a config, if ok then none else some (c.rejection r path a config)),
        c.questions r path a config⟩ := by
  cases c with
  | routable => exact firstRejection_singleton _ _
  | secure =>
    rw [Condition.checksOf, firstRejection_singleton, Check.silent, checkSecure, Condition.answer]
    cases r.definition.secure with
    | none => rfl
    | some wanted => cases a.isSecure <;> rfl
  | path =>
    rw [Condition.checksOf, firstRejection_singleton, Check.silent, checkPath]
    simp only [Condition.answer, Condition.left, Condition.rejection, Condition.entering,
      groupCaptures, pathMatch?]
    cases exceeds config.maxPathLength path.length with
    | some limit => rfl
    | none => cases r.pattern.matchAll? path <;> rfl
  | method =>
    rw [Condition.checksOf, firstRejection_singleton, Check.silent, checkMethod, Condition.answer]
    cases r.definition.methods with
    | nil => rfl
    | cons m rest => cases a.method.checkHashable <;> rfl
  | accept =>
    rw [Condition.checksOf, firstRejection_singleton, Check.silent, checkAccept, Condition.answer]
    cases r.definition.accept with
    | nil => rfl
    | cons m rest => cases a.accept <;> rfl
  | server =>
    rw [Condition.checksOf, firstRejection_constraints]
    simp only [Condition.answer, Condition.left, Condition.rejection, Condition.entering,
      serverCaptures, missingConstraint?]
    cases r.constraints.find? fun c => (constraintCapture? a c).isNone with
    | none => rfl
    | some c =>
      simp only []
      cases serverText a c.1 <;> rfl
  | predicate =>
    rw [Condition.checksOf, firstRejection_singleton, checkPredicate_eq]
    simp only [Condition.answer, Condition.left, Condition.rejection, Condition.entering]
    cases judgement r a (serverCaptures r path a config) <;> rfl

/-! ### All conditions -/

/-- Each of several conditions is asked with the captures that the one before it
left. -/
def Linked (r : Route) (path : String) (a : Attributes) (config : Config) :
    Captures → List Condition → Prop
  | _, [] => True
  | captures, c :: rest =>
    captures = c.entering r path a config ∧ Linked r path a config (c.left r path a config) rest

theorem linked_all : Linked r path a config [] Condition.all :=
  ⟨rfl, rfl, rfl, rfl, rfl, rfl, rfl, trivial⟩

/-- **The checks of several conditions stop at the first that does not hold.** -/
theorem firstRejection_flatMap {captures : Captures} {cs : List Condition}
    (h : Linked r path a config captures cs) :
    firstRejection (cs.flatMap (Condition.checksOf r path a config)) captures
      = ⟨match cs.find? fun c => !c.holds r path a config with
          | none => .ok (cs.foldl (fun _ c => c.left r path a config) captures, none)
          | some c =>
            (c.answer r path a config).map fun _ =>
              (c.left r path a config, some (c.rejection r path a config)),
        Condition.questionsAlong r path a config cs⟩ := by
  induction cs generalizing captures with
  | nil => rfl
  | cons c rest ih =>
    obtain ⟨rfl, hrest⟩ := h
    rw [List.flatMap_cons, firstRejection_append, firstRejection_checksOf, List.find?_cons,
      Condition.questionsAlong, Condition.holds]
    cases hc : c.answer r path a config with
    | error failure => simp [Asked.bind, Except.map, hc]
    | ok b =>
      cases b with
      | false => simp [Asked.bind, Except.map, hc, Inquiry.onward]
      | true => simp [Asked.bind, Except.map, Inquiry.onward, ih hrest]

/-- Where a search stops: at a member that is accepted, with no accepted one in
front of it. -/
theorem find?_eq_some_iff_takeWhile {cs : List Condition} {accepts : Condition → Bool}
    {c : Condition} (hc : c ∈ cs) :
    cs.find? accepts = some c ↔
      accepts c = true ∧ ∀ c' ∈ cs.takeWhile (· ≠ c), accepts c' = false := by
  induction cs with
  | nil => exact absurd hc List.not_mem_nil
  | cons d rest ih =>
    by_cases hdc : d = c
    · subst hdc
      cases h : accepts d <;> simp [h]
      intro hfind
      have := List.find?_some hfind
      rw [h] at this
      exact absurd this (by decide)
    · have hrest : c ∈ rest := (List.mem_cons.mp hc).resolve_left (Ne.symm hdc)
      cases h : accepts d with
      | true => simp [h, hdc]
      | false => simp [h, hdc, ih hrest]

theorem Condition.mem_all (c : Condition) : c ∈ Condition.all := by
  cases c <;> decide

/-- All conditions but the predicate come before it. -/
theorem Condition.mem_earlier_predicate (c : Condition) (h : c ≠ .predicate) :
    c ∈ Condition.predicate.earlier := by
  cases c with
  | predicate => exact absurd rfl h
  | _ => decide

theorem Condition.predicate_notMem_earlier (c : Condition) : .predicate ∉ c.earlier := by
  cases c <;> decide

/-- The search for a condition that does not hold finds the one that is reached. -/
theorem find?_not_holds_eq_some_iff {c : Condition} :
    (Condition.all.find? fun c => !c.holds r path a config) = some c ↔
      c.Reached r path a config ∧ c.holds r path a config = false := by
  rw [find?_eq_some_iff_takeWhile c.mem_all, Condition.Reached, Condition.earlier]
  simp only [Bool.not_eq_true', Bool.not_eq_false']
  exact and_comm

instance (c : Condition) : Decidable (c.Reached r path a config) :=
  inferInstanceAs (Decidable (∀ c' ∈ c.earlier, c'.holds r path a config = true))

theorem checks_eq_flatMap :
    checks r path a config = Condition.all.flatMap (Condition.checksOf r path a config) := by
  simp [checks, plainChecks, Condition.all, Condition.checksOf]

/-- What the predicate is asked about along conditions of which it is the last: one thing, if
all others hold. -/
theorem questionsAlong_append_predicate {cs : List Condition} (h : .predicate ∉ cs) :
    Condition.questionsAlong r path a config (cs ++ [.predicate])
      = if ∀ c ∈ cs, c.holds r path a config = true then
          Condition.predicate.questions r path a config
        else [] := by
  induction cs with
  | nil => simp [Condition.questionsAlong]
  | cons c rest ih =>
    obtain ⟨hc, hrest⟩ := not_or.mp (mt List.mem_cons.mpr h)
    have hquiet : c.questions r path a config = [] := by
      cases c with
      | predicate => exact absurd rfl hc
      | _ => rfl
    rw [List.cons_append, Condition.questionsAlong, hquiet, List.nil_append, ih hrest]
    cases hholds : c.holds r path a config <;> simp [hholds]

/-- An evaluation rejects by the first condition that does not hold; if all hold, it gives what
was captured to the parameters.  The predicate is asked once if it is reached, and otherwise
never. -/
theorem evaluation_eq :
    evaluation r path a config
      = ⟨(Condition.all.find? fun c => !c.holds r path a config).elim
          ((extractParams r (Condition.predicate.left r path a config)).map fun params =>
            ⟨params, Condition.predicate.left r path a config, none⟩)
          fun c => (c.answer r path a config).map fun _ =>
            ⟨[], c.left r path a config, some (c.rejection r path a config)⟩,
        if Condition.predicate.Reached r path a config then
          Condition.predicate.questions r path a config
        else []⟩ := by
  have hlinked : Linked r path a config [] Condition.all := linked_all
  have hquestions : Condition.questionsAlong r path a config Condition.all
      = if Condition.predicate.Reached r path a config then
          Condition.predicate.questions r path a config
        else [] :=
    questionsAlong_append_predicate (by decide : .predicate ∉ Condition.predicate.earlier)
  rw [evaluation, checks_eq_flatMap, firstRejection_flatMap hlinked, hquestions, Asked.bind]
  cases Condition.all.find? fun c => !c.holds r path a config with
  | none => simp [Condition.all]
  | some c => cases h : c.answer r path a config <;> simp [h, Except.map]

theorem evaluate_eq :
    evaluate r path a config
      = (Condition.all.find? fun c => !c.holds r path a config).elim
        ((extractParams r (Condition.predicate.left r path a config)).map fun params =>
          ⟨params, Condition.predicate.left r path a config, none⟩)
        fun c => (c.answer r path a config).map fun _ =>
          ⟨[], c.left r path a config, some (c.rejection r path a config)⟩ := by
  rw [evaluate, evaluation_eq]

/-- If all conditions hold, what was captured is given to the parameters. -/
theorem evaluate_of_holds (h : ∀ c : Condition, c.holds r path a config = true) :
    evaluate r path a config
      = (extractParams r (Condition.predicate.left r path a config)).map fun params =>
        ⟨params, Condition.predicate.left r path a config, none⟩ := by
  have hall : Condition.all.find? (fun c => !c.holds r path a config) = none := by
    rw [List.find?_eq_none]
    intro c _
    rw [h c]
    decide
  rw [evaluate_eq, hall, Option.elim_none]

/-- A condition that is reached and does not hold decides an evaluation. -/
theorem evaluate_of_not_holds {c : Condition} (hreached : c.Reached r path a config)
    (h : c.holds r path a config = false) :
    evaluate r path a config
      = (c.answer r path a config).map fun _ =>
        ⟨[], c.left r path a config, some (c.rejection r path a config)⟩ := by
  rw [evaluate_eq, find?_not_holds_eq_some_iff.mpr ⟨hreached, h⟩]
  rfl

/-- If the predicate is reached and in favour, all conditions hold. -/
theorem forall_holds_of_reached (hreached : Condition.predicate.Reached r path a config)
    (h : Condition.predicate.holds r path a config = true) (c : Condition) :
    c.holds r path a config = true := by
  by_cases hc : c = .predicate
  · rw [hc]
    exact h
  · exact hreached c (c.mem_earlier_predicate hc)

/-- The predicate decides an evaluation that reaches it. -/
theorem evaluate_of_reached (h : Condition.predicate.Reached r path a config) :
    evaluate r path a config
      = (judgement r a (serverCaptures r path a config)).bind (attemptOf r) := by
  cases hholds : Condition.predicate.holds r path a config with
  | false =>
    rw [evaluate_of_not_holds h hholds]
    rw [Condition.holds] at hholds
    rw [Condition.answer, Condition.left, Condition.rejection] at *
    cases hjudgement : judgement r a (serverCaptures r path a config) with
    | error failure => rfl
    | ok outcome =>
      obtain ⟨ok, captures⟩ := outcome
      rw [hjudgement] at hholds
      obtain rfl : ok = false := hholds
      rfl
  | true =>
    rw [evaluate_of_holds (forall_holds_of_reached h hholds), Condition.left]
    rw [Condition.holds, Condition.answer] at hholds
    cases hjudgement : judgement r a (serverCaptures r path a config) with
    | error failure =>
      rw [hjudgement] at hholds
      exact absurd hholds (by simp [Except.map])
    | ok outcome =>
      obtain ⟨ok, captures⟩ := outcome
      rw [hjudgement] at hholds
      obtain rfl : ok = true := hholds
      rfl

/-- The predicate is reached, or an earlier condition is reached and does not hold. -/
theorem predicate_reached_or_exists (r : Route) (path : String) (a : Attributes)
    (config : Config) :
    Condition.predicate.Reached r path a config ∨
      ∃ c : Condition, c ≠ .predicate ∧ c.Reached r path a config ∧
        c.holds r path a config = false := by
  by_cases h : Condition.predicate.Reached r path a config
  · exact Or.inl h
  · right
    cases hfind : Condition.all.find? fun c => !c.holds r path a config with
    | none =>
      refine absurd (fun c _ => ?_) h
      simpa using List.find?_eq_none.mp hfind c c.mem_all
    | some c =>
      obtain ⟨hreached, hc⟩ := find?_not_holds_eq_some_iff.mp hfind
      refine ⟨c, ?_, hreached, hc⟩
      rintro rfl
      exact h hreached

/-- What an attempt tells: all conditions hold, and its parameters are those of what was
captured; or a condition does not hold that was reached. -/
theorem evaluate_eq_ok {attempt : Attempt} (h : evaluate r path a config = .ok attempt) :
    ((∀ c : Condition, c.holds r path a config = true) ∧
        ∃ params, extractParams r (Condition.predicate.left r path a config) = .ok params ∧
          attempt = ⟨params, Condition.predicate.left r path a config, none⟩) ∨
      ∃ c : Condition, c.Reached r path a config ∧ c.answer r path a config = .ok false ∧
        attempt = ⟨[], c.left r path a config, some (c.rejection r path a config)⟩ := by
  rw [evaluate_eq] at h
  cases hfind : Condition.all.find? fun c => !c.holds r path a config with
  | none =>
    left
    rw [hfind, Option.elim_none] at h
    obtain ⟨params, hextract, rfl⟩ := map_eq_ok h
    refine ⟨?_, params, hextract, rfl⟩
    intro c
    simpa using List.find?_eq_none.mp hfind c c.mem_all
  | some c =>
    right
    rw [hfind, Option.elim_some] at h
    obtain ⟨b, hb, rfl⟩ := map_eq_ok h
    obtain ⟨hreached, hc⟩ := find?_not_holds_eq_some_iff.mp hfind
    rw [Condition.holds, hb] at hc
    exact ⟨c, hreached, hc ▸ hb, rfl⟩

end

end RouteMatch
