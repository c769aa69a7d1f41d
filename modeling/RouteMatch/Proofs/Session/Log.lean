import RouteMatch.Proofs.Evaluation.Limits
import RouteMatch.Proofs.Session.Steps

/-!
# The log of a session

What a step leaves in the log can be told from the step and from the session before it, without
following its checks: a route that is built is noted, and an evaluation leaves a warning about a
path that is too long and a note of its rejection.  The log of a run is what its steps leave, one
after the other.

A configuration decides on these records and on the limit, and on nothing else.

## Main definitions

* `warnings` — the warnings of an evaluation.
* `rejectionNotes` — what is noted of a rejection.
* `Session.recordsOf` — the records of a step.
* `Session.history` — the steps of a run, each with the session before it.

## Main results

* `evaluationLog_eq` — the records of an evaluation.
* `Session.records_step`, `Session.records_run` — the records of a step and of a run.
* `Session.config_limits_and_logs` — **a configuration only limits and logs, and the log is
  exact.**
-/

namespace RouteMatch

open Text (quote)

/-! ### The records of an evaluation -/

section

variable (r : Route) (path : String) (a : Attributes) (config : Config)

/-- The warnings of an evaluation: one if the route can be reached, the connection is as secure
as the route wants it, and the path is longer than the limit. -/
def warnings : List LogRecord :=
  if Condition.routable.holds r path a config = true ∧
      Condition.secure.holds r path a config = true then
    (exceeds config.maxPathLength path.length).toList.map (tooLongRecord r path.length)
  else []

/-- What is noted of a rejection, if the configuration asks for it: the reason of the attempt. -/
def rejectionNotes (outcome : Except Failure Attempt) : List LogRecord :=
  if config.logRejections.isTrue = true then
    (outcome.toOption.elim [] Attempt.debug).map fun reason =>
      ⟨.debug, "Route " ++ quote r.label ++ " rejected " ++ quote path ++ ": " ++ reason⟩
  else []

variable {r path a config}

/-- There is no warning if the path is not asked for. -/
theorem warnings_of_not_holds {c : Condition} (hc : c = .routable ∨ c = .secure)
    (h : c.holds r path a config = false) : warnings r path a config = [] := by
  apply if_neg
  rintro ⟨hroutable, hsecure⟩
  rcases hc with rfl | rfl
  · rw [h] at hroutable
    cases hroutable
  · rw [h] at hsecure
    cases hsecure

/-- There is no warning about a path within the limit. -/
theorem warnings_of_within (h : exceeds config.maxPathLength path.length = none) :
    warnings r path a config = [] := by
  rw [warnings, h]
  split <;> rfl

/-- The warning about a path that is too long. -/
theorem warnings_of_exceeds (hreached : Condition.path.Reached r path a config) {limit : Number}
    (h : exceeds config.maxPathLength path.length = some limit) :
    warnings r path a config = [tooLongRecord r path.length limit] := by
  have hholds : Condition.routable.holds r path a config = true ∧
      Condition.secure.holds r path a config = true :=
    ⟨hreached .routable (by decide), hreached .secure (by decide)⟩
  rw [warnings, if_pos hholds, h]
  rfl

/-- An evaluation that fails has found the path within the limit, or has not asked for it. -/
theorem warnings_of_error {why : Failure} (h : evaluate r path a config = .error why) :
    warnings r path a config = [] := by
  unfold warnings
  split
  · next hholds =>
    cases hexceeds : exceeds config.maxPathLength path.length with
    | none => rfl
    | some limit =>
      -- The path decides the evaluation, and its check does not fail.
      have hreached : Condition.path.Reached r path a config := by
        intro c hc
        rcases (by decide +revert : c = .routable ∨ c = .secure) with rfl | rfl
        · exact hholds.1
        · exact hholds.2
      have hpath : Condition.path.holds r path a config = false := by
        rw [Condition.holds, Condition.answer, pathMatch?, hexceeds]
        rfl
      rw [evaluate_of_not_holds hreached hpath] at h
      cases h
  · rfl

/-- **The records of an evaluation**: its warnings, and then the note of its rejection. -/
theorem evaluationLog_eq :
    evaluationLog r path config (evaluate r path a config)
      = warnings r path a config ++ rejectionNotes r path config (evaluate r path a config) := by
  cases heval : evaluate r path a config with
  | error why =>
    rw [warnings_of_error heval]
    simp [evaluationLog, rejectionNotes, Except.toOption]
  | ok attempt =>
    rcases evaluate_eq_ok heval with ⟨hholds, params, -, rfl⟩ | ⟨c, hreached, hanswer, rfl⟩
    · rw [warnings_of_within (exceeds_of_holds (hholds .path))]
      simp [evaluationLog, rejectionNotes, Except.toOption, Attempt.debug]
    · have hholds : c.holds r path a config = false := by
        rw [Condition.holds, hanswer]
      cases c with
      | routable =>
        rw [warnings_of_not_holds (Or.inl rfl) hholds]
        rfl
      | secure =>
        rw [warnings_of_not_holds (Or.inr rfl) hholds]
        rfl
      | path =>
        rw [Condition.rejection]
        cases hexceeds : exceeds config.maxPathLength path.length with
        | none =>
          rw [warnings_of_within hexceeds]
          rfl
        | some limit =>
          rw [warnings_of_exceeds hreached hexceeds]
          rfl
      | _ =>
        -- The path has passed its check before.
        rw [warnings_of_within (exceeds_of_holds (hreached .path (by decide)))]
        rfl

end

/-! ### The records of a run -/

namespace Session

/-- The records of a step. -/
def recordsOf (s : Session) : Step → List LogRecord
  | .buildRoute _ d p =>
    (Route.build (d.keeping p)).toOption.toList.map fun r =>
      ⟨.debug, "Compiled route " ++ quote d.path ++ " to " ++ r.pattern.source⟩
  | .evaluate route path attributes config _ =>
    (s.setup route attributes config).toOption.elim [] fun setup =>
      warnings setup.route path setup.attributes setup.config
        ++ rejectionNotes setup.route path setup.config
          (RouteMatch.evaluate setup.route path setup.attributes setup.config)
  | _ => []

/-- The steps of a run, each with the session before it. -/
def history (s : Session) : List Step → List (Session × Step)
  | [] => []
  | first :: rest => (s, first) :: (s.step first).session.history rest

variable {s : Session}

theorem buildLog_eq (d : RouteDefinition) :
    buildLog (Route.build d)
      = (Route.build d).toOption.toList.map fun r =>
        ⟨.debug, "Compiled route " ++ quote d.path ++ " to " ++ r.pattern.source⟩ := by
  cases hbuild : Route.build d with
  | error why => rfl
  | ok r =>
    rw [buildLog, Route.definition_of_build hbuild]
    rfl

theorem records_buildRoute (s : Session) (name : String) (d : RouteDefinition)
    (p : Option KeepingPredicate) :
    (s.buildRoute name d p).records = s.recordsOf (.buildRoute name d p) := by
  have hpath : (d.keeping p).path = d.path := by cases p <;> rfl
  have hlog : (s.buildRoute name d p).records = buildLog (Route.build (d.keeping p)) := by
    rcases buildRoute_cases s name d p with ⟨why, m, hbuild, -, heq⟩ | ⟨h, r, m, hbuild, -, -, heq⟩
    · rw [heq, hbuild]
      rfl
    · rw [heq, hbuild]
  rw [hlog, buildLog_eq, hpath]
  rfl

theorem records_evaluate (s : Session) (route path : String)
    (attributes config keep : Option String) :
    (s.evaluate route path attributes config keep).records
      = s.recordsOf (.evaluate route path attributes config keep) := by
  rw [recordsOf]
  cases hsetup : s.setup route attributes config with
  | error why =>
    rw [evaluate_of_setup_error hsetup]
    rfl
  | ok setup =>
    show _ = warnings setup.route path setup.attributes setup.config ++ _
    rw [← evaluationLog_eq]
    rcases evaluate_cases hsetup path keep with
      ⟨why, m, heval, -, heq⟩ | ⟨held, attempt, m, r, given, heval, -, -, -, -, heq⟩
    · rw [heq, heval]
      rfl
    · rw [heq, heval]

/-- **The records of a step.** -/
theorem records_step (s : Session) (st : Step) : (s.step st).records = s.recordsOf st := by
  cases st with
  | buildRoute name d p => exact records_buildRoute s name d p
  | evaluate route path attributes config keep =>
    exact records_evaluate s route path attributes config keep
  | makeConfig name source =>
    rcases makeConfig_cases s name source with ⟨why, m, -, -, heq⟩ | ⟨h, c, m, -, -, -, heq⟩
    · exact congrArg Effect.records heq
    · exact congrArg Effect.records heq
  | makeAttributes name source =>
    rcases makeAttributes_cases s name source with ⟨why, m, -, -, heq⟩ | ⟨h, a, m, -, -, -, heq⟩
    · exact congrArg Effect.records heq
    · exact congrArg Effect.records heq
  | recompile route =>
    rw [step, recompile]
    split
    · rfl
    · split <;> rfl
  | changeGiven route field key value =>
    rw [step, changeGiven]
    split
    · rfl
    · rfl
    · split <;> rfl
  | changeServer attributes key value =>
    rw [step, changeServer]
    split
    · split <;> rfl
    · rfl
  | setItem name field key value =>
    rw [step, setItem]
    split
    · rfl
    · split <;> rfl
  | _ => rfl

/-- **The records of a run**, by induction on its steps. -/
theorem records_run (s : Session) (steps : List Step) :
    (s.run steps).records
      = (s.history steps).flatMap fun entry => entry.1.recordsOf entry.2 := by
  induction steps generalizing s with
  | nil => rfl
  | cons first rest ih => rw [run_cons, history, List.flatMap_cons, ← records_step, ← ih]

/-- An evaluation that leaves records has rejected the path. -/
theorem exists_rejected_of_records {r : Route} {path : String} {a : Attributes} {config : Config}
    (h : warnings r path a config
      ++ rejectionNotes r path config (RouteMatch.evaluate r path a config) ≠ []) :
    ∃ attempt, RouteMatch.evaluate r path a config = .ok attempt ∧ attempt.matched = false := by
  rw [← evaluationLog_eq] at h
  cases heval : RouteMatch.evaluate r path a config with
  | error why =>
    rw [heval] at h
    exact absurd rfl h
  | ok attempt =>
    obtain ⟨params, captures, rejection⟩ := attempt
    cases rejection with
    | some why => exact ⟨_, rfl, rfl⟩
    | none =>
      rw [heval] at h
      exact absurd rfl h

/-- **A configuration only limits and logs, and the log is exact.**  Two configurations for which
a path is too long or for which it is not give attempts with the same route, verdict, parameters,
captures and reasons, or the same failure.  A match stays the same match if the limit is raised or
dropped.  The log of a run is what its steps leave, one after the other: a route that is built, one
record; an evaluation, one warning if the route can be reached, the connection is as secure as
wanted and the path is too long, and then one record with the reason of the attempt if it is
rejected and the configuration asks for it; any other step, nothing.  An evaluation that matches or
fails leaves nothing. -/
theorem config_limits_and_logs :
    (∀ (r : Route) (path : String) (a : Attributes) (config config' : Config),
      (exceeds config.maxPathLength path.length).isSome
          = (exceeds config'.maxPathLength path.length).isSome →
        Corresponds (fun x y => KeptAttempt.ofAttempt r x = KeptAttempt.ofAttempt r y)
          (RouteMatch.evaluate r path a config) (RouteMatch.evaluate r path a config')) ∧
    (∀ (r : Route) (path : String) (a : Attributes) (config config' : Config) (attempt : Attempt),
      config.IsWidenedBy config' → RouteMatch.evaluate r path a config = .ok attempt →
        attempt.matched = true → RouteMatch.evaluate r path a config' = .ok attempt) ∧
    (∀ (s : Session) (steps : List Step),
      (s.run steps).records
        = (s.history steps).flatMap fun entry => entry.1.recordsOf entry.2) ∧
    ∀ (r : Route) (path : String) (a : Attributes) (config : Config),
      warnings r path a config
          ++ rejectionNotes r path config (RouteMatch.evaluate r path a config) ≠ [] →
        ∃ attempt, RouteMatch.evaluate r path a config = .ok attempt ∧ attempt.matched = false := by
  refine ⟨?_, ?_, records_run, ?_⟩
  · intro r path a config config' h
    exact evaluate_of_exceeds_congr h
  · intro r path a config config' attempt hwider heval hmatched
    exact evaluate_of_isWidenedBy hwider heval hmatched
  · intro r path a config h
    exact exists_rejected_of_records h

/-- The definition of a route that only a secure connection can match. -/
def ledgerDefinition : RouteDefinition :=
  { path := "/led/{id}"
    secure := some false }

/-- A route is built, another one is not, and paths are evaluated: one that is too long for a
configuration without notes, one that matches and one that does not. -/
def ledgerSteps : List Step :=
  [.makeConfig "narrow" { maxPathLength := .int 5, logRejections := .none },
    .buildRoute "r" ledgerDefinition,
    .buildRoute "broken" { path := "/led/(" },
    .recompile "r",
    .evaluate "r" "/led/17" none (some "narrow") none,
    .evaluate "r" "/led/17" none none none,
    .evaluate "r" "/led/" none none none]

theorem config_limits_and_logs_ledgerSteps :
    (Session.run {} ledgerSteps).records.map LogRecord.level = [.debug, .warning, .debug] ∧
      ((Session.history {} ledgerSteps).flatMap fun entry => entry.1.recordsOf entry.2).map
        LogRecord.level = [.debug, .warning, .debug] ∧
      ∃ r attempt rejected, Route.build ledgerDefinition = .ok r ∧
        attempt.matched = true ∧ rejected.matched = false ∧
        RouteMatch.evaluate r "/led/17" {} { maxPathLength := some (.int 7) } = .ok attempt ∧
        RouteMatch.evaluate r "/led/17" {} { maxPathLength := none } = .ok attempt ∧
        RouteMatch.evaluate r "/led/17" {} { maxPathLength := some (.int 5) } = .ok rejected ∧
        Corresponds (fun x y => KeptAttempt.ofAttempt r x = KeptAttempt.ofAttempt r y)
          (.ok rejected)
          (RouteMatch.evaluate r "/led/17" {} { maxPathLength := some (.bool true) }) := by
  obtain ⟨hagree, hwiden, hrecords, hrejected⟩ := config_limits_and_logs
  have hlevels : (Session.run {} ledgerSteps).records.map LogRecord.level
      = [.debug, .warning, .debug] := by
    decide +kernel
  obtain ⟨r, hbuild, hr⟩ : ∃ r, Route.build ledgerDefinition = .ok r ∧
      (((RouteMatch.evaluate r "/led/17" {} { maxPathLength := some (.int 7) }).toOption.any
          Attempt.matched)
        && !(warnings r "/led/17" {} { maxPathLength := some (.int 5) }).isEmpty) = true :=
    exists_of_any_toOption (by decide +kernel)
  obtain ⟨hmatches, hwarned⟩ := Bool.and_eq_true_iff.mp hr
  obtain ⟨attempt, heval, hmatched⟩ := exists_of_any_toOption hmatches
  obtain ⟨rejected, hshort, hnot⟩ :=
    hrejected r "/led/17" {} { maxPathLength := some (.int 5) } (by
      intro hnil
      rw [(List.append_eq_nil_iff.mp hnil).1] at hwarned
      cases hwarned)
  have hsame := hagree r "/led/17" {} { maxPathLength := some (.int 5) }
    { maxPathLength := some (.bool true) } (by decide)
  rw [hshort] at hsame
  have hwider :
      Config.IsWidenedBy { maxPathLength := some (.int 7) } { maxPathLength := none } := by
    intro n hn
    cases hn
  exact ⟨hlevels, hrecords {} ledgerSteps ▸ hlevels, r, attempt, rejected, hbuild, hmatched, hnot,
    heval, hwiden r "/led/17" {} _ _ attempt hwider heval hmatched, hshort, hsame⟩

end Session

end RouteMatch
