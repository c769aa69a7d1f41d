import RouteMatch.Evaluation

/-!
# The log

Building a route and evaluating a path leave records in a log.  What they leave
is a function of their inputs and results.

## Main definitions

* `Level`, `LogRecord` — the records.
* `buildLog` — the records of building a route.
* `evaluationLog` — the records of an evaluation.
-/

namespace RouteMatch

open Text (quote)

/-- How grave a record is. -/
inductive Level
  | debug
  | warning
  deriving DecidableEq, Repr

/-- The name of a level. -/
def Level.text : Level → String
  | .debug => "DEBUG"
  | .warning => "WARNING"

/-- A record of the log. -/
structure LogRecord where
  level : Level
  message : String
  deriving DecidableEq, Repr

/-- The records of building a route: one if it succeeds. -/
def buildLog (built : Except Failure Route) : List LogRecord :=
  match built with
  | .error _ => []
  | .ok r => [⟨.debug, "Compiled route " ++ quote r.definition.path ++ " to " ++ r.pattern.source⟩]

/-- The record that a path is too long. -/
def tooLongRecord (r : Route) (length : Nat) (limit : Number) : LogRecord :=
  ⟨.warning, "Path of length " ++ toString length ++ " exceeds limit "
    ++ toString (limit.truncate?.getD 0) ++ " for route " ++ quote r.definition.path⟩

/-- The record of a rejection. -/
def rejectionRecord (r : Route) (path : String) (why : Rejection) : LogRecord :=
  ⟨.debug, "Route " ++ quote r.label ++ " rejected " ++ quote path ++ ": " ++ why.text⟩

/-- The records of an evaluation: a warning if the path is too long, and the
rejection if the configuration asks for it. -/
def evaluationLog (r : Route) (path : String) (config : Config)
    (outcome : Except Failure Attempt) : List LogRecord :=
  match outcome with
  | .error _ => []
  | .ok attempt =>
    match attempt.rejection with
    | none => []
    | some why =>
      (match why with
        | .tooLong length limit => [tooLongRecord r length limit]
        | _ => [])
      ++ (if config.logRejections.isTrue then [rejectionRecord r path why] else [])

end RouteMatch
