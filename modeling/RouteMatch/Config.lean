import RouteMatch.Failure

/-!
# Configuration of evaluations

## Main definitions

* `Config` — the limit on the length of paths and whether rejections are noted.
* `ConfigSource`, `Config.ofSource` — a configuration from values, if they make
  sense.
-/

namespace RouteMatch

/-- How paths are evaluated. -/
structure Config where
  /-- Longer paths are rejected unseen; none is no limit. -/
  maxPathLength : Option Number := some (.int 4096)
  /-- Whether a rejection is noted in the log. -/
  logRejections : Value := .bool true
  deriving Repr

/-- The values that a configuration is made from. -/
structure ConfigSource where
  maxPathLength : Value := .int 4096
  logRejections : Value := .bool true
  deriving Repr

/-- A configuration from values: the limit is missing or a positive number. -/
def Config.ofSource (s : ConfigSource) : Except Failure Config :=
  match s.maxPathLength with
  | .none => .ok ⟨none, s.logRejections⟩
  | .number n =>
    if n.le (.int 0) then .error (.pathLimit n) else .ok ⟨some n, s.logRejections⟩
  | v => .error (.unordered v.kind)

/-- The limit of a configuration as a value. -/
def Config.limitValue (c : Config) : Value :=
  c.maxPathLength.elim .none .number

end RouteMatch
