import RouteMatch.Attributes.Source
import RouteMatch.Journal

/-!
# Trials

A trial builds a route, the attributes of a request and a configuration, in this
order, and evaluates a path with them.

## Main definitions

* `Trial` — what is tried.
* `Trial.outcome` — what comes of it.
* `Trial.calls` — how often the predicate of the route is asked.
* `Trial.records` — what is left in the log.
-/

namespace RouteMatch

/-- What an evaluation starts from. -/
structure Trial where
  definition : RouteDefinition
  path : String
  attributes : AttributesSource
  config : ConfigSource := {}

namespace Trial

/-- What a route is evaluated with. -/
structure Setup where
  route : Route
  attributes : Attributes
  config : Config

/-- Builds all that is needed, up to the first failure. -/
def setup (t : Trial) : Except Failure Setup :=
  match Route.build t.definition with
  | .error failure => .error failure
  | .ok route =>
    match Attributes.ofSource t.attributes with
    | .error failure => .error failure
    | .ok attributes =>
      (Config.ofSource t.config).map fun config => ⟨route, attributes, config⟩

/-- The outcome of a trial. -/
def outcome (t : Trial) : Except Failure Attempt :=
  match t.setup with
  | .error failure => .error failure
  | .ok s => evaluate s.route t.path s.attributes s.config

/-- How often the predicate of the route is asked. -/
def calls (t : Trial) : Nat :=
  match t.setup with
  | .error _ => 0
  | .ok s => predicateCalls s.route t.path s.attributes s.config

/-- The records of a trial. -/
def records (t : Trial) : List LogRecord :=
  buildLog (Route.build t.definition) ++
    match t.setup with
    | .error _ => []
    | .ok s => evaluationLog s.route t.path s.config t.outcome

end Trial

end RouteMatch
