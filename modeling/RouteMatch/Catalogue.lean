import RouteMatch.Failure

/-!
# The catalogue

Programs ask for the parts of the library by name.  Some names of the catalogue
stand for plain values, which do not know their own names.

## Main definitions

* `catalogue` — the names with what they stand for.
* `ownName` — the name of a part, asked for by name.
-/

namespace RouteMatch

/-- What a name of the catalogue stands for. -/
inductive Part
  /-- A type or function, which knows its name. -/
  | definition
  /-- A plain value of some kind. -/
  | value (kind : Kind)
  deriving DecidableEq, Repr

/-- The names of the library with what they stand for. -/
def catalogue : List (String × Part) :=
  [("CompiledPattern", .definition),
    ("ConfigurationError", .definition),
    ("MatchAttempt", .definition),
    ("MatchConfig", .definition),
    ("RequestAttributes", .definition),
    ("RoostError", .definition),
    ("RouteConfigurationError", .definition),
    ("RouteSpec", .definition),
    ("compile_route", .definition),
    ("evaluate", .definition),
    ("__version__", .value .text),
    ("__all__", .value .list)]

/-- The name of a part, asked for by name. -/
def ownName (name : String) : Except Failure String :=
  match catalogue.lookup name with
  | none => .error (.notExported name)
  | some .definition => .ok name
  | some (.value kind) => .error (.noAttribute kind "__name__")

end RouteMatch
