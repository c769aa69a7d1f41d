/-!
# Kinds

Messages name the kind of the thing that they are about.

## Main definitions

* `Kind` — the kinds of values and objects.
* `Kind.name` — their names.
-/

namespace RouteMatch

/-- The kind of a value or of an object. -/
inductive Kind
  | nothing
  | bool
  | int
  | float
  | text
  | list
  | tuple
  | dict
  /-- A dictionary that can only be looked at. -/
  | view
  | set
  | function
  | method
  | pattern
  | route
  | attributes
  | config
  | attempt
  /-- A kind of its own, by its name. -/
  | other (name : String)
  deriving DecidableEq, Repr

/-- The name of a kind. -/
def Kind.name : Kind → String
  | .nothing => "NoneType"
  | .bool => "bool"
  | .int => "int"
  | .float => "float"
  | .text => "str"
  | .list => "list"
  | .tuple => "tuple"
  | .dict => "dict"
  | .view => "mappingproxy"
  | .set => "frozenset"
  | .function => "function"
  | .method => "method"
  | .pattern => "CompiledPattern"
  | .route => "RouteSpec"
  | .attributes => "RequestAttributes"
  | .config => "MatchConfig"
  | .attempt => "MatchAttempt"
  | .other name => name

end RouteMatch
