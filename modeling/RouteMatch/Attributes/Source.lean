import RouteMatch.Attributes

/-!
# Where request attributes come from

## Main definitions

* `AttributesSource` — attributes one by one, an environment, or a connection
  scope.
* `Attributes.ofSource` — the attributes that a source gives.
* `AttributesSource.given` — the entries of the caller's dictionary.
-/

namespace RouteMatch

/-- What the attributes of a request are made from. -/
inductive AttributesSource
  /-- The attributes one by one, the variables as a value that has entries. -/
  | fields (method https port accept server : Value)
  /-- An environment, if the value is a dictionary. -/
  | environment (entries : Value)
  | scope (scope : Scope)
  deriving Repr

/-- The attributes that a source gives. -/
def Attributes.ofSource : AttributesSource → Except Failure Attributes
  | .fields method https port accept server =>
    server.entries.map fun entries => ⟨method, https, port, accept, entries⟩
  | .environment (.dict entries) => ofEnvironment (Entries.ofList entries)
  | .environment v => .error (.noAttribute v.kind "get")
  | .scope scope => ofScope scope

/-- The entries of the dictionary that a caller hands over. -/
def AttributesSource.given : AttributesSource → Entries Value Value
  | .fields _ _ _ _ server => server.entries.toOption.getD []
  | .environment (.dict entries) => Entries.ofList entries
  | .environment _ => []
  | .scope s => s.entries

end RouteMatch
