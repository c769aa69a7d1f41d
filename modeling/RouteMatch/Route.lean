import RouteMatch.Attributes
import RouteMatch.Pattern
import RouteMatch.Template

/-!
# Routes

A route is built once from its definition.  Building compiles the template and
the constraints on server variables, and fails if one of them is faulty; a route
that exists can be evaluated.

## Main definitions

* `Captures`, `Params` — what was captured from a path, and what is made of it.
* `Predicate` — a condition of the caller's own.
* `RouteDefinition` — what a route is built from.
* `Route`, `Route.build` — built routes.
-/

namespace RouteMatch

/-- What was captured while a path was evaluated. -/
abbrev Captures := Entries Value Value

/-- The parameters that a matching path gives. -/
abbrev Params := Entries String Value

/-- A condition of the caller's own on the attributes and the captures.  Its
verdict is a value that counts as true or false, or a tuple of such a value and
new captures. -/
abbrev Predicate := Attributes → Captures → Except Failure Value

/-- What a route is built from. -/
structure RouteDefinition where
  /-- The template. -/
  path : String
  /-- The patterns of tokens. -/
  tokens : Entries String Value := []
  /-- The defaults of parameters. -/
  values : Params := []
  /-- The name of the parameter that takes the rest of the path. -/
  wildcard : Option String := none
  /-- Whether the connection must be secure or must not. -/
  secure : Option Bool := none
  /-- The allowed methods; none allows all. -/
  methods : List String := []
  /-- The media types that the route produces. -/
  accept : List String := []
  /-- The patterns that server variables must match. -/
  server : Entries String String := []
  predicate : Option Predicate := none
  routable : Bool := true
  name : Option String := none

/-- A built route. -/
structure Route where
  definition : RouteDefinition
  pattern : Pattern
  /-- The names of the tokens, in the order of the template. -/
  names : List String
  /-- The compiled constraints on server variables. -/
  constraints : List (String × Pattern)
  /-- The defaults of parameters, with an empty one for each token that has no
  other. -/
  values : Params

namespace Route

/-- Whether a text is a media type: something on each side of one slash. -/
def isMediaType (text : List Char) : Bool :=
  match Text.cut? '/' text with
  | none => false
  | some (main, sub) => !main.isEmpty && !sub.isEmpty && !sub.contains '/'

/-- The wildcard of a definition; an empty name is none. -/
def wildcardOf (d : RouteDefinition) : Option String :=
  d.wildcard.filter (· ≠ "")

/-- The template with its optional group written with tokens. -/
def tokenTemplate (d : RouteDefinition) : List Char :=
  Template.expandOptional d.path.toList

/-- The text of the pattern of a definition. -/
def patternText (d : RouteDefinition) : String :=
  let expanded := Template.expandTokens d.tokens (tokenTemplate d)
  let whole := match wildcardOf d with
    | none => expanded
    | some w => Template.expandWildcard expanded w.toList
  String.ofList ('^' :: whole ++ ['$'])

/-- The text of the pattern of a constraint, a capturing group. -/
def constraintText (name body : String) : String :=
  String.ofList (Template.namedGroup name.toList body.toList)

/-- Compiles a pattern; a fault in it is a fault of the definition. -/
def compile (path source : String) : Except Failure Pattern :=
  match Pattern.compile source with
  | .ok p => .ok p
  | .error (.invalid fault) => .error (.route path (.pattern source fault))
  | .error .repetitionTooLarge => .error .repetitionTooLarge
  | .error (.numeralTooLong digits) => .error (.numeralTooLong digits)

/-- Compiles the constraint on a server variable. -/
def compileConstraint (path : String) (entry : String × String) :
    Except Failure (String × Pattern) :=
  if Template.isName entry.1.toList then
    (compile path (constraintText entry.1 entry.2)).map fun p => (entry.1, p)
  else .error (.route path (.serverName entry.1))

/-- Compiles constraints in order, up to the first faulty one. -/
def compileConstraints (path : String) :
    List (String × String) → Except Failure (List (String × Pattern))
  | [] => .ok []
  | entry :: rest =>
    match compileConstraint path entry with
    | .error failure => .error failure
    | .ok constraint => (compileConstraints path rest).map (constraint :: ·)

/-- What is wrong with the parts of a definition other than patterns. -/
def definitionFault? (d : RouteDefinition) : Option RouteFault :=
  match Template.validate d.path.toList with
  | .error fault => some fault
  | .ok () =>
    match d.accept.find? fun mediaType => !isMediaType mediaType.toList with
    | some mediaType => some (.mediaType mediaType)
    | none =>
      match wildcardOf d with
      | none => none
      | some w => if Template.isName w.toList then none else some (.wildcardName w)

/-- Builds a route.  The first fault in this order is reported: the placeholders,
the media types, the name of the wildcard, the pattern, the constraints. -/
def build (d : RouteDefinition) : Except Failure Route :=
  match definitionFault? d with
  | some fault => .error (.route d.path fault)
  | none =>
    match compile d.path (patternText d) with
    | .error failure => .error failure
    | .ok pattern =>
      let names := (Template.tokenNames (tokenTemplate d)).map String.ofList
      (compileConstraints d.path d.server).map fun constraints =>
        { definition := d
          pattern := pattern
          names := names
          constraints := constraints
          values := names.foldl (fun values name => values.insertNew name .none) d.values }

/-- The name that log records give a route: its own, or its template. -/
def label (r : Route) : String :=
  match r.definition.name with
  | some name => if name = "" then r.definition.path else name
  | none => r.definition.path

end Route

end RouteMatch
