import RouteMatch.Trial

/-!
# What the objects of a session show

A caller holds routes, attributes, configurations and outcomes of evaluations.  Here is what they
show when they are looked at.  None of their fields can be assigned to.  The dictionaries of an
outcome belong to whoever asked for it and can be written to; those of a route and of attributes
cannot.  A list or a dictionary that stands in another field of attributes or of a configuration
can be written to as well.

## Main definitions

* `Given` — the dictionaries that a caller built a route from.
* `KeptAttempt` — an outcome with dictionaries of its own.
* `Object` — the objects.
* `Object.same` — equality of objects.
* `Object.unhashable?` — why an object cannot be a key.
* `Value.setItem` — an assignment to an item of a value.
* `Attributes.setItem`, `Config.setItem`, `Object.refusal`, `Object.setField` — assignments.
-/

namespace RouteMatch

/-! ### What a caller holds -/

/-- The dictionaries that a route was built from.  They stay the caller's: the
route has copies. -/
structure Given where
  tokens : Entries Value Value
  values : Entries Value Value
  server : Entries Value Value
  deriving Repr

/-- Which of them. -/
inductive GivenField
  | tokens
  | values
  | server
  deriving DecidableEq, Repr

namespace Given

/-- A dictionary whose keys are names. -/
def named {β : Type} (toValue : β → Value) (entries : Entries String β) : Entries Value Value :=
  entries.map fun (name, v) => (.text name, toValue v)

/-- The entries of a dictionary whose keys are names, if they are. -/
def names? {β : Type} (ofValue : Value → Option β) :
    Entries Value Value → Option (Entries String β)
  | [] => some []
  | (.text name, v) :: rest =>
    match ofValue v, names? ofValue rest with
    | some b, some entries => some ((name, b) :: entries)
    | _, _ => none
  | _ :: _ => none

/-- The dictionaries in a definition. -/
def ofDefinition (d : RouteDefinition) : Given where
  tokens := named id d.tokens
  values := named id d.values
  server := named .text d.server

/-- Writes to one of the dictionaries. -/
def insert (g : Given) (field : GivenField) (key value : Value) : Given :=
  match field with
  | .tokens => { g with tokens := g.tokens.insert key value }
  | .values => { g with values := g.values.insert key value }
  | .server => { g with server := g.server.insert key value }

end Given

/-- The outcome of an evaluation, with dictionaries that can be written to. -/
structure KeptAttempt where
  route : Route
  matched : Bool
  params : Entries Value Value
  captures : Entries Value Value
  debug : List String

/-- The outcome of evaluating a route, to be kept. -/
def KeptAttempt.ofAttempt (r : Route) (a : Attempt) : KeptAttempt where
  route := r
  matched := a.matched
  params := Given.named id a.params
  captures := a.captures
  debug := a.debug

/-- An object of a session. -/
inductive Object
  | route (route : Route) (given : Given)
  | attributes (attributes : Attributes)
  | config (config : Config)
  | attempt (attempt : KeptAttempt)

/-! ### Equality -/

/-- Whether two dictionaries have equal entries, in whatever order. -/
def sameEntries (es fs : Entries Value Value) : Bool :=
  Value.same (.dict es) (.dict fs)

/-- Whether two lists have the same members. -/
def sameMembers (xs ys : List String) : Bool :=
  xs.all ys.contains && ys.all xs.contains

/-- Whether two routes are equal.  Patterns of tokens, defaults, constraints and
the predicate do not count. -/
def Route.same (r s : Route) : Bool :=
  let (d, e) := (r.definition, s.definition)
  d.path == e.path && d.wildcard == e.wildcard && d.secure == e.secure
    && sameMembers d.methods e.methods && d.accept == e.accept
    && d.routable == e.routable && d.name == e.name

/-- Whether two bundles of attributes are equal. -/
def Attributes.same (a b : Attributes) : Bool :=
  a.method == b.method && a.https == b.https && a.port == b.port && a.accept == b.accept
    && sameEntries a.server b.server

/-- Whether two configurations are equal. -/
def Config.same (c d : Config) : Bool :=
  c.limitValue == d.limitValue && c.logRejections == d.logRejections

/-- Whether two outcomes are equal. -/
def KeptAttempt.same (a b : KeptAttempt) : Bool :=
  a.route.same b.route && a.matched == b.matched && sameEntries a.params b.params
    && sameEntries a.captures b.captures && a.debug == b.debug

namespace Object

/-- Whether two objects are equal; objects of different kinds are not. -/
def same : Object → Object → Bool
  | .route r _, .route s _ => r.same s
  | .attributes a, .attributes b => a.same b
  | .config c, .config d => c.same d
  | .attempt a, .attempt b => a.same b
  | _, _ => false

/-- The kind of value that keeps an object from being a key.  Objects with
dictionaries cannot be keys, except for routes, whose dictionaries do not
count. -/
def unhashable? : Object → Option Kind
  | .route .. => none
  | .attributes a =>
    ([a.method, a.https, a.port, a.accept].findSome? Value.unhashable?).or (some .view)
  | .config c => c.logRejections.unhashable?
  | .attempt _ => some .dict

/-- Fails for an object that cannot be a key. -/
def checkHashable (o : Object) : Except Failure Unit :=
  match o.unhashable? with
  | some kind => .error (.unhashable kind)
  | none => .ok ()

/-- Whether an object counts as true: an outcome does if the path matched, all
else always. -/
def isTrue : Object → Bool
  | .attempt a => a.matched
  | _ => true

/-! ### Assignments -/

/-- The kind of an object. -/
def kind : Object → Kind
  | .route .. => .route
  | .attributes _ => .attributes
  | .config _ => .config
  | .attempt _ => .attempt

/-- The names of an object's fields. -/
def fields : Object → List String
  | .route .. =>
    ["path", "tokens", "values", "wildcard", "secure", "methods", "accept", "server", "is_match",
      "routable", "name", "compiled"]
  | .attributes _ => ["method", "https", "port", "accept", "server"]
  | .config _ => ["max_path_length", "log_rejections"]
  | .attempt _ => ["route", "matched", "params", "captures", "debug"]

/-- The kind of an optional value, which is of kind `present` if it is there. -/
def optionalKind {α : Type} (present : Kind) (value : Option α) : Kind :=
  match value with
  | none => .nothing
  | some _ => present

/-- The kind of value that a field holds. -/
def fieldKind (o : Object) (field : String) : Except Failure Kind :=
  match o, field with
  | .route .., "path" | .route .., "pattern" => .ok .text
  | .route .., "tokens" | .route .., "values" | .route .., "server" => .ok .view
  | .route r _, "wildcard" => .ok (optionalKind .text r.definition.wildcard)
  | .route r _, "secure" => .ok (optionalKind .bool r.definition.secure)
  | .route .., "methods" => .ok .set
  | .route .., "accept" => .ok .tuple
  | .route r _, "is_match" => .ok (optionalKind .function r.definition.predicate)
  | .route .., "routable" => .ok .bool
  | .route r _, "name" => .ok (optionalKind .text r.definition.name)
  | .route .., "compiled" => .ok .pattern
  | .attributes _, "server" => .ok .view
  | .attributes _, "from_environ" | .attributes _, "from_asgi" => .ok .method
  | .attributes a, field => (a.field field).map fun v => (v.getD .none).kind
  | .config c, "max_path_length" => .ok c.limitValue.kind
  | .config c, "log_rejections" => .ok c.logRejections.kind
  | .attempt _, "route" => .ok .route
  | .attempt _, "matched" => .ok .bool
  | .attempt _, "params" | .attempt _, "captures" => .ok .dict
  | .attempt _, "debug" => .ok .tuple
  | o, field => .error (.noAttribute o.kind field)

/-- Why the entries of a field cannot be assigned to. -/
def refusal (o : Object) (field : String) : Failure :=
  match o.fieldKind field with
  | .error failure => failure
  | .ok kind => .readOnly kind

/-- Why a field of an object cannot be assigned to.  None can. -/
def setField (o : Object) (field : String) : Failure :=
  if o.fields.contains field then .frozen field else .foreignField

end Object

/-! ### Items of values -/

/-- Items go by numbers below this one, and not below its negative. -/
def itemNumberLimit : Int := 0x8000000000000000

/-- The place in a list that goes by a number; negative numbers count from the end. -/
def placeOf (length : Nat) (number : Int) : Except Failure Nat :=
  let place := if number < 0 then number + length else number
  if number < -itemNumberLimit ∨ itemNumberLimit ≤ number then .error .itemNumberTooLarge
  else if place < 0 ∨ length ≤ place then .error .assignmentOutOfRange
  else .ok place.toNat

/-- A value after an assignment to one of its items.  Lists and dictionaries have items that can be
assigned to. -/
def Value.setItem (v key value : Value) : Except Failure Value :=
  match v with
  | .list items =>
    match key with
    | .number (.int i) => (placeOf items.length i).map fun place => .list (items.set place value)
    | .number (.bool b) =>
      (placeOf items.length b.toInt).map fun place => .list (items.set place value)
    | key => .error (.itemNumber key.kind)
  | .dict entries => key.checkHashable.map fun _ => .dict (Entries.insert key value entries)
  | v => .error (.readOnly v.kind)

/-- Attributes after an assignment to an item of a field, and what the field holds then. -/
def Attributes.setItem (a : Attributes) (field : String) (key value : Value) :
    Except Failure (Attributes × Value) :=
  match field with
  | "method" => (a.method.setItem key value).map fun v => ({ a with method := v }, v)
  | "https" => (a.https.setItem key value).map fun v => ({ a with https := v }, v)
  | "port" => (a.port.setItem key value).map fun v => ({ a with port := v }, v)
  | "accept" => (a.accept.setItem key value).map fun v => ({ a with accept := v }, v)
  | field => .error ((Object.attributes a).refusal field)

/-- A configuration after an assignment to an item of a field, and what the field holds then. -/
def Config.setItem (c : Config) (field : String) (key value : Value) :
    Except Failure (Config × Value) :=
  match field with
  | "log_rejections" =>
    (c.logRejections.setItem key value).map fun v => ({ c with logRejections := v }, v)
  | field => .error ((Object.config c).refusal field)

end RouteMatch
