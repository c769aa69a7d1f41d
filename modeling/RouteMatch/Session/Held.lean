import RouteMatch.Session.Memory
import RouteMatch.Session.Object

/-!
# The objects of a session as they are held

Objects hold their dictionaries by reference.  A route and attributes copy what they are made
from, so that their dictionaries are their own; those that a caller made them from stay the
caller's.  A route is compiled when it is made, once and for all, and gets a new dictionary of
defaults at that.  An evaluation draws its captures in a dictionary of its own and makes its
parameters in another one.  A predicate is handed a snapshot of the captures; if it answers with
new ones, be they in the snapshot or in a dictionary that it keeps, they are copied into the
dictionary of the evaluation.  Each route and each bundle of attributes is made from dictionaries
that no other one is made from.

## Main definitions

* `Answer`, `KeepingPredicate`, `HeldPredicate` — predicates with a dictionary that they keep.
* `HeldRoute`, `HeldRoute.view?` — a route, and what it shows.
* `HeldRoute.init`, `HeldRoute.compile` — how a route is made.
* `HeldRoute.evaluate`, `HeldAttempt` — how a path is evaluated, and the outcome.
* `HeldAttributes`, `HeldAttributes.make` — attributes, and how they are made.
* `Held`, `Held.view?`, `Held.setItem` — all objects, what they show, and assignments to them.
-/

namespace RouteMatch

open RouteMatch.Action

/-! ### Looking -/

/-- What can be seen in the memory, if it can. -/
def Action.look {α : Type} (see? : Memory → Option α) : Action α := fun m =>
  match see? m with
  | some v => .ok v m
  | none => .error (.missingKey .none) m

/-- What is left of a dictionary whose keys are names. -/
def Memory.names? {β : Type} (m : Memory) (usedUp : List Nat) (ofValue : Value → Option β)
    (address : Address) : Option (Entries String β) :=
  (m.read? address).bind fun entries => Given.names? ofValue (entries.left usedUp)

/-- A value that is a text. -/
def Value.text? : Value → Option String
  | .text s => some s
  | _ => Option.none

/-! ### Predicates -/

/-- What a predicate answers, new captures as they are held. -/
inductive Answer
  /-- A verdict that was made for the occasion, and all that is in it. -/
  | verdict (v : Value)
  /-- A verdict with the snapshot for new captures. -/
  | snapshot (ok : Value)
  /-- A verdict with the dictionary for new captures that the predicate keeps. -/
  | kept (ok : Value)

/-- An answer as a verdict. -/
def Answer.toVerdict (captures kept : Captures) : Answer → Value
  | .verdict v => v
  | .snapshot ok => .tuple [ok, .dict captures]
  | .kept ok => .tuple [ok, .dict kept]

/-- A predicate that may answer with a dictionary that it keeps. -/
structure KeepingPredicate where
  answer : Attributes → Captures → Except Failure Answer
  kept : Captures := []

/-- A predicate that makes its verdicts for the occasion. -/
def KeepingPredicate.ofPredicate (p : Predicate) : KeepingPredicate where
  answer := fun a captures => (p a captures).map .verdict

/-- A predicate without regard to where its dictionaries stand. -/
def KeepingPredicate.toPredicate (p : KeepingPredicate) : Predicate :=
  fun a captures => (p.answer a captures).map (Answer.toVerdict captures p.kept)

/-- A predicate, and where its dictionary stands. -/
structure HeldPredicate where
  answer : Attributes → Captures → Except Failure Answer
  kept : Address

/-- Puts the dictionary of a predicate into the memory, if there is one. -/
def holdPredicate : Option KeepingPredicate → Action (Option HeldPredicate)
  | none => pure none
  | some p => do
    let kept ← new p.kept
    return some ⟨p.answer, kept⟩

/-- What a predicate is after objects were used up. -/
def HeldPredicate.view? (m : Memory) (usedUp : List Nat) (p : HeldPredicate) : Option Predicate :=
  (m.read? p.kept).map fun kept => KeepingPredicate.toPredicate ⟨p.answer, kept.left usedUp⟩

/-- The rejection that a verdict means, if any. -/
def verdictRejection (ok : Bool) : Option Rejection :=
  if ok then none else some .predicate

/-- Replaces the captures by what is left of a dictionary. -/
def replaceCaptures (captures updated : Address) (usedUp : List Nat) : Action Unit := do
  write captures []
  let entries ← read updated
  write captures ((← read captures).update (entries.left usedUp))

/-- Asks a predicate.  It is handed a snapshot of the captures. -/
def HeldPredicate.check (p : HeldPredicate) (a : Attributes) (usedUp : List Nat)
    (captures : Address) : Action (Option Rejection) := do
  let snapshot ← copy captures
  let handed ← read snapshot
  match ← ofResult (p.answer a handed) with
  | .verdict v =>
    let (ok, after) ← ofResult (Verdict.read (← read captures) v)
    write captures after
    return verdictRejection ok
  | .snapshot ok =>
    replaceCaptures captures snapshot []
    return verdictRejection ok.isTrue
  | .kept ok =>
    replaceCaptures captures p.kept usedUp
    return verdictRejection ok.isTrue

/-! ### Routes -/

/-- What compiling a route gives. -/
structure Compiled where
  /-- Each time something is compiled there is a new number. -/
  number : Nat
  pattern : Pattern
  names : List String
  constraints : List (String × Pattern)
  /-- The defaults of parameters, with an empty one for each token that has no other. -/
  values : Address

/-- A route. -/
structure HeldRoute where
  /-- The definition without its dictionaries and its predicate. -/
  plain : RouteDefinition
  tokens : Address
  /-- The defaults as they were given. -/
  values : Address
  server : Address
  predicate : Option HeldPredicate
  /-- Nothing while the route is being made. -/
  compiled : Option Compiled

/-- The dictionaries of the caller that a route was made from. -/
structure HeldGiven where
  tokens : Address
  values : Address
  server : Address

/-- The address of one of the dictionaries. -/
def HeldGiven.address (given : HeldGiven) : GivenField → Address
  | .tokens => given.tokens
  | .values => given.values
  | .server => given.server

/-- The dictionaries of the caller as they are. -/
def HeldGiven.view? (m : Memory) (given : HeldGiven) : Option Given :=
  match m.read? given.tokens, m.read? given.values, m.read? given.server with
  | some tokens, some values, some server => some ⟨tokens, values, server⟩
  | _, _, _ => none

/-- Puts the dictionaries of a definition into the memory. -/
def HeldGiven.hold (d : RouteDefinition) : Action HeldGiven := do
  let tokens ← new (Given.named id d.tokens)
  let values ← new (Given.named id d.values)
  let server ← new (Given.named .text d.server)
  return ⟨tokens, values, server⟩

/-- Copies the dictionaries of a caller. -/
def HeldGiven.copy (given : HeldGiven) : Action HeldGiven := do
  let tokens ← Action.copy given.tokens
  let values ← Action.copy given.values
  let server ← Action.copy given.server
  return ⟨tokens, values, server⟩

/-- A definition without its dictionaries and its predicate. -/
def RouteDefinition.plain (d : RouteDefinition) : RouteDefinition :=
  { d with tokens := [], values := [], server := [], predicate := none }

/-- A definition with another predicate, if there is one. -/
def RouteDefinition.keeping (d : RouteDefinition) (p : Option KeepingPredicate) :
    RouteDefinition :=
  match p with
  | none => d
  | some p => { d with predicate := some p.toPredicate }

/-- The predicate of a definition, if there is no other one. -/
def RouteDefinition.kept? (d : RouteDefinition) (p : Option KeepingPredicate) :
    Option KeepingPredicate :=
  p.or (d.predicate.map .ofPredicate)

namespace HeldRoute

/-- What the predicate of a route, if it has one, is after objects were used up. -/
def predicate? (m : Memory) (usedUp : List Nat) (h : HeldRoute) : Option (Option Predicate) :=
  match h.predicate with
  | none => some none
  | some p => (p.view? m usedUp).map some

/-- The definition of a route after objects were used up. -/
def definition? (m : Memory) (usedUp : List Nat) (h : HeldRoute) : Option RouteDefinition :=
  match m.names? usedUp some h.tokens, m.names? usedUp some h.values,
    m.names? usedUp Value.text? h.server, h.predicate? m usedUp with
  | some tokens, some values, some server, some predicate =>
    some { h.plain with
      tokens := tokens
      values := values
      server := server
      predicate := predicate }
  | _, _, _, _ => none

/-- A route after objects were used up.  Without any of them, this is what it shows. -/
def view? (m : Memory) (usedUp : List Nat) (h : HeldRoute) : Option Route :=
  match h.compiled, h.definition? m usedUp with
  | some c, some d =>
    (m.names? usedUp some c.values).map fun values =>
      { definition := d
        pattern := c.pattern
        names := c.names
        constraints := c.constraints
        values := values }
  | _, _ => none

/-- Compiles a route, unless that has been done. -/
def compile (h : HeldRoute) : Action (HeldRoute × Compiled) := do
  match h.compiled with
  | some c => return (h, c)
  | none =>
    let d ← look (h.definition? · [])
    let r ← ofResult (Route.build d)
    let c : Compiled :=
      { number := ← nextPattern
        pattern := r.pattern
        names := r.names
        constraints := r.constraints
        values := ← new (Given.named id r.values) }
    return ({ h with compiled := some c }, c)

/-- Makes a route from the dictionaries of a caller, and compiles it. -/
def init (plain : RouteDefinition) (predicate : Option HeldPredicate) (given : HeldGiven) :
    Action HeldRoute := do
  let own ← given.copy
  let (h, _) ← compile
    { plain := plain
      tokens := own.tokens
      values := own.values
      server := own.server
      predicate := predicate
      compiled := none }
  return h

/-- Makes a route, and the dictionaries that a caller makes it from. -/
def build (d : RouteDefinition) (p : Option KeepingPredicate) : Action (HeldRoute × HeldGiven) := do
  let predicate ← holdPredicate (d.kept? p)
  let given ← HeldGiven.hold d
  let h ← init d.plain predicate given
  return (h, given)

end HeldRoute

/-! ### Evaluations -/

/-- Makes a check on the captures. -/
def Check.on (check : Check) (captures : Address) : Action (Option Rejection) := do
  let (after, why) ← ofResult (check (← read captures))
  write captures after
  return why

/-- Makes checks in order, up to the first that rejects. -/
def Action.firstRejection : List (Action (Option Rejection)) → Action (Option Rejection)
  | [] => pure none
  | check :: rest => do
    match ← check with
    | some why => return some why
    | none => firstRejection rest

/-- Puts captures over parameters.  Only captures with a name count. -/
def overlayAll (params : Address) : Captures → Action Unit
  | [] => pure ()
  | (.text name, value) :: rest => do
    if isMissing value then overlayAll params rest
    else
      insert params (.text name) (decodeCapture value)
      overlayAll params rest
  | _ :: rest => overlayAll params rest

/-- The pieces of a wildcard value, which are listed. -/
def split (value : Value) : Action (List Value) := do
  if value.isTrue then useUp value
  ofResult (splitWildcard value)

/-- The outcome of an evaluation. -/
structure HeldAttempt where
  route : HeldRoute
  params : Address
  captures : Address
  rejection : Option Rejection

namespace HeldRoute

/-- Asks the predicate of a route, if it has one. -/
def checkPredicate (h : HeldRoute) (a : Attributes) (usedUp : List Nat) (captures : Address) :
    Action (Option Rejection) :=
  match h.predicate with
  | none => pure none
  | some p => p.check a usedUp captures

/-- Makes the parameters that captures give. -/
def extractParams (h : HeldRoute) (values captures : Address) (usedUp : List Nat) :
    Action Address := do
  let defaults ← read values
  let params ← new (defaults.left usedUp)
  overlayAll params (← read captures)
  match Route.wildcardOf h.plain with
  | none => return params
  | some w =>
    let value := ((← read params).get? (.text w)).getD .none
    let pieces ← split value
    insert params (.text w) (.list pieces)
    return params

/-- Evaluates a path against a route.  What objects that were used up before have left counts. -/
def evaluate (h : HeldRoute) (path : String) (a : Attributes) (config : Config) :
    Action HeldAttempt := do
  let usedUp := (← get).usedUp
  let (h, c) ← h.compile
  let r ← look (h.view? · usedUp)
  let captures ← new []
  let checks := (plainChecks r path a config).map (Check.on · captures)
    ++ [h.checkPredicate a usedUp captures]
  match ← Action.firstRejection checks with
  | some why => return ⟨h, ← new [], captures, some why⟩
  | none => return ⟨h, ← h.extractParams c.values captures usedUp, captures, none⟩

end HeldRoute

/-- What an outcome shows. -/
def HeldAttempt.view? (m : Memory) (h : HeldAttempt) : Option KeptAttempt :=
  match h.route.view? m [], m.read? h.params, m.read? h.captures with
  | some route, some params, some captures =>
    some
      { route := route
        matched := h.rejection.isNone
        params := params
        captures := captures
        debug := (h.rejection.map Rejection.text).toList }
  | _, _, _ => none

/-! ### Attributes -/

/-- The attributes of a request. -/
structure HeldAttributes where
  /-- The attributes without their variables. -/
  plain : Attributes
  server : Address
  /-- The dictionary of the caller. -/
  given : Address

namespace HeldAttributes

/-- What attributes show. -/
def view? (m : Memory) (h : HeldAttributes) : Option Attributes :=
  (m.read? h.server).map fun server => { h.plain with server := server }

/-- Makes attributes with variables that are passed in a dictionary. -/
def init (plain : Attributes) (given passed : Address) : Action HeldAttributes := do
  let server ← copy passed
  return ⟨{ plain with server := [] }, server, given⟩

/-- Makes attributes, and the dictionary that a caller makes them from.  The variables of an
environment and of a scope are passed in a dictionary that is made for them. -/
def make (source : AttributesSource) : Action HeldAttributes := do
  let usedUp := (← get).usedUp
  match source with
  | .fields method https port accept server =>
    useUp server
    let given ← new (← ofResult (server.left usedUp).entries)
    init ⟨method, https, port, accept, []⟩ given given
  | source =>
    let given ← new source.given
    let a ← ofResult (Attributes.ofSource source)
    let passed ← new a.server
    init a given passed

end HeldAttributes

/-! ### Objects -/

/-- An object. -/
inductive Held
  | route (route : HeldRoute) (given : HeldGiven)
  | attributes (attributes : HeldAttributes)
  | config (config : Config)
  | attempt (attempt : HeldAttempt)

namespace Held

/-- What an object shows. -/
def view? (m : Memory) : Held → Option Object
  | .route h given =>
    match h.view? m [], given.view? m with
    | some r, some given => some (.route r given)
    | _, _ => none
  | .attributes h => (h.view? m).map .attributes
  | .config c => some (.config c)
  | .attempt h => (h.view? m).map .attempt

/-- What an object shows now. -/
def look (h : Held) : Action Object :=
  Action.look h.view?

/-- Does what an action does, and looks at the object that comes of it. -/
def showing {α : Type} (toHeld : α → Held) (action : Action α) : Action (α × Object) := do
  let v ← action
  let o ← (toHeld v).look
  return (v, o)

/-- Puts a value under a key of a dictionary, if it can be a key. -/
def assign (address : Address) (key value : Value) : Action Value := do
  ofResult key.checkHashable
  insert address key value
  return .dict (← read address)

/-- Refuses an assignment to an entry of a field. -/
def refuse (h : Held) (field : String) : Action (Held × Value) := do
  let shown ← h.look
  throw (shown.refusal field)

/-- Assigns to an entry of a field.  Gives the object after it and what the field holds then. -/
def setItem (h : Held) (field : String) (key value : Value) : Action (Held × Value) :=
  match h with
  | .route .. => h.refuse field
  | .attributes a => do
    let shown ← Action.look a.view?
    let (after, now) ← ofResult (shown.setItem field key value)
    return (.attributes { a with plain := { after with server := [] } }, now)
  | .config c => do
    let (after, now) ← ofResult (c.setItem field key value)
    return (.config after, now)
  | .attempt a =>
    if field = "params" then do return (h, ← assign a.params key value)
    else if field = "captures" then do return (h, ← assign a.captures key value)
    else h.refuse field

end Held

end RouteMatch
