import RouteMatch.Config
import RouteMatch.Negotiation
import RouteMatch.Params
import RouteMatch.Predicate

/-!
# Evaluating a path against a route

Seven checks are made in a fixed order: whether the route can be reached at all,
the security of the connection, the path, the method, the accepted media types,
the server variables, and the predicate of the route.  The first check that
rejects decides; a path that passes them all matches and gives parameters.  It is
recorded what the predicate is asked about.

## Main definitions

* `Rejection` — why a path does not match.
* `Asked` — a result, with the questions put to the predicate on the way to it.
* `Check`, `Inquiry` — a check on what has been captured so far.
* `firstRejection` — several checks in order.
* `Attempt`, `evaluation`, `evaluate` — the outcome.
* `predicateCalls` — how often the predicate of the route is asked.
-/

namespace RouteMatch

/-! ### Rejections -/

/-- Why a path does not match. -/
inductive Rejection
  | notRoutable
  | notSecure
  /-- The path is longer than the configured limit. -/
  | tooLong (length : Nat) (limit : Number)
  | path
  | method
  | accept
  /-- A server variable does not match its constraint. -/
  | server (name : String)
  | predicate
  deriving DecidableEq, Repr

/-- A rejection in words. -/
def Rejection.text : Rejection → String
  | .notRoutable => "not routable."
  | .notSecure => "not a secure match."
  | .tooLong .. | .path => "not a regex match."
  | .method => "not a method match."
  | .accept => "not an accept match."
  | .server name => "not a server match (" ++ name ++ ")."
  | .predicate => "not a custom match."

/-! ### Questions to the predicate -/

/-- A result, with the captures that the predicate was handed on the way to it: one entry for
each time it was asked. -/
structure Asked (α : Type) where
  result : Except Failure α
  questions : List Captures

namespace Asked

variable {α β : Type}

/-- A result without a question. -/
def silent (result : Except Failure α) : Asked α := ⟨result, []⟩

/-- Goes on from a result, unless it is a failure. -/
def bind (x : Asked α) (next : α → Asked β) : Asked β :=
  match x.result with
  | .error failure => ⟨.error failure, x.questions⟩
  | .ok v => ⟨(next v).result, x.questions ++ (next v).questions⟩

@[simp] theorem result_silent (result : Except Failure α) : (silent result).result = result := rfl

@[simp] theorem questions_silent (result : Except Failure α) :
    (silent result).questions = [] := rfl

@[simp] theorem bind_silent_error (failure : Failure) (next : α → Asked β) :
    (silent (.error failure)).bind next = silent (.error failure) := rfl

@[simp] theorem bind_silent_ok (v : α) (next : α → Asked β) :
    (silent (.ok v)).bind next = next v := rfl

end Asked

/-- Asks a predicate, once. -/
def Predicate.ask (predicate : Predicate) (a : Attributes) (captures : Captures) : Asked Value :=
  ⟨predicate a captures, [captures]⟩

/-! ### Checks -/

/-- The result of a check: the captures after it, and a rejection or none. -/
abbrev Outcome := Captures × Option Rejection

/-- A check that asks no predicate, given the captures before it. -/
abbrev Check := Captures → Except Failure Outcome

/-- A check that may ask the predicate. -/
abbrev Inquiry := Captures → Asked Outcome

/-- A check that asks no predicate as one that may. -/
def Check.silent (check : Check) : Inquiry := fun captures => .silent (check captures)

/-- A check that captures nothing. -/
def Check.ofBool (passed : Bool) (why : Rejection) : Check :=
  fun captures => .ok (captures, if passed then none else some why)

/-- Whether the route can be reached. -/
def checkRoutable (r : Route) : Check :=
  .ofBool r.definition.routable .notRoutable

/-- Whether the connection is as secure as the route wants it. -/
def checkSecure (r : Route) (a : Attributes) : Check := fun captures =>
  match r.definition.secure with
  | none => .ok (captures, none)
  | some wanted =>
    match a.isSecure with
    | .error failure => .error failure
    | .ok secure => Check.ofBool (wanted == secure) .notSecure captures

/-- The captures of a match of the path. -/
def pathCaptures (m : Match) : Captures :=
  m.named.map fun (name, text) =>
    (.text name, match text with
      | none => .none
      | some t => .text t)

/-- Whether a path is longer than a limit. -/
def exceeds (limit : Option Number) (length : Nat) : Option Number :=
  limit.filter fun n => (Number.int length).gt n

/-- Whether the path matches. -/
def checkPath (r : Route) (path : String) (config : Config) : Check := fun captures =>
  match exceeds config.maxPathLength path.length with
  | some limit => .ok (captures, some (.tooLong path.length limit))
  | none =>
    match r.pattern.matchAll? path with
    | none => .ok (captures, some .path)
    | some m => .ok (Entries.update captures (pathCaptures m), none)

/-- Whether the method is allowed. -/
def checkMethod (r : Route) (a : Attributes) : Check := fun captures =>
  if r.definition.methods.isEmpty then .ok (captures, none)
  else
    match a.method.checkHashable with
    | .error failure => .error failure
    | .ok () =>
      Check.ofBool (r.definition.methods.any fun m => a.method == .text m) .method captures

/-- Whether a media type of the route is accepted. -/
def checkAccept (r : Route) (a : Attributes) : Check := fun captures =>
  let mediaTypes := r.definition.accept.map String.toList
  if mediaTypes.isEmpty then .ok (captures, none)
  else
    match a.accept with
    | .none => .ok (captures, none)
    | .text header =>
      Check.ofBool (Negotiation.accepts mediaTypes (some header.toList)) .accept captures
    | v => .error (.notText v.kind)

/-- The text of a server variable; a missing one is empty. -/
def serverText (a : Attributes) (name : String) : Except Failure String :=
  ((a.server.get? (.text name)).getD (.text "")).toText

/-- Whether a server variable matches its constraint; if it does, what matched is
captured under its name. -/
def checkConstraint (a : Attributes) (constraint : String × Pattern) : Check := fun captures =>
  match serverText a constraint.1 with
  | .error failure => .error failure
  | .ok text =>
    match constraint.2.find? text with
    | none => .ok (captures, some (.server constraint.1))
    | some m =>
      let captured := match m.namedCapture? constraint.1 with
        | none => .none
        | some t => .text t
      .ok (captures.insert (.text constraint.1) captured, none)

/-- Whether the predicate of the route is in favour. -/
def checkPredicate (r : Route) (a : Attributes) : Inquiry := fun captures =>
  match r.definition.predicate with
  | none => .silent (.ok (captures, none))
  | some predicate =>
    (predicate.ask a captures).bind fun verdict =>
      .silent <| (Verdict.read captures verdict).map fun (ok, captures) =>
        (captures, if ok then none else some .predicate)

/-- Goes on with a check, unless there is a rejection. -/
def Inquiry.onward (next : Inquiry) : Outcome → Asked Outcome
  | (captures, some why) => .silent (.ok (captures, some why))
  | (captures, none) => next captures

/-- Makes checks in order, up to the first that rejects. -/
def firstRejection : List Inquiry → Inquiry
  | [], captures => .silent (.ok (captures, none))
  | check :: rest, captures => (check captures).bind (Inquiry.onward (firstRejection rest))

/-! ### The evaluation -/

/-- The outcome of evaluating a path. -/
structure Attempt where
  /-- Empty unless the path matched. -/
  params : Params
  /-- What had been captured when the evaluation ended. -/
  captures : Captures
  /-- Why the path did not match. -/
  rejection : Option Rejection
  deriving Repr

/-- Whether the path matched. -/
def Attempt.matched (a : Attempt) : Bool := a.rejection.isNone

/-- The reasons of a rejection, of which there is at most one. -/
def Attempt.debug (a : Attempt) : List String :=
  (a.rejection.map Rejection.text).toList

/-- The checks that come before the predicate. -/
def plainChecks (r : Route) (path : String) (a : Attributes) (config : Config) : List Check :=
  [checkRoutable r, checkSecure r a, checkPath r path config, checkMethod r a, checkAccept r a]
    ++ r.constraints.map (checkConstraint a)

/-- All checks. -/
def checks (r : Route) (path : String) (a : Attributes) (config : Config) : List Inquiry :=
  (plainChecks r path a config).map Check.silent ++ [checkPredicate r a]

/-- Evaluates a path against a route, and records the questions to its predicate. -/
def evaluation (r : Route) (path : String) (a : Attributes) (config : Config) : Asked Attempt :=
  (firstRejection (checks r path a config) []).bind fun
    | (captures, some why) => .silent (.ok ⟨[], captures, some why⟩)
    | (captures, none) =>
      .silent <| (extractParams r captures).map fun params => ⟨params, captures, none⟩

/-- The outcome of evaluating a path against a route. -/
def evaluate (r : Route) (path : String) (a : Attributes) (config : Config) :
    Except Failure Attempt :=
  (evaluation r path a config).result

/-- How often an evaluation asks the predicate of the route. -/
def predicateCalls (r : Route) (path : String) (a : Attributes) (config : Config) : Nat :=
  (evaluation r path a config).questions.length

end RouteMatch
