import RouteMatch.Session.Held
import RouteMatch.Trial

/-!
# Sessions

In a session objects are made, kept under names and used.  Their dictionaries stand in a memory;
a caller writes to the dictionaries that an object was made from, and to those of an outcome.

## Main definitions

* `Step` — what can be done.
* `Session` — the objects that are kept, and the memory with their dictionaries.
* `Session.object` — what an object shows.
* `Session.setup` — what an evaluation starts from.
* `Session.step`, `Effect` — what a step does: its reply, the session after it,
  and what it leaves in the log.
* `Session.run`, `Run` — several steps.

## Main results

* `Session.run_append` — steps in two groups.
-/

namespace RouteMatch

/-- A step of a session.  Objects go by their names. -/
inductive Step
  /-- Builds a route, perhaps with a predicate that keeps a dictionary. -/
  | buildRoute (name : String) (definition : RouteDefinition)
    (predicate : Option KeepingPredicate := none)
  | makeAttributes (name : String) (source : AttributesSource)
  | makeConfig (name : String) (source : ConfigSource)
  /-- Evaluates a path against a route, with attributes and a configuration or
  with the usual ones, and perhaps keeps the outcome. -/
  | evaluate (route path : String) (attributes config keep : Option String)
  /-- Compiles a route once more. -/
  | recompile (route : String)
  | showRoute (route : String)
  | showAttempt (attempt : String)
  /-- Writes to a dictionary that a route was built from. -/
  | changeGiven (route : String) (field : GivenField) (key value : Value)
  /-- Writes to the dictionary that attributes were made from. -/
  | changeServer (attributes : String) (key value : Value)
  /-- Assigns to an entry of a field. -/
  | setItem (name field : String) (key value : Value)
  /-- Assigns to a field. -/
  | setField (name field : String) (value : Value)
  | compareObjects (a b : String)
  | compareHashes (a b : String)
  /-- Counts the different ones among some objects. -/
  | countDistinct (names : List String)
  | truth (name : String)

/-- The reply to a step. -/
inductive Reply
  | object (o : Object)
  /-- The pattern of a route, and whether it is the one that the route held. -/
  | recompiled (same : Bool) (pattern : Pattern)
  /-- A route with its definition. -/
  | state (r : Route)
  /-- What a field holds. -/
  | now (v : Value)
  | equal (same : Bool)
  | count (number : Nat)
  | truth (isTrue : Bool)

/-- What is kept, by names, and the memory. -/
structure Session where
  objects : Entries String Held := []
  memory : Memory := {}

/-- What a step does. -/
structure Effect where
  reply : Except Failure Reply
  session : Session
  records : List LogRecord := []

/-- What several steps do. -/
structure Run where
  replies : List (Except Failure Reply)
  session : Session
  records : List LogRecord

namespace Session

/-! ### Look-up -/

/-- What the object under a name shows. -/
def object (s : Session) (name : String) : Except Failure Object :=
  match (s.objects.get? name).bind (Held.view? s.memory) with
  | some o => .ok o
  | none => .error (.missingKey (.text name))

/-- The route under a name, with the dictionaries it was built from. -/
def route (s : Session) (name : String) : Except Failure (Route × Given) :=
  match s.object name with
  | .ok (.route r given) => .ok (r, given)
  | _ => .error (.missingKey (.text name))

/-- The attributes under a name; without a name, the usual ones. -/
def attributes (s : Session) : Option String → Except Failure Attributes
  | none => .ok {}
  | some name =>
    match s.object name with
    | .ok (.attributes a) => .ok a
    | _ => .error (.missingKey (.text name))

/-- The configuration under a name; without a name, the usual one. -/
def config (s : Session) : Option String → Except Failure Config
  | none => .ok {}
  | some name =>
    match s.object name with
    | .ok (.config c) => .ok c
    | _ => .error (.missingKey (.text name))

/-- The outcome under a name. -/
def attempt (s : Session) (name : String) : Except Failure KeptAttempt :=
  match s.object name with
  | .ok (.attempt a) => .ok a
  | _ => .error (.missingKey (.text name))

/-- Several objects in order. -/
def objectsUnder (s : Session) : List String → Except Failure (List Object)
  | [] => .ok []
  | name :: rest =>
    match s.object name with
    | .error failure => .error failure
    | .ok o => (s.objectsUnder rest).map (o :: ·)

/-- The route under a name as it is held. -/
def heldRoute (s : Session) (name : String) : Except Failure (HeldRoute × HeldGiven) :=
  match s.objects.get? name with
  | some (.route h given) => .ok (h, given)
  | _ => .error (.missingKey (.text name))

/-- The route under a name with what is left of its values. -/
def ready (s : Session) (name : String) : Except Failure Route :=
  match s.route name, s.heldRoute name with
  | .error failure, _ | _, .error failure => .error failure
  | .ok _, .ok (h, _) =>
    match h.view? s.memory s.memory.usedUp with
    | some r => .ok r
    | none => .error (.missingKey (.text name))

/-- What a route is evaluated with. -/
def setup (s : Session) (route : String) (attributes config : Option String) :
    Except Failure Trial.Setup :=
  match s.ready route, s.attributes attributes, s.config config with
  | .error failure, _, _ | _, .error failure, _ | _, _, .error failure => .error failure
  | .ok r, .ok a, .ok c => .ok ⟨r, a, c⟩

/-! ### Steps -/

/-- Keeps an object under a name. -/
def put (s : Session) (name : String) (h : Held) : Session :=
  { s with objects := s.objects.insert name h }

/-- Keeps an object under a name, if there is a name. -/
def putUnder (s : Session) (name : Option String) (h : Held) : Session :=
  match name with
  | none => s
  | some name => s.put name h

/-- Does what an action does to the memory. -/
def perform {α : Type} (s : Session) (action : Action α) : Except Failure α × Session :=
  match action s.memory with
  | .ok v m => (.ok v, { s with memory := m })
  | .error failure m => (.error failure, { s with memory := m })

/-- A step that makes an object and keeps it under a name. -/
def make (s : Session) (name : String) (action : Action Held)
    (records : Object → List LogRecord) : Effect :=
  match s.perform (Held.showing id action) with
  | (.error failure, after) => ⟨.error failure, after, []⟩
  | (.ok (h, o), after) => ⟨.ok (.object o), after.put name h, records o⟩

/-- A step that only looks. -/
def look (s : Session) (reply : Except Failure Reply) : Effect :=
  ⟨reply, s, []⟩

/-- Whether two objects are equal.  An object is equal to itself. -/
def equal (s : Session) (a b : String) : Except Failure Bool :=
  match s.object a, s.object b with
  | .error failure, _ | _, .error failure => .error failure
  | .ok o, .ok p => .ok (a == b || o.same p)

/-- The number of different objects among some. -/
def countDistinct (s : Session) (names : List String) : Except Failure Nat :=
  match s.objectsUnder names with
  | .error failure => .error failure
  | .ok objects => go [] (names.zip objects)
where
  /-- Counts on, where `seen` holds the different ones so far. -/
  go (seen : List (String × Object)) : List (String × Object) → Except Failure Nat
    | [] => .ok seen.length
    | (name, o) :: rest =>
      match o.checkHashable with
      | .error failure => .error failure
      | .ok () =>
        if seen.any fun (other, p) => other == name || p.same o then go seen rest
        else go ((name, o) :: seen) rest

/-- Whether two objects have the same hash, which equal objects have. -/
def sameHash (s : Session) (a b : String) : Except Failure Bool :=
  match s.objectsUnder [a, b] with
  | .error failure => .error failure
  | .ok objects =>
    match objects.findSome? fun o => o.unhashable? with
    | some kind => .error (.unhashable kind)
    | none => s.equal a b

/-- What is noted of a route that is built. -/
def builtRecords : Object → List LogRecord
  | .route r _ => buildLog (.ok r)
  | _ => []

/-- Builds a route and keeps it with the dictionaries it was built from. -/
def buildRoute (s : Session) (name : String) (d : RouteDefinition)
    (p : Option KeepingPredicate) : Effect :=
  s.make name (do let (h, given) ← HeldRoute.build d p; return .route h given) builtRecords

/-- Makes attributes and keeps them with the dictionary they were made from. -/
def makeAttributes (s : Session) (name : String) (source : AttributesSource) : Effect :=
  s.make name (do return .attributes (← HeldAttributes.make source)) fun _ => []

/-- Makes a configuration and keeps it. -/
def makeConfig (s : Session) (name : String) (source : ConfigSource) : Effect :=
  s.make name (do return .config (← Action.ofResult (Config.ofSource source))) fun _ => []

/-- Compiles a route once more and keeps what comes of it.  The reply says whether the pattern
is the one that was held. -/
def recompile (s : Session) (name : String) : Effect :=
  match s.heldRoute name with
  | .error failure => ⟨.error failure, s, []⟩
  | .ok (h, given) =>
    match s.perform h.compile with
    | (.error failure, after) => ⟨.error failure, after, []⟩
    | (.ok (again, c), after) =>
      ⟨.ok (.recompiled (h.compiled.any (·.number == c.number)) c.pattern),
        after.put name (.route again given), []⟩

/-- Writes to a dictionary that a route was built from. -/
def changeGiven (s : Session) (name : String) (field : GivenField) (key value : Value) : Effect :=
  match s.route name, s.heldRoute name with
  | .error failure, _ | _, .error failure => ⟨.error failure, s, []⟩
  | .ok _, .ok (_, given) =>
    match s.perform (Held.assign (given.address field) key value) with
    | (.error failure, after) => ⟨.error failure, after, []⟩
    | (.ok _, after) => ⟨(after.route name).map fun (r, _) => .state r, after, []⟩

/-- Writes to the dictionary that attributes were made from. -/
def changeServer (s : Session) (name : String) (key value : Value) : Effect :=
  match s.objects.get? name with
  | some (.attributes h) =>
    match s.perform (Held.assign h.given key value) with
    | (.error failure, after) => ⟨.error failure, after, []⟩
    | (.ok _, after) => ⟨(after.object name).map .object, after, []⟩
  | _ => ⟨.error (.missingKey (.text name)), s, []⟩

/-- Assigns to an entry of a field of an object. -/
def setItem (s : Session) (name field : String) (key value : Value) : Effect :=
  match s.objects.get? name with
  | none => ⟨.error (.missingKey (.text name)), s, []⟩
  | some h =>
    match s.perform (h.setItem field key value) with
    | (.error failure, after) => ⟨.error failure, after, []⟩
    | (.ok (h, now), after) => ⟨.ok (.now now), after.put name h, []⟩

/-- Evaluates a path against a route. -/
def evaluate (s : Session) (route path : String) (attributes config keep : Option String) :
    Effect :=
  match s.setup route attributes config, s.heldRoute route with
  | .error failure, _ | _, .error failure => ⟨.error failure, s, []⟩
  | .ok ⟨r, a, c⟩, .ok (h, _) =>
    match s.perform (Held.showing .attempt (h.evaluate path a c)) with
    | (.error failure, after) => ⟨.error failure, after, []⟩
    | (.ok (h, o), after) =>
      -- The log depends on the rejection alone.
      ⟨.ok (.object o), after.putUnder keep (.attempt h),
        evaluationLog r path c (.ok ⟨[], [], h.rejection⟩)⟩

/-- What a step does. -/
def step (s : Session) : Step → Effect
  | .buildRoute name definition predicate => s.buildRoute name definition predicate
  | .makeAttributes name source => s.makeAttributes name source
  | .makeConfig name source => s.makeConfig name source
  | .evaluate route path attributes config keep => s.evaluate route path attributes config keep
  | .recompile route => s.recompile route
  | .showRoute route => s.look <| (s.route route).map fun (r, _) => .state r
  | .showAttempt name => s.look <| (s.attempt name).map fun a => .object (.attempt a)
  | .changeGiven route field key value => s.changeGiven route field key value
  | .changeServer attributes key value => s.changeServer attributes key value
  | .setItem name field key value => s.setItem name field key value
  | .setField name field _ =>
    s.look <|
      match s.object name with
      | .error failure => .error failure
      | .ok o => .error (o.setField field)
  | .compareObjects a b => s.look <| (s.equal a b).map .equal
  | .compareHashes a b => s.look <| (s.sameHash a b).map .equal
  | .countDistinct names => s.look <| (s.countDistinct names).map .count
  | .truth name => s.look <| (s.object name).map fun o => .truth o.isTrue

/-- What several steps do, one after the other. -/
def run (s : Session) : List Step → Run
  | [] => ⟨[], s, []⟩
  | first :: rest =>
    let effect := s.step first
    let later := effect.session.run rest
    ⟨effect.reply :: later.replies, later.session, effect.records ++ later.records⟩

/-! ### Lemmas -/

@[simp] theorem run_nil (s : Session) : s.run [] = ⟨[], s, []⟩ := rfl

theorem run_cons (s : Session) (first : Step) (rest : List Step) :
    s.run (first :: rest) =
      ⟨(s.step first).reply :: ((s.step first).session.run rest).replies,
        ((s.step first).session.run rest).session,
        (s.step first).records ++ ((s.step first).session.run rest).records⟩ := rfl

/-- Steps in two groups: the second group starts where the first one ends. -/
theorem run_append (s : Session) (front back : List Step) :
    s.run (front ++ back) =
      ⟨(s.run front).replies ++ ((s.run front).session.run back).replies,
        ((s.run front).session.run back).session,
        (s.run front).records ++ ((s.run front).session.run back).records⟩ := by
  induction front generalizing s with
  | nil => rfl
  | cons first rest ih => simp [run_cons, ih]

end Session

end RouteMatch
