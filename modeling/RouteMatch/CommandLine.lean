import RouteMatch.CommandLine.Help
import RouteMatch.Json
import RouteMatch.Journal

/-!
# The command line

One command prints the pattern of a template.  The other evaluates a path against
a template: the parameters are printed if it matches, and the reason if it does
not.  The exit status is zero for success and for help, one for a path that does
not match, and two for faults.

## Main definitions

* `Output` — what is printed, and the exit status.
* `routeDefinition`, `requestPath`, `requestAttributes` — what the switches and
  arguments describe.
* `run` — the output of a command line.
-/

namespace RouteMatch.CommandLine

/-! ### Output -/

/-- What is printed, and the exit status. -/
structure Output where
  status : Nat
  stdout : String
  stderr : String
  deriving DecidableEq, Repr

/-- The name of the program or of one of its commands. -/
def programName : Option Command → String
  | none => "roost"
  | some c => "roost " ++ c.word

/-- A text on a line of its own. -/
def line (text : String) : String :=
  text ++ "\n"

/-- A record of the log as it is shown. -/
def recordLine (r : LogRecord) : String :=
  line (r.level.text ++ " roost.routing: " ++ r.message)

/-- The log as it is shown: all of it, or only the messages of warnings. -/
def showLog (verbose : Bool) (records : List LogRecord) : String :=
  if verbose then String.join (records.map recordLine)
  else String.join ((records.filter (·.level = .warning)).map fun r => line r.message)

/-- The output for a command line that is not carried out. -/
def Refusal.output (r : Refusal) : Output :=
  match r.stop with
  | .help => ⟨0, helpText r.command, ""⟩
  | .fault fault => ⟨2, "", line (programName r.command ++ ": error: " ++ fault.message)⟩

/-- The output for a fault in what a command is given. -/
def faultOutput (message : String) : Output :=
  ⟨2, "", line ("Error: " ++ message)⟩

/-! ### Routes and requests -/

/-- The name and the pattern of a token, with an equals sign between them. -/
def readToken? (pair : String) : Option (String × String) :=
  match Text.cut? '=' pair.toList with
  | none | some ([], _) => none
  | some (name, body) => some (String.ofList name, String.ofList body)

/-- The patterns of tokens; fails with the first pair that is malformed. -/
def readTokens : List String → Except String (List (String × String))
  | [] => .ok []
  | pair :: rest =>
    match readToken? pair with
    | none => .error pair
    | some token => (readTokens rest).map (token :: ·)

/-- The message for a malformed token. -/
def tokenMessage (pair : String) : String :=
  "--token expects NAME=REGEX, got " ++ Text.quote pair

/-- Whether the route wants a secure connection. -/
def secureOf (r : Reading) : Option Bool :=
  if r.has .secure then some true else if r.has .insecure then some false else none

/-- The definition of the route that the switches and arguments describe. -/
def routeDefinition (r : Reading) (tokens : List (String × String)) : RouteDefinition where
  path := r.arguments.headD ""
  tokens := Entries.ofList (tokens.map fun (name, body) => (name, .text body))
  wildcard := r.value? .wildcard
  secure := secureOf r
  methods := r.values .method
  accept := r.values .accept

/-- The path that is evaluated. -/
def requestPath (r : Reading) : String :=
  (r.arguments.drop 1).headD ""

/-- The port that a text denotes. -/
def readPort (text : String) : Value :=
  match Text.readInteger text.toList with
  | .ok port => .int port
  | .error _ => .none

/-- The attributes that the switches describe. -/
def requestAttributes (r : Reading) : Attributes where
  method := .text ((r.value? .requestMethod).getD "GET")
  https := if r.has .https then .text "on" else .none
  port := ((r.value? .port).map readPort).getD .none
  accept := ((r.value? .headerAccept).map Value.text).getD .none

/-! ### Commands -/

/-- Prints the pattern of a route. -/
def compileOutput (route : Route) : Except Failure Output :=
  .ok ⟨0, line route.pattern.source, ""⟩

/-- Prints the parameters of a match or the reason of a rejection. -/
def attemptOutput (a : Attempt) (log : String) : Output :=
  if a.matched then ⟨0, line (String.ofList (Json.ofEntries a.params).render), log⟩
  else ⟨1, String.join (a.debug.map line), log⟩

/-- Evaluates the path against a route. -/
def evaluateOutput (verbose : Bool) (r : Reading) (route : Route) : Except Failure Output :=
  let outcome := evaluate route (requestPath r) (requestAttributes r) {}
  outcome.map fun a =>
    attemptOutput a (showLog verbose (evaluationLog route (requestPath r) {} outcome))

/-- Carries out a command on a route that is built. -/
def routeOutput (verbose : Bool) (c : Command) (r : Reading) (route : Route) :
    Except Failure Output :=
  let output :=
    match c with
    | .compile => compileOutput route
    | .evaluate => evaluateOutput verbose r route
  output.map fun o => { o with stderr := showLog verbose (buildLog (.ok route)) ++ o.stderr }

/-- Carries out a command.  A fault in the definition of the route is reported;
other failures are not caught. -/
def commandOutput (verbose : Bool) (c : Command) (r : Reading) : Except Failure Output :=
  match readTokens (r.values .token) with
  | .error pair => .ok (faultOutput (tokenMessage pair))
  | .ok tokens =>
    match Route.build (routeDefinition r tokens) with
    | .error (.route path fault) => .ok (faultOutput (Failure.route path fault).message)
    | .error failure => .error failure
    | .ok route => routeOutput verbose c r route

/-- The output of a command line. -/
def run (words : List String) : Except Failure Output :=
  match read words with
  | .error refusal => .ok refusal.output
  | .ok ⟨_, none⟩ => .ok ⟨0, helpText none, ""⟩
  | .ok ⟨verbose, some (c, r)⟩ => commandOutput verbose c r

end RouteMatch.CommandLine
