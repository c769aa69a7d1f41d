import RouteMatch.CommandLine.Switch

/-!
# Reading a command line

Switches for the whole program come first, then a command with switches and
arguments of its own, in any order.  Words that are not understood are collected
and refused in the end, if nothing else is wrong.

## Main definitions

* `Command` — the commands.
* `Reading` — the switches and arguments of a command.
* `Stop` — why reading ends early.
* `Invocation`, `read` — what a command line asks for.
-/

namespace RouteMatch.CommandLine

/-! ### Commands -/

/-- A command. -/
inductive Command
  /-- Prints the pattern of a template. -/
  | compile
  /-- Evaluates a path against a template. -/
  | evaluate
  deriving DecidableEq, Repr

/-- The word for a command. -/
def Command.word : Command → String
  | .compile => "compile"
  | .evaluate => "match"

/-- All commands. -/
def Command.all : List Command := [.compile, .evaluate]

/-- The command that a word means. -/
def Command.ofWord? (word : String) : Option Command :=
  Command.all.find? fun c => c.word == word

/-- The names of the arguments of a command. -/
def Command.arguments : Command → List String
  | .compile => ["template"]
  | .evaluate => ["template", "path"]

/-- The switches of a command. -/
def Command.switches : Command → List Switch
  | .compile => [.help, .token, .wildcard]
  | .evaluate =>
    [.help, .token, .wildcard, .method, .accept, .secure, .insecure, .requestMethod,
      .headerAccept, .https, .port]

/-- The switches for the whole program. -/
def programSwitches : List Switch := [.help, .verbose]

/-! ### Switches and arguments -/

/-- What has been read of the words of a command. -/
structure Reading where
  /-- The switches in order, with their values or empty texts. -/
  settings : List (Switch × String) := []
  arguments : List String := []
  /-- Words that are not understood. -/
  unrecognized : List String := []
  /-- Whether the last word was taken as an argument. -/
  besideArgument : Bool := false
  deriving Repr

/-- Why reading ends before the end of the words. -/
inductive Stop
  | help
  | fault (fault : UsageFault)
  deriving DecidableEq, Repr

namespace Reading

/-- Whether a switch was given. -/
def has (r : Reading) (s : Switch) : Bool :=
  r.settings.any fun setting => setting.1 == s

/-- The values of a switch that can be repeated. -/
def values (r : Reading) (s : Switch) : List String :=
  r.settings.filterMap fun (t, value) => if t = s then some value else none

/-- The last value of a switch. -/
def value? (r : Reading) (s : Switch) : Option String :=
  (r.values s).getLast?

/-- A word that is not understood. -/
def refuse (r : Reading) (word : String) : Reading :=
  { r with unrecognized := r.unrecognized ++ [word], besideArgument := false }

/-- Whether another argument is expected. -/
def hasRoom (r : Reading) (expected : Nat) : Bool :=
  r.arguments.length < expected

/-- A word that is an argument, if another one is expected. -/
def takeArgument (r : Reading) (expected : Nat) (word : String) : Reading :=
  if r.hasRoom expected then
    { r with arguments := r.arguments ++ [word], besideArgument := true }
  else r.refuse word

/-- The mark goes with an argument before or after it, and is not understood
without one. -/
def takeMark (r : Reading) (expected : Nat) (word : String) (last : Bool) : Reading :=
  if r.besideArgument || (r.hasRoom expected && !last) then { r with besideArgument := false }
  else r.refuse word

/-- A switch with its value. -/
def set (r : Reading) (s : Switch) (value : String) : Except Stop Reading :=
  let done : Except Stop Reading :=
    .ok { r with settings := r.settings ++ [(s, value)], besideArgument := false }
  match s, s.excluded? with
  | .help, _ => .error .help
  | .port, _ =>
    match Text.readInteger value.toList with
    | .ok _ => done
    | .error _ => .error (.fault (.notInteger s value))
  | _, some other => if r.has other then .error (.fault (.excluded s other)) else done
  | _, none => done

/-- Several switches without values. -/
def setAll (r : Reading) : List Switch → Except Stop Reading
  | [] => .ok r
  | s :: rest =>
    match r.set s "" with
    | .error stop => .error stop
    | .ok r => r.setAll rest

end Reading

/-- What a short switch with text right after it stands for: several switches,
and the rest of the text if it is not understood.  Each character is a switch.
None of them has a value. -/
def expandJoined (known : List Switch) (s : Switch) :
    List Char → Except UsageFault (List Switch × Option String)
  | [] => .error (.valueIgnored s "")
  | c :: rest =>
    if c = '-' then .error (.valueIgnored s (String.ofList (c :: rest)))
    else
      match (spellingsOf known).lookup ['-', c], rest with
      | none, _ => .ok ([s], some (String.ofList ('-' :: c :: rest)))
      | some t, [] => .ok ([s, t], none)
      | some t, '=' :: value => .error (.valueIgnored t (String.ofList value))
      | some t, rest =>
        (expandJoined known t rest).map fun (switches, left) => (s :: switches, left)

/-- Reads the words of a command with some switches and an expected number of
arguments. -/
def readWords (known : List Switch) (expected : Nat) (r : Reading) :
    List Word → Except Stop Reading
  | [] => .ok r
  | ⟨word, .argument⟩ :: rest => readWords known expected (r.takeArgument expected word) rest
  | ⟨word, .mark⟩ :: rest =>
    readWords known expected (r.takeMark expected word rest.isEmpty) rest
  | ⟨word, .unknown⟩ :: rest => readWords known expected (r.refuse word) rest
  | ⟨_, .joined s text⟩ :: rest =>
    match expandJoined known s text with
    | .error fault => .error (.fault fault)
    | .ok (switches, left) =>
      match r.setAll switches with
      | .error stop => .error stop
      | .ok r => readWords known expected (left.elim r r.refuse) rest
  | ⟨_, .switch s value⟩ :: rest =>
    match s.takesValue, value, rest with
    | false, some v, _ => .error (.fault (.valueIgnored s (String.ofList v)))
    | false, none, rest =>
      match r.set s "" with
      | .error stop => .error stop
      | .ok r => readWords known expected r rest
    | true, some v, rest =>
      match r.set s (String.ofList v) with
      | .error stop => .error stop
      | .ok r => readWords known expected r rest
    | true, none, ⟨v, .argument⟩ :: rest =>
      match r.set s v with
      | .error stop => .error stop
      | .ok r => readWords known expected r rest
    | true, none, _ => .error (.fault (.valueExpected s))

/-! ### The whole command line -/

/-- What a command line asks for. -/
structure Invocation where
  /-- Whether the log is shown. -/
  verbose : Bool
  command : Option (Command × Reading)
  deriving Repr

/-- Why a command line is not carried out, and the command that it concerns, or
none if it concerns the whole program. -/
structure Refusal where
  command : Option Command
  stop : Stop
  deriving DecidableEq, Repr

/-- The words before the command, read as those of a command without arguments,
and the words from the command on. -/
def splitCommand (words : List Word) : List Word × List Word :=
  words.span fun w => w.role != .argument && w.role != .mark

/-- The switches and arguments of a command. -/
def readCommand (c : Command) (words : List String) : Except Refusal Reading :=
  match classify c.switches words with
  | .error fault => .error ⟨some c, .fault fault⟩
  | .ok words =>
    match readWords c.switches c.arguments.length {} words with
    | .error stop => .error ⟨some c, stop⟩
    | .ok r =>
      match c.arguments.drop r.arguments.length with
      | [] => .ok r
      | missing => .error ⟨some c, .fault (.missingArguments missing)⟩

/-- Refuses words that are not understood. -/
def refuseUnrecognized (words : List String) : Except Refusal Unit :=
  if words.isEmpty then .ok () else .error ⟨none, .fault (.unrecognized words)⟩

/-- Reads the command in the words after the switches of the whole program. -/
def readRest (opening : Reading) (words : List Word) : Except Refusal Invocation :=
  let verbose := opening.has .verbose
  let unknown (word : String) : Except Refusal Invocation :=
    .error ⟨none, .fault (.unknownCommand word (Command.all.map Command.word))⟩
  match words with
  | [] => (refuseUnrecognized opening.unrecognized).map fun _ => ⟨verbose, none⟩
  | [⟨word, .mark⟩] =>
    (refuseUnrecognized (opening.unrecognized ++ [word])).map fun _ => ⟨verbose, none⟩
  | ⟨word, _⟩ :: rest =>
    match Command.ofWord? word with
    | none => unknown word
    | some c =>
      match readCommand c (rest.map Word.text) with
      | .error refusal => .error refusal
      | .ok r =>
        (refuseUnrecognized (opening.unrecognized ++ r.unrecognized)).map fun _ =>
          ⟨verbose, some (c, r)⟩

/-- Reads a command line. -/
def read (words : List String) : Except Refusal Invocation :=
  match classify programSwitches words with
  | .error fault => .error ⟨none, .fault fault⟩
  | .ok words =>
    let (front, back) := splitCommand words
    match readWords programSwitches 0 {} front with
    | .error stop => .error ⟨none, stop⟩
    | .ok opening => readRest opening back

end RouteMatch.CommandLine
