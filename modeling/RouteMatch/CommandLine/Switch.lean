import RouteMatch.Text.Integer
import RouteMatch.Text.Quoted
import RouteMatch.Text.Split

/-!
# Switches and words

The words of a command line are arguments and switches.  A long switch can be
shortened as long as it is the only one that starts like this, and can hold its
value after an equals sign.  The mark `--` makes all words after it arguments.

## Main definitions

* `Switch` — the switches.
* `UsageFault` — what is wrong with a command line.
* `Word`, `classify` — the words of a command line.
-/

namespace RouteMatch.CommandLine

/-! ### Switches -/

/-- A switch. -/
inductive Switch
  | help
  | verbose
  | token
  | wildcard
  | method
  | accept
  | secure
  | insecure
  | requestMethod
  | headerAccept
  | https
  | port
  deriving DecidableEq, Repr

namespace Switch

/-- How a switch is written. -/
def spellings : Switch → List String
  | .help => ["-h", "--help"]
  | .verbose => ["-v", "--verbose"]
  | .token => ["--token"]
  | .wildcard => ["--wildcard"]
  | .method => ["--method"]
  | .accept => ["--accept"]
  | .secure => ["--secure"]
  | .insecure => ["--insecure"]
  | .requestMethod => ["--request-method"]
  | .headerAccept => ["--header-accept"]
  | .https => ["--https"]
  | .port => ["--port"]

/-- Whether a switch has a value. -/
def takesValue : Switch → Bool
  | .help | .verbose | .secure | .insecure | .https => false
  | _ => true

/-- A switch in messages. -/
def label (s : Switch) : String :=
  "/".intercalate s.spellings

/-- The switch that a switch excludes. -/
def excluded? : Switch → Option Switch
  | .secure => some .insecure
  | .insecure => some .secure
  | _ => none

end Switch

/-! ### Faults -/

/-- What is wrong with a command line. -/
inductive UsageFault
  /-- A shortened switch could be one of several. -/
  | ambiguous (word : String) (spellings : List String)
  | valueExpected (switch : Switch)
  /-- A switch without value is given one. -/
  | valueIgnored (switch : Switch) (value : String)
  /-- A switch excludes another one that was given earlier. -/
  | excluded (switch earlier : Switch)
  | notInteger (switch : Switch) (value : String)
  | unknownCommand (word : String) (commands : List String)
  | missingArguments (names : List String)
  | unrecognized (words : List String)
  deriving DecidableEq, Repr

/-- A fault in words. -/
def UsageFault.message : UsageFault → String
  | .ambiguous word spellings =>
    "ambiguous option: " ++ word ++ " could match " ++ ", ".intercalate spellings
  | .valueExpected switch => "argument " ++ switch.label ++ ": expected one argument"
  | .valueIgnored switch value =>
    "argument " ++ switch.label ++ ": ignored explicit argument " ++ Text.quote value
  | .excluded switch earlier =>
    "argument " ++ switch.label ++ ": not allowed with argument " ++ earlier.label
  | .notInteger switch value =>
    "argument " ++ switch.label ++ ": invalid int value: " ++ Text.quote value
  | .unknownCommand word commands =>
    "argument command: invalid choice: " ++ Text.quote word ++ " (choose from "
      ++ ", ".intercalate (commands.map Text.quote) ++ ")"
  | .missingArguments names =>
    "the following arguments are required: " ++ ", ".intercalate names
  | .unrecognized words => "unrecognized arguments: " ++ " ".intercalate words

/-! ### Words -/

/-- What a word is. -/
inductive Role
  | argument
  /-- The mark after which all words are arguments. -/
  | mark
  /-- A switch, perhaps with a value after an equals sign. -/
  | switch (switch : Switch) (value : Option (List Char))
  /-- A short switch with text right after it. -/
  | joined (switch : Switch) (text : List Char)
  /-- What looks like a switch and is none. -/
  | unknown
  deriving DecidableEq, Repr

/-- A word of a command line. -/
structure Word where
  text : String
  role : Role
  deriving DecidableEq, Repr

/-- Whether a text is a negative number in digits of any script, perhaps with a
line feed at the end. -/
def isNegativeNumber : List Char → Bool
  | '-' :: rest =>
    let body := if rest.getLast? = some '\n' then rest.dropLast else rest
    let isDigit (c : Char) := Unicode.isDigit c.toNat
    let fraction := body.dropWhile isDigit
    if fraction.isEmpty then !body.isEmpty
    else
      match fraction with
      | '.' :: digits => !digits.isEmpty && digits.all isDigit
      | _ => false
  | _ => false

/-- The spellings of some switches, in order, each with its switch. -/
def spellingsOf (known : List Switch) : List (List Char × Switch) :=
  known.flatMap fun s => s.spellings.map fun spelling => (spelling.toList, s)

/-- A text before the first equals sign, and the value after it. -/
def splitValue (text : List Char) : List Char × Option (List Char) :=
  match Text.cut? '=' text with
  | none => (text, none)
  | some (front, value) => (front, some value)

/-- A word that is written like a long switch. -/
def longRole (known : List Switch) (word : List Char) : Except UsageFault Role :=
  let (front, value) := splitValue word
  match (spellingsOf known).filter fun entry => front.isPrefixOf entry.1 with
  | [] => .ok (if word.contains ' ' then .argument else .unknown)
  | [(_, s)] => .ok (.switch s value)
  | several =>
    .error (.ambiguous (String.ofList word) (several.map fun entry => String.ofList entry.1))

/-- A word that is written like a short switch with text right after it. -/
def shortRole (known : List Switch) (word : List Char) : Role :=
  match (spellingsOf known).lookup (word.take 2) with
  | some s => .joined s (word.drop 2)
  | none => if isNegativeNumber word || word.contains ' ' then .argument else .unknown

/-- What a word before the mark is. -/
def roleOf (known : List Switch) (word : List Char) : Except UsageFault Role :=
  match word with
  | '-' :: c :: _ =>
    let (front, value) := splitValue word
    match (spellingsOf known).lookup word, (spellingsOf known).lookup front with
    | some s, _ => .ok (.switch s none)
    | none, some s => .ok (.switch s value)
    | none, none => if c = '-' then longRole known word else .ok (shortRole known word)
  | _ => .ok .argument

/-- The words of a command line. -/
def classify (known : List Switch) : List String → Except UsageFault (List Word)
  | [] => .ok []
  | word :: rest =>
    if word = "--" then .ok (⟨word, .mark⟩ :: rest.map fun w => ⟨w, .argument⟩)
    else
      match roleOf known word.toList with
      | .error fault => .error fault
      | .ok role => (classify known rest).map (⟨word, role⟩ :: ·)

end RouteMatch.CommandLine
