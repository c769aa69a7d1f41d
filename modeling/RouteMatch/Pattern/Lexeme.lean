import RouteMatch.Pattern.Fault
import RouteMatch.Pattern.Regex
import RouteMatch.Text.Integer
import RouteMatch.Unicode.Names

/-!
# The lexemes of a pattern

The text of a pattern is cut into lexemes: a character or an escape, a character
set, an anchor, a reference, a repetition, the opening of a group, a bar, a
closing parenthesis, or text that means nothing.  Each is read from its first
character and the characters after it, together with the number of those that
belong to it.

Inside names and comments a backslash and the character after it count as one.

## Main definitions

* `Flags` — the flags in force.
* `Lexeme` — the lexemes.
* `Lexeme.read` — reading one.
-/

namespace RouteMatch.Pattern

open Text

/-! ### Flags -/

/-- The flags in force at a place of a pattern. -/
structure Flags where
  ignoreCase : Bool := false
  multiLine : Bool := false
  dotAll : Bool := false
  verbose : Bool := false
  ascii : Bool := false
  deriving DecidableEq, Repr

/-- Which letter cases are ignored under some flags. -/
def Flags.fold (flags : Flags) : Fold :=
  if flags.ignoreCase then (if flags.ascii then .ascii else .unicode) else .exact

/-- The letters of flags. -/
def flagLetters : List Char := ['i', 'L', 'm', 's', 'x', 'a', 't', 'u']

/-- The flags after one has been turned on. -/
def Flags.turnOn (flags : Flags) : Char → Flags
  | 'i' => { flags with ignoreCase := true }
  | 'm' => { flags with multiLine := true }
  | 's' => { flags with dotAll := true }
  | 'x' => { flags with verbose := true }
  | 'a' => { flags with ascii := true }
  | 'u' => { flags with ascii := false }
  | _ => flags

/-- The flags after one has been turned off. -/
def Flags.turnOff (flags : Flags) : Char → Flags
  | 'i' => { flags with ignoreCase := false }
  | 'm' => { flags with multiLine := false }
  | 's' => { flags with dotAll := false }
  | 'x' => { flags with verbose := false }
  | _ => flags

/-- The flags after some have been turned on and others off. -/
def Flags.change (flags : Flags) (on off : List Char) : Flags :=
  off.foldl Flags.turnOff (on.foldl Flags.turnOn flags)

/-! ### Lexemes -/

/-- How a conditional group names the group it depends on. -/
inductive GroupReference
  | name (name : List Char)
  | number (index : Nat)
  deriving DecidableEq, Repr

/-- A unit of the text of a pattern. -/
inductive Lexeme
  /-- A comment, or blank text where blanks have no meaning. -/
  | ignored
  /-- A condition on one character. -/
  | test (test : CharTest)
  | anchor (a : Anchor)
  /-- A reference to a group by number. -/
  | backref (index : Nat)
  /-- A reference to a group by name. -/
  | namedBackref (name : List Char)
  | quantifier (mode : Mode) (least : Nat) (most : Option Nat)
  /-- The opening of a capturing group. -/
  | capture (name : Option (List Char))
  /-- The opening of a group that does not capture, with the flags to turn on
  and off in it. -/
  | scope (on off : List Char)
  | atomic
  /-- The opening of a look-ahead or look-behind. -/
  | look (behind positive : Bool)
  | conditional (reference : GroupReference)
  /-- Flags for the whole pattern. -/
  | globalFlags (on : List Char)
  | bar
  | close
  deriving DecidableEq, Repr

/-- A result of reading, with the number of characters used. -/
abbrev Reading (α : Type) := Except PatternFailure (α × Nat)

/-! ### Escapes -/

/-- What an escape stands for. -/
inductive Escape
  | code (n : Nat)
  | category (kind : Category) (negated : Bool)
  deriving DecidableEq, Repr

/-- Whether a character is an octal digit. -/
def isOctal (c : Char) : Bool := '0' ≤ c && c ≤ '7'

/-- The number that octal digits denote. -/
def ofOctal (digits : List Char) : Nat :=
  digits.foldl (fun n c => 8 * n + (c.toNat - 0x30)) 0

/-- The class that a letter after a backslash stands for. -/
def categoryOf? : Char → Option Escape
  | 'd' => some (.category .digit false)
  | 'D' => some (.category .digit true)
  | 's' => some (.category .space false)
  | 'S' => some (.category .space true)
  | 'w' => some (.category .word false)
  | 'W' => some (.category .word true)
  | _ => none

/-- The control character that a letter after a backslash stands for. -/
def controlOf? : Char → Option Nat
  | 'a' => some 7
  | 'b' => some 8
  | 't' => some 9
  | 'n' => some 10
  | 'v' => some 11
  | 'f' => some 12
  | 'r' => some 13
  | _ => none

/-- The first unit of a text: a character, or a backslash and the character
after it. -/
def firstUnit : List Char → List Char
  | '\\' :: c :: _ => ['\\', c]
  | text => text.take 1

/-- The text up to a character, and whether that character was found. -/
def textUntil (stop : Char) : List Char → List Char × Bool
  | [] => ([], false)
  | '\\' :: c :: rest =>
    let (text, found) := textUntil stop rest
    ('\\' :: c :: text, found)
  | c :: rest =>
    if c = stop then ([], true)
    else
      let (text, found) := textUntil stop rest
      (c :: text, found)

/-- Reads a name up to the character that ends it; `missing` is the fault of an
empty one, and `position` the place where the name begins. -/
def readName (missing : Cause) (position : Nat) (stop : Char) (text : List Char) :
    Reading (List Char) :=
  match textUntil stop text with
  | ([], _) => .error (.at position missing)
  | (name, true) => .ok (name, name.length + 1)
  | (_, false) => .error (.at position (.unterminatedName stop))

/-- Reads the digits of an escape by code point. -/
def readCodePoint (position : Nat) (letter : Char) (width : Nat) (rest : List Char) :
    Reading Escape :=
  let digits := (rest.take width).takeWhile isHexDigit
  if digits.length < width then
    .error (.at position (.incompleteEscape ('\\' :: letter :: digits)))
  else if ofHex digits > 0x10FFFF then
    .error (.at position (.badEscape ('\\' :: letter :: digits)))
  else .ok (.code (ofHex digits), width)

/-- Reads the name of an escape by name. -/
def readCharacterName (position : Nat) : List Char → Reading Escape
  | '\x7b' :: rest =>
    match readName .missingCharacterName (position + 3) '\x7d' rest with
    | .error failure => .error failure
    | .ok (name, used) =>
      match Unicode.codePointOf? name with
      | none => .error (.at position (.unknownCharacterName name))
      | some code => .ok (.code code, used + 1)
  | _ => .error (.at (position + 2) .missingBrace)

/-- Reads an escape that means the same in a character set and outside; `c` is
the character after the backslash. -/
def readCommonEscape (position : Nat) (c : Char) (rest : List Char) : Reading Escape :=
  match c with
  | 'x' => readCodePoint position 'x' 2 rest
  | 'u' => readCodePoint position 'u' 4 rest
  | 'U' => readCodePoint position 'U' 8 rest
  | 'N' => readCharacterName position rest
  | _ =>
    match categoryOf? c, controlOf? c with
    | some escape, _ => .ok (escape, 0)
    | none, some n => .ok (.code n, 0)
    | none, none =>
      if Unicode.isAsciiLetter c.toNat || Unicode.isAsciiDigit c.toNat then
        .error (.at position (.badEscape ['\\', c]))
      else .ok (.code c.toNat, 0)

/-- Reads an octal escape of up to three digits from its first one, which is
counted among the characters used. -/
def readOctal (position : Nat) (c : Char) (rest : List Char) : Reading Nat :=
  let digits := c :: (rest.take 2).takeWhile isOctal
  if ofOctal digits > 0o377 then .error (.at position (.octalTooLarge ('\\' :: digits)))
  else .ok (ofOctal digits, digits.length)

/-- Reads an escape from the character after its backslash; that of an octal
number only where `octal` says so. -/
def readCharacterEscape (octal : Bool) (position : Nat) (c : Char) (rest : List Char) :
    Reading Escape :=
  if octal then (readOctal position c rest).map fun (n, used) => (.code n, used)
  else (readCommonEscape position c rest).map fun (escape, used) => (escape, used + 1)

/-- Reads an escape in a character set. -/
def readSetEscape (position : Nat) : List Char → Reading Escape
  | [] => .error (.at position (.badEscape ['\\']))
  | c :: rest => readCharacterEscape (isOctal c) position c rest

/-! ### Character sets -/

/-- A member of a set that may turn out to begin a range, and how it was
written. -/
structure SetAtom where
  escape : Escape
  unit : List Char
  deriving DecidableEq, Repr

/-- The set item of a member that begins no range. -/
def SetAtom.item (ascii : Bool) (atom : SetAtom) : SetItem :=
  match atom.escape with
  | .code n => .code n
  | .category kind negated => .category kind negated ascii

/-- How far the reading of a set has come. -/
inductive SetPhase
  /-- The next character begins a member. -/
  | ready
  /-- A member has been read. -/
  | afterAtom (atom : SetAtom)
  /-- A member and a hyphen have been read. -/
  | afterHyphen (atom : SetAtom)
  deriving DecidableEq, Repr

/-- Reads a member from its first character. -/
def readSetAtom (position : Nat) (c : Char) (rest : List Char) : Reading SetAtom :=
  if c = '\\' then
    (readSetEscape position rest).map fun (escape, used) => (⟨escape, '\\' :: rest.take 1⟩, used)
  else .ok (⟨.code c.toNat, [c]⟩, 0)

/-- The range from one member to another; `stop` is the place after it. -/
def rangeOf (stop : Nat) (first last : SetAtom) : Except PatternFailure SetItem :=
  let fault : PatternFailure :=
    .at (stop - (first.unit.length + 1 + last.unit.length)) (.badRange first.unit last.unit)
  match first.escape, last.escape with
  | .code m, .code n => if n < m then .error fault else .ok (.range m n)
  | _, _ => .error fault

/-- Reads a set up to its closing bracket, and gives its items and the place
after it.  `start` is the place of the opening bracket, `skip` the number of
characters that belong to the member read last, and `items` the items read, the
last one first.  A closing bracket that comes first is a member. -/
def readSetItems (ascii : Bool) (start : Nat) :
    (position : Nat) → List Char → (skip : Nat) → SetPhase → (items : List SetItem) →
      Except PatternFailure (List SetItem × Nat)
  | _, [], _, _, _ => .error (.at start .unterminatedSet)
  | position, _ :: rest, skip + 1, phase, items =>
    readSetItems ascii start (position + 1) rest skip phase items
  | position, c :: rest, 0, .ready, items =>
    if c = ']' && !items.isEmpty then .ok (items.reverse, position + 1)
    else
      match readSetAtom position c rest with
      | .error failure => .error failure
      | .ok (atom, used) =>
        readSetItems ascii start (position + 1) rest used (.afterAtom atom) items
  | position, c :: rest, 0, .afterAtom first, items =>
    if c = '-' then readSetItems ascii start (position + 1) rest 0 (.afterHyphen first) items
    else if c = ']' then .ok ((first.item ascii :: items).reverse, position + 1)
    else
      match readSetAtom position c rest with
      | .error failure => .error failure
      | .ok (atom, used) =>
        readSetItems ascii start (position + 1) rest used (.afterAtom atom)
          (first.item ascii :: items)
  | position, c :: rest, 0, .afterHyphen first, items =>
    if c = ']' then .ok ((.code 0x2D :: first.item ascii :: items).reverse, position + 1)
    else
      match readSetAtom position c rest with
      | .error failure => .error failure
      | .ok (atom, used) =>
        match rangeOf (position + 1 + used) first atom with
        | .error failure => .error failure
        | .ok item => readSetItems ascii start (position + 1) rest used .ready (item :: items)

/-- Reads a set from the character after its opening bracket.  A member that is listed twice
counts once. -/
def readSet (ascii : Bool) (start : Nat) (rest : List Char) : Reading Lexeme :=
  let (negated, body) := match rest with
    | '^' :: body => (true, body)
    | body => (false, body)
  let first := if negated then start + 2 else start + 1
  match readSetItems ascii start first body 0 .ready [] with
  | .error failure => .error failure
  | .ok (items, stop) => .ok (.test (.oneOf negated items.eraseDups), stop - (start + 1))

/-! ### Escapes outside sets -/

/-- Reads an escape by number: an octal escape if it has three octal digits,
otherwise a reference to a group. -/
def readNumberEscape (position : Nat) (c : Char) (rest : List Char) : Reading Lexeme :=
  let digits := c :: (rest.take 1).takeWhile isDecimal
  let octal := c :: (rest.take 2).takeWhile isOctal
  if isOctal c && octal.length = 3 then
    (readOctal position c rest).map fun (n, used) => (.test (.code n), used)
  else .ok (.backref (ofDigits 0 digits), digits.length)

/-- The anchor that a letter after a backslash stands for. -/
def anchorOf? (ascii : Bool) : Char → Option Anchor
  | 'A' => some .textStart
  | 'Z' => some .textEnd
  | 'b' => some (.wordEdge ascii)
  | 'B' => some (.wordInside ascii)
  | _ => none

/-- The lexeme of an escape for a character or a class. -/
def Escape.lexeme (ascii : Bool) : Escape → Lexeme
  | .code n => .test (.code n)
  | .category kind negated => .test (.oneOf false [.category kind negated ascii])

/-- Reads an escape outside a set, from the character after its backslash. -/
def readEscape (ascii : Bool) (position : Nat) : List Char → Reading Lexeme
  | [] => .error (.at position (.badEscape ['\\']))
  | c :: rest =>
    match anchorOf? ascii c with
    | some a => .ok (.anchor a, 1)
    | none =>
      if isDecimal c && c != '0' then readNumberEscape position c rest
      else
        (readCharacterEscape (c = '0') position c rest).map fun (escape, used) =>
          (escape.lexeme ascii, used)

/-! ### Repetitions -/

/-- Repetition counts from this number on are refused. -/
def repetitionLimit : Nat := 0xFFFFFFFF

/-- The mode that the character after a repetition asks for, and how many
characters do so. -/
def readMode : List Char → Mode × Nat
  | '?' :: _ => (.lazy, 1)
  | '+' :: _ => (.possessive, 1)
  | _ => (.greedy, 0)

/-- A repetition with the mode that follows it. -/
def readQuantifier (least : Nat) (most : Option Nat) (used : Nat) (rest : List Char) :
    Reading Lexeme :=
  let (mode, more) := readMode rest
  .ok (.quantifier mode least most, used + more)

/-- The number that the digits of a repetition count denote; none without
digits. -/
def readCount (digits : List Char) : Except PatternFailure (Option Nat) :=
  if digits.isEmpty then .ok none
  else if digits.length > digitLimit then .error (.numeralTooLong digits.length)
  else if ofDigits 0 digits ≥ repetitionLimit then .error .repetitionTooLarge
  else .ok (some (ofDigits 0 digits))

/-- The digits of the counts in braces, the number of characters used and the
rest; none if the brace begins no repetition. -/
def bracedCounts? (rest : List Char) : Option (List Char × List Char × Nat × List Char) :=
  let least := rest.takeWhile isDecimal
  match rest.dropWhile isDecimal with
  | '\x7d' :: tail => if least.isEmpty then none else some (least, least, least.length + 1, tail)
  | ',' :: tail =>
    let most := tail.takeWhile isDecimal
    match tail.dropWhile isDecimal with
    | '\x7d' :: tail => some (least, most, least.length + 1 + most.length + 1, tail)
    | _ => none
  | _ => none

/-- Reads a repetition in braces, or a brace that is a character. -/
def readBraces (position : Nat) (rest : List Char) : Reading Lexeme :=
  match bracedCounts? rest with
  | none => .ok (.test (.code 0x7B), 0)
  | some (leastDigits, mostDigits, used, tail) =>
    match readCount leastDigits, readCount mostDigits with
    | .error failure, _ => .error failure
    | _, .error failure => .error failure
    | .ok least, .ok none => readQuantifier (least.getD 0) none used tail
    | .ok least, .ok (some most) =>
      if most < least.getD 0 then .error (.at (position + 1) .repeatOutOfOrder)
      else readQuantifier (least.getD 0) (some most) used tail

/-! ### The openings of groups -/

/-- The flags that exclude each other. -/
def isTypeFlag (c : Char) : Bool := c == 'a' || c == 'u' || c == 'L'

/-- The fault of a character where a flag should stand. -/
def flagFault (missing : Cause) (c : Char) : Cause :=
  if Unicode.isLetter c.toNat then .unknownFlag else missing

/-- Reads the flags to turn off, up to the colon.  `used` counts the characters
read, and `position` is the place of the next one. -/
def readFlagsOff (on : List Char) :
    (position used : Nat) → (off : List Char) → List Char → Reading Lexeme
  | position, _, off, [] =>
    .error (.at position (if off.isEmpty then .missingFlag else .missingColon))
  | position, used, off, c :: rest =>
    if flagLetters.contains c then
      if isTypeFlag c then .error (.at (position + 1) .fixedFlags)
      else readFlagsOff on (position + 1) (used + 1) (off ++ [c]) rest
    else if c = ':' && !off.isEmpty then
      if off.contains 't' then .error (.at position .globalFlagOff)
      else if on.any off.contains then .error (.at position .contradictoryFlags)
      else .ok (.scope on off, used + 1)
    else
      .error (.at position (flagFault (if off.isEmpty then .missingFlag else .missingColon) c))

/-- Reads the flags to turn on, and what follows them. -/
def readFlagsOn : (position used : Nat) → (on : List Char) → List Char → Reading Lexeme
  | position, _, _, [] => .error (.at position .missingFlagEnd)
  | position, used, on, c :: rest =>
    if flagLetters.contains c then
      if c = 'L' then .error (.at (position + 1) .localeFlag)
      else if isTypeFlag c && on.any fun d => isTypeFlag d && d != c then
        .error (.at (position + 1) .incompatibleFlags)
      else readFlagsOn (position + 1) (used + 1) (on ++ [c]) rest
    else if c = ')' then .ok (.globalFlags on, used + 1)
    else if c = ':' || c = '-' then
      if on.contains 't' then .error (.at position .globalFlagOn)
      else if c = ':' then .ok (.scope on [], used + 1)
      else readFlagsOff on (position + 1) (used + 1) [] rest
    else .error (.at position (flagFault .missingFlagEnd c))

/-- The number of characters up to the end of a comment in parentheses. -/
def commentLength? : List Char → Option Nat
  | [] => none
  | ')' :: _ => some 1
  | '\\' :: _ :: rest => (commentLength? rest).map (· + 2)
  | _ :: rest => (commentLength? rest).map (· + 1)

/-- The number of characters up to the end of a comment that a line feed ends. -/
def lineCommentLength : List Char → Nat
  | [] => 0
  | '\n' :: _ => 1
  | '\\' :: _ :: rest => lineCommentLength rest + 2
  | _ :: rest => lineCommentLength rest + 1

/-- Reads the name of a group and checks that it is an identifier. -/
def readGroupName (position : Nat) (stop : Char) (rest : List Char) : Reading (List Char) :=
  match readName .missingGroupName position stop rest with
  | .error failure => .error failure
  | .ok (name, used) =>
    if Unicode.isIdentifier name then .ok (name, used)
    else .error (.at position (.badGroupName name))

/-- Group numbers from this one on are refused. -/
def groupLimit : Nat := 1073741823

/-- The group that a conditional group depends on. -/
def groupReference (position : Nat) (name : List Char) : Except PatternFailure GroupReference :=
  if Unicode.isIdentifier name then .ok (.name name)
  else
    match readInteger name with
    | .error _ => .error (.at position (.badGroupName name))
    | .ok index =>
      if index < 0 then .error (.at position (.badGroupName name))
      else if index = 0 then .error (.at position .badGroupNumber)
      else if index.toNat ≥ groupLimit then .error (.at position (.invalidGroup index.toNat))
      else .ok (.number index.toNat)

/-- Reads the opening of a group after `(?P`. -/
def readNamed (position : Nat) : List Char → Reading Lexeme
  | '<' :: rest =>
    (readGroupName (position + 4) '>' rest).map fun (name, used) => (.capture (some name), used + 3)
  | '=' :: rest =>
    (readGroupName (position + 4) ')' rest).map fun (name, used) => (.namedBackref name, used + 3)
  | [] => .error (.at (position + 3) .unexpectedEnd)
  | rest => .error (.at (position + 1) (.unknownExtension ('?' :: 'P' :: firstUnit rest)))

/-- Reads the opening of a group after `(?<`. -/
def readLookbehind (position : Nat) : List Char → Reading Lexeme
  | '=' :: _ => .ok (.look true true, 3)
  | '!' :: _ => .ok (.look true false, 3)
  | [] => .error (.at (position + 3) .unexpectedEnd)
  | rest => .error (.at (position + 1) (.unknownExtension ('?' :: '<' :: firstUnit rest)))

/-- Reads the opening of a group after `(?(`. -/
def readConditional (position : Nat) (rest : List Char) : Reading Lexeme :=
  match readName .missingGroupName (position + 3) ')' rest with
  | .error failure => .error failure
  | .ok (name, used) =>
    (groupReference (position + 3) name).map fun reference => (.conditional reference, used + 2)

/-- Reads the opening of a group after `(?`. -/
def readExtension (position : Nat) : List Char → Reading Lexeme
  | [] => .error (.at (position + 2) .unexpectedEnd)
  | 'P' :: rest => readNamed position rest
  | ':' :: _ => .ok (.scope [] [], 2)
  | '>' :: _ => .ok (.atomic, 2)
  | '=' :: _ => .ok (.look false true, 2)
  | '!' :: _ => .ok (.look false false, 2)
  | '<' :: rest => readLookbehind position rest
  | '(' :: rest => readConditional position rest
  | '#' :: rest =>
    match commentLength? rest with
    | none => .error (.at position .unterminatedComment)
    | some used => .ok (.ignored, used + 2)
  | '-' :: rest => readFlagsOff [] (position + 3) 2 [] rest
  | c :: rest =>
    if flagLetters.contains c then readFlagsOn (position + 2) 1 [] (c :: rest)
    else .error (.at (position + 1) (.unknownExtension ('?' :: firstUnit (c :: rest))))

/-! ### Reading a lexeme -/

/-- Whether a character is blank where blanks have no meaning. -/
def isIgnorable (c : Char) : Bool :=
  Unicode.isAsciiSpace c.toNat

/-- Reads the lexeme that begins with `c` at a place; the number of characters
used counts those after `c`. -/
def Lexeme.read (flags : Flags) (position : Nat) (c : Char) (rest : List Char) : Reading Lexeme :=
  if flags.verbose && isIgnorable c then .ok (.ignored, 0)
  else if flags.verbose && c = '#' then .ok (.ignored, lineCommentLength rest)
  else
    match c with
    | '|' => .ok (.bar, 0)
    | ')' => .ok (.close, 0)
    | '(' =>
      match rest with
      | '?' :: body => readExtension position body
      | _ => .ok (.capture none, 0)
    | '[' => readSet flags.ascii position rest
    | '\\' => readEscape flags.ascii position rest
    | '.' => .ok (.test (if flags.dotAll then .any else .notNewline), 0)
    | '^' => .ok (.anchor (if flags.multiLine then .lineStart else .textStart), 0)
    | '$' => .ok (.anchor (if flags.multiLine then .lineEnd else .lastLineEnd), 0)
    | '?' => readQuantifier 0 (some 1) 0 rest
    | '*' => readQuantifier 0 none 0 rest
    | '+' => readQuantifier 1 none 0 rest
    | '\x7b' => readBraces position rest
    | _ => .ok (.test (.code c.toNat), 0)

end RouteMatch.Pattern
