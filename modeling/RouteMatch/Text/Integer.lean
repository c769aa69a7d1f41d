import RouteMatch.Unicode.Character

/-!
# Reading integers

An integer is written with decimal digits of any scripts, with single
underscores between digits, an optional sign in front, and white space around
it.  The control characters that count as white space elsewhere do not here, a
few of ASCII excepted.  Numerals of more than `digitLimit` digits are refused.

## Main definitions

* `IntegerFault` — why a text is not read as an integer.
* `readDigits` — the leading digits of a text.
* `readInteger` — the integer that a text denotes.
-/

namespace RouteMatch.Text

/-- Why a text is not read as an integer. -/
inductive IntegerFault
  /-- The text is not written as an integer. -/
  | malformed
  /-- The numeral has too many digits. -/
  | tooManyDigits (count : Nat)
  deriving DecidableEq, Repr

/-- The greatest number of digits that are read. -/
def digitLimit : Nat := 4300

/-- The ASCII character that a character counts as in a numeral: white space
outside ASCII is a space, a digit is the ASCII digit, and another character
outside ASCII spoils the numeral. -/
def numeralChar (c : Char) : Char :=
  if c.toNat < 0x7F then c
  else if Unicode.isSpace c.toNat then ' '
  else match Unicode.digitValue? c.toNat with
    | some d => Char.ofNat (0x30 + d)
    | none => '?'

/-- Whether a character of a numeral is one of the ASCII blanks. -/
def isBlank (c : Char) : Bool :=
  Unicode.isAsciiSpace c.toNat

/-- Whether a character of a numeral is an ASCII digit. -/
def isDecimal (c : Char) : Bool :=
  Unicode.isAsciiDigit c.toNat

/-- The number that ASCII digits denote, after the digits with value `n`. -/
def ofDigits (n : Nat) (digits : List Char) : Nat :=
  digits.foldl (fun n c => 10 * n + (c.toNat - 0x30)) n

/-- The digits at the front of a text, without the single underscores between
them, and the rest of the text.  `none` where an underscore stands at the front,
at the end or after another one. -/
def readDigits : (afterDigit : Bool) → List Char → Option (List Char × List Char)
  | afterDigit, [] => if afterDigit then some ([], []) else none
  | afterDigit, c :: rest =>
    if isDecimal c then
      (readDigits true rest).map fun (digits, tail) => (c :: digits, tail)
    else if c = '_' then
      if afterDigit then readDigits false rest else none
    else if afterDigit then some ([], c :: rest) else none

/-- The sign at the front of a text, and the rest. -/
def readSign : List Char → Bool × List Char
  | '-' :: rest => (true, rest)
  | '+' :: rest => (false, rest)
  | text => (false, text)

/-- The integer that a text denotes. -/
def readInteger (text : List Char) : Except IntegerFault Int :=
  let (negative, body) := readSign ((text.map numeralChar).dropWhile isBlank)
  match readDigits false body with
  | none => .error .malformed
  | some (digits, tail) =>
    if digits.length > digitLimit then .error (.tooManyDigits digits.length)
    else if tail.all isBlank then
      let n : Int := ofDigits 0 digits
      .ok (if negative then -n else n)
    else .error .malformed

end RouteMatch.Text
