import RouteMatch.Unicode.Letters
import RouteMatch.Unicode.Numbers
import RouteMatch.Unicode.Identifiers
import RouteMatch.Unicode.Unprintable

/-!
# Classes of characters

The classes of code points that patterns, identifiers, numerals and quoted text
distinguish.  Each class answers for ASCII by a comparison and looks the other
code points up in the tables of this folder.

## Main definitions

* `isLetter`, `isAlphanumeric`, `isWord`, `isSpace`.
* `digitValue?` — the value of a decimal digit of any script.
* `isIdentifierStart`, `isIdentifierContinue`, `isIdentifier`.
* `isPrintable`.
-/

namespace RouteMatch.Unicode

/-- An ASCII letter. -/
def isAsciiLetter (code : Nat) : Bool :=
  (0x41 ≤ code && code ≤ 0x5A) || (0x61 ≤ code && code ≤ 0x7A)

/-- An ASCII decimal digit. -/
def isAsciiDigit (code : Nat) : Bool :=
  0x30 ≤ code && code ≤ 0x39

/-- A letter of any script. -/
def isLetter (code : Nat) : Bool :=
  if code < 0x80 then isAsciiLetter code else letters.contains code

/-- A letter or a numeric sign of any script. -/
def isAlphanumeric (code : Nat) : Bool :=
  if code < 0x80 then isAsciiLetter code || isAsciiDigit code
  else letters.contains code || numbers.contains code

/-- The value of a decimal digit of any script. -/
def digitValue? (code : Nat) : Option Nat :=
  if code < 0x80 then
    if isAsciiDigit code then some (code - 0x30) else none
  else
    (decimalZeros.find? fun start => start ≤ code && code < start + 10).map (code - ·)

/-- A decimal digit of any script. -/
def isDigit (code : Nat) : Bool :=
  (digitValue? code).isSome

/-- White space: the separators and the control characters that stand for
spaces or line ends. -/
def isSpace (code : Nat) : Bool :=
  (0x09 ≤ code && code ≤ 0x0D) || (0x1C ≤ code && code ≤ 0x20) || code == 0x85 || code == 0xA0
    || code == 0x1680 || (0x2000 ≤ code && code ≤ 0x200A) || code == 0x2028 || code == 0x2029
    || code == 0x202F || code == 0x205F || code == 0x3000

/-- White space of the C locale: space, tab, line feed, vertical tab, form feed
and carriage return. -/
def isAsciiSpace (code : Nat) : Bool :=
  (0x09 ≤ code && code ≤ 0x0D) || code == 0x20

/-- A character of a word: a letter, a numeric sign or the underscore. -/
def isWord (code : Nat) : Bool :=
  isAlphanumeric code || code == 0x5F

/-- A character of a word in ASCII. -/
def isAsciiWord (code : Nat) : Bool :=
  isAsciiLetter code || isAsciiDigit code || code == 0x5F

/-- A character that an identifier may begin with. -/
def isIdentifierStart (code : Nat) : Bool :=
  if code < 0x80 then isAsciiLetter code || code == 0x5F
  else (letters.contains code && !identifierNonStarts.contains code)
    || identifierStarts.contains code

/-- A character that an identifier may go on with. -/
def isIdentifierContinue (code : Nat) : Bool :=
  if code < 0x80 then isAsciiWord code
  else isIdentifierStart code || identifierContinues.contains code

/-- An identifier: a start character followed by continue characters. -/
def isIdentifier : List Char → Bool
  | [] => false
  | c :: cs => isIdentifierStart c.toNat && cs.all fun d => isIdentifierContinue d.toNat

/-- A character that quoted text shows as itself. -/
def isPrintable (code : Nat) : Bool :=
  if code < 0x80 then 0x20 ≤ code && code < 0x7F else !unprintable.contains code

end RouteMatch.Unicode
