import RouteMatch.Text.Hexadecimal
import RouteMatch.Unicode.Character

/-!
# Quoted text

Messages show a text between quotation marks on one line.  The mark is the
apostrophe, unless the text holds apostrophes and no double quote.  The mark
itself and the backslash are written with a backslash before them; line feed,
carriage return and tab have letters; any other unprintable character is written
by its code point in two, four or eight hexadecimal digits.

## Main definitions

* `quoteMark` — the mark a text is put between.
* `escapeChar` — how one character is written.
* `quote` — a text with its marks.
-/

namespace RouteMatch.Text

/-- The mark that a text is put between. -/
def quoteMark (text : List Char) : Char :=
  if text.contains '\'' && !text.contains '"' then '"' else '\''

/-- One character as it is written between two marks. -/
def escapeChar (mark c : Char) : List Char :=
  if c = mark ∨ c = '\\' then ['\\', c]
  else if c = '\n' then ['\\', 'n']
  else if c = '\r' then ['\\', 'r']
  else if c = '\t' then ['\\', 't']
  else if Unicode.isPrintable c.toNat then [c]
  else if c.toNat ≤ 0xFF then '\\' :: 'x' :: toHex 2 c.toNat
  else if c.toNat ≤ 0xFFFF then '\\' :: 'u' :: toHex 4 c.toNat
  else '\\' :: 'U' :: toHex 8 c.toNat

/-- The characters of a text with the marks around it. -/
def quoteChars (text : List Char) : List Char :=
  let mark := quoteMark text
  mark :: text.flatMap (escapeChar mark) ++ [mark]

/-- A text between quotation marks, on one line. -/
def quote (text : String) : String :=
  String.ofList (quoteChars text.toList)

end RouteMatch.Text
