import RouteMatch.Number.Binary64
import RouteMatch.Text.Integer

/-!
# Reading floating point numbers

A numeral has an optional sign, digits with an optional point, and an optional
exponent; single underscores may stand between digits.  The words `inf`,
`infinity` and `nan` are numerals in any case, and white space may surround all
of them.

## Main definitions

* `Binary64.read?` — the number that a text denotes.
-/

namespace RouteMatch.Binary64

open Text

/-- The digits at the front of a text, of which there may be none, and the rest. -/
def digitRun (text : List Char) : List Char × List Char :=
  match text with
  | c :: _ => if isDecimal c then (readDigits false text).getD ([], text) else ([], text)
  | [] => ([], [])

/-- The exponent at the front of a text, zero if it has none, and the rest. -/
def readExponent? (text : List Char) : Option (Int × List Char) :=
  match text with
  | c :: rest =>
    if c = 'e' ∨ c = 'E' then
      let (negative, body) := readSign rest
      match digitRun body with
      | ([], _) => none
      | (digits, tail) =>
        let n : Int := ofDigits 0 digits
        some (if negative then -n else n, tail)
    else some (0, text)
  | [] => some (0, [])

/-- The number that digits with point and exponent denote. -/
def readDecimal? (negative : Bool) (text : List Char) : Option Binary64 :=
  let (whole, rest) := digitRun text
  let (fraction, rest) := match rest with
    | '.' :: tail => digitRun tail
    | _ => ([], rest)
  match readExponent? rest with
  | some (exponent, []) =>
    if whole.isEmpty && fraction.isEmpty then none
    else some (ofDecimal negative (ofDigits 0 (whole ++ fraction)) (exponent - fraction.length))
  | _ => none

/-- The number that a text denotes. -/
def read? (text : List Char) : Option Binary64 :=
  let trimmed := (((text.map numeralChar).dropWhile isBlank).reverse.dropWhile isBlank).reverse
  let (negative, body) := readSign trimmed
  let word := body.map Char.toLower
  if word = "inf".toList ∨ word = "infinity".toList then some (.infinite negative)
  else if word = "nan".toList then some .nan
  else readDecimal? negative body

end RouteMatch.Binary64
