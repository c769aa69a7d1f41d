import RouteMatch.Number.Shortest

/-!
# The text of a floating point number

## Main definitions

* `Layout` — the decisions of a notation for numbers.
* `Layout.standard` — the notation of this library.
* `Binary64.text` — a number as text.
-/

namespace RouteMatch

/-- How the digits of a number are laid out.  The *point* of a number is the
place of the decimal point counted from the front of its digits. -/
structure Layout where
  /-- The least point that is written in positional notation. -/
  leastPoint : Int
  /-- The greatest point that is written in positional notation. -/
  greatestPoint : Int
  /-- The least number of digits of an exponent. -/
  exponentDigits : Nat

/-- Numbers from `0.0001` up to but not including `10 ^ 16` are positional and
always have a digit after the point; exponents have a sign and two digits. -/
def Layout.standard : Layout := ⟨-3, 16, 2⟩

/-- A natural number with at least `width` digits. -/
def padded (width n : Nat) : List Char :=
  let digits := Nat.toDigits 10 n
  List.replicate (width - digits.length) '0' ++ digits

/-- Digits with a decimal point among or beside them. -/
def Layout.positional (digits : List Char) (point : Int) : List Char :=
  if point ≤ 0 then ['0', '.'] ++ List.replicate (-point).toNat '0' ++ digits
  else
    let whole := digits.take point.toNat
    let fraction := digits.drop point.toNat
    whole ++ List.replicate (point.toNat - digits.length) '0' ++ '.' ::
      if fraction.isEmpty then ['0'] else fraction

/-- Digits with the point after the first of them, and a power of ten. -/
def Layout.scientific (layout : Layout) (digits : List Char) (point : Int) : List Char :=
  let exponent := point - 1
  let fraction := digits.drop 1
  digits.take 1 ++ (if fraction.isEmpty then [] else '.' :: fraction) ++
    ['e', if exponent < 0 then '-' else '+'] ++ padded layout.exponentDigits exponent.natAbs

/-- A numeral in the notation that its point calls for. -/
def Layout.write (layout : Layout) (d : Binary64.Digits) : List Char :=
  let digits := Nat.toDigits 10 d.digits
  let point := digits.length + d.exponent
  if layout.leastPoint ≤ point ∧ point ≤ layout.greatestPoint then Layout.positional digits point
  else layout.scientific digits point

/-- A number as text: its shortest digits in the standard layout. -/
def Binary64.text (x : Binary64) : String :=
  let sign (negative : Bool) (text : List Char) := if negative then '-' :: text else text
  match x with
  | .nan => "nan"
  | .infinite negative => String.ofList (sign negative "inf".toList)
  | .finite negative 0 _ => String.ofList (sign negative "0.0".toList)
  | .finite negative mantissa exponent =>
    String.ofList (sign negative (Layout.standard.write (shortest mantissa exponent)))

end RouteMatch
