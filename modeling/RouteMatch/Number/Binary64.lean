/-!
# Binary floating point numbers of 64 bits

A number of the format is kept as exact data, an integer times a power of two,
so that comparison and rounding are integer arithmetic.

## Main definitions

* `Binary64` — the numbers of the format.
* `Binary64.ofQuotient` — the nearest number to a quotient of natural numbers.
* `Binary64.ofDecimal` — the nearest number to a decimal fraction.
* `Binary64.toFraction?` — a finite number as a quotient of integers.
* `Binary64.truncate?` — the integer part.
-/

namespace RouteMatch

/-- A binary floating point number of 64 bits. -/
inductive Binary64
  /-- Not a number. -/
  | nan
  /-- An infinity. -/
  | infinite (negative : Bool)
  /-- `mantissa * 2 ^ exponent`, or its negative.  The mantissa is below `2 ^ 53`,
  and at least `2 ^ 52` unless the exponent is the least one, `-1074`. -/
  | finite (negative : Bool) (mantissa : Nat) (exponent : Int)
  deriving DecidableEq, Repr

namespace Binary64

/-- The exponent of the smallest numbers. -/
def leastExponent : Int := -1074

/-- The exponent of the greatest numbers. -/
def greatestExponent : Int := 971

/-- The quotient of `num * 2 ^ (-exponent)` and `den` rounded to an integer, a
half to the even neighbour. -/
def roundScaled (num den : Nat) (exponent : Int) : Nat :=
  let num := num * Nat.pow 2 (-exponent).toNat
  let den := den * Nat.pow 2 exponent.toNat
  let q := num / den
  let twice := 2 * (num % den)
  if twice > den ∨ (twice = den ∧ q % 2 = 1) then q + 1 else q

/-- The greatest exponent, from the least one up, for which the quotient still
has 53 binary digits before the point. -/
def scale (num den : Nat) : Int :=
  let guess : Int := (num.log2 : Int) - (den.log2 : Int) - 52
  let tooGreat : Bool :=
    num * Nat.pow 2 (-guess).toNat < den * Nat.pow 2 guess.toNat * Nat.pow 2 52
  max leastExponent (if tooGreat then guess - 1 else guess)

/-- The nearest number to `num / den`, a half to the even mantissa. -/
def ofQuotient (negative : Bool) (num den : Nat) : Binary64 :=
  if num = 0 then .finite negative 0 leastExponent
  else
    let exponent := scale num den
    let mantissa := roundScaled num den exponent
    let (mantissa, exponent) :=
      if mantissa = Nat.pow 2 53 then (Nat.pow 2 52, exponent + 1) else (mantissa, exponent)
    if exponent > greatestExponent then .infinite negative
    else .finite negative mantissa exponent

/-- The nearest number to `digits * 10 ^ exponent`.  Exponents that are far out
of range are settled before any power of ten is formed. -/
def ofDecimal (negative : Bool) (digits : Nat) (exponent : Int) : Binary64 :=
  if digits = 0 ∨ exponent + (digits.log2 : Int) < -400 then
    .finite negative 0 leastExponent
  else if exponent > 400 then .infinite negative
  else ofQuotient negative (digits * Nat.pow 10 exponent.toNat) (Nat.pow 10 (-exponent).toNat)

/-- Numerator and denominator of a finite number. -/
def toFraction? : Binary64 → Option (Int × Nat)
  | .finite negative mantissa exponent =>
    let num : Int := mantissa * Nat.pow 2 exponent.toNat
    some (if negative then -num else num, Nat.pow 2 (-exponent).toNat)
  | _ => none

/-- The integer part of a finite number: its fraction is cut off. -/
def truncate? (x : Binary64) : Option Int :=
  x.toFraction?.map fun (num, den) => num.tdiv den

/-- Whether a number is zero. -/
def isZero : Binary64 → Bool
  | .finite _ mantissa _ => mantissa == 0
  | _ => false

end Binary64

end RouteMatch
