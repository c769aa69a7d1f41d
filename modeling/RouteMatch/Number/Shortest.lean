import RouteMatch.Number.Binary64

/-!
# Shortest decimal digits

Of the decimal numerals that read back to a floating point number, the shortest
is chosen, and of several shortest ones the nearest.  The reals that read back
to `m * 2 ^ e` form an interval, from half way to the number below to half way to
the number above; its ends belong to it when `m` is even.

## Main definitions

* `Digits` — a natural number times a power of ten.
* `roundingInterval` — the interval, scaled to integers.
* `pointOf` — where the decimal point of a quotient stands.
* `shortest` — the chosen numeral.
-/

namespace RouteMatch.Binary64

/-- The number `digits * 10 ^ exponent`. -/
structure Digits where
  digits : Nat
  exponent : Int
  deriving DecidableEq, Repr

/-- The reals that read back to `mantissa * 2 ^ exponent`: lower end, number and
upper end over a common denominator. -/
structure RoundingInterval where
  lower : Nat
  value : Nat
  upper : Nat
  denominator : Nat
  /-- Whether the ends belong to the interval. -/
  closed : Bool
  deriving Repr

/-- The interval of a positive number.  Below a power of two the numbers are
twice as dense. -/
def roundingInterval (mantissa : Nat) (exponent : Int) : RoundingInterval :=
  let unit := Nat.pow 2 exponent.toNat
  let below := if mantissa = Nat.pow 2 52 ∧ exponent > leastExponent then 1 else 2
  { lower := (4 * mantissa - below) * unit
    value := 4 * mantissa * unit
    upper := (4 * mantissa + 2) * unit
    denominator := 4 * Nat.pow 2 (-exponent).toNat
    closed := mantissa % 2 == 0 }

/-- Whether `count * 10 ^ power` lies in the interval. -/
def RoundingInterval.holds (i : RoundingInterval) (count : Nat) (power : Int) : Bool :=
  let x := count * Nat.pow 10 power.toNat * i.denominator
  let lower := i.lower * Nat.pow 10 (-power).toNat
  let upper := i.upper * Nat.pow 10 (-power).toNat
  if i.closed then lower ≤ x && x ≤ upper else lower < x && x < upper

/-- The number of decimal digits of a natural number. -/
def decimalLength (n : Nat) : Nat :=
  (Nat.toDigits 10 n).length

/-- The place of the decimal point of a positive quotient: `p` with
`10 ^ (p - 1) ≤ num / den < 10 ^ p`, searched downwards from zero for a proper
fraction. -/
def pointOf (num den : Nat) : Int :=
  if num ≥ den then decimalLength (num / den)
  else
    let zeros := (List.range 400).find? fun k => num * Nat.pow 10 (k + 1) ≥ den
    Int.negOfNat (zeros.getD 0)

/-- Of the two neighbours on a decimal grid, the one that is in the interval; the
nearer one if both are, the even one if they are equally near. -/
def onGrid? (i : RoundingInterval) (power : Int) : Option Nat :=
  let num := i.value * Nat.pow 10 (-power).toNat
  let den := i.denominator * Nat.pow 10 power.toNat
  let floor := num / den
  let rest := num % den
  match i.holds floor power, i.holds (floor + 1) power with
  | true, false => some floor
  | false, true => some (floor + 1)
  | true, true =>
    if 2 * rest < den ∨ (2 * rest = den ∧ floor % 2 = 0) then some floor else some (floor + 1)
  | false, false => none

/-- A numeral without zeros at its end. -/
def stripZeros : (fuel : Nat) → Digits → Digits
  | 0, d => d
  | fuel + 1, d =>
    if d.digits ≠ 0 ∧ d.digits % 10 = 0 then stripZeros fuel ⟨d.digits / 10, d.exponent + 1⟩
    else d

/-- The shortest numeral that reads back to a positive number; seventeen digits
always suffice. -/
def shortest (mantissa : Nat) (exponent : Int) : Digits :=
  let i := roundingInterval mantissa exponent
  let point := pointOf i.value i.denominator
  let found := (List.range 17).findSome? fun k =>
    let power := point - (k + 1 : Nat)
    (onGrid? i power).map fun count => (⟨count, power⟩ : Digits)
  stripZeros 20 (found.getD ⟨0, 0⟩)

end RouteMatch.Binary64
