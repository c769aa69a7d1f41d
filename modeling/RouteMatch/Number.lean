import RouteMatch.Number.Layout

/-!
# Numbers

Truth values, integers and floating point numbers are one numeric tower: `true`
counts as one and `false` as zero, and a comparison is of the exact values.

## Main definitions

* `Number` — the tower.
* `Number.compare?` — the order of two numbers, if they have one.
* `Number.text` — a number as text.
-/

namespace RouteMatch

/-- A truth value, an integer or a floating point number. -/
inductive Number
  | bool (b : Bool)
  | int (i : Int)
  | float (x : Binary64)
  deriving DecidableEq, Repr

namespace Number

/-- The exact value of a finite number as numerator and denominator. -/
def toFraction? : Number → Option (Int × Nat)
  | .bool b => some (if b then 1 else 0, 1)
  | .int i => some (i, 1)
  | .float x => x.toFraction?

/-- Where a number lies: below all finite numbers, among them or above them. -/
def rank? : Number → Option Int
  | .float .nan => none
  | .float (.infinite negative) => some (if negative then -1 else 1)
  | _ => some 0

/-- The order of two numbers; there is none with a number that is not a number. -/
def compare? (a b : Number) : Option Ordering :=
  match a.rank?, b.rank? with
  | some 0, some 0 =>
    match a.toFraction?, b.toFraction? with
    | some (n, d), some (m, e) => some (compare (n * e) (m * d))
    | _, _ => none
  | some r, some s => some (compare r s)
  | _, _ => none

instance : BEq Number where
  beq a b := a.compare? b == some .eq

/-- Whether a number is at most another one. -/
def le (a b : Number) : Bool :=
  a.compare? b == some .lt || a.compare? b == some .eq

/-- Whether a number is greater than another one. -/
def gt (a b : Number) : Bool :=
  a.compare? b == some .gt

/-- Whether a number counts as true: every number but zero does. -/
def isTrue : Number → Bool
  | .bool b => b
  | .int i => i != 0
  | .float x => !x.isZero

/-- The integer part of a number, if it is finite. -/
def truncate? (n : Number) : Option Int :=
  n.toFraction?.map fun (num, den) => num.tdiv den

/-- A number as text. -/
def text : Number → String
  | .bool b => if b then "True" else "False"
  | .int i => toString i
  | .float x => x.text

end Number

end RouteMatch
