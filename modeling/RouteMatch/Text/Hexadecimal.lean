/-!
# Hexadecimal digits

## Main definitions

* `hexDigit` — the lower-case digit of a number below sixteen.
* `hexValue?` — the value of a digit of either case.
* `toHex` — a number written with a given count of digits.
* `ofHex` — the number a list of digits denotes.

## Main results

* `hexValue?_hexDigit` — a written digit reads back.
-/

namespace RouteMatch.Text

/-- The lower-case hexadecimal digit of a number below sixteen. -/
def hexDigit (n : Nat) : Char :=
  Char.ofNat (if n < 10 then 0x30 + n else 0x57 + n)

/-- The value of a hexadecimal digit of either case. -/
def hexValue? (c : Char) : Option Nat :=
  let code := c.toNat
  if 0x30 ≤ code ∧ code ≤ 0x39 then some (code - 0x30)
  else if 0x41 ≤ code ∧ code ≤ 0x46 then some (code - 0x37)
  else if 0x61 ≤ code ∧ code ≤ 0x66 then some (code - 0x57)
  else none

/-- Whether a character is a hexadecimal digit. -/
def isHexDigit (c : Char) : Bool :=
  (hexValue? c).isSome

/-- The last `width` hexadecimal digits of a number, zeros included. -/
def toHex : (width : Nat) → Nat → List Char
  | 0, _ => []
  | width + 1, n => toHex width (n / 16) ++ [hexDigit (n % 16)]

/-- The number that hexadecimal digits denote; other characters count as zero. -/
def ofHex (digits : List Char) : Nat :=
  digits.foldl (fun n c => 16 * n + (hexValue? c).getD 0) 0

theorem hexValue?_hexDigit {n : Nat} (h : n < 16) : hexValue? (hexDigit n) = some n := by
  have key : ∀ m : Fin 16, hexValue? (hexDigit m) = some m.val := by decide
  exact key ⟨n, h⟩

@[simp] theorem length_toHex (width n : Nat) : (toHex width n).length = width := by
  induction width generalizing n with
  | zero => rfl
  | succ width ih => simp [toHex, ih]

end RouteMatch.Text
