/-!
# Letter case of single bytes

The lower and the upper case of the characters below `U+0100`.  The upper case
of two letters lies outside that range, and that of the sharp s is two letters.

## Main definitions

* `latinLower`, `latinUpper` — the cases of a character.
-/

namespace RouteMatch.Text

/-- The lower case of a character below `U+0100`. -/
def latinLower (c : Char) : Char :=
  let code := c.toNat
  if (0x41 ≤ code ∧ code ≤ 0x5A) ∨ (0xC0 ≤ code ∧ code ≤ 0xDE ∧ code ≠ 0xD7) then
    Char.ofNat (code + 0x20)
  else c

/-- The upper case of a character below `U+0100`. -/
def latinUpper (c : Char) : List Char :=
  let code := c.toNat
  if (0x61 ≤ code ∧ code ≤ 0x7A) ∨ (0xE0 ≤ code ∧ code ≤ 0xFE ∧ code ≠ 0xF7) then
    [Char.ofNat (code - 0x20)]
  else if code = 0xDF then ['S', 'S']
  else if code = 0xB5 then [Char.ofNat 0x39C]
  else if code = 0xFF then [Char.ofNat 0x178]
  else [c]

end RouteMatch.Text
