/-!
# Reading UTF-8 leniently

A text that mixes bytes with characters known already is read from left to
right.  Well-formed UTF-8 sequences become their characters; each maximal
ill-formed part (a sequence cut short, or a byte that begins none) becomes one
replacement character.  A sequence never reaches over a character.

## Main definitions

* `Raw` — a byte, or a character that was not encoded.
* `Sequence` — the part of a sequence read so far.
* `decode` — the reading, in the middle of a sequence or between two.
-/

namespace RouteMatch.Text.Utf8

/-- A unit of the text to be read. -/
inductive Raw
  /-- A byte of UTF-8. -/
  | byte (value : Nat)
  /-- A character as it stands. -/
  | char (c : Char)
  deriving DecidableEq, Repr

/-- The beginning of a multi-byte sequence. -/
structure Sequence where
  /-- The bits of the code point read so far. -/
  bits : Nat
  /-- How many bytes are still to come. -/
  missing : Nat
  /-- The least value of the next byte. -/
  least : Nat
  /-- The greatest value of the next byte. -/
  greatest : Nat
  deriving DecidableEq, Repr

/-- The character that stands for bytes that are not UTF-8. -/
def replacement : Char := '\uFFFD'

/-- What a byte between two sequences gives: a character, or the beginning of a
sequence.  The bounds on the second byte leave out overlong forms, surrogates
and code points past the last plane. -/
def lead (b : Nat) : List Char × Option Sequence :=
  if b < 0x80 then ([Char.ofNat b], none)
  else if b < 0xC2 then ([replacement], none)
  else if b < 0xE0 then ([], some ⟨b - 0xC0, 1, 0x80, 0xBF⟩)
  else if b = 0xE0 then ([], some ⟨0, 2, 0xA0, 0xBF⟩)
  else if b = 0xED then ([], some ⟨0xD, 2, 0x80, 0x9F⟩)
  else if b < 0xF0 then ([], some ⟨b - 0xE0, 2, 0x80, 0xBF⟩)
  else if b = 0xF0 then ([], some ⟨0, 3, 0x90, 0xBF⟩)
  else if b < 0xF4 then ([], some ⟨b - 0xF0, 3, 0x80, 0xBF⟩)
  else if b = 0xF4 then ([], some ⟨4, 3, 0x80, 0x8F⟩)
  else ([replacement], none)

/-- What the next byte gives. -/
def step : Option Sequence → Nat → List Char × Option Sequence
  | none, b => lead b
  | some s, b =>
    if s.least ≤ b ∧ b ≤ s.greatest then
      let bits := s.bits * 64 + (b - 0x80)
      if s.missing ≤ 1 then ([Char.ofNat bits], none)
      else ([], some ⟨bits, s.missing - 1, 0x80, 0xBF⟩)
    else
      (replacement :: (lead b).1, (lead b).2)

/-- What is owed for a sequence that goes no further. -/
def flush : Option Sequence → List Char
  | none => []
  | some _ => [replacement]

/-- The characters of a text, after the beginning of a sequence or after none. -/
def decode : Option Sequence → List Raw → List Char
  | s, [] => flush s
  | s, .char c :: rest => flush s ++ c :: decode none rest
  | s, .byte b :: rest => (step s b).1 ++ decode (step s b).2 rest

@[simp] theorem decode_nil (s : Option Sequence) : decode s [] = flush s := by
  rw [decode]

@[simp] theorem decode_char (s : Option Sequence) (c : Char) (rest : List Raw) :
    decode s (.char c :: rest) = flush s ++ c :: decode none rest := by
  rw [decode]

@[simp] theorem decode_byte (s : Option Sequence) (b : Nat) (rest : List Raw) :
    decode s (.byte b :: rest) = (step s b).1 ++ decode (step s b).2 rest := by
  rw [decode]

end RouteMatch.Text.Utf8
