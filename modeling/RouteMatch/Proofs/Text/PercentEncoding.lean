import RouteMatch.Text.Percent
import RouteMatch.Unicode.Character

/-!
# Percent-encoding

A text is percent-encoded by writing every character that is not unreserved as the
bytes of its UTF-8 encoding, each as a percent sign and two digits.  Decoding undoes
this, whatever the text is: the escapes become the bytes again, and the bytes of a
character are read as that character, without touching what comes after them.  The same
holds if slashes are written as they stand, as in a path.

## Main definitions

* `utf8Bytes` — the bytes of a character.
* `percentEncode` — the encoding.
* `percentEncodePath` — the encoding that leaves slashes alone.

## Main results

* `decode_utf8Bytes` — the bytes of a character are read as the character.
* `percentDecodeChars_percentEncode`, `percentDecodeChars_percentEncodePath` — decoding
  undoes encoding.
* `notMem_percentEncode`, `notMem_percentEncodePath` — what an encoded text does not hold.
* `percentDecode_ne_empty` — decoding never makes a text empty, whatever escapes it holds.
-/

namespace RouteMatch.Text

/-! ### The encoding -/

/-- The bytes of a character in UTF-8. -/
def utf8Bytes (c : Char) : List Nat :=
  (String.utf8EncodeChar c).map UInt8.toNat

/-- The upper-case hexadecimal digit of a number below sixteen. -/
def upperHexDigit (n : Nat) : Char :=
  Char.ofNat (if n < 10 then 0x30 + n else 0x37 + n)

/-- A byte as an escape. -/
def percentByte (b : Nat) : List Char :=
  ['%', upperHexDigit (b / 16), upperHexDigit (b % 16)]

/-- Whether a character stands for itself: letters and digits of ASCII and four
signs. -/
def isUnreserved (c : Char) : Bool :=
  Unicode.isAsciiLetter c.toNat || Unicode.isAsciiDigit c.toNat || ['-', '.', '_', '~'].contains c

/-- A character, percent-encoded. -/
def percentEncodeChar (c : Char) : List Char :=
  if isUnreserved c then [c] else (utf8Bytes c).flatMap percentByte

/-- A text, percent-encoded. -/
def percentEncode (text : List Char) : List Char :=
  text.flatMap percentEncodeChar

/-- A text, percent-encoded except for its slashes. -/
def percentEncodePath (text : List Char) : List Char :=
  text.flatMap fun c => if c = '/' then ['/'] else percentEncodeChar c

/-! ### Escapes -/

theorem hexValue?_upperHexDigit {n : Nat} (h : n < 16) : hexValue? (upperHexDigit n) = some n := by
  have key : ∀ m : Fin 16, hexValue? (upperHexDigit m) = some m.val := by decide
  exact key ⟨n, h⟩

theorem isUnreserved_upperHexDigit {n : Nat} (h : n < 16) :
    isUnreserved (upperHexDigit n) = true := by
  have key : ∀ m : Fin 16, isUnreserved (upperHexDigit m) = true := by decide
  exact key ⟨n, h⟩

theorem utf8Bytes_lt {c : Char} {b : Nat} (h : b ∈ utf8Bytes c) : b < 256 := by
  obtain ⟨byte, -, rfl⟩ := List.mem_map.mp h
  exact byte.toNat_lt

/-- Escapes are read as the bytes that they were written for. -/
theorem rawText_percentBytes {bytes : List Nat} (h : ∀ b ∈ bytes, b < 256) (rest : List Char) :
    rawText (bytes.flatMap percentByte ++ rest) = bytes.map .byte ++ rawText rest := by
  induction bytes with
  | nil => rfl
  | cons b bytes ih =>
    have hb := h b List.mem_cons_self
    have ih := ih fun b' hb' => h b' (List.mem_cons_of_mem _ hb')
    have hhigh := hexValue?_upperHexDigit (n := b / 16) (by omega)
    have hlow := hexValue?_upperHexDigit (n := b % 16) (by omega)
    have hvalue : 16 * (b / 16) + b % 16 = b := by omega
    rw [List.flatMap_cons, List.append_assoc, percentByte]
    simp only [List.cons_append, List.nil_append, rawText, hhigh, hlow, hvalue, ih, List.map_cons]

/-! ### Unreserved characters -/

theorem toNat_lt_of_isUnreserved {c : Char} (h : isUnreserved c = true) : c.toNat < 0x80 := by
  simp only [isUnreserved, Unicode.isAsciiLetter, Unicode.isAsciiDigit, Bool.or_eq_true,
    Bool.and_eq_true, decide_eq_true_eq, List.contains_eq_mem, List.mem_cons, List.not_mem_nil,
    or_false] at h
  rcases h with (h | h) | rfl | rfl | rfl | rfl
  · omega
  · omega
  · decide
  · decide
  · decide
  · decide

theorem rawText_unreserved {c : Char} (h : isUnreserved c = true) (rest : List Char) :
    rawText (c :: rest) = .byte c.toNat :: rawText rest := by
  have hpercent : c ≠ '%' := by
    rintro rfl
    exact absurd h (by decide)
  have hraw : rawChar c = .byte c.toNat := if_pos (toNat_lt_of_isUnreserved h)
  rw [rawText, hraw]
  -- Only a percent sign begins an escape.
  intro _ _ _ hc
  exact absurd hc hpercent

/-! ### UTF-8 -/

namespace Utf8

/-- The sequences of two bytes. -/
theorem lead_two {n : Nat} (h : 2 ≤ n) (h' : n < 32) :
    lead (n + 0xC0) = ([], some ⟨n, 1, 0x80, 0xBF⟩) := by
  have key : ∀ m : Fin 32, 2 ≤ m.val → lead (m.val + 0xC0) = ([], some ⟨m.val, 1, 0x80, 0xBF⟩) := by
    decide
  exact key ⟨n, h'⟩ h

/-- The sequences of three bytes.  The second byte rules out short forms and
surrogates. -/
theorem lead_three {n : Nat} (h : n < 16) :
    lead (n + 0xE0)
      = ([], some ⟨n, 2, if n = 0 then 0xA0 else 0x80, if n = 0xD then 0x9F else 0xBF⟩) := by
  have key : ∀ m : Fin 16, lead (m.val + 0xE0)
      = ([], some ⟨m.val, 2, if m.val = 0 then 0xA0 else 0x80,
          if m.val = 0xD then 0x9F else 0xBF⟩) := by
    decide
  exact key ⟨n, h⟩

/-- The sequences of four bytes.  The second byte rules out short forms and code
points past the last plane. -/
theorem lead_four {n : Nat} (h : n < 5) :
    lead (n + 0xF0)
      = ([], some ⟨n, 3, if n = 0 then 0x90 else 0x80, if n = 4 then 0x8F else 0xBF⟩) := by
  have key : ∀ m : Fin 5, lead (m.val + 0xF0)
      = ([], some ⟨m.val, 3, if m.val = 0 then 0x90 else 0x80,
          if m.val = 4 then 0x8F else 0xBF⟩) := by
    decide
  exact key ⟨n, h⟩

/-- The first byte of a sequence. -/
theorem decode_lead {s : Sequence} {b : Nat} (h : lead b = ([], some s)) (rest : List Raw) :
    decode none (.byte b :: rest) = decode (some s) rest := by
  rw [decode_byte, step, h]
  rfl

/-- A byte in the middle of a sequence. -/
theorem decode_middle {bits missing least greatest b : Nat} (hleast : least ≤ b + 0x80)
    (hgreatest : b + 0x80 ≤ greatest) (rest : List Raw) :
    decode (some ⟨bits, missing + 2, least, greatest⟩) (.byte (b + 0x80) :: rest)
      = decode (some ⟨bits * 64 + b, missing + 1, 0x80, 0xBF⟩) rest := by
  have hnot : ¬missing + 2 ≤ 1 := by omega
  rw [decode_byte, step, if_pos ⟨hleast, hgreatest⟩]
  simp only [if_neg hnot, Nat.add_sub_cancel, List.nil_append]
  rfl

/-- The last byte of a sequence. -/
theorem decode_last {bits least greatest b : Nat} (hleast : least ≤ b + 0x80)
    (hgreatest : b + 0x80 ≤ greatest) (rest : List Raw) :
    decode (some ⟨bits, 1, least, greatest⟩) (.byte (b + 0x80) :: rest)
      = Char.ofNat (bits * 64 + b) :: decode none rest := by
  rw [decode_byte, step, if_pos ⟨hleast, hgreatest⟩]
  simp only [Nat.le_refl, if_true, Nat.add_sub_cancel, List.singleton_append]

end Utf8

/-- The code points of characters. -/
theorem toNat_valid (c : Char) : c.toNat < 0xD800 ∨ (0xDFFF < c.toNat ∧ c.toNat < 0x110000) :=
  c.valid

/-- The bytes of a character, by the size of its code point. -/
theorem utf8Bytes_eq (c : Char) :
    utf8Bytes c
      = if c.toNat ≤ 0x7F then [c.toNat]
        else if c.toNat ≤ 0x7FF then [c.toNat / 64 + 0xC0, c.toNat % 64 + 0x80]
        else if c.toNat ≤ 0xFFFF then
          [c.toNat / 4096 + 0xE0, c.toNat / 64 % 64 + 0x80, c.toNat % 64 + 0x80]
        else
          [c.toNat / 262144 + 0xF0, c.toNat / 4096 % 64 + 0x80, c.toNat / 64 % 64 + 0x80,
            c.toNat % 64 + 0x80] := by
  have hvalid := toNat_valid c
  have hval : c.val.toNat = c.toNat := rfl
  unfold utf8Bytes String.utf8EncodeChar
  simp only [hval]
  by_cases h₁ : c.toNat ≤ 0x7F
  · simp only [if_pos h₁, List.map_cons, List.map_nil, UInt8.toNat_ofNat', List.cons.injEq,
      and_true]
    omega
  · by_cases h₂ : c.toNat ≤ 0x7FF
    · simp only [if_neg h₁, if_pos h₂, List.map_cons, List.map_nil, UInt8.toNat_ofNat',
        List.cons.injEq, and_true]
      omega
    · by_cases h₃ : c.toNat ≤ 0xFFFF
      · simp only [if_neg h₁, if_neg h₂, if_pos h₃, List.map_cons, List.map_nil,
          UInt8.toNat_ofNat', List.cons.injEq, and_true]
        omega
      · simp only [if_neg h₁, if_neg h₂, if_neg h₃, List.map_cons, List.map_nil,
          UInt8.toNat_ofNat', List.cons.injEq, and_true]
        omega

/-- The bytes of a character are read as the character. -/
theorem decode_utf8Bytes (c : Char) (rest : List Utf8.Raw) :
    Utf8.decode none ((utf8Bytes c).map .byte ++ rest) = c :: Utf8.decode none rest := by
  have hvalid := toNat_valid c
  have hchar : ∀ n, n = c.toNat → Char.ofNat n = c := by
    rintro n rfl
    exact Char.ofNat_toNat c
  rw [utf8Bytes_eq]
  -- One case for each number of bytes, along the list of bytes.
  by_cases h₁ : c.toNat ≤ 0x7F
  · have hlead : Utf8.lead c.toNat = ([c], none) := by
      rw [Utf8.lead, if_pos (by omega), hchar _ rfl]
    simp only [if_pos h₁, List.map_cons, List.map_nil, List.cons_append, List.nil_append,
      Utf8.decode_byte, Utf8.step, hlead]
  · by_cases h₂ : c.toNat ≤ 0x7FF
    · have hlead := Utf8.lead_two (n := c.toNat / 64) (by omega) (by omega)
      simp only [if_neg h₁, if_pos h₂, List.map_cons, List.map_nil, List.cons_append,
        List.nil_append]
      rw [Utf8.decode_lead hlead, Utf8.decode_last (by omega) (by omega), hchar _ (by omega)]
    · by_cases h₃ : c.toNat ≤ 0xFFFF
      · have hlead := Utf8.lead_three (n := c.toNat / 4096) (by omega)
        have hleast : (if c.toNat / 4096 = 0 then 0xA0 else 0x80) ≤ c.toNat / 64 % 64 + 0x80 := by
          split <;> omega
        have hgreatest : c.toNat / 64 % 64 + 0x80
            ≤ if c.toNat / 4096 = 0xD then 0x9F else 0xBF := by
          split <;> omega
        simp only [if_neg h₁, if_neg h₂, if_pos h₃, List.map_cons, List.map_nil, List.cons_append,
          List.nil_append]
        rw [Utf8.decode_lead hlead, Utf8.decode_middle hleast hgreatest,
          Utf8.decode_last (by omega) (by omega), hchar _ (by omega)]
      · have hlead := Utf8.lead_four (n := c.toNat / 262144) (by omega)
        have hleast : (if c.toNat / 262144 = 0 then 0x90 else 0x80)
            ≤ c.toNat / 4096 % 64 + 0x80 := by
          split <;> omega
        have hgreatest : c.toNat / 4096 % 64 + 0x80
            ≤ if c.toNat / 262144 = 4 then 0x8F else 0xBF := by
          split <;> omega
        simp only [if_neg h₁, if_neg h₂, if_neg h₃, List.map_cons, List.map_nil, List.cons_append,
          List.nil_append]
        rw [Utf8.decode_lead hlead, Utf8.decode_middle hleast hgreatest,
          Utf8.decode_middle (by omega) (by omega), Utf8.decode_last (by omega) (by omega),
          hchar _ (by omega)]

/-! ### Decoding undoes encoding -/

theorem decode_percentEncodeChar (c : Char) (rest : List Char) :
    Utf8.decode none (rawText (percentEncodeChar c ++ rest))
      = c :: Utf8.decode none (rawText rest) := by
  unfold percentEncodeChar
  split
  · next h =>
    have hlead : Utf8.lead c.toNat = ([c], none) := by
      rw [Utf8.lead, if_pos (toNat_lt_of_isUnreserved h), Char.ofNat_toNat]
    rw [List.singleton_append, rawText_unreserved h, Utf8.decode_byte, Utf8.step, hlead]
    rfl
  · rw [rawText_percentBytes fun b hb => utf8Bytes_lt hb, decode_utf8Bytes]

/-- Decoding undoes encoding. -/
theorem percentDecodeChars_percentEncode (text : List Char) :
    percentDecodeChars (percentEncode text) = text := by
  induction text with
  | nil => rfl
  | cons c text ih =>
    rw [percentDecodeChars] at ih ⊢
    rw [percentEncode, List.flatMap_cons, decode_percentEncodeChar]
    exact congrArg _ ih

theorem percentEncodeChar_ne_nil (c : Char) : percentEncodeChar c ≠ [] := by
  unfold percentEncodeChar
  split
  · exact List.cons_ne_nil c []
  · have hbytes : utf8Bytes c ≠ [] := by
      rw [utf8Bytes, ne_eq, List.map_eq_nil_iff]
      exact String.utf8EncodeChar_ne_nil
    obtain ⟨b, bytes, h⟩ := List.exists_cons_of_ne_nil hbytes
    rw [h]
    exact List.cons_ne_nil _ _

theorem percentEncode_ne_nil {text : List Char} (h : text ≠ []) : percentEncode text ≠ [] := by
  obtain ⟨c, rest, rfl⟩ := List.exists_cons_of_ne_nil h
  exact List.append_ne_nil_of_left_ne_nil (percentEncodeChar_ne_nil c) _

/-- An encoded character is written with percent signs and unreserved characters. -/
theorem eq_percent_or_of_mem_percentEncodeChar {c d : Char} (h : d ∈ percentEncodeChar c) :
    d = '%' ∨ isUnreserved d = true := by
  unfold percentEncodeChar at h
  split at h
  · next hc =>
    rw [List.mem_singleton.mp h]
    exact Or.inr hc
  · obtain ⟨b, hb, h⟩ := List.mem_flatMap.mp h
    have hlt := utf8Bytes_lt hb
    rcases List.mem_cons.mp h with h | h
    · exact Or.inl h
    · rcases List.mem_cons.mp h with h | h
      · rw [h]
        exact Or.inr (isUnreserved_upperHexDigit (by omega))
      · rw [List.mem_singleton.mp h]
        exact Or.inr (isUnreserved_upperHexDigit (by omega))

section

variable {d : Char} (hpercent : d ≠ '%') (hreserved : isUnreserved d = false)

include hpercent hreserved

theorem notMem_percentEncodeChar (c : Char) : d ∉ percentEncodeChar c := by
  intro h
  rcases eq_percent_or_of_mem_percentEncodeChar h with h | h
  · exact hpercent h
  · rw [hreserved] at h
    exact absurd h (by decide)

/-- An encoded text holds no reserved character but percent signs. -/
theorem notMem_percentEncode (text : List Char) : d ∉ percentEncode text := by
  intro h
  obtain ⟨c, -, h⟩ := List.mem_flatMap.mp h
  exact notMem_percentEncodeChar hpercent hreserved c h

/-- With its slashes left alone an encoded text holds no other reserved character either. -/
theorem notMem_percentEncodePath (hslash : d ≠ '/') (text : List Char) :
    d ∉ percentEncodePath text := by
  intro h
  obtain ⟨c, -, h⟩ := List.mem_flatMap.mp h
  split at h
  · exact hslash (List.mem_singleton.mp h)
  · exact notMem_percentEncodeChar hpercent hreserved c h

end

/-- An encoded text holds no slash. -/
theorem slash_notMem_percentEncode (text : List Char) : '/' ∉ percentEncode text :=
  notMem_percentEncode (by decide) (by decide) text

/-! ### Slashes left alone -/

/-- A slash is read as a slash. -/
theorem decode_slash (rest : List Char) :
    Utf8.decode none (rawText ('/' :: rest)) = '/' :: Utf8.decode none (rawText rest) := by
  have hraw : rawText ('/' :: rest) = .byte '/'.toNat :: rawText rest := by
    rw [rawText]
    · rfl
    · intro _ _ _ hc
      exact absurd hc (by decide)
  rw [hraw, Utf8.decode_byte]
  rfl

/-- Decoding undoes the encoding that leaves slashes alone. -/
theorem percentDecodeChars_percentEncodePath (text : List Char) :
    percentDecodeChars (percentEncodePath text) = text := by
  induction text with
  | nil => rfl
  | cons c text ih =>
    rw [percentDecodeChars] at ih ⊢
    rw [percentEncodePath, List.flatMap_cons]
    by_cases hc : c = '/'
    · rw [if_pos hc, List.singleton_append, decode_slash, hc]
      exact congrArg _ ih
    · rw [if_neg hc, decode_percentEncodeChar]
      exact congrArg _ ih

/-- Only the empty text is encoded as an empty text. -/
theorem percentEncodePath_ne_nil {text : List Char} (h : text ≠ []) :
    percentEncodePath text ≠ [] := by
  intro hnil
  have hdecoded := percentDecodeChars_percentEncodePath text
  rw [hnil] at hdecoded
  exact h hdecoded.symm

/-! ### Decoding any text -/

/-- A byte between two sequences gives a character or begins a sequence. -/
theorem Utf8.lead_ne (b : Nat) : Utf8.lead b ≠ ([], none) := by
  unfold Utf8.lead
  repeat' split
  all_goals simp

/-- A byte gives a character or leaves a sequence to be read. -/
theorem Utf8.step_ne (s : Option Utf8.Sequence) (b : Nat) : Utf8.step s b ≠ ([], none) := by
  cases s with
  | none => exact Utf8.lead_ne b
  | some s =>
    simp only [Utf8.step]
    by_cases hbounds : s.least ≤ b ∧ b ≤ s.greatest
    · rw [if_pos hbounds]
      split <;> simp
    · rw [if_neg hbounds]
      simp

/-- Only where nothing is to be read and nothing is owed no character is read. -/
theorem Utf8.eq_nil_of_decode_eq_nil {s : Option Utf8.Sequence} {units : List Utf8.Raw}
    (h : Utf8.decode s units = []) : s = none ∧ units = [] := by
  induction units generalizing s with
  | nil =>
    cases s with
    | none => exact ⟨rfl, rfl⟩
    | some s => exact absurd h (by simp [Utf8.flush])
  | cons unit rest ih =>
    cases unit with
    | char c => exact absurd h (by simp)
    | byte b =>
      rw [Utf8.decode_byte, List.append_eq_nil_iff] at h
      have hpair : Utf8.step s b = ([], none) := Prod.ext h.1 (ih h.2).1
      exact absurd hpair (Utf8.step_ne s b)

theorem rawText_ne_nil {text : List Char} (h : text ≠ []) : rawText text ≠ [] := by
  unfold rawText
  split
  · exact absurd rfl h
  · split <;> exact List.cons_ne_nil _ _
  · exact List.cons_ne_nil _ _

/-- Decoding never makes a text empty. -/
theorem percentDecode_ne_empty {text : String} (h : text ≠ "") : percentDecode text ≠ "" := by
  intro heq
  have hchars : percentDecodeChars text.toList = [] := String.ofList_injective heq
  have hraw : rawText text.toList ≠ [] := rawText_ne_nil fun hnil => h (String.toList_injective hnil)
  exact hraw (Utf8.eq_nil_of_decode_eq_nil hchars).2

end RouteMatch.Text
