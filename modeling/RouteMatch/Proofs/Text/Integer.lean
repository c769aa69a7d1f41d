import RouteMatch.Value.Access

/-!
# Integers read back from their text

An integer is written with a sign, if it is negative, and ASCII digits.  The text
has nothing that a numeral need not have, so reading it gives the integer, unless it
has more digits than are read.

## Main results

* `readInteger_toString` — reading undoes writing.
* `Value.toInteger_of_integerText` — the same for values.
-/

namespace RouteMatch.Text

/-! ### Digits -/

theorem isDecimal_of_mem_toDigits {n : Nat} {c : Char} (h : c ∈ Nat.toDigits 10 n) :
    isDecimal c = true := by
  have hdigit := Nat.isDigit_of_mem_toDigits (by decide) (by decide) h
  rw [Char.isDigit, Bool.and_eq_true, decide_eq_true_eq, decide_eq_true_eq] at hdigit
  have hlow : 0x30 ≤ c.toNat := UInt32.le_iff_toNat_le.mp hdigit.1
  have hhigh : c.toNat ≤ 0x39 := UInt32.le_iff_toNat_le.mp hdigit.2
  simp [isDecimal, Unicode.isAsciiDigit, hlow, hhigh]

/-- A character that counts as itself in a numeral. -/
theorem numeralChar_of_isDecimal {c : Char} (h : isDecimal c = true) : numeralChar c = c := by
  simp only [isDecimal, Unicode.isAsciiDigit, Bool.and_eq_true, decide_eq_true_eq] at h
  rw [numeralChar, if_pos (by omega)]

theorem isBlank_of_isDecimal {c : Char} (h : isDecimal c = true) : isBlank c = false := by
  simp only [isDecimal, Unicode.isAsciiDigit, Bool.and_eq_true, decide_eq_true_eq] at h
  simp only [isBlank, Unicode.isAsciiSpace, Bool.or_eq_false_iff, Bool.and_eq_false_iff,
    decide_eq_false_iff_not, beq_eq_false_iff_ne]
  omega

/-- Digits are read to the end. -/
theorem readDigits_of_forall_isDecimal {digits : List Char}
    (h : ∀ c ∈ digits, isDecimal c = true) : readDigits true digits = some (digits, []) := by
  induction digits with
  | nil => rfl
  | cons c digits ih =>
    have hrest := ih fun d hd => h d (List.mem_cons_of_mem _ hd)
    rw [readDigits, if_pos (h c List.mem_cons_self), hrest]
    rfl

theorem readDigits_of_ne_nil {digits : List Char} (h : ∀ c ∈ digits, isDecimal c = true)
    (hne : digits ≠ []) : readDigits false digits = some (digits, []) := by
  obtain ⟨c, rest, rfl⟩ := List.exists_cons_of_ne_nil hne
  have hrest := readDigits_of_forall_isDecimal fun d hd => h d (List.mem_cons_of_mem _ hd)
  rw [readDigits, if_pos (h c List.mem_cons_self), hrest]
  rfl

/-- The digits of a number denote it. -/
theorem ofDigits_toDigits (n : Nat) : ofDigits 0 (Nat.toDigits 10 n) = n :=
  calc ofDigits 0 (Nat.toDigits 10 n)
    _ = Nat.ofDigitChars 10 (Nat.toDigits 10 n) 0 := by
        rw [ofDigits, Nat.ofDigitChars_eq_foldl]
        rfl
    _ = n := Nat.ofDigitChars_ten_toDigits

/-! ### Integers -/

theorem readSign_toDigits (n : Nat) :
    readSign (Nat.toDigits 10 n) = (false, Nat.toDigits 10 n) := by
  have hdigit := fun c => isDecimal_of_mem_toDigits (n := n) (c := c)
  obtain ⟨c, rest, heq⟩ := List.exists_cons_of_ne_nil (Nat.toDigits_ne_nil (n := n) (b := 10))
  rw [heq] at hdigit ⊢
  have hc := hdigit c List.mem_cons_self
  unfold readSign
  split
  · next h => exact absurd ((List.cons.inj h).1 ▸ hc) (by decide)
  · next h => exact absurd ((List.cons.inj h).1 ▸ hc) (by decide)
  · rfl

/-- The text of an integer: a sign and the digits of its size. -/
theorem toList_toString (i : Int) :
    (toString i).toList
      = (if i < 0 then ['-'] else []) ++ Nat.toDigits 10 i.natAbs := by
  cases i with
  | ofNat n => simp [toString, Int.repr, Nat.toList_repr]
  | negSucc n => simp [toString, Int.repr, Nat.toList_repr, Int.negSucc_lt_zero]

/-- The front of a numeral with a sign. -/
theorem readSign_text (i : Int) :
    readSign ((if i < 0 then ['-'] else []) ++ Nat.toDigits 10 i.natAbs)
      = (decide (i < 0), Nat.toDigits 10 i.natAbs) := by
  by_cases hneg : i < 0
  · simp [hneg, readSign]
  · simp [hneg, readSign_toDigits]

/-- The text of an integer is a numeral as it stands: no character is replaced, and
no blank is left out. -/
theorem numeral_text (i : Int) :
    (((toString i).toList.map numeralChar).dropWhile isBlank) = (toString i).toList := by
  have hdigits : ∀ c ∈ Nat.toDigits 10 i.natAbs, isDecimal c = true := fun c =>
    isDecimal_of_mem_toDigits
  have hmap : (Nat.toDigits 10 i.natAbs).map numeralChar = Nat.toDigits 10 i.natAbs :=
    (List.map_congr_left fun c hc => numeralChar_of_isDecimal (hdigits c hc)).trans (List.map_id _)
  have hblank : (Nat.toDigits 10 i.natAbs).dropWhile isBlank = Nat.toDigits 10 i.natAbs := by
    obtain ⟨c, rest, heq⟩ := List.exists_cons_of_ne_nil
      (Nat.toDigits_ne_nil (n := i.natAbs) (b := 10))
    have hc := isBlank_of_isDecimal (hdigits c (heq ▸ List.mem_cons_self))
    rw [heq, List.dropWhile_cons_of_neg (by rw [hc]; decide)]
  rw [toList_toString]
  by_cases hneg : i < 0
  · have hsign : numeralChar '-' = '-' := by decide
    have hfirst : isBlank '-' = false := by decide
    rw [if_pos hneg, List.singleton_append, List.map_cons, hmap, hsign,
      List.dropWhile_cons_of_neg (by rw [hfirst]; decide)]
  · rw [if_neg hneg, List.nil_append, hmap, hblank]

/-- **An integer is read back from its text.** -/
theorem readInteger_toString {i : Int} (h : (toString i.natAbs).length ≤ digitLimit) :
    readInteger (toString i).toList = .ok i := by
  let digits := Nat.toDigits 10 i.natAbs
  have hlength : ¬ digits.length > digitLimit := by
    rw [← String.length_toList, Nat.toString_eq_repr, Nat.toList_repr] at h
    exact Nat.not_lt.mpr h
  have hread : readDigits false digits = some (digits, []) :=
    readDigits_of_ne_nil (fun c => isDecimal_of_mem_toDigits) Nat.toDigits_ne_nil
  have hvalue : (ofDigits 0 digits : Int) = i.natAbs := by rw [ofDigits_toDigits]
  rw [readInteger, numeral_text, toList_toString, readSign_text]
  simp only [digits] at hread hlength hvalue
  simp only [hread, if_neg hlength, List.all_nil, if_true, hvalue, decide_eq_true_eq]
  congr 1
  split <;> omega

end RouteMatch.Text

namespace RouteMatch.Value

/-- The text of an integer, as a value, stands for the integer. -/
theorem toInteger_of_integerText {i : Int} {text : String} (h : integerText i = .ok text) :
    (Value.text text).toInteger = .ok i := by
  unfold integerText at h
  split at h
  · exact absurd h (by simp)
  · next hshort =>
    have hlength : ¬(toString i.natAbs).length > Text.digitLimit := fun hlong =>
      hshort (decide_eq_true hlong)
    rw [← Except.ok.inj h, toInteger, Text.readInteger_toString (Nat.le_of_not_lt hlength)]

end RouteMatch.Value
