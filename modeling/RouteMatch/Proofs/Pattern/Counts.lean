import RouteMatch.Proofs.Pattern.Reading
import RouteMatch.Pattern.Parser

/-!
# Why a pattern is not read

A pattern that is not read breaks a rule of the syntax, with one exception: a count in
braces may be too large to be represented or have too many digits to be read.  Then the
pattern holds the braces with these counts as they were written.

## Main definitions

* `Faults` — a result that fails by a fault of the syntax only.
* `bracedCounts`, `AreOversized` — counts in braces, and counts of which one is refused.
* `HasOversizedCount` — a text that holds such counts.

## Main results

* `State.faults_step` — the effect of a lexeme fails by a fault only.
* `faults_or_oversized_parse` — **a pattern that is not read is at fault or has an
  oversized count.**
-/

namespace RouteMatch.Pattern

open Text

variable {α β : Type}

/-! ### Faults of the syntax -/

/-- A result that is no failure other than a fault of the syntax. -/
def Faults (x : Except PatternFailure α) : Prop :=
  ∀ failure, x = .error failure → ∃ fault, failure = .invalid fault

@[simp] theorem faults_ok (a : α) : Faults (.ok a) :=
  fun _ h => absurd h (by simp)

@[simp] theorem faults_invalid (fault : SyntaxFault) : Faults (.error (.invalid fault) :
    Except PatternFailure α) :=
  fun _ h => ⟨fault, (Except.error.inj h).symm⟩

theorem Faults.of_eq {x : Except PatternFailure α} (h : Faults x) {failure : PatternFailure}
    (heq : x = .error failure) : Faults (.error failure : Except PatternFailure β) := by
  obtain ⟨fault, rfl⟩ := h failure heq
  exact faults_invalid fault

theorem Faults.map {x : Except PatternFailure α} (h : Faults x) (f : α → β) :
    Faults (x.map f) := by
  cases x with
  | error failure => exact h.of_eq rfl
  | ok a => exact faults_ok _

/-! ### Reading lexemes -/

theorem faults_readName (missing : Cause) (position : Nat) (stop : Char) (text : List Char) :
    Faults (readName missing position stop text) := by
  unfold readName
  split <;> simp

theorem faults_readCharacterName (position : Nat) (text : List Char) :
    Faults (readCharacterName position text) := by
  unfold readCharacterName
  split
  · split
    · next h => exact (faults_readName _ _ _ _).of_eq h
    · split <;> simp
  · simp

theorem faults_readCodePoint (position : Nat) (letter : Char) (width : Nat) (rest : List Char) :
    Faults (readCodePoint position letter width rest) := by
  unfold readCodePoint
  simp only []
  split
  · simp
  · split <;> simp

theorem faults_readCommonEscape (position : Nat) (c : Char) (rest : List Char) :
    Faults (readCommonEscape position c rest) := by
  rcases readCommonEscape_cases c with ⟨width, heq⟩ | heq | ⟨escape, heq⟩ | heq
  · rw [heq]
    exact faults_readCodePoint _ _ _ _
  · rw [heq]
    exact faults_readCharacterName _ _
  · rw [heq]
    exact faults_ok _
  · rw [heq]
    exact faults_invalid _

theorem faults_readOctal (position : Nat) (c : Char) (rest : List Char) :
    Faults (readOctal position c rest) := by
  unfold readOctal
  simp only []
  split <;> simp

theorem faults_readCharacterEscape (octal : Bool) (position : Nat) (c : Char)
    (rest : List Char) : Faults (readCharacterEscape octal position c rest) := by
  unfold readCharacterEscape
  split
  · exact (faults_readOctal _ _ _).map _
  · exact (faults_readCommonEscape _ _ _).map _

theorem faults_readSetEscape (position : Nat) (text : List Char) :
    Faults (readSetEscape position text) := by
  unfold readSetEscape
  split
  · simp
  · exact faults_readCharacterEscape _ _ _ _

theorem faults_readSetAtom (position : Nat) (c : Char) (rest : List Char) :
    Faults (readSetAtom position c rest) := by
  unfold readSetAtom
  split
  · exact (faults_readSetEscape _ _).map _
  · simp

theorem faults_rangeOf (stop : Nat) (first last : SetAtom) : Faults (rangeOf stop first last) := by
  unfold rangeOf
  simp only []
  split
  · split <;> simp
  · simp

theorem faults_readSetItems (ascii : Bool) (start position : Nat) (text : List Char) (skip : Nat)
    (phase : SetPhase) (items : List SetItem) :
    Faults (readSetItems ascii start position text skip phase items) := by
  induction text generalizing position skip phase items with
  | nil => simp [readSetItems]
  | cons c rest ih =>
    cases skip with
    | succ skip => exact ih _ _ _ _
    | zero =>
      have hatom := faults_readSetAtom position c rest
      cases phase with
      | ready =>
        rw [readSetItems]
        split
        · simp
        · split
          · next h => exact hatom.of_eq h
          · exact ih _ _ _ _
      | afterAtom first =>
        rw [readSetItems]
        split
        · exact ih _ _ _ _
        · split
          · simp
          · split
            · next h => exact hatom.of_eq h
            · exact ih _ _ _ _
      | afterHyphen first =>
        rw [readSetItems]
        split
        · simp
        · split
          · next h => exact hatom.of_eq h
          · split
            · next h => exact (faults_rangeOf _ _ _).of_eq h
            · exact ih _ _ _ _

theorem faults_readSet (ascii : Bool) (start : Nat) (rest : List Char) :
    Faults (readSet ascii start rest) := by
  unfold readSet
  split
  simp only []
  split
  · next h => exact (faults_readSetItems _ _ _ _ _ _ _).of_eq h
  · simp

theorem faults_readEscape (ascii : Bool) (position : Nat) (text : List Char) :
    Faults (readEscape ascii position text) := by
  unfold readEscape
  split
  · simp
  · split
    · simp
    · split
      · unfold readNumberEscape
        simp only []
        split
        · exact (faults_readOctal _ _ _).map _
        · simp
      · exact (faults_readCharacterEscape _ _ _ _).map _

theorem faults_readFlagsOff (on : List Char) (position used : Nat) (off text : List Char) :
    Faults (readFlagsOff on position used off text) := by
  induction text generalizing position used off with
  | nil => simp [readFlagsOff]
  | cons c rest ih =>
    rw [readFlagsOff]
    split
    · split
      · simp
      · exact ih _ _ _
    · split
      · split
        · simp
        · split <;> simp
      · simp

theorem faults_readFlagsOn (position used : Nat) (on text : List Char) :
    Faults (readFlagsOn position used on text) := by
  induction text generalizing position used on with
  | nil => simp [readFlagsOn]
  | cons c rest ih =>
    rw [readFlagsOn]
    split
    · split
      · simp
      · split
        · simp
        · exact ih _ _ _
    · split
      · simp
      · split
        · split
          · simp
          · split
            · simp
            · exact faults_readFlagsOff _ _ _ _ _
        · simp

theorem faults_readGroupName (position : Nat) (stop : Char) (rest : List Char) :
    Faults (readGroupName position stop rest) := by
  unfold readGroupName
  split
  · next h => exact (faults_readName _ _ _ _).of_eq h
  · split <;> simp

theorem faults_groupReference (position : Nat) (name : List Char) :
    Faults (groupReference position name) := by
  unfold groupReference
  split
  · simp
  · split
    · simp
    · split
      · simp
      · split
        · simp
        · split <;> simp

theorem faults_readExtension (position : Nat) (text : List Char) :
    Faults (readExtension position text) := by
  unfold readExtension
  split
  · simp
  · unfold readNamed
    split
    · exact (faults_readGroupName _ _ _).map _
    · exact (faults_readGroupName _ _ _).map _
    · simp
    · simp
  · simp
  · simp
  · simp
  · simp
  · unfold readLookbehind
    split <;> simp
  · unfold readConditional
    split
    · next h => exact (faults_readName _ _ _ _).of_eq h
    · exact (faults_groupReference _ _).map _
  · split <;> simp
  · exact faults_readFlagsOff _ _ _ _ _
  · split
    · exact faults_readFlagsOn _ _ _ _
    · simp

/-! ### Oversized counts -/

/-- Digits that denote a number too large to be represented, or are too many. -/
def IsOversized (digits : List Char) : Prop :=
  digits.length > digitLimit ∨ ofDigits 0 digits ≥ repetitionLimit

instance (digits : List Char) : Decidable (IsOversized digits) :=
  inferInstanceAs (Decidable (_ ∨ _))

/-- Counts in braces as they are written. -/
def bracedCounts (least : List Char) (most : Option (List Char)) : List Char :=
  '{' :: least ++ (most.elim [] fun digits => ',' :: digits) ++ ['}']

/-- Counts in braces of which one is refused. -/
structure AreOversized (least : List Char) (most : Option (List Char)) : Prop where
  least_isDecimal : ∀ c ∈ least, isDecimal c = true
  most_isDecimal : ∀ digits ∈ most, ∀ c ∈ digits, isDecimal c = true
  oversized : IsOversized least ∨ ∃ digits ∈ most, IsOversized digits

/-- A text holds counts in braces of which one is refused. -/
def HasOversizedCount (text : List Char) : Prop :=
  ∃ least most, AreOversized least most ∧ bracedCounts least most <:+: text

theorem HasOversizedCount.mono {text text' : List Char} (h : HasOversizedCount text)
    (hsub : text <:+: text') : HasOversizedCount text' := by
  obtain ⟨least, most, hcounts, hsub'⟩ := h
  exact ⟨least, most, hcounts, hsub'.trans hsub⟩

theorem faults_readCount {digits : List Char} (h : ¬IsOversized digits) :
    Faults (readCount digits) := by
  rw [IsOversized, not_or] at h
  unfold readCount
  split
  · simp
  · rw [if_neg h.1, if_neg h.2]
    simp

/-- Counts in braces stand in the text as they were read. -/
theorem bracedCounts_of_bracedCounts? {rest least most after : List Char} {used : Nat}
    (h : bracedCounts? rest = some (least, most, used, after)) :
    (∃ most', '{' :: rest = bracedCounts least most' ++ after ∧
        (most' = none ∧ most = least ∨ most' = some most)) ∧
      (∀ c ∈ least, isDecimal c = true) ∧ ∀ c ∈ most, isDecimal c = true := by
  obtain ⟨hrest, hleast, hmost⟩ := bracedCounts?_eq_some h
  refine ⟨?_, hleast, hmost⟩
  rcases hrest with ⟨rfl, rfl, -⟩ | ⟨rfl, -⟩
  · exact ⟨none, by simp [bracedCounts], Or.inl ⟨rfl, rfl⟩⟩
  · exact ⟨some most, by simp [bracedCounts], Or.inr rfl⟩

/-- Braces fail by a fault only, unless one of the counts in them is refused. -/
theorem faults_or_oversized_readBraces (position : Nat) (rest : List Char) :
    Faults (readBraces position rest) ∨ HasOversizedCount ('{' :: rest) := by
  unfold readBraces
  cases hcounts : bracedCounts? rest with
  | none => exact Or.inl (faults_ok _)
  | some counts =>
    obtain ⟨least, most, used, after⟩ := counts
    obtain ⟨⟨most', htext, hmost'⟩, hleast, hmost⟩ := bracedCounts_of_bracedCounts? hcounts
    have hdecimal : ∀ digits ∈ most', ∀ c ∈ digits, isDecimal c = true := by
      rintro digits hdigits
      rcases hmost' with ⟨rfl, -⟩ | rfl
      · exact absurd hdigits (by simp)
      · exact Option.some.inj hdigits ▸ hmost
    have hsub : bracedCounts least most' <:+: '{' :: rest :=
      ⟨[], after, by rw [List.nil_append, htext]⟩
    by_cases hover : IsOversized least ∨ IsOversized most
    · -- Without a comma the greatest count is the least one.
      have hover' : IsOversized least ∨ ∃ digits ∈ most', IsOversized digits := by
        rcases hover with hover | hover
        · exact Or.inl hover
        · rcases hmost' with ⟨-, rfl⟩ | rfl
          · exact Or.inl hover
          · exact Or.inr ⟨most, rfl, hover⟩
      exact Or.inr ⟨least, most', ⟨hleast, hdecimal, hover'⟩, hsub⟩
    · rw [not_or] at hover
      refine Or.inl ?_
      simp only []
      split
      · next h => exact (faults_readCount hover.1).of_eq h
      · next h _ => exact (faults_readCount hover.2).of_eq h
      · simp [readQuantifier]
      · split <;> simp [readQuantifier]

/-- A lexeme fails by a fault only, unless it is braces with a count that is refused. -/
theorem faults_or_oversized_read (flags : Flags) (position : Nat) (c : Char) (rest : List Char) :
    Faults (Lexeme.read flags position c rest) ∨ HasOversizedCount (c :: rest) := by
  unfold Lexeme.read
  split
  · exact Or.inl (faults_ok _)
  · split
    · exact Or.inl (faults_ok _)
    · split
      · exact Or.inl (faults_ok _)
      · exact Or.inl (faults_ok _)
      · split
        · exact Or.inl (faults_readExtension _ _)
        · exact Or.inl (faults_ok _)
      · exact Or.inl (faults_readSet _ _ _)
      · exact Or.inl (faults_readEscape _ _ _)
      · exact Or.inl (faults_ok _)
      · exact Or.inl (faults_ok _)
      · exact Or.inl (faults_ok _)
      · exact Or.inl (faults_ok _)
      · exact Or.inl (faults_ok _)
      · exact Or.inl (faults_ok _)
      · exact faults_or_oversized_readBraces position rest
      · exact Or.inl (faults_ok _)

/-! ### The machine -/

namespace State

theorem faults_checkLimit (st : State) (stop index : Nat) : Faults (st.checkLimit stop index) := by
  unfold checkLimit
  split
  · simp
  · split
    · simp
    · split <;> simp

theorem faults_addBackref (st : State) (position stop index : Nat) :
    Faults (st.addBackref position stop index) := by
  unfold addBackref
  split
  · simp
  · exact (faults_checkLimit _ _ _).map _

theorem faults_closeLevel (st : State) (position : Nat) : Faults (st.closeLevel position) := by
  unfold closeLevel
  split
  · simp
  · simp only []
    split <;> simp

/-- The effect of a lexeme fails by a fault only. -/
theorem faults_step (st : State) (position stop : Nat) (lexeme : Lexeme) :
    Faults (st.step position stop lexeme) := by
  cases lexeme with
  | ignored => exact faults_ok _
  | test test => exact faults_ok _
  | anchor a => exact faults_ok _
  | scope on off => exact faults_ok _
  | atomic => exact faults_ok _
  | look behind positive => exact faults_ok _
  | backref index =>
    simp only [step]
    split
    · simp
    · exact faults_addBackref _ _ _ _
  | namedBackref name =>
    simp only [step]
    split
    · simp
    · exact faults_addBackref _ _ _ _
  | quantifier mode least most =>
    simp only [step, repeatLast]
    split <;> simp
  | capture name =>
    simp only [step, openCapture]
    split
    · simp
    · split <;> simp
  | conditional reference =>
    simp only [step, openConditional]
    split
    · split
      · simp
      · exact (faults_checkLimit _ _ _).map _
    · exact (faults_checkLimit _ _ _).map _
  | globalFlags on =>
    simp only [step, setGlobalFlags]
    split <;> simp
  | bar =>
    simp only [step, endBranch]
    split <;> simp
  | close => exact faults_closeLevel _ _

/-- A text is read up to a fault, unless it has a count that is refused. -/
theorem faults_or_oversized_scan (position : Nat) (text : List Char) (skip : Nat) (st : State) :
    Faults (st.scan position text skip) ∨ HasOversizedCount text := by
  induction text generalizing position skip st with
  | nil => exact Or.inl (faults_ok _)
  | cons c rest ih =>
    have hrest : ∀ position skip st', Faults (scan position rest skip st') ∨
        HasOversizedCount (c :: rest) :=
      fun position skip st' => (ih position skip st').imp_right
        (·.mono (List.suffix_cons c rest).isInfix)
    cases skip with
    | succ skip => exact hrest _ _ _
    | zero =>
      rcases faults_or_oversized_read st.level.flags position c rest with hread | hover
      · rw [scan]
        split
        · next h => exact Or.inl (hread.of_eq h)
        · split
          · next h => exact Or.inl ((faults_step _ _ _ _).of_eq h)
          · exact hrest _ _ _
      · exact Or.inr hover

theorem faults_finish (st : State) : Faults st.finish := by
  unfold finish
  split
  · simp
  · split
    · simp
    · split <;> simp

end State

/-- **A pattern that is not read is at fault or has an oversized count.** -/
theorem faults_or_oversized_parse (source : List Char) :
    Faults (parse source) ∨ HasOversizedCount source := by
  refine (State.faults_or_oversized_scan 0 source 0 .initial).imp_left fun h => ?_
  unfold parse
  split
  · next hscan => exact h.of_eq hscan
  · exact State.faults_finish _

end RouteMatch.Pattern
