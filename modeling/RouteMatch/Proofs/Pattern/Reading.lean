import RouteMatch.Failure
import RouteMatch.Pattern.Lexeme

/-!
# What the reading of a lexeme depends on

A lexeme is read from its own characters.  Where it stands in a pattern decides only
which place a fault is reported at, and of the text behind it no more than the first
character is looked at, to see whether the lexeme goes on.  A closing parenthesis never
lets it go on, so that a lexeme at the end of a text is read in the same way inside a
group.  The one exception is a comment that a line feed ends.

## Main definitions

* `Inert` — a text that lets no lexeme go on; `Closing` — one that closes a group.
* `Settles` — a reading that depends on nothing else.

## Main results

* `settles_read` — **the reading of a lexeme settles**, except for such a comment.
-/

namespace RouteMatch.Pattern

open Text

/-! ### Texts that let nothing go on -/

/-- A text that is empty or begins with a closing parenthesis. -/
def Closing (tail : List Char) : Prop :=
  ∀ c ∈ tail.head?, c = ')'

/-- Characters that let no lexeme go on. -/
def inertChars : List Char := [')', '(', '/', '$', '\\']

/-- A text that is empty or begins with a character that lets no lexeme go on. -/
def Inert (tail : List Char) : Prop :=
  ∀ c ∈ tail.head?, c ∈ inertChars

theorem closing_nil : Closing [] :=
  fun c hc => absurd hc (by simp)

theorem closing_cons (rest : List Char) : Closing (')' :: rest) :=
  fun _ hc => (Option.some.inj hc).symm

theorem inert_cons {c : Char} (hc : c ∈ inertChars) (rest : List Char) : Inert (c :: rest) :=
  fun _ hd => Option.some.inj hd ▸ hc

theorem Closing.inert {tail : List Char} (h : Closing tail) : Inert tail := by
  intro c hc
  rw [h c hc]
  exact List.mem_cons_self

/-- What holds of none of these characters does not hold of the first one. -/
theorem Inert.head_eq_false {accepts : Char → Bool} {c : Char} {tail : List Char}
    (h : Inert (c :: tail)) (haccepts : inertChars.any accepts = false) : accepts c = false :=
  Bool.eq_false_iff.mpr (List.any_eq_false.mp haccepts c (h c rfl))

section Runs

variable {accepts : Char → Bool} {tail : List Char}

/-- A run of other characters does not go on behind the text. -/
theorem takeWhile_take_append (haccepts : inertChars.any accepts = false) (htail : Inert tail)
    (most : Nat) (rest : List Char) :
    ((rest ++ tail).take most).takeWhile accepts = (rest.take most).takeWhile accepts := by
  induction rest generalizing most with
  | nil =>
    cases tail with
    | nil => rfl
    | cons c tail =>
      cases most with
      | zero => rfl
      | succ most => simp [htail.head_eq_false haccepts]
  | cons c rest ih =>
    cases most with
    | zero => rfl
    | succ most =>
      rw [List.cons_append, List.take_succ_cons, List.take_succ_cons, List.takeWhile_cons,
        List.takeWhile_cons, ih]

theorem takeWhile_append_inert (haccepts : inertChars.any accepts = false) (htail : Inert tail)
    (rest : List Char) : (rest ++ tail).takeWhile accepts = rest.takeWhile accepts := by
  have h := takeWhile_take_append haccepts htail (rest ++ tail).length rest
  rwa [List.take_length, List.take_of_length_le (by simp)] at h

theorem dropWhile_append_inert (haccepts : inertChars.any accepts = false) (htail : Inert tail)
    (rest : List Char) : (rest ++ tail).dropWhile accepts = rest.dropWhile accepts ++ tail := by
  have h := List.takeWhile_append_dropWhile (p := accepts) (l := rest ++ tail)
  rw [takeWhile_append_inert haccepts htail] at h
  refine List.append_cancel_left (h.trans ?_)
  rw [← List.append_assoc, List.takeWhile_append_dropWhile]

end Runs

/-! ### Readings that settle -/

variable {α β : Type}

/-- What is read is within the text, and is the same at every place and in front of
every text that lets nothing go on. -/
def Settles (read : Nat → List Char → Reading α) : Prop :=
  ∀ ⦃position rest a used⦄, read position rest = .ok (a, used) →
    used ≤ rest.length ∧
      ∀ position' tail, Inert tail → read position' (rest ++ tail) = .ok (a, used)

theorem bind_eq_ok {ε : Type} {x : Except ε α} {f : α → Except ε β} {b : β}
    (h : x.bind f = .ok b) : ∃ a, x = .ok a ∧ f a = .ok b := by
  cases x with
  | error e => exact absurd h (by simp [Except.bind])
  | ok a => exact ⟨a, rfl, h⟩

/-- What is made of a reading settles if the reading does. -/
theorem Settles.cons {read : Nat → List Char → Reading α} (h : Settles read) {f : α → β}
    {position used : Nat} {c : Char} {rest : List Char} {b : β}
    (hread : (read position rest).map (fun (a, used) => (f a, used + 1)) = .ok (b, used)) :
    used ≤ (c :: rest).length ∧
      ∀ position' tail, Inert tail →
        (read position' (rest ++ tail)).map (fun (a, used) => (f a, used + 1)) = .ok (b, used) := by
  obtain ⟨⟨a, used'⟩, ha, heq⟩ := map_eq_ok hread
  obtain ⟨rfl, rfl⟩ := Prod.mk.inj heq
  obtain ⟨hused, hsame⟩ := h ha
  refine ⟨by simpa using hused, fun position' tail htail => ?_⟩
  simp only [hsame position' tail htail, Except.map]

/-! ### Names -/

/-- A name that ends in the text is read in front of any text. -/
theorem textUntil_eq_true {stop : Char} (hstop : stop ≠ '\\') {text name : List Char}
    (h : textUntil stop text = (name, true)) :
    name.length + 1 ≤ text.length ∧ ∀ tail, textUntil stop (text ++ tail) = (name, true) := by
  induction text using textUntil.induct stop generalizing name with
  | case1 => exact absurd h (by simp [textUntil])
  | case2 c rest text found heq ih =>
    simp only [textUntil, heq, Prod.mk.injEq] at h
    obtain ⟨rfl, rfl⟩ := h
    obtain ⟨hle, hsame⟩ := ih heq
    refine ⟨by simpa using hle, fun tail => ?_⟩
    simp only [List.cons_append, textUntil, hsame]
  | case3 rest hescape =>
    rw [textUntil.eq_3 _ _ _ hescape, if_pos rfl] at h
    obtain rfl := (Prod.mk.inj h).1
    refine ⟨by simp, fun tail => ?_⟩
    rw [List.cons_append, textUntil.eq_3 _ _ _ fun _ _ hc => absurd hc hstop, if_pos rfl]
  | case4 c rest hescape hne text found heq ih =>
    simp only [textUntil.eq_3 _ _ _ hescape, if_neg hne, heq, Prod.mk.injEq] at h
    obtain ⟨rfl, rfl⟩ := h
    obtain ⟨hle, hsame⟩ := ih heq
    have hescape' : ∀ tail d more, c = '\\' → rest ++ tail = d :: more → False := by
      intro tail d more hc _
      cases rest with
      | nil => exact absurd heq (by simp [textUntil])
      | cons e rest => exact hescape e rest hc rfl
    refine ⟨by simpa using hle, fun tail => ?_⟩
    simp only [List.cons_append, textUntil.eq_3 _ _ _ (hescape' tail), if_neg hne, hsame]

theorem readName_eq_ok {missing : Cause} {position used : Nat} {stop : Char}
    (hstop : stop ≠ '\\') {text name : List Char}
    (h : readName missing position stop text = .ok (name, used)) :
    used ≤ text.length ∧
      ∀ position' tail, readName missing position' stop (text ++ tail) = .ok (name, used) := by
  unfold readName at h ⊢
  split at h
  · exact absurd h (by simp)
  · next name' hne heq =>
    obtain ⟨rfl, rfl⟩ := Prod.mk.inj (Except.ok.inj h)
    obtain ⟨hle, hsame⟩ := textUntil_eq_true hstop heq
    refine ⟨hle, fun position' tail => ?_⟩
    rw [hsame tail]
    cases name' with
    | nil => exact absurd rfl hne
    | cons c name' => rfl
  · exact absurd h (by simp)

/-! ### Escapes -/

theorem settles_readCodePoint (letter : Char) (width : Nat) :
    Settles fun position => readCodePoint position letter width := by
  intro position rest escape used h
  unfold readCodePoint at h ⊢
  simp only [] at h ⊢
  split at h
  · exact absurd h (by simp)
  · next hlong =>
    split at h
    · exact absurd h (by simp)
    · next hvalid =>
      obtain ⟨rfl, rfl⟩ := Prod.mk.inj (Except.ok.inj h)
      have hwidth : width ≤ rest.length := by
        have htake := (List.takeWhile_prefix isHexDigit (l := rest.take width)).length_le
        rw [List.length_take] at htake
        omega
      refine ⟨hwidth, fun position' tail _ => ?_⟩
      rw [List.take_append_of_le_length hwidth, if_neg hlong, if_neg hvalid]

/-- The name of a character ends in the text. -/
theorem settles_readCharacterName : Settles readCharacterName := by
  intro position rest escape used h
  unfold readCharacterName at h
  split at h
  · next rest =>
    split at h
    · cases h
    · next name used' hname =>
      obtain ⟨hle, hsame⟩ := readName_eq_ok (by decide) hname
      cases hcode : Unicode.codePointOf? name with
      | none => simp [hcode] at h
      | some code =>
        simp only [hcode] at h
        obtain ⟨rfl, rfl⟩ := Prod.mk.inj (Except.ok.inj h)
        refine ⟨Nat.succ_le_succ hle, fun position' tail _ => ?_⟩
        rw [List.cons_append, readCharacterName, hsame]
        simp only [hcode]
  · cases h

/-- What the character after a backslash calls for: a code point, a name, nothing more,
or a fault. -/
theorem readCommonEscape_cases (c : Char) :
    (∃ width, ∀ position rest,
        readCommonEscape position c rest = readCodePoint position c width rest) ∨
      (∀ position rest, readCommonEscape position c rest = readCharacterName position rest) ∨
      (∃ escape, ∀ position rest, readCommonEscape position c rest = .ok (escape, 0)) ∨
      ∀ position rest,
        readCommonEscape position c rest = .error (.at position (.badEscape ['\\', c])) := by
  by_cases hx : c = 'x'
  · subst hx
    exact Or.inl ⟨2, fun _ _ => rfl⟩
  by_cases hu : c = 'u'
  · subst hu
    exact Or.inl ⟨4, fun _ _ => rfl⟩
  by_cases hU : c = 'U'
  · subst hU
    exact Or.inl ⟨8, fun _ _ => rfl⟩
  by_cases hN : c = 'N'
  · subst hN
    exact Or.inr (Or.inl fun _ _ => rfl)
  refine Or.inr (Or.inr ?_)
  cases hcategory : categoryOf? c with
  | some escape =>
    exact Or.inl ⟨escape, fun _ _ => by simp only [readCommonEscape, hcategory]⟩
  | none =>
    cases hcontrol : controlOf? c with
    | some n =>
      exact Or.inl ⟨.code n, fun _ _ => by simp only [readCommonEscape, hcategory, hcontrol]⟩
    | none =>
      by_cases hword : (Unicode.isAsciiLetter c.toNat || Unicode.isAsciiDigit c.toNat) = true
      · refine Or.inr fun _ _ => ?_
        simp only [readCommonEscape, hcategory, hcontrol, if_pos hword]
      · refine Or.inl ⟨.code c.toNat, fun _ _ => ?_⟩
        simp only [readCommonEscape, hcategory, hcontrol, if_neg hword]

theorem settles_readCommonEscape (c : Char) :
    Settles fun position => readCommonEscape position c := by
  intro position rest escape used h
  rcases readCommonEscape_cases c with ⟨width, heq⟩ | heq | ⟨constant, heq⟩ | heq
  · simp only [heq] at h ⊢
    exact settles_readCodePoint c width h
  · simp only [heq] at h ⊢
    exact settles_readCharacterName h
  · simp only [heq] at h ⊢
    obtain ⟨rfl, rfl⟩ := Prod.mk.inj (Except.ok.inj h)
    exact ⟨Nat.zero_le _, fun _ _ _ => rfl⟩
  · exact absurd ((heq position rest).symm.trans h) (by simp)

/-- An octal escape, whose first digit is counted. -/
theorem settles_readOctal (c : Char) {position used n : Nat} {rest : List Char}
    (h : readOctal position c rest = .ok (n, used)) :
    used ≤ (c :: rest).length ∧
      ∀ position' tail, Inert tail → readOctal position' c (rest ++ tail) = .ok (n, used) := by
  unfold readOctal at h ⊢
  simp only [] at h ⊢
  split at h
  · exact absurd h (by simp)
  · next hsmall =>
    obtain ⟨rfl, rfl⟩ := Prod.mk.inj (Except.ok.inj h)
    constructor
    · have htake := (List.takeWhile_prefix isOctal (l := rest.take 2)).length_le
      have hrest := List.length_take_le' 2 rest
      simp only [List.length_cons]
      omega
    · intro position' tail htail
      rw [takeWhile_take_append (by decide) htail, if_neg hsmall]

theorem settles_readCharacterEscape (octal : Bool) {position used : Nat} {c : Char}
    {rest : List Char} {escape : Escape}
    (h : readCharacterEscape octal position c rest = .ok (escape, used)) :
    used ≤ (c :: rest).length ∧
      ∀ position' tail, Inert tail →
        readCharacterEscape octal position' c (rest ++ tail) = .ok (escape, used) := by
  unfold readCharacterEscape at h ⊢
  split at h
  · next hoctal =>
    obtain ⟨⟨n, used'⟩, hread, heq⟩ := map_eq_ok h
    obtain ⟨rfl, rfl⟩ := Prod.mk.inj heq
    obtain ⟨hused, hsame⟩ := settles_readOctal c hread
    refine ⟨hused, fun position' tail htail => ?_⟩
    rw [if_pos hoctal, hsame position' tail htail]
    rfl
  · next hoctal =>
    simp only [if_neg hoctal]
    exact (settles_readCommonEscape c).cons (f := id) h

theorem settles_readSetEscape : Settles readSetEscape := by
  intro position text escape used h
  cases text with
  | nil => exact absurd h (by simp [readSetEscape])
  | cons c rest => exact settles_readCharacterEscape (isOctal c) h

/-! ### Character sets -/

theorem settles_readSetAtom (c : Char) : Settles fun position => readSetAtom position c := by
  intro position rest atom used h
  simp only [readSetAtom] at h ⊢
  split at h
  · next hc =>
    obtain ⟨⟨escape, used'⟩, hread, heq⟩ := map_eq_ok h
    obtain ⟨rfl, rfl⟩ := Prod.mk.inj heq
    obtain ⟨hused, hsame⟩ := settles_readSetEscape hread
    refine ⟨hused, fun position' tail htail => ?_⟩
    -- There is a character after the backslash, so the unit stays the same.
    cases rest with
    | nil => exact absurd hread (by simp [readSetEscape])
    | cons d rest =>
      rw [if_pos hc, hsame position' tail htail]
      rfl
  · next hc =>
    obtain ⟨rfl, rfl⟩ := Prod.mk.inj (Except.ok.inj h)
    refine ⟨Nat.zero_le _, fun position' tail _ => ?_⟩
    rw [if_neg hc]

theorem rangeOf_eq_ok {stop : Nat} {first last : SetAtom} {item : SetItem}
    (h : rangeOf stop first last = .ok item) (stop' : Nat) :
    rangeOf stop' first last = .ok item := by
  unfold rangeOf at h ⊢
  simp only [] at h ⊢
  split at h
  · split at h
    · exact absurd h (by simp)
    · next hrange => rw [if_neg hrange, ← h]
  · exact absurd h (by simp)

/-- A set that is read up to its closing bracket is read so in front of other text. -/
theorem readSetItems_eq_ok {ascii : Bool} {start position skip stop : Nat} {text : List Char}
    {phase : SetPhase} {items result : List SetItem}
    (h : readSetItems ascii start position text skip phase items = .ok (result, stop)) :
    ∃ n, stop = position + n ∧ n ≤ text.length ∧
      ∀ start' position' tail, Inert tail →
        readSetItems ascii start' position' (text ++ tail) skip phase items
          = .ok (result, position' + n) := by
  induction text generalizing position skip phase items with
  | nil => exact absurd h (by simp [readSetItems])
  | cons c rest ih =>
    -- What is said of the characters after this one carries over.
    have hrest : ∀ {skip' phase' items'},
        readSetItems ascii start (position + 1) rest skip' phase' items' = .ok (result, stop) →
        ∃ n, stop = position + n ∧ n ≤ (c :: rest).length ∧
          ∀ start' position' tail, Inert tail →
            readSetItems ascii start' (position' + 1) (rest ++ tail) skip' phase' items'
              = .ok (result, position' + n) := by
      intro skip' phase' items' h
      obtain ⟨n, rfl, hn, hsame⟩ := ih h
      refine ⟨n + 1, by omega, by simpa using hn, fun start' position' tail htail => ?_⟩
      rw [hsame start' (position' + 1) tail htail]
      congr 2
      omega
    have hdone : ∀ {items' : List SetItem},
        Except.ok (ε := PatternFailure) (items', position + 1) = .ok (result, stop) →
          items' = result ∧ stop = position + 1 := by
      intro items' h
      obtain ⟨rfl, rfl⟩ := Prod.mk.inj (Except.ok.inj h)
      exact ⟨rfl, rfl⟩
    cases skip with
    | succ skip => exact hrest h
    | zero =>
      cases phase with
      | ready =>
        rw [readSetItems] at h
        split at h
        · next hbracket =>
          obtain ⟨hitems, hstop⟩ := hdone h
          refine ⟨1, hstop, by simp, fun start' position' tail _ => ?_⟩
          rw [List.cons_append, readSetItems, if_pos hbracket, hitems]
        · next hbracket =>
          cases hatom : readSetAtom position c rest with
          | error failure => exact absurd h (by simp [hatom])
          | ok read =>
            rw [hatom] at h
            obtain ⟨-, hatom⟩ := settles_readSetAtom c hatom
            obtain ⟨n, hstop, hn, hsame⟩ := hrest h
            refine ⟨n, hstop, hn, fun start' position' tail htail => ?_⟩
            rw [List.cons_append, readSetItems, if_neg hbracket]
            simp only [hatom position' tail htail]
            exact hsame start' position' tail htail
      | afterAtom first =>
        rw [readSetItems] at h
        split at h
        · next hhyphen =>
          obtain ⟨n, hstop, hn, hsame⟩ := hrest h
          refine ⟨n, hstop, hn, fun start' position' tail htail => ?_⟩
          rw [List.cons_append, readSetItems, if_pos hhyphen, hsame start' position' tail htail]
        · next hhyphen =>
          split at h
          · next hbracket =>
            obtain ⟨hitems, hstop⟩ := hdone h
            refine ⟨1, hstop, by simp, fun start' position' tail _ => ?_⟩
            rw [List.cons_append, readSetItems, if_neg hhyphen, if_pos hbracket, hitems]
          · next hbracket =>
            cases hatom : readSetAtom position c rest with
            | error failure => exact absurd h (by simp [hatom])
            | ok read =>
              rw [hatom] at h
              obtain ⟨-, hatom⟩ := settles_readSetAtom c hatom
              obtain ⟨n, hstop, hn, hsame⟩ := hrest h
              refine ⟨n, hstop, hn, fun start' position' tail htail => ?_⟩
              rw [List.cons_append, readSetItems, if_neg hhyphen, if_neg hbracket]
              simp only [hatom position' tail htail]
              exact hsame start' position' tail htail
      | afterHyphen first =>
        rw [readSetItems] at h
        split at h
        · next hbracket =>
          obtain ⟨hitems, hstop⟩ := hdone h
          refine ⟨1, hstop, by simp, fun start' position' tail _ => ?_⟩
          rw [List.cons_append, readSetItems, if_pos hbracket, hitems]
        · next hbracket =>
          cases hatom : readSetAtom position c rest with
          | error failure => exact absurd h (by simp [hatom])
          | ok read =>
            obtain ⟨last, used⟩ := read
            cases hrange : rangeOf (position + 1 + used) first last with
            | error failure => exact absurd h (by simp [hatom, hrange])
            | ok item =>
              simp only [hatom, hrange] at h
              obtain ⟨-, hatom⟩ := settles_readSetAtom c hatom
              obtain ⟨n, hstop, hn, hsame⟩ := hrest h
              refine ⟨n, hstop, hn, fun start' position' tail htail => ?_⟩
              rw [List.cons_append, readSetItems, if_neg hbracket]
              simp only [hatom position' tail htail, rangeOf_eq_ok hrange]
              exact hsame start' position' tail htail

/-- A set is read from its first item, which comes after a caret if there is one; a text
that lets nothing go on brings none. -/
theorem exists_readSet_eq (ascii : Bool) {rest : List Char} (h : rest ≠ []) :
    ∃ negated first body, body.length + first = rest.length ∧ ∀ position tail,
      readSet ascii position (rest ++ tail)
        = (readSetItems ascii position (position + first + 1) (body ++ tail) 0 .ready []).map
            fun (items, stop) => (.test (.oneOf negated items.eraseDups), stop - (position + 1)) := by
  obtain ⟨c, body, rfl⟩ := List.exists_cons_of_ne_nil h
  by_cases hc : c = '^'
  · subst hc
    refine ⟨true, 1, body, rfl, fun position tail => ?_⟩
    simp only [List.cons_append, readSet, if_true]
    cases readSetItems ascii position (position + 1 + 1) (body ++ tail) 0 .ready [] <;> rfl
  · refine ⟨false, 0, c :: body, rfl, fun position tail => ?_⟩
    unfold readSet
    split
    next negated body' heq =>
      split at heq
      · next heq' => exact absurd (List.cons.inj heq').1 hc
      · obtain ⟨rfl, rfl⟩ := Prod.mk.inj heq
        simp only [Bool.false_eq_true, if_false, Nat.add_zero]
        cases readSetItems ascii position (position + 1) (c :: body ++ tail) 0 .ready [] <;> rfl

theorem settles_readSet (ascii : Bool) : Settles (readSet ascii) := by
  intro position rest lexeme used h
  have hne : rest ≠ [] := by
    rintro rfl
    exact absurd h (by simp [readSet, readSetItems])
  obtain ⟨negated, first, body, hlength, heq⟩ := exists_readSet_eq ascii hne
  have h := (heq position []).symm.trans ((List.append_nil rest).symm ▸ h)
  obtain ⟨⟨items, stop⟩, hitems, hresult⟩ := map_eq_ok h
  obtain ⟨rfl, rfl⟩ := Prod.mk.inj hresult
  rw [List.append_nil] at hitems
  obtain ⟨n, rfl, hn, hsame⟩ := readSetItems_eq_ok hitems
  have hused : ∀ position, position + first + 1 + n - (position + 1) = first + n := by omega
  simp only [hused]
  refine ⟨by omega, fun position' tail htail => ?_⟩
  rw [heq, hsame position' _ tail htail, Except.map]
  simp only [hused]

/-! ### Escapes outside sets -/

/-- An escape by number, whose first digit is counted. -/
theorem settles_readNumberEscape (c : Char) {position used : Nat} {rest : List Char}
    {lexeme : Lexeme} (h : readNumberEscape position c rest = .ok (lexeme, used)) :
    used ≤ (c :: rest).length ∧
      ∀ position' tail, Inert tail →
        readNumberEscape position' c (rest ++ tail) = .ok (lexeme, used) := by
  unfold readNumberEscape at h ⊢
  simp only [] at h ⊢
  split at h
  · next hoctal =>
    obtain ⟨⟨n, used'⟩, hread, heq⟩ := map_eq_ok h
    obtain ⟨rfl, rfl⟩ := Prod.mk.inj heq
    obtain ⟨hused, hsame⟩ := settles_readOctal c hread
    refine ⟨hused, fun position' tail htail => ?_⟩
    rw [takeWhile_take_append (by decide) htail, if_pos hoctal, hsame position' tail htail]
    rfl
  · next hoctal =>
    obtain ⟨rfl, rfl⟩ := Prod.mk.inj (Except.ok.inj h)
    constructor
    · have htake := (List.takeWhile_prefix isDecimal (l := rest.take 1)).length_le
      have hrest := List.length_take_le' 1 rest
      simp only [List.length_cons]
      omega
    · intro position' tail htail
      rw [takeWhile_take_append (by decide) htail, if_neg hoctal,
        takeWhile_take_append (by decide) htail]

theorem settles_readEscape (ascii : Bool) : Settles (readEscape ascii) := by
  intro position text lexeme used h
  cases text with
  | nil => exact absurd h (by simp [readEscape])
  | cons c rest =>
    simp only [List.cons_append, readEscape] at h ⊢
    split at h
    · next a hanchor =>
      obtain ⟨rfl, rfl⟩ := Prod.mk.inj (Except.ok.inj h)
      exact ⟨by simp, fun _ _ _ => rfl⟩
    · next hanchor =>
      split at h
      · next hnumber =>
        obtain ⟨hused, hsame⟩ := settles_readNumberEscape c h
        refine ⟨hused, fun position' tail htail => ?_⟩
        rw [if_pos hnumber, hsame position' tail htail]
      · next hnumber =>
        obtain ⟨⟨escape, used'⟩, hread, heq⟩ := map_eq_ok h
        obtain ⟨rfl, rfl⟩ := Prod.mk.inj heq
        obtain ⟨hused, hsame⟩ := settles_readCharacterEscape _ hread
        refine ⟨hused, fun position' tail htail => ?_⟩
        rw [if_neg hnumber, hsame position' tail htail]
        rfl

/-! ### Repetitions -/

theorem readMode_of_inert {tail : List Char} (htail : Inert tail) :
    readMode tail = (.greedy, 0) := by
  cases tail with
  | nil => rfl
  | cons c tail =>
    have hquestion : c ≠ '?' := ne_of_mem_of_not_mem (htail c rfl) (by decide)
    have hplus : c ≠ '+' := ne_of_mem_of_not_mem (htail c rfl) (by decide)
    simp [readMode, hquestion, hplus]

theorem readMode_append_inert {tail : List Char} (htail : Inert tail) (rest : List Char) :
    readMode (rest ++ tail) = readMode rest := by
  cases rest with
  | cons c rest =>
    unfold readMode
    simp only [List.cons_append]
    split <;> simp_all
  | nil => exact readMode_of_inert htail

theorem readMode_le_length (rest : List Char) : (readMode rest).2 ≤ rest.length := by
  unfold readMode
  split <;> simp

theorem settles_readQuantifier (least : Nat) (most : Option Nat) {before used : Nat}
    {rest : List Char} {lexeme : Lexeme}
    (h : readQuantifier least most before rest = .ok (lexeme, used)) :
    used ≤ before + rest.length ∧
      ∀ tail, Inert tail →
        readQuantifier least most before (rest ++ tail) = .ok (lexeme, used) := by
  have hmode := readMode_le_length rest
  simp only [readQuantifier, Except.ok.injEq, Prod.mk.injEq] at h ⊢
  obtain ⟨rfl, rfl⟩ := h
  refine ⟨by omega, fun tail htail => ?_⟩
  rw [readMode_append_inert htail]
  exact ⟨rfl, rfl⟩

/-- Counts in braces are read in the same way in front of a text that lets nothing go
on. -/
theorem bracedCounts?_append {tail : List Char} (htail : Inert tail) (rest : List Char) :
    bracedCounts? (rest ++ tail)
      = (bracedCounts? rest).map fun (least, most, used, after) =>
          (least, most, used, after ++ tail) := by
  have hdecimal : inertChars.any isDecimal = false := by decide
  have hnot : ∀ c ∈ tail.head?, c ≠ '\x7d' ∧ c ≠ ',' := by
    intro c hc
    exact ⟨ne_of_mem_of_not_mem (htail c hc) (by decide),
      ne_of_mem_of_not_mem (htail c hc) (by decide)⟩
  unfold bracedCounts?
  simp only [takeWhile_append_inert hdecimal htail, dropWhile_append_inert hdecimal htail]
  cases rest.dropWhile isDecimal with
  | nil =>
    cases tail with
    | nil => rfl
    | cons c tail =>
      obtain ⟨hclose', hcomma'⟩ := hnot c rfl
      simp [hclose', hcomma']
  | cons c after =>
    simp only [List.cons_append]
    by_cases hclose : c = '\x7d'
    · subst hclose
      by_cases hempty : (rest.takeWhile isDecimal).isEmpty = true
      · simp [hempty]
      · simp [hempty]
    by_cases hcomma : c = ','
    · subst hcomma
      simp only [takeWhile_append_inert hdecimal htail, dropWhile_append_inert hdecimal htail]
      cases after.dropWhile isDecimal with
      | nil =>
        cases tail with
        | nil => rfl
        | cons c tail =>
          obtain ⟨hclose', -⟩ := hnot c rfl
          simp [hclose']
      | cons d more =>
        by_cases hd : d = '\x7d'
        · subst hd
          rfl
        · simp [hd]
    · simp [hclose, hcomma]

/-- What is read as counts in braces. -/
theorem bracedCounts?_eq_some {rest least most after : List Char} {used : Nat}
    (h : bracedCounts? rest = some (least, most, used, after)) :
    (rest = least ++ '\x7d' :: after ∧ most = least ∧ used = least.length + 1 ∨
        rest = least ++ ',' :: most ++ '\x7d' :: after ∧
          used = least.length + 1 + most.length + 1) ∧
      (∀ c ∈ least, isDecimal c = true) ∧ ∀ c ∈ most, isDecimal c = true := by
  have hsplit : ∀ text : List Char, text = text.takeWhile isDecimal ++ text.dropWhile isDecimal :=
    fun text => List.takeWhile_append_dropWhile.symm
  have hdigits : ∀ text : List Char, ∀ c ∈ text.takeWhile isDecimal, isDecimal c = true :=
    fun text => List.all_eq_true.mp List.all_takeWhile
  unfold bracedCounts? at h
  simp only [] at h
  split at h
  · next tail hdrop =>
    split at h
    · exact absurd h (by simp)
    · simp only [Option.some.injEq, Prod.mk.injEq] at h
      obtain ⟨rfl, rfl, rfl, rfl⟩ := h
      exact ⟨Or.inl ⟨hdrop ▸ hsplit rest, rfl, rfl⟩, hdigits rest, hdigits rest⟩
  · next tail hdrop =>
    split at h
    · next more hmore =>
      simp only [Option.some.injEq, Prod.mk.injEq] at h
      obtain ⟨rfl, rfl, rfl, rfl⟩ := h
      refine ⟨Or.inr ⟨?_, rfl⟩, hdigits rest, hdigits tail⟩
      rw [List.append_assoc, List.cons_append, ← hmore, ← hsplit tail, ← hdrop, ← hsplit rest]
    · exact absurd h (by simp)
  · exact absurd h (by simp)

theorem settles_readBraces : Settles readBraces := by
  intro position rest lexeme used h
  simp only [readBraces] at h ⊢
  cases hcounts : bracedCounts? rest with
  | none =>
    simp only [hcounts, Except.ok.injEq, Prod.mk.injEq] at h
    obtain ⟨rfl, rfl⟩ := h
    refine ⟨Nat.zero_le _, fun position' tail htail => ?_⟩
    rw [bracedCounts?_append htail, hcounts]
    rfl
  | some counts =>
    obtain ⟨leastDigits, mostDigits, used', after⟩ := counts
    have hlength : used' + after.length = rest.length := by
      rcases (bracedCounts?_eq_some hcounts).1 with ⟨rfl, -, rfl⟩ | ⟨rfl, rfl⟩
      · simp only [List.length_append, List.length_cons]
        omega
      · simp only [List.length_append, List.length_cons]
        omega
    have hquantifier : ∀ {least most}, readQuantifier least most used' after = .ok (lexeme, used) →
        used ≤ rest.length ∧ ∀ tail, Inert tail →
          readQuantifier least most used' (after ++ tail) = .ok (lexeme, used) := fun h => by
      rw [← hlength]
      exact settles_readQuantifier _ _ h
    simp only [hcounts] at h
    split at h
    · exact absurd h (by simp)
    · exact absurd h (by simp)
    · next least hleast hmost =>
      obtain ⟨hused, hsame⟩ := hquantifier h
      refine ⟨hused, fun position' tail htail => ?_⟩
      rw [bracedCounts?_append htail, hcounts]
      simp only [Option.map_some, hleast, hmost, hsame tail htail]
    · next least most hleast hmost =>
      split at h
      · exact absurd h (by simp)
      · next horder =>
        obtain ⟨hused, hsame⟩ := hquantifier h
        refine ⟨hused, fun position' tail htail => ?_⟩
        rw [bracedCounts?_append htail, hcounts]
        simp only [Option.map_some, hleast, hmost, if_neg horder, hsame tail htail]

/-! ### The openings of groups -/

/-- Flags are read in the same way in front of any text. -/
theorem readFlagsOff_eq_ok {on off text : List Char} {position before used : Nat} {lexeme : Lexeme}
    (h : readFlagsOff on position before off text = .ok (lexeme, used)) :
    used ≤ before + text.length ∧
      ∀ position' tail,
        readFlagsOff on position' before off (text ++ tail) = .ok (lexeme, used) := by
  induction text generalizing position before off with
  | nil => exact absurd h (by simp [readFlagsOff])
  | cons c rest ih =>
    simp only [List.cons_append, readFlagsOff] at h ⊢
    split at h
    · next hletter =>
      split at h
      · exact absurd h (by simp)
      · next htype =>
        obtain ⟨hused, hsame⟩ := ih h
        refine ⟨by simp only [List.length_cons]; omega, fun position' tail => ?_⟩
        rw [if_pos hletter, if_neg htype, hsame]
    · next hletter =>
      split at h
      · next hcolon =>
        split at h
        · exact absurd h (by simp)
        · next hglobal =>
          split at h
          · exact absurd h (by simp)
          · next hcontra =>
            obtain ⟨rfl, rfl⟩ := Prod.mk.inj (Except.ok.inj h)
            refine ⟨by simp only [List.length_cons]; omega, fun position' tail => ?_⟩
            rw [if_neg hletter, if_pos hcolon, if_neg hglobal, if_neg hcontra]
      · exact absurd h (by simp)

theorem readFlagsOn_eq_ok {on text : List Char} {position before used : Nat} {lexeme : Lexeme}
    (h : readFlagsOn position before on text = .ok (lexeme, used)) :
    used ≤ before + text.length ∧
      ∀ position' tail, readFlagsOn position' before on (text ++ tail) = .ok (lexeme, used) := by
  induction text generalizing position before on with
  | nil => exact absurd h (by simp [readFlagsOn])
  | cons c rest ih =>
    simp only [List.cons_append, readFlagsOn] at h ⊢
    split at h
    · next hletter =>
      split at h
      · exact absurd h (by simp)
      · next hlocale =>
        split at h
        · exact absurd h (by simp)
        · next htype =>
          obtain ⟨hused, hsame⟩ := ih h
          refine ⟨by simp only [List.length_cons]; omega, fun position' tail => ?_⟩
          rw [if_pos hletter, if_neg hlocale, if_neg htype, hsame]
    · next hletter =>
      split at h
      · next hclose =>
        obtain ⟨rfl, rfl⟩ := Prod.mk.inj (Except.ok.inj h)
        refine ⟨by simp only [List.length_cons]; omega, fun position' tail => ?_⟩
        rw [if_neg hletter, if_pos hclose]
      · next hclose =>
        split at h
        · next hgoes =>
          split at h
          · exact absurd h (by simp)
          · next hglobal =>
            split at h
            · next hcolon =>
              obtain ⟨rfl, rfl⟩ := Prod.mk.inj (Except.ok.inj h)
              refine ⟨by simp only [List.length_cons]; omega, fun position' tail => ?_⟩
              rw [if_neg hletter, if_neg hclose, if_pos hgoes, if_neg hglobal, if_pos hcolon]
            · next hcolon =>
              obtain ⟨hused, hsame⟩ := readFlagsOff_eq_ok h
              refine ⟨by simp only [List.length_cons]; omega, fun position' tail => ?_⟩
              rw [if_neg hletter, if_neg hclose, if_pos hgoes, if_neg hglobal, if_neg hcolon, hsame]
        · exact absurd h (by simp)

theorem commentLength?_eq_some {text : List Char} {n : Nat} (h : commentLength? text = some n) :
    n ≤ text.length ∧ ∀ tail, commentLength? (text ++ tail) = some n := by
  induction text using commentLength?.induct generalizing n with
  | case1 => exact absurd h (by simp [commentLength?])
  | case2 rest =>
    obtain rfl := Option.some.inj h
    exact ⟨by simp, fun tail => rfl⟩
  | case3 c rest ih =>
    obtain ⟨m, hm, rfl⟩ := Option.map_eq_some_iff.mp h
    obtain ⟨hle, hsame⟩ := ih hm
    refine ⟨by simpa using hle, fun tail => ?_⟩
    rw [List.cons_append, List.cons_append, commentLength?, hsame, Option.map_some]
  | case4 c rest hclose hescape ih =>
    rw [commentLength?.eq_4 _ _ hclose hescape] at h
    obtain ⟨m, hm, rfl⟩ := Option.map_eq_some_iff.mp h
    obtain ⟨hle, hsame⟩ := ih hm
    -- A comment does not end with the text, so a backslash is not its last character.
    have hescape' : ∀ tail d more, c = '\\' → rest ++ tail = d :: more → False := by
      intro tail d more hc _
      cases rest with
      | nil => exact absurd hm (by simp [commentLength?])
      | cons e rest => exact hescape e rest hc rfl
    refine ⟨by simpa using hle, fun tail => ?_⟩
    rw [List.cons_append, commentLength?.eq_4 _ _ hclose (hescape' tail), hsame, Option.map_some]

/-- A comment that ends in the text, with a character behind it, is read in the same way
in front of any text. -/
theorem lineCommentLength_append {text : List Char} (h : lineCommentLength text < text.length)
    (tail : List Char) : lineCommentLength (text ++ tail) = lineCommentLength text := by
  induction text using lineCommentLength.induct with
  | case1 => exact absurd h (by simp)
  | case2 rest => rfl
  | case3 c rest ih =>
    rw [lineCommentLength, List.length_cons, List.length_cons] at h
    rw [List.cons_append, List.cons_append, lineCommentLength, ih (by omega), lineCommentLength]
  | case4 c rest hline hescape ih =>
    rw [lineCommentLength.eq_4 _ _ hline hescape, List.length_cons] at h
    have hescape' : ∀ d more, c = '\\' → rest ++ tail = d :: more → False := by
      intro d more hc _
      cases rest with
      | nil => exact absurd h (by simp)
      | cons e rest => exact hescape e rest hc rfl
    rw [List.cons_append, lineCommentLength.eq_4 _ _ hline hescape', ih (by omega),
      lineCommentLength.eq_4 _ _ hline hescape]

theorem lineCommentLength_le_length (text : List Char) : lineCommentLength text ≤ text.length := by
  induction text using lineCommentLength.induct with
  | case1 => exact Nat.le_refl 0
  | case2 rest => simp [lineCommentLength]
  | case3 c rest ih => simpa [lineCommentLength] using ih
  | case4 c rest hline hescape ih =>
    simpa [lineCommentLength.eq_4 _ _ hline hescape] using ih

/-! ### Names of groups -/

theorem readGroupName_eq_ok {position used : Nat} {stop : Char} (hstop : stop ≠ '\\')
    {text name : List Char} (h : readGroupName position stop text = .ok (name, used)) :
    used ≤ text.length ∧
      ∀ position' tail, readGroupName position' stop (text ++ tail) = .ok (name, used) := by
  unfold readGroupName at h ⊢
  split at h
  · exact absurd h (by simp)
  · next name' used' heq =>
    obtain ⟨hle, hsame⟩ := readName_eq_ok hstop heq
    split at h
    · next hidentifier =>
      obtain ⟨rfl, rfl⟩ := Prod.mk.inj (Except.ok.inj h)
      refine ⟨hle, fun position' tail => ?_⟩
      simp only [hsame position' tail, if_pos hidentifier]
    · exact absurd h (by simp)

theorem groupReference_eq_ok {position : Nat} {name : List Char} {reference : GroupReference}
    (h : groupReference position name = .ok reference) (position' : Nat) :
    groupReference position' name = .ok reference := by
  unfold groupReference at h ⊢
  split at h
  · next hidentifier => rw [if_pos hidentifier, h]
  · next hidentifier =>
    rw [if_neg hidentifier]
    split at h
    · exact absurd h (by simp)
    · next index hindex =>
      split at h
      · exact absurd h (by simp)
      · next hnegative =>
        split at h
        · exact absurd h (by simp)
        · next hzero =>
          split at h
          · exact absurd h (by simp)
          · next hlarge => rw [if_neg hnegative, if_neg hzero, if_neg hlarge, h]

theorem readNamed_eq_ok {position used : Nat} {text : List Char} {lexeme : Lexeme}
    (h : readNamed position text = .ok (lexeme, used)) :
    used ≤ text.length + 2 ∧
      ∀ position' tail, readNamed position' (text ++ tail) = .ok (lexeme, used) := by
  unfold readNamed at h
  split at h
  · next rest =>
    obtain ⟨⟨name, used'⟩, hname, heq⟩ := map_eq_ok h
    obtain ⟨rfl, rfl⟩ := Prod.mk.inj heq
    obtain ⟨hle, hsame⟩ := readGroupName_eq_ok (by decide) hname
    refine ⟨by simpa using hle, fun position' tail => ?_⟩
    rw [List.cons_append, readNamed, hsame]
    rfl
  · next rest =>
    obtain ⟨⟨name, used'⟩, hname, heq⟩ := map_eq_ok h
    obtain ⟨rfl, rfl⟩ := Prod.mk.inj heq
    obtain ⟨hle, hsame⟩ := readGroupName_eq_ok (by decide) hname
    refine ⟨by simpa using hle, fun position' tail => ?_⟩
    rw [List.cons_append, readNamed, hsame]
    rfl
  · exact absurd h (by simp)
  · exact absurd h (by simp)

theorem readLookbehind_eq_ok {position used : Nat} {text : List Char} {lexeme : Lexeme}
    (h : readLookbehind position text = .ok (lexeme, used)) :
    used ≤ text.length + 2 ∧
      ∀ position' tail, readLookbehind position' (text ++ tail) = .ok (lexeme, used) := by
  unfold readLookbehind at h
  split at h
  · obtain ⟨rfl, rfl⟩ := Prod.mk.inj (Except.ok.inj h)
    exact ⟨by simp, fun _ _ => rfl⟩
  · obtain ⟨rfl, rfl⟩ := Prod.mk.inj (Except.ok.inj h)
    exact ⟨by simp, fun _ _ => rfl⟩
  · exact absurd h (by simp)
  · exact absurd h (by simp)

theorem readConditional_eq_ok {position used : Nat} {text : List Char} {lexeme : Lexeme}
    (h : readConditional position text = .ok (lexeme, used)) :
    used ≤ text.length + 2 ∧
      ∀ position' tail, readConditional position' (text ++ tail) = .ok (lexeme, used) := by
  unfold readConditional at h
  split at h
  · exact absurd h (by simp)
  · next name used' hname =>
    obtain ⟨reference, hreference, heq⟩ := map_eq_ok h
    obtain ⟨rfl, rfl⟩ := Prod.mk.inj heq
    obtain ⟨hle, hsame⟩ := readName_eq_ok (by decide) hname
    refine ⟨by omega, fun position' tail => ?_⟩
    rw [readConditional, hsame]
    simp only [groupReference_eq_ok hreference, Except.map]

/-- The opening of a group is read in the same way in front of any text. -/
theorem readExtension_eq_ok {position used : Nat} {text : List Char} {lexeme : Lexeme}
    (h : readExtension position text = .ok (lexeme, used)) :
    used ≤ text.length + 1 ∧
      ∀ position' tail, readExtension position' (text ++ tail) = .ok (lexeme, used) := by
  have hfixed : ∀ {c : Char} {rest : List Char} {lexeme' : Lexeme},
      (Except.ok (lexeme', 2) : Reading Lexeme) = .ok (lexeme, used) →
        used ≤ (c :: rest).length + 1 ∧ (Except.ok (lexeme', 2) : Reading Lexeme)
          = .ok (lexeme, used) := by
    intro c rest lexeme' h
    obtain ⟨rfl, rfl⟩ := Prod.mk.inj (Except.ok.inj h)
    exact ⟨by simp, rfl⟩
  unfold readExtension at h
  split at h
  · exact absurd h (by simp)
  · obtain ⟨hle, hsame⟩ := readNamed_eq_ok h
    exact ⟨hle, hsame⟩
  · exact ⟨(hfixed h).1, fun _ _ => h⟩
  · exact ⟨(hfixed h).1, fun _ _ => h⟩
  · exact ⟨(hfixed h).1, fun _ _ => h⟩
  · exact ⟨(hfixed h).1, fun _ _ => h⟩
  · obtain ⟨hle, hsame⟩ := readLookbehind_eq_ok h
    exact ⟨hle, hsame⟩
  · obtain ⟨hle, hsame⟩ := readConditional_eq_ok h
    exact ⟨hle, hsame⟩
  · next rest =>
    split at h
    · exact absurd h (by simp)
    · next n hn =>
      obtain ⟨rfl, rfl⟩ := Prod.mk.inj (Except.ok.inj h)
      obtain ⟨hle, hsame⟩ := commentLength?_eq_some hn
      refine ⟨by simpa using hle, fun position' tail => ?_⟩
      simp only [List.cons_append, readExtension, hsame]
  · obtain ⟨hle, hsame⟩ := readFlagsOff_eq_ok h
    refine ⟨by simp only [List.length_cons]; omega, fun position' tail => hsame _ tail⟩
  · next c rest _ _ _ _ _ _ _ _ _ =>
    split at h
    · next hletter =>
      obtain ⟨hle, hsame⟩ := readFlagsOn_eq_ok h
      refine ⟨by omega, fun position' tail => ?_⟩
      rw [List.cons_append, readExtension, if_pos hletter, ← List.cons_append, hsame]
      all_goals assumption
    · exact absurd h (by simp)

/-! ### Lexemes -/

/-- What follows an opening parenthesis. -/
theorem settles_opening {position used : Nat} {rest : List Char} {lexeme : Lexeme}
    (h : (match rest with
      | '?' :: body => readExtension position body
      | _ => .ok (.capture none, 0)) = .ok (lexeme, used)) :
    used ≤ rest.length ∧
      ∀ position' tail, Inert tail →
        (match rest ++ tail with
          | '?' :: body => readExtension position' body
          | _ => .ok (.capture none, 0)) = .ok (lexeme, used) := by
  split at h
  · obtain ⟨hle, hsame⟩ := readExtension_eq_ok h
    exact ⟨hle, fun position' tail _ => hsame position' tail⟩
  · next hquestion =>
    obtain ⟨rfl, rfl⟩ := Prod.mk.inj (Except.ok.inj h)
    refine ⟨Nat.zero_le _, fun position' tail htail => ?_⟩
    split
    · next body heq =>
      cases rest with
      | nil =>
        rw [List.nil_append] at heq
        exact absurd (htail '?' (by rw [heq]; rfl)) (by decide)
      | cons c rest => exact absurd (by rw [(List.cons.inj heq).1]) (hquestion rest)
    · rfl

/-- **The reading of a lexeme settles.**  A comment that a line feed ends must end before
the text does. -/
theorem settles_read {flags : Flags} {position used : Nat} {c : Char} {rest : List Char}
    {lexeme : Lexeme} (h : Lexeme.read flags position c rest = .ok (lexeme, used)) :
    used ≤ rest.length ∧
      ((flags.verbose = true → c = '#' → used < rest.length) →
        ∀ position' tail, Inert tail →
          Lexeme.read flags position' c (rest ++ tail) = .ok (lexeme, used)) := by
  have hone : ∀ {lexeme' : Lexeme}, (Except.ok (lexeme', 0) : Reading Lexeme) = .ok (lexeme, used) →
      used ≤ rest.length ∧ (Except.ok (lexeme', 0) : Reading Lexeme) = .ok (lexeme, used) := by
    intro lexeme' h
    obtain ⟨rfl, rfl⟩ := Prod.mk.inj (Except.ok.inj h)
    exact ⟨Nat.zero_le _, rfl⟩
  unfold Lexeme.read at h ⊢
  split at h
  · next hblank =>
    refine ⟨(hone h).1, fun _ position' tail _ => ?_⟩
    rw [if_pos hblank, h]
  · next hblank =>
    simp only [if_neg hblank]
    split at h
    · next hcomment =>
      obtain ⟨rfl, rfl⟩ := Prod.mk.inj (Except.ok.inj h)
      refine ⟨lineCommentLength_le_length rest, fun hends position' tail _ => ?_⟩
      rw [Bool.and_eq_true, decide_eq_true_eq] at hcomment
      rw [lineCommentLength_append (hends hcomment.1 hcomment.2)]
      simp [hcomment]
    · next hcomment =>
      simp only [if_neg hcomment]
      split at h
      · exact ⟨(hone h).1, fun _ _ _ _ => h⟩
      · exact ⟨(hone h).1, fun _ _ _ _ => h⟩
      · obtain ⟨hle, hsame⟩ := settles_opening h
        exact ⟨hle, fun _ => hsame⟩
      · obtain ⟨hle, hsame⟩ := settles_readSet flags.ascii h
        exact ⟨hle, fun _ => hsame⟩
      · obtain ⟨hle, hsame⟩ := settles_readEscape flags.ascii h
        exact ⟨hle, fun _ => hsame⟩
      · exact ⟨(hone h).1, fun _ _ _ _ => h⟩
      · exact ⟨(hone h).1, fun _ _ _ _ => h⟩
      · exact ⟨(hone h).1, fun _ _ _ _ => h⟩
      · obtain ⟨hle, hsame⟩ := settles_readQuantifier 0 (some 1) h
        exact ⟨by omega, fun _ _ => hsame⟩
      · obtain ⟨hle, hsame⟩ := settles_readQuantifier 0 none h
        exact ⟨by omega, fun _ _ => hsame⟩
      · obtain ⟨hle, hsame⟩ := settles_readQuantifier 1 none h
        exact ⟨by omega, fun _ _ => hsame⟩
      · obtain ⟨hle, hsame⟩ := settles_readBraces h
        exact ⟨hle, fun _ => hsame⟩
      · refine ⟨(hone h).1, fun _ _ _ _ => ?_⟩
        rw [← h]

end RouteMatch.Pattern
