import RouteMatch.Proofs.Pattern.Reading

/-!
# Text that finishes no lexeme

A slash, a dollar sign and a backslash end no name, no set, no comment in parentheses and no
count, and belong to no number.  So a lexeme that has been begun where a text of these characters
starts is finished before it or not at all, and is read as if the pattern ended there.  There are
two exceptions: an escape takes the character after its backslash, whatever that is, and a comment
that a line feed ends goes on up to the end of the pattern.

## Main definitions

* `Idle` — a text of slashes, dollar signs and backslashes.

## Main results

* `read_append_idle` — **no lexeme takes anything of such a text**, but for the exceptions.
* `lineCommentLength_cases` — a comment that a line feed ends does or does not end in a text.
-/

namespace RouteMatch.Pattern

open Text

/-! ### Idle texts -/

/-- Characters that finish no lexeme. -/
def idleChars : List Char := ['/', '$', '\\']

/-- A text of slashes, dollar signs and backslashes. -/
def Idle (text : List Char) : Prop :=
  ∀ c ∈ text, c ∈ idleChars

theorem idle_cons {c : Char} {text : List Char} : Idle (c :: text) ↔ c ∈ idleChars ∧ Idle text :=
  List.forall_mem_cons

theorem Idle.notMem {text : List Char} (h : Idle text) {c : Char} (hc : c ∉ idleChars) :
    c ∉ text :=
  fun hmem => hc (h c hmem)

theorem Idle.append {text more : List Char} (h : Idle text) (h' : Idle more) :
    Idle (text ++ more) :=
  fun c hc => (List.mem_append.mp hc).elim (h c) (h' c)

theorem idle_replicate {c : Char} (hc : c ∈ idleChars) (n : Nat) : Idle (List.replicate n c) :=
  fun _ hmem => List.eq_of_mem_replicate hmem ▸ hc

theorem Idle.inert_append {text tail : List Char} (h : Idle text) (htail : Inert tail) :
    Inert (text ++ tail) := by
  cases text with
  | nil => exact htail
  | cons c text =>
    intro d hd
    obtain rfl := Option.some.inj hd
    exact List.mem_append_right [')', '('] (idle_cons.mp h).1

theorem Idle.inert {text : List Char} (h : Idle text) : Inert text :=
  List.append_nil text ▸ h.inert_append closing_nil.inert

/-! ### Names -/

theorem textUntil_idle {stop : Char} (hstop : stop ∉ idleChars) {text : List Char}
    (htext : Idle text) : (textUntil stop text).2 = false := by
  induction text using textUntil.induct stop with
  | case1 => rfl
  | case2 c rest text found heq ih =>
    have hrest := ih (idle_cons.mp (idle_cons.mp htext).2).2
    rw [textUntil, heq]
    rwa [heq] at hrest
  | case3 rest hescape => exact absurd (idle_cons.mp htext).1 hstop
  | case4 c rest hescape hne text found heq ih =>
    have hrest := ih (idle_cons.mp htext).2
    rw [textUntil.eq_3 _ _ _ hescape, if_neg hne, heq]
    rwa [heq] at hrest

/-- A name that an idle text follows is ended before it. -/
theorem textUntil_append_idle {stop : Char} (hstop : stop ∉ idleChars) {text tail : List Char}
    (htail : Idle tail) (h : (textUntil stop text).2 = false) :
    (textUntil stop (text ++ tail)).2 = false := by
  induction text using textUntil.induct stop with
  | case1 => exact textUntil_idle hstop htail
  | case2 c rest text found heq ih =>
    rw [textUntil, heq] at h
    rw [List.cons_append, List.cons_append, textUntil]
    exact ih (by rw [heq]; exact h)
  | case3 rest hescape =>
    rw [textUntil.eq_3 _ _ _ hescape, if_pos rfl] at h
    exact absurd h (by simp)
  | case4 c rest hescape hne text found heq ih =>
    rw [textUntil.eq_3 _ _ _ hescape, if_neg hne, heq] at h
    by_cases hlast : c = '\\' ∧ rest = []
    · obtain ⟨rfl, rfl⟩ := hlast
      exact textUntil_idle hstop (idle_cons.mpr ⟨by decide, htail⟩)
    · have hescape' : ∀ d more, c = '\\' → rest ++ tail = d :: more → False := by
        intro d more hc _
        cases rest with
        | nil => exact hlast ⟨hc, rfl⟩
        | cons e rest => exact hescape e rest hc rfl
      rw [List.cons_append, textUntil.eq_3 _ _ _ hescape', if_neg hne]
      exact ih (by rw [heq]; exact h)

theorem readName_append_idle {missing : Cause} {position : Nat} {stop : Char}
    (hstop : stop ∉ idleChars) {text tail : List Char} (htail : Idle tail)
    {result : List Char × Nat}
    (h : readName missing position stop (text ++ tail) = .ok result) :
    readName missing position stop text = .ok result := by
  have hbackslash : stop ≠ '\\' := by
    rintro rfl
    exact hstop (by decide)
  cases hfound : textUntil stop text with
  | mk name found =>
    cases found with
    | true =>
      have hsame := (textUntil_eq_true hbackslash hfound).2 tail
      rw [readName, hsame] at h
      rw [readName, hfound, h]
    | false =>
      have hnever := textUntil_append_idle hstop htail (by rw [hfound])
      unfold readName at h
      split at h
      · exact absurd h (by simp)
      · next heq =>
        rw [heq] at hnever
        exact absurd hnever (by simp)
      · exact absurd h (by simp)

section

variable {position : Nat} {rest tail : List Char} (htail : Idle tail)

include htail

/-! ### Escapes -/

theorem readCharacterName_append_idle {result : Escape × Nat}
    (h : readCharacterName position (rest ++ tail) = .ok result) :
    readCharacterName position rest = .ok result := by
  cases rest with
  | nil =>
    -- An idle text does not begin with a brace.
    cases tail with
    | nil => exact h
    | cons c tail =>
      have hbrace : c ≠ '\x7b' := by
        rintro rfl
        exact absurd (idle_cons.mp htail).1 (by decide)
      simp [readCharacterName, hbrace] at h
  | cons c rest =>
    rw [List.cons_append] at h
    by_cases hbrace : c = '\x7b'
    · subst hbrace
      rw [readCharacterName] at h ⊢
      split at h
      · cases h
      · next hname =>
        rw [readName_append_idle (by decide) htail hname]
        exact h
    · simp [readCharacterName, hbrace] at h

theorem readCommonEscape_append_idle {c : Char} {result : Escape × Nat}
    (h : readCommonEscape position c (rest ++ tail) = .ok result) :
    readCommonEscape position c rest = .ok result := by
  rcases readCommonEscape_cases c with ⟨width, heq⟩ | heq | ⟨escape, heq⟩ | heq
  · -- The digits of a code point are those before the idle text.
    simp only [heq, readCodePoint] at h ⊢
    rwa [takeWhile_take_append (by decide) htail.inert] at h
  · rw [heq] at h ⊢
    exact readCharacterName_append_idle htail h
  · rw [heq] at h ⊢
    exact h
  · exact absurd ((heq _ _).symm.trans h) (by simp)

theorem readOctal_append_idle (c : Char) :
    readOctal position c (rest ++ tail) = readOctal position c rest := by
  rw [readOctal, readOctal, takeWhile_take_append (by decide) htail.inert]

theorem readCharacterEscape_append_idle {octal : Bool} {c : Char} {result : Escape × Nat}
    (h : readCharacterEscape octal position c (rest ++ tail) = .ok result) :
    readCharacterEscape octal position c rest = .ok result := by
  rw [readCharacterEscape, readOctal_append_idle htail] at h
  rw [readCharacterEscape]
  split at h
  · next hoctal => rw [if_pos hoctal, h]
  · next hoctal =>
    obtain ⟨read, hread, heq⟩ := map_eq_ok h
    rw [if_neg hoctal, readCommonEscape_append_idle htail hread, Except.map, heq]

theorem readNumberEscape_append_idle (c : Char) :
    readNumberEscape position c (rest ++ tail) = readNumberEscape position c rest := by
  have hoctal : inertChars.any isOctal = false := by decide
  have hdecimal : inertChars.any isDecimal = false := by decide
  simp only [readNumberEscape, readOctal_append_idle htail,
    takeWhile_take_append hoctal htail.inert, takeWhile_take_append hdecimal htail.inert]

/-- An escape takes nothing of an idle text if there is a character after the backslash. -/
theorem readEscape_append_idle {ascii : Bool} {result : Lexeme × Nat} (hrest : rest ≠ [])
    (h : readEscape ascii position (rest ++ tail) = .ok result) :
    readEscape ascii position rest = .ok result := by
  obtain ⟨c, rest, rfl⟩ := List.exists_cons_of_ne_nil hrest
  rw [List.cons_append, readEscape, readNumberEscape_append_idle htail] at h
  rw [readEscape]
  split at h
  · exact h
  · split at h
    · next hnumber => rw [if_pos hnumber, h]
    · next hnumber =>
      obtain ⟨read, hread, heq⟩ := map_eq_ok h
      rw [if_neg hnumber, readCharacterEscape_append_idle htail hread, Except.map, heq]

end

/-! ### Character sets -/

/-- A set is not closed by an idle text. -/
theorem readSetItems_idle {ascii : Bool} {start position skip : Nat} {text : List Char}
    (htext : Idle text) {phase : SetPhase} {items : List SetItem} {result : List SetItem × Nat} :
    readSetItems ascii start position text skip phase items ≠ .ok result := by
  induction text generalizing position skip phase items with
  | nil => simp [readSetItems]
  | cons c rest ih =>
    obtain ⟨hc, hrest⟩ := idle_cons.mp htext
    have hbracket : c ≠ ']' := by
      rintro rfl
      exact absurd hc (by decide)
    have hhyphen : c ≠ '-' := by
      rintro rfl
      exact absurd hc (by decide)
    intro h
    cases skip with
    | succ skip => exact ih hrest h
    | zero =>
      cases phase with
      | ready =>
        rw [readSetItems, if_neg (by simp [hbracket])] at h
        split at h
        · exact absurd h (by simp)
        · exact ih hrest h
      | afterAtom first =>
        rw [readSetItems, if_neg hhyphen, if_neg hbracket] at h
        split at h
        · exact absurd h (by simp)
        · exact ih hrest h
      | afterHyphen first =>
        rw [readSetItems, if_neg hbracket] at h
        split at h
        · exact absurd h (by simp)
        · split at h
          · exact absurd h (by simp)
          · exact ih hrest h

theorem readSetAtom_append_idle {position : Nat} {c : Char} {rest tail : List Char}
    {atom : SetAtom} {used : Nat} (htail : Idle tail) (hrest : c = '\\' → rest ≠ [])
    (h : readSetAtom position c (rest ++ tail) = .ok (atom, used)) :
    readSetAtom position c rest = .ok (atom, used) := by
  unfold readSetAtom at h ⊢
  split at h
  · next hc =>
    obtain ⟨d, rest, rfl⟩ := List.exists_cons_of_ne_nil (hrest hc)
    obtain ⟨⟨escape, used'⟩, hread, heq⟩ := map_eq_ok h
    have hread' : readSetEscape position (d :: rest) = .ok (escape, used') :=
      readCharacterEscape_append_idle htail hread
    rw [if_pos hc, hread', Except.map, ← heq]
    rfl
  · next hc => rw [if_neg hc, h]

theorem readSetItems_append_idle {ascii : Bool} {start position skip : Nat}
    {text tail : List Char} (htail : Idle tail) {phase : SetPhase} {items : List SetItem}
    {result : List SetItem × Nat}
    (h : readSetItems ascii start position (text ++ tail) skip phase items = .ok result) :
    readSetItems ascii start position text skip phase items = .ok result := by
  induction text generalizing position skip phase items with
  | nil => exact absurd h (readSetItems_idle htail)
  | cons c rest ih =>
    rw [List.cons_append] at h
    cases skip with
    | succ skip => exact ih h
    | zero =>
      -- A backslash at the end of the text would begin an idle text.
      have hrest : c = '\\' → rest ≠ [] := by
        rintro rfl rfl
        exact readSetItems_idle (idle_cons.mpr ⟨by decide, htail⟩) h
      cases phase with
      | ready =>
        rw [readSetItems] at h ⊢
        split at h
        · next hbracket => rw [if_pos hbracket, h]
        · next hbracket =>
          split at h
          · exact absurd h (by simp)
          · next atom used hatom =>
            rw [if_neg hbracket, readSetAtom_append_idle htail hrest hatom]
            exact ih h
      | afterAtom first =>
        rw [readSetItems] at h ⊢
        split at h
        · next hhyphen =>
          rw [if_pos hhyphen]
          exact ih h
        · next hhyphen =>
          split at h
          · next hbracket => rw [if_neg hhyphen, if_pos hbracket, h]
          · next hbracket =>
            split at h
            · exact absurd h (by simp)
            · next atom used hatom =>
              rw [if_neg hhyphen, if_neg hbracket, readSetAtom_append_idle htail hrest hatom]
              exact ih h
      | afterHyphen first =>
        rw [readSetItems] at h ⊢
        split at h
        · next hbracket => rw [if_pos hbracket, h]
        · next hbracket =>
          split at h
          · exact absurd h (by simp)
          · next atom used hatom =>
            split at h
            · exact absurd h (by simp)
            · next item hrange =>
              rw [if_neg hbracket, readSetAtom_append_idle htail hrest hatom]
              simp only [hrange]
              exact ih h

theorem readSet_append_idle {ascii : Bool} {position : Nat} {rest tail : List Char}
    (htail : Idle tail) {result : Lexeme × Nat}
    (h : readSet ascii position (rest ++ tail) = .ok result) :
    readSet ascii position rest = .ok result := by
  cases rest with
  | nil =>
    -- The bracket is the last character, so that the set is idle.
    have hcaret : ∀ body, tail ≠ '^' :: body := by
      rintro body rfl
      exact absurd (idle_cons.mp htail).1 (by decide)
    unfold readSet at h
    split at h
    next negated body heq =>
      rw [List.nil_append] at heq
      split at heq
      · exact absurd rfl (hcaret _)
      · obtain ⟨rfl, rfl⟩ := Prod.mk.inj heq
        simp only [] at h
        split at h
        · exact absurd h (by simp)
        · next hitems => exact absurd hitems (readSetItems_idle htail)
  | cons c body =>
    obtain ⟨negated, first, inner, -, heq⟩ := exists_readSet_eq ascii (List.cons_ne_nil c body)
    rw [heq] at h
    obtain ⟨read, hread, hresult⟩ := map_eq_ok h
    have halone := heq position []
    rw [List.append_nil, List.append_nil, readSetItems_append_idle htail hread] at halone
    rw [halone, Except.map, hresult]

/-! ### Repetitions -/

theorem readQuantifier_append_idle (least : Nat) (most : Option Nat) (used : Nat)
    {rest tail : List Char} (htail : Idle tail) :
    readQuantifier least most used (rest ++ tail) = readQuantifier least most used rest := by
  rw [readQuantifier, readQuantifier, readMode_append_inert htail.inert]

theorem readBraces_append_idle {position : Nat} {rest tail : List Char} (htail : Idle tail)
    {result : Lexeme × Nat} (h : readBraces position (rest ++ tail) = .ok result) :
    readBraces position rest = .ok result := by
  rw [readBraces, bracedCounts?_append htail.inert] at h
  rw [readBraces]
  cases hcounts : bracedCounts? rest with
  | none =>
    rw [hcounts] at h
    exact h
  | some counts =>
    obtain ⟨least, most, used, after⟩ := counts
    rw [hcounts] at h
    simp only [Option.map_some, readQuantifier_append_idle _ _ _ htail] at h
    exact h

/-! ### The openings of groups -/

theorem not_flagLetter_of_idle {c : Char} (hc : c ∈ idleChars) :
    ¬flagLetters.contains c = true := by
  have hnone : idleChars.any flagLetters.contains = false := by decide
  exact List.any_eq_false.mp hnone c hc

theorem readFlagsOff_idle {on off : List Char} {position before : Nat} {text : List Char}
    (htext : Idle text) {result : Lexeme × Nat} :
    readFlagsOff on position before off text ≠ .ok result := by
  cases text with
  | nil => simp [readFlagsOff]
  | cons c rest =>
    obtain ⟨hc, -⟩ := idle_cons.mp htext
    have hcolon : c ≠ ':' := ne_of_mem_of_not_mem hc (by decide)
    rw [readFlagsOff, if_neg (not_flagLetter_of_idle hc), if_neg (by simp [hcolon])]
    simp

theorem readFlagsOff_append_idle {on off : List Char} {position before : Nat}
    {text tail : List Char} (htail : Idle tail) {result : Lexeme × Nat}
    (h : readFlagsOff on position before off (text ++ tail) = .ok result) :
    readFlagsOff on position before off text = .ok result := by
  induction text generalizing position before off with
  | nil => exact absurd h (readFlagsOff_idle htail)
  | cons c rest ih =>
    rw [List.cons_append, readFlagsOff] at h
    rw [readFlagsOff]
    split at h
    · next hletter =>
      rw [if_pos hletter]
      split at h
      · exact absurd h (by simp)
      · next htype => rw [if_neg htype, ih h]
    · next hletter => rw [if_neg hletter, h]

theorem readFlagsOn_append_idle {on : List Char} {position before : Nat} {text tail : List Char}
    (htail : Idle tail) {result : Lexeme × Nat}
    (h : readFlagsOn position before on (text ++ tail) = .ok result) :
    readFlagsOn position before on text = .ok result := by
  induction text generalizing position before on with
  | nil =>
    cases tail with
    | nil => exact h
    | cons c tail =>
      obtain ⟨hc, -⟩ := idle_cons.mp htail
      have hclose : c ≠ ')' := ne_of_mem_of_not_mem hc (by decide)
      have hcolon : c ≠ ':' := ne_of_mem_of_not_mem hc (by decide)
      have hhyphen : c ≠ '-' := ne_of_mem_of_not_mem hc (by decide)
      rw [List.nil_append, readFlagsOn, if_neg (not_flagLetter_of_idle hc), if_neg hclose,
        if_neg (by simp [hcolon, hhyphen])] at h
      exact absurd h (by simp)
  | cons c rest ih =>
    rw [List.cons_append, readFlagsOn] at h
    rw [readFlagsOn]
    split at h
    · next hletter =>
      rw [if_pos hletter]
      split at h
      · exact absurd h (by simp)
      · next hlocale =>
        rw [if_neg hlocale]
        split at h
        · exact absurd h (by simp)
        · next htype => rw [if_neg htype, ih h]
    · next hletter =>
      rw [if_neg hletter]
      split at h
      · next hclose => rw [if_pos hclose, h]
      · next hclose =>
        rw [if_neg hclose]
        split at h
        · next hgoes =>
          rw [if_pos hgoes]
          split at h
          · exact absurd h (by simp)
          · next hglobal =>
            rw [if_neg hglobal]
            split at h
            · next hcolon => rw [if_pos hcolon, h]
            · next hcolon => rw [if_neg hcolon, readFlagsOff_append_idle htail h]
        · exact absurd h (by simp)

theorem commentLength?_idle {text : List Char} (htext : Idle text) : commentLength? text = none := by
  induction text using commentLength?.induct with
  | case1 => rfl
  | case2 rest => exact absurd (idle_cons.mp htext).1 (by decide)
  | case3 c rest ih =>
    rw [commentLength?, ih (idle_cons.mp (idle_cons.mp htext).2).2, Option.map_none]
  | case4 c rest hclose hescape ih =>
    rw [commentLength?.eq_4 _ _ hclose hescape, ih (idle_cons.mp htext).2, Option.map_none]

/-- A comment that an idle text follows is closed before it. -/
theorem commentLength?_append_idle {text tail : List Char} (htail : Idle tail)
    (h : commentLength? text = none) : commentLength? (text ++ tail) = none := by
  induction text using commentLength?.induct with
  | case1 => exact commentLength?_idle htail
  | case2 rest => exact absurd h (by simp [commentLength?])
  | case3 c rest ih =>
    rw [commentLength?, Option.map_eq_none_iff] at h
    rw [List.cons_append, List.cons_append, commentLength?, ih h, Option.map_none]
  | case4 c rest hclose hescape ih =>
    rw [commentLength?.eq_4 _ _ hclose hescape, Option.map_eq_none_iff] at h
    by_cases hlast : c = '\\' ∧ rest = []
    · obtain ⟨rfl, rfl⟩ := hlast
      exact commentLength?_idle (idle_cons.mpr ⟨by decide, htail⟩)
    · have hescape' : ∀ d more, c = '\\' → rest ++ tail = d :: more → False := by
        intro d more hc _
        cases rest with
        | nil => exact hlast ⟨hc, rfl⟩
        | cons e rest => exact hescape e rest hc rfl
      rw [List.cons_append, commentLength?.eq_4 _ _ hclose hescape', ih h, Option.map_none]

/-! ### Names of groups -/

theorem readGroupName_append_idle {position : Nat} {stop : Char} (hstop : stop ∉ idleChars)
    {text tail : List Char} (htail : Idle tail) {result : List Char × Nat}
    (h : readGroupName position stop (text ++ tail) = .ok result) :
    readGroupName position stop text = .ok result := by
  unfold readGroupName at h ⊢
  split at h
  · exact absurd h (by simp)
  · next heq =>
    rw [readName_append_idle hstop htail heq]
    exact h

theorem readNamed_append_idle {position : Nat} {text tail : List Char} (htail : Idle tail)
    {result : Lexeme × Nat} (h : readNamed position (text ++ tail) = .ok result) :
    readNamed position text = .ok result := by
  cases text with
  | nil =>
    cases tail with
    | nil => exact h
    | cons c tail =>
      obtain ⟨hc, -⟩ := idle_cons.mp htail
      have hless : c ≠ '<' := ne_of_mem_of_not_mem hc (by decide)
      have hequal : c ≠ '=' := ne_of_mem_of_not_mem hc (by decide)
      exact absurd h (by simp [readNamed, hless, hequal])
  | cons c rest =>
    rw [List.cons_append] at h
    by_cases hless : c = '<'
    · subst hless
      obtain ⟨read, hread, heq⟩ := map_eq_ok h
      rw [readNamed, readGroupName_append_idle (by decide) htail hread, Except.map, heq]
    by_cases hequal : c = '='
    · subst hequal
      obtain ⟨read, hread, heq⟩ := map_eq_ok h
      rw [readNamed, readGroupName_append_idle (by decide) htail hread, Except.map, heq]
    exact absurd h (by simp [readNamed, hless, hequal])

theorem readLookbehind_append_idle {position : Nat} {text tail : List Char} (htail : Idle tail)
    {result : Lexeme × Nat} (h : readLookbehind position (text ++ tail) = .ok result) :
    readLookbehind position text = .ok result := by
  cases text with
  | nil =>
    cases tail with
    | nil => exact h
    | cons c tail =>
      obtain ⟨hc, -⟩ := idle_cons.mp htail
      have hequal : c ≠ '=' := ne_of_mem_of_not_mem hc (by decide)
      have hbang : c ≠ '!' := ne_of_mem_of_not_mem hc (by decide)
      exact absurd h (by simp [readLookbehind, hequal, hbang])
  | cons c rest =>
    by_cases hequal : c = '='
    · subst hequal
      exact h
    by_cases hbang : c = '!'
    · subst hbang
      exact h
    exact absurd h (by simp [readLookbehind, hequal, hbang])

theorem readConditional_append_idle {position : Nat} {text tail : List Char} (htail : Idle tail)
    {result : Lexeme × Nat} (h : readConditional position (text ++ tail) = .ok result) :
    readConditional position text = .ok result := by
  unfold readConditional at h ⊢
  split at h
  · exact absurd h (by simp)
  · next heq =>
    rw [readName_append_idle (by decide) htail heq]
    exact h

theorem readExtension_append_idle {position : Nat} {text tail : List Char} (htail : Idle tail)
    {result : Lexeme × Nat} (h : readExtension position (text ++ tail) = .ok result) :
    readExtension position text = .ok result := by
  cases text with
  | nil =>
    cases tail with
    | nil => exact h
    | cons c tail =>
      obtain ⟨hc, -⟩ := idle_cons.mp htail
      simp only [idleChars, List.mem_cons, List.not_mem_nil, or_false] at hc
      rcases hc with rfl | rfl | rfl
      · exact absurd h (by simp [readExtension, flagLetters])
      · exact absurd h (by simp [readExtension, flagLetters])
      · exact absurd h (by simp [readExtension, flagLetters])
  | cons c rest =>
    rw [List.cons_append] at h
    by_cases hfixed : c ∈ [':', '>', '=', '!']
    · simp only [List.mem_cons, List.not_mem_nil, or_false] at hfixed
      rcases hfixed with rfl | rfl | rfl | rfl <;> exact h
    by_cases hnamed : c = 'P'
    · subst hnamed
      exact readNamed_append_idle htail h
    by_cases hless : c = '<'
    · subst hless
      exact readLookbehind_append_idle htail h
    by_cases hopen : c = '('
    · subst hopen
      exact readConditional_append_idle htail h
    by_cases hminus : c = '-'
    · subst hminus
      exact readFlagsOff_append_idle htail h
    by_cases hcomment : c = '#'
    · subst hcomment
      cases hlength : commentLength? rest with
      | none =>
        have hnever := commentLength?_append_idle htail hlength
        exact absurd h (by simp [readExtension, hnever])
      | some n =>
        have hsame := (commentLength?_eq_some hlength).2 tail
        simp only [readExtension, hsame] at h
        simp only [readExtension, hlength, h]
    · have hflags : ∀ more, readExtension position (c :: more)
          = if flagLetters.contains c then readFlagsOn (position + 2) 1 [] (c :: more)
            else .error (.at (position + 1) (.unknownExtension ('?' :: firstUnit (c :: more)))) := by
        intro more
        simp only [List.mem_cons, List.not_mem_nil, or_false, not_or] at hfixed
        obtain ⟨hcolon, hgreater, hequal, hbang⟩ := hfixed
        rw [readExtension] <;> assumption
      rw [hflags] at h ⊢
      split at h
      · next hletter =>
        rw [if_pos hletter]
        exact readFlagsOn_append_idle htail (by rwa [List.cons_append])
      · exact absurd h (by simp)

/-- What follows an opening parenthesis. -/
theorem opening_append_idle {position : Nat} {rest tail : List Char} (htail : Idle tail)
    {result : Lexeme × Nat}
    (h : (match rest ++ tail with
      | '?' :: body => readExtension position body
      | _ => .ok (.capture none, 0)) = .ok result) :
    (match rest with
      | '?' :: body => readExtension position body
      | _ => .ok (.capture none, 0)) = .ok result := by
  cases rest with
  | nil =>
    split at h
    · next body heq =>
      rw [List.nil_append] at heq
      rw [heq] at htail
      exact absurd (idle_cons.mp htail).1 (by decide)
    · exact h
  | cons c rest =>
    rw [List.cons_append] at h
    by_cases hquestion : c = '?'
    · subst hquestion
      exact readExtension_append_idle htail h
    · simpa [hquestion] using h

/-! ### Lexemes -/

/-- A comment that a line feed ends does so in a text, or goes on behind it up to the next line
feed. -/
theorem lineCommentLength_cases (text : List Char) :
    (∀ tail, lineCommentLength (text ++ tail) = lineCommentLength text) ∨
      ∀ tail, '\n' ∉ tail → lineCommentLength (text ++ tail) = (text ++ tail).length := by
  have hwhole : ∀ tail : List Char, '\n' ∉ tail → lineCommentLength tail = tail.length := by
    intro tail htail
    induction tail using lineCommentLength.induct with
    | case1 => rfl
    | case2 rest => exact absurd List.mem_cons_self htail
    | case3 c rest ih =>
      rw [lineCommentLength, ih fun hmem => htail (by simp [hmem])]
      rfl
    | case4 c rest hline hescape ih =>
      rw [lineCommentLength.eq_4 _ _ hline hescape,
        ih fun hmem => htail (List.mem_cons_of_mem _ hmem)]
      rfl
  induction text using lineCommentLength.induct with
  | case1 => exact Or.inr hwhole
  | case2 rest => exact Or.inl fun tail => rfl
  | case3 c rest ih =>
    refine ih.imp (fun hsame tail => ?_) fun hgoes tail htail => ?_
    · rw [List.cons_append, List.cons_append, lineCommentLength, hsame, lineCommentLength]
    · rw [List.cons_append, List.cons_append, lineCommentLength, hgoes tail htail]
      rfl
  | case4 c rest hline hescape ih =>
    by_cases hlast : c = '\\' ∧ rest = []
    · obtain ⟨rfl, rfl⟩ := hlast
      refine Or.inr fun tail htail => hwhole _ ?_
      simpa using htail
    · have hescape' : ∀ tail d more, c = '\\' → rest ++ tail = d :: more → False := by
        intro tail d more hc _
        cases rest with
        | nil => exact hlast ⟨hc, rfl⟩
        | cons e rest => exact hescape e rest hc rfl
      refine ih.imp (fun hsame tail => ?_) fun hgoes tail htail => ?_
      · rw [List.cons_append, lineCommentLength.eq_4 _ _ hline (hescape' tail), hsame,
          lineCommentLength.eq_4 _ _ hline hescape]
      · rw [List.cons_append, lineCommentLength.eq_4 _ _ hline (hescape' tail), hgoes tail htail]
        rfl

/-- **No lexeme takes anything of an idle text**, but for an escape that begins right before it
and a comment that a line feed ends. -/
theorem read_append_idle {flags : Flags} {position : Nat} {c : Char} {rest tail : List Char}
    {result : Lexeme × Nat} (htail : Idle tail) (hescape : c = '\\' → rest ≠ [])
    (hcomment : ¬(flags.verbose = true ∧ c = '#'))
    (h : Lexeme.read flags position c (rest ++ tail) = .ok result) :
    Lexeme.read flags position c rest = .ok result := by
  unfold Lexeme.read at h ⊢
  split at h
  · next hblank => rw [if_pos hblank, h]
  · next hblank =>
    have hcomment : ¬(flags.verbose && decide (c = '#')) = true := by simpa using hcomment
    rw [if_neg hcomment] at h
    rw [if_neg hblank, if_neg hcomment]
    split at h
    · exact h
    · exact h
    · exact opening_append_idle htail h
    · exact readSet_append_idle htail h
    · exact readEscape_append_idle htail (hescape rfl) h
    · exact h
    · exact h
    · exact h
    · rwa [readQuantifier_append_idle _ _ _ htail] at h
    · rwa [readQuantifier_append_idle _ _ _ htail] at h
    · rwa [readQuantifier_append_idle _ _ _ htail] at h
    · exact readBraces_append_idle htail h
    · rw [← h]

end RouteMatch.Pattern
