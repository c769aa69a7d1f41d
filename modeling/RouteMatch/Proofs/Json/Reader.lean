import RouteMatch.Json

/-!
# Reading documents

A reader of JSON documents, by the rules of the format and without regard to how documents are
printed here: blanks may stand between any two parts, a text may hold any character from blank
upwards as it is, escapes may be written in either case, and two escaped surrogates make one
character.  A printed document is read as the document it was printed from, and it consists of
ASCII characters.

The reader goes down into arrays and objects with a bound on the depth.  The number of
characters of a text is always enough, as each level has an opening mark of its own.

## Main definitions

* `readUnits`, `ofUnits`, `readText` — texts.
* `readParts`, `readBracketed` — the parts of arrays and objects.
* `readValue`, `read?` — documents.
* `IsSound` — documents whose words can be told from what is around them.
* `IsEscape` — the ways in which a character is written.

## Main results

* `readText_renderText` — texts are read as they were.
* `reads_renderAt` — so are documents, at every level.
* `read?_render` — **a printed document is read as itself.**
* `isAscii_render` — a printed document is ASCII.
-/

namespace RouteMatch.Json

/-! ### Texts -/

/-- Where the reader of a text stands. -/
inductive TextMode
  | plain
  /-- After a backslash. -/
  | escape
  /-- Among the digits of a code unit, with their value so far and how many are missing after
  the next one. -/
  | unit (value missing : Nat)

/-- The code unit that a single character after a backslash stands for. -/
def escapeUnit? (c : Char) : Option Nat :=
  [('"', 0x22), ('\\', 0x5C), ('/', 0x2F), ('b', 0x08), ('f', 0x0C), ('n', 0x0A), ('r', 0x0D),
    ('t', 0x09)].lookup c

/-- Reads the code units of a text up to its closing mark. -/
def readUnits : TextMode → List Char → Option (List Nat × List Char)
  | _, [] => none
  | .plain, c :: rest =>
    if c = '"' then some ([], rest)
    else if c = '\\' then readUnits .escape rest
    else if c.toNat < 0x20 then none
    else (readUnits .plain rest).map fun found => (c.toNat :: found.1, found.2)
  | .escape, c :: rest =>
    if c = 'u' then readUnits (.unit 0 3) rest
    else
      match escapeUnit? c with
      | none => none
      | some unit => (readUnits .plain rest).map fun found => (unit :: found.1, found.2)
  | .unit value missing, c :: rest =>
    match Text.hexValue? c with
    | none => none
    | some digit =>
      match missing with
      | 0 => (readUnits .plain rest).map fun found => ((16 * value + digit) :: found.1, found.2)
      | missing + 1 => readUnits (.unit (16 * value + digit) missing) rest

/-- The characters that code units stand for.  A high surrogate and a low one make one
character; a surrogate alone makes none. -/
def ofUnits : List Nat → Option (List Char)
  | [] => some []
  | unit :: rest =>
    if 0xD800 ≤ unit ∧ unit ≤ 0xDBFF then
      match rest with
      | [] => none
      | low :: rest =>
        if 0xDC00 ≤ low ∧ low ≤ 0xDFFF then
          (ofUnits rest).map
            (Char.ofNat (0x10000 + (unit - 0xD800) * 0x400 + (low - 0xDC00)) :: ·)
        else none
    else if 0xDC00 ≤ unit ∧ unit ≤ 0xDFFF then none
    else (ofUnits rest).map (Char.ofNat unit :: ·)

/-- Reads a text after its opening mark. -/
def readText (input : List Char) : Option (List Char × List Char) :=
  (readUnits .plain input).bind fun found => (ofUnits found.1).map fun s => (s, found.2)

/-! ### Documents -/

/-- Whether a character may stand between any two parts of a document. -/
def isBlank (c : Char) : Bool :=
  c == ' ' || c == '\n' || c == '\r' || c == '\t'

/-- Whether a character belongs to a word. -/
def isWordChar (c : Char) : Bool :=
  Unicode.isAsciiLetter c.toNat || Unicode.isAsciiDigit c.toNat || ['+', '-', '.'].contains c

/-- What comes after a mark, blanks before the mark skipped. -/
def readMark (mark : Char) (input : List Char) : Option (List Char) :=
  match input.dropWhile isBlank with
  | [] => none
  | c :: rest => if c = mark then some rest else none

section Parts

variable {α : Type} (readPart : List Char → Option (α × List Char)) (closing : Char)

/-- Reads at least one part, with commas between them, and the closing mark. -/
def readParts : Nat → List Char → Option (List α × List Char)
  | 0, _ => none
  | bound + 1, input =>
    match readPart input with
    | none => none
    | some (part, rest) =>
      match rest.dropWhile isBlank with
      | [] => none
      | c :: rest =>
        if c = ',' then (readParts bound rest).map fun found => (part :: found.1, found.2)
        else if c = closing then some ([part], rest)
        else none

/-- Reads what comes after an opening mark: the closing mark, or parts. -/
def readBracketed (bound : Nat) (input : List Char) : Option (List α × List Char) :=
  match readMark closing input with
  | some rest => some ([], rest)
  | none => readParts readPart closing bound input

end Parts

/-- Reads an entry of an object: its name, a colon and a document. -/
def readEntry (readItem : List Char → Option (Json × List Char)) (input : List Char) :
    Option ((List Char × Json) × List Char) :=
  (readMark '"' input).bind fun rest =>
    (readText rest).bind fun name =>
      (readMark ':' name.2).bind fun rest =>
        (readItem rest).map fun item => ((name.1, item.1), item.2)

/-- Reads a document and gives what comes after it.  The bound is one on the depth of the
document and on the number of parts of each array and object. -/
def readValue : Nat → List Char → Option (Json × List Char)
  | 0, _ => none
  | bound + 1, input =>
    match input.dropWhile isBlank with
    | [] => none
    | c :: rest =>
      if c = '"' then (readText rest).map fun found => (.text found.1, found.2)
      else if c = '[' then
        (readBracketed (readValue bound) ']' bound rest).map fun found => (.array found.1, found.2)
      else if c = '\x7b' then
        (readBracketed (readEntry (readValue bound)) '\x7d' bound rest).map fun found =>
          (.object found.1, found.2)
      else if isWordChar c then
        some (.word ((c :: rest).takeWhile isWordChar), (c :: rest).dropWhile isWordChar)
      else none

/-- Reads a text that is one document. -/
def read? (input : List Char) : Option Json :=
  match readValue input.length input with
  | none => none
  | some (j, rest) => if rest.all isBlank then some j else none

/-- A document whose words can be told from what is around them. -/
inductive IsSound : Json → Prop
  | word {w : List Char} (hne : w ≠ []) (hw : ∀ c ∈ w, isWordChar c = true) : IsSound (.word w)
  | text (s : List Char) : IsSound (.text s)
  | array {items : List Json} (h : ∀ item ∈ items, IsSound item) : IsSound (.array items)
  | object {entries : List (List Char × Json)} (h : ∀ entry ∈ entries, IsSound entry.2) :
    IsSound (.object entries)

/-! ### Texts are read as they were -/

/-- The code units of a character. -/
def unitsOf (c : Char) : List Nat :=
  if c.toNat ≤ 0xFFFF then [c.toNat]
  else [0xD800 + (c.toNat - 0x10000) / 0x400, 0xDC00 + (c.toNat - 0x10000) % 0x400]

/-- An escaped code unit. -/
theorem readUnits_unitEscape {unit : Nat} (h : unit < 0x10000) (rest : List Char) :
    readUnits .plain (unitEscape unit ++ rest)
      = (readUnits .plain rest).map fun found => (unit :: found.1, found.2) := by
  have hdigit : ∀ n, Text.hexValue? (Text.hexDigit (n % 16)) = some (n % 16) := by
    intro n
    apply Text.hexValue?_hexDigit
    omega
  have hvalue : 16 * (16 * (16 * (16 * 0 + unit / 16 / 16 / 16 % 16) + unit / 16 / 16 % 16)
      + unit / 16 % 16) + unit % 16 = unit := by
    omega
  simp only [unitEscape, Text.toHex, List.nil_append, List.cons_append]
  rw [readUnits, if_neg (by decide), if_pos rfl, readUnits, if_pos rfl]
  simp only [readUnits, hdigit, hvalue]

/-- An escape by one character. -/
theorem readUnits_escape {c : Char} {unit : Nat} (hc : c ≠ 'u') (h : escapeUnit? c = some unit)
    (rest : List Char) :
    readUnits .plain ('\\' :: c :: rest)
      = (readUnits .plain rest).map fun found => (unit :: found.1, found.2) := by
  rw [readUnits, if_neg (by decide), if_pos rfl, readUnits, if_neg hc, h]

/-- The ways in which a character is written in a text. -/
inductive IsEscape (c : Char) : List Char → Prop
  /-- By one character after a backslash. -/
  | short {e : Char} (hunit : escapeUnit? e = some c.toNat) (hne : e ≠ 'u')
    (hascii : e.toNat < 0x80) (hsmall : c.toNat ≤ 0xFFFF) : IsEscape c ['\\', e]
  | plain (hquote : c ≠ '"') (hbackslash : c ≠ '\\') (hlow : 0x20 ≤ c.toNat)
    (hhigh : c.toNat < 0x7F) : IsEscape c [c]
  | unit (hsmall : c.toNat ≤ 0xFFFF) : IsEscape c (unitEscape c.toNat)
  | pair (hlarge : ¬c.toNat ≤ 0xFFFF) :
    IsEscape c (unitEscape (0xD800 + (c.toNat - 0x10000) / 0x400)
      ++ unitEscape (0xDC00 + (c.toNat - 0x10000) % 0x400))

theorem isEscape_escapeChar (c : Char) : IsEscape c (escapeChar c) := by
  have hshort : ∀ (d e : Char), escapeUnit? e = some d.toNat → e ≠ 'u' → e.toNat < 0x80 →
      d.toNat ≤ 0xFFFF → c = d → IsEscape c ['\\', e] := by
    rintro d e hunit hne hascii hsmall rfl
    exact .short hunit hne hascii hsmall
  unfold escapeChar
  split
  · next h =>
    rcases h with rfl | rfl
    · exact hshort _ _ rfl (by decide) (by decide) (by decide) rfl
    · exact hshort _ _ rfl (by decide) (by decide) (by decide) rfl
  next h =>
  obtain ⟨hquote, hbackslash⟩ := not_or.mp h
  split
  · next hc => exact hshort _ _ rfl (by decide) (by decide) (by decide) hc
  split
  · next hc => exact hshort _ _ rfl (by decide) (by decide) (by decide) hc
  split
  · next hc => exact hshort _ _ rfl (by decide) (by decide) (by decide) hc
  split
  · next hc => exact hshort _ _ rfl (by decide) (by decide) (by decide) hc
  split
  · next hc => exact hshort _ _ rfl (by decide) (by decide) (by decide) hc
  split
  · next hprintable => exact .plain hquote hbackslash hprintable.1 hprintable.2
  split
  · next hsmall => exact .unit hsmall
  · next hlarge => exact .pair hlarge

theorem unitsOf_of_le {c : Char} (h : c.toNat ≤ 0xFFFF) : unitsOf c = [c.toNat] :=
  if_pos h

/-- A character is read as its code units. -/
theorem readUnits_escapeChar (c : Char) (rest : List Char) :
    readUnits .plain (escapeChar c ++ rest)
      = (readUnits .plain rest).map fun found => (unitsOf c ++ found.1, found.2) := by
  have hescape := isEscape_escapeChar c
  generalize escapeChar c = text at hescape
  cases hescape with
  | short hunit hne _ hsmall =>
    rw [unitsOf_of_le hsmall]
    exact readUnits_escape hne hunit rest
  | plain hquote hbackslash hlow hhigh =>
    rw [List.singleton_append, readUnits, if_neg hquote, if_neg hbackslash, if_neg (by omega),
      unitsOf_of_le (by omega)]
    rfl
  | unit hsmall =>
    rw [readUnits_unitEscape (by omega), unitsOf_of_le hsmall]
    rfl
  | pair hlarge =>
    have hlt : c.toNat < 0x110000 := by
      rcases c.valid with hlow | ⟨-, hhigh⟩
      · exact Nat.lt_trans hlow (by omega)
      · exact hhigh
    rw [List.append_assoc, readUnits_unitEscape (by omega), readUnits_unitEscape (by omega),
      unitsOf, if_neg hlarge, Option.map_map]
    rfl

/-- A unit that is no surrogate stands for a character of its own. -/
theorem ofUnits_single {unit : Nat} (h : unit < 0xD800 ∨ 0xDFFF < unit) (rest : List Nat) :
    ofUnits (unit :: rest) = (ofUnits rest).map (Char.ofNat unit :: ·) := by
  rw [ofUnits.eq_def]
  simp only []
  rw [if_neg (by omega), if_neg (by omega)]

/-- Two surrogates stand for one character. -/
theorem ofUnits_pair {high low : Nat} (hhigh : high < 0x400) (hlow : low < 0x400)
    (rest : List Nat) :
    ofUnits ((0xD800 + high) :: (0xDC00 + low) :: rest)
      = (ofUnits rest).map (Char.ofNat (0x10000 + high * 0x400 + low) :: ·) := by
  rw [ofUnits.eq_def]
  simp only []
  rw [if_pos (by omega), if_pos (by omega), Nat.add_sub_cancel_left, Nat.add_sub_cancel_left]

/-- Code units of characters stand for these characters. -/
theorem ofUnits_flatMap (s : List Char) : ofUnits (s.flatMap unitsOf) = some s := by
  induction s with
  | nil => rfl
  | cons c s ih =>
    have hchar : ∀ n, n = c.toNat → Char.ofNat n = c := by
      rintro n rfl
      exact Char.ofNat_toNat c
    have hvalid : c.toNat < 0xD800 ∨ (0xDFFF < c.toNat ∧ c.toNat < 0x110000) := c.valid
    rw [List.flatMap_cons, unitsOf]
    split
    · next hsmall =>
      rw [List.singleton_append, ofUnits_single (by omega), ih, hchar _ rfl]
      rfl
    · next hlarge =>
      rw [List.cons_append, List.singleton_append, ofUnits_pair (by omega) (by omega), ih,
        hchar _ (by omega)]
      rfl

/-- **Texts are read as they were.** -/
theorem readText_renderText (s rest : List Char) :
    readText (s.flatMap escapeChar ++ '"' :: rest) = some (s, rest) := by
  have hunits : readUnits .plain (s.flatMap escapeChar ++ '"' :: rest)
      = some (s.flatMap unitsOf, rest) := by
    induction s with
    | nil => rfl
    | cons c s ih =>
      rw [List.flatMap_cons, List.append_assoc, readUnits_escapeChar, ih]
      rfl
  rw [readText, hunits, Option.bind_some, ofUnits_flatMap]
  rfl

/-- Texts that are written in another way are read as well. -/
example : readText "\\uD83d\\ude00\\/ é\"".toList = some ("😀/ é".toList, []) := by
  decide +kernel

/-! ### Parts are read as they were -/

/-- What comes after a word: something that does not belong to it. -/
def Ends (rest : List Char) : Prop :=
  ∀ c ∈ rest.head?, isWordChar c = false

/-- A part of an array or object that is read as some value, with blanks before it. -/
structure Reads {α : Type} (readPart : List Char → Option (α × List Char)) (part : List Char)
    (value : α) : Prop where
  /-- A part begins with none of the marks that close arrays and objects. -/
  begins : ∃ c rest, part = c :: rest ∧ isBlank c = false ∧ c ≠ ']' ∧ c ≠ '\x7d'
  reads : ∀ blanks rest, (∀ c ∈ blanks, isBlank c = true) → Ends rest →
    readPart (blanks ++ part ++ rest) = some (value, rest)

theorem dropWhile_blanks {blanks : List Char} (h : ∀ c ∈ blanks, isBlank c = true) {c : Char}
    (hc : isBlank c = false) (rest : List Char) :
    (blanks ++ c :: rest).dropWhile isBlank = c :: rest := by
  rw [List.dropWhile_append_of_pos h, List.dropWhile_cons, hc]
  rfl

theorem isBlank_of_mem_newline {level : Nat} : ∀ c ∈ newline level, isBlank c = true := by
  intro c hc
  rcases List.mem_cons.mp hc with rfl | hc
  · decide
  · rw [List.eq_of_mem_replicate hc]
    decide

theorem readMark_blanks {blanks : List Char} (h : ∀ c ∈ blanks, isBlank c = true) {c mark : Char}
    (hc : isBlank c = false) (rest : List Char) :
    readMark mark (blanks ++ c :: rest) = if c = mark then some rest else none := by
  rw [readMark, dropWhile_blanks h hc]

section Parts

variable {α : Type} {readPart : List Char → Option (α × List Char)} {closing : Char}
  {parts : List (List Char × α)}

theorem length_le_renderLines (level : Nat) (lines : List (List Char)) :
    lines.length ≤ (renderLines level lines).length := by
  induction lines with
  | nil => exact Nat.zero_le _
  | cons line rest ih =>
    cases rest with
    | nil => simp [renderLines, newline]
    | cons next rest =>
      simp only [renderLines, List.length_append, List.length_cons] at ih ⊢
      omega

theorem length_le_of_mem_lines {level : Nat} {lines : List (List Char)} {line : List Char}
    (h : line ∈ lines) : line.length ≤ (renderLines level lines).length := by
  induction lines with
  | nil => exact absurd h List.not_mem_nil
  | cons first rest ih =>
    cases rest with
    | nil =>
      rw [List.mem_singleton.mp h, renderLines, List.length_append]
      omega
    | cons next rest =>
      simp only [renderLines, List.length_append, List.length_cons] at ih ⊢
      rcases List.mem_cons.mp h with rfl | h
      · omega
      · have hle := ih h
        omega

/-- Parts on lines of their own are read one after the other. -/
theorem readParts_renderLines (hcomma : closing ≠ ',') (hblank : isBlank closing = false)
    (hne : parts ≠ []) (h : ∀ p ∈ parts, Reads readPart p.1 p.2) {bound : Nat}
    (hbound : parts.length ≤ bound) (level outer : Nat) (rest : List Char) :
    readParts readPart closing bound
        (renderLines level (parts.map Prod.fst) ++ (newline outer ++ closing :: rest))
      = some (parts.map Prod.snd, rest) := by
  induction parts generalizing bound with
  | nil => exact absurd rfl hne
  | cons p parts ih =>
    obtain ⟨bound, rfl⟩ : ∃ n, bound = n + 1 := ⟨bound - 1, by
      rw [List.length_cons] at hbound
      omega⟩
    have hp := (h p List.mem_cons_self).reads (newline level)
    cases parts with
    | nil =>
      have hread := hp (newline outer ++ closing :: rest) isBlank_of_mem_newline
        (by intro c hc; obtain rfl := Option.some.inj hc; decide)
      simp only [List.map_cons, List.map_nil, renderLines]
      rw [readParts, hread]
      simp only []
      rw [dropWhile_blanks isBlank_of_mem_newline hblank]
      simp only []
      rw [if_neg hcomma, if_true]
    | cons q parts =>
      let later := renderLines level ((q :: parts).map Prod.fst)
        ++ (newline outer ++ closing :: rest)
      have hread := hp (',' :: later) isBlank_of_mem_newline
        (by intro c hc; obtain rfl := Option.some.inj hc; decide)
      have htext : renderLines level ((p :: q :: parts).map Prod.fst)
          ++ (newline outer ++ closing :: rest) = newline level ++ p.1 ++ ',' :: later := by
        simp [later, renderLines]
      have hlater := ih (List.cons_ne_nil q parts)
        (fun other hother => h other (List.mem_cons_of_mem _ hother))
        (Nat.le_of_succ_le_succ hbound)
      rw [htext, readParts, hread]
      simp only []
      rw [show (',' :: later).dropWhile isBlank = ',' :: later from rfl]
      simp only [if_true]
      rw [hlater]
      rfl

/-- What stands between two brackets is read as its parts. -/
theorem readBracketed_bracketed (hcomma : closing ≠ ',') (hblank : isBlank closing = false)
    (hclosing : closing = ']' ∨ closing = '\x7d') (h : ∀ p ∈ parts, Reads readPart p.1 p.2)
    {level bound : Nat} {opening : Char}
    (hbound : (bracketed level opening closing (parts.map Prod.fst)).length ≤ bound + 1)
    (rest : List Char) :
    ∃ inner, bracketed level opening closing (parts.map Prod.fst) ++ rest = opening :: inner ∧
      readBracketed readPart closing bound inner = some (parts.map Prod.snd, rest) := by
  cases parts with
  | nil =>
    refine ⟨closing :: rest, rfl, ?_⟩
    have hmark : readMark closing ([] ++ closing :: rest) = some rest := by
      rw [readMark_blanks (by simp) hblank, if_pos rfl]
    rw [List.nil_append] at hmark
    rw [readBracketed, hmark]
    rfl
  | cons p parts =>
    let lines := renderLines (level + 1) ((p :: parts).map Prod.fst)
    have hbracketed : bracketed level opening closing ((p :: parts).map Prod.fst)
        = opening :: lines ++ newline level ++ [closing] := rfl
    refine ⟨lines ++ (newline level ++ closing :: rest), by rw [hbracketed]; simp, ?_⟩
    -- The first part begins with no closing mark, so parts are read.
    obtain ⟨c, first, hfirst, hc, hsquare, hcurly⟩ := (h p List.mem_cons_self).begins
    obtain ⟨later, hlater⟩ : ∃ later, lines ++ (newline level ++ closing :: rest)
        = newline (level + 1) ++ c :: later := by
      cases parts with
      | nil =>
        refine ⟨first ++ (newline level ++ closing :: rest), ?_⟩
        simp [lines, renderLines, hfirst]
      | cons q parts =>
        refine ⟨first ++ ',' :: renderLines (level + 1) ((q :: parts).map Prod.fst)
          ++ (newline level ++ closing :: rest), ?_⟩
        simp [lines, renderLines, hfirst]
    have hne : c ≠ closing := by
      rcases hclosing with rfl | rfl
      · exact hsquare
      · exact hcurly
    rw [readBracketed, hlater, readMark_blanks isBlank_of_mem_newline hc, if_neg hne, ← hlater]
    apply readParts_renderLines hcomma hblank (List.cons_ne_nil p parts) h
    have hlength := length_le_renderLines (level + 1) ((p :: parts).map Prod.fst)
    rw [hbracketed] at hbound
    simp only [List.length_append, List.length_cons, List.length_map, lines] at hbound hlength ⊢
    omega

end Parts

/-! ### Documents are read as they were -/

theorem renderItems_eq (level : Nat) (items : List Json) :
    renderItems level items = items.map (renderAt level) := by
  induction items with
  | nil => rfl
  | cons item items ih => rw [renderItems, ih, List.map_cons]

/-- An entry as it is printed. -/
def renderEntry (level : Nat) (entry : List Char × Json) : List Char :=
  renderText entry.1 ++ [':', ' '] ++ entry.2.renderAt level

theorem renderEntries_eq (level : Nat) (entries : List (List Char × Json)) :
    renderEntries level entries = entries.map (renderEntry level) := by
  induction entries with
  | nil => rfl
  | cons entry entries ih =>
    obtain ⟨name, item⟩ := entry
    rw [renderEntries, ih, List.map_cons]
    rfl

/-- A part is no longer than what it is a part of, without the brackets. -/
theorem length_part_le {level : Nat} {opening closing : Char} {lines : List (List Char)}
    {line : List Char} (h : line ∈ lines) :
    line.length + 2 ≤ (bracketed level opening closing lines).length := by
  have hline : line.length ≤ (renderLines (level + 1) lines).length := length_le_of_mem_lines h
  have hne : lines.isEmpty = false := by
    cases lines with
    | nil => exact absurd h List.not_mem_nil
    | cons _ _ => rfl
  rw [bracketed, hne]
  simp only [Bool.false_eq_true, if_false, List.length_append, List.length_cons, List.length_nil]
  omega

/-- The entries of objects are read as they were if their documents are. -/
theorem reads_renderEntry {readItem : List Char → Option (Json × List Char)} {level : Nat}
    {entry : List Char × Json} (h : Reads readItem (entry.2.renderAt level) entry.2) :
    Reads (readEntry readItem) (renderEntry level entry) entry := by
  refine ⟨⟨'"', _, rfl, by decide, by decide, by decide⟩, ?_⟩
  intro blanks rest hblanks hends
  let after := ':' :: ([' '] ++ entry.2.renderAt level ++ rest)
  have htext : blanks ++ renderEntry level entry ++ rest
      = blanks ++ '"' :: (entry.1.flatMap escapeChar ++ '"' :: after) := by
    simp [renderEntry, renderText, after]
  have hcolon : readMark ':' after = some ([' '] ++ entry.2.renderAt level ++ rest) := rfl
  have hspace : [' '].all isBlank = true := by decide
  have hitem := h.reads [' '] rest (List.all_eq_true.mp hspace) hends
  rw [htext, readEntry, readMark_blanks hblanks (by decide), if_pos rfl, Option.bind_some,
    readText_renderText, Option.bind_some, hcolon, Option.bind_some, hitem]
  rfl

theorem isWordChar_cases {c : Char} (h : isWordChar c = true) :
    isBlank c = false ∧ c ≠ ']' ∧ c ≠ '\x7d' ∧ c ≠ '"' ∧ c ≠ '[' ∧ c ≠ '\x7b' := by
  have hne : ∀ d, isWordChar d = false → c ≠ d := by
    rintro d hd rfl
    rw [h] at hd
    exact absurd hd (by decide)
  refine ⟨?_, hne _ (by decide), hne _ (by decide), hne _ (by decide), hne _ (by decide),
    hne _ (by decide)⟩
  simp only [isBlank, Bool.or_eq_false_iff, beq_eq_false_iff_ne]
  exact ⟨⟨⟨hne _ (by decide), hne _ (by decide)⟩, hne _ (by decide)⟩, hne _ (by decide)⟩

/-- A word ends where the next character belongs to none. -/
theorem span_word {w rest : List Char} (hw : ∀ c ∈ w, isWordChar c = true) (hends : Ends rest) :
    (w ++ rest).takeWhile isWordChar = w ∧ (w ++ rest).dropWhile isWordChar = rest := by
  rw [List.takeWhile_append_of_pos hw, List.dropWhile_append_of_pos hw]
  cases rest with
  | nil => exact ⟨List.append_nil w, rfl⟩
  | cons c rest =>
    have hc := hends c rfl
    rw [List.takeWhile_cons, List.dropWhile_cons, hc]
    exact ⟨List.append_nil w, rfl⟩

/-- A printed document begins with none of the marks that close arrays and objects. -/
theorem begins_renderAt {j : Json} (h : j.IsSound) (level : Nat) :
    ∃ c rest, j.renderAt level = c :: rest ∧ isBlank c = false ∧ c ≠ ']' ∧ c ≠ '\x7d' := by
  cases h with
  | @word w hne hw =>
    obtain ⟨c, rest, rfl⟩ := List.exists_cons_of_ne_nil hne
    obtain ⟨hblank, hsquare, hcurly, -⟩ := isWordChar_cases (hw c List.mem_cons_self)
    exact ⟨c, rest, rfl, hblank, hsquare, hcurly⟩
  | text s => exact ⟨'"', _, rfl, by decide, by decide, by decide⟩
  | array h =>
    rw [renderAt, bracketed]
    split
    · exact ⟨'[', _, rfl, by decide, by decide, by decide⟩
    · exact ⟨'[', _, rfl, by decide, by decide, by decide⟩
  | object h =>
    rw [renderAt, bracketed]
    split
    · exact ⟨'\x7b', _, rfl, by decide, by decide, by decide⟩
    · exact ⟨'\x7b', _, rfl, by decide, by decide, by decide⟩

/-- A bound on the length of a printed document allows for one step. -/
theorem exists_bound {j : Json} (h : j.IsSound) {level bound : Nat}
    (hbound : (j.renderAt level).length ≤ bound) : ∃ n, bound = n + 1 := by
  obtain ⟨c, rest, heq, -⟩ := begins_renderAt h level
  rw [heq, List.length_cons] at hbound
  exact ⟨bound - 1, by omega⟩

section Values

variable {blanks after : List Char} (hblanks : ∀ c ∈ blanks, isBlank c = true)

include hblanks

theorem readValue_word {w : List Char} (hne : w ≠ []) (hw : ∀ c ∈ w, isWordChar c = true)
    (hends : Ends after) (bound : Nat) :
    readValue (bound + 1) (blanks ++ w ++ after) = some (.word w, after) := by
  obtain ⟨c, rest, rfl⟩ := List.exists_cons_of_ne_nil hne
  have hc := hw c List.mem_cons_self
  obtain ⟨hblank, -, -, hquote, hopen, hobject⟩ := isWordChar_cases hc
  obtain ⟨htake, hdrop⟩ := span_word hw hends
  rw [List.append_assoc, readValue, List.cons_append, dropWhile_blanks hblanks hblank]
  simp only [if_neg hquote, if_neg hopen, if_neg hobject, if_pos hc]
  rw [← List.cons_append, htake, hdrop]

theorem readValue_text (s : List Char) (bound : Nat) :
    readValue (bound + 1) (blanks ++ renderText s ++ after) = some (.text s, after) := by
  have htext : blanks ++ renderText s ++ after
      = blanks ++ '"' :: (s.flatMap escapeChar ++ '"' :: after) := by
    simp [renderText]
  rw [htext, readValue, dropWhile_blanks hblanks (by decide)]
  simp only [if_true]
  rw [readText_renderText]
  rfl

variable {level bound : Nat}

/-- An array is read as it was if its items are. -/
theorem readValue_array {items : List Json}
    (hbound : (renderAt level (.array items)).length ≤ bound + 1)
    (h : ∀ item ∈ items, (item.renderAt (level + 1)).length ≤ bound →
      Reads (readValue bound) (item.renderAt (level + 1)) item) :
    readValue (bound + 1) (blanks ++ renderAt level (.array items) ++ after)
      = some (.array items, after) := by
  let parts := items.map fun item => (item.renderAt (level + 1), item)
  have hlines : renderItems (level + 1) items = parts.map Prod.fst := by
    rw [renderItems_eq, List.map_map]
    rfl
  rw [renderAt, hlines] at hbound
  have hparts : ∀ p ∈ parts, Reads (readValue bound) p.1 p.2 := by
    intro p hp
    have hle : p.1.length + 2 ≤ (bracketed level '[' ']' (parts.map Prod.fst)).length :=
      length_part_le (List.mem_map_of_mem hp)
    obtain ⟨item, hitem, rfl⟩ := List.mem_map.mp hp
    simp only [] at hle
    exact h item hitem (by omega)
  obtain ⟨inner, htext, hread⟩ := readBracketed_bracketed (by decide) (by decide)
    (Or.inl rfl) hparts hbound after
  rw [renderAt, hlines, List.append_assoc, htext, readValue, dropWhile_blanks hblanks (by decide)]
  simp only [show ('[' : Char) ≠ '"' by decide, if_false, if_true]
  rw [hread]
  simp [parts, Function.comp_def]

/-- An object is read as it was if the documents in its entries are. -/
theorem readValue_object {entries : List (List Char × Json)}
    (hbound : (renderAt level (.object entries)).length ≤ bound + 1)
    (h : ∀ entry ∈ entries, (entry.2.renderAt (level + 1)).length ≤ bound →
      Reads (readValue bound) (entry.2.renderAt (level + 1)) entry.2) :
    readValue (bound + 1) (blanks ++ renderAt level (.object entries) ++ after)
      = some (.object entries, after) := by
  let parts := entries.map fun entry => (renderEntry (level + 1) entry, entry)
  have hlines : renderEntries (level + 1) entries = parts.map Prod.fst := by
    rw [renderEntries_eq, List.map_map]
    rfl
  rw [renderAt, hlines] at hbound
  have hparts : ∀ p ∈ parts, Reads (readEntry (readValue bound)) p.1 p.2 := by
    intro p hp
    have hle : p.1.length + 2 ≤ (bracketed level '\x7b' '\x7d' (parts.map Prod.fst)).length :=
      length_part_le (List.mem_map_of_mem hp)
    obtain ⟨entry, hentry, rfl⟩ := List.mem_map.mp hp
    simp only [renderEntry, List.length_append] at hle
    exact reads_renderEntry (h entry hentry (by omega))
  obtain ⟨inner, htext, hread⟩ := readBracketed_bracketed (by decide) (by decide)
    (Or.inr rfl) hparts hbound after
  rw [renderAt, hlines, List.append_assoc, htext, readValue, dropWhile_blanks hblanks (by decide)]
  simp only [show ('\x7b' : Char) ≠ '"' by decide, show ('\x7b' : Char) ≠ '[' by decide,
    if_false, if_true]
  rw [hread]
  simp [parts, Function.comp_def]

end Values

/-- **Documents are read as they were**, at every level and with every bound that their length
is within. -/
theorem reads_renderAt {j : Json} (h : j.IsSound) (level bound : Nat)
    (hbound : (j.renderAt level).length ≤ bound) :
    Reads (readValue bound) (j.renderAt level) j := by
  refine ⟨begins_renderAt h level, ?_⟩
  intro blanks after hblanks hends
  obtain ⟨bound, rfl⟩ := exists_bound h hbound
  induction h generalizing level bound blanks after with
  | word hne hw => exact readValue_word hblanks hne hw hends bound
  | text s => exact readValue_text hblanks s bound
  | @array items hsound ih =>
    apply readValue_array hblanks hbound
    intro item hitem hle
    refine ⟨begins_renderAt (hsound item hitem) _, ?_⟩
    intro blanks after hblanks hends
    obtain ⟨bound, rfl⟩ := exists_bound (hsound item hitem) hle
    exact ih item hitem _ _ _ hblanks hends bound hle
  | @object entries hsound ih =>
    apply readValue_object hblanks hbound
    intro entry hentry hle
    refine ⟨begins_renderAt (hsound entry hentry) _, ?_⟩
    intro blanks after hblanks hends
    obtain ⟨bound, rfl⟩ := exists_bound (hsound entry hentry) hle
    exact ih entry hentry _ _ _ hblanks hends bound hle

/-- **A printed document is read as itself.** -/
theorem read?_render {j : Json} (h : j.IsSound) : read? j.render = some j := by
  have hread := (reads_renderAt h 0 j.render.length (Nat.le_refl _)).reads [] [] (by simp)
    (by intro c hc; cases hc)
  rw [List.nil_append, List.append_nil] at hread
  have hvalue : readValue j.render.length j.render = some (j, []) := hread
  rw [read?, hvalue]
  rfl

/-! ### Printed documents are ASCII -/

theorem toNat_hexDigit_lt (n : Nat) : (Text.hexDigit (n % 16)).toNat < 0x80 := by
  have key : ∀ m : Fin 16, (Text.hexDigit m.val).toNat < 0x80 := by decide
  exact key ⟨n % 16, by omega⟩

theorem isAscii_toHex {width n : Nat} : ∀ c ∈ Text.toHex width n, c.toNat < 0x80 := by
  induction width generalizing n with
  | zero =>
    intro c hc
    exact absurd hc List.not_mem_nil
  | succ width ih =>
    intro c hc
    rw [Text.toHex] at hc
    rcases List.mem_append.mp hc with hc | hc
    · exact ih c hc
    · rw [List.mem_singleton.mp hc]
      exact toNat_hexDigit_lt n

theorem isAscii_unitEscape {unit : Nat} : ∀ c ∈ unitEscape unit, c.toNat < 0x80 := by
  intro c hc
  rcases List.mem_cons.mp hc with rfl | hc
  · decide
  · rcases List.mem_cons.mp hc with rfl | hc
    · decide
    · exact isAscii_toHex c hc

theorem isAscii_escapeChar (d : Char) : ∀ c ∈ escapeChar d, c.toNat < 0x80 := by
  have hescape := isEscape_escapeChar d
  generalize escapeChar d = text at hescape
  intro c hc
  cases hescape with
  | short _ _ hascii =>
    rcases List.mem_cons.mp hc with rfl | hc
    · decide
    · rw [List.mem_singleton.mp hc]
      exact hascii
  | plain _ _ _ hhigh =>
    rw [List.mem_singleton.mp hc]
    omega
  | unit => exact isAscii_unitEscape c hc
  | pair =>
    rcases List.mem_append.mp hc with hc | hc
    · exact isAscii_unitEscape c hc
    · exact isAscii_unitEscape c hc

theorem isAscii_renderText (s : List Char) : ∀ c ∈ renderText s, c.toNat < 0x80 := by
  intro c hc
  rcases List.mem_cons.mp hc with rfl | hc
  · decide
  · rcases List.mem_append.mp hc with hc | hc
    · obtain ⟨d, -, hc⟩ := List.mem_flatMap.mp hc
      exact isAscii_escapeChar d c hc
    · rw [List.mem_singleton.mp hc]
      decide

theorem isAscii_newline {level : Nat} : ∀ c ∈ newline level, c.toNat < 0x80 := by
  intro c hc
  rcases List.mem_cons.mp hc with rfl | hc
  · decide
  · rw [List.eq_of_mem_replicate hc]
    decide

theorem isAscii_renderLines {level : Nat} {lines : List (List Char)}
    (h : ∀ line ∈ lines, ∀ c ∈ line, c.toNat < 0x80) :
    ∀ c ∈ renderLines level lines, c.toNat < 0x80 := by
  induction lines with
  | nil =>
    intro c hc
    exact absurd hc List.not_mem_nil
  | cons line rest ih =>
    have hline := h line List.mem_cons_self
    have hrest := ih fun other hother => h other (List.mem_cons_of_mem _ hother)
    intro c hc
    cases rest with
    | nil =>
      rcases List.mem_append.mp hc with hc | hc
      · exact isAscii_newline c hc
      · exact hline c hc
    | cons next rest =>
      rcases List.mem_append.mp hc with hc | hc
      · rcases List.mem_append.mp hc with hc | hc
        · exact isAscii_newline c hc
        · exact hline c hc
      · rcases List.mem_cons.mp hc with rfl | hc
        · decide
        · exact hrest c hc

theorem isAscii_bracketed {level : Nat} {opening closing : Char} {lines : List (List Char)}
    (hopening : opening.toNat < 0x80) (hclosing : closing.toNat < 0x80)
    (h : ∀ line ∈ lines, ∀ c ∈ line, c.toNat < 0x80) :
    ∀ c ∈ bracketed level opening closing lines, c.toNat < 0x80 := by
  intro c hc
  rw [bracketed] at hc
  split at hc
  · rcases List.mem_cons.mp hc with rfl | hc
    · exact hopening
    · rw [List.mem_singleton.mp hc]
      exact hclosing
  · rcases List.mem_append.mp hc with hc | hc
    · rcases List.mem_append.mp hc with hc | hc
      · rcases List.mem_cons.mp hc with rfl | hc
        · exact hopening
        · exact isAscii_renderLines h c hc
      · exact isAscii_newline c hc
    · rw [List.mem_singleton.mp hc]
      exact hclosing

theorem toNat_lt_of_isWordChar {c : Char} (h : isWordChar c = true) : c.toNat < 0x80 := by
  simp only [isWordChar, Unicode.isAsciiLetter, Unicode.isAsciiDigit, Bool.or_eq_true,
    Bool.and_eq_true, decide_eq_true_eq, List.contains_eq_mem, List.mem_cons, List.not_mem_nil,
    or_false] at h
  rcases h with (h | h) | rfl | rfl | rfl
  · omega
  · omega
  · decide
  · decide
  · decide

theorem isAscii_renderAt {j : Json} (h : j.IsSound) (level : Nat) :
    ∀ c ∈ j.renderAt level, c.toNat < 0x80 := by
  induction h generalizing level with
  | word hne hw =>
    intro c hc
    exact toNat_lt_of_isWordChar (hw c hc)
  | text s => exact isAscii_renderText s
  | @array items _ ih =>
    rw [renderAt, renderItems_eq]
    apply isAscii_bracketed (by decide) (by decide)
    intro line hline
    obtain ⟨item, hitem, rfl⟩ := List.mem_map.mp hline
    exact ih item hitem _
  | @object entries _ ih =>
    rw [renderAt, renderEntries_eq]
    apply isAscii_bracketed (by decide) (by decide)
    intro line hline
    obtain ⟨entry, hentry, rfl⟩ := List.mem_map.mp hline
    intro c hc
    rcases List.mem_append.mp hc with hc | hc
    · rcases List.mem_append.mp hc with hc | hc
      · exact isAscii_renderText _ c hc
      · rcases List.mem_cons.mp hc with rfl | hc
        · decide
        · rw [List.mem_singleton.mp hc]
          decide
    · exact ih entry hentry _ c hc

/-- A printed document consists of ASCII characters. -/
theorem isAscii_render {j : Json} (h : j.IsSound) : ∀ c ∈ j.render, c.toNat < 0x80 :=
  isAscii_renderAt h 0

end RouteMatch.Json
