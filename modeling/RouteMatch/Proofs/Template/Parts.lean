import RouteMatch.Template

/-!
# The parts of a template

A template is read as a list of parts: a character that is copied, a token, or an
optional group with the names it lists.  A part is a piece whose braces have been
understood, so `parts` only looks into the pieces of a text.  On well-formed parts
reading undoes writing; this is what lets a text that was put together from parts
be cut again without the cuts ever falling elsewhere.

## Main definitions

* `Part`, `written` — the parts and the text they are written as.
* `Part.isWellFormed` — no stray braces, and names where names belong.
* `parts` — the parts of a text.
* `Closed` — every brace of a text belongs to a placeholder.

## Main results

* `pieces_written`, `parts_written` — cutting the text of well-formed parts.
* `written_parts` — the parts of a text, written, are the text.
* `isWellFormed_of_mem_parts` — the parts of a valid closed text are well formed.
-/

namespace RouteMatch.Template

open Text

/-! ### Parts -/

/-- A part of a template. -/
inductive Part
  /-- A character that stands for itself in the pattern text. -/
  | char (c : Char)
  | token (name : List Char)
  /-- An optional group with the names it lists. -/
  | group (names : List (List Char))
  deriving DecidableEq, Repr

namespace Part

/-- The piece of text that a part is. -/
def piece : Part → Piece
  | .char c => .char c
  | .token name => .braces name
  | .group names => .braces ('/' :: join ',' names)

/-- A part that a valid template without stray braces can have. -/
def isWellFormed : Part → Bool
  | .char c => c != '{' && c != '}'
  | .token name => isName name
  | .group names => !names.isEmpty && names.all isName

/-- A part that a valid template can have: a character, a brace even, or a well-formed
placeholder. -/
def IsSound : Part → Prop
  | .char _ => True
  | p => p.isWellFormed = true

theorem isSound_of_isWellFormed {p : Part} (h : p.isWellFormed = true) : p.IsSound := by
  cases p with
  | char c => trivial
  | token name => exact h
  | group names => exact h

/-- Whether a part is an optional group. -/
def isGroup : Part → Bool
  | .group _ => true
  | _ => false

/-- The names that a part holds, in order. -/
def names : Part → List (List Char)
  | .char _ => []
  | .token name => [name]
  | .group names => names

end Part

/-- The text of a template with the given parts. -/
def written (ps : List Part) : List Char :=
  render (ps.map Part.piece)

@[simp] theorem written_nil : written [] = [] := rfl

@[simp] theorem written_cons (p : Part) (ps : List Part) :
    written (p :: ps) = p.piece.render ++ written ps := rfl

@[simp] theorem written_append (ps qs : List Part) :
    written (ps ++ qs) = written ps ++ written qs := by
  simp [written]

/-- The part that a piece is. -/
def Piece.part : Piece → Part
  | .char c => .char c
  | .braces inner =>
    match Placeholder.ofInner inner with
    | .optional names => .group names
    | .token name => .token name

/-- The parts of a text. -/
def parts (text : List Char) : List Part :=
  (pieces text).map Piece.part

/-- Every brace of a text belongs to a placeholder. -/
def Closed (text : List Char) : Prop :=
  ∀ c, Piece.char c ∈ pieces text → c ≠ '{' ∧ c ≠ '}'

instance (text : List Char) : Decidable (Closed text) :=
  decidable_of_iff (∀ p ∈ pieces text, p ≠ Piece.char '{' ∧ p ≠ Piece.char '}') <| by
    constructor
    · intro h c hc
      exact ⟨fun h' => (h _ hc).1 (by rw [h']), fun h' => (h _ hc).2 (by rw [h'])⟩
    · intro h p hp
      exact ⟨fun h' => (h _ (h' ▸ hp)).1 rfl, fun h' => (h _ (h' ▸ hp)).2 rfl⟩

/-! ### Names hold no marks -/

/-- A name is not empty and consists of word characters. -/
theorem isName_iff {name : List Char} :
    isName name = true ↔
      ∃ c rest, name = c :: rest ∧ Unicode.isAsciiLetter c.toNat = true ∧
        ∀ d ∈ rest, Unicode.isAsciiWord d.toNat = true := by
  cases name with
  | nil => simp [isName]
  | cons c rest =>
    rw [isName, Bool.and_eq_true, List.all_eq_true]
    constructor
    · rintro ⟨hc, hrest⟩
      exact ⟨c, rest, rfl, hc, hrest⟩
    · rintro ⟨d, rest', h, hd, hrest⟩
      obtain ⟨rfl, rfl⟩ := List.cons.inj h
      exact ⟨hd, hrest⟩

theorem isAsciiWord_of_isAsciiLetter {n : Nat} (h : Unicode.isAsciiLetter n = true) :
    Unicode.isAsciiWord n = true := by
  simp [Unicode.isAsciiWord, h]

theorem ne_slash_of_isAsciiLetter {c : Char} (h : Unicode.isAsciiLetter c.toNat = true) :
    c ≠ '/' := by
  rintro rfl
  exact absurd h (by decide)

theorem isAsciiWord_of_mem_name {name : List Char} (h : isName name = true) {c : Char}
    (hc : c ∈ name) : Unicode.isAsciiWord c.toNat = true := by
  obtain ⟨d, rest, rfl, hd, hrest⟩ := isName_iff.mp h
  rcases List.mem_cons.mp hc with rfl | hc
  · exact isAsciiWord_of_isAsciiLetter hd
  · exact hrest c hc

/-- A character that is no word character occurs in no name. -/
theorem notMem_name {name : List Char} (h : isName name = true) {c : Char}
    (hc : Unicode.isAsciiWord c.toNat = false) : c ∉ name := by
  intro hmem
  rw [isAsciiWord_of_mem_name h hmem] at hc
  exact absurd hc (by decide)

theorem name_ne_nil {name : List Char} (h : isName name = true) : name ≠ [] := by
  obtain ⟨c, rest, rfl, -, -⟩ := isName_iff.mp h
  exact List.cons_ne_nil c rest

/-- A list of names is read back from its text. -/
theorem split_join_of_isWellFormed {names : List (List Char)}
    (h : (Part.group names).isWellFormed = true) : split ',' (join ',' names) = names := by
  simp only [Part.isWellFormed, Bool.and_eq_true, Bool.not_eq_true', List.isEmpty_eq_false_iff,
    List.all_eq_true] at h
  exact split_join h.1 fun name hname => notMem_name (h.2 name hname) (by decide)

/-- A list of names is not empty, since it begins with a name. -/
theorem join_ne_nil_of_isWellFormed {names : List (List Char)}
    (h : (Part.group names).isWellFormed = true) : join ',' names ≠ [] := by
  simp only [Part.isWellFormed, Bool.and_eq_true, Bool.not_eq_true', List.isEmpty_eq_false_iff,
    List.all_eq_true] at h
  intro hjoin
  rcases join_eq_nil_iff.mp hjoin with rfl | rfl
  · exact h.1 rfl
  · exact absurd (h.2 [] (List.mem_singleton_self [])) (by decide)

/-! ### Cutting the text of parts -/

/-- A piece that the text of several pieces is cut into again. -/
def Piece.IsClosed : Piece → Prop
  | .char c => c ≠ '{' ∧ c ≠ '}'
  | .braces inner => '{' ∉ inner ∧ '}' ∉ inner

theorem piecesFrom_some_append {inner : List Char} (h₁ : '{' ∉ inner) (h₂ : '}' ∉ inner)
    (read rest : List Char) :
    piecesFrom (some read) (inner ++ '}' :: rest)
      = .braces (read.reverse ++ inner) :: piecesFrom none rest := by
  induction inner generalizing read with
  | nil => simp [piecesFrom]
  | cons c inner ih =>
    rw [List.mem_cons, not_or] at h₁ h₂
    rw [List.cons_append, piecesFrom, if_neg (Ne.symm h₁.1), if_neg (Ne.symm h₂.1),
      ih h₁.2 h₂.2]
    simp

/-- Closed braces are a piece wherever they stand, and cut the text in two. -/
theorem piecesFrom_append_braces {inner : List Char} (h₁ : '{' ∉ inner) (h₂ : '}' ∉ inner)
    (opened : Option (List Char)) (front back : List Char) :
    piecesFrom opened (front ++ '{' :: (inner ++ '}' :: back))
      = piecesFrom opened front ++ .braces inner :: pieces back := by
  have hbraces : piecesFrom (some []) (inner ++ '}' :: back) = .braces inner :: pieces back :=
    piecesFrom_some_append h₁ h₂ [] back
  induction front generalizing opened with
  | nil => cases opened <;> simp [piecesFrom, hbraces]
  | cons c front ih =>
    rw [List.cons_append]
    cases opened with
    | none =>
      by_cases hopen : c = '{'
      · simp only [piecesFrom, if_pos hopen, ih]
      · simp only [piecesFrom, if_neg hopen, ih, List.cons_append]
    | some read =>
      by_cases hopen : c = '{'
      · simp only [piecesFrom, if_pos hopen, ih, List.append_assoc]
      · by_cases hclose : c = '}'
        · simp only [piecesFrom, if_neg hopen, if_pos hclose, ih, List.cons_append]
        · simp only [piecesFrom, if_neg hopen, if_neg hclose, ih]

theorem pieces_render {ps : List Piece} (h : ∀ p ∈ ps, p.IsClosed) : pieces (render ps) = ps := by
  induction ps with
  | nil => rfl
  | cons p ps ih =>
    have hp := h p List.mem_cons_self
    have ih := ih fun q hq => h q (List.mem_cons_of_mem _ hq)
    rw [pieces] at ih ⊢
    cases p with
    | char c => rw [render_cons, Piece.render, List.singleton_append, piecesFrom, if_neg hp.1, ih]
    | braces inner =>
      rw [render_cons, Piece.render, List.append_assoc, List.cons_append, piecesFrom, if_pos rfl,
        List.singleton_append, piecesFrom_some_append hp.1 hp.2, ih]
      rfl

theorem isClosed_piece {p : Part} (h : p.isWellFormed = true) : p.piece.IsClosed := by
  cases p with
  | char c => simpa [Part.isWellFormed, Part.piece, Piece.IsClosed] using h
  | token name => exact ⟨notMem_name h (by decide), notMem_name h (by decide)⟩
  | group names =>
    simp only [Part.isWellFormed, Bool.and_eq_true, List.all_eq_true] at h
    -- A brace is neither the slash, nor the comma, nor a character of a name.
    have key : ∀ c : Char, c ≠ '/' → c ≠ ',' → Unicode.isAsciiWord c.toNat = false →
        c ∉ '/' :: join ',' names := by
      intro c h₁ h₂ h₃ hc
      rcases List.mem_cons.mp hc with hc | hc
      · exact h₁ hc
      · rcases mem_join hc with hc | ⟨name, hname, hc⟩
        · exact h₂ hc
        · exact notMem_name (h.2 name hname) h₃ hc
    exact ⟨key _ (by decide) (by decide) (by decide), key _ (by decide) (by decide) (by decide)⟩

/-- The pieces of the text of well-formed parts are the pieces that the parts
are. -/
theorem pieces_written {ps : List Part} (h : ∀ p ∈ ps, p.isWellFormed = true) :
    pieces (written ps) = ps.map Part.piece := by
  rw [written, pieces_render]
  intro q hq
  obtain ⟨p, hp, rfl⟩ := List.mem_map.mp hq
  exact isClosed_piece (h p hp)

theorem part_piece {p : Part} (h : p.isWellFormed = true) : p.piece.part = p := by
  cases p with
  | char c => rfl
  | token name =>
    obtain ⟨c, rest, rfl, hc, -⟩ := isName_iff.mp h
    have hslash : c ≠ '/' := ne_slash_of_isAsciiLetter hc
    simp [Part.piece, Piece.part, Placeholder.ofInner, hslash]
  | group names =>
    have hsplit := split_join_of_isWellFormed h
    simp [Part.piece, Piece.part, Placeholder.ofInner, hsplit]

/-- Reading undoes writing. -/
theorem parts_written {ps : List Part} (h : ∀ p ∈ ps, p.isWellFormed = true) :
    parts (written ps) = ps := by
  rw [parts, pieces_written h, List.map_map]
  exact (List.map_congr_left fun p hp => part_piece (h p hp)).trans (List.map_id ps)

/-! ### The parts of a text -/

/-- A placeholder is an optional group exactly if its text begins with a slash. -/
theorem ofInner_eq (inner : List Char) :
    (∃ list, inner = '/' :: list ∧ Placeholder.ofInner inner = .optional (split ',' list)) ∨
      Placeholder.ofInner inner = .token inner := by
  unfold Placeholder.ofInner
  split
  · next list => exact Or.inl ⟨list, rfl, rfl⟩
  · exact Or.inr rfl

@[simp] theorem piece_part (p : Piece) : p.part.piece = p := by
  cases p with
  | char c => rfl
  | braces inner =>
    rw [Piece.part]
    rcases ofInner_eq inner with ⟨list, rfl, h⟩ | h
    · simp only [h, Part.piece, join_split]
    · simp only [h, Part.piece]

theorem map_piece_parts (text : List Char) : (parts text).map Part.piece = pieces text := by
  rw [parts, List.map_map]
  exact (List.map_congr_left fun p _ => piece_part p).trans (List.map_id _)

/-- Writing undoes reading. -/
@[simp] theorem written_parts (text : List Char) : written (parts text) = text := by
  rw [written, map_piece_parts, render_pieces]

theorem placeholderFault?_eq_none_iff {inner : List Char} :
    placeholderFault? inner = none ↔ (Piece.braces inner).part.isWellFormed = true := by
  rw [placeholderFault?, Piece.part]
  rcases ofInner_eq inner with ⟨list, -, h⟩ | h
  · have hne : (split ',' list).isEmpty = false :=
      List.isEmpty_eq_false_iff.mpr (split_ne_nil ',' _)
    simp [h, Part.isWellFormed, hne]
  · simp [h, Part.isWellFormed]

/-- What validation says of a text. -/
theorem validate_eq_ok_iff {text : List Char} :
    validate text = .ok () ↔
      (∀ inner ∈ placeholders text, (Piece.braces inner).part.isWellFormed = true) ∧
        (placeholders text).countP isOptional ≤ 1 := by
  have hfind : (placeholders text).findSome? placeholderFault? = none ↔
      ∀ inner ∈ placeholders text, (Piece.braces inner).part.isWellFormed = true := by
    simp [List.findSome?_eq_none_iff, placeholderFault?_eq_none_iff]
  unfold validate
  cases h : (placeholders text).findSome? placeholderFault? with
  | some fault =>
    -- A faulty placeholder is no well-formed part.
    simp only [reduceCtorEq, false_iff, not_and]
    intro h'
    rw [hfind.mpr h'] at h
    exact absurd h (by simp)
  | none =>
    have hall := hfind.mp h
    by_cases hcount : (placeholders text).countP isOptional ≤ 1
    · simpa [hcount] using hall
    · simp [hcount]

theorem mem_placeholders {text inner : List Char} :
    inner ∈ placeholders text ↔ Piece.braces inner ∈ pieces text := by
  unfold placeholders
  rw [List.mem_filterMap]
  constructor
  · rintro ⟨p, hp, h⟩
    cases p with
    | char c => exact absurd h (by simp)
    | braces inner' =>
      simp only [Option.some.injEq] at h
      exact h ▸ hp
  · exact fun h => ⟨_, h, rfl⟩

/-- The parts of a valid text are sound. -/
theorem isSound_of_mem_parts {text : List Char} (hvalid : validate text = .ok ()) :
    ∀ p ∈ parts text, p.IsSound := by
  intro p hp
  obtain ⟨q, hq, rfl⟩ := List.mem_map.mp hp
  cases q with
  | char c => trivial
  | braces inner =>
    exact Part.isSound_of_isWellFormed
      ((validate_eq_ok_iff.mp hvalid).1 inner (mem_placeholders.mpr hq))

/-- The parts of a valid text without stray braces are well formed. -/
theorem isWellFormed_of_mem_parts {text : List Char} (hvalid : validate text = .ok ())
    (hclosed : Closed text) : ∀ p ∈ parts text, p.isWellFormed = true := by
  intro p hp
  obtain ⟨q, hq, rfl⟩ := List.mem_map.mp hp
  cases q with
  | char c => simpa [Piece.part, Part.isWellFormed] using hclosed c hq
  | braces inner => exact (validate_eq_ok_iff.mp hvalid).1 inner (mem_placeholders.mpr hq)

theorem countP_isGroup_parts (text : List Char) :
    (parts text).countP Part.isGroup = (placeholders text).countP isOptional := by
  unfold parts placeholders
  induction pieces text with
  | nil => rfl
  | cons p ps ih =>
    cases p with
    | char c => simpa [Piece.part, Part.isGroup] using ih
    | braces inner =>
      have hgroup : (Piece.braces inner).part.isGroup = isOptional inner := by
        rw [Piece.part, isOptional]
        cases Placeholder.ofInner inner <;> rfl
      rw [List.map_cons, List.countP_cons, ih, hgroup]
      simp [List.countP_cons]

/-- A valid text has at most one optional group. -/
theorem countP_isGroup_le_one {text : List Char} (hvalid : validate text = .ok ()) :
    (parts text).countP Part.isGroup ≤ 1 := by
  rw [countP_isGroup_parts]
  exact (validate_eq_ok_iff.mp hvalid).2

end RouteMatch.Template
