import Mathlib.Data.List.Infix
import RouteMatch.Template

/-!
# Where placeholders stand

A placeholder begins at an opening brace if the next brace after it is a closing one, and
holds the text between the two.  The placeholders of a text are found by trying this at
every place, from left to right; that the text is cut into pieces on the way, and that an
opening brace is given up when another one comes, makes no difference.

## Main definitions

* `upToClosing?` — the text before the next brace, if that closes.
* `placeholderAt?` — the placeholder at the front of a text.

## Main results

* `placeholderAt?_eq_some_iff` — what a placeholder at the front says of a text.
* `placeholders_eq` — **the placeholders of a text are those of its places, in order.**
-/

namespace RouteMatch.Template

/-- The text before the next brace, if that is a closing one. -/
def upToClosing? : List Char → Option (List Char)
  | [] => none
  | c :: rest =>
    if c = '{' then none
    else if c = '}' then some []
    else (upToClosing? rest).map (c :: ·)

/-- The placeholder at the front of a text: what stands between an opening brace and a
closing one that comes next. -/
def placeholderAt? : List Char → Option (List Char)
  | [] => none
  | c :: rest => if c = '{' then upToClosing? rest else none

theorem upToClosing?_opening (rest : List Char) : upToClosing? ('{' :: rest) = none := by
  rw [upToClosing?, if_pos rfl]

theorem upToClosing?_closing (rest : List Char) : upToClosing? ('}' :: rest) = some [] := by
  rw [upToClosing?, if_neg (by decide), if_pos rfl]

theorem upToClosing?_char {c : Char} (h₁ : c ≠ '{') (h₂ : c ≠ '}') (rest : List Char) :
    upToClosing? (c :: rest) = (upToClosing? rest).map (c :: ·) := by
  rw [upToClosing?, if_neg h₁, if_neg h₂]

theorem placeholderAt?_opening (rest : List Char) :
    placeholderAt? ('{' :: rest) = upToClosing? rest := by
  rw [placeholderAt?, if_pos rfl]

theorem placeholderAt?_of_ne {c : Char} (h : c ≠ '{') (rest : List Char) :
    placeholderAt? (c :: rest) = none := by
  rw [placeholderAt?, if_neg h]

/-! ### A placeholder at the front -/

/-- A text without braces stands before the closing brace after it. -/
theorem upToClosing?_append {inner : List Char} (h₁ : '{' ∉ inner) (h₂ : '}' ∉ inner)
    (rest : List Char) : upToClosing? (inner ++ '}' :: rest) = some inner := by
  induction inner with
  | nil => exact upToClosing?_closing rest
  | cons c inner ih =>
    rw [List.mem_cons, not_or] at h₁ h₂
    rw [List.cons_append, upToClosing?_char (Ne.symm h₁.1) (Ne.symm h₂.1), ih h₁.2 h₂.2,
      Option.map_some]

/-- What stands before a closing brace has no braces. -/
theorem eq_append_of_upToClosing? {text inner : List Char} (h : upToClosing? text = some inner) :
    ('{' ∉ inner ∧ '}' ∉ inner) ∧ ∃ rest, text = inner ++ '}' :: rest := by
  induction text generalizing inner with
  | nil => exact absurd h (by simp [upToClosing?])
  | cons c text ih =>
    by_cases hopen : c = '{'
    · rw [hopen, upToClosing?_opening] at h
      exact absurd h (by simp)
    · by_cases hclose : c = '}'
      · rw [hclose, upToClosing?_closing] at h
        obtain rfl := Option.some.inj h
        exact ⟨⟨List.not_mem_nil, List.not_mem_nil⟩, text, by rw [hclose, List.nil_append]⟩
      · rw [upToClosing?_char hopen hclose] at h
        obtain ⟨inner', hinner, rfl⟩ := Option.map_eq_some_iff.mp h
        obtain ⟨⟨h₁, h₂⟩, rest, rfl⟩ := ih hinner
        rw [List.mem_cons, not_or, List.mem_cons, not_or]
        exact ⟨⟨⟨Ne.symm hopen, h₁⟩, Ne.symm hclose, h₂⟩, rest, rfl⟩

/-- A placeholder at the front is a pair of braces with a text without braces between
them. -/
theorem placeholderAt?_eq_some_iff {text inner : List Char} :
    placeholderAt? text = some inner
      ↔ ('{' ∉ inner ∧ '}' ∉ inner) ∧ (Piece.braces inner).render <+: text := by
  constructor
  · intro h
    cases text with
    | nil => exact absurd h (by simp [placeholderAt?])
    | cons c text =>
      by_cases hopen : c = '{'
      · rw [hopen, placeholderAt?_opening] at h
        obtain ⟨hinner, rest, rfl⟩ := eq_append_of_upToClosing? h
        exact ⟨hinner, rest, by simp [Piece.render, hopen]⟩
      · rw [placeholderAt?_of_ne hopen] at h
        exact absurd h (by simp)
  · rintro ⟨⟨h₁, h₂⟩, rest, rfl⟩
    have htext : (Piece.braces inner).render ++ rest = '{' :: (inner ++ '}' :: rest) := by
      simp [Piece.render]
    rw [htext, placeholderAt?_opening, upToClosing?_append h₁ h₂]

/-! ### The placeholders of a text -/

/-- The text between the braces of a piece, if it has any. -/
def Piece.inner? : Piece → Option (List Char)
  | .char _ => none
  | .braces inner => some inner

theorem filterMap_inner?_unclosed (opened : List Char) :
    (unclosed opened).filterMap Piece.inner? = [] := by
  simp [unclosed, Piece.inner?]

/-- The placeholders at the places of a text begin with the one at its front. -/
theorem filterMap_tails_cons (c : Char) (rest : List Char) :
    (c :: rest).tails.filterMap placeholderAt?
      = (placeholderAt? (c :: rest)).toList ++ rest.tails.filterMap placeholderAt? := by
  rw [List.tails_cons, List.filterMap_cons]
  cases placeholderAt? (c :: rest) <;> rfl

/-- The placeholders of a text are those of its places.  If a brace is open, the text up to
the next brace makes one more, in case this brace closes. -/
theorem filterMap_piecesFrom (text : List Char) :
    (piecesFrom none text).filterMap Piece.inner? = text.tails.filterMap placeholderAt? ∧
      ∀ opened, (piecesFrom (some opened) text).filterMap Piece.inner?
        = ((upToClosing? text).map (opened.reverse ++ ·)).toList
          ++ text.tails.filterMap placeholderAt? := by
  induction text with
  | nil =>
    refine ⟨rfl, fun opened => ?_⟩
    rw [piecesFrom, filterMap_inner?_unclosed]
    rfl
  | cons c rest ih =>
    obtain ⟨ihnone, ihsome⟩ := ih
    rw [filterMap_tails_cons]
    by_cases hopen : c = '{'
    · -- The brace opens, and one that was open before is given up.
      subst hopen
      have hopened : (piecesFrom (some []) rest).filterMap Piece.inner?
          = (placeholderAt? ('{' :: rest)).toList ++ rest.tails.filterMap placeholderAt? := by
        rw [ihsome, placeholderAt?_opening]
        simp
      refine ⟨by rw [piecesFrom, if_pos rfl, hopened], fun opened => ?_⟩
      rw [piecesFrom, if_pos rfl, List.filterMap_append, filterMap_inner?_unclosed, hopened,
        upToClosing?_opening]
      rfl
    · rw [placeholderAt?_of_ne hopen]
      have hnone : (piecesFrom none (c :: rest)).filterMap Piece.inner?
          = rest.tails.filterMap placeholderAt? := by
        rw [piecesFrom, if_neg hopen, List.filterMap_cons, ← ihnone]
        rfl
      refine ⟨hnone, fun opened => ?_⟩
      rw [piecesFrom, if_neg hopen]
      by_cases hclose : c = '}'
      · rw [if_pos hclose, List.filterMap_cons, ihnone, hclose, upToClosing?_closing]
        simp [Piece.inner?]
      · rw [if_neg hclose, ihsome, upToClosing?_char hopen hclose, Option.map_map]
        simp [Function.comp_def]

/-- **The placeholders of a text are those of its places, in order.** -/
theorem placeholders_eq (text : List Char) :
    placeholders text = text.tails.filterMap placeholderAt? :=
  (filterMap_piecesFrom text).1

end RouteMatch.Template
