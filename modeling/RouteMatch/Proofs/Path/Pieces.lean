import RouteMatch.Proofs.Template.Walk

/-!
# Paths as pieces

A path that begins with a slash is a list of pieces with a slash before each.  The
pieces themselves hold no slash, so the path can be cut back into them, and the
segments that a walk takes are its first pieces.

## Main definitions

* `slashed` — the path of some pieces.
* `longestRun` — the first pieces, as long as they are not empty.

## Main results

* `split_slash_eq_cons` — the pieces of a path.
* `takeSegments_slashed` — the segments that an optional group takes.
-/

namespace RouteMatch.Template

open Text

/-- Pieces with a slash before each. -/
def slashed (pieces : List (List Char)) : List Char :=
  pieces.flatMap ('/' :: ·)

@[simp] theorem slashed_nil : slashed [] = [] := rfl

@[simp] theorem slashed_cons (piece : List Char) (pieces : List (List Char)) :
    slashed (piece :: pieces) = '/' :: (piece ++ slashed pieces) := rfl

theorem slashed_subset {rest pieces : List (List Char)} (h : rest ⊆ pieces) :
    slashed rest ⊆ slashed pieces := by
  intro c hc
  obtain ⟨piece, hpiece, hc⟩ := List.mem_flatMap.mp hc
  exact List.mem_flatMap.mpr ⟨piece, h hpiece, hc⟩

theorem join_cons (piece : List Char) (pieces : List (List Char)) :
    join '/' (piece :: pieces) = piece ++ slashed pieces := by
  induction pieces generalizing piece with
  | nil => simp [join]
  | cons next pieces ih => rw [join, ih, slashed_cons]; exact List.cons_ne_nil next pieces

@[simp] theorem heading_slashed (pieces : List (List Char)) : heading (slashed pieces) = [] := by
  cases pieces <;> rfl

theorem heading_append_slashed {piece : List Char} (h : '/' ∉ piece)
    (pieces : List (List Char)) : heading (piece ++ slashed pieces) = piece := by
  rw [heading_append h, heading_slashed, List.append_nil]

/-- A text cut at its slashes begins with a slash if the first piece is empty. -/
theorem split_slash_eq_cons {text head : List Char} {pieces : List (List Char)}
    (h : split '/' text = head :: pieces) :
    text = head ++ slashed pieces ∧ ∀ piece ∈ head :: pieces, '/' ∉ piece := by
  constructor
  · rw [← join_cons, ← h, join_split]
  · intro piece hpiece
    exact notMem_of_mem_split (h ▸ hpiece)

/-- The longest run of pieces that are not empty, up to a number of them. -/
def longestRun (most : Nat) (pieces : List (List Char)) : List (List Char) :=
  (pieces.take most).takeWhile (· ≠ [])

theorem takeSegments_slashed (most : Nat) {pieces : List (List Char)}
    (hpieces : ∀ piece ∈ pieces, '/' ∉ piece) :
    takeSegments most (slashed pieces)
      = (longestRun most pieces, slashed (pieces.drop (longestRun most pieces).length)) := by
  induction most generalizing pieces with
  | zero => simp [takeSegments, longestRun]
  | succ most ih =>
    cases pieces with
    | nil => simp [takeSegments, longestRun, nextSegment?]
    | cons piece pieces =>
      have hpiece := hpieces piece List.mem_cons_self
      have ih := ih fun p hp => hpieces p (List.mem_cons_of_mem _ hp)
      rw [takeSegments, slashed_cons, nextSegment?, heading_append_slashed hpiece]
      by_cases hnil : piece = []
      · simp [hnil, longestRun]
      · simp [hnil, longestRun, ih]

theorem length_longestRun (most : Nat) (pieces : List (List Char)) :
    (longestRun most pieces).length ≤ most :=
  calc (longestRun most pieces).length
    _ ≤ (pieces.take most).length := (List.takeWhile_prefix _).length_le
    _ ≤ most := List.length_take_le most pieces

end RouteMatch.Template
