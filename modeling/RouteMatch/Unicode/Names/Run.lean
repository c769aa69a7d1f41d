import RouteMatch.Text.Hexadecimal
import RouteMatch.Text.Split

/-!
# Runs of names

The names of characters are tabulated in runs, a run being the names of consecutive code points.
Since neighbours have much in common, the first words of a name are left out if the name before it
begins with them too; a digit in front of the other words says how many these are.  Names in one
line have commas between them.

## Main definitions

* `NameRun` — the names of consecutive code points.
* `NameRun.codePoint?` — the code point of a run with a name.
-/

namespace RouteMatch.Unicode

open Text (hexValue? split)

/-- The names of consecutive code points. -/
structure NameRun where
  /-- The first of the code points. -/
  first : Nat
  /-- The lines with the names, each without the words that it shares with the one before it. -/
  names : List String

namespace NameRun

/-- The words of a name, given those of the name before it. -/
def words (previous : List (List Char)) : List Char → List (List Char)
  | [] => previous
  | shared :: rest => previous.take ((hexValue? shared).getD 0) ++ split ' ' rest

/-- The place of a name among names that are written in this way. -/
def place? (name : List (List Char)) :
    (previous : List (List Char)) → List (List Char) → Option Nat
  | _, [] => none
  | previous, entry :: rest =>
    if words previous entry = name then some 0
    else (place? name (words previous entry) rest).map (· + 1)

/-- The code point of a run that has the name of some words. -/
def codePoint? (name : List (List Char)) (run : NameRun) : Option Nat :=
  (place? name [] (run.names.flatMap fun line => split ',' line.toList)).map (run.first + ·)

/-- The second name of a run, of which the words in common with the first one are left out. -/
example : codePoint? ["DIGIT".toList, "ONE".toList] ⟨0x30, ["0DIGIT ZERO,1ONE"]⟩ = some 0x31 := by
  decide +kernel

end NameRun

end RouteMatch.Unicode
