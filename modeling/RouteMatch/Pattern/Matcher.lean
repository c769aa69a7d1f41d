import RouteMatch.Pattern.Regex

/-!
# Matching by backtracking

A match is searched for in the order that the tree prescribes: the first branch
before the second, many repetitions before few or few before many.  `run` takes
what is to be matched after the tree as a function, asks it about one way to
match the tree after another, and gives its first answer.

## Main definitions

* `Cursor` — a place in a text.
* `Thread` — a place with the captures made on the way to it.
* `run` — the search.
* `fullMatch?`, `search?` — the first match of a whole text, and of a part of it
  that begins as early as possible.
-/

namespace RouteMatch.Pattern

/-! ### Places -/

/-- A place between two characters of a text. -/
structure Cursor where
  /-- The characters before the place, the nearest first. -/
  before : List Char
  /-- The characters after the place. -/
  after : List Char
  /-- The number of characters before the place. -/
  position : Nat
  deriving DecidableEq, Repr

namespace Cursor

/-- The place before a text. -/
def atStart (text : List Char) : Cursor := ⟨[], text, 0⟩

/-- The place after the next character, if that meets a condition. -/
def advance? (accepts : Char → Bool) (c : Cursor) : Option Cursor :=
  match c.after with
  | [] => none
  | d :: rest => if accepts d then some ⟨d :: c.before, rest, c.position + 1⟩ else none

/-- The place a number of characters back. -/
def back? : Nat → Cursor → Option Cursor
  | 0, c => some c
  | n + 1, c =>
    match c.before with
    | [] => none
    | d :: rest => back? n ⟨rest, d :: c.after, c.position - 1⟩

/-- The place after a text that stands here. -/
def skip? (fold : Fold) : List Char → Cursor → Option Cursor
  | [], c => some c
  | d :: rest, c =>
    match c.advance? fun e => fold.lower e.toNat == fold.lower d.toNat with
    | none => none
    | some c => skip? fold rest c

/-- This place and those after one, two, … characters that meet a condition,
the nearest first, as far as `most` characters ahead. -/
def reach (accepts : Char → Bool) (most : Option Nat) (c : Cursor) : List Cursor :=
  go c.before c.position most c.after
where
  /-- The places ahead of a place given by its parts. -/
  go (before : List Char) (position : Nat) (most : Option Nat) : List Char → List Cursor
    | [] => [⟨before, [], position⟩]
    | d :: rest =>
      ⟨before, d :: rest, position⟩ ::
        if accepts d && most != some 0 then
          go (d :: before) (position + 1) (most.map (· - 1)) rest
        else []

end Cursor

/-- Whether the characters on the two sides of a place differ in being word
characters. -/
def Cursor.atWordEdge (ascii : Bool) (c : Cursor) : Bool :=
  let isWord (d : Char) := Category.word.holds ascii d.toNat
  c.before.head?.any isWord != c.after.head?.any isWord

/-- Whether an anchor holds at a place.  No place in the empty text is an edge
of a word or inside one. -/
def Anchor.holds : Anchor → Cursor → Bool
  | .textStart, c => c.before.isEmpty
  | .textEnd, c => c.after.isEmpty
  | .lastLineEnd, c => c.after.isEmpty || c.after == ['\n']
  | .lineStart, c => c.before.isEmpty || c.before.head? == some '\n'
  | .lineEnd, c => c.after.isEmpty || c.after.head? == some '\n'
  | .wordEdge ascii, c => !(c.before.isEmpty && c.after.isEmpty) && c.atWordEdge ascii
  | .wordInside ascii, c => !(c.before.isEmpty && c.after.isEmpty) && !c.atWordEdge ascii

/-! ### Captures -/

/-- A place with the captures made on the way to it. -/
structure Thread where
  cursor : Cursor
  /-- Where groups began, the latest first. -/
  starts : List (Nat × Cursor)
  /-- Where groups ended, the latest first. -/
  stops : List (Nat × Cursor)
  deriving DecidableEq, Repr

namespace Thread

/-- Before a text, with no captures. -/
def atStart (text : List Char) : Thread := ⟨.atStart text, [], []⟩

/-- Notes the start of a group. -/
def openGroup (index : Nat) (t : Thread) : Thread :=
  { t with starts := (index, t.cursor) :: t.starts }

/-- Notes the end of a group. -/
def closeGroup (index : Nat) (t : Thread) : Thread :=
  { t with stops := (index, t.cursor) :: t.stops }

/-- The text that a group captured. -/
def captured? (t : Thread) (index : Nat) : Option (List Char) :=
  match t.starts.lookup index, t.stops.lookup index with
  | some start, some stop =>
    if start.position ≤ stop.position then
      some (start.after.take (stop.position - start.position))
    else none
  | _, _ => none

end Thread

/-! ### Repetition -/

/-- What is to be matched next. -/
abbrev Next := Thread → Option Thread

/-- A way to match something and then the rest. -/
abbrev Step := Thread → Next → Option Thread

/-- A number of repetitions. -/
def times (body : Step) : Nat → Step
  | 0, t, next => next t
  | n + 1, t, next => body t fun t => times body n t next

/-- At most a number of repetitions, as many as possible.  A repetition that
matches the empty text is the last one. -/
def upTo (body : Step) : Nat → Step
  | 0, t, next => next t
  | n + 1, t, next =>
    (body t fun u =>
      if u.cursor.position = t.cursor.position then next u else upTo body n u next).or (next t)

/-- At most a number of repetitions, as few as possible. -/
def upToLazily (body : Step) : Nat → Step
  | 0, t, next => next t
  | n + 1, t, next =>
    (next t).or (body t fun u =>
      if u.cursor.position = t.cursor.position then next u else upToLazily body n u next)

/-- A number of repetitions, each in the first way it can be matched. -/
def timesOnce (body : Step) : Nat → Thread → Option Thread
  | 0, t => some t
  | n + 1, t =>
    match body t some with
    | none => none
    | some u => timesOnce body n u

/-- As many repetitions as possible up to a number, each in the first way it can
be matched. -/
def upToOnce (body : Step) : Nat → Thread → Thread
  | 0, t => t
  | n + 1, t =>
    match body t some with
    | none => t
    | some u => if u.cursor.position = t.cursor.position then u else upToOnce body n u

/-- How many repetitions may follow the `least` ones.  Without a bound one more
than there are characters left will do, since all but the last take some. -/
def optionalCount (least : Nat) (most : Option Nat) (t : Thread) : Nat :=
  match most with
  | some m => m - least
  | none => t.cursor.after.length + 1

/-- From `least` to `most` repetitions. -/
def repeatStep (mode : Mode) (least : Nat) (most : Option Nat) (body : Step) : Step :=
  fun t next =>
    match mode with
    | .greedy => times body least t fun u => upTo body (optionalCount least most u) u next
    | .lazy => times body least t fun u => upToLazily body (optionalCount least most u) u next
    | .possessive =>
      match timesOnce body least t with
      | none => none
      | some u => next (upToOnce body (optionalCount least most u) u)

/-- From `least` to `most` characters that meet a condition. -/
def charsStep (mode : Mode) (least : Nat) (most : Option Nat) (accepts : Char → Bool) : Step :=
  fun t next =>
    let places := (t.cursor.reach accepts most).drop least
    match mode with
    | .greedy => places.reverse.findSome? fun c => next { t with cursor := c }
    | .lazy => places.findSome? fun c => next { t with cursor := c }
    | .possessive =>
      match places.getLast? with
      | none => none
      | some c => next { t with cursor := c }

/-! ### The search -/

/-- The first way to match a tree and then the rest. -/
def run : Regex → Step
  | .empty, t, next => next t
  | .fail, _, _ => none
  | .char test fold, t, next =>
    match t.cursor.advance? (test.accepts fold) with
    | none => none
    | some c => next { t with cursor := c }
  | .anchor a, t, next => if a.holds t.cursor then next t else none
  | .seq first second, t, next => run first t fun u => run second u next
  | .alt first second, t, next => (run first t next).or (run second t next)
  | .chars mode least most test fold, t, next =>
    charsStep mode least most (test.accepts fold) t next
  | .rep mode least most body, t, next => repeatStep mode least most (run body) t next
  | .group index body, t, next => run body (t.openGroup index) fun u => next (u.closeGroup index)
  | .atomic body, t, next =>
    match run body t some with
    | none => none
    | some u => next u
  | .look back positive body, t, next =>
    match t.cursor.back? back with
    | none => if positive then none else next t
    | some c =>
      match run body { t with cursor := c } some, positive with
      | some u, true => next { u with cursor := t.cursor }
      | none, false => next t
      | _, _ => none
  | .backref index fold, t, next =>
    match t.captured? index with
    | none => none
    | some text =>
      match t.cursor.skip? fold text with
      | none => none
      | some c => next { t with cursor := c }
  | .cond index yes no, t, next =>
    if (t.captured? index).isSome then run yes t next else run no t next

/-- The first match of a whole text. -/
def fullMatch? (r : Regex) (text : List Char) : Option Thread :=
  run r (.atStart text) fun t => if t.cursor.after.isEmpty then some t else none

/-- The first match that begins at a place or after it. -/
def searchFrom? (r : Regex) (before : List Char) (position : Nat) : List Char → Option Thread
  | [] => run r ⟨⟨before, [], position⟩, [], []⟩ some
  | c :: rest =>
    (run r ⟨⟨before, c :: rest, position⟩, [], []⟩ some).or
      (searchFrom? r (c :: before) (position + 1) rest)

/-- The first match in a text. -/
def search? (r : Regex) (text : List Char) : Option Thread :=
  searchFrom? r [] 0 text

end RouteMatch.Pattern
