import RouteMatch.Pattern.Lexeme

/-!
# Reading a pattern

The lexemes of a pattern are put together by a machine whose state holds one
level for the whole pattern and one for each open parenthesis.  A lexeme changes
the innermost level; an opening adds a level and a closing parenthesis turns a
level into an item of the level around it.  There is no bound on how deep groups
are nested.

## Main definitions

* `Groups` — the capturing groups met so far.
* `Level`, `State` — what has been read.
* `State.step` — the effect of a lexeme.
* `State.scan` — the effect of a text.
* `Parsed`, `parse` — the result of reading a whole pattern.
-/

namespace RouteMatch.Pattern

/-! ### Groups -/

/-- The capturing groups met so far. -/
structure Groups where
  /-- The number of groups opened. -/
  count : Nat
  /-- The named groups, in order. -/
  names : List (List Char × Nat)
  /-- The closed groups, with their widths. -/
  widths : List (Nat × Width)
  deriving DecidableEq, Repr

namespace Groups

/-- No groups. -/
def none : Groups := ⟨0, [], []⟩

/-- Whether a group has been opened and closed. -/
def isClosed (g : Groups) (index : Nat) : Bool :=
  (g.widths.lookup index).isSome

/-- Opens a group; its number is the new count. -/
def openNext (g : Groups) (name : Option (List Char)) : Groups :=
  { g with
    count := g.count + 1
    names := match name with
      | .none => g.names
      | some n => g.names ++ [(n, g.count + 1)] }

/-- Closes a group. -/
def close (g : Groups) (index : Nat) (body : Regex) : Groups :=
  { g with widths := (index, body.width g.widths) :: g.widths }

end Groups

/-! ### Levels -/

/-- An item of a sequence. -/
inductive Item
  /-- An anchor, which cannot be repeated. -/
  | anchor (a : Anchor)
  /-- A repetition, which cannot be repeated again. -/
  | repeated (node : Regex)
  | single (node : Regex)
  deriving DecidableEq, Repr

/-- The tree of an item. -/
def Item.node : Item → Regex
  | .anchor a => .anchor a
  | .repeated node | .single node => node

/-- What a closing parenthesis makes of a level. -/
inductive Opening
  /-- The whole pattern, which no parenthesis closes. -/
  | whole
  | capture (index : Nat)
  | scope
  | atomic
  /-- A look-ahead or look-behind; `limit` is the limit on references in force
  around it. -/
  | look (behind positive : Bool) (limit : Option Nat)
  | conditional (index : Nat)
  deriving DecidableEq, Repr

/-- What has been read since a parenthesis was opened. -/
structure Level where
  opening : Opening
  /-- The place of the parenthesis. -/
  position : Nat
  /-- The flags in force. -/
  flags : Flags
  /-- The finished branches, the last one first. -/
  branches : List Regex
  /-- The items of the branch being read, the last one first. -/
  items : List Item
  deriving DecidableEq, Repr

namespace Level

/-- The branch being read. -/
def branch (l : Level) : Regex :=
  l.items.foldl (fun rest item => .seq item.node rest) .empty

/-- All branches. -/
def body (l : Level) : Regex :=
  l.branches.foldl (fun rest b => .alt b rest) l.branch

/-- Adds an item. -/
def add (item : Item) (l : Level) : Level :=
  { l with items := item :: l.items }

end Level

/-! ### The machine -/

/-- What has been read of a pattern. -/
structure State where
  /-- The innermost open level. -/
  level : Level
  /-- The levels around it, the nearest first. -/
  outer : List Level
  groups : Groups
  /-- In a look-behind, the number of groups opened before the outermost one:
  only these may be referred to. -/
  limit : Option Nat
  /-- The groups that conditional groups name by number, with the places of the
  numbers, the last one first. -/
  awaited : List (Nat × Nat)
  /-- Whether each look-behind matches texts of one length only. -/
  fixedLookbehinds : Bool
  deriving DecidableEq, Repr

namespace State

/-- Before a pattern. -/
def initial : State :=
  { level := ⟨.whole, 0, {}, [], []⟩
    outer := []
    groups := .none
    limit := none
    awaited := []
    fixedLookbehinds := true }

/-- Adds an item to the innermost level. -/
def add (item : Item) (st : State) : State :=
  { st with level := st.level.add item }

/-- Adds a level. -/
def push (opening : Opening) (position : Nat) (flags : Flags) (st : State) : State :=
  { st with level := ⟨opening, position, flags, [], []⟩, outer := st.level :: st.outer }

/-- Checks a reference to a group in a look-behind; `stop` is the place after
the reference. -/
def checkLimit (st : State) (stop index : Nat) : Except PatternFailure Unit :=
  match st.limit with
  | none => .ok ()
  | some limit =>
    if !st.groups.isClosed index then .error (.at stop .openGroup)
    else if index > limit then .error (.at stop .groupInLookbehind)
    else .ok ()

/-- Adds a reference to a closed group; a fault of an open one is reported at
`position`. -/
def addBackref (st : State) (position stop index : Nat) : Except PatternFailure State :=
  if !st.groups.isClosed index then .error (.at position .openGroup)
  else
    (st.checkLimit stop index).map fun _ =>
      st.add (.single (.backref index st.level.flags.fold))

/-- Repeats the last item. -/
def repeatLast (st : State) (position : Nat) (mode : Mode) (least : Nat) (most : Option Nat) :
    Except PatternFailure State :=
  match st.level.items with
  | .single node :: rest =>
    let item := Item.repeated (.repeated mode least most node)
    .ok { st with level := { st.level with items := item :: rest } }
  | .repeated _ :: _ => .error (.at position .multipleRepeat)
  | .anchor _ :: _ | [] => .error (.at position .nothingToRepeat)

/-- Opens a capturing group. -/
def openCapture (st : State) (position : Nat) (name : Option (List Char)) :
    Except PatternFailure State :=
  let index := st.groups.count + 1
  let opened :=
    ({ st with groups := st.groups.openNext name }).push (.capture index) position st.level.flags
  match name with
  | none => .ok opened
  | some n =>
    match st.groups.names.lookup n with
    | some earlier => .error (.at (position + 4) (.redefinedGroup n index earlier))
    | none => .ok opened

/-- Opens a look-ahead or look-behind. -/
def openLook (st : State) (position : Nat) (behind positive : Bool) : State :=
  let limit := if behind then st.limit.or (some st.groups.count) else st.limit
  ({ st with limit := limit }).push (.look behind positive st.limit) position st.level.flags

/-- Opens a conditional group; `stop` is the place after the reference. -/
def openConditional (st : State) (position stop : Nat) (reference : GroupReference) :
    Except PatternFailure State :=
  match reference with
  | .name n =>
    match st.groups.names.lookup n with
    | none => .error (.at (position + 3) (.unknownGroupName n))
    | some index =>
      (st.checkLimit stop index).map fun _ => st.push (.conditional index) position st.level.flags
  | .number index =>
    let st := { st with awaited := (index, position + 3) :: st.awaited }
    (st.checkLimit stop index).map fun _ => st.push (.conditional index) position st.level.flags

/-- Ends a branch. -/
def endBranch (st : State) (position : Nat) : Except PatternFailure State :=
  match st.level.opening, st.level.branches with
  | .conditional _, _ :: _ => .error (.at position .tooManyBranches)
  | _, branches =>
    .ok { st with level := { st.level with branches := st.level.branch :: branches, items := [] } }

/-- Turns the innermost level into an item of the level around it. -/
def closeLevel (st : State) (position : Nat) : Except PatternFailure State :=
  match st.outer with
  | [] => .error (.at position .unbalanced)
  | next :: outer =>
    let body := st.level.body
    let back : State := { st with level := next, outer := outer }
    match st.level.opening with
    | .whole => .error (.at position .unbalanced)
    | .capture index =>
      .ok ({ back with groups := st.groups.close index body }.add (.single (.group index body)))
    | .scope => .ok (back.add (.single body))
    | .atomic => .ok (back.add (.single (.atomic body)))
    | .conditional index =>
      let node := match st.level.branches with
        | [] => .cond index st.level.branch .empty
        | yes :: _ => .cond index yes st.level.branch
      .ok (back.add (.single node))
    | .look behind positive limit =>
      let w := body.width st.groups.widths
      let fixed := !behind || w.least == w.greatest
      let node := Regex.look (if behind then w.least else 0) positive body
      .ok ({ back with limit := limit, fixedLookbehinds := st.fixedLookbehinds && fixed }.add
        (.single node))

/-- Sets flags for the whole pattern, which must come before anything else. -/
def setGlobalFlags (st : State) (position : Nat) (on : List Char) : Except PatternFailure State :=
  if st.outer.isEmpty && st.level.branches.isEmpty && st.level.items.isEmpty then
    .ok { st with level := { st.level with flags := st.level.flags.change on [] } }
  else .error (.at position .lateGlobalFlags)

/-- The effect of a lexeme that begins at `position` and ends before `stop`. -/
def step (st : State) (position stop : Nat) : Lexeme → Except PatternFailure State
  | .ignored => .ok st
  | .test test => .ok (st.add (.single (.char test st.level.flags.fold)))
  | .anchor a => .ok (st.add (.anchor a))
  | .backref index =>
    if index > st.groups.count then .error (.at (position + 1) (.invalidGroup index))
    else st.addBackref position stop index
  | .namedBackref name =>
    match st.groups.names.lookup name with
    | none => .error (.at (position + 4) (.unknownGroupName name))
    | some index => st.addBackref (position + 4) stop index
  | .quantifier mode least most => st.repeatLast position mode least most
  | .capture name => st.openCapture position name
  | .scope on off => .ok (st.push .scope position (st.level.flags.change on off))
  | .atomic => .ok (st.push .atomic position st.level.flags)
  | .look behind positive => .ok (st.openLook position behind positive)
  | .conditional reference => st.openConditional position stop reference
  | .globalFlags on => st.setGlobalFlags position on
  | .bar => st.endBranch position
  | .close => st.closeLevel position

/-- The effect of a text from a place on, of which the first `skip` characters
belong to the lexeme read last. -/
def scan : (position : Nat) → List Char → (skip : Nat) → State → Except PatternFailure State
  | _, [], _, st => .ok st
  | position, _ :: rest, skip + 1, st => scan (position + 1) rest skip st
  | position, c :: rest, 0, st =>
    match Lexeme.read st.level.flags position c rest with
    | .error failure => .error failure
    | .ok (lexeme, used) =>
      match st.step position (position + 1 + used) lexeme with
      | .error failure => .error failure
      | .ok st => scan (position + 1) rest used st

end State

/-! ### Whole patterns -/

/-- What a whole pattern says. -/
structure Parsed where
  regex : Regex
  /-- The number of capturing groups. -/
  groupCount : Nat
  /-- The named groups, in order. -/
  names : List (List Char × Nat)
  deriving DecidableEq, Repr

/-- The result of reading, at the end of a pattern. -/
def State.finish (st : State) : Except PatternFailure Parsed :=
  if !st.outer.isEmpty then .error (.at st.level.position .unterminatedGroup)
  else
    match st.awaited.reverse.find? fun (index, _) => index > st.groups.count with
    | some (index, position) => .error (.at position (.invalidGroup index))
    | none =>
      if st.fixedLookbehinds then .ok ⟨st.level.body, st.groups.count, st.groups.names⟩
      else .error (.invalid ⟨.variableLookbehind, none⟩)

/-- Reads a pattern. -/
def parse (source : List Char) : Except PatternFailure Parsed :=
  match State.initial.scan 0 source 0 with
  | .error failure => .error failure
  | .ok st => st.finish

end RouteMatch.Pattern
