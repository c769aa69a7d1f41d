import RouteMatch.Failure
import RouteMatch.Text.Integer

/-!
# Taking values apart

What a value is good for depends on its kind: some have items, some have entries,
some can be read as an integer.  Each function here says what it gives for the
kinds it takes and fails for the others.

## Main definitions

* `Value.items` — the items of a value.
* `Value.entries` — a value as a dictionary.
* `Value.item` — an item by its number.
* `Value.toInteger` — a value as an integer.
* `Value.integerText`, `Value.toText` — an integer, and any value, as text.
* `Value.checkHashable` — whether a value can be a key.
-/

namespace RouteMatch.Value

/-- The items of a value: those of a list or tuple, the characters of a text, the
keys of a dictionary, and those of an object that has items. -/
def items? : Value → Option (List Value)
  | .list items | .tuple items => some items
  | .text s => some (s.toList.map fun c => .text (String.singleton c))
  | .dict entries => some (entries.map Prod.fst)
  | .other _ items => items
  | .none | .number _ => Option.none

/-- The items of a value, if it has any. -/
def items (v : Value) : Except Failure (List Value) :=
  match v.items? with
  | some items => .ok items
  | Option.none => .error (.notIterable v.kind)

/-- Fails for a value that cannot be a key. -/
def checkHashable (v : Value) : Except Failure Unit :=
  match v.unhashable? with
  | some kind => .error (.unhashable kind)
  | Option.none => .ok ()

/-- An item as an entry: its first item is the key, its second the value. -/
def entryOf (index : Nat) (v : Value) : Except Failure (Value × Value) :=
  match v.items? with
  | Option.none => .error (.entryKind index)
  | some [key, value] => (checkHashable key).map fun _ => (key, value)
  | some items => .error (.entryLength index items.length)

/-- Items as entries, numbered from `index`. -/
def entriesOf : (index : Nat) → List Value → Except Failure (List (Value × Value))
  | _, [] => .ok []
  | index, v :: rest =>
    match entryOf index v with
    | .error failure => .error failure
    | .ok entry => (entriesOf (index + 1) rest).map (entry :: ·)

/-- A value as a dictionary: a dictionary itself, or items that are pairs. -/
def entries (v : Value) : Except Failure (Entries Value Value) :=
  match v with
  | .dict entries => .ok (Entries.ofList entries)
  | v =>
    match v.items with
    | .error failure => .error failure
    | .ok items => (entriesOf 0 items).map Entries.ofList

/-- An item by its number; in a dictionary, the entry under that number. -/
def item (index : Nat) (v : Value) : Except Failure Value :=
  match v with
  | .dict entries =>
    match Entries.get? (.int index) entries with
    | some value => .ok value
    | Option.none => .error (.missingKey (.int index))
  | .none | .number _ | .other .. => .error (.notSubscriptable v.kind)
  | v =>
    match (v.items?.getD [])[index]? with
    | some value => .ok value
    | Option.none => .error (.indexOutOfRange v.kind)

/-- A value as an integer: a number loses its fraction, and a text is read. -/
def toInteger (v : Value) : Except Failure Int :=
  match v with
  | .number (.float .nan) => .error .integerOfNan
  | .number n =>
    match n.truncate? with
    | some i => .ok i
    | Option.none => .error .integerOfInfinity
  | .text s =>
    match Text.readInteger s.toList with
    | .ok i => .ok i
    | .error .malformed => .error (.integerText s)
    | .error (.tooManyDigits count) => .error (.numeralTooLong count)
  | v => .error (.integerOfKind v.kind)

/-- Whether an integer has more digits than are written. -/
def isTooLong (i : Int) : Bool :=
  (toString i.natAbs).length > Text.digitLimit

/-- An integer as text; one with more digits than can be read is refused. -/
def integerText (i : Int) : Except Failure String :=
  if isTooLong i then .error .integerTooLong else .ok (toString i)

mutual

/-- Whether a value is or holds an integer with more digits than are written. -/
def holdsTooLong : Value → Bool
  | .number (.int i) => isTooLong i
  | .list items | .tuple items => anyTooLong items
  | .dict entries => anyEntryTooLong entries
  | .none | .number _ | .text _ | .other .. => false

/-- Whether an item of a container is or holds such an integer. -/
def anyTooLong : List Value → Bool
  | [] => false
  | x :: xs => x.holdsTooLong || anyTooLong xs

/-- Whether a key or a value of a dictionary is or holds such an integer. -/
def anyEntryTooLong : List (Value × Value) → Bool
  | [] => false
  | (k, v) :: rest => k.holdsTooLong || v.holdsTooLong || anyEntryTooLong rest

end

/-- A value as text, unless it is or holds an integer with too many digits. -/
def toText (v : Value) : Except Failure String :=
  if v.holdsTooLong then .error .integerTooLong else .ok v.asText

end RouteMatch.Value
