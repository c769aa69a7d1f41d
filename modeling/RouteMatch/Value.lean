import RouteMatch.Entries
import RouteMatch.Kind
import RouteMatch.Number
import RouteMatch.Text.Quoted

/-!
# Values

Defaults, captures, parameters and environment entries are values of any kind.  Objects that
are no data, such as a set, bytes or an iterator, are values too; all that is known of them is
what is asked of them.  A text has Unicode scalar values only, so that it can always be encoded.

## Main definitions

* `Description` — what is known of an object of a kind of its own.
* `Value` — nothing, a number, a text, a container of values, or such an object.
* `Value.same` — equality: numbers by their exact value, dictionaries whatever
  the order of their entries.
* `Value.isTrue` — whether a value counts as true.
* `Value.kind` — the kind of a value.
* `Value.display` — a value as text, texts quoted.
* `Value.asText` — a value as text, a text as it is.
-/

namespace RouteMatch

/-- What is known of an object of a kind of its own.  It has no methods that are asked for, is
no number, and its items, if it has any, go by no numbers. -/
structure Description where
  /-- Equal objects have the same number, and only they. -/
  number : Nat
  /-- The name of its kind. -/
  kind : String
  /-- What it is written as. -/
  text : String
  isTrue : Bool := true
  /-- Whether it can be a key. -/
  isHashable : Bool := true
  /-- Whether listing its items uses them up, as with an iterator. -/
  isUsedUp : Bool := false
  deriving DecidableEq, Repr

/-- A value. -/
inductive Value
  | none
  | number (n : Number)
  | text (s : String)
  | list (items : List Value)
  | tuple (items : List Value)
  | dict (entries : List (Value × Value))
  /-- An object of a kind of its own, with its items if it has any. -/
  | other (about : Description) (items : Option (List Value))
  deriving Repr, Inhabited

namespace Value

/-- A truth value. -/
abbrev bool (b : Bool) : Value := .number (.bool b)

/-- An integer. -/
abbrev int (i : Int) : Value := .number (.int i)

mutual

/-- Whether two values are equal. -/
def same : Value → Value → Bool
  | .none, .none => true
  | .number n, .number m => n == m
  | .text s, .text t => s == t
  | .list xs, .list ys => sameItems xs ys
  | .tuple xs, .tuple ys => sameItems xs ys
  | .dict es, .dict fs => es.length == fs.length && hasEntries es fs
  | .other o _, .other p _ => o.number == p.number
  | _, _ => false

/-- Whether two lists hold equal values. -/
def sameItems : List Value → List Value → Bool
  | [], [] => true
  | x :: xs, y :: ys => x.same y && sameItems xs ys
  | _, _ => false

/-- Whether every entry of a dictionary is found in another one. -/
def hasEntries : List (Value × Value) → List (Value × Value) → Bool
  | [], _ => true
  | (k, v) :: rest, fs => (fs.any fun f => k.same f.1 && v.same f.2) && hasEntries rest fs

end

instance : BEq Value := ⟨same⟩

/-- Whether a value counts as true: nothing, zero and what is empty do not. -/
def isTrue : Value → Bool
  | .none => false
  | .number n => n.isTrue
  | .text s => s != ""
  | .list items => !items.isEmpty
  | .tuple items => !items.isEmpty
  | .dict entries => !entries.isEmpty
  | .other o _ => o.isTrue

/-- The kind of a value. -/
def kind : Value → Kind
  | .none => .nothing
  | .number (.bool _) => .bool
  | .number (.int _) => .int
  | .number (.float _) => .float
  | .text _ => .text
  | .list _ => .list
  | .tuple _ => .tuple
  | .dict _ => .dict
  | .other o _ => .other o.kind

mutual

/-- A value as text, with the texts in it quoted. -/
def display : Value → String
  | .none => "None"
  | .number n => n.text
  | .text s => Text.quote s
  | .list items => "[" ++ ", ".intercalate (displayItems items) ++ "]"
  | .tuple items =>
    "(" ++ ", ".intercalate (displayItems items) ++ (if items.length = 1 then ",)" else ")")
  | .dict entries => "\x7b" ++ ", ".intercalate (displayEntries entries) ++ "\x7d"
  | .other o _ => o.text

/-- The texts of the items of a container. -/
def displayItems : List Value → List String
  | [] => []
  | x :: xs => x.display :: displayItems xs

/-- The texts of the entries of a dictionary. -/
def displayEntries : List (Value × Value) → List String
  | [] => []
  | (k, v) :: rest => (k.display ++ ": " ++ v.display) :: displayEntries rest

end

/-- A value as text; a text stands for itself. -/
def asText : Value → String
  | .text s => s
  | v => v.display

/-- The kind that cannot be a key, if a value is or holds one: lists and
dictionaries cannot. -/
def unhashable? : Value → Option Kind
  | .list _ => some .list
  | .dict _ => some .dict
  | .tuple items => unhashableItem? items
  | .other o _ => if o.isHashable then Option.none else some (.other o.kind)
  | _ => Option.none
where
  unhashableItem? : List Value → Option Kind
  | [] => Option.none
  | x :: xs => x.unhashable?.or (unhashableItem? xs)

end Value

end RouteMatch
