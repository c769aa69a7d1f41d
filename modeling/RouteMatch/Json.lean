import RouteMatch.Value

/-!
# JSON documents

Parameters are printed as JSON in ASCII characters: one entry a line, indented by
two blanks for each level, the entries of an object sorted by their names.

## Main definitions

* `Json` — a document.
* `Json.render` — a document as text.
* `Json.ofValue`, `Json.ofEntries` — values as documents.
-/

namespace RouteMatch

/-- A JSON document. -/
inductive Json
  /-- Nothing, a truth value or a number, as it is written. -/
  | word (w : List Char)
  | text (s : List Char)
  | array (items : List Json)
  | object (entries : List (List Char × Json))
  deriving Repr, Inhabited

namespace Json

/-! ### Texts -/

/-- A code unit of sixteen bits as an escape. -/
def unitEscape (unit : Nat) : List Char :=
  '\\' :: 'u' :: Text.toHex 4 unit

/-- A character as it is written in a text.  Only printable ASCII characters
stand for themselves; a character above `U+FFFF` is written as two units. -/
def escapeChar (c : Char) : List Char :=
  if c = '"' ∨ c = '\\' then ['\\', c]
  else if c = '\n' then ['\\', 'n']
  else if c = '\r' then ['\\', 'r']
  else if c = '\t' then ['\\', 't']
  else if c = '\x08' then ['\\', 'b']
  else if c = '\x0c' then ['\\', 'f']
  else if 0x20 ≤ c.toNat ∧ c.toNat < 0x7F then [c]
  else if c.toNat ≤ 0xFFFF then unitEscape c.toNat
  else
    unitEscape (0xD800 + (c.toNat - 0x10000) / 0x400)
      ++ unitEscape (0xDC00 + (c.toNat - 0x10000) % 0x400)

/-- A text between quotation marks. -/
def renderText (s : List Char) : List Char :=
  '"' :: s.flatMap escapeChar ++ ['"']

/-! ### Documents -/

/-- The start of a line at some level. -/
def newline (level : Nat) : List Char :=
  '\n' :: List.replicate (2 * level) ' '

/-- Parts on lines of their own, with commas between them. -/
def renderLines (level : Nat) : List (List Char) → List Char
  | [] => []
  | [line] => newline level ++ line
  | line :: rest => newline level ++ line ++ ',' :: renderLines level rest

/-- Parts between two brackets; without parts, the brackets alone. -/
def bracketed (level : Nat) (opening closing : Char) (parts : List (List Char)) : List Char :=
  if parts.isEmpty then [opening, closing]
  else opening :: renderLines (level + 1) parts ++ newline level ++ [closing]

mutual

/-- A document as text; all but its first line is indented for the level. -/
def renderAt (level : Nat) : Json → List Char
  | .word w => w
  | .text s => renderText s
  | .array items => bracketed level '[' ']' (renderItems (level + 1) items)
  | .object entries => bracketed level '\x7b' '\x7d' (renderEntries (level + 1) entries)

/-- The items of an array as text. -/
def renderItems (level : Nat) : List Json → List (List Char)
  | [] => []
  | item :: rest => item.renderAt level :: renderItems level rest

/-- The entries of an object as text. -/
def renderEntries (level : Nat) : List (List Char × Json) → List (List Char)
  | [] => []
  | (name, item) :: rest =>
    (renderText name ++ [':', ' '] ++ item.renderAt level) :: renderEntries level rest

end

/-- A document as text. -/
def render (j : Json) : List Char :=
  j.renderAt 0

/-! ### Values as documents -/

/-- Whether an entry comes no later than another one. -/
def entryLe (a b : List Char × Json) : Bool :=
  !decide (b.1 < a.1)

/-- An object with its entries sorted by their names. -/
def sortedObject (entries : List (List Char × Json)) : Json :=
  .object (entries.mergeSort entryLe)

/-- Nothing as a document. -/
def null : Json := .word "null".toList

/-- A truth value as a document. -/
def ofBool (b : Bool) : Json := .word (if b then "true" else "false").toList

/-- A number as a document. -/
def ofNumber : Number → Json
  | .bool b => ofBool b
  | n => .word n.text.toList

mutual

/-- A value as a document; tuples are arrays, keys are texts, and an object of a kind of its
own stands as its text. -/
def ofValue : Value → Json
  | .none => null
  | .number n => ofNumber n
  | .text s => .text s.toList
  | .list items => .array (ofItems items)
  | .tuple items => .array (ofItems items)
  | .dict entries => sortedObject (ofPairs entries)
  | .other o _ => .text o.text.toList

/-- Several values as documents. -/
def ofItems : List Value → List Json
  | [] => []
  | v :: rest => ofValue v :: ofItems rest

/-- The entries of a dictionary as those of an object. -/
def ofPairs : List (Value × Value) → List (List Char × Json)
  | [] => []
  | (key, v) :: rest => (key.asText.toList, ofValue v) :: ofPairs rest

end

/-- A dictionary with names for keys as a document. -/
def ofEntries (entries : Entries String Value) : Json :=
  sortedObject (entries.map fun (name, v) => (name.toList, ofValue v))

end Json

end RouteMatch
