import RouteMatch.Unicode.Casing
import RouteMatch.Unicode.Character

/-!
# Regular expressions

The syntax trees of regular expressions.  Flags have no node of their own: the
reader puts their effect into the nodes they govern, so that a tree means the
same wherever it stands.

## Main definitions

* `CharTest` — a condition on one character; `Fold` — which letter cases it
  ignores.
* `Anchor` — a condition on the place between two characters.
* `Regex` — the trees.
* `Regex.width` — the least and the greatest length of what a tree matches.
-/

namespace RouteMatch.Pattern

/-! ### Conditions on characters -/

/-- Which differences of letter case are ignored. -/
inductive Fold
  /-- None. -/
  | exact
  /-- Those of all letters. -/
  | unicode
  /-- Those of the letters of ASCII. -/
  | ascii
  deriving DecidableEq, Repr

/-- The code points that count as the given one. -/
def Fold.variants : Fold → Nat → List Nat
  | .exact, code => [code]
  | .unicode, code => Unicode.caseVariants code
  | .ascii, code => Unicode.asciiCaseVariants code

/-- The code point that stands for all that differ in ignored case. -/
def Fold.lower : Fold → Nat → Nat
  | .exact, code => code
  | .unicode, code => Unicode.lower code
  | .ascii, code => Unicode.asciiLower code

/-- The classes of characters that have a letter of their own. -/
inductive Category
  | digit
  | space
  | word
  deriving DecidableEq, Repr

/-- Whether a code point is of a class, of all scripts or of ASCII only. -/
def Category.holds (ascii : Bool) : Category → Nat → Bool
  | .digit, code => if ascii then Unicode.isAsciiDigit code else Unicode.isDigit code
  | .space, code => if ascii then Unicode.isAsciiSpace code else Unicode.isSpace code
  | .word, code => if ascii then Unicode.isAsciiWord code else Unicode.isWord code

/-- A member of a character set. -/
inductive SetItem
  | code (n : Nat)
  | range (first last : Nat)
  | category (kind : Category) (negated ascii : Bool)
  deriving DecidableEq, Repr

/-- The code points that are looked for in a range that ends above `U+FFFF`. -/
def Fold.bounds : Fold → Nat → List Nat
  | .exact, code => [code]
  | fold, code => [fold.lower code, Unicode.upper (fold.lower code)]

/-- Whether a code point is among those that a member stands for.  Ignored differences of case
are ignored in full up to `U+FFFF` only.  Above, a single code point stands for those that have it
as lower case, and a range for those whose lower case, or its upper case, is in the range. -/
def SetItem.holds (fold : Fold) : SetItem → Nat → Bool
  | .code n, c => if n < 0x10000 then (fold.variants c).contains n else fold.lower c == n
  | .range first last, c =>
    ((fold.variants c).any fun n => n < 0x10000 && first ≤ n && n ≤ last) ||
      0x10000 ≤ last && (fold.bounds c).any fun n => first ≤ n && n ≤ last
  | .category k negated ascii, c => negated != k.holds ascii (fold.lower c)

/-- A condition on one character. -/
inductive CharTest
  | any
  /-- Every character but the line feed. -/
  | notNewline
  /-- The characters that some item stands for, or all others. -/
  | oneOf (negated : Bool) (items : List SetItem)
  deriving DecidableEq, Repr

/-- The condition to be one given code point. -/
abbrev CharTest.code (n : Nat) : CharTest := .oneOf false [.code n]

/-- Whether a character meets a condition.  Of a code point that stands alone all differences of
case are ignored. -/
def CharTest.accepts (fold : Fold) : CharTest → Char → Bool
  | .any, _ => true
  | .notNewline, c => c != '\n'
  | .oneOf negated [.code n], c => negated != (fold.variants c.toNat).contains n
  | .oneOf negated items, c => negated != items.any (·.holds fold c.toNat)

/-- Where case matters, a code point stands for itself. -/
theorem CharTest.accepts_code_exact (negated : Bool) (n : Nat) (c : Char) :
    (CharTest.oneOf negated [.code n]).accepts .exact c = (negated != (c.toNat == n)) := by
  simp [accepts, Fold.variants, eq_comm, Bool.beq_eq_decide_eq]

/-! ### Trees -/

/-- A condition on a place in the text. -/
inductive Anchor
  | textStart
  | textEnd
  /-- The end of the text or just before a line feed that ends it. -/
  | lastLineEnd
  | lineStart
  | lineEnd
  /-- Between a word character and another character. -/
  | wordEdge (ascii : Bool)
  /-- Between two word characters or two others. -/
  | wordInside (ascii : Bool)
  deriving DecidableEq, Repr

/-- Which number of repetitions is preferred. -/
inductive Mode
  /-- The greatest that lets the rest match. -/
  | greedy
  /-- The least that lets the rest match. -/
  | lazy
  /-- The greatest, whatever the rest needs. -/
  | possessive
  deriving DecidableEq, Repr

/-- A regular expression. -/
inductive Regex
  /-- Matches the empty text. -/
  | empty
  /-- Matches nothing. -/
  | fail
  | char (test : CharTest) (fold : Fold)
  | anchor (a : Anchor)
  | seq (first second : Regex)
  /-- Either of two, the first one preferred. -/
  | alt (first second : Regex)
  /-- From `least` to `most` characters that meet a condition. -/
  | chars (mode : Mode) (least : Nat) (most : Option Nat) (test : CharTest) (fold : Fold)
  /-- From `least` to `most` repetitions. -/
  | rep (mode : Mode) (least : Nat) (most : Option Nat) (body : Regex)
  /-- A capturing group. -/
  | group (index : Nat) (body : Regex)
  /-- The first match of the body only. -/
  | atomic (body : Regex)
  /-- Whether the body matches `back` characters before this place, or does not
  if `positive` is false. -/
  | look (back : Nat) (positive : Bool) (body : Regex)
  /-- The text that a group captured. -/
  | backref (index : Nat) (fold : Fold)
  /-- `yes` if a group has captured something, otherwise `no`. -/
  | cond (index : Nat) (yes no : Regex)
  deriving DecidableEq, Repr

/-- A repetition; that of one character has a node of its own. -/
def Regex.repeated (mode : Mode) (least : Nat) (most : Option Nat) : Regex → Regex
  | .char test fold => .chars mode least most test fold
  | body => .rep mode least most body

/-! ### Widths -/

/-- The least and the greatest length of what a tree matches. -/
structure Width where
  least : Nat
  greatest : Nat
  deriving DecidableEq, Repr

/-- Lengths are counted up to this number, which stands for all greater ones and
for the lack of a bound. -/
def widthLimit : Nat := 0xFFFFFFFF

/-- Lengths as they are counted: a least length stays below the limit. -/
def Width.bounded (w : Width) : Width :=
  ⟨min w.least (widthLimit - 1), min w.greatest widthLimit⟩

/-- The width of a repetition. -/
def Width.times (w : Width) (least : Nat) (most : Option Nat) : Width :=
  ⟨w.least * least, w.greatest * most.getD widthLimit⟩

/-- The width of a tree, where `groups` holds the widths of the groups that it
refers to. -/
def Regex.width (groups : List (Nat × Width)) : Regex → Width
  | .empty | .fail | .anchor _ | .look .. => ⟨0, 0⟩
  | .char .. => ⟨1, 1⟩
  | .seq a b =>
    let v := a.width groups
    let w := b.width groups
    Width.bounded ⟨v.least + w.least, v.greatest + w.greatest⟩
  | .alt a b | .cond _ a b =>
    let v := a.width groups
    let w := b.width groups
    ⟨min v.least w.least, max v.greatest w.greatest⟩
  | .chars _ least most _ _ => (Width.times ⟨1, 1⟩ least most).bounded
  | .rep _ least most body => ((body.width groups).times least most).bounded
  | .group _ body | .atomic body => body.width groups
  | .backref index _ => (groups.lookup index).getD ⟨0, 0⟩

end RouteMatch.Pattern
