import RouteMatch.Failure
import RouteMatch.Text.Split

/-!
# Route templates

A template is the text of a regular expression with placeholders.  A placeholder
is a pair of braces without braces between them.  It holds the name of a token,
which stands for a capturing group, or a slash and several names, which stand for
an optional group: path segments of which a later one never comes without the
earlier ones.

A template becomes the text of a pattern in three steps: the optional group is
written with tokens, the tokens are written as capturing groups, and a group for
the rest of the path is put at the end.

## Main definitions

* `Piece`, `pieces` — a text as characters and placeholders.
* `validate` — whether the placeholders are well formed.
* `expandOptional`, `expandTokens`, `expandWildcard` — the steps.

## Main results

* `render_pieces` — cutting a text into pieces loses nothing.
-/

namespace RouteMatch.Template

open Text

/-! ### Names -/

/-- A name: an ASCII letter and then letters, digits and underscores. -/
def isName : List Char → Bool
  | [] => false
  | c :: rest =>
    Unicode.isAsciiLetter c.toNat && rest.all fun d => Unicode.isAsciiWord d.toNat

/-! ### Pieces -/

/-- A character, or a pair of braces with the text between them. -/
inductive Piece
  | char (c : Char)
  | braces (inner : List Char)
  deriving DecidableEq, Repr

/-- The text of a piece. -/
def Piece.render : Piece → List Char
  | .char c => [c]
  | .braces inner => '{' :: inner ++ ['}']

/-- A brace that nothing closes and the text after it, given backwards, as
characters. -/
def unclosed (inner : List Char) : List Piece :=
  .char '{' :: inner.reverse.map .char

/-- The pieces of a text, where `opened` holds the text since the last opening
brace, backwards, if no brace closed it. -/
def piecesFrom : (opened : Option (List Char)) → List Char → List Piece
  | none, [] => []
  | some inner, [] => unclosed inner
  | none, c :: rest =>
    if c = '{' then piecesFrom (some []) rest else .char c :: piecesFrom none rest
  | some inner, c :: rest =>
    if c = '{' then unclosed inner ++ piecesFrom (some []) rest
    else if c = '}' then .braces inner.reverse :: piecesFrom none rest
    else piecesFrom (some (c :: inner)) rest

/-- The pieces of a text. -/
def pieces (text : List Char) : List Piece :=
  piecesFrom none text

/-- The text of several pieces. -/
def render (ps : List Piece) : List Char :=
  ps.flatMap Piece.render

@[simp] theorem render_nil : render [] = [] := rfl

@[simp] theorem render_cons (p : Piece) (ps : List Piece) :
    render (p :: ps) = p.render ++ render ps := rfl

@[simp] theorem render_append (ps qs : List Piece) : render (ps ++ qs) = render ps ++ render qs := by
  simp [render]

@[simp] theorem render_map_char (text : List Char) : render (text.map .char) = text := by
  induction text with
  | nil => rfl
  | cons c rest ih => simp [Piece.render, ih]

@[simp] theorem render_unclosed (inner : List Char) :
    render (unclosed inner) = '{' :: inner.reverse := by
  rw [unclosed, render_cons, render_map_char]
  rfl

theorem render_piecesFrom (opened : Option (List Char)) (text : List Char) :
    render (piecesFrom opened text)
      = (opened.elim [] fun inner => '{' :: inner.reverse) ++ text := by
  induction text generalizing opened with
  | nil => cases opened <;> simp [piecesFrom]
  | cons c rest ih =>
    cases opened with
    | none =>
      by_cases h : c = '{'
      · simp [piecesFrom, h, ih]
      · simp [piecesFrom, h, ih, Piece.render]
    | some inner =>
      by_cases h : c = '{'
      · simp [piecesFrom, h, ih]
      · by_cases h' : c = '}'
        · simp [piecesFrom, h', ih, Piece.render]
        · simp [piecesFrom, h, h', ih]

/-- Cutting a text into pieces loses nothing. -/
theorem render_pieces (text : List Char) : render (pieces text) = text := by
  simp [pieces, render_piecesFrom]

/-! ### Validation -/

/-- What a placeholder is, going by its text: the names of an optional group, or
a token. -/
inductive Placeholder
  | optional (names : List (List Char))
  | token (name : List Char)
  deriving DecidableEq, Repr

/-- The placeholder that a text between braces makes. -/
def Placeholder.ofInner : List Char → Placeholder
  | '/' :: names => .optional (split ',' names)
  | name => .token name

/-- The placeholders of a text, with the texts between their braces. -/
def placeholders (text : List Char) : List (List Char) :=
  (pieces text).filterMap fun
    | .char _ => none
    | .braces inner => some inner

/-- What is wrong with a placeholder. -/
def placeholderFault? (inner : List Char) : Option RouteFault :=
  match Placeholder.ofInner inner with
  | .optional names =>
    if names.all isName then none
    else some (.malformedGroup (String.ofList (Piece.braces inner).render))
  | .token name => if isName name then none else some (.tokenName (String.ofList name))

/-- Whether a placeholder is an optional group. -/
def isOptional (inner : List Char) : Bool :=
  match Placeholder.ofInner inner with
  | .optional _ => true
  | .token _ => false

/-- The first thing that is wrong with the placeholders of a template. -/
def validate (template : List Char) : Except RouteFault Unit :=
  match (placeholders template).findSome? placeholderFault? with
  | some fault => .error fault
  | none => if (placeholders template).countP isOptional > 1 then .error .severalGroups else .ok ()

/-! ### The optional group -/

/-- Nested optional groups, one for each name. -/
def chain : List (List Char) → List Char
  | [] => []
  | name :: rest =>
    "(/".toList ++ (Piece.braces name).render ++ chain rest ++ ")?".toList

/-- What an optional group stands for.  At the front of a template the first name
comes after a slash that is not optional. -/
def groupText (atFront : Bool) (names : List (List Char)) : List Char :=
  match atFront, names with
  | true, first :: rest =>
    "/(".toList ++ (Piece.braces first).render ++ ")?".toList ++ chain rest
  | _, names => chain names

/-- Replaces the first piece that is an optional group. -/
def expandFirst (atFront : Bool) : List Piece → List Char
  | [] => []
  | .braces ('/' :: n :: names) :: rest =>
    groupText atFront (split ',' (n :: names)) ++ render rest
  | p :: rest => p.render ++ expandFirst atFront rest

/-- Writes the first optional group of a text with tokens.  Whether it is at the
front is told by the first two characters. -/
def expandOptional (text : List Char) : List Char :=
  expandFirst (['{', '/'].isPrefixOf text) (pieces text)

/-! ### Tokens -/

/-- What a token without a pattern of its own matches: anything but a slash. -/
def defaultBody : List Char := "[^/]+".toList

/-- The pattern of a token.  It should be a text; of another value, what it is written as. -/
def tokenBody (tokens : Entries String Value) (name : List Char) : List Char :=
  match tokens.get? (String.ofList name) with
  | none | some .none => defaultBody
  | some body => body.asText.toList

/-- A capturing group with a name. -/
def namedGroup (name body : List Char) : List Char :=
  "(?P<".toList ++ name ++ '>' :: body ++ [')']

/-- A piece with its token written as a capturing group. -/
def expandPiece (tokens : Entries String Value) : Piece → List Char
  | .char c => [c]
  | .braces inner =>
    if isName inner then namedGroup inner (tokenBody tokens inner) else (Piece.braces inner).render

/-- Writes the tokens of a text as capturing groups. -/
def expandTokens (tokens : Entries String Value) (text : List Char) : List Char :=
  (pieces text).flatMap (expandPiece tokens)

/-- The names of the tokens of a text, in order. -/
def tokenNames (text : List Char) : List (List Char) :=
  (placeholders text).filter isName

/-! ### The wildcard -/

/-- A text without the slashes at its end. -/
def stripSlashes (text : List Char) : List Char :=
  (text.reverse.dropWhile (· = '/')).reverse

/-- Puts an optional group for the rest of the path at the end, in place of the
slashes there. -/
def expandWildcard (text wildcard : List Char) : List Char :=
  stripSlashes text ++ "(/".toList ++ namedGroup wildcard ".*".toList ++ ")?".toList

end RouteMatch.Template
