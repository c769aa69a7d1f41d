import RouteMatch.Pattern.Matcher
import RouteMatch.Pattern.Parser

/-!
# Compiled patterns

## Main definitions

* `Pattern` — the text of a regular expression with what it says.
* `Pattern.compile` — reading it.
* `Pattern.matchAll?`, `Pattern.find?` — the first match of a whole text, or
  in a text.
* `Match.named` — what the named groups captured.
-/

namespace RouteMatch

open Pattern (PatternFailure Regex Thread)

/-- A regular expression with its text. -/
structure Pattern where
  source : String
  regex : Regex
  /-- The number of capturing groups. -/
  groupCount : Nat
  /-- The named groups, in order. -/
  names : List (String × Nat)
  deriving DecidableEq, Repr

/-- A match of a pattern. -/
structure Match where
  pattern : Pattern
  thread : Thread

/-- The text that a group captured. -/
def Match.captured? (m : Match) (index : Nat) : Option String :=
  (m.thread.captured? index).map String.ofList

/-- What the named groups captured, in their order. -/
def Match.named (m : Match) : List (String × Option String) :=
  m.pattern.names.map fun (name, index) => (name, m.captured? index)

/-- What a named group captured. -/
def Match.namedCapture? (m : Match) (name : String) : Option String :=
  (m.pattern.names.lookup name).bind m.captured?

namespace Pattern

/-- Reads the text of a pattern. -/
def compile (source : String) : Except PatternFailure Pattern :=
  (parse source.toList).map fun parsed =>
    { source := source
      regex := parsed.regex
      groupCount := parsed.groupCount
      names := parsed.names.map fun (name, index) => (String.ofList name, index) }

/-- The first match of a whole text. -/
def matchAll? (p : Pattern) (text : String) : Option Match :=
  (fullMatch? p.regex text.toList).map fun t => ⟨p, t⟩

/-- The first match in a text. -/
def find? (p : Pattern) (text : String) : Option Match :=
  (search? p.regex text.toList).map fun t => ⟨p, t⟩

end Pattern

end RouteMatch
