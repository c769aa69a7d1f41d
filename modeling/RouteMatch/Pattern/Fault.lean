import RouteMatch.Text.Quoted

/-!
# Faults in the text of a pattern

## Main definitions

* `Cause` — what is wrong with a pattern.
* `SyntaxFault` — a cause and the place in the pattern that it is reported at.
* `SyntaxFault.message` — the fault in words; in a pattern of several lines with
  line and column.
* `PatternFailure` — why a text is not read as a pattern.
-/

namespace RouteMatch.Pattern

/-- What is wrong with the text of a pattern.  A fault that concerns a piece of
the text holds that piece. -/
inductive Cause
  /-- A character set has no closing bracket. -/
  | unterminatedSet
  /-- A range whose ends are not characters in ascending order. -/
  | badRange (first last : List Char)
  /-- An escape by code point with too few digits. -/
  | incompleteEscape (text : List Char)
  /-- An escape that has no meaning. -/
  | badEscape (text : List Char)
  /-- An octal escape above the last byte. -/
  | octalTooLarge (text : List Char)
  /-- An escape by name without a brace. -/
  | missingBrace
  /-- An escape by name with an empty name. -/
  | missingCharacterName
  /-- An escape by a name that no character has. -/
  | unknownCharacterName (name : List Char)
  /-- A reference to a group that is still open. -/
  | openGroup
  /-- A reference to a group of the look-behind that holds the reference. -/
  | groupInLookbehind
  /-- A reference to a group that does not exist. -/
  | invalidGroup (index : Nat)
  /-- A group has the number zero. -/
  | badGroupNumber
  | missingGroupName
  /-- A name lacks the character that ends it. -/
  | unterminatedName (terminator : Char)
  /-- A name that is no identifier. -/
  | badGroupName (name : List Char)
  | unknownGroupName (name : List Char)
  /-- A name that an earlier group has. -/
  | redefinedGroup (name : List Char) (index earlier : Nat)
  /-- The pattern ends in the opening of a group. -/
  | unexpectedEnd
  /-- The opening of a group has no meaning. -/
  | unknownExtension (text : List Char)
  | unterminatedComment
  /-- A group has no closing parenthesis. -/
  | unterminatedGroup
  /-- A closing parenthesis closes nothing. -/
  | unbalanced
  /-- A conditional group has a third branch. -/
  | tooManyBranches
  /-- A repetition that repeats nothing. -/
  | nothingToRepeat
  /-- A repetition of a repetition. -/
  | multipleRepeat
  /-- A repetition whose least number is above the greatest. -/
  | repeatOutOfOrder
  /-- Flags for the whole pattern that do not stand first. -/
  | lateGlobalFlags
  | localeFlag
  | incompatibleFlags
  | unknownFlag
  | missingFlag
  /-- Flags are not followed by one of the characters that may follow them. -/
  | missingFlagEnd
  | missingColon
  /-- Flags that cannot be turned off. -/
  | fixedFlags
  /-- A flag of whole patterns only is turned on in a part. -/
  | globalFlagOn
  /-- A flag of whole patterns only is turned off in a part. -/
  | globalFlagOff
  /-- A flag is turned on and off at once. -/
  | contradictoryFlags
  /-- A look-behind that matches texts of several lengths. -/
  | variableLookbehind
  deriving DecidableEq, Repr

/-- A cause in words. -/
def Cause.text : Cause → String
  | .unterminatedSet => "unterminated character set"
  | .badRange first last =>
    "bad character range " ++ String.ofList first ++ "-" ++ String.ofList last
  | .incompleteEscape text => "incomplete escape " ++ String.ofList text
  | .badEscape text => "bad escape " ++ String.ofList text
  | .octalTooLarge text =>
    "octal escape value " ++ String.ofList text ++ " outside of range 0-0o377"
  | .missingBrace => "missing \x7b"
  | .missingCharacterName => "missing character name"
  | .unknownCharacterName name =>
    "undefined character name " ++ Text.quote (String.ofList name)
  | .openGroup => "cannot refer to an open group"
  | .groupInLookbehind => "cannot refer to group defined in the same lookbehind subpattern"
  | .invalidGroup index => "invalid group reference " ++ toString index
  | .badGroupNumber => "bad group number"
  | .missingGroupName => "missing group name"
  | .unterminatedName terminator =>
    "missing " ++ String.singleton terminator ++ ", unterminated name"
  | .badGroupName name => "bad character in group name " ++ Text.quote (String.ofList name)
  | .unknownGroupName name => "unknown group name " ++ Text.quote (String.ofList name)
  | .redefinedGroup name index earlier =>
    "redefinition of group name " ++ Text.quote (String.ofList name) ++ " as group "
      ++ toString index ++ "; was group " ++ toString earlier
  | .unexpectedEnd => "unexpected end of pattern"
  | .unknownExtension text => "unknown extension " ++ String.ofList text
  | .unterminatedComment => "missing ), unterminated comment"
  | .unterminatedGroup => "missing ), unterminated subpattern"
  | .unbalanced => "unbalanced parenthesis"
  | .tooManyBranches => "conditional backref with more than two branches"
  | .nothingToRepeat => "nothing to repeat"
  | .multipleRepeat => "multiple repeat"
  | .repeatOutOfOrder => "min repeat greater than max repeat"
  | .lateGlobalFlags => "global flags not at the start of the expression"
  | .localeFlag => "bad inline flags: cannot use 'L' flag with a str pattern"
  | .incompatibleFlags => "bad inline flags: flags 'a', 'u' and 'L' are incompatible"
  | .unknownFlag => "unknown flag"
  | .missingFlag => "missing flag"
  | .missingFlagEnd => "missing -, : or )"
  | .missingColon => "missing :"
  | .fixedFlags => "bad inline flags: cannot turn off flags 'a', 'u' and 'L'"
  | .globalFlagOn => "bad inline flags: cannot turn on global flag"
  | .globalFlagOff => "bad inline flags: cannot turn off global flag"
  | .contradictoryFlags => "bad inline flags: flag turned on and off"
  | .variableLookbehind => "look-behind requires fixed-width pattern"

/-- A fault and the number of characters before the place it is reported at. -/
structure SyntaxFault where
  cause : Cause
  position : Option Nat
  deriving DecidableEq, Repr

/-- The line of a place, counted from one. -/
def lineAt (source : List Char) (position : Nat) : Nat :=
  (source.take position).count '\n' + 1

/-- The column of a place in its line, counted from one. -/
def columnAt (source : List Char) (position : Nat) : Nat :=
  ((source.take position).reverse.takeWhile (· != '\n')).length + 1

/-- A fault in words, for the pattern that it was found in. -/
def SyntaxFault.message (fault : SyntaxFault) (source : List Char) : String :=
  match fault.position with
  | none => fault.cause.text
  | some position =>
    fault.cause.text ++ " at position " ++ toString position ++
      if source.contains '\n' then
        " (line " ++ toString (lineAt source position) ++ ", column "
          ++ toString (columnAt source position) ++ ")"
      else ""

/-- Why a text is not read as a pattern. -/
inductive PatternFailure
  /-- It breaks a rule of the syntax. -/
  | invalid (fault : SyntaxFault)
  /-- A repetition count is too large to be represented. -/
  | repetitionTooLarge
  /-- A repetition count has too many digits to be read. -/
  | numeralTooLong (digits : Nat)
  deriving DecidableEq, Repr

/-- A fault at a place. -/
abbrev PatternFailure.at (position : Nat) (cause : Cause) : PatternFailure :=
  .invalid ⟨cause, some position⟩

end RouteMatch.Pattern
