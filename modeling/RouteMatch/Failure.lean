import RouteMatch.Pattern.Fault
import RouteMatch.Value

/-!
# Failures

Whatever can go wrong when a route is built, a request is described or a path is
evaluated.  A path that does not match is not a failure.

## Main definitions

* `RouteFault` — what is wrong with the definition of a route.
* `Failure` — the failures.
* `RouteFault.reason`, `Failure.message` — the same in words.
* `Corresponds` — results that fail alike or are related values.
-/

namespace RouteMatch

open Text (quote)

/-- What is wrong with the definition of a route. -/
inductive RouteFault
  /-- An optional group lists something else than names. -/
  | malformedGroup (text : String)
  | tokenName (name : String)
  /-- There are several optional groups. -/
  | severalGroups
  | mediaType (text : String)
  | wildcardName (name : String)
  | serverName (name : String)
  /-- A pattern breaks a rule of its syntax. -/
  | pattern (source : String) (fault : Pattern.SyntaxFault)
  deriving DecidableEq, Repr

/-- A fault in words. -/
def RouteFault.reason : RouteFault → String
  | .malformedGroup text => "malformed optional group " ++ quote text
  | .tokenName name => "invalid token name " ++ quote name
  | .severalGroups => "only one optional group is allowed"
  | .mediaType text => "invalid media type " ++ quote text
  | .wildcardName name => "invalid wildcard name " ++ quote name
  | .serverName name => "invalid server variable name " ++ quote name
  | .pattern source fault =>
    "pattern " ++ quote source ++ " does not compile: " ++ fault.message source.toList

/-- The message that a definition with a path is refused for some reason. -/
def routeMessage (path reason : String) : String :=
  "Invalid route " ++ quote path ++ ": " ++ reason

/-- The failures that a predicate can bring about of its own accord. -/
inductive Alarm
  | badValue
  | atRunTime
  | general
  deriving DecidableEq, Repr

/-- What can go wrong. -/
inductive Failure
  /-- The definition of a route with this path is faulty. -/
  | route (path : String) (fault : RouteFault)
  /-- The limit on the length of paths is not positive. -/
  | pathLimit (limit : Number)
  /-- A repetition count in a pattern cannot be represented. -/
  | repetitionTooLarge
  /-- A numeral has too many digits. -/
  | numeralTooLong (digits : Nat)
  /-- An integer has too many digits to be written. -/
  | integerTooLong
  /-- A text is not an integer. -/
  | integerText (text : String)
  /-- A number that is not a number has no integer part. -/
  | integerOfNan
  /-- An infinite number has no integer part. -/
  | integerOfInfinity
  /-- A value of this kind is not converted to an integer. -/
  | integerOfKind (kind : Kind)
  /-- A value of this kind has no items. -/
  | notIterable (kind : Kind)
  /-- A value of this kind has no numbered items. -/
  | notSubscriptable (kind : Kind)
  /-- A container of this kind has no item of that number. -/
  | indexOutOfRange (kind : Kind)
  /-- A dictionary has no entry under a key. -/
  | missingKey (key : Value)
  /-- A value of this kind has no attribute of that name. -/
  | noAttribute (kind : Kind) (name : String)
  /-- The library has nothing of that name. -/
  | notExported (name : String)
  /-- A value of this kind stands where a text is needed. -/
  | notText (kind : Kind)
  /-- A value of this kind cannot be a key. -/
  | unhashable (kind : Kind)
  /-- A value of this kind is not compared with a number. -/
  | unordered (kind : Kind)
  /-- The entries of a value of this kind cannot be assigned to. -/
  | readOnly (kind : Kind)
  /-- A value of this kind is no number of an item. -/
  | itemNumber (kind : Kind)
  /-- A list has no item of that number to assign to. -/
  | assignmentOutOfRange
  /-- The number of an item cannot be represented. -/
  | itemNumberTooLarge
  /-- The field of an object cannot be assigned to. -/
  | frozen (field : String)
  /-- An object has no such field to assign to. -/
  | foreignField
  /-- A verdict is a tuple of less than two values. -/
  | verdictTooShort (length : Nat)
  /-- A verdict is a tuple of more than two values. -/
  | verdictTooLong
  /-- An item from which a dictionary is made has no items itself. -/
  | entryKind (index : Nat)
  /-- An item from which a dictionary is made is not a pair. -/
  | entryLength (index length : Nat)
  /-- A predicate raised an alarm. -/
  | alarm (alarm : Alarm) (message : String)
  deriving Repr

/-- A failure in words. -/
def Failure.message : Failure → String
  | .route path fault => routeMessage path fault.reason
  | .pathLimit limit => "max_path_length must be positive or None, got " ++ limit.text
  | .repetitionTooLarge => "the repetition number is too large"
  | .numeralTooLong digits =>
    "Exceeds the limit (4300 digits) for integer string conversion: value has "
      ++ toString digits ++ " digits; use sys.set_int_max_str_digits() to increase the limit"
  | .integerTooLong =>
    "Exceeds the limit (4300 digits) for integer string conversion; "
      ++ "use sys.set_int_max_str_digits() to increase the limit"
  | .integerText text =>
    "invalid literal for int() with base 10: " ++ String.ofList ((quote text).toList.take 200)
  | .integerOfNan => "cannot convert float NaN to integer"
  | .integerOfInfinity => "cannot convert float infinity to integer"
  | .integerOfKind kind =>
    "int() argument must be a string, a bytes-like object or a real number, not '" ++ kind.name ++ "'"
  | .notIterable kind => "'" ++ kind.name ++ "' object is not iterable"
  | .notSubscriptable kind => "'" ++ kind.name ++ "' object is not subscriptable"
  | .indexOutOfRange kind =>
    (if kind = .text then "string" else kind.name) ++ " index out of range"
  | .missingKey key => key.display
  | .noAttribute kind name => "'" ++ kind.name ++ "' object has no attribute '" ++ name ++ "'"
  | .notExported name => "module 'roost' has no attribute " ++ quote name
  | .notText kind => "expected string or bytes-like object, got '" ++ kind.name ++ "'"
  | .unhashable kind => "unhashable type: '" ++ kind.name ++ "'"
  | .unordered kind =>
    "'<=' not supported between instances of '" ++ kind.name ++ "' and 'int'"
  | .readOnly kind => "'" ++ kind.name ++ "' object does not support item assignment"
  | .itemNumber kind => "list indices must be integers or slices, not " ++ kind.name
  | .assignmentOutOfRange => "list assignment index out of range"
  | .itemNumberTooLarge => "cannot fit 'int' into an index-sized integer"
  | .frozen field => "cannot assign to field " ++ quote field
  | .foreignField => "super(type, obj): obj must be an instance or subtype of type"
  | .verdictTooShort length =>
    "not enough values to unpack (expected 2, got " ++ toString length ++ ")"
  | .verdictTooLong => "too many values to unpack (expected 2)"
  | .entryKind index =>
    "cannot convert dictionary update sequence element #" ++ toString index ++ " to a sequence"
  | .entryLength index length =>
    "dictionary update sequence element #" ++ toString index ++ " has length "
      ++ toString length ++ "; 2 is required"
  | .alarm _ message => message

/-- A result that is no failure is a value. -/
theorem exists_of_toBool {ε α : Type} {x : Except ε α} (h : x.toBool = true) :
    ∃ a, x = .ok a := by
  cases x with
  | error e => exact absurd h (by simp [Except.toBool])
  | ok a => exact ⟨a, rfl⟩

/-- A value that a function makes of a result is made of a value. -/
theorem map_eq_ok {ε α β : Type} {x : Except ε α} {f : α → β} {b : β} (h : x.map f = .ok b) :
    ∃ a, x = .ok a ∧ f a = b := by
  cases x with
  | error e => exact absurd h (by simp [Except.map])
  | ok a => exact ⟨a, rfl, Except.ok.inj h⟩

/-- A result that meets a condition. -/
theorem exists_of_any_toOption {ε α : Type} {x : Except ε α} {p : α → Bool}
    (h : x.toOption.any p = true) : ∃ a, x = .ok a ∧ p a = true := by
  cases x with
  | error e => exact absurd h (by simp [Except.toOption])
  | ok a => exact ⟨a, rfl, h⟩

/-! ### Results that correspond -/

/-- Results that fail alike or are related values. -/
inductive Corresponds {α β : Type} (related : α → β → Prop) :
    Except Failure α → Except Failure β → Prop
  | failure (why : Failure) : Corresponds related (.error why) (.error why)
  | value {x : α} {y : β} (h : related x y) : Corresponds related (.ok x) (.ok y)

namespace Corresponds

variable {α β α' β' : Type} {related : α → β → Prop} {related' : α' → β' → Prop}
  {x : Except Failure α} {y : Except Failure β}

theorem refl (x : Except Failure α) : Corresponds Eq x x := by
  cases x with
  | error why => exact .failure why
  | ok v => exact .value rfl

theorem bind (h : Corresponds related x y) {f : α → Except Failure α'} {g : β → Except Failure β'}
    (hrelated : ∀ x y, related x y → Corresponds related' (f x) (g y)) :
    Corresponds related' (x.bind f) (y.bind g) := by
  cases h with
  | failure why => exact .failure why
  | value h => exact hrelated _ _ h

theorem map (h : Corresponds related x y) {f : α → α'} {g : β → β'}
    (hrelated : ∀ x y, related x y → related' (f x) (g y)) :
    Corresponds related' (x.map f) (y.map g) := by
  cases h with
  | failure why => exact .failure why
  | value h => exact .value (hrelated _ _ h)

end Corresponds

end RouteMatch
