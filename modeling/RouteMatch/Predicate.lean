import RouteMatch.Route

/-!
# Predicates

Ready-made conditions for routes, and how the verdict of a condition is read.

## Main definitions

* `Predicate.const`, `Predicate.captureEquals`, `Predicate.hasCapture`,
  `Predicate.attributeEquals`, `Predicate.serverEquals` — conditions that leave
  the captures alone.
* `Predicate.setCaptures`, `Predicate.onlyCaptures` — conditions that replace
  them.
* `Predicate.assign`, `Predicate.raise` — conditions that fail.
* `Verdict.read` — the meaning of a verdict.
-/

namespace RouteMatch

/-- An attribute by its name.  The ways to make attributes have names too; they
are equal to no value. -/
def Attributes.field (a : Attributes) (name : String) : Except Failure (Option Value) :=
  match name with
  | "method" => .ok (some a.method)
  | "https" => .ok (some a.https)
  | "port" => .ok (some a.port)
  | "accept" => .ok (some a.accept)
  | "server" => .ok (some (.dict a.server))
  | "is_secure" => a.isSecure.map fun b => some (.bool b)
  | "from_environ" | "from_asgi" => .ok none
  | _ => .error (.noAttribute .attributes name)

namespace Predicate

/-- Always the same verdict. -/
def const (verdict : Value) : Predicate :=
  fun _ _ => .ok verdict

/-- Whether a capture, nothing if there is none, has a value. -/
def captureEquals (name : Value) (value : Value) : Predicate :=
  fun _ captures => .ok (.bool ((captures.get? name).getD .none == value))

/-- Whether there is a capture. -/
def hasCapture (name : Value) : Predicate :=
  fun _ captures => .ok (.bool (captures.contains name))

/-- Whether an attribute has a value. -/
def attributeEquals (name : String) (value : Value) : Predicate :=
  fun attributes _ => (attributes.field name).map fun v => .bool (v.any (· == value))

/-- Whether a server variable, nothing if there is none, has a value. -/
def serverEquals (name : Value) (value : Value) : Predicate :=
  fun attributes _ => .ok (.bool ((attributes.server.get? name).getD .none == value))

/-- A verdict that adds captures or replaces some. -/
def setCaptures (ok : Value) (pairs : List (Value × Value)) : Predicate :=
  fun _ captures => .ok (.tuple [ok, .dict (Entries.update captures pairs)])

/-- A verdict that keeps some captures only. -/
def onlyCaptures (ok : Value) (names : List Value) : Predicate :=
  fun _ captures =>
    .ok (.tuple [ok, .dict (names.foldl
      (fun kept name =>
        match captures.get? name with
        | none => kept
        | some value => Entries.insert name value kept)
      [])])

/-- Assigns to the captures, which cannot be assigned to. -/
def assign : Predicate :=
  fun _ _ => .error (.readOnly .view)

/-- Raises an alarm. -/
def raise (alarm : Alarm) (message : String) : Predicate :=
  fun _ _ => .error (.alarm alarm message)

end Predicate

/-- What a verdict says: whether it is favourable, and the captures after it. -/
def Verdict.read (captures : Captures) (verdict : Value) : Except Failure (Bool × Captures) :=
  match verdict with
  | .tuple [ok, updated] => updated.entries.map fun entries => (ok.isTrue, entries)
  | .tuple (_ :: _ :: _) => .error .verdictTooLong
  | .tuple items => .error (.verdictTooShort items.length)
  | v => .ok (v.isTrue, captures)

end RouteMatch
