import RouteMatch.Route
import RouteMatch.Text.Percent

/-!
# Parameters

The parameters of a matching path are the defaults of the route, overlaid with
what was captured.  Captured text is percent-decoded.  A capture that is missing
or empty leaves the default.  The rest of the path under the wildcard is split at
slashes, and each piece is decoded once more.

## Main definitions

* `splitWildcard` — the pieces of a wildcard value.
* `extractParams` — the parameters.
-/

namespace RouteMatch

/-- The pieces of a wildcard value.  A value that counts as false has none; the
items of a value that is no text are its pieces. -/
def splitWildcard (v : Value) : Except Failure (List Value) :=
  if !v.isTrue then .ok []
  else
    match v with
    | .text s =>
      .ok ((Text.split '/' s.toList).map fun piece =>
        .text (String.ofList (Text.percentDecodeChars piece)))
    | v => v.items

/-- Whether a captured value counts as missing. -/
def isMissing : Value → Bool
  | .none => true
  | .text s => s == ""
  | _ => false

/-- A captured value as a parameter: a text is decoded. -/
def decodeCapture : Value → Value
  | .text s => .text (Text.percentDecode s)
  | v => v

/-- Puts a capture over the parameters.  Only captures with a name count. -/
def overlay (params : Params) (capture : Value × Value) : Params :=
  match capture.1 with
  | .text name =>
    if isMissing capture.2 then params else params.insert name (decodeCapture capture.2)
  | _ => params

/-- The parameters that captures give on a route. -/
def extractParams (r : Route) (captures : Captures) : Except Failure Params :=
  let params := captures.foldl overlay r.values
  match Route.wildcardOf r.definition with
  | none => .ok params
  | some w =>
    (splitWildcard ((params.get? w).getD .none)).map fun pieces => params.insert w (.list pieces)

end RouteMatch
