import RouteMatch.Pattern.Matcher
import RouteMatch.Text.Split

/-!
# Content negotiation

A route produces some media types, and a request says in a header which ones it
accepts.  The header is searched for a type, or for all subtypes of its main
type.  A quality after the place that is found first refuses the type if it is
`0.0`; every other quality accepts it.

## Main definitions

* `mediaRange` — what is searched for.
* `acceptsMediaType` — whether a header accepts one type.
* `accepts` — whether a header accepts one of several types.
-/

namespace RouteMatch.Negotiation

open Pattern (Regex CharTest)

/-- The tree that matches one text. -/
def literal (text : List Char) : Regex :=
  text.foldr (fun c rest => .seq (.char (.code c.toNat) .exact) rest) .empty

/-- The tree that matches an ASCII digit. -/
def digit : Regex :=
  .char (.oneOf false [.range 0x30 0x39]) .exact

/-- The group of a quality. -/
def qualityGroup : Nat := 1

/-- A quality: two digits with a point between them. -/
def quality : Regex :=
  .seq (literal ";q=".toList)
    (.group qualityGroup (.seq digit (.seq (literal ['.']) digit)))

/-- A main type with a subtype or an asterisk, and perhaps a quality. -/
def mediaRange (main sub : List Char) : Regex :=
  .seq (literal main)
    (.seq (literal ['/'])
      (.seq (.alt (literal sub) (literal ['*']))
        (.rep .greedy 0 (some 1) quality)))

/-- The main type and the subtype of a media type; without a slash the subtype
is empty. -/
def partition (mediaType : List Char) : List Char × List Char :=
  (Text.cut? '/' mediaType).getD (mediaType, [])

/-- The quality that refuses a type. -/
def refusedQuality : List Char := "0.0".toList

/-- Whether a header without white space accepts a media type. -/
def acceptsMediaType (mediaType header : List Char) : Bool :=
  let (main, sub) := partition mediaType
  match Pattern.search? (mediaRange main sub) header with
  | none => false
  | some t => t.captured? qualityGroup != some refusedQuality

/-- A header without white space. -/
def compact (header : List Char) : List Char :=
  header.filter fun c => !Unicode.isSpace c.toNat

/-- The range of all media types. -/
def anyRange : List Char := "*/*".toList

/-- Whether a header accepts one of several media types.  No types at all, and a
header that is missing, accept everything. -/
def accepts (mediaTypes : List (List Char)) (header : Option (List Char)) : Bool :=
  match header with
  | none => true
  | some header =>
    mediaTypes.isEmpty || Text.occursIn anyRange (compact header)
      || mediaTypes.any fun mediaType => acceptsMediaType mediaType (compact header)

end RouteMatch.Negotiation
