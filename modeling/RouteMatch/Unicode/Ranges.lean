/-!
# Sets of code points as ranges

A property of characters that the Unicode character database tabulates is kept
as a list of closed ranges of code points.

## Main definitions

* `Ranges` — a set of code points.
* `Ranges.contains` — membership.
-/

namespace RouteMatch.Unicode

/-- A set of code points: the union of closed ranges. -/
abbrev Ranges := List (Nat × Nat)

/-- Whether a code point lies in one of the ranges. -/
def Ranges.contains (ranges : Ranges) (code : Nat) : Bool :=
  ranges.any fun range => range.1 ≤ code && code ≤ range.2

end RouteMatch.Unicode
