/-!
# Sets of characters

Large sets of characters are given as ranges of code points in ascending
order, so that membership is decided by one walk that stops at the first range
beyond the character.

## Main definitions

* `Ranges`, `Ranges.contains` — the sets and their membership.
-/

namespace Failover.Text

/-- A set of code points: ranges, both ends included, in ascending order. -/
abbrev Ranges := List (Nat × Nat)

/-- Whether a code point lies in one of the ranges. -/
def Ranges.contains : Ranges → Nat → Bool
  | [], _ => false
  | (first, last) :: rest, n =>
      if n < first then false else decide (n ≤ last) || Ranges.contains rest n

end Failover.Text
