/-!
Sets of characters given by the points where membership changes.

A set is a sorted array of code points: below the first bound nothing is in the set, and at
every bound membership flips. Large character classes take two numbers per run of members.
-/

namespace VoiceDebugger

/-- A set of characters; membership flips at every bound. The bounds are strictly increasing. -/
structure CharSet where
  bounds : Array Nat

namespace CharSet

/-- How many bounds are at most `n`, by bisection of the interval from `lo` to `hi`. The fuel
halves the interval at every step, so the array's size is more than enough. -/
def rankBetween (bounds : Array Nat) (n : Nat) : Nat → Nat → Nat → Nat
  | 0, lo, _ => lo
  | fuel + 1, lo, hi =>
    if lo < hi then
      let mid := (lo + hi) / 2
      if bounds.getD mid 0 ≤ n then rankBetween bounds n fuel (mid + 1) hi
      else rankBetween bounds n fuel lo mid
    else lo

/-- How many bounds are at most `n`. -/
def rank (s : CharSet) (n : Nat) : Nat :=
  rankBetween s.bounds n s.bounds.size 0 s.bounds.size

/-- A character is in the set iff an odd number of bounds lies at or below it. -/
def contains (s : CharSet) (c : Char) : Bool :=
  s.rank c.toNat % 2 == 1

end CharSet

end VoiceDebugger
