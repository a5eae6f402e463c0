/-! # Sets of characters

A large set of code points is stored as the ascending list of the places where membership switches,
first on, then off, and so on; asking for a character counts the switches up to it by bisection.
The tables of character properties are values of this type. -/

namespace PathTemplates

/-- A set of code points, given by the places where membership switches on and off in turn. -/
structure CharSet where
  /-- Ascending switch points; the first switches membership on. -/
  switches : Array Nat

namespace CharSet

/-- The number of switch points in `[0, hi)` that are at most `code`, given that those below `lo`
are: the half of the range that cannot decide is dropped at each step. -/
def rankBetween (set : CharSet) (code lo hi : Nat) : Nat :=
  if h : lo < hi then
    let mid := (lo + hi) / 2
    if set.switches.getD mid 0 ≤ code then rankBetween set code (mid + 1) hi
    else rankBetween set code lo mid
  else lo
  termination_by hi - lo
  decreasing_by all_goals omega

/-- Membership: an odd number of switches lies at or before the character. -/
def contains (set : CharSet) (c : Char) : Bool :=
  rankBetween set c.toNat 0 set.switches.size % 2 == 1

end CharSet

end PathTemplates
