/-!
# Sets of characters by their boundaries

A set of code points is written down as the ascending list of the places where
membership changes, first into the set and then out of it.  A code point is a
member when an odd number of boundaries lies at or below it.
-/

namespace ModuleDiscovery

/-- Whether a code point lies in the set with the given boundaries. -/
def insideBoundaries (boundaries : List Nat) (code : Nat) : Bool :=
  (boundaries.takeWhile (· ≤ code)).length % 2 = 1

end ModuleDiscovery
