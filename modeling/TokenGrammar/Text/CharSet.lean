/-!
Sets of characters given by ascending, disjoint ranges of code points.
-/

namespace TokenGrammar

/-- Ranges of code points, both ends included, in ascending order. -/
structure CharSet where
  ranges : List (Nat × Nat)

namespace CharSet

def covers : List (Nat × Nat) → Nat → Bool
  | [], _ => false
  | (low, high) :: rest, point =>
      if point < low then false else point ≤ high || covers rest point

def contains (set : CharSet) (character : Char) : Bool := covers set.ranges character.toNat

end CharSet

end TokenGrammar
