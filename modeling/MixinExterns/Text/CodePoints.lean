/-!
Sets of characters given by ranges of code points, the form in which the character
properties of a standard are tabulated.
-/

namespace MixinExterns.Text

/-- Whether the character's code point lies in one of the closed ranges. -/
def inRanges (ranges : List (Nat × Nat)) (c : Char) : Bool :=
  ranges.any fun (low, high) => low ≤ c.toNat && c.toNat ≤ high

end MixinExterns.Text
