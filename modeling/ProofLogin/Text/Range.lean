/-!
# Text/Range — classes of characters as ranges

A class of characters is listed as the ranges of numbers that it consists of, the first and the last
number of each. `inRanges` tells whether a character belongs to the class.
-/

namespace ProofLogin.Text

/-- **The character lies in one of the ranges.** -/
def inRanges (ranges : List (Nat × Nat)) (c : Char) : Bool :=
  ranges.any fun (first, last) => first ≤ c.toNat && c.toNat ≤ last

end ProofLogin.Text
