/-!
# Runs of code points

A set of characters is written as the code points at which a run of its members starts or ends, in
rising order, from a state in which nothing is a member.
-/

namespace SpectralBench.Text

/-- Whether an odd number of the entries lie at or below `n`. -/
def flippedOdd (n : Nat) : List Nat → Bool
  | [] => false
  | flip :: rest => if flip ≤ n then !flippedOdd n rest else false

/-- Whether a character is in one of the runs. -/
def inRuns (flips : List Nat) (c : Char) : Bool :=
  flippedOdd c.toNat flips

end SpectralBench.Text
