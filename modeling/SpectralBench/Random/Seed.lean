/-!
# Seeds

A 64-bit seed is spread over a 256-bit key by a linear congruential generator with a permuted
output: each step multiplies and adds, and the key word is a rotation of the state's high bits.

Main statements:

* `state_succ` — the states form one orbit of `advance`, from the seed.
-/

namespace SpectralBench.Random

/-- One step of the congruential generator. -/
def advance (state : UInt64) : UInt64 :=
  state * 6364136223846793005 + 11634580027462260723

/-- Rotates a word to the right. -/
def rotateRight (word amount : UInt32) : UInt32 :=
  (word >>> amount) ||| (word <<< ((32 - amount) % 32))

/-- The word that a state puts out: its high bits folded together, rotated by its top five. -/
def output (state : UInt64) : UInt32 :=
  rotateRight (((state >>> 18) ^^^ state) >>> 27).toUInt32 (state >>> 59).toUInt32

/-- The state after a number of steps. -/
def state (seed : UInt64) : Nat → UInt64
  | 0 => seed
  | n + 1 => advance (state seed n)

theorem state_succ (seed : UInt64) (n : Nat) : state seed (n + 1) = advance (state seed n) := rfl

/-- The key of a seed: the outputs of the first eight steps. -/
def key (seed : UInt64) : Vector UInt32 8 :=
  .ofFn fun i => output (state seed (i + 1))

end SpectralBench.Random
