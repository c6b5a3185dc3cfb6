import SpectralBench.Binary.Double
import SpectralBench.Random.ChaCha
import SpectralBench.Random.Seed

/-!
# Uniform draws

The draws of a seed are numbers in `[0, 1)` on the grid `2 ^ -53`, and a draw is a function of the
seed and its position alone: eight draws to a block, two words to a draw. `numerators` computes each
block once for the draws that share it.

Main statements:

* `numerators_getElem` — the array holds at each position the draw of that position.
-/

namespace SpectralBench.Random

/-- The double word at one of the eight places of a block, low word first. -/
def Block.wide (block : Block) (place : Fin 8) : UInt64 :=
  (block[2 * place.val]).toUInt64 ||| ((block[2 * place.val + 1]).toUInt64 <<< 32)

/-- The place within its block of a position in the stream. -/
def place (position : Nat) : Fin 8 :=
  ⟨position % 8, Nat.mod_lt _ (by decide)⟩

/-- The numerator over `2 ^ 53` that a block gives at a place: the high bits of a double word. -/
def Block.numerator (block : Block) (place : Fin 8) : Nat :=
  (block.wide place >>> 11).toNat

/-- The numerator over `2 ^ 53` of the draw at a position. -/
def numerator (seed : UInt64) (position : Nat) : Nat :=
  (block (key seed) (.ofNat (position / 8))).numerator (place position)

/-- The numerators of the first `count` draws. -/
def numerators (seed : UInt64) (count : Nat) : Array Nat :=
  let key := key seed
  let blocks : Vector Block ((count + 7) / 8) := .ofFn fun i => block key (.ofNat i)
  Array.ofFn fun (i : Fin count) => (blocks[i.val / 8]).numerator (place i)

theorem size_numerators (seed : UInt64) (count : Nat) : (numerators seed count).size = count := by
  simp [numerators]

theorem numerators_getElem (seed : UInt64) (count i : Nat) (h : i < (numerators seed count).size) :
    (numerators seed count)[i] = numerator seed i := by
  simp [numerators, numerator]

/-- The draw with the given numerator over `2 ^ 53`. -/
def fraction (numerator : Nat) : Binary.Double :=
  .finite false (numerator <<< (1074 - 53))

end SpectralBench.Random
