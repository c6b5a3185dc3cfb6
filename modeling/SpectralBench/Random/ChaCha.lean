/-!
# The ChaCha block function

A block is a function of a key and a 64-bit block number: sixteen words are mixed by double rounds
of quarter rounds on the columns and the diagonals of a four by four square, and the result is
added to the words that it started from. Six double rounds are used, and no nonce.
-/

namespace SpectralBench.Random

/-- Sixteen words, row by row. -/
abbrev Block := Vector UInt32 16

/-- Rotates a word to the left. -/
def rotateLeft (word amount : UInt32) : UInt32 :=
  (word <<< amount) ||| (word >>> (32 - amount))

/-- Mixes four words of a block: four additions, each followed by a rotation. -/
def quarterRound (a b c d : Fin 16) (block : Block) : Block :=
  let half (r₁ r₂ : UInt32) (s : Block) : Block :=
    let s := s.set a (s[a] + s[b])
    let s := s.set d (rotateLeft (s[d] ^^^ s[a]) r₁)
    let s := s.set c (s[c] + s[d])
    s.set b (rotateLeft (s[b] ^^^ s[c]) r₂)
  half 8 7 (half 16 12 block)

/-- A round on the four columns, then one on the four diagonals. -/
def doubleRound (block : Block) : Block :=
  block |> quarterRound 0 4 8 12 |> quarterRound 1 5 9 13 |> quarterRound 2 6 10 14
    |> quarterRound 3 7 11 15 |> quarterRound 0 5 10 15 |> quarterRound 1 6 11 12
    |> quarterRound 2 7 8 13 |> quarterRound 3 4 9 14

/-- The constant words at the head of every block. -/
def constants : Vector UInt32 4 :=
  #v[0x61707865, 0x3320646e, 0x79622d32, 0x6b206574]

/-- The block before mixing: the constants, the key, the block number and an empty nonce. -/
def initial (key : Vector UInt32 8) (number : UInt64) : Block :=
  let tail : Vector UInt32 4 := #v[number.toUInt32, (number >>> 32).toUInt32, 0, 0]
  constants ++ key ++ tail

/-- The block with the given number in the stream of a key. -/
def block (key : Vector UInt32 8) (number : UInt64) : Block :=
  let start := initial key number
  let mixed := start |> doubleRound |> doubleRound |> doubleRound |> doubleRound |> doubleRound
    |> doubleRound
  Vector.zipWith (· + ·) mixed start

end SpectralBench.Random
