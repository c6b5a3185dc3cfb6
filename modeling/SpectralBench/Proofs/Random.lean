import SpectralBench.Proofs.Binary.Rounding
import SpectralBench.Random.Draw

/-!
# One stream for each seed

A generator has a state: the key that was spread from the seed, the number of the next block, the
words of the last four blocks, and how many of them are used up. It takes two words for a draw, and
computes four more blocks whenever there is nothing left, even in the middle of a draw. What it draws
is a function of the position alone all the same: the words that it has left are those of the stream
from the current position on, and every draw keeps it so.

Main statements:

* `Generator.At.next_at` — one draw takes the next two words of the stream, with and without new
  blocks.
* `Generator.At.drawn_eq` — a run of draws, by induction on how many come before.
* `Generator.drawn_seeded` — the draws of a seed are the numerators of its positions.
* `uniform_eq`, `isDraw` — a draw over `2 ^ 53` is computed without rounding.
-/

namespace SpectralBench.Random

/-! ## Spreading the seed -/

/-- The words that the states of a seed put out, one after the other. -/
def spread : (left : ℕ) → (state : UInt64) → List UInt32
  | 0, _ => []
  | left + 1, state => output (advance state) :: spread left (advance state)

theorem state_advance (seed : UInt64) (n : ℕ) : state (advance seed) n = state seed (n + 1) := by
  induction n with
  | zero => rw [state_succ, state, state]
  | succ n ih => rw [state_succ, ih, ← state_succ]

theorem spread_eq (left : ℕ) (seed : UInt64) :
    spread left seed = (List.range left).map fun n => output (state seed (n + 1)) := by
  induction left generalizing seed with
  | zero => rfl
  | succ left ih =>
    rw [spread, ih, List.range_succ_eq_map, List.map_cons, List.map_map, state_succ, state]
    -- one step into the stream of a state is the stream of the next state
    refine congrArg _ (List.map_congr_left fun n _ => ?_)
    rw [state_advance, Function.comp_apply]

theorem length_spread (left : ℕ) (seed : UInt64) : (spread left seed).length = left := by
  rw [spread_eq, List.length_map, List.length_range]

/-! ## The generator -/

/-- The word at a position of the stream of a key. -/
def word (key : Vector UInt32 8) (position : ℕ) : UInt32 :=
  (block key (.ofNat (position / 16)))[position % 16]

/-- Two words as one, low word first. -/
def wide (low high : UInt32) : UInt64 :=
  low.toUInt64 ||| (high.toUInt64 <<< 32)

/-- The words of four blocks in a row. -/
def fourBlocks (key : Vector UInt32 8) (number : UInt64) : Vector UInt32 64 :=
  .ofFn fun place => (block key (number + .ofNat (place / 16)))[place.val % 16]

structure Generator where
  key : Vector UInt32 8
  /-- The number of the next block. -/
  number : UInt64
  buffer : Vector UInt32 64
  /-- How many words of the buffer are used up. -/
  used : ℕ

namespace Generator

/-- The generator of a seed, with nothing left in its buffer. -/
def seeded (seed : UInt64) : Generator where
  key := ⟨(spread 8 seed).toArray, length_spread 8 seed⟩
  number := 0
  buffer := .replicate 64 0
  used := 64

/-- Computes four more blocks, of which so many words are taken at once. -/
def refill (gen : Generator) (used : ℕ) : Generator :=
  { gen with number := gen.number + 4, buffer := fourBlocks gen.key gen.number, used }

/-- Draws two words. -/
def next (gen : Generator) : UInt64 × Generator :=
  if h : gen.used + 1 < 64 then
    (wide gen.buffer[gen.used] gen.buffer[gen.used + 1], { gen with used := gen.used + 2 })
  else if 64 ≤ gen.used then
    let full := gen.refill 2
    (wide full.buffer[0] full.buffer[1], full)
  else
    let full := gen.refill 1
    (wide gen.buffer[63] full.buffer[0], full)

/-- What is drawn after so many other draws. -/
def drawn (gen : Generator) : ℕ → UInt64
  | 0 => gen.next.1
  | k + 1 => gen.next.2.drawn k

/-! ## Where it is in the stream -/

/-- Whether a generator goes on with the word at a position: its next block begins where its buffer
ends, and what is left of the buffer are the words from the position on. -/
structure At (gen : Generator) (key : Vector UInt32 8) (position : ℕ) : Prop where
  key_eq : gen.key = key
  used_le : gen.used ≤ 64
  number_eq : ∃ blocks, position + (64 - gen.used) = 16 * blocks ∧ gen.number = .ofNat blocks
  left_eq : ∀ (place : ℕ) (h : place < 64), gen.used ≤ place →
    gen.buffer[place] = word key (position + (place - gen.used))

variable {gen : Generator} {key : Vector UInt32 8} {position : ℕ}

theorem at_seeded (seed : UInt64) : (seeded seed).At (Random.key seed) 0 where
  key_eq := by
    refine Vector.ext fun place hplace => ?_
    simp only [seeded, Random.key, Vector.getElem_mk, List.getElem_toArray, Vector.getElem_ofFn,
      spread_eq, List.getElem_map, List.getElem_range]
  used_le := Nat.le_refl 64
  number_eq := ⟨0, rfl, rfl⟩
  left_eq place h hused := absurd h (Nat.not_lt.2 hused)

/-- New blocks are those that come next in the stream. -/
theorem At.getElem_refill (h : gen.At key position) {blocks : ℕ}
    (hblocks : position + (64 - gen.used) = 16 * blocks) (used : ℕ) {place : ℕ}
    (hplace : place < 64) :
    (gen.refill used).buffer[place] = word key (16 * blocks + place) := by
  obtain ⟨other, hother, hnumber⟩ := h.number_eq
  have hsame : other = blocks := by omega
  have hword : (gen.refill used).buffer[place] =
      (block gen.key (gen.number + .ofNat (place / 16)))[place % 16] :=
    Vector.getElem_ofFn _
  have hdiv : (16 * blocks + place) / 16 = blocks + place / 16 := by omega
  have hmod : (16 * blocks + place) % 16 = place % 16 := by omega
  rw [hword, h.key_eq, hnumber, hsame, ← UInt64.ofNat_add]
  simp only [word, hdiv, hmod]

theorem At.refill_at (h : gen.At key position) {used blocks : ℕ} (hused : used ≤ 64)
    (hblocks : position + (64 - gen.used) = 16 * blocks) :
    (gen.refill used).At key (16 * blocks + used) where
  key_eq := h.key_eq
  used_le := hused
  number_eq := by
    obtain ⟨other, hother, hnumber⟩ := h.number_eq
    have hsame : other = blocks := by omega
    have hrest : (gen.refill used).used = used := rfl
    refine ⟨blocks + 4, by omega, ?_⟩
    rw [UInt64.ofNat_add, ← hsame, ← hnumber]
    rfl
  left_eq place hplace hleft := by
    have hrest : (gen.refill used).used = used := rfl
    rw [h.getElem_refill hblocks used hplace]
    congr 1
    omega

/-- One draw takes the two words at its position. -/
theorem At.next_at (h : gen.At key position) :
    gen.next.1 = wide (word key position) (word key (position + 1)) ∧
      gen.next.2.At key (position + 2) := by
  obtain ⟨blocks, hblocks, hnumber⟩ := h.number_eq
  have hused := h.used_le
  unfold next
  split
  · -- both words are there
    rename_i hroom
    have hlow := h.left_eq gen.used (by omega) (Nat.le_refl _)
    have hhigh := h.left_eq (gen.used + 1) hroom (Nat.le_succ _)
    rw [Nat.sub_self, Nat.add_zero] at hlow
    rw [Nat.add_sub_cancel_left] at hhigh
    refine ⟨by rw [hlow, hhigh], h.key_eq, hroom, ⟨blocks, ?_, hnumber⟩,
      fun place hplace hleft => ?_⟩
    · dsimp only
      omega
    · dsimp only at hleft ⊢
      rw [h.left_eq place hplace (by omega)]
      congr 1
      omega
  · split
    · -- nothing is left, so both words come from new blocks
      have hlow := h.getElem_refill hblocks 2 (show 0 < 64 by decide)
      have hhigh := h.getElem_refill hblocks 2 (show 1 < 64 by decide)
      have hfull := h.refill_at (show 2 ≤ 64 by decide) hblocks
      have hposition : 16 * blocks = position := by omega
      rw [hposition] at hlow hhigh hfull
      refine ⟨?_, hfull⟩
      dsimp only
      rw [hlow, hhigh, Nat.add_zero]
    · -- the low word is the last of the buffer, and the high word the first of new blocks
      have hlast : gen.used = 63 := by omega
      have hlow := h.left_eq 63 (by decide) hlast.le
      have hhigh := h.getElem_refill hblocks 1 (show 0 < 64 by decide)
      have hfull := h.refill_at (show 1 ≤ 64 by decide) hblocks
      have hposition : 16 * blocks = position + 1 := by omega
      rw [hlast, Nat.sub_self, Nat.add_zero] at hlow
      rw [hposition] at hhigh hfull
      refine ⟨?_, hfull⟩
      dsimp only
      rw [hlow, hhigh, Nat.add_zero]

/-- A run of draws takes the words of the stream two by two, by induction on how many come before. -/
theorem At.drawn_eq (h : gen.At key position) (k : ℕ) :
    gen.drawn k = wide (word key (position + 2 * k)) (word key (position + 2 * k + 1)) := by
  induction k generalizing gen position with
  | zero => exact h.next_at.1
  | succ k ih =>
    have hlater : position + 2 + 2 * k = position + 2 * (k + 1) := by omega
    rw [drawn, ih h.next_at.2, hlater]

end Generator

/-! ## The draws of a seed -/

/-- The words of a draw are in one block, as there are two of them to a draw. -/
theorem numerator_eq (seed : UInt64) (position : ℕ) :
    numerator seed position =
      (wide (word (key seed) (2 * position)) (word (key seed) (2 * position + 1)) >>> 11).toNat := by
  have hblock : 2 * position / 16 = position / 8 := by omega
  have hsame : (2 * position + 1) / 16 = position / 8 := by omega
  have hlow : 2 * position % 16 = 2 * (position % 8) := by omega
  have hhigh : (2 * position + 1) % 16 = 2 * (position % 8) + 1 := by omega
  simp only [wide, word, hblock, hsame, hlow, hhigh]
  rfl

/-- What the generator of a seed draws, cut to 53 digits. -/
theorem Generator.drawn_seeded (seed : UInt64) (k : ℕ) :
    ((seeded seed).drawn k >>> 11).toNat = numerator seed k := by
  rw [(at_seeded seed).drawn_eq, numerator_eq, Nat.zero_add]

/-! ## Draws as doubles -/

open Binary

theorem toNat_cut_lt (drawn : UInt64) : (drawn >>> 11).toNat < 2 ^ 53 := by
  have hlt := drawn.toNat_lt
  rw [UInt64.toNat_shiftRight, Nat.shiftRight_eq_div_pow]
  change drawn.toNat / 2 ^ 11 < 2 ^ 53
  omega

theorem numerator_lt (seed : UInt64) (position : ℕ) : numerator seed position < 2 ^ 53 := by
  rw [← Generator.drawn_seeded]
  exact toNat_cut_lt _

/-- The double between zero and one that is drawn: the high bits, times `2 ^ -53`. -/
def uniform (drawn : UInt64) : Double :=
  ((Double.ofNat 1).div (.ofNat (2 ^ 53))).mul (.ofNat (drawn >>> 11).toNat)

/-- Neither the bits nor the product have to be rounded. -/
theorem uniform_eq (drawn : UInt64) : uniform drawn = fraction (drawn >>> 11).toNat := by
  have hlt := toNat_cut_lt drawn
  unfold uniform fraction
  generalize (drawn >>> 11).toNat = n at hlt
  have hscale : (Double.ofNat 1).div (.ofNat (2 ^ 53)) = .finite false (1 <<< (1074 - 53)) := by
    decide +kernel
  have hwhole : n * Double.one < Double.ceiling := by
    have hlargest : 2 ^ 53 * Double.one < Double.ceiling := by decide +kernel
    exact Nat.lt_of_le_of_lt (Nat.mul_le_mul_right _ hlt.le) hlargest
  -- both bounds are checked at `2 ^ 53`, which is beyond every draw
  have hproduct : n <<< (1074 - 53) < Double.ceiling := by
    have hlargest : (2 ^ 53) <<< (1074 - 53) < Double.ceiling := by decide +kernel
    exact Nat.lt_of_le_of_lt (shiftLeft_mono hlt.le (Nat.le_refl _)) hlargest
  generalize 1074 - 53 = shift at hscale hproduct ⊢
  rw [Nat.shiftLeft_eq] at hproduct ⊢
  have hbits : Double.ofNat n = .finite false (n * Double.one) := by
    obtain ⟨exponent, hone⟩ := Double.one_eq
    rw [hone] at hwhole
    unfold Double.ofNat Double.ofRatio
    rw [hone, ← Nat.mul_one (n * 2 ^ exponent)]
    rw [Double.round_exact hlt hwhole Nat.one_pos, Nat.mul_one]
  rw [hscale, hbits]
  change Double.round false (1 <<< shift * (n * Double.one)) Double.one = _
  rw [Nat.shiftLeft_eq, Nat.one_mul, ← Nat.mul_assoc, Nat.mul_comm (2 ^ shift)]
  exact Double.round_exact hlt hproduct Double.one_pos false

/-- Whether a number of units is the draw of a seed at a position: the high bits of what its
generator draws there, over `2 ^ 53`, and the double that is computed for them. -/
structure IsDraw (seed : UInt64) (position units : ℕ) : Prop where
  scaled : units * 2 ^ 53 = ((Generator.seeded seed).drawn position >>> 11).toNat * Double.one
  computed : uniform ((Generator.seeded seed).drawn position) = .finite false units

theorem isDraw (seed : UInt64) (position : ℕ) :
    IsDraw seed position (numerator seed position <<< (1074 - 53)) where
  scaled := by
    have hone : Double.one = 1 <<< (1074 - 53) * 2 ^ 53 := by decide +kernel
    rw [Generator.drawn_seeded, hone]
    generalize 1074 - 53 = shift
    rw [Nat.shiftLeft_eq, Nat.shiftLeft_eq, Nat.one_mul, Nat.mul_assoc]
  computed := by
    rw [uniform_eq, Generator.drawn_seeded, fraction]

end SpectralBench.Random
