import SpectralBench.Proofs.Cpu.Rows
import SpectralBench.Proofs.Random
import SpectralBench.Proofs.RoundTrip

/-!
# A stimulus is the stream of its seed

A stimulus is written draw by draw, from a generator that goes from state to state. Nothing but the
precision and the number of scalars is taken from the geometry, so stimuli of one precision are
prefixes of one another, and at all precisions the scalars at a position are rounded from one draw.

A single is the nearest to its draw, and a double is the draw itself. A half is what the conversion
of the surroundings makes of the draw, and if that conversion rounds as it should, it is the nearest
as well.

Main statements:

* `Precision.write_eq`, `Precision.write_prefix` — what is written, as a function of the position.
* `Precision.isRounding_encode` — every draw is written as its rounding.
* `Geometry.patternAt_stimulus` — where it is found.
* `Configuration.stimulus_is_stream` — a stimulus is the stream of its seed, for every geometry.
-/

namespace SpectralBench

open Binary SpectralBench.Random

namespace Precision

/-! ## Writing draws -/

variable (toHalf : Double → UInt16)

/-- Writes so many draws of a generator, one after the other. -/
def write (precision : Precision) : (left : ℕ) → Generator → List UInt8
  | 0, _ => []
  | left + 1, gen =>
    precision.toBytes toHalf (uniform gen.next.1) ++ precision.write left gen.next.2

theorem write_eq (precision : Precision) (left : ℕ) (gen : Generator) :
    precision.write toHalf left gen =
      (List.range left).flatMap fun k => precision.toBytes toHalf (uniform (gen.drawn k)) := by
  induction left generalizing gen with
  | zero => rfl
  | succ left ih =>
    rw [write, ih, List.range_succ_eq_map, List.flatMap_cons, List.flatMap_map]
    rfl

/-- Writing less writes the beginning of it. -/
theorem write_prefix (precision : Precision) {less more : ℕ} (h : less ≤ more) (gen : Generator) :
    precision.write toHalf less gen <+: precision.write toHalf more gen := by
  induction less generalizing more gen with
  | zero => exact List.nil_prefix
  | succ less ih =>
    obtain ⟨more, rfl⟩ : ∃ rest, more = rest + 1 := ⟨more - 1, by omega⟩
    have hrest := ih (Nat.le_of_succ_le_succ h) gen.next.2
    exact (List.prefix_append_right_inj _).2 hrest

/-! ## Rounding draws -/

/-- Whether a bit pattern is what a number of units is rounded to: at double precision the number
itself, and at the others the nearest one. -/
def IsRounding (precision : Precision) (units bits : ℕ) : Prop :=
  match precision with
  | .single => ∃ value, Format.single.IsRounded units bits value
  | .double => Format.double.decode bits = .finite false units
  | .half => ∃ value, Format.half.IsRounded units bits value

/-- No draw is beyond one. -/
theorem shifted_le_one {n : ℕ} (hn : n < 2 ^ 53) : n <<< (1074 - 53) ≤ Double.one := by
  have hone : (2 ^ 53) <<< (1074 - 53) = Double.one := by decide +kernel
  rw [← hone]
  exact shiftLeft_mono hn.le (Nat.le_refl _)

theorem decode_encode_double {n : ℕ} (hn : n < 2 ^ 53) :
    Format.double.decode (Format.double.encode (.finite false (n <<< (1074 - 53)))) =
      .finite false (n <<< (1074 - 53)) := by
  have hproper := Format.double_isProper
  have hrange := hproper.range_of_le_one (shifted_le_one hn)
  -- the unit of doubles is that of all numbers here, and a draw has no more digits than they have
  have hfiner : Format.double.finer = 0 := by decide
  rw [(hproper.decode_encode hrange).1, Format.settled, Format.coarse, hfiner]
  generalize 1074 - 53 = shift
  have hexact : nearest 53 (n * 2 ^ shift * 1) 1 = n * 2 ^ shift :=
    nearest_exact (by decide) hn shift Nat.one_pos
  rw [Nat.mul_one] at hexact
  rw [Nat.shiftLeft_eq, Nat.pow_zero, Nat.mul_one]
  exact congrArg _ hexact

/-- Every draw is written as its rounding. -/
theorem isRounding_encode (precision : Precision)
    (hhalf : precision = .half → RoundsToHalf toHalf) {n : ℕ} (hn : n < 2 ^ 53) :
    precision.IsRounding (n <<< (1074 - 53)) (precision.encode toHalf (fraction n)) := by
  have hone := shifted_le_one hn
  cases precision with
  | single => exact ⟨_, Format.single_isProper.isRounded_encode hone⟩
  | double => exact decode_encode_double hn
  | half => exact hhalf rfl _ hone

/-- What a draw is written as takes no more bytes than there are. -/
theorem encode_fraction_lt (precision : Precision) (n : ℕ) :
    precision.encode toHalf (fraction n) < Nat.pow 256 precision.realSize := by
  cases precision with
  | single => exact Nat.lt_of_lt_of_le (Format.single.encode_lt _) (by decide)
  | double => exact Nat.lt_of_lt_of_le (Format.double.encode_lt _) (by decide)
  | half => exact (toHalf (fraction n)).toNat_lt

/-- The bit pattern of the scalar at a position of a buffer. -/
def patternAt (precision : Precision) (bytes : Array UInt8) (position : ℕ) : ℕ :=
  ofLittleEndian ((bytes.toList.drop (position * precision.realSize)).take precision.realSize)

end Precision

namespace Geometry

variable {g : Geometry}

/-! ## The bytes of a stimulus -/

/-- A stimulus is what the generator of its seed writes. -/
theorem toList_stimulus_eq_write (toHalf : Double → UInt16) (g : Geometry) (seed : UInt64) :
    (g.stimulus toHalf seed).toList = g.precision.write toHalf g.scalarCount (.seeded seed) := by
  rw [toList_stimulus, Precision.write_eq]
  simp only [uniform_eq, Generator.drawn_seeded]

/-- At each position there is the bit pattern of its draw. -/
theorem patternAt_stimulus (toHalf : Double → UInt16) (g : Geometry) (seed : UInt64) {position : ℕ}
    (hposition : position < g.scalarCount) :
    g.precision.patternAt (g.stimulus toHalf seed) position =
      g.precision.encode toHalf (fraction (numerator seed position)) := by
  have hwidth : ∀ k ∈ List.range g.scalarCount,
      (g.precision.toBytes toHalf (fraction (numerator seed k))).toArray.size =
        g.precision.realSize :=
    fun k _ => g.precision.length_toBytes toHalf _
  -- all scalars have one width, so the bytes of this one begin after so many others
  have hrow := Cpu.take_drop_flatMap _ hwidth position (by rwa [List.length_range])
  have hlt := g.precision.encode_fraction_lt toHalf (numerator seed position)
  rw [List.getElem_range] at hrow
  rw [Precision.patternAt, toList_stimulus, hrow]
  change ofLittleEndian (littleEndian _ _) = _
  rw [ofLittleEndian_littleEndian, Nat.mod_eq_of_lt hlt]

/-- Whether a bit pattern is that of a draw: the double is drawn from the stream of the seed, the
pattern is what it is converted to, and that is its rounding if halves are rounded to the nearest. -/
structure IsDrawn (toHalf : Double → UInt16) (seed : UInt64) (position units : ℕ)
    (precision : Precision) (bits : ℕ) : Prop where
  isDraw : IsDraw seed position units
  bits_eq : bits = precision.encode toHalf (.finite false units)
  isRounding : (precision = .half → RoundsToHalf toHalf) → precision.IsRounding units bits

theorem isDrawn_patternAt (toHalf : Double → UInt16) (g : Geometry) (seed : UInt64) {position : ℕ}
    (hposition : position < g.scalarCount) :
    IsDrawn toHalf seed position (numerator seed position <<< (1074 - 53)) g.precision
      (g.precision.patternAt (g.stimulus toHalf seed) position) where
  isDraw := isDraw seed position
  bits_eq := g.patternAt_stimulus toHalf seed hposition
  isRounding hhalf := by
    rw [g.patternAt_stimulus toHalf seed hposition]
    exact g.precision.isRounding_encode toHalf hhalf (numerator_lt seed position)

/-- Whether the stimulus of a seed is a stream: as many scalars as the sizes of the geometry ask for,
written one after the other from the generator of the seed, each of them the rounding of its draw. -/
structure IsStream (toHalf : Double → UInt16) (g : Geometry) (seed : UInt64) : Prop where
  scalarCount_eq : g.scalarCount = Word.product g.extent.sizes * if g.kind.isReal then 1 else 2
  scalarCount_mul : g.scalarCount * g.precision.realSize = g.transferSize
  size_eq : (g.stimulus toHalf seed).size = g.transferSize
  written : (g.stimulus toHalf seed).toList = g.precision.write toHalf g.scalarCount (.seeded seed)
  drawn : ∀ position < g.scalarCount, ∃ units, IsDrawn toHalf seed position units g.precision
    (g.precision.patternAt (g.stimulus toHalf seed) position)

theorem IsExact.isStream (hg : g.IsExact) (toHalf : Double → UInt16) (seed : UInt64) :
    g.IsStream toHalf seed where
  scalarCount_eq := by rw [hg.scalarCount_eq, hg.count_eq]
  scalarCount_mul := hg.scalarCount_mul
  size_eq := hg.size_stimulus toHalf seed
  written := g.toList_stimulus_eq_write toHalf seed
  drawn _ hposition := ⟨_, g.isDrawn_patternAt toHalf seed hposition⟩

end Geometry

/-- **A stimulus is the stream of its seed.** For every seed and every geometry of a configuration,
a stimulus is what one generator writes, and its scalars are the roundings of the draws, halves as
far as their conversion rounds to the nearest. Of two geometries of one precision, the smaller
stimulus is a prefix of the larger, whatever their kinds, placements and extents are, and at
different precisions the scalars at a position are roundings of one draw. -/
theorem Configuration.stimulus_is_stream {c d : Configuration} {g h : Geometry}
    (hg : c.geometry = .ok g) (hh : d.geometry = .ok h) (toHalf : Double → UInt16) (seed : UInt64) :
    g.configuration = c ∧ g.IsStream toHalf seed ∧
      (g.precision = h.precision →
        (g.transferSize ≤ h.transferSize →
          (g.stimulus toHalf seed).toList <+: (h.stimulus toHalf seed).toList) ∧
        (g.transferSize = h.transferSize → g.stimulus toHalf seed = h.stimulus toHalf seed)) ∧
      ∀ position, position < g.scalarCount → position < h.scalarCount →
        ∃ units,
          Geometry.IsDrawn toHalf seed position units g.precision
            (g.precision.patternAt (g.stimulus toHalf seed) position) ∧
          Geometry.IsDrawn toHalf seed position units h.precision
            (h.precision.patternAt (h.stimulus toHalf seed) position) := by
  obtain ⟨hconfiguration, hexact⟩ := isExact_of_geometry hg
  refine ⟨hconfiguration, hexact.isStream toHalf seed, fun hprecision => ?_,
    fun position hfirst hsecond =>
      ⟨_, g.isDrawn_patternAt toHalf seed hfirst, h.isDrawn_patternAt toHalf seed hsecond⟩⟩
  have hcount (hle : g.transferSize ≤ h.transferSize) : g.scalarCount ≤ h.scalarCount := by
    rw [Geometry.scalarCount, Geometry.scalarCount, hprecision]
    exact Nat.div_le_div_right hle
  have hbytes (hle : g.transferSize ≤ h.transferSize) :
      (g.stimulus toHalf seed).toList <+: (h.stimulus toHalf seed).toList := by
    rw [g.toList_stimulus_eq_write, h.toList_stimulus_eq_write, hprecision]
    exact h.precision.write_prefix toHalf (hcount hle) _
  refine ⟨hbytes, fun hsize => ?_⟩
  obtain ⟨-, hlarger⟩ := isExact_of_geometry hh
  -- a prefix of the same size is the whole
  refine Array.toList_inj.1 ((hbytes hsize.le).eq_of_length ?_)
  rw [Array.length_toList, Array.length_toList, hexact.size_stimulus, hlarger.size_stimulus, hsize]

/-- Three real halves and two complex ones: the third number is the real part of the second, and the
nearest half to its draw. -/
theorem Configuration.stimulus_is_stream_threeAndTwo :
    let g : Geometry :=
      { configuration :=
          { kind := .real, placement := .outOfPlace, precision := .half
            extent := ⟨[3], by decide, by decide, by simp⟩ }
        count := 3, complexCount := 2, dataSize := 6, complexBufferSize := 8, transferSize := 6 }
    let h : Geometry :=
      { configuration :=
          { kind := .complex, placement := .inPlace, precision := .half
            extent := ⟨[2], by decide, by decide, by simp⟩ }
        count := 2, complexCount := 2, dataSize := 8, complexBufferSize := 0, transferSize := 8 }
    (g.stimulus Double.toHalf 42).toList <+: (h.stimulus Double.toHalf 42).toList ∧
      ∃ units, IsDraw 42 2 units ∧
        g.precision.IsRounding units (g.precision.patternAt (g.stimulus Double.toHalf 42) 2) ∧
        h.precision.IsRounding units (h.precision.patternAt (h.stimulus Double.toHalf 42) 2) := by
  intro g h
  have hg : g.configuration.geometry = .ok g := by cbv
  have hh : h.configuration.geometry = .ok h := by cbv
  obtain ⟨-, -, hshorter, hdraws⟩ := stimulus_is_stream hg hh Double.toHalf 42
  have hbytes := (hshorter rfl).1 (show 6 ≤ 8 by decide)
  obtain ⟨units, hfirst, hsecond⟩ :=
    hdraws 2 (show 2 < g.scalarCount by decide) (show 2 < h.scalarCount by decide)
  exact ⟨hbytes, units, hfirst.isDraw, hfirst.isRounding fun _ => Double.roundsToHalf_toHalf,
    hsecond.isRounding fun _ => Double.roundsToHalf_toHalf⟩

end SpectralBench
