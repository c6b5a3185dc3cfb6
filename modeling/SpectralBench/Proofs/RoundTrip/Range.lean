import SpectralBench.Proofs.RoundTrip.Stimulus

/-!
# Where the scalars of a stimulus lie

Every draw is a number from zero up to, but not including, one. A double keeps its draw. A single and
a half have fewer digits than a draw, and a draw that is nearer to one than to the largest number
below it is rounded to one. Rounding keeps the order, so for each precision there is a first
numerator from which on this happens, and there is nothing beyond one. All that is asked of the
conversion to halves is that it rounds to the nearest; which half that is does not depend on it.

Main statements:

* `Format.IsProper.settled_mono` — rounding to a format keeps the order.
* `Precision.rounded_lt_one_iff` — which draws stay below one.
* `Configuration.stimulus_below_one` — where each scalar of a stimulus lies.
* `Configuration.stimulus_reaches_one` — stimuli that contain the number one.
-/

namespace SpectralBench

open Binary SpectralBench.Random

namespace Binary.Format

variable {f : Format} {m n : ℕ}

theorem IsProper.settled_mono (hf : f.IsProper) (h : m ≤ n) : f.settled m ≤ f.settled n :=
  Nat.mul_le_mul_right _ (nearest_mono hf.digits_pos f.finerUnits_pos h)

end Binary.Format

namespace Precision

/-- The units that a number of units is rounded to. -/
def rounded (precision : Precision) (units : ℕ) : ℕ :=
  match precision with
  | .single => Format.single.settled units
  | .double => units
  | .half => Format.half.settled units

theorem rounded_mono (precision : Precision) {m n : ℕ} (h : m ≤ n) :
    precision.rounded m ≤ precision.rounded n := by
  cases precision with
  | single => exact Format.single_isProper.settled_mono h
  | double => exact h
  | half => exact Format.half_isProper.settled_mono h

theorem rounded_le_one (precision : Precision) {n : ℕ} (h : n ≤ Double.one) :
    precision.rounded n ≤ Double.one := by
  cases precision with
  | single => exact Format.single_isProper.settled_le_one h
  | double => exact h
  | half => exact Format.half_isProper.settled_le_one h

/-- A rounding reads as the number that its draw is rounded to. -/
theorem decode_of_isRounding {precision : Precision} {units bits : ℕ} (hunits : units ≤ Double.one)
    (h : precision.IsRounding units bits) :
    precision.format.decode bits = .finite false (precision.rounded units) := by
  cases precision with
  | single =>
    obtain ⟨value, hrounded⟩ := h
    rw [rounded, ← Format.single_isProper.settled_of_isRounded hunits hrounded]
    exact hrounded.stands
  | double => exact h
  | half =>
    obtain ⟨value, hrounded⟩ := h
    rw [rounded, ← Format.half_isProper.settled_of_isRounded hunits hrounded]
    exact hrounded.stands

/-- The first numerator over `2 ^ 53` whose draw is rounded to one. A single has 29 digits less than a
draw, so its last number below one ends half a step, `2 ^ 28`, before one, and that of a half, which
has 42 digits less, `2 ^ 41` before one. A double has them all. -/
def firstOne : Precision → ℕ
  | .single => 2 ^ 53 - 2 ^ 28
  | .double => 2 ^ 53
  | .half => 2 ^ 53 - 2 ^ 41

theorem rounded_firstOne (precision : Precision) :
    precision.rounded (precision.firstOne <<< (1074 - 53)) = Double.one := by
  cases precision <;> decide +kernel

theorem rounded_before_firstOne (precision : Precision) :
    precision.rounded ((precision.firstOne - 1) <<< (1074 - 53)) < Double.one := by
  cases precision <;> decide +kernel

/-- The draws that stay below one. As rounding keeps the order, the last of them and the first that
does not stay there decide for all others. -/
theorem rounded_lt_one_iff (precision : Precision) (n : ℕ) :
    precision.rounded (n <<< (1074 - 53)) < Double.one ↔ n < precision.firstOne := by
  have hmono {a b : ℕ} (h : a ≤ b) :
      precision.rounded (a <<< (1074 - 53)) ≤ precision.rounded (b <<< (1074 - 53)) :=
    precision.rounded_mono (shiftLeft_mono h (Nat.le_refl _))
  constructor
  · intro hbelow
    refine Nat.lt_of_not_le fun hreached => Nat.not_le_of_lt hbelow ?_
    rw [← precision.rounded_firstOne]
    exact hmono hreached
  · intro hlt
    exact Nat.lt_of_le_of_lt (hmono (Nat.le_sub_one_of_lt hlt)) precision.rounded_before_firstOne

end Precision

namespace Geometry

variable {toHalf : Double → UInt16} {g : Geometry}

/-- Each scalar of a stimulus is its rounded draw. -/
theorem scalarAt_stimulus (hhalf : g.precision = .half → RoundsToHalf toHalf) (seed : UInt64)
    {position : ℕ} (hposition : position < g.scalarCount) :
    g.precision.scalarAt (g.stimulus toHalf seed) position =
      .finite false (g.precision.rounded (numerator seed position <<< (1074 - 53))) := by
  have hrounding := (g.isDrawn_patternAt toHalf seed hposition).isRounding hhalf
  have hone := Precision.shifted_le_one (numerator_lt seed position)
  exact Precision.decode_of_isRounding hone hrounding

/-- Where a scalar of a stimulus lies: it is a number that is neither negative nor beyond one, and it
is below one exactly if its draw comes before the first that is rounded to one. -/
structure LiesUpToOne (toHalf : Double → UInt16) (g : Geometry) (seed : UInt64)
    (position units : ℕ) : Prop where
  scalar_eq : g.precision.scalarAt (g.stimulus toHalf seed) position = .finite false units
  units_le : units ≤ Double.one
  units_lt_iff : units < Double.one ↔
    ((Generator.seeded seed).drawn position >>> 11).toNat < g.precision.firstOne

theorem liesUpToOne (hhalf : g.precision = .half → RoundsToHalf toHalf) (seed : UInt64)
    {position : ℕ} (hposition : position < g.scalarCount) :
    g.LiesUpToOne toHalf seed position
      (g.precision.rounded (numerator seed position <<< (1074 - 53))) where
  scalar_eq := g.scalarAt_stimulus hhalf seed hposition
  units_le := g.precision.rounded_le_one (Precision.shifted_le_one (numerator_lt seed position))
  units_lt_iff := by
    rw [Generator.drawn_seeded]
    exact g.precision.rounded_lt_one_iff _

end Geometry

/-- **The scalars of a stimulus lie between zero and one.** All bytes of a stimulus are scalars, and
each of them is a number from zero to one, if halves are rounded to the nearest. At double precision
all of them are below one. At the other precisions this is so exactly for the draws that are not
rounded up to one. -/
theorem Configuration.stimulus_below_one {c : Configuration} {g : Geometry}
    (hg : c.geometry = .ok g) {toHalf : Double → UInt16}
    (hhalf : g.precision = .half → RoundsToHalf toHalf) (seed : UInt64) :
    g.configuration = c ∧ (g.stimulus toHalf seed).size = g.scalarCount * g.precision.realSize ∧
      ∀ position < g.scalarCount, ∃ units, g.LiesUpToOne toHalf seed position units ∧
        (g.precision = .double → units < Double.one) := by
  obtain ⟨hconfiguration, hexact⟩ := isExact_of_geometry hg
  have hsize := hexact.size_stimulus toHalf seed
  rw [← hexact.scalarCount_mul] at hsize
  refine ⟨hconfiguration, hsize, fun position hposition => ?_⟩
  refine ⟨_, g.liesUpToOne hhalf seed hposition, fun hdouble => ?_⟩
  rw [g.precision.rounded_lt_one_iff, hdouble]
  exact numerator_lt seed position

/-- One real number. -/
def Geometry.lone (precision : Precision) : Geometry where
  configuration :=
    { kind := .real, placement := .inPlace, precision, extent := ⟨[1], by decide, by decide, by simp⟩ }
  count := 1
  complexCount := 1
  dataSize := 2 * precision.realSize
  complexBufferSize := 0
  transferSize := precision.realSize

theorem Geometry.geometry_lone (precision : Precision) :
    (lone precision).configuration.geometry = .ok (lone precision) := by
  cases precision <;> cbv

/-- A draw so near to one that the half is one and the single is not. -/
theorem Configuration.stimulus_below_one_lone :
    let g : Geometry := .lone .half
    let h : Geometry := .lone .single
    (∃ units, g.precision.scalarAt (g.stimulus Double.toHalf 5269) 0 = .finite false units ∧
      units ≤ Double.one ∧ ¬ units < Double.one) ∧
    ∃ units, h.precision.scalarAt (h.stimulus Double.toHalf 5269) 0 = .finite false units ∧
      units < Double.one := by
  intro g h
  have hdrawn : ((Generator.seeded 5269).drawn 0 >>> 11).toNat = 9006016935295800 := by
    rw [Generator.drawn_seeded]
    decide +kernel
  obtain ⟨-, -, hhalves⟩ := stimulus_below_one (Geometry.geometry_lone .half)
    (fun _ => Double.roundsToHalf_toHalf) 5269
  obtain ⟨-, -, hsingles⟩ := stimulus_below_one (Geometry.geometry_lone .single)
    (fun _ => Double.roundsToHalf_toHalf) 5269
  obtain ⟨half, hhalf, -⟩ := hhalves 0 (show 0 < g.scalarCount by decide)
  obtain ⟨single, hsingle, -⟩ := hsingles 0 (show 0 < h.scalarCount by decide)
  have hreached : ¬ half < Double.one := by
    rw [hhalf.units_lt_iff, hdrawn]
    decide
  have hbelow : single < Double.one := by
    rw [hsingle.units_lt_iff, hdrawn]
    decide
  exact ⟨⟨half, hhalf.scalar_eq, hhalf.units_le, hreached⟩, single, hsingle.scalar_eq, hbelow⟩

/-- A stimulus of one single, which is the number one. -/
theorem Configuration.stimulus_reaches_one :
    let g : Geometry := .lone .single
    g.configuration.geometry = .ok g ∧ 0 < g.scalarCount ∧
      g.precision.scalarAt (g.stimulus Double.toHalf 6772976) 0 = .finite false Double.one := by
  intro g
  have hcount : 0 < g.scalarCount := by decide
  have hrounded : Precision.single.rounded (numerator 6772976 0 <<< (1074 - 53)) = Double.one := by
    decide +kernel
  refine ⟨Geometry.geometry_lone .single, hcount, ?_⟩
  rw [g.scalarAt_stimulus (fun _ => Double.roundsToHalf_toHalf) 6772976 hcount]
  exact congrArg _ hrounded

end SpectralBench
