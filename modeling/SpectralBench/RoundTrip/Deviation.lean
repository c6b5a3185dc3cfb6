import SpectralBench.Geometry.Rows
import SpectralBench.RoundTrip.Stimulus

/-!
# Deviations of a round trip

A forward transform followed by the inverse one should give the input back, times the number of
elements where the backend does not scale. The deviation is measured in double precision, scalar by
scalar in order: the largest absolute difference, and the root of the mean square. Only the latter
decides, and a value that is no finite number is never accepted.

Main statements:

* `accepts_eq_false_of_not_finite` — an infinite or undefined deviation is refused by every bound.
-/

namespace SpectralBench

open Binary

/-- How far an output is from the input that it came from. -/
structure Deviation where
  maxAbs : Double
  rms : Double
  deriving DecidableEq, Repr

/-- The largest accepted root mean square, by precision. -/
structure Tolerance where
  single : Double
  double : Double
  half : Double
  deriving DecidableEq, Repr

namespace Tolerance

def standard : Tolerance :=
  ⟨Double.ofRatio false 1 100000, Double.ofRatio false 1 10000000000, Double.ofRatio false 1 100⟩

def bound (tolerance : Tolerance) : Precision → Double
  | .single => tolerance.single
  | .double => tolerance.double
  | .half => tolerance.half

def accepts (tolerance : Tolerance) (precision : Precision) (deviation : Deviation) : Bool :=
  deviation.rms.isFinite && deviation.rms.le (tolerance.bound precision)

theorem accepts_eq_false_of_not_finite (tolerance : Tolerance) (precision : Precision)
    {deviation : Deviation} (h : deviation.rms.isFinite = false) :
    tolerance.accepts precision deviation = false := by
  simp [accepts, h]

end Tolerance

namespace Deviation

/-- The largest difference and the sum of squares so far. -/
structure Sums where
  maxAbs : Double
  squares : Double

def Sums.add (sums : Sums) (difference : Double) : Sums :=
  ⟨sums.maxAbs.max difference.abs, sums.squares.add (difference.mul difference)⟩

/-- The deviation of a list of differences. -/
def ofDifferences (differences : List Double) : Deviation :=
  let sums := differences.foldl Sums.add ⟨.zero, .zero⟩
  ⟨sums.maxAbs, (sums.squares.div (.ofNat differences.length)).sqrt⟩

end Deviation

/-- The whole chunks of a list, `size` elements each; what remains at the end is dropped. -/
def chunks {α : Type} (size : Nat) (items : List α) : List (List α) :=
  if 0 < size ∧ size ≤ items.length then items.take size :: chunks size (items.drop size) else []
termination_by items.length
decreasing_by simp only [List.length_drop]; omega

/-- The numbers that bytes hold. -/
def Precision.numbers (precision : Precision) (bytes : List UInt8) : List Double :=
  (chunks precision.realSize bytes).map precision.ofBytes

namespace Geometry

/-- The factor that brings an output back to the size of the input. -/
def outputScale (g : Geometry) (normalized : Bool) : Double :=
  if normalized then .ofNat 1 else (Double.ofNat 1).div (.ofNat g.count)

/-- The deviation of an output from its input. -/
def deviation (g : Geometry) (input output : Array UInt8) (normalized : Bool) :
    Except Failure Deviation := do
  g.checkTransfer "validate" input.size
  g.checkTransfer "validate" output.size
  let scale := g.outputScale normalized
  let expected := g.precision.numbers input.toList
  let actual := g.precision.numbers output.toList
  if expected.isEmpty then throw (.backend "validate" "deviation" "empty signal")
  return .ofDifferences (List.zipWith (fun e a => (a.mul scale).sub e) expected actual)

end Geometry

end SpectralBench
