import SpectralBench.Geometry
import SpectralBench.Random.Draw

/-!
# Stimuli

The input of a benchmark is a run of uniform draws, written at the precision of the configuration
in little-endian order. Real and imaginary parts are drawn alike, so the bytes depend on the seed,
the precision and the number of scalars, and on nothing else.

Halves are no numbers of the language: how a double becomes one is up to the conversion that the
surroundings provide.

Main statements:

* `length_littleEndian`, `ofLittleEndian_littleEndian` — a number takes its bytes and reads back.
-/

namespace SpectralBench

/-- The `count` low bytes of a number, lowest first. -/
def littleEndian : (count n : Nat) → List UInt8
  | 0, _ => []
  | count + 1, n => UInt8.ofNat n :: littleEndian count (n / 256)

/-- The number that bytes spell, lowest first. -/
def ofLittleEndian : List UInt8 → Nat
  | [] => 0
  | byte :: rest => byte.toNat + 256 * ofLittleEndian rest

theorem length_littleEndian (count n : Nat) : (littleEndian count n).length = count := by
  induction count generalizing n with
  | zero => rfl
  | succ count ih => simp [littleEndian, ih]

theorem ofLittleEndian_littleEndian (count n : Nat) :
    ofLittleEndian (littleEndian count n) = n % Nat.pow 256 count := by
  induction count generalizing n with
  | zero => simp [littleEndian, ofLittleEndian, Nat.mod_one]
  | succ count ih =>
    have hbyte : (UInt8.ofNat n).toNat = n % 256 := by simp
    rw [littleEndian, ofLittleEndian, ih, hbyte, Nat.pow_eq, Nat.pow_eq, Nat.pow_succ', Nat.mod_mul]

namespace Precision

/-- The binary format of one number. -/
def format : Precision → Binary.Format
  | .single => .single
  | .double => .double
  | .half => .half

/-- The bit pattern of a double at this precision, with the given conversion to halves. -/
def encode (toHalf : Binary.Double → UInt16) (precision : Precision) (x : Binary.Double) : Nat :=
  match precision with
  | .single => Binary.Format.single.encode x
  | .double => Binary.Format.double.encode x
  | .half => (toHalf x).toNat

/-- The bytes of a double at this precision. -/
def toBytes (toHalf : Binary.Double → UInt16) (precision : Precision) (x : Binary.Double) :
    List UInt8 :=
  littleEndian precision.realSize (precision.encode toHalf x)

/-- The number that bytes at this precision stand for. -/
def ofBytes (precision : Precision) (bytes : List UInt8) : Binary.Double :=
  precision.format.decode (ofLittleEndian bytes)

theorem length_toBytes (toHalf : Binary.Double → UInt16) (precision : Precision)
    (x : Binary.Double) : (precision.toBytes toHalf x).length = precision.realSize :=
  length_littleEndian _ _

end Precision

namespace Geometry

/-- The scalars of one transfer; a complex element has two. -/
def scalarCount (g : Geometry) : Nat :=
  g.transferSize / g.precision.realSize

/-- The input for a seed. -/
def stimulus (toHalf : Binary.Double → UInt16) (g : Geometry) (seed : UInt64) : Array UInt8 :=
  (Random.numerators seed g.scalarCount).flatMap fun numerator =>
    (g.precision.toBytes toHalf (Random.fraction numerator)).toArray

end Geometry

end SpectralBench
