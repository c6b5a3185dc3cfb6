/-!
# Transform parameters

The three discrete parameters of a transform: what it maps (`Kind`), where its result goes
(`Placement`) and how wide its numbers are (`Precision`). Each has a title for people, a label for
documents, and names under which it can be asked for.

Main statements:

* `Kind.named?_label`, `Placement.named?_label`, `Precision.named?_label` — a label names its value.
-/

namespace SpectralBench

/-- Real numbers to half a spectrum, or complex numbers to a whole one. -/
inductive Kind where
  | real
  | complex
  deriving DecidableEq, Repr

namespace Kind

def all : List Kind := [.real, .complex]

def isReal : Kind → Bool
  | .real => true
  | .complex => false

def title : Kind → String
  | .real => "Real"
  | .complex => "Complex"

def label : Kind → String
  | .real => "real"
  | .complex => "complex"

/-- The kind asked for by a lowercase name. -/
def named? : String → Option Kind
  | "real" | "r2c" => some .real
  | "complex" | "c2c" => some .complex
  | _ => none

theorem named?_label (kind : Kind) : named? kind.label = some kind := by
  cases kind <;> rfl

end Kind

/-- Over the input, or into a buffer of its own. -/
inductive Placement where
  | inPlace
  | outOfPlace
  deriving DecidableEq, Repr

namespace Placement

def all : List Placement := [.inPlace, .outOfPlace]

def isInPlace : Placement → Bool
  | .inPlace => true
  | .outOfPlace => false

def title : Placement → String
  | .inPlace => "Inplace"
  | .outOfPlace => "Outplace"

def label : Placement → String
  | .inPlace => "inplace"
  | .outOfPlace => "outplace"

/-- The placement asked for by a lowercase name. -/
def named? : String → Option Placement
  | "inplace" | "in-place" => some .inPlace
  | "outplace" | "out-of-place" | "outofplace" => some .outOfPlace
  | _ => none

theorem named?_label (placement : Placement) : named? placement.label = some placement := by
  cases placement <;> rfl

end Placement

/-- Numbers of four, eight or two bytes. -/
inductive Precision where
  | single
  | double
  | half
  deriving DecidableEq, Repr

namespace Precision

def all : List Precision := [.single, .double, .half]

def label : Precision → String
  | .single => "float"
  | .double => "double"
  | .half => "half"

/-- The precision asked for by a lowercase name. -/
def named? : String → Option Precision
  | "single" | "float" | "f32" => some .single
  | "double" | "f64" => some .double
  | "half" | "f16" | "float16" => some .half
  | _ => none

theorem named?_label (precision : Precision) : named? precision.label = some precision := by
  cases precision <;> rfl

/-- Bytes of one real number. -/
def realSize : Precision → Nat
  | .single => 4
  | .double => 8
  | .half => 2

/-- Bytes of one complex number: a real part, then an imaginary part. -/
def complexSize (precision : Precision) : Nat :=
  2 * precision.realSize

/-- Bytes of one element of the space domain. -/
def valueSize (precision : Precision) (kind : Kind) : Nat :=
  if kind.isReal then precision.realSize else precision.complexSize

theorem realSize_pos (precision : Precision) : 0 < precision.realSize := by
  cases precision <;> decide

end Precision

end SpectralBench
