import SpectralBench.Configuration
import SpectralBench.Word

/-!
# Buffer geometry

Every size that a benchmark needs follows from its configuration: how many elements each domain
has, how many bytes the buffers hold and how many one transfer moves. A real transform has half a
spectrum along its contiguous axis, and in place each of its rows is padded to hold that half
spectrum. A size that is no 64-bit word makes the extent invalid.

Main statements:

* `complexSizes_eq` — the half spectrum changes the contiguous length only.
-/

namespace SpectralBench

/-- The length of the half spectrum of `last` real numbers. -/
def halfLength (last : Nat) : Nat :=
  last / 2 + 1

/-- The lengths of the axes in the transform domain. -/
def Extent.complexSizes (e : Extent) (kind : Kind) : List Nat :=
  match kind with
  | .real => e.outer ++ [halfLength e.last]
  | .complex => e.sizes

theorem Extent.complexSizes_eq (e : Extent) (kind : Kind) :
    e.complexSizes kind = e.outer ++ [if kind.isReal then halfLength e.last else e.last] := by
  cases kind <;> simp [complexSizes, Kind.isReal, e.outer_append_last]

/-- The sizes that follow from a configuration, in elements and in bytes. -/
structure Geometry where
  configuration : Configuration
  /-- Elements in the space domain. -/
  count : Nat
  /-- Elements in the transform domain. -/
  complexCount : Nat
  /-- Bytes of the primary buffer. -/
  dataSize : Nat
  /-- Bytes of the secondary buffer; none in place. -/
  complexBufferSize : Nat
  /-- Bytes of one upload or download. -/
  transferSize : Nat
  deriving DecidableEq

namespace Geometry

def kind (g : Geometry) : Kind := g.configuration.kind

def placement (g : Geometry) : Placement := g.configuration.placement

def precision (g : Geometry) : Precision := g.configuration.precision

def extent (g : Geometry) : Extent := g.configuration.extent

/-- The lengths of the axes in the transform domain. -/
def complexSizes (g : Geometry) : List Nat :=
  g.extent.complexSizes g.kind

/-- Buffers of this many bytes need indices wider than 32 bits. -/
def wideThreshold : Nat := 4294967296

/-- Whether one of the buffers needs wide indices. -/
def isWide (g : Geometry) : Bool :=
  wideThreshold ≤ g.dataSize || wideThreshold ≤ g.complexBufferSize

/-- Bytes of one element of the space domain. -/
def valueSize (g : Geometry) : Nat :=
  g.precision.valueSize g.kind

/-- Bytes of both buffers. -/
def allocationSize (g : Geometry) : Nat :=
  Word.addSat g.dataSize g.complexBufferSize

/-- A real transform in place, whose rows are padded. -/
def isPadded (g : Geometry) : Bool :=
  g.kind.isReal && g.placement.isInPlace

/-- The number of contiguous rows. -/
def rows (g : Geometry) : Nat :=
  g.count / g.extent.last

end Geometry

namespace Configuration

/-- A quantity, or the failure that names it. -/
def fitted (c : Configuration) (quantity : String) : Option Nat → Except Failure Nat
  | some value => .ok value
  | none => .error (.invalidExtent c.extent.sizes (Extent.Defect.overflow quantity).message)

/-- Elements of the primary buffer, counted in space-domain values: a padded row holds as many real
numbers as its half spectrum. -/
def dataCount (c : Configuration) (count complexCount : Nat) : Except Failure Nat :=
  match c.kind, c.placement with
  | .real, .inPlace => c.fitted "padded element count" (Word.mul? complexCount 2)
  | _, _ => .ok count

/-- Bytes of the secondary buffer. -/
def secondarySize (c : Configuration) (complexCount : Nat) : Except Failure Nat :=
  match c.placement with
  | .inPlace => .ok 0
  | .outOfPlace =>
    c.fitted "complex buffer size" (Word.mul? complexCount c.precision.complexSize)

/-- The geometry of a configuration, or the first of its sizes that does not fit. -/
def geometry (c : Configuration) : Except Failure Geometry := do
  let valueSize := c.precision.valueSize c.kind
  let count ← c.fitted "element count" (Word.product? c.extent.sizes)
  let complexCount ← c.fitted "element count" (Word.product? (c.extent.complexSizes c.kind))
  let dataCount ← c.dataCount count complexCount
  let dataSize ← c.fitted "data size" (Word.mul? dataCount valueSize)
  let complexBufferSize ← c.secondarySize complexCount
  let transferSize ← c.fitted "transfer size" (Word.mul? count valueSize)
  return { configuration := c, count, complexCount, dataSize, complexBufferSize, transferSize }

end Configuration

end SpectralBench
