import SpectralBench.Extent

/-!
# Configurations

A configuration is one point of the benchmark's parameter space: a kind, a placement, a precision
and an extent. Labels are read without regard to case and surrounding blanks.
-/

namespace SpectralBench

/-- Looks up a label, whatever its case and the blanks around it. -/
def readLabel {α : Type} (expected : Labelled) (named? : String → Option α) (text : String) :
    Except Failure α :=
  match named? (Text.folded text) with
  | some value => .ok value
  | none => .error (.misconfigured (.unknownLabel expected (Text.folded text)))

def Kind.read (text : String) : Except Failure Kind :=
  readLabel .kind Kind.named? text

def Placement.read (text : String) : Except Failure Placement :=
  readLabel .placement Placement.named? text

def Precision.read (text : String) : Except Failure Precision :=
  readLabel .precision Precision.named? text

/-- One transform to measure. -/
structure Configuration where
  kind : Kind
  placement : Placement
  precision : Precision
  extent : Extent
  deriving DecidableEq

/-- The title of a configuration in messages, such as `Inplace_Real/float/4x6`. -/
def Configuration.text (c : Configuration) : String :=
  s!"{c.placement.title}_{c.kind.title}/{c.precision.label}/{c.extent.text}"

end SpectralBench
