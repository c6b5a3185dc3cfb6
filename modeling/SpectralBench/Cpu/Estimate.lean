import SpectralBench.Geometry

/-!
# Plan estimates

How many bytes a plan and its work buffers will take, from the extents alone: a table of twiddle
factors for each axis and direction, scratch and a line as long as the longest axis, all complex,
and a real line where the kind is real. Every step is clipped to a word.
-/

namespace SpectralBench.Geometry

/-- The axes that are transformed as complex lines. -/
def complexAxes (g : Geometry) : List Nat :=
  match g.kind with
  | .real => g.extent.outer
  | .complex => g.extent.sizes

/-- The length of the axis that is transformed as a real line; none counts as zero. -/
def realAxis (g : Geometry) : Nat :=
  match g.kind with
  | .real => g.extent.last
  | .complex => 0

/-- The longest line of complex numbers. -/
def longestLine (g : Geometry) : Nat :=
  let longest := g.complexAxes.foldl max 0
  match g.kind with
  | .real => max longest (halfLength g.extent.last)
  | .complex => longest

/-- Entries of the twiddle tables. -/
def twiddles (g : Geometry) : Nat :=
  Word.addSat (g.complexAxes.foldl (fun sum d => Word.addSat sum (Word.mulSat d 2)) 0) g.realAxis

/-- Bytes of a plan for scalars of `realSize` bytes. -/
def planEstimate (g : Geometry) (realSize : Nat) : Nat :=
  let complexElements := Word.addSat g.twiddles (Word.mulSat g.longestLine 2)
  Word.addSat (Word.mulSat complexElements (2 * realSize)) (Word.mulSat g.realAxis realSize)

end SpectralBench.Geometry
