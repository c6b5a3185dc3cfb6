import SpectralBench.Cpu.Plan
import SpectralBench.Word

/-!
# Transforms along axes

An array of several axes is stored row by row, the last axis contiguous. A transform along another axis
goes through its lines, whose elements lie one stride apart: element `i` of line `j` in block `o` is at
`o * (length * stride) + i * stride + j`. One line is gathered into a buffer, transformed there and
written back before the next is gathered. Axes come outermost first, and where there is no room to work
along one of them, the array stays as the axes before it have left it.
-/

namespace SpectralBench.Cpu

variable {α : Type}

/-- A place of an array as a line and an index along it. -/
structure Place where
  /-- Blocks are counted from the outer axes. -/
  block : Nat
  /-- The element along the axis. -/
  index : Nat
  /-- The offset inside the stride. -/
  offset : Nat
  deriving DecidableEq, Repr

/-- The position in the array. -/
def Place.position (length stride : Nat) (place : Place) : Nat :=
  place.block * (length * stride) + place.index * stride + place.offset

/-- What a transform along axes works with: the array, and a line and scratch for it. -/
structure Desk (α : Type) where
  data : Array (Complex α)
  line : Array (Complex α)
  scratch : Array (Complex α)

/-- The failure of a transform whose array does not have the shape's size. -/
def shapeMismatch (operation : String) (size total : Nat) : Failure :=
  .backend "host" operation s!"buffer holds {size} elements, shape needs {total}"

/-- Refuses a work buffer that is shorter than a plan needs. -/
def ensureSpace (operation : String) (available needed : Nat) : Except Failure Unit :=
  if needed ≤ available then .ok ()
  else .error (.backend "host" operation
    s!"scratch holds {available} elements, plan needs {needed}")

/-! ## One line -/

/-- Copies an element of the array to its place in the line. -/
def gatherElement (length stride : Nat) (place : Place) (i : Nat) : Work (Desk α) Unit :=
  act fun desk =>
    let position := { place with index := i }.position length stride
    match desk.data[position]? with
    | some value => (.ok (), { desk with line := desk.line.setIfInBounds i value })
    | none => (.error (outOfRange position desk.data.size), desk)

/-- Copies an element of the line back to where it belongs in the array. -/
def scatterElement (length stride : Nat) (place : Place) (i : Nat) : Work (Desk α) Unit :=
  act fun desk =>
    let position := { place with index := i }.position length stride
    match desk.line[i]? with
    | some value =>
      if position < desk.data.size then
        (.ok (), { desk with data := desk.data.setIfInBounds position value })
      else (.error (outOfRange position desk.data.size), desk)
    | none => (.error (outOfRange i desk.line.size), desk)

/-- Transforms what the line begins with, over itself. -/
def runLine (plan : LinePlan α) (length : Nat) : Work (Desk α) Unit :=
  act fun desk =>
    let (outcome, line, scratch) :=
      plan.inPlace (front length desk.line) (front plan.scratchInPlace desk.scratch)
    (outcome.mapError .panic,
      { desk with line := putFront line desk.line, scratch := putFront scratch desk.scratch })

/-- Transforms the line through a place. -/
def transformLine (plan : LinePlan α) (length stride : Nat) (place : Place) :
    Work (Desk α) Unit := do
  countUp length (gatherElement length stride place)
  runLine plan length
  countUp length (scatterElement length stride place)

/-! ## One axis -/

/-- Transforms the first lines of a block, by their offsets. -/
def transformBlock (plan : LinePlan α) (length stride block offsets : Nat) : Work (Desk α) Unit :=
  countUp offsets fun offset => transformLine plan length stride ⟨block, 0, offset⟩

/-- Transforms every line along an axis of the given length and stride, block by block. -/
def transformAxis (plan : LinePlan α) (blocks length stride : Nat) : Work (Desk α) Unit :=
  countUp blocks fun block => transformBlock plan length stride block stride

/-! ## The outer axes -/

/-- Transforms the axes of a shape from the given one on, one for each plan. -/
def transformAxes (operation : String) (shape : List Nat) (axis : Nat) :
    List (LinePlan α) → Work (Desk α) Unit
  | [] => return ()
  | plan :: plans =>
    match shape[axis]? with
    | none => throw (outOfRange axis shape.length)
    | some length => do
      let desk ← get
      settle (ensureSpace operation desk.line.size length)
      settle (ensureSpace operation desk.scratch.size plan.scratchInPlace)
      transformAxis plan (Word.product (shape.take axis)) length
        (Word.product (shape.drop (axis + 1)))
      transformAxes operation shape (axis + 1) plans

/-- Transforms an array of the given shape along its leading axes, one for each plan. Without plans
there is nothing to do, whatever the array holds. -/
def transformOuter (operation : String) (shape : List Nat) (plans : List (LinePlan α)) :
    Work (Desk α) Unit := do
  if plans.isEmpty then return ()
  let size := (← get).data.size
  if size ≠ Word.product shape then
    throw (shapeMismatch operation size (Word.product shape))
  transformAxes operation shape 0 plans

end SpectralBench.Cpu
