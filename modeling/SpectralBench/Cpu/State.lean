import SpectralBench.Cpu.Axis
import SpectralBench.Geometry.Rows

/-!
# The state of a processor engine

An engine on the processor holds its buffers as scalars, the plan at hand, and work buffers: scratch
and a line of complex numbers, and a line of reals. All of them keep what the last call left in
them. The engine's calls are work on this state; a call that fails keeps what it did before it
failed.

Out of place, a forward transform goes from the primary to the secondary buffer and an inverse one
back. In place, a real transform turns each padded row of numbers into its half spectrum. What it
leaves in the buffer that it came from is up to the library.
-/

namespace SpectralBench.Cpu

variable {α : Type}

/-- What does not change during the life of an engine. -/
structure Rig (α : Type) where
  geometry : Geometry
  library : Library α
  /-- What every element is multiplied by after an inverse transform, if anything. -/
  scale : Option α
  /-- The largest number of bytes that a buffer may have. -/
  maxBuffer : Nat

/-- Plan, buffers and work buffers. -/
structure State (α : Type) where
  plan : Option (Plan α)
  primary : Array α
  secondary : Array α
  scratch : Array (Complex α)
  line : Array (Complex α)
  realLine : Array α

/-- The two buffers that transforms go between. -/
inductive Side where
  | primary
  | secondary

namespace State

def empty : State α :=
  ⟨none, #[], #[], #[], #[], #[]⟩

/-- The sizes of the work buffers. -/
def space (state : State α) : Workspace :=
  ⟨state.scratch.size, state.line.size, state.realLine.size⟩

def buffer (state : State α) : Side → Array α
  | .primary => state.primary
  | .secondary => state.secondary

def put (state : State α) (buffer : Array α) : Side → State α
  | .primary => { state with primary := buffer }
  | .secondary => { state with secondary := buffer }

end State

/-- A call that works on the state and may fail. -/
abbrev Action (α β : Type) : Type :=
  Work (State α) β

namespace Rig

def fail {β : Type} (operation reason : String) : Action α β :=
  throw (.backend "host" operation reason)

/-! ## Buffers -/

/-- Bytes of one scalar. -/
def unit (rig : Rig α) : Nat :=
  rig.geometry.precision.realSize

/-- A buffer of zeros, unless it is too large. -/
def zeroed [Zero α] (rig : Rig α) (buffer : String) (bytes : Nat) : Action α (Array α) :=
  if bytes ≤ rig.maxBuffer then return Array.replicate (bytes / rig.unit) 0
  else throw (.allocation "host" buffer bytes)

/-- Reserves the buffers, the primary one first. -/
def allocate [Zero α] (rig : Rig α) : Action α Unit := do
  let primary ← rig.zeroed "data" rig.geometry.dataSize
  modify fun state => { state with primary }
  match rig.geometry.placement with
  | .inPlace => return ()
  | .outOfPlace =>
    let secondary ← rig.zeroed "complex" rig.geometry.complexBufferSize
    modify fun state => { state with secondary }

/-- Copies the scalars of a transfer into the primary buffer. -/
def upload (rig : Rig α) (host : Array α) : Action α Unit := do
  let (primary, outcome) := rig.geometry.scatter rig.unit host (← get).primary
  modify fun state => { state with primary }
  settle outcome

/-- The scalars of a transfer, read out of the primary buffer over what the host holds. -/
def download (rig : Rig α) (host : Array α) : Action α (Array α) := do
  let (host, outcome) := rig.geometry.gather rig.unit (← get).primary host
  settle outcome
  return host

/-- Gives everything back. -/
def destroy (_ : Rig α) : Action α Unit :=
  set (.empty : State α)

/-! ## Planning -/

/-- The plan of a direction. A complex plan serves both. -/
def plan (rig : Rig α) (inverse : Bool) : Plan α :=
  let g := rig.geometry
  match g.kind, inverse with
  | .complex, _ =>
    { forward := g.extent.sizes.map rig.library.forward
      inverse := g.extent.sizes.map rig.library.inverse
      spectrum := none
      signal := none }
  | .real, false =>
    { forward := g.extent.outer.map rig.library.forward
      inverse := []
      spectrum := some (rig.library.spectrum g.extent.last)
      signal := none }
  | .real, true =>
    { forward := []
      inverse := g.extent.outer.map rig.library.inverse
      spectrum := none
      signal := some (rig.library.signal g.extent.last) }

/-- What the plan of a direction works with. -/
def workspace (rig : Rig α) (inverse : Bool) : Workspace :=
  (rig.plan inverse).workspace rig.geometry.extent.last

/-- A work buffer with room for so many elements of a size in bytes: zeros follow what it holds, unless
it gets too large. The failure counts elements. -/
def grow {β : Type} (rig : Rig α) (buffer : String) (bytes : Nat) (zero : β) (needed : Nat)
    (held : Array β) : Except Failure (Array β) :=
  if needed ≤ held.size then .ok held
  else if needed * bytes ≤ rig.maxBuffer then
    .ok (held ++ Array.replicate (needed - held.size) zero)
  else .error (.allocation "host" buffer needed)

/-- Makes the work buffers large enough for the plan of a direction, one after another, and keeps the
plan. -/
def install [Zero α] (rig : Rig α) (inverse : Bool) : Action α Unit := do
  let space := rig.workspace inverse
  let scratch ← settle (rig.grow "scratch" (2 * rig.unit) ⟨0, 0⟩ space.scratch (← get).scratch)
  modify fun state => { state with scratch }
  let line ← settle (rig.grow "line" (2 * rig.unit) ⟨0, 0⟩ space.line (← get).line)
  modify fun state => { state with line }
  let realLine ← settle (rig.grow "real line" rig.unit 0 space.realLine (← get).realLine)
  modify fun state => { state with realLine, plan := some (rig.plan inverse) }

def planForward [Zero α] (rig : Rig α) : Action α Unit :=
  rig.install false

/-- Replaces the forward plan of a real transform, which is gone even where there is no room for the
other. -/
def planInverse [Zero α] (rig : Rig α) : Action α Unit :=
  match rig.geometry.kind with
  | .complex => return ()
  | .real => do
    modify fun state => { state with plan := none }
    rig.install true

/-! ## Complex views -/

/-- The complex view of a slice, which takes an even number of scalars. -/
def complexView (operation : String) (slice : Array α) : Except Failure (Array (Complex α)) :=
  if slice.size % 2 = 0 then .ok (pairs slice)
  else .error (.backend "host" operation "complex view: OutputSliceWouldHaveSlop")

/-- Lends the complex view of a buffer to some work, with a line and scratch. -/
def lend (operation : String) (side : Side) (work : Work (Desk α) Unit) : Action α Unit :=
  act fun state =>
    match complexView operation (state.buffer side) with
    | .error failure => (.error failure, state)
    | .ok data =>
      let (outcome, desk) := work.run.run ⟨data, state.line, state.scratch⟩
      (outcome, { state.put (flat desk.data) side with line := desk.line, scratch := desk.scratch })

/-! ## Complex transforms -/

/-- Transforms the rows of a complex buffer over themselves. -/
def runRows (operation : String) (plan : LinePlan α) : Work (Desk α) Unit :=
  act fun desk =>
    match ensureSpace operation desk.scratch.size plan.scratchInPlace with
    | .error failure => (.error failure, desk)
    | .ok () =>
      let (outcome, data, scratch) :=
        plan.inPlace desk.data.toVector (front plan.scratchInPlace desk.scratch)
      (outcome.mapError .panic,
        { desk with data := data.toArray, scratch := putFront scratch desk.scratch })

/-- Transforms the rows of one buffer into the other. -/
def runRowsAcross (operation : String) (plan : LinePlan α) (source target : Side) : Action α Unit :=
  act fun state =>
    let views : Except Failure (Array (Complex α) × Array (Complex α)) := do
      let input ← complexView operation (state.buffer source)
      let output ← complexView operation (state.buffer target)
      ensureSpace operation state.scratch.size plan.scratchOutOfPlace
      return (input, output)
    match views with
    | .error failure => (.error failure, state)
    | .ok (input, output) =>
      let (outcome, input, output, scratch) := plan.outOfPlace input.toVector output.toVector
        (front plan.scratchOutOfPlace state.scratch)
      (outcome.mapError .panic,
        { (state.put (flat input.toArray) source).put (flat output.toArray) target with
          scratch := putFront scratch state.scratch })

/-- The plans of the outer axes, and that of the contiguous one behind them. -/
def splitPlans (rank : Nat) (plans : List (LinePlan α)) :
    Except Failure (List (LinePlan α) × LinePlan α) :=
  match plans[rank - 1]? with
  | some row => .ok (plans.take (rank - 1), row)
  | none => .error (outOfRange (rank - 1) plans.length)

/-- Runs a complex transform: contiguous rows first on the way forward, and last on the way back
where there are two buffers. -/
def runComplex (rig : Rig α) (operation : String) (inverse : Bool)
    (plans : List (LinePlan α)) : Action α Unit := do
  let shape := rig.geometry.extent.sizes
  let (leading, row) ← settle (splitPlans shape.length plans)
  match rig.geometry.placement, inverse with
  | .inPlace, _ =>
    lend operation .primary do
      runRows operation row
      transformOuter operation shape leading
  | .outOfPlace, false =>
    runRowsAcross operation row .primary .secondary
    lend operation .secondary (transformOuter operation shape leading)
  | .outOfPlace, true =>
    -- both views are taken before either buffer is touched
    let _ ← settle (complexView operation (← get).primary)
    lend operation .secondary (transformOuter operation shape leading)
    runRowsAcross operation row .secondary .primary

/-! ## Real transforms -/

/-- Scalars of a padded row. -/
def paddedWidth (rig : Rig α) : Nat :=
  2 * halfLength rig.geometry.extent.last

/-- Copies the numbers that a padded row begins with to the line of reals. -/
def rowToLine (rig : Rig α) (row : Nat) : Action α Unit :=
  act fun state =>
    let numbers := (rowAt rig.paddedWidth state.primary row).extract 0 rig.geometry.extent.last
    match copied state.realLine numbers with
    | .error failure => (.error failure, state)
    | .ok realLine => (.ok (), { state with realLine })

/-- Copies the line of reals to where a padded row begins. -/
def lineToRow (rig : Rig α) (row : Nat) : Action α Unit :=
  act fun state =>
    let numbers := (rowAt rig.paddedWidth state.primary row).extract 0 rig.geometry.extent.last
    match copied numbers state.realLine with
    | .error failure => (.error failure, state)
    | .ok numbers =>
      (.ok (), { state with primary := putRow rig.paddedWidth row numbers state.primary })

/-- Turns a padded row of numbers into its half spectrum, by way of the line of reals. -/
def spectrumInPlace (rig : Rig α) (operation : String) (plan : SpectrumPlan α) (row : Nat) :
    Action α Unit := do
  rig.rowToLine row
  act fun state =>
    match complexView operation (rowAt rig.paddedWidth state.primary row) with
    | .error failure => (.error failure, state)
    | .ok view =>
      let (outcome, numbers, half, scratch) := plan.process state.realLine.toVector view.toVector
        (front plan.scratch state.scratch)
      (outcome.mapError (.backend "host" operation),
        { state with
          realLine := numbers.toArray
          primary := putRow rig.paddedWidth row (flat half.toArray) state.primary
          scratch := putFront scratch state.scratch })

/-- Makes the half spectrum of a row of the primary buffer in the secondary one. -/
def spectrumAcross (rig : Rig α) (operation : String) (plan : SpectrumPlan α) (row : Nat) :
    Action α Unit :=
  act fun state =>
    let last := rig.geometry.extent.last
    let source := rowAt last state.primary row
    let target := pairs (rowAt rig.paddedWidth state.secondary row)
    let (outcome, numbers, half, scratch) := plan.process source.toVector target.toVector
      (front plan.scratch state.scratch)
    (outcome.mapError (.backend "host" operation),
      { state with
        primary := putRow last row numbers.toArray state.primary
        secondary := putRow rig.paddedWidth row (flat half.toArray) state.secondary
        scratch := putFront scratch state.scratch })

def runRealForward (rig : Rig α) (outer : List (LinePlan α)) (plan : SpectrumPlan α) :
    Action α Unit := do
  let operation := "execute_forward"
  let state ← get
  let last := rig.geometry.extent.last
  settle (ensureSpace operation state.scratch.size plan.scratch)
  match rig.geometry.placement with
  | .inPlace =>
    countUp (state.primary.size / rig.paddedWidth) (rig.spectrumInPlace operation plan)
    lend operation .primary (transformOuter operation rig.geometry.complexSizes outer)
  | .outOfPlace =>
    let view ← settle (complexView operation state.secondary)
    countUp (min (state.primary.size / last) (view.size / halfLength last))
      (rig.spectrumAcross operation plan)
    lend operation .secondary (transformOuter operation rig.geometry.complexSizes outer)

/-- Clears the imaginary parts that the spectrum of `length` real numbers does not have: that of the
first bin, and for an even length that of the last. -/
def clearEdges [Zero α] (length : Nat) (spectrum : Array (Complex α)) : Array (Complex α) :=
  spectrum.mapIdx fun i c =>
    if i = 0 ∨ (length % 2 = 0 ∧ i + 1 = spectrum.size) then { c with im := 0 } else c

/-- Turns a half spectrum into the numbers of a padded row, by way of the line of reals. -/
def signalInPlace [Zero α] (rig : Rig α) (operation : String) (plan : SignalPlan α) (row : Nat) :
    Action α Unit := do
  let last := rig.geometry.extent.last
  act fun state =>
    match complexView operation (rowAt rig.paddedWidth state.primary row) with
    | .error failure => (.error failure, state)
    | .ok view =>
      let (outcome, half, numbers, scratch) := plan.process (clearEdges last view).toVector
        state.realLine.toVector (front plan.scratch state.scratch)
      (outcome.mapError (.backend "host" operation),
        { state with
          realLine := numbers.toArray
          primary := putRow rig.paddedWidth row (flat half.toArray) state.primary
          scratch := putFront scratch state.scratch })
  rig.lineToRow row

/-- Makes a row of the primary buffer of a half spectrum in the secondary one. -/
def signalAcross [Zero α] (rig : Rig α) (operation : String) (plan : SignalPlan α) (row : Nat) :
    Action α Unit :=
  act fun state =>
    let last := rig.geometry.extent.last
    let source := clearEdges last (pairs (rowAt rig.paddedWidth state.secondary row))
    let target := rowAt last state.primary row
    let (outcome, half, numbers, scratch) := plan.process source.toVector target.toVector
      (front plan.scratch state.scratch)
    (outcome.mapError (.backend "host" operation),
      { state with
        primary := putRow last row numbers.toArray state.primary
        secondary := putRow rig.paddedWidth row (flat half.toArray) state.secondary
        scratch := putFront scratch state.scratch })

def runRealInverse [Zero α] (rig : Rig α) (outer : List (LinePlan α)) (plan : SignalPlan α) :
    Action α Unit := do
  let operation := "execute_inverse"
  let last := rig.geometry.extent.last
  let work := transformOuter operation rig.geometry.complexSizes outer
  match rig.geometry.placement with
  | .inPlace =>
    lend operation .primary work
    let state ← get
    settle (ensureSpace operation state.scratch.size plan.scratch)
    countUp (state.primary.size / rig.paddedWidth) (rig.signalInPlace operation plan)
  | .outOfPlace =>
    lend operation .secondary work
    let state ← get
    settle (ensureSpace operation state.scratch.size plan.scratch)
    let view ← settle (complexView operation state.secondary)
    countUp (min (view.size / halfLength last) (state.primary.size / last))
      (rig.signalAcross operation plan)

/-! ## Execution -/

def executeForward (rig : Rig α) : Action α Unit := do
  let operation := "execute_forward"
  match (← get).plan with
  | none => fail operation "no plan"
  | some plan =>
    match rig.geometry.kind with
    | .complex => rig.runComplex operation false plan.forward
    | .real =>
      match plan.spectrum with
      | none => fail operation "no forward real plan"
      | some row => rig.runRealForward plan.forward row

/-- Multiplies the whole primary buffer, padding included, where the inverse is scaled. -/
def rescale [Mul α] (rig : Rig α) : Action α Unit :=
  match rig.scale with
  | none => return ()
  | some factor => modify fun state => { state with primary := state.primary.map (· * factor) }

def executeInverse [Zero α] [Mul α] (rig : Rig α) : Action α Unit := do
  let operation := "execute_inverse"
  match (← get).plan with
  | none => fail operation "no plan"
  | some plan =>
    match rig.geometry.kind with
    | .complex => rig.runComplex operation true plan.inverse
    | .real =>
      match plan.signal with
      | none => fail operation "no inverse real plan"
      | some row => rig.runRealInverse plan.inverse row
  rig.rescale

end Rig

end SpectralBench.Cpu
