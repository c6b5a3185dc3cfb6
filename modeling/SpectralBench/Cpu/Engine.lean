import SpectralBench.Cpu.Estimate
import SpectralBench.Cpu.Scalar
import SpectralBench.Cpu.State
import SpectralBench.Measure.Session

/-!
# Engines on the processor

An engine keeps its state in a cell and reads its time off the clock of the environment. A transfer
of the wrong length is refused before its bytes are looked at.
-/

namespace SpectralBench

/-- A place that holds a value. -/
structure Cell (m : Type → Type) (σ : Type) where
  get : m σ
  set : σ → m Unit

/-- Makes cells. -/
structure Heap (m : Type → Type) where
  fresh : {σ : Type} → σ → m (Cell m σ)

/-- The stopwatch that reads the clock of the environment. -/
def Environment.stopwatch {m : Type → Type} [Monad m] (env : Environment m) : Stopwatch m where
  name := "wall"
  start _ := liftM env.clock
  stop _ := pure ()
  elapsed mark := do return ⟨(← liftM env.clock) - mark⟩

namespace Cpu

variable {m : Type → Type} [Monad m] {α : Type}

/-- Settings of the processor's backend. -/
structure Options where
  /-- Whether inverse transforms are scaled by the number of elements. -/
  normalize : Bool
  /-- The largest number of bytes that a buffer may have. -/
  maxBuffer : Nat

/-- Runs an action on the state in a cell. -/
def runIn {β : Type} (cell : Cell m (State α)) (action : Action α β) : ExceptT Failure m β :=
  ExceptT.mk do
    let (result, state) := (action.run.run (← cell.get)).run
    cell.set state
    return result

/-- Refuses a transfer of the wrong number of bytes. -/
def checkBytes (rig : Rig α) (operation : String) (size : Nat) : ExceptT Failure m Unit :=
  ExceptT.mk (pure (rig.geometry.checkTransfer operation size))

/-- The engine whose state is in a cell. -/
def engine [Zero α] [Mul α] (env : Environment m) (scalar : Scalar α) (rig : Rig α)
    (cell : Cell m (State α)) : Engine m :=
  let debug (text : String) : ExceptT Failure m Unit :=
    liftM (env.log ⟨.debug, Log.Target.host, text⟩)
  { geometry := rig.geometry
    stopwatch := env.stopwatch
    planEstimate := return .ofNat (rig.geometry.planEstimate scalar.precision.realSize)
    allocate := do
      runIn cell rig.allocate
      debug s!"host allocate: {rig.geometry.dataSize} + {rig.geometry.complexBufferSize} bytes"
    planForward := do
      if rig.geometry.isWide then debug "host plans index with usize, no separate wide path"
      runIn cell rig.planForward
    planInverse := runIn cell rig.planInverse
    upload := fun host => do
      checkBytes rig "upload" host.size
      runIn cell (rig.upload (scalar.readAll host))
    executeForward := runIn cell rig.executeForward
    executeInverse := runIn cell rig.executeInverse
    download := fun {size} host => do
      checkBytes rig "download" size
      let scalars ← runIn cell (rig.download (Array.replicate (size / rig.unit) 0))
      let bytes := scalar.writeAll scalars
      return host.mapIdx fun i old => bytes.getD i old
    destroy := runIn cell rig.destroy }

/-- The rig of a configuration, which must have the precision of the scalars. -/
def rigOf (scalar : Scalar α) (options : Options) (configuration : Configuration) :
    Except Failure (Rig α) := do
  if configuration.precision ≠ scalar.precision then
    throw (.unsupportedPrecision configuration.precision
      s!"host adapter for {scalar.precision.label}")
  let geometry ← configuration.geometry
  return {
    geometry
    library := scalar.library
    scale := if options.normalize then some (scalar.reciprocal geometry.count) else none
    maxBuffer := options.maxBuffer }

/-- A new engine for a configuration. -/
def newEngine [Zero α] [Mul α] (env : Environment m) (heap : Heap m) (scalar : Scalar α)
    (options : Options) (configuration : Configuration) : ExceptT Failure m (Engine m) := do
  let rig ← ExceptT.mk (pure (rigOf scalar options configuration))
  let cell ← liftM (heap.fresh (State.empty : State α))
  return engine env scalar rig cell

end Cpu

end SpectralBench
