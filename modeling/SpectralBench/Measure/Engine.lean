import SpectralBench.Geometry
import SpectralBench.Measure.Stopwatch

/-!
# Engines

An engine is the backend's side of one configuration: it owns a plan and one or two buffers of the
geometry's sizes. Its calls have effects in `m` and may fail. A download is given the bytes that the
host holds and gives back as many.
-/

namespace SpectralBench

/-- What a backend provides for one configuration. -/
structure Engine (m : Type → Type) where
  geometry : Geometry
  stopwatch : Stopwatch m
  /-- Bytes of workspace that a plan will take. No plan is made. -/
  planEstimate : ExceptT Failure m UInt64
  /-- Reserves the buffers. -/
  allocate : ExceptT Failure m Unit
  /-- Plans the forward transform, and the inverse one too where the kind is complex. -/
  planForward : ExceptT Failure m Unit
  /-- Replaces the forward plan of a real transform by an inverse one. -/
  planInverse : ExceptT Failure m Unit
  /-- Copies a transfer into the primary buffer. -/
  upload : Array UInt8 → ExceptT Failure m Unit
  executeForward : ExceptT Failure m Unit
  executeInverse : ExceptT Failure m Unit
  /-- Copies a transfer out of the primary buffer. -/
  download : {size : Nat} → Vector UInt8 size → ExceptT Failure m (Vector UInt8 size)
  /-- Releases plan and buffers. -/
  destroy : ExceptT Failure m Unit

/-- Whether one engine may serve all trials of a configuration. -/
inductive Reuse where
  | reusable
  | notReusable
  deriving DecidableEq, Repr

/-- What a device can do at the moment. -/
structure Capabilities where
  supportsHalf : Bool
  availableBytes : UInt64
  description : String
  deriving DecidableEq, Repr

/-- Refuses a precision that the device does not have. -/
def Capabilities.ensure (capabilities : Capabilities) (precision : Precision) :
    Except Failure Unit :=
  if precision = .half ∧ ¬ capabilities.supportsHalf then
    .error (.unsupportedPrecision precision capabilities.description)
  else .ok ()

/-- A backend that has been brought up. -/
structure Platform (m : Type → Type) where
  /-- The name under which records appear. -/
  title : String
  /-- The name of the engines' stopwatch. -/
  stopwatchName : String
  /-- Whether an inverse transform undoes a forward one without a further scale. -/
  normalizes : Bool
  reuse : Kind → Reuse
  capabilities : m Capabilities
  /-- Physical memory of the host. -/
  hostBytes : m UInt64
  /-- Makes the engine for a configuration. Buffers are not reserved yet. -/
  createEngine : Configuration → ExceptT Failure m (Engine m)
  /-- Releases what the backend holds for the whole process. -/
  destroy : ExceptT Failure m Unit

end SpectralBench
