import SpectralBench.Cpu.Engine
import SpectralBench.Machine

/-!
# The processor as a platform

The processor has one device, itself: what its memory holds is available on the device and on the
host alike. It has no half precision. Engines of complex transforms can be used again, those of real
ones cannot, because their inverse plan takes the place of the forward one.
-/

namespace SpectralBench.Cpu

variable {m : Type → Type} [Monad m]

/-- The description of the device. -/
def describe (threads : Nat) (hostBytes : UInt64) (normalize : Bool) : String :=
  let memory :=
    if hostBytes = Machine.unlimited then "unknown memory"
    else s!"{Machine.mebibytes hostBytes} MiB"
  let scaling := if normalize then "scaled" else "unscaled"
  s!"CPU, {threads} threads, {memory}, {scaling}"

/-- Engines of complex transforms plan both directions at once. -/
def reuse : Kind → Reuse
  | .complex => .reusable
  | .real => .notReusable

/-- Brings the platform up with a given amount of memory. -/
def platform (env : Environment m) (heap : Heap m) (threads : Nat) (options : Options)
    (hostBytes : UInt64) : m (Platform m) := do
  let description := describe threads hostBytes options.normalize
  env.log ⟨.info, Log.Target.host, s!"host backend ready: {description}"⟩
  let destroyed ← heap.fresh false
  let capabilities : Capabilities := ⟨false, hostBytes, description⟩
  return {
    title := "rustfft"
    stopwatchName := "wall"
    normalizes := options.normalize
    reuse
    capabilities := return capabilities
    hostBytes := return hostBytes
    createEngine := fun configuration => do
      if ← liftM destroyed.get then throw (.unavailable "host context destroyed")
      ExceptT.mk (pure (capabilities.ensure configuration.precision))
      match configuration.precision with
      | .single => newEngine env heap .single options configuration
      | .double => newEngine env heap .double options configuration
      | .half => throw (.unsupportedPrecision .half description)
    destroy := liftM (destroyed.set true) }

end SpectralBench.Cpu
