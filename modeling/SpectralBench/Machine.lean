import SpectralBench.Decimal.Natural
import SpectralBench.Measure.Session
import SpectralBench.Text.Blank

/-!
# The machine that a run happens on

How many threads the machine has, how much memory, and which variables are set. The amount of memory
can be overridden by a variable; where it cannot be found out it counts as unlimited.
-/

namespace SpectralBench

structure Machine (m : Type → Type) where
  threads : Nat
  /-- Bytes of physical memory, or why they cannot be found out. -/
  memory : ExceptT String m UInt64
  /-- The variables of the process. -/
  lookup : String → Option String

namespace Machine

variable {m : Type → Type} [Monad m]

/-- The variable that overrides the amount of memory. -/
def memoryVariable : String := "FFTBENCH_HOST_MEMORY_BYTES"

/-- The amount of memory that stands for "unlimited". -/
def unlimited : UInt64 := UInt64.ofNat Word.top

/-- The whole mebibytes in an amount of memory. -/
def mebibytes (amount : UInt64) : Nat :=
  amount.toNat / 1048576

/-- Bytes of physical memory. -/
def physicalMemory (machine : Machine m) (env : Environment m) : ExceptT Failure m UInt64 := do
  match machine.lookup memoryVariable with
  | some value =>
    match Decimal.readNatural (Text.trim value.toList) with
    | .ok bytes => return bytes
    | .error _ => throw (.misconfigured (.unreadableByteCount memoryVariable value))
  | none =>
    let warn (text : String) : ExceptT Failure m Unit :=
      liftM (env.log ⟨.warn, Log.Target.memory, text⟩)
    match ← liftM machine.memory.run with
    | .ok bytes => return bytes
    | .error reason =>
      warn s!"reading /proc/meminfo failed: {reason}"
      warn "cannot determine physical memory, host capacity check disabled"
      return unlimited

end Machine

end SpectralBench
