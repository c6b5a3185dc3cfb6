import SpectralBench.Cpu.Platform

/-!
# Backends

A backend is chosen by name. The processor's own is always there; the graphics card's is known by
name, but not part of this build.
-/

namespace SpectralBench

inductive Backend where
  | host
  | cuda
  deriving DecidableEq, Repr

/-- One device of a backend. -/
structure DeviceInfo where
  ordinal : UInt64
  name : String
  computeCapability : Option (Int × Int)
  totalMemory : UInt64

/-- The line that lists a device. -/
def DeviceInfo.text (device : DeviceInfo) : String :=
  let capability :=
    match device.computeCapability with
    | some (major, minor) => s!",\"CC\",\"{major}.{minor}\""
    | none => ""
  s!"\"ID\",{device.ordinal.toNat},\"{device.name}\"{capability},\"Memory [MiB]\"," ++
    toString (Machine.mebibytes device.totalMemory)

namespace Backend

def label : Backend → String
  | .host => "host"
  | .cuda => "cuda"

/-- The backend asked for by a lowercase name. -/
def named? : String → Option Backend
  | "host" | "cpu" | "rustfft" => some .host
  | "cuda" | "cufft" => some .cuda
  | _ => none

theorem named?_label (backend : Backend) : named? backend.label = some backend := by
  cases backend <;> rfl

def read (text : String) : Except Failure Backend :=
  readLabel .backend named? text

/-- Whether this build can bring the backend up at all. -/
def isBuilt : Backend → Bool
  | .host => true
  | .cuda => false

/-- Why a backend that is not built cannot be used. -/
def notBuilt : Failure :=
  .unavailable "built without the \x60cuda\x60 feature"

variable {m : Type → Type} [Monad m]

/-- Brings a backend up. -/
def create (env : Environment m) (heap : Heap m) (machine : Machine m) (options : Cpu.Options) :
    Backend → ExceptT Failure m (Platform m)
  | .host => do
    let memory ← machine.physicalMemory env
    liftM (Cpu.platform env heap machine.threads options memory)
  | .cuda => throw notBuilt

/-- The devices of a backend. -/
def devices (env : Environment m) (machine : Machine m) :
    Backend → ExceptT Failure m (List DeviceInfo)
  | .host => do
    let totalMemory ← machine.physicalMemory env
    return [⟨0, s!"CPU ({machine.threads} threads)", none, totalMemory⟩]
  | .cuda => throw notBuilt

end Backend

end SpectralBench
