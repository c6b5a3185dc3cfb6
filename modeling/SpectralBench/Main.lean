import SpectralBench.CommandLine.Program
import SpectralBench.Machine.Accounts
import SpectralBench.Measure.Moment

/-!
# The command line

Everything that touches the system: files, standard streams, the clock, and the system's accounts of
the machine.
-/

namespace SpectralBench.Shell

/-- A refusal in the system's words. -/
def reason : IO.Error → String
  | .noFileOrDirectory _ code details => s!"{details} (os error {code})"
  | .inappropriateType _ code details => s!"{details} (os error {code})"
  | .permissionDenied _ code details => s!"{details} (os error {code})"
  | .resourceExhausted _ code details => s!"{details} (os error {code})"
  | .invalidArgument _ code details => s!"{details} (os error {code})"
  | other => toString other

/-- An action whose refusal is given in the system's words. -/
def attempt {α : Type} (action : IO α) : ExceptT String IO α :=
  ExceptT.mk do
    match ← action.toBaseIO with
    | .ok a => return .ok a
    | .error e => return .error (reason e)

def writer (handle : IO.FS.Handle) : Writer IO where
  write text := attempt (handle.putStr text)
  flush := attempt handle.flush

def stream (out : IO.FS.Stream) : Writer IO where
  write text := attempt (out.putStr text)
  flush := attempt out.flush

/-- Whether an action comes to a good end. -/
def succeeds {α : Type} (action : IO α) : IO Bool := do
  match ← action.toBaseIO with
  | .ok _ => return true
  | .error _ => return false

/-- Opens a file and looks at its first byte. -/
def firstByte (path : String) : IO ByteArray := do
  (← IO.FS.Handle.mk path .read).read 1

def files : Files IO where
  read path := attempt (IO.FS.readFile path)
  create path := do return writer (← attempt (IO.FS.Handle.mk path .write))
  present path := succeeds (IO.FS.Handle.mk path .read)
  isDirectory path := do
    return (← succeeds (IO.FS.Handle.mk path .read)) && !(← succeeds (firstByte path))

def heap : Heap IO where
  fresh value := do
    let ref ← IO.mkRef value
    return ⟨ref.get, ref.set⟩

/-- An account of the system, or an empty text where there is none. -/
def account (path : String) : IO String := do
  match ← (IO.FS.readFile path).toBaseIO with
  | .ok text => return text
  | .error _ => return ""

/-- The moment of now: the start of the machine and the time that it has been up. -/
def now : IO Moment := do
  let started := Accounts.started? (← account "/proc/stat")
  let uptime := Accounts.uptime? (← account "/proc/uptime")
  return ⟨(started.getD 0).toNat + (uptime.getD 0).toNat⟩

/-- Bytes of physical memory. -/
def memory : ExceptT String IO UInt64 := do
  let text ← attempt (IO.FS.readFile "/proc/meminfo")
  match Accounts.memory? text with
  | some bytes => return bytes
  | none => throw "no total given"

/-- The line of a log entry. -/
def logLine (moment : Moment) (entry : Log.Entry) : String :=
  let level := entry.level.title
  let gap := if level.length < 5 then " " else ""
  s!"[{moment.inLog} {level}{gap} {entry.target}] {entry.text}"

def environment : Environment IO where
  log entry := do IO.eprintln (logLine (← now) entry)
  clock := IO.monoNanosNow
  date := return (← now).inReport

/-- The variables that the program knows, with their values. -/
def settings : IO (List (String × String)) := do
  let names := Machine.memoryVariable :: Log.Filter.settingName :: Limits.variableNames
  names.filterMapM fun name => do
    return (← IO.getEnv name).map (name, ·)

/-- The surroundings of a run, from what was asked of the system before it. -/
def surroundings (settings : List (String × String)) (threads : Nat) (output : IO.FS.Stream) :
    CommandLine.Surroundings IO where
  env := environment
  heap
  machine := ⟨threads, memory, fun name => settings.lookup name⟩
  files
  maxBuffer := 140737488355328
  output := stream output
  complain text := IO.eprintln text

end SpectralBench.Shell

/-- Runs the benchmark program. -/
def main (arguments : List String) : IO UInt32 := do
  let settings ← SpectralBench.Shell.settings
  let threads := SpectralBench.Accounts.threads (← SpectralBench.Shell.account "/proc/cpuinfo")
  let around := SpectralBench.Shell.surroundings settings (max 1 threads) (← IO.getStdout)
  let exit ← SpectralBench.CommandLine.execute around arguments
  return exit.code
