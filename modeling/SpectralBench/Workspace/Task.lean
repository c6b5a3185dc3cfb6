import SpectralBench.Text.Quoted
import SpectralBench.Workspace.Settings

/-!
# Tasks

A task is one or more commands of the build tool. Tasks that build something pass the features on
and tell the command where the toolkit is; checking and formatting do without. The benchmark program
gets the arguments behind two dashes.
-/

namespace SpectralBench.Workspace

/-- A program with its arguments and the variables that are set for it. -/
structure Command where
  program : String
  arguments : List String
  environment : List (String × String)
  deriving DecidableEq, Repr

namespace Command

/-- The variable that names the build tool. -/
def toolVariable : String := "CARGO"

/-- The build tool. -/
def tool (lookup : String → Option String) : String :=
  (lookup toolVariable).getD "cargo"

/-- Passes the settings on to a command. -/
def passing (command : Command) (settings : Settings) : Command :=
  { command with
    arguments := command.arguments ++
      (settings.argument?.map fun features => ["--features", features]).getD []
    environment := command.environment ++
      (settings.toolkit.map fun root => (Toolkit.pathVariable, root)).toList }

end Command

inductive Task where
  | build
  | test
  | clippy
  | fmt
  | analyze
  | bench
  | suite (arguments : List String)
  deriving DecidableEq, Repr

namespace Task

/-- The task with a name. The arguments are for the benchmark program. -/
def named? (name : String) (arguments : List String) : Option Task :=
  match name with
  | "build" => some .build
  | "test" => some .test
  | "clippy" => some .clippy
  | "fmt" => some .fmt
  | "analyze" => some .analyze
  | "bench" => some .bench
  | "suite" => some (.suite arguments)
  | _ => none

/-- The commands of a task, in order. -/
def commands (lookup : String → Option String) (settings : Settings) : Task → List Command :=
  let plain (arguments : List String) : Command := ⟨Command.tool lookup, arguments, []⟩
  fun
  | .build => [(plain ["build", "--workspace"]).passing settings]
  | .test => [(plain ["test", "--workspace"]).passing settings]
  | .clippy => [plain ["clippy", "--workspace", "--all-targets"]]
  | .fmt => [plain ["fmt", "--all"]]
  | .analyze => [plain ["fmt", "--all"], plain ["clippy", "--workspace", "--all-targets"]]
  | .bench => [(plain ["bench", "-p", "fftbench-bench"]).passing settings]
  | .suite arguments =>
    let command := (plain ["run", "--release", "-p", "fftbench-cli"]).passing settings
    [{ command with arguments := command.arguments ++ "--" :: arguments }]

end Task

/-! ## Running -/

/-- Why a task was not carried out. -/
inductive Mishap where
  | notStarted (reason : String)
  | exited (program : String) (code : Nat)
  deriving DecidableEq, Repr

def Mishap.message : Mishap → String
  | .notStarted reason => reason
  | .exited program code => s!"{Text.quoted program} exited with exit status: {code}"

/-- Starts commands and waits for their exit codes; what cannot be started is refused in the
system's words. -/
abbrev Launcher (m : Type → Type) := Command → ExceptT String m Nat

variable {m : Type → Type} [Monad m]

/-- Runs a command, which has to succeed. -/
def Command.run (launch : Launcher m) (command : Command) : ExceptT Mishap m Unit := do
  let code ← (launch command).adapt .notStarted
  if code ≠ 0 then throw (.exited command.program code)

/-- Runs commands up to the first that does not succeed. -/
def Command.runAll (launch : Launcher m) : List Command → ExceptT Mishap m Unit
  | [] => pure ()
  | command :: rest => do
    command.run launch
    runAll launch rest

end SpectralBench.Workspace
