import SpectralBench.Workspace.Task

/-!
# The program for tasks

The first argument names the task. The benchmark program's arguments are passed through unread: from
the first that this program does not know itself, or behind two dashes. No other task has arguments.
-/

namespace SpectralBench.Workspace

/-- Why arguments name no task: help or the version was asked for, or they are not understood. -/
inductive Interruption where
  | help
  | version
  | misuse
  deriving DecidableEq, Repr

namespace Task

/-- The letter that every part of the program knows. -/
def helpLetter? : Char → Option Interruption
  | 'h' => some .help
  | _ => none

/-- The letters that the program itself knows. -/
def ownLetter? : Char → Option Interruption
  | 'V' => some .version
  | letter => helpLetter? letter

/-- The letters behind one dash. -/
def cluster (argument : String) : List Char :=
  match argument.toList with
  | '-' :: c :: rest => if c = '-' then [] else c :: rest
  | _ => []

/-- What the first of some letters asks for; letters that are not known are a misuse. -/
def ofLetters (known : Char → Option Interruption) (letters : List Char) : Interruption :=
  (letters.head?.bind known).getD .misuse

/-- Reads the arguments of a task that has none. -/
def readBare (task : Task) : List String → Except Interruption Task
  | [] => .ok task
  | argument :: rest =>
    if argument = "--" ∧ rest.isEmpty then .ok task
    else if argument = "--help" then .error .help
    else .error (ofLetters helpLetter? (cluster argument))

/-- What the first argument for the benchmark program asks of this program instead. -/
def intercepted? (argument : String) : Option Interruption :=
  if argument = "--help" then some .help
  else if (Text.split (· = '=') argument.toList).head? = some "--help".toList then some .misuse
  else
    let letters := cluster argument
    if !letters.isEmpty && letters.all fun c => (helpLetter? c).isSome then some .help else none

/-- Reads the arguments for the benchmark program. -/
def readPassed : List String → Except Interruption Task
  | [] => .ok (.suite [])
  | argument :: rest =>
    if argument = "--" then .ok (.suite rest)
    else
      match intercepted? argument with
      | some interruption => .error interruption
      | none => .ok (.suite (argument :: rest))

/-- Reads the request for the help of a task. -/
def readHelp : List String → Except Interruption Task
  | [] | ["help"] => .error .help
  | [name] => .error (if (named? name []).isSome then .help else .misuse)
  | _ => .error .misuse

/-- The task that arguments name. -/
def read : List String → Except Interruption Task
  | [] => .error .misuse
  | name :: rest =>
    if name = "--help" then .error .help
    else if name = "--version" then .error .version
    else if name = "help" then readHelp rest
    else if name = "suite" then readPassed rest
    else
      match named? name [] with
      | some task => readBare task rest
      | none => .error (ofLetters ownLetter? (cluster name))

end Task

variable {m : Type → Type} [Monad m]

/-- What the program for tasks finds around itself. -/
structure Shop (m : Type → Type) where
  files : Files m
  lookup : String → Option String
  launch : Launcher m
  /-- Tells the user something. -/
  tell : String → m Unit

/-- Carries a task out. -/
def Task.perform (shop : Shop m) (task : Task) : ExceptT Mishap m Unit := do
  let settings ← liftM (Settings.detect shop.files shop.lookup)
  match settings.toolkit with
  | some root => liftM (shop.tell s!"xtask: CUDA toolkit at {root}")
  | none => pure ()
  Command.runAll shop.launch (task.commands shop.lookup settings)

/-- Runs the program for tasks on its arguments, and gives its exit code. -/
def execute (shop : Shop m) (arguments : List String) : m UInt32 := do
  match Task.read arguments with
  | .error .misuse => return 2
  | .error .help | .error .version => return 0
  | .ok task =>
    match ← (task.perform shop).run with
    | .ok () => return 0
    | .error mishap =>
      shop.tell s!"Error: {mishap.message}"
      return 1

end SpectralBench.Workspace
