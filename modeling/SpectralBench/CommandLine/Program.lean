import SpectralBench.Campaign.Run
import SpectralBench.CommandLine.Sources
import SpectralBench.CommandLine.Usage
import SpectralBench.Journal.Format
import SpectralBench.Log.Filter

/-!
# The program

The program reads its arguments, puts the campaign together, brings a backend up and runs the
campaign on it. Listing the devices, or the configurations that would run, takes the place of the
run. The report is opened before the campaign starts, and the backend is torn down after it.
-/

namespace SpectralBench.CommandLine

/-- What the program finds around itself. -/
structure Surroundings (m : Type → Type) where
  env : Environment m
  heap : Heap m
  machine : Machine m
  files : Files m
  /-- How documents are written and read. -/
  json : Json.Library := .standard
  /-- The largest number of bytes that a buffer may have. -/
  maxBuffer : Nat
  output : Writer m
  /-- Tells the user what went wrong. -/
  complain : String → m Unit

namespace Surroundings

variable {m : Type → Type} [Monad m]

/-- The surroundings with a filter before their log. -/
def filtered (around : Surroundings m) (filter : Log.Filter) : Surroundings m :=
  { around with
    env.log := fun entry => if filter.admits entry then around.env.log entry else pure () }

/-- Prints lines. -/
def printLines (around : Surroundings m) : List String → ExceptT Setback m Unit
  | [] => pure ()
  | line :: rest => do
    (around.output.put (line ++ "\n")).adapt .failed
    around.printLines rest

end Surroundings

variable {m : Type → Type} [Monad m]

/-- An entry of the program's own. -/
def note (around : Surroundings m) (level : Log.Level) (text : String) : m Unit :=
  around.env.log ⟨level, Log.Target.program, text⟩

/-- Whether a run stopped the program. -/
def panicked {α : Type} : Except Failure α → Bool
  | .error failure => failure.isPanic
  | .ok _ => false

/-- Runs a campaign on a platform, reports it, and tears the platform down. A program that stops
itself does not come to the teardown. -/
def perform (around : Surroundings m) (platform : Platform m) (output : Option String)
    (campaign : Campaign) : ExceptT Setback m Tally := do
  let journal ← (Journal.openFor around.json around.files around.output output).adapt .failed
  let outcome ← liftM (Bench.run ⟨around.env, platform, campaign, journal⟩).run
  unless panicked outcome do
    match ← liftM platform.destroy.run with
    | .ok () => pure ()
    | .error failure => liftM (note around .error s!"context teardown: {failure.message}")
  ExceptT.mk (pure (outcome.mapError .failed))

/-- The line that sums a run up. -/
def summary (tally : Tally) : String :=
  s!"{tally.total} configurations: {tally.ok} ok, {tally.skipped} skipped, {tally.failed} failed"

/-- Carries the options out. -/
def run (around : Surroundings m) (options : Options) : ExceptT Setback m Unit := do
  if options.listDevices then
    let devices ← (options.backend.devices around.env around.machine).adapt .failed
    around.printLines (devices.map (·.text))
  else
    let campaign ← options.campaign around.json around.files around.machine.lookup
    if options.listBenchmarks then
      around.printLines (campaign.configurations.map (·.text))
    else
      let settings : Cpu.Options := ⟨options.scaling, around.maxBuffer⟩
      let platform ←
        (options.backend.create around.env around.heap around.machine settings).adapt .failed
      let tally ← perform around platform options.output campaign
      liftM (note around .info (summary tally))

/-- How the program ends. -/
inductive Exit where
  | success
  | failure
  | misuse
  | crash
  deriving DecidableEq, Repr

def Exit.code : Exit → UInt32
  | .success => 0
  | .failure => 1
  | .misuse => 2
  | .crash => 101

/-- Prints a text that was asked for. -/
def answer (around : Surroundings m) (text : String) : m Exit := do
  match ← (around.output.put text).run with
  | .ok () => return .success
  | .error _ => return .failure

/-- Runs the program on its arguments. -/
def execute (around : Surroundings m) (arguments : List String) : m Exit := do
  match Options.read arguments with
  | .error .help => answer around Usage.helpText
  | .error .version => answer around Usage.versionText
  | .error interruption =>
    around.complain s!"error: {interruption.message}\n\n{Usage.synopsis}"
    return .misuse
  | .ok options =>
    let filter := Log.Filter.ofVariables around.machine.lookup options.logLevel
    match ← (run (around.filtered filter) options).run with
    | .ok () => return .success
    | .error (.failed (.panic reason)) =>
      around.complain s!"thread 'main' panicked: {reason}"
      return .crash
    | .error setback =>
      around.complain s!"{Usage.program}: {setback.message}"
      return .failure

end SpectralBench.CommandLine
