import SpectralBench.Binary.Double
import SpectralBench.Log
import SpectralBench.Measure.Engine
import SpectralBench.Measure.Phase

/-!
# Sessions

A session is an engine together with its stage. It lets a call through to the engine only at the
stage that the call requires, times it with the engine's stopwatch, and moves on only when the call
succeeds. A session can be destroyed at any stage, and only once until it is armed again; one that
is dropped at any other stage is destroyed on the way out.
-/

namespace SpectralBench

/-- What a run may ask of its surroundings: a log, a clock, and the date of its start. -/
structure Environment (m : Type → Type) where
  /-- How the build adds. -/
  arithmetic : Word.Arithmetic := .checked
  /-- The bit pattern of the half that a double is converted to. -/
  toHalf : Binary.Double → UInt16 := Binary.Double.toHalf
  log : Log.Entry → m Unit
  /-- Nanoseconds since some fixed moment. -/
  clock : m Nat
  /-- The date and time of now, as reports show it. -/
  date : m String

/-- An engine and how far it has come. -/
structure Session (m : Type → Type) where
  engine : Engine m
  stage : Stage

/-- Calls on the session at hand; a failure leaves the session as the call left it. -/
abbrev SessionM (m : Type → Type) (α : Type) : Type :=
  ExceptT Failure (StateT (Session m) m) α

namespace Session

variable {m : Type → Type} [Monad m]

/-- The session of an engine that has done nothing yet. -/
def new (engine : Engine m) : Session m :=
  ⟨engine, .constructed⟩

def kind (session : Session m) : Kind :=
  session.engine.geometry.kind

/-- An effect outside of the session. -/
def perform {α : Type} (action : m α) : SessionM m α :=
  ExceptT.lift (StateT.lift action)

/-- A call of the engine, with its failure if it fails. -/
def call {α : Type} (action : ExceptT Failure m α) : SessionM m α :=
  ExceptT.mk (StateT.lift action.run)

/-- The session at hand. -/
def current : SessionM m (Session m) :=
  ExceptT.lift get

def moveTo (stage : Stage) : SessionM m Unit :=
  ExceptT.lift (modify fun session => { session with stage })

/-- Refuses a phase at any stage but one. -/
def expect (phase : Phase) (stage : Stage) : SessionM m Unit := do
  let session ← current
  if session.stage = stage then return ()
  else throw (.invalidTransition phase.label session.stage.label)

/-- Runs one step: checks the stage, times the call, logs the time and moves on. -/
def run {α : Type} (env : Environment m) (step : Step) (action : Engine m → ExceptT Failure m α) :
    SessionM m (α × Duration) := do
  let session ← current
  match step.requires session.kind with
  | some stage => expect (.timed step) stage
  | none => pure ()
  let (result, time) ← call (session.engine.stopwatch.measure step (action session.engine))
  perform (env.log ⟨.debug, Log.Target.session, s!"{step.label}: {time.text}"⟩)
  moveTo step.reaches
  return (result, time)

/-- `run` for a call without a result. -/
def runTimed (env : Environment m) (step : Step) (action : Engine m → ExceptT Failure m Unit) :
    SessionM m Duration :=
  (·.2) <$> run env step action

/-- The engine's estimate of its plan's workspace, which must come before everything else. -/
def planEstimate : SessionM m UInt64 := do
  expect .setup .constructed
  let session ← current
  call session.engine.planEstimate

def allocate (env : Environment m) : SessionM m Duration :=
  runTimed env .allocate (·.allocate)

def planForward (env : Environment m) : SessionM m Duration :=
  runTimed env .planForward (·.planForward)

def upload (env : Environment m) (host : Array UInt8) : SessionM m Duration :=
  runTimed env .upload (·.upload host)

def executeForward (env : Environment m) : SessionM m Duration :=
  runTimed env .executeForward (·.executeForward)

/-- Only a real transform has an inverse plan of its own. -/
def planInverse (env : Environment m) : SessionM m Duration := do
  let session ← current
  match session.kind with
  | .real => runTimed env .planInverse (·.planInverse)
  | .complex =>
    throw (.invalidTransition (Phase.timed .planInverse).label
      s!"{session.stage.label} (complex transform)")

def executeInverse (env : Environment m) : SessionM m Duration :=
  runTimed env .executeInverse (·.executeInverse)

def download (env : Environment m) {size : Nat} (host : Vector UInt8 size) :
    SessionM m (Vector UInt8 size × Duration) :=
  run env .download (·.download host)

/-- Releases everything, from any stage. A second time nothing happens, and a call that fails counts
as well. -/
def destroy : SessionM m Duration := do
  let session ← current
  if session.stage = .destroyed then return .zero
  else
    let outcome ← perform (session.engine.stopwatch.measure .destroy session.engine.destroy).run
    moveTo .destroyed
    let ((), time) ← call (ExceptT.mk (pure outcome))
    return time

/-- Takes a destroyed session back to its beginning, for another trial of the same engine. -/
def rearm : SessionM m Unit := do
  expect .setup .destroyed
  moveTo .constructed

/-- Leaves a session. An engine that still lives is destroyed, and a failure is only logged. -/
def drop (env : Environment m) (session : Session m) : m Unit := do
  if session.stage = .destroyed then return ()
  else
    match ← session.engine.destroy.run with
    | .ok () => return ()
    | .error failure =>
      env.log ⟨.warn, Log.Target.session, s!"destroy during drop failed: {failure.message}"⟩

/-- Runs a step of a trial; only a download changes what the host holds. -/
def step (env : Environment m) {size : Nat} (input : Array UInt8) (output : Vector UInt8 size) :
    Step → SessionM m (Vector UInt8 size × Duration)
  | .allocate => (output, ·) <$> allocate env
  | .planForward => (output, ·) <$> planForward env
  | .upload => (output, ·) <$> upload env input
  | .executeForward => (output, ·) <$> executeForward env
  | .planInverse => (output, ·) <$> planInverse env
  | .executeInverse => (output, ·) <$> executeInverse env
  | .download => download env output
  | .destroy => (output, ·) <$> destroy

end Session

end SpectralBench
