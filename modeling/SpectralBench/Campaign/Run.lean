import SpectralBench.Decimal.Scientific
import SpectralBench.Journal.Record
import SpectralBench.Measure.Session

/-!
# Running a campaign

A run walks the grid in order. For each configuration it makes an engine, asks whether the
configuration may allocate, and then drives as many trials as the campaign wants, each of them once
through the sequence of steps. Every completed step and every completed trial is a record; at the
end the last output is compared with the input.

A failure is sorted by its severity. A gap in what the device can do or hold skips the
configuration, a failure of the backend fails it, and both leave a record and let the run go on.
Everything else ends the run, and so does a journal that fails. On every way out the engine in use
is destroyed.
-/

namespace SpectralBench

/-- How many configurations ended in which way. -/
structure Tally where
  ok : Nat
  skipped : Nat
  failed : Nat
  deriving DecidableEq, Repr

namespace Tally

def empty : Tally := ⟨0, 0, 0⟩

def add (tally : Tally) : Status → Tally
  | .ok => { tally with ok := tally.ok + 1 }
  | .skipped => { tally with skipped := tally.skipped + 1 }
  | .failed => { tally with failed := tally.failed + 1 }

def total (tally : Tally) : Nat :=
  tally.ok + tally.skipped + tally.failed

theorem total_add (tally : Tally) (status : Status) :
    (tally.add status).total = tally.total + 1 := by
  cases status <;> simp [add, total] <;> omega

end Tally

/-- A campaign together with what it runs on and reports to. -/
structure Bench (m : Type → Type) where
  env : Environment m
  platform : Platform m
  campaign : Campaign
  journal : Journal m

/-- How the steps of one trial went: the steps that were completed, with their durations, and the
output, or the step that failed and why. -/
structure Attempt (size : Nat) where
  timings : List (Step × Duration)
  result : Except (Step × Failure) (Vector UInt8 size)

namespace Bench

variable {m : Type → Type} [Monad m]

def log (bench : Bench m) (level : Log.Level) (text : String) : m Unit :=
  bench.env.log ⟨level, Log.Target.suite, text⟩

/-- The record of a phase without a trial. -/
def newRecord (bench : Bench m) (configuration : Configuration) (phase : Phase)
    (status : Status) : Record :=
  .new bench.platform.title configuration phase status

/-- What a failure makes of a configuration, if the run can go on: a log entry and a record. -/
def classify (bench : Bench m) (configuration : Configuration) (phase : Phase)
    (trial : Trial) (failure : Failure) : ExceptT Failure m Status := do
  let write (status : Status) : ExceptT Failure m Status := do
    bench.journal.record
      { bench.newRecord configuration phase status with trial, message := some failure.message }
    return status
  match failure.severity with
  | .skip =>
    liftM (bench.log .warn s!"skipping {configuration.text}: {failure.message}")
    write .skipped
  | .fail =>
    liftM (bench.log .error
      s!"{configuration.text} failed in {phase.label}: {failure.message}")
    write .failed
  | .abort => throw failure

/-! ## One trial -/

/-- Runs steps in order up to the first that fails. -/
def attempt (bench : Bench m) {size : Nat} (input : Array UInt8) :
    List Step → Vector UInt8 size → StateT (Session m) m (Attempt size)
  | [], output => pure ⟨[], .ok output⟩
  | step :: rest, output => do
    match ← (Session.step bench.env input output step).run with
    | .error failure => return ⟨[], .error (step, failure)⟩
    | .ok (output, time) =>
      let later ← attempt bench input rest output
      return { later with timings := (step, time) :: later.timings }

/-- The trial with the given index: the warm-up trials come first. -/
def trialAt (campaign : Campaign) (index : Nat) : Trial :=
  if index < campaign.warmups.toNat then ⟨.ofNat index, true⟩
  else ⟨.ofNat (index - campaign.warmups.toNat), false⟩

/-- Makes the session ready for another trial: the same engine where it may be used again, and a
new one otherwise. -/
def renew (bench : Bench m) (configuration : Configuration) : SessionM m Unit := do
  match bench.platform.reuse configuration.kind with
  | .reusable => Session.rearm
  | .notReusable =>
    let engine ← Session.call (bench.platform.createEngine configuration)
    let old ← Session.current
    ExceptT.lift (set (Session.new engine))
    Session.perform (Session.drop bench.env old)

/-- Releases a session after a failure; a second failure is only logged. -/
def release (bench : Bench m) : StateT (Session m) m Unit := do
  match ← Session.destroy.run with
  | .ok _ => return ()
  | .error failure =>
    StateT.lift (bench.log .warn s!"destroy after failure: {failure.message}")

/-- Records the completed steps of a trial, in order. -/
def recordSteps (bench : Bench m) (configuration : Configuration) (trial : Trial) :
    List (Step × Duration) → ExceptT Failure m Unit
  | [] => pure ()
  | (step, time) :: rest => do
    bench.journal.record
      { bench.newRecord configuration (.timed step) .ok with
        trial, durationNs := .ofNat time.toWord }
    recordSteps bench configuration trial rest

/-- Runs one trial on a session that is ready for it, and records it. A trial that fails gives the
status of the configuration instead of an output. -/
def runTrial (bench : Bench m) (configuration : Configuration) (trial : Trial) {size : Nat}
    (input : Array UInt8) (output : Vector UInt8 size) :
    SessionM m (Except Status (Vector UInt8 size)) := do
  let session ← Session.current
  let started ← Session.perform bench.env.clock
  let attempt ← ExceptT.lift (bench.attempt input (Step.sequence session.kind) output)
  let ended ← Session.perform bench.env.clock
  Session.call (bench.recordSteps configuration trial attempt.timings)
  match attempt.result with
  | .error (step, failure) =>
    ExceptT.lift bench.release
    .error <$> Session.call (bench.classify configuration (.timed step) trial failure)
  | .ok output =>
    Session.call (bench.journal.record
      { bench.newRecord configuration .total .ok with
        trial, durationNs := .ofNat (Duration.mk (ended - started)).toWord })
    return .ok output

/-- Runs the trials from an index on. -/
def runTrials (bench : Bench m) (configuration : Configuration) {size : Nat}
    (input : Array UInt8) : (left index : Nat) → Vector UInt8 size →
    SessionM m (Except Status (Vector UInt8 size))
  | 0, _, output => return .ok output
  | left + 1, index, output => do
    let trial := trialAt bench.campaign index
    let ready ← ExceptT.lift (if index = 0 then pure (.ok ()) else (bench.renew configuration).run)
    match ready with
    | .error failure =>
      .error <$> Session.call (bench.classify configuration .setup trial failure)
    | .ok () =>
      match ← bench.runTrial configuration trial input output with
      | .error status => return .error status
      | .ok output => runTrials bench configuration input left (index + 1) output

/-! ## One configuration -/

/-- How many trials a configuration is given. -/
def trials (bench : Bench m) : Except Failure Nat :=
  bench.campaign.trials bench.env.arithmetic

/-- Asks whether the configuration of the session may allocate. -/
def weigh (bench : Bench m) : SessionM m Unit := do
  let plan ← Session.planEstimate
  let capabilities ← Session.perform bench.platform.capabilities
  let hostBytes ← Session.perform bench.platform.hostBytes
  let session ← Session.current
  match session.engine.geometry.weigh plan capabilities.availableBytes hostBytes
      bench.campaign.limits with
  | .ok () => return ()
  | .error shortage => throw (.insufficientMemory shortage)

/-- The message of a judgement. -/
def judgement (deviation : Deviation) (bound : Binary.Double) : String :=
  s!"rms {deviation.rms.scientific 3}, max {deviation.maxAbs.scientific 3}, " ++
    s!"bound {bound.scientific 1}"

/-- Judges an output by its deviation from the input, and records the judgement. -/
def judge (bench : Bench m) (configuration : Configuration) (geometry : Geometry)
    (input output : Array UInt8) : ExceptT Failure m Status := do
  let deviation ← liftExcept (geometry.deviation input output bench.platform.normalizes)
  let precision := configuration.precision
  let accepted := bench.campaign.tolerance.accepts precision deviation
  let status : Status := if accepted then .ok else .failed
  let message := judgement deviation (bench.campaign.tolerance.bound precision)
  unless accepted do
    liftM (bench.log .error
      s!"{configuration.text}: round trip error above bound (Some({Text.quoted message}))")
  bench.journal.record
    { bench.newRecord configuration .validate status with message := some message }
  return status
where
  liftExcept {α : Type} (result : Except Failure α) : ExceptT Failure m α :=
    ExceptT.mk (pure result)

/-- Drives the engine of a session through all trials of a configuration. -/
def measure (bench : Bench m) (configuration : Configuration) : SessionM m Status := do
  match ← ExceptT.lift bench.weigh.run with
  | .error failure =>
    ExceptT.lift bench.release
    Session.call (bench.classify configuration .setup ⟨0, false⟩ failure)
  | .ok () =>
    let session ← Session.current
    let geometry := session.engine.geometry
    let input := geometry.stimulus bench.env.toHalf bench.campaign.seed
    let output := Vector.replicate input.size 0
    let total ← Session.call (ExceptT.mk (pure bench.trials))
    match ← bench.runTrials configuration input total 0 output with
    | .error status => return status
    | .ok output =>
      if bench.campaign.validate then
        Session.call (bench.judge configuration geometry input output.toArray)
      else return .ok

/-- Runs one configuration. Its engine does not outlive it. -/
def runConfiguration (bench : Bench m) (configuration : Configuration) :
    ExceptT Failure m Status := do
  liftM (bench.log .debug s!"configuration {configuration.text}")
  match ← liftM (bench.platform.createEngine configuration).run with
  | .error failure => bench.classify configuration .setup ⟨0, false⟩ failure
  | .ok engine =>
    let (result, session) ← liftM ((bench.measure configuration).run.run (.new engine))
    liftM (session.drop bench.env)
    ExceptT.mk (pure result)

/-! ## The whole grid -/

/-- Runs configurations in order, counting how they end. -/
def runAll (bench : Bench m) : List Configuration → Tally → ExceptT Failure m Tally
  | [], tally => return tally
  | configuration :: rest, tally => do
    let status ← bench.runConfiguration configuration
    bench.runAll rest (tally.add status)

/-- Runs the campaign. -/
def run (bench : Bench m) : ExceptT Failure m Tally := do
  ExceptT.mk (pure bench.campaign.check)
  let capabilities ← liftM bench.platform.capabilities
  let started ← liftM bench.env.date
  bench.journal.start
    { title := bench.platform.title, device := capabilities.description,
      timer := bench.platform.stopwatchName, started }
  let configurations := bench.campaign.configurations
  liftM (bench.log .info
    (s!"{bench.platform.title}: {configurations.length} configurations, " ++
      s!"{bench.campaign.warmups.toNat} warmups + {bench.campaign.runs.toNat} runs each"))
  let tally ← bench.runAll configurations .empty
  bench.journal.finish
  liftM (bench.log .info
    s!"done: {tally.ok} ok, {tally.skipped} skipped, {tally.failed} failed")
  return tally

end Bench

end SpectralBench
