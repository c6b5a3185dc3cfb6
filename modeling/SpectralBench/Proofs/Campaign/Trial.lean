import SpectralBench.Proofs.Session

/-!
# What a trial leaves

A trial takes its steps in order up to the first that fails, then records those that were completed,
and after a failure releases its session and sorts the failure. Each of these parts is given as a
choice between the ways in which it can go, with its result, the stage of the session and the events
that it added, so that what holds of all trials is found by cases.

Main statements:

* `Bench.ends_attempt` — steps that are due reach the engine up to the first that fails.
* `Bench.ends_classify`, `Bench.ends_release` — what is done about a failure.
* `Bench.ends_runTrial` — a trial keeps to the rules of `Bench.TrialRan`.
-/

namespace SpectralBench

/-- The calls of completed steps. -/
def Event.calls (number : Nat) (steps : List Step) : List Event :=
  steps.map fun step => .called number step (.ok ())

/-- Whether every step of a list is due when those before it are done, from a given stage on. -/
def Step.flows (kind : Kind) : Stage → List Step → Bool
  | _, [] => true
  | stage, step :: rest => step.isDue kind stage && flows kind step.reaches rest

theorem Step.flows_sequence (kind : Kind) : flows kind .constructed (sequence kind) := by
  cases kind <;> decide

theorem Stage.after_sequence (kind : Kind) : after (Step.sequence kind) = .destroyed := by
  cases kind <;> rfl

/-- The step of an attempt that failed, if any, and why. -/
def Attempt.fault {size : Nat} (attempt : Attempt size) :
    Option (Step × Failure) :=
  match attempt.result with
  | .ok _ => none
  | .error fault => some fault

/-- How a list of steps can go behind those that are done: the steps that were completed, the one
that failed, the stage afterwards and the calls. -/
inductive Tried (number : Nat) (done steps : List Step) :
    List Step → Option (Step × Failure) → Stage → List Event → Prop where
  | through : Tried number done steps steps none (Stage.after (done ++ steps))
      (Event.calls number steps)
  | failed (more : List Step) (step : Step) (rest : List Step) (failure : Failure) :
      steps = more ++ step :: rest →
      Tried number done steps more (some (step, failure))
        (if step = .destroy then .destroyed else Stage.after (done ++ more))
        (Event.calls number more ++ [.called number step (.error failure)])

/-- A step that is completed before the others. -/
theorem Tried.cons {number : Nat} {done steps more : List Step} {fault : Option (Step × Failure)}
    {stage : Stage} {events : List Event} (step : Step)
    (h : Tried number (done ++ [step]) steps more fault stage events) :
    Tried number done (step :: steps) (step :: more) fault stage
      (.called number step (.ok ()) :: events) := by
  cases h with
  | through =>
    have hthrough := @Tried.through number done (step :: steps)
    rw [List.append_cons] at hthrough
    exact hthrough
  | failed _ next rest failure hsteps =>
    have hfailed := @Tried.failed number done (step :: steps) (step :: more) next rest failure
      (congrArg (step :: ·) hsteps)
    rw [List.append_cons] at hfailed
    exact hfailed

theorem Tried.of_none {number : Nat} {done steps more : List Step} {stage : Stage}
    {events : List Event} (h : Tried number done steps more none stage events) :
    more = steps ∧ stage = Stage.after (done ++ steps) ∧ events = Event.calls number steps := by
  cases h
  exact ⟨rfl, rfl, rfl⟩

theorem Tried.of_some {number : Nat} {done steps more : List Step} {step : Step} {failure : Failure}
    {stage : Stage} {events : List Event}
    (h : Tried number done steps more (some (step, failure)) stage events) :
    (∃ rest, steps = more ++ step :: rest) ∧
      stage = (if step = .destroy then .destroyed else Stage.after (done ++ more)) ∧
      events = Event.calls number more ++ [.called number step (.error failure)] := by
  cases h with
  | failed _ _ rest _ hsteps => exact ⟨⟨rest, hsteps⟩, rfl, rfl⟩

/-- How entries can go to the journal: up to the first that is refused. -/
inductive Written : List Record → Except Failure Unit → List Event → Prop where
  | nil : Written [] (.ok ()) []
  | cons (entry : Record) {entries : List Record} {result : Except Failure Unit}
      {events : List Event} : Written entries result events →
      Written (entry :: entries) result (.recorded entry (.ok ()) :: events)
  | refused (entry : Record) (entries : List Record) (refusal : Failure) :
      Written (entry :: entries) (.error refusal) [.recorded entry (.error refusal)]

theorem Written.append {entries more : List Record} {result : Except Failure Unit}
    {events later : List Event} (h : Written entries (.ok ()) events)
    (hmore : Written more result later) : Written (entries ++ more) result (events ++ later) := by
  -- only the rules for accepted entries end in success
  generalize hok : (.ok () : Except Failure Unit) = accepted at h
  induction h with
  | nil => exact hmore
  | cons entry _ ih => exact .cons entry (ih hok)
  | refused => cases hok

theorem Written.stop {entries : List Record} {refusal : Failure} {events : List Event}
    (h : Written entries (.error refusal) events) (more : List Record) :
    Written (entries ++ more) (.error refusal) events := by
  -- the refused entry is the last, so it does not matter what would follow
  generalize herror : (.error refusal : Except Failure Unit) = result at h
  induction h with
  | nil => cases herror
  | cons entry _ ih => exact .cons entry (ih herror)
  | refused entry entries other =>
    cases herror
    exact .refused entry (entries ++ more) refusal

/-- The status of a configuration that meets a failure, unless the failure ends the run. -/
def Severity.status? : Severity → Option Status
  | .skip => some .skipped
  | .fail => some .failed
  | .abort => none

namespace Bench

section Entries

variable {m : Type → Type} [Monad m]

/-- The record of a failure. -/
def notice (bench : Bench m) (configuration : Configuration) (phase : Phase) (trial : Trial)
    (status : Status) (failure : Failure) : Record :=
  { bench.newRecord configuration phase status with trial, message := some failure.message }

/-- The records of completed steps. -/
def stepRecords (bench : Bench m) (configuration : Configuration) (trial : Trial)
    (timings : List (Step × Duration)) : List Record :=
  timings.map fun (step, time) =>
    { bench.newRecord configuration (.timed step) .ok with
      trial, durationNs := .ofNat time.toWord }

/-- The record of a completed trial. -/
def totalRecord (bench : Bench m) (configuration : Configuration) (trial : Trial)
    (durationNs : UInt64) : Record :=
  { bench.newRecord configuration .total .ok with trial, durationNs }

/-- The record of a judgement. -/
def judgementRecord (bench : Bench m) (configuration : Configuration) (status : Status)
    (deviation : Deviation) : Record :=
  { bench.newRecord configuration .validate status with
    message := some (judgement deviation (bench.campaign.tolerance.bound configuration.precision)) }

end Entries

variable {σ : Type} (bench : Bench (StateM σ)) (configuration : Configuration)

/-! ## The rules of one trial -/

/-- How a failure can be sorted: it ends the run, or it leaves a record. -/
inductive Classified (phase : Phase) (trial : Trial) (failure : Failure) :
    Except Failure Status → List Event → Prop where
  | aborted : failure.severity = .abort → Classified phase trial failure (.error failure) []
  -- the status counts only if the journal takes the record
  | reported {status : Status} {result : Except Failure Unit} {events : List Event} :
      failure.severity.status? = some status →
      Written [bench.notice configuration phase trial status failure] result events →
      Classified phase trial failure (result.map fun _ => status) events

/-- How a trial can go from the beginning of a session. Its result says how the configuration ends,
unless the trial was completed. -/
inductive TrialRan (trial : Trial) (number : Nat) (kind : Kind) :
    Except Failure (Except Status Unit) → Stage → List Event → Prop where
  -- all steps were completed; the records may still be refused
  | completed {timings : List (Step × Duration)} {total : UInt64} {result : Except Failure Unit}
      {written : List Event} : timings.map (·.1) = Step.sequence kind →
      Written (bench.stepRecords configuration trial timings ++
        [bench.totalRecord configuration trial total]) result written →
      TrialRan trial number kind (result.map .ok) .destroyed
        (Event.calls number (Step.sequence kind) ++ written)
  -- a step failed, those before it are on record, the session is released and the failure is sorted
  | failed {timings : List (Step × Duration)} {step : Step} {rest : List Step} {failure : Failure}
      {result : Except Failure Status} {written released told : List Event} :
      Step.sequence kind = timings.map (·.1) ++ step :: rest →
      Written (bench.stepRecords configuration trial timings) (.ok ()) written →
      Session.Dropped number
        (if step = .destroy then .destroyed else Stage.after (timings.map (·.1))) released →
      bench.Classified configuration (.timed step) trial failure result told →
      TrialRan trial number kind (result.map .error) .destroyed
        (Event.calls number (timings.map (·.1)) ++ [.called number step (.error failure)] ++
          (written ++ (released ++ told)))
  -- a step failed, and so did the journal: what is left is released when the session is dropped
  | interrupted {timings : List (Step × Duration)} {step : Step} {rest : List Step}
      {failure refusal : Failure} {written : List Event} :
      Step.sequence kind = timings.map (·.1) ++ step :: rest →
      Written (bench.stepRecords configuration trial timings) (.error refusal) written →
      TrialRan trial number kind (.error refusal)
        (if step = .destroy then .destroyed else Stage.after (timings.map (·.1)))
        (Event.calls number (timings.map (·.1)) ++ [.called number step (.error failure)] ++ written)

end Bench

/-! ## One trial keeps to its rules -/

namespace Bench

variable {σ : Type} {bench : Bench (StateM σ)} {configuration : Configuration} {number : Nat}
  {before : List Event}

theorem ends_record (entry : Record) :
    Ends (bench.watched.journal.record entry).run before
      fun result events => Written [entry] result events := by
  refine Ends.noting fun outcome => ?_
  cases outcome with
  | ok => exact .cons entry .nil
  | error refusal => exact .refused entry [] refusal

theorem ends_recordSteps (trial : Trial) (timings : List (Step × Duration)) :
    Ends (bench.watched.recordSteps configuration trial timings).run before
      fun result events =>
        Written (bench.stepRecords configuration trial timings) result events := by
  induction timings generalizing before with
  | nil => exact Ends.pure .nil
  | cons timing rest ih =>
    obtain ⟨step, time⟩ := timing
    refine (ends_record _).bindExcept (fun _ _ hfirst => ?_) (fun _ _ hfirst => ?_)
    · exact ih.mono fun _ _ hrest => hfirst.append hrest
    · exact hfirst.stop (bench.stepRecords configuration trial rest)

theorem ends_classify (phase : Phase) (trial : Trial) (failure : Failure) :
    Ends (bench.watched.classify configuration phase trial failure).run before
      (bench.Classified configuration phase trial failure) := by
  -- skipping and failing differ in the status and in what is logged
  have hreport (status : Status) (hstatus : failure.severity.status? = some status) :
      Ends (do
          bench.watched.journal.record (bench.notice configuration phase trial status failure)
          return status : ExceptT Failure (Watched (StateM σ)) Status).run before
        (bench.Classified configuration phase trial failure) := by
    refine (ends_record _).bindExcept (fun _ _ hwritten => ?_) (fun _ _ hwritten => ?_)
    · exact Ends.pure (.reported hstatus (hwritten.append .nil))
    · exact .reported hstatus hwritten
  unfold classify
  cases hseverity : failure.severity with
  | skip => exact Ends.unseen_bind fun _ => hreport .skipped (by rw [hseverity, Severity.status?])
  | fail => exact Ends.unseen_bind fun _ => hreport .failed (by rw [hseverity, Severity.status?])
  | abort => exact Ends.pure (.aborted hseverity)

variable {engine : Engine (StateM σ)}

/-- Steps that are due one after the other reach the engine up to the first that fails. -/
theorem ends_attempt {size : Nat} (input : Array UInt8) {done steps : List Step}
    (h : Step.flows engine.geometry.kind (Stage.after done) steps) (output : Vector UInt8 size) :
    Ends ((bench.watched.attempt input steps output).run
        (Session.of engine number (Stage.after done))) before
      fun ended events => ∃ stage, ended.2 = Session.of engine number stage ∧
        Tried number done steps (ended.1.timings.map (·.1)) ended.1.fault stage events := by
  -- by induction on the steps that are left; the steps done so far tell the stage
  induction steps generalizing done output before with
  | nil =>
    refine Ends.pure ⟨_, rfl, ?_⟩
    have hnone := @Tried.through number done []
    rw [List.append_nil] at hnone
    exact hnone
  | cons step rest ih =>
    obtain ⟨hdue, hrest⟩ := Bool.and_eq_true_iff.1 h
    rw [← Stage.after_concat done step] at hrest
    unfold attempt
    rw [StateT.run_bind]
    refine SpectralBench.Ends.bind (Session.ends_step input output step) ?_
    rintro ⟨result, session⟩ events hstep
    obtain ⟨stage, hsession, hstepped⟩ := hstep
    dsimp only at hsession hstepped
    subst hsession
    cases result with
    | error failure =>
      have hfailed := @Tried.failed number done (step :: rest) [] step rest failure rfl
      rw [List.append_nil] at hfailed
      -- the step was due, so it was not refused
      cases hstepped with
      | failed => exact Ends.pure ⟨_, rfl, hfailed⟩
      | refused hnotDue => rw [hdue] at hnotDue; cases hnotDue
    | ok taken =>
      obtain ⟨output, time⟩ := taken
      -- nor was it repeated, if it was a release
      cases hstepped with
      | repeated hstage hdestroy =>
        subst hdestroy
        exact absurd hstage (of_decide_eq_true hdue)
      | passed =>
        rw [← Stage.after_concat done step]
        dsimp only
        rw [StateT.run_bind]
        refine (ih hrest output).bind ?_
        rintro ⟨later, session⟩ events ⟨stage, hsession, htried⟩
        dsimp only at hsession htried
        refine Ends.pure ⟨stage, hsession, ?_⟩
        rw [List.append_nil]
        exact htried.cons step

/-- A release destroys the session, whatever its stage was. -/
theorem ends_release {stage : Stage} :
    Ends (bench.watched.release.run (Session.of engine number stage)) before
      fun ended events => ended.2 = Session.of engine number .destroyed ∧
        Session.Dropped number stage events := by
  unfold release
  rw [StateT.run_bind]
  refine SpectralBench.Ends.bind Session.ends_destroy ?_
  rintro ⟨result, session⟩ events ⟨stage', hsession, hstepped⟩
  dsimp only at hsession hstepped
  subst hsession
  cases result with
  | ok time =>
    refine Ends.pure ⟨?_, ?_⟩
    · cases hstepped with
      | passed => rfl
      | repeated hstage => rw [hstage]
    · rw [List.append_nil]
      cases hstepped with
      | passed hdue => exact .destroyed _ (of_decide_eq_true hdue)
      | repeated hstage => exact .idle hstage
  | error failure =>
    cases hstepped with
    | failed _ hdue =>
      dsimp only
      rw [StateT.run_lift]
      refine Ends.lift_bind fun _ => ?_
      exact Ends.pure ⟨rfl, .destroyed _ (of_decide_eq_true hdue)⟩
    | refused _ hne => exact absurd rfl hne

/-- A trial on a session that is ready for it keeps to the rules. -/
theorem ends_runTrial (trial : Trial) {size : Nat} (input : Array UInt8)
    (output : Vector UInt8 size) :
    Session.Ends (bench.watched.runTrial configuration trial input output)
      (Session.of engine number .constructed) before
      fun result session events => ∃ stage, session = Session.of engine number stage ∧
        bench.TrialRan configuration trial number engine.geometry.kind
          (result.map (·.map fun _ => ())) stage events := by
  have hflows : Step.flows engine.geometry.kind (Stage.after [])
      (Step.sequence engine.geometry.kind) := Step.flows_sequence engine.geometry.kind
  unfold runTrial
  refine Session.Ends.current_bind ?_
  refine Session.Ends.perform_bind fun started => ?_
  refine Session.Ends.lift_bind (ends_attempt input hflows output) ?_
  rintro attempt _ called ⟨stage, rfl, htried⟩
  dsimp only at htried
  refine Session.Ends.perform_bind fun ended => ?_
  cases hresult : attempt.result with
  | ok output =>
    -- the trial was completed: the whole sequence reached the engine
    rw [Attempt.fault, hresult] at htried
    dsimp only at htried
    obtain ⟨hdone, hstage, hcalled⟩ := htried.of_none
    rw [List.nil_append, Stage.after_sequence] at hstage
    subst hstage hcalled
    refine Session.Ends.call_bind (ends_recordSteps trial attempt.timings) ?_ ?_
    · intro _ written hwritten
      refine Session.Ends.call_bind (ends_record _) ?_ ?_
      · intro _ total htotal
        refine Session.Ends.pure ⟨.destroyed, rfl, ?_⟩
        rw [List.append_nil]
        exact .completed hdone (hwritten.append htotal)
      · intro refusal total htotal
        exact ⟨.destroyed, rfl, .completed hdone (hwritten.append htotal)⟩
    · intro refusal written hwritten
      -- any total would do: its record is never written
      exact ⟨.destroyed, rfl,
        .completed hdone (hwritten.stop [bench.totalRecord configuration trial 0])⟩
  | error fault =>
    -- the trial was given up, but the steps before that are recorded all the same
    obtain ⟨step, failure⟩ := fault
    rw [Attempt.fault, hresult] at htried
    dsimp only at htried
    obtain ⟨⟨rest, hsteps⟩, hstage, hcalled⟩ := htried.of_some
    rw [List.nil_append] at hstage
    subst hstage hcalled
    refine Session.Ends.call_bind (ends_recordSteps trial attempt.timings) ?_ ?_
    · intro _ written hwritten
      refine Session.Ends.lift_bind ends_release ?_
      rintro _ _ released ⟨rfl, hreleased⟩
      refine Session.Ends.map (Session.Ends.call ((ends_classify _ trial failure).mono ?_))
      intro result told htold
      refine ⟨.destroyed, rfl, ?_⟩
      -- the result is a status or the failure itself, and the same rule serves for both
      have hran := TrialRan.failed hsteps hwritten hreleased htold
      cases result <;> exact hran
    · intro refusal written hwritten
      exact ⟨_, rfl, .interrupted hsteps hwritten⟩

end Bench

end SpectralBench
