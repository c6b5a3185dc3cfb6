import SpectralBench.Proofs.Campaign.Isolation
import SpectralBench.Proofs.Campaign.Stream
import SpectralBench.Proofs.Parting

/-!
# A refusal cuts the stream

A run whose journal refuses something is the beginning of the same run with a journal that takes
everything. Whatever the journal took was asked for in the same order, and behind the refusal the
engine in use is released, and nothing else is done.

Both runs start in one world, and their calls get the same answers as long as the calls before were
the same (`Bench.Repeatable`). Neither log, clock and stopwatches nor the journals have a part in
these answers. The parts of a run that do not see the journal are the same on both sides; where it
is called, the runs go together or part, and `Bench.parts_runAll` puts this together by induction on
the grid.

Main statements:

* `Bench.parts_runTrial`, `Bench.parts_runConfiguration` — a trial and a configuration go together
  or part at a call of the journal.
* `Bench.agree_run` — so does a whole run.
* `Bench.run_refused` — what a refusal leaves of a run.
-/

namespace SpectralBench

variable {σ : Type}

/-! ## Runs that can be repeated -/

/-- An action that leaves a world alike. -/
def Unseen {α : Type} (alike : σ → σ → Prop) (action : StateM σ α) : Prop :=
  ∀ world, alike world (action.run world).2

theorem Unseen.spares {α : Type} {alike : σ → σ → Prop} {left right : StateM σ α}
    (hequivalence : Equivalence alike) (h : Unseen alike left) (h' : Unseen alike right) :
    Spares alike left right :=
  fun world world' hworld =>
    have hbefore : alike (left.run world).2 world := hequivalence.symm (h world)
    ⟨trivial, hequivalence.trans hbefore (hequivalence.trans hworld (h' world'))⟩

/-- A journal of which the other calls of a run see nothing. No call comes behind its end. -/
structure Journal.Unseen (journal : Journal (StateM σ)) (alike : σ → σ → Prop) : Prop where
  start : ∀ header, SpectralBench.Unseen alike (journal.start header).run
  record : ∀ entry, SpectralBench.Unseen alike (journal.record entry).run

/-- A journal that takes everything. -/
structure Journal.TakesAll (journal : Journal (StateM σ)) : Prop where
  start : ∀ header world, ((journal.start header).run.run world).1 = .ok ()
  record : ∀ entry world, ((journal.record entry).run.run world).1 = .ok ()
  finish : ∀ world, (journal.finish.run.run world).1 = .ok ()

/-- A bench whose platform and engines answer by what they were called for so far: in worlds that
are alike they give the same answers, and leave worlds that are alike. What is logged and what the
clock shows makes no difference to them. -/
structure Bench.Repeatable (bench : Bench (StateM σ)) (alike : σ → σ → Prop) : Prop where
  equivalence : Equivalence alike
  log : ∀ entry entry', Spares alike (bench.env.log entry) (bench.env.log entry')
  clock : Spares alike bench.env.clock bench.env.clock
  capabilities : Answers alike Eq bench.platform.capabilities bench.platform.capabilities
  hostBytes : Answers alike Eq bench.platform.hostBytes bench.platform.hostBytes
  create : ∀ configuration, Answers alike (Both (Engine.Alike alike))
    (bench.platform.createEngine configuration).run (bench.platform.createEngine configuration).run

/-- The same bench with another journal. -/
def Bench.reporting {m : Type → Type} (bench : Bench m) (journal : Journal m) : Bench m :=
  { bench with journal }

namespace Bench

section Reporting

variable {m : Type → Type} [Monad m] (bench : Bench m) (journal : Journal m)

/-- An attempt does not see the journal. -/
theorem attempt_reporting {size : Nat} (input : Array UInt8) (steps : List Step)
    (output : Vector UInt8 size) :
    (bench.reporting journal).attempt input steps output = bench.attempt input steps output := by
  induction steps generalizing output with
  | nil => rfl
  | cons step rest ih =>
    unfold attempt
    simp only [ih]
    rfl

end Reporting

variable {bench : Bench (StateM σ)} {journal : Journal (StateM σ)} {alike : σ → σ → Prop}
  {base : List Event} {configuration : Configuration}

theorem Repeatable.aside (h : bench.Repeatable alike) (hjournal : bench.journal.Unseen alike) :
    bench.Aside (fun _ => True) alike where
  possible_of _ _ _ := ⟨trivial, trivial⟩
  log := h.log
  clock := h.clock
  record entry entry' := (hjournal.record entry).spares h.equivalence (hjournal.record entry')

theorem Repeatable.apart (h : bench.Repeatable alike) (hjournal : bench.journal.Unseen alike) :
    bench.Apart (fun _ => True) alike :=
  { h.aside hjournal with capabilities := h.capabilities, hostBytes := h.hostBytes }

/-! ## What only adds to the trace -/

theorem grows_classify (phase : Phase) (trial : Trial) (failure : Failure) :
    Grows (bench.watched.classify configuration phase trial failure).run :=
  fun _ => (ends_classify phase trial failure).mono fun _ _ _ => trivial

theorem grows_recordSteps (trial : Trial) (timings : List (Step × Duration)) :
    Grows (bench.watched.recordSteps configuration trial timings).run :=
  fun _ => (ends_recordSteps trial timings).mono fun _ _ _ => trivial

theorem grows_record (entry : Record) : Grows (bench.watched.journal.record entry).run :=
  fun _ => (ends_record entry).mono fun _ _ _ => trivial

theorem grows_drop {session : WatchedSession σ} (h : session.IsWatched) :
    Grows (session.drop bench.env.watched) := by
  obtain ⟨engine, number, stage, rfl⟩ := h
  exact fun _ => Session.ends_drop.mono fun _ _ _ => trivial

theorem ends_attempt_isWatched {size : Nat} (input : Array UInt8) (steps : List Step)
    (output : Vector UInt8 size) (session : WatchedSession σ) (before : List Event)
    (h : session.IsWatched) :
    Ends ((bench.watched.attempt input steps output).run session) before
      fun ended _ => ended.2.IsWatched := by
  induction steps generalizing output session before with
  | nil => exact Ends.pure h
  | cons step rest ih =>
    obtain ⟨engine, number, stage, rfl⟩ := h
    unfold attempt
    rw [StateT.run_bind]
    refine SpectralBench.Ends.bind (Session.ends_step input output step) ?_
    rintro ⟨result, after⟩ events ⟨stage', hafter, -⟩
    have hwatched : after.IsWatched := ⟨engine, number, stage', hafter⟩
    cases result with
    | error failure => exact Ends.pure hwatched
    | ok taken =>
      rw [StateT.run_bind]
      exact (ih taken.1 after _ hwatched).bind fun _ _ hlater => Ends.pure hlater

theorem ends_release_isWatched (session : WatchedSession σ) (before : List Event)
    (h : session.IsWatched) :
    Ends (bench.watched.release.run session) before fun ended _ => ended.2.IsWatched := by
  obtain ⟨engine, number, stage, rfl⟩ := h
  exact ends_release.mono fun _ _ hended => ⟨engine, number, .destroyed, hended.1⟩

theorem grows_runTrial (trial : Trial) {size : Nat} (input : Array UInt8)
    (output : Vector UInt8 size) :
    Session.Grows (bench.watched.runTrial configuration trial input output) := by
  have hclock : Session.Grows (Session.perform bench.watched.env.clock) :=
    .perform fun _ => Ends.lift fun _ => trivial
  unfold runTrial
  refine Session.Grows.current.bind fun session => hclock.bind fun started => ?_
  refine (Session.Grows.lift (ends_attempt_isWatched input _ output)).bind fun attempt => ?_
  refine hclock.bind fun ended => ?_
  refine (Session.Grows.call (grows_recordSteps trial _)).bind fun _ => ?_
  cases attempt.result with
  | error fault =>
    refine (Session.Grows.lift ends_release_isWatched).bind fun _ => ?_
    exact (Session.Grows.call (grows_classify _ trial _)).map _
  | ok output => exact (Session.Grows.call (grows_record _)).bind fun _ => .pure _

theorem grows_renew : Session.Grows (bench.watched.renew configuration) := by
  unfold renew
  cases bench.watched.platform.reuse configuration.kind with
  | reusable =>
    rintro session before ⟨engine, number, stage, rfl⟩
    refine Session.ends_rearm.mono fun result after events hafter => ?_
    by_cases hstage : stage = .destroyed
    · rw [if_pos hstage] at hafter
      exact ⟨engine, number, .constructed, hafter.2.2⟩
    · rw [if_neg hstage] at hafter
      exact ⟨engine, number, stage, hafter.2.2⟩
  | notReusable =>
    intro session before hsession
    refine Session.Ends.call_bind (ends_create rfl) ?_ ?_
    · rintro _ events ⟨engine, rfl, -, -⟩
      refine Session.Ends.current_bind (Session.Ends.set_bind ?_)
      rw [← bind_pure (Session.perform _)]
      refine Session.Ends.performed_bind (grows_drop hsession _) fun _ _ _ => ?_
      exact Session.Ends.pure ⟨engine, _, .constructed, rfl⟩
    · exact fun _ _ _ => hsession

theorem grows_runTrials {size : Nat} (input : Array UInt8) (left index : Nat)
    (output : Vector UInt8 size) :
    Session.Grows (bench.watched.runTrials configuration input left index output) := by
  induction left generalizing index output with
  | zero => exact .pure _
  | succ left ih =>
    unfold runTrials
    refine (Session.Grows.lift fun session before hsession => ?_).bind fun ready => ?_
    · by_cases hindex : index = 0
      · simp only [if_pos hindex]
        exact Ends.pure hsession
      · simp only [if_neg hindex]
        exact grows_renew session before hsession
    · cases ready with
      | error failure => exact (Session.Grows.call (grows_classify _ _ failure)).map _
      | ok _ =>
        refine (grows_runTrial _ input output).bind fun outcome => ?_
        cases outcome with
        | error status => exact .pure _
        | ok output => exact ih (index + 1) output

theorem grows_judge (geometry : Geometry) (input output : Array UInt8) :
    Grows (bench.watched.judge configuration geometry input output).run := by
  have hreport (entry : Record) (status : Status) : Grows (do
      bench.watched.journal.record entry
      return status : ExceptT Failure (Watched (StateM σ)) Status).run :=
    fun before => (grows_record entry before).bindExcept (fun _ _ _ => Ends.pure trivial)
      fun _ _ _ => trivial
  intro before
  unfold judge judge.liftExcept
  cases geometry.deviation input output bench.watched.platform.normalizes with
  | error failure => exact Ends.pure trivial
  | ok deviation =>
    refine Ends.ok_bind ?_
    dsimp only
    cases bench.watched.campaign.tolerance.accepts configuration.precision deviation with
    | true => exact hreport _ _ before
    | false => exact Ends.unseen_bind fun _ => hreport _ _ before

theorem grows_runAll (configurations : List Configuration) (tally : Tally) :
    Grows (bench.watched.runAll configurations tally).run :=
  fun _ => (ends_runAll configurations tally rfl).mono fun _ _ _ => trivial

/-- The end of a run. -/
theorem grows_finish (closing : String) (tally : Tally) : Grows (do
    bench.watched.journal.finish
    liftM (bench.watched.log .info closing)
    return tally : ExceptT Failure (Watched (StateM σ)) Tally).run :=
  fun _ => ends_finish.bindExcept (fun _ _ _ => Ends.unseen_bind fun _ => Ends.pure trivial)
    fun _ _ _ => trivial

/-! ## The parts of a run -/

section Sides

variable (hrepeat : bench.Repeatable alike) (hjournal : bench.journal.Unseen alike)
  (hother : journal.Unseen alike) (htakes : journal.TakesAll)

include hrepeat hjournal hother htakes

/-- A record that the first journal may refuse, and the other one takes. -/
theorem parts_record {entry entry' : Record} (huntimed : entry.untimed = entry'.untimed) :
    PartsExcept alike base (bench.watched.journal.record entry)
      ((bench.reporting journal).watched.journal.record entry') Eq := by
  rintro trace world trace' world' ⟨hworld, htold⟩
  have hafter := ((hjournal.record entry).spares hrepeat.equivalence (hother.record entry')
    world world' hworld).2
  have htaken := htakes.record entry' world'
  -- the event is noted on both sides, with what became of it
  change (Both Eq ((bench.journal.record entry).run.run world).1
      ((journal.record entry').run.run world').1 ∧ Linked alike base base
        (trace ++ [.recorded entry ((bench.journal.record entry).run.run world).1]) _
        (trace' ++ [.recorded entry' ((journal.record entry').run.run world').1]) _) ∨
    (IsError ((bench.journal.record entry).run.run world).1 ∧ True ∧
      Parted (trace ++ [.recorded entry ((bench.journal.record entry).run.run world).1])
        (trace' ++ [.recorded entry' ((journal.record entry').run.run world').1]))
  rw [htaken]
  have hplain : (Event.recorded entry (.ok ())).plain = (Event.recorded entry' (.ok ())).plain := by
    rw [Event.plain, Event.plain, huntimed]
  cases hresult : ((bench.journal.record entry).run.run world).1 with
  | ok _ => exact .inl ⟨.ok rfl, hafter, htold.concat hplain rfl⟩
  | error refusal => exact .inr ⟨⟨refusal, rfl⟩, trivial, .here htold.plain rfl hplain⟩

/-- The same steps leave the same records, in whatever times, up to the first that is refused. -/
theorem parts_recordSteps (trial : Trial) {timings timings' : List (Step × Duration)}
    (h : timings.map (·.1) = timings'.map (·.1)) :
    PartsExcept alike base (bench.watched.recordSteps configuration trial timings)
      ((bench.reporting journal).watched.recordSteps configuration trial timings') Eq := by
  induction timings generalizing timings' with
  | nil =>
    rw [List.map_eq_nil_iff.1 h.symm]
    exact .of_twins (Twins.pure (.ok rfl))
  | cons timing rest ih =>
    obtain ⟨timing', rest', rfl, hstep, hrest⟩ := List.map_eq_cons_iff.1 h.symm
    obtain ⟨step, time⟩ := timing
    obtain ⟨step', time'⟩ := timing'
    dsimp only at hstep
    subst hstep
    unfold recordSteps
    refine Parts.bindExcept (parts_record hrepeat hjournal hother htakes ?_) (fun _ _ _ => ?_)
      fun _ => grows_recordSteps trial rest'
    · rfl
    · exact ih hrest.symm

theorem parts_report (entry : Record) (status : Status) :
    PartsExcept alike base
      (do bench.watched.journal.record entry
          return status : ExceptT Failure (Watched (StateM σ)) Status)
      (do (bench.reporting journal).watched.journal.record entry
          return status : ExceptT Failure (Watched (StateM σ)) Status) Eq :=
  Parts.bindExcept (parts_record hrepeat hjournal hother htakes rfl)
    (fun _ _ _ => .of_twins (Twins.pure (.ok rfl))) fun _ _ => Ends.pure trivial

theorem parts_classify (phase : Phase) (trial : Trial) (failure : Failure) :
    PartsExcept alike base (bench.watched.classify configuration phase trial failure)
      ((bench.reporting journal).watched.classify configuration phase trial failure) Eq := by
  unfold classify
  cases failure.severity with
  | skip =>
    exact Parts.liftM_bind (Twins.log (hrepeat.aside hjournal) _ _ _ _) fun _ _ _ =>
      parts_report hrepeat hjournal hother htakes _ .skipped
  | fail =>
    exact Parts.liftM_bind (Twins.log (hrepeat.aside hjournal) _ _ _ _) fun _ _ _ =>
      parts_report hrepeat hjournal hother htakes _ .failed
  | abort => exact .of_twins (Twins.pure (.error failure))

/-- What ends the trials of a configuration is sorted the same way. -/
theorem parts_ended {α : Type} (phase : Phase) (trial : Trial) (failure : Failure) :
    Session.Parts alike base
      (Except.error <$> Session.call (bench.watched.classify configuration phase trial failure) :
        SessionM (Watched (StateM σ)) (Except Status α))
      (Except.error <$>
        Session.call ((bench.reporting journal).watched.classify configuration phase trial failure))
      Eq := by
  have hsorted : PartsExcept alike base (bench.watched.classify configuration phase trial failure)
      ((bench.reporting journal).watched.classify configuration phase trial failure)
      fun status status' => (.error status : Except Status α) = .error status' :=
    Parts.mono (parts_classify hrepeat hjournal hother htakes phase trial failure)
      (fun _ _ hboth => hboth.mono fun _ _ hstatus => congrArg _ hstatus) (fun _ h => h)
      fun _ h => h
  exact Session.Parts.map (Session.Parts.call hsorted)

/-- The same output is judged the same way. -/
theorem parts_judge (geometry : Geometry) (input output : Array UInt8) :
    PartsExcept alike base (bench.watched.judge configuration geometry input output)
      ((bench.reporting journal).watched.judge configuration geometry input output) Eq := by
  unfold judge judge.liftExcept
  rw [show (bench.reporting journal).watched.platform = bench.watched.platform from rfl,
    show (bench.reporting journal).watched.campaign = bench.watched.campaign from rfl]
  cases geometry.deviation input output bench.watched.platform.normalizes with
  | error failure => exact .of_twins (Twins.pure (.error failure))
  | ok deviation =>
    refine Parts.ok_bind ?_
    dsimp only
    cases bench.watched.campaign.tolerance.accepts configuration.precision deviation with
    | true => exact parts_report hrepeat hjournal hother htakes _ _
    | false =>
      exact Parts.liftM_bind (Twins.log (hrepeat.aside hjournal) _ _ _ _) fun _ _ _ =>
        parts_report hrepeat hjournal hother htakes _ _

omit hother htakes

theorem keeps_attempt {size : Nat} (input : Array UInt8) (steps : List Step)
    (output : Vector UInt8 size) :
    Session.Keeps alike base (ExceptT.lift (bench.watched.attempt input steps output))
      (ExceptT.lift ((bench.reporting journal).watched.attempt input steps output))
      fun attempt attempt' => attempt.timings.map (·.1) = attempt'.timings.map (·.1) ∧
        attempt.result = attempt'.result := by
  have hsame : (bench.reporting journal).watched.attempt input steps output =
      bench.watched.attempt input steps output :=
    attempt_reporting bench.watched journal.watched input steps output
  rw [hsame]
  exact .of_twins fun engine engine' number number' stage hengine =>
    Session.Twins.lift (twins_attempt (hrepeat.aside hjournal) hengine input steps output)

theorem keeps_release :
    Session.Keeps alike base (ExceptT.lift bench.watched.release)
      (ExceptT.lift (bench.reporting journal).watched.release) fun _ _ => True :=
  .of_twins fun _ _ _ _ _ hengine =>
    Session.Twins.lift (twins_release (hrepeat.aside hjournal) hengine)

theorem keeps_weigh :
    Session.Keeps alike base bench.watched.weigh (bench.reporting journal).watched.weigh Eq :=
  .of_twins fun _ _ _ _ _ hengine => twins_weigh (hrepeat.apart hjournal) hengine

omit hjournal in
/-- Engines are made on both sides or on neither. -/
theorem twins_create :
    Twins (Linked alike base base) (bench.watched.platform.createEngine configuration).run
      ((bench.reporting journal).watched.platform.createEngine configuration).run
      (Both fun watched watched' =>
        Session.Abreast alike (.new watched) (.new watched')) := by
  rintro trace world trace' world' ⟨hworld, htold⟩
  obtain ⟨hmade, hafter⟩ := hrepeat.create configuration world world' hworld
  -- the event is noted whether an engine was made or not
  change Both _ (((bench.platform.createEngine configuration).run.run world).1.map _)
      (((bench.platform.createEngine configuration).run.run world').1.map _) ∧
    Linked alike base base
      (trace ++ [.created configuration
        (((bench.platform.createEngine configuration).run.run world).1.map _)]) _
      (trace' ++ [.created configuration
        (((bench.platform.createEngine configuration).run.run world').1.map _)]) _
  generalize ((bench.platform.createEngine configuration).run.run world).1 = made at hmade ⊢
  generalize ((bench.platform.createEngine configuration).run.run world').1 = made' at hmade ⊢
  cases hmade with
  | @ok engine engine' hengine =>
    refine ⟨.ok ⟨engine, engine', _, _, .constructed, hengine, rfl, rfl⟩, hafter,
      htold.concat ?_ rfl⟩
    exact congrArg (fun geometry => Event.created configuration (.ok geometry)) hengine.geometry_eq
  | error failure => exact ⟨.error failure, hafter, htold.concat rfl rfl⟩

theorem keeps_renew :
    Session.Keeps alike base (bench.watched.renew configuration)
      ((bench.reporting journal).watched.renew configuration) fun _ _ => True := by
  rw [show (bench.reporting journal).watched.renew configuration =
    bench.watched.renew configuration from rfl]
  unfold renew
  cases bench.watched.platform.reuse configuration.kind with
  | reusable =>
    refine .of_twins fun _ _ _ _ _ _ => ?_
    exact (Session.Twins.expect _ _).bind fun _ _ _ _ => Session.Twins.moveTo _
  | notReusable =>
    refine (Session.Keeps.call (twins_create hrepeat)).bind fun engine engine' hnew => ?_
    refine Session.Keeps.current.bind fun old old' hold => ?_
    refine (Session.Keeps.set hnew).bind fun _ _ _ => ?_
    obtain ⟨engine, engine', number, number', stage, hengine, rfl, rfl⟩ := hold
    exact Session.Keeps.perform (Session.twins_drop (hrepeat.aside hjournal) hengine)

/-- The sessions are made ready together. -/
theorem keeps_ready (index : Nat) :
    Session.Keeps alike base
      (ExceptT.lift (if index = 0 then pure (.ok ()) else (bench.watched.renew configuration).run))
      (ExceptT.lift (if index = 0 then pure (.ok ())
        else ((bench.reporting journal).watched.renew configuration).run))
      (Both fun _ _ => True) := by
  refine .lift fun session session' habreast => ?_
  by_cases hindex : index = 0
  · simp only [if_pos hindex]
    exact Twins.pure ⟨.ok trivial, habreast⟩
  · simp only [if_neg hindex]
    exact keeps_renew hrepeat hjournal session session' habreast

include hother htakes

/-- A trial goes together on both sides, in whatever times, or they part at one of its records. -/
theorem parts_runTrial (trial : Trial) {size : Nat} (input : Array UInt8)
    (output : Vector UInt8 size) :
    Session.Parts alike base (bench.watched.runTrial configuration trial input output)
      ((bench.reporting journal).watched.runTrial configuration trial input output) Eq := by
  have hclock : Session.Keeps alike base (Session.perform bench.watched.env.clock)
      (Session.perform (bench.reporting journal).watched.env.clock) fun _ _ => True :=
    .perform (.lift (hrepeat.aside hjournal).clock)
  unfold runTrial
  refine Session.Parts.keeps_bind Session.Keeps.current fun session session' habreast => ?_
  rw [show session.kind = session'.kind from congrArg Geometry.kind habreast.geometry_eq]
  refine Session.Parts.keeps_bind hclock fun started started' _ => ?_
  refine Session.Parts.keeps_bind (keeps_attempt hrepeat hjournal input _ output) ?_
  rintro attempt attempt' ⟨htimings, hresult⟩
  refine Session.Parts.keeps_bind hclock fun ended ended' _ => ?_
  -- the same steps are recorded, and then the same is done about the result
  have hsteps : Session.Parts alike base
      (Session.call (bench.watched.recordSteps configuration trial attempt.timings))
      (Session.call ((bench.reporting journal).watched.recordSteps configuration trial
        attempt'.timings)) Eq :=
    .call (parts_recordSteps hrepeat hjournal hother htakes trial htimings)
  rw [hresult]
  cases attempt'.result with
  | error fault =>
    obtain ⟨step, failure⟩ := fault
    refine hsteps.bind (fun _ _ _ => ?_) fun _ => ?_
    · refine Session.Parts.keeps_bind (keeps_release hrepeat hjournal) fun _ _ _ => ?_
      exact parts_ended hrepeat hjournal hother htakes _ trial failure
    · refine (Session.Grows.lift ends_release_isWatched).bind fun _ => ?_
      exact (Session.Grows.call (grows_classify _ trial _)).map _
  | ok output =>
    refine hsteps.bind (fun _ _ _ => ?_) fun _ => ?_
    · refine Session.Parts.bind (.call (parts_record hrepeat hjournal hother htakes ?_))
        (fun _ _ _ => Session.Parts.pure rfl) fun _ => .pure _
      rfl
    · exact (Session.Grows.call (grows_record _)).bind fun _ => .pure _

/-- All trials of a configuration, by induction on how many are left. -/
theorem parts_runTrials {size : Nat} (input : Array UInt8) (left index : Nat)
    (output : Vector UInt8 size) :
    Session.Parts alike base (bench.watched.runTrials configuration input left index output)
      ((bench.reporting journal).watched.runTrials configuration input left index output) Eq := by
  induction left generalizing index output with
  | zero => exact Session.Parts.pure rfl
  | succ left ih =>
    -- the sessions are abreast before each trial, with whatever engines they have been given
    unfold runTrials
    refine Session.Parts.keeps_bind (keeps_ready hrepeat hjournal index) ?_
    intro ready ready' hready
    cases hready with
    | error failure => exact parts_ended hrepeat hjournal hother htakes _ _ failure
    | ok _ =>
      refine (parts_runTrial hrepeat hjournal hother htakes _ input output).bind ?_ ?_
      · rintro outcome _ rfl
        cases outcome with
        | error status => exact Session.Parts.pure rfl
        | ok output => exact ih (index + 1) output
      · intro outcome
        cases outcome with
        | error status => exact .pure _
        | ok output => exact grows_runTrials input left (index + 1) output

/-- Driving two engines that cannot be told apart. -/
theorem parts_measure :
    Session.Parts alike base (bench.watched.measure configuration)
      ((bench.reporting journal).watched.measure configuration) Eq := by
  have hweigh : Session.Keeps alike base (ExceptT.lift bench.watched.weigh.run)
      (ExceptT.lift (bench.reporting journal).watched.weigh.run) (Both Eq) :=
    .lift (keeps_weigh hrepeat hjournal)
  unfold measure
  -- weighing makes no calls of the journal, so the runs are still together behind it
  refine Session.Parts.keeps_bind hweigh fun weighed weighed' hboth => ?_
  cases hboth with
  | error failure =>
    refine Session.Parts.keeps_bind (keeps_release hrepeat hjournal) fun _ _ _ => ?_
    exact .call (parts_classify hrepeat hjournal hother htakes _ _ failure)
  | ok _ =>
    refine Session.Parts.keeps_bind Session.Keeps.current fun session session' habreast => ?_
    rw [habreast.geometry_eq]
    -- the trials are counted before the journal is asked for anything
    refine Session.Parts.keeps_bind (.call (.pure (Both.refl bench.trials))) ?_
    rintro total _ rfl
    refine (parts_runTrials hrepeat hjournal hother htakes _ _ _ _).bind ?_ ?_
    · rintro outcome _ rfl
      cases outcome with
      | error status => exact Session.Parts.pure rfl
      | ok output =>
        dsimp only
        by_cases hvalidate : bench.campaign.validate = true
        · rw [if_pos (show bench.watched.campaign.validate = true from hvalidate),
            if_pos (show (bench.reporting journal).watched.campaign.validate = true from hvalidate)]
          exact .call (parts_judge hrepeat hjournal hother htakes _ _ _)
        · rw [if_neg (show ¬bench.watched.campaign.validate = true from hvalidate),
            if_neg (show ¬(bench.reporting journal).watched.campaign.validate = true from
              hvalidate)]
          exact Session.Parts.pure rfl
    · intro outcome
      cases outcome with
      | error status => exact .pure _
      | ok output =>
        dsimp only
        cases (bench.reporting journal).watched.campaign.validate with
        | true => exact .call (grows_judge _ _ _)
        | false => exact .pure _

/-- A configuration goes together on both sides, or they part at one of its records. -/
theorem parts_runConfiguration :
    PartsExcept alike base (bench.watched.runConfiguration configuration)
      ((bench.reporting journal).watched.runConfiguration configuration) Eq := by
  unfold runConfiguration
  refine Parts.liftM_bind (Twins.log (hrepeat.aside hjournal) _ _ _ _) fun _ _ _ => ?_
  refine Parts.liftM_bind (twins_create hrepeat) fun made made' hmade => ?_
  cases hmade with
  | error failure => exact parts_classify hrepeat hjournal hother htakes _ _ failure
  | ok hnew =>
    refine Parts.effect_bind (parts_measure hrepeat hjournal hother htakes _ _ hnew) ?_ ?_ ?_
    · rintro ⟨result, session⟩ ⟨result', session'⟩ ⟨hresult, hsessions⟩
      obtain ⟨engine, engine', number, number', stage, hengine, hsession, hsession'⟩ := hsessions
      dsimp only at hresult hsession hsession' ⊢
      subst hsession hsession'
      refine Parts.liftM_bind (Session.twins_drop (hrepeat.aside hjournal) hengine) fun _ _ _ => ?_
      exact .of_twins (Twins.pure hresult)
    · -- the side that was refused something is left to release its engine
      rintro ⟨result, session⟩ before ⟨hresult, hsession⟩
      refine Ends.liftM_bind (grows_drop hsession before) fun _ _ _ => ?_
      exact Ends.pure hresult
    · rintro ⟨result', session'⟩ hsession' before
      refine Ends.liftM_bind (grows_drop hsession' before) fun _ _ _ => ?_
      exact Ends.pure trivial

/-- The grid goes together on both sides, or they part at one of its records. -/
theorem parts_runAll (configurations : List Configuration) (tally : Tally) :
    PartsExcept alike base (bench.watched.runAll configurations tally)
      ((bench.reporting journal).watched.runAll configurations tally) Eq := by
  induction configurations generalizing tally with
  | nil => exact .of_twins (Twins.pure (.ok rfl))
  | cons configuration rest ih =>
    unfold runAll
    refine Parts.bindExcept (parts_runConfiguration hrepeat hjournal hother htakes) ?_ ?_
    · rintro status _ rfl
      exact ih (tally.add status)
    · intro status
      exact grows_runAll rest (tally.add status)

/-- The grid and the end of the run. -/
theorem agree_runAll (configurations : List Configuration) (opening : String)
    (closing : Tally → String) :
    Agree (Same alike)
      (do liftM (bench.watched.log .info opening)
          let tally ← bench.watched.runAll configurations .empty
          bench.watched.journal.finish
          liftM (bench.watched.log .info (closing tally))
          return tally : ExceptT Failure (Watched (StateM σ)) Tally).run
      (do liftM ((bench.reporting journal).watched.log .info opening)
          let tally ← (bench.reporting journal).watched.runAll configurations .empty
          (bench.reporting journal).watched.journal.finish
          liftM ((bench.reporting journal).watched.log .info (closing tally))
          return tally : ExceptT Failure (Watched (StateM σ)) Tally).run
      fun _ _ => Cut := by
  refine Agree.of_same fun base hbase => ?_
  refine (Twins.log (hrepeat.aside hjournal) _ _ _ _).liftM_bind fun _ _ _ => ?_
  refine Parts.cut_bind (parts_runAll hrepeat hjournal hother htakes configurations .empty) hbase
    ?_ fun tally => grows_finish (closing tally) tally
  -- nothing was refused up to the end, which the first journal may still refuse
  rintro tally _ rfl
  have hgrows : Grows (do
      liftM ((bench.reporting journal).watched.log .info (closing tally))
      return tally : ExceptT Failure (Watched (StateM σ)) Tally).run :=
    fun _ => Ends.unseen_bind fun _ => Ends.pure trivial
  have hunrefused : Agree (fun before _ _ _ => Unrefused before)
      (do liftM (bench.watched.log .info (closing tally))
          return tally : ExceptT Failure (Watched (StateM σ)) Tally).run
      (do liftM ((bench.reporting journal).watched.log .info (closing tally))
          return tally : ExceptT Failure (Watched (StateM σ)) Tally).run fun _ _ => Cut :=
    fun _ _ _ _ hbefore => .inl hbefore
  refine Agree.asked_bind (fun _ => ⟨rfl, rfl⟩) htakes.finish hgrows ?_ hunrefused
  rintro before _ _ _ ⟨-, htold⟩
  exact ⟨htold.plain, (htold.unrefused hbase).append (List.forall_mem_singleton.2 rfl)⟩

/-- Two runs that differ in their journals alone: nothing is refused, or they part. -/
theorem agree_run :
    Agree (Same Eq) bench.watched.run.run
      (bench.reporting journal).watched.run.run fun _ _ => Cut := by
  unfold run
  rw [show (bench.reporting journal).watched.campaign = bench.watched.campaign from rfl]
  cases bench.watched.campaign.check with
  | error failure => exact Agree.pure fun _ _ _ _ hsame => .inl hsame.1
  | ok _ =>
    have hcapabilities (before : List Event) :
        Ends bench.watched.platform.capabilities before fun _ events => Unrefused events :=
      Ends.capabilities.mono fun _ _ hevents => hevents ▸ List.forall_mem_singleton.2 rfl
    have hdate (before : List Event) :
        Ends bench.watched.env.date before fun _ events => Unrefused events :=
      Ends.lift fun _ => List.forall_mem_nil _
    refine Agree.ok_bind ?_
    refine Agree.liftM_bind (Agree.same hcapabilities) fun capabilities _ => Agree.of_and ?_
    rintro rfl
    refine Agree.liftM_bind (Agree.same hdate) fun started _ => Agree.of_and ?_
    rintro rfl
    refine Agree.asked_bind (fun _ => ⟨rfl, rfl⟩) (htakes.start _) ?_ ?_
      (agree_runAll hrepeat hjournal hother htakes _ _ _)
    · intro before
      refine Ends.unseen_bind fun _ => ?_
      refine (grows_runAll _ _ before).bindExcept (fun tally _ _ => ?_) fun _ _ _ => trivial
      exact grows_finish _ tally _
    · -- one world until the journals are started, and worlds that are alike from there on
      rintro before world _ _ ⟨hbefore, rfl, rfl⟩
      refine ⟨rfl, hbefore.append (List.forall_mem_singleton.2 rfl), rfl, ?_⟩
      have hspares (header : Header) :=
        (hjournal.start header).spares hrepeat.equivalence (hother.start header)
      exact (hspares _ world world (hrepeat.equivalence.refl world)).2

end Sides

/-- **A refusal cuts the stream.** Take a bench that can be repeated, with a journal that may refuse
whatever it likes, and the same bench with a journal that takes everything; no other call of a run
sees anything of either of them. Wherever the first journal refuses something, in runs that start in
one world:

* the result is the refusal, and nothing was refused before;
* the journal is not asked for anything more;
* what it was asked for before is, but for times, the beginning of what the other journal is asked
  for;
* up to there both runs make the same calls, and the next one is that which is refused;
* behind the refusal the engine in use is released, if it was not released before, and nothing else
  is done. -/
theorem run_refused (bench : Bench (StateM σ)) (journal : Journal (StateM σ)) {alike : σ → σ → Prop}
    (hrepeat : bench.Repeatable alike) (hjournal : bench.journal.Unseen alike)
    (hother : journal.Unseen alike) (htakes : journal.TakesAll) (world : σ) :
    let result := ((bench.watched.run.run.run []).run world).1.1
    let events := ((bench.watched.run.run.run []).run world).1.2
    let events' := (((bench.reporting journal).watched.run.run.run []).run world).1.2
    ∀ earlier refused later failure, events = earlier ++ refused :: later →
      refused.refusal? = some failure →
      result = .error failure ∧
        Unrefused earlier ∧
        (∀ event ∈ later, event.isJournal = false) ∧
        Event.stream earlier = (Event.stream events').take (Event.stream earlier).length ∧
        earlier.map Event.plain ++ [refused.taken.plain] <+: events'.map Event.plain ∧
        ((later = [] ∧ ∀ number < (Event.engines earlier).length, Released number earlier) ∨
          ∃ number outcome, later = [.called number .destroy outcome] ∧
            (Event.engines earlier).length = number + 1 ∧ ¬Released number earlier) := by
  intro result events events' earlier refused later failure hevents hrefused
  have hends : Ends bench.watched.run.run [] bench.Ran := ends_run
  obtain ⟨trace, htrace, hran⟩ := hends world
  have hsplit : trace = earlier ++ refused :: later := by
    rw [← hevents]
    exact htrace.symm
  subst hsplit
  obtain ⟨hresult, hearlier, hlater⟩ := hran.halted.of_split (fun _ h => h.unrefused) hrefused
  -- the other run has come to the same call when they part
  have hprefix : earlier.map Event.plain ++ [refused.taken.plain] <+: events'.map Event.plain := by
    have hcut : Unrefused events ∨ Parted events events' :=
      agree_run hrepeat hjournal hother htakes [] world [] world ⟨List.forall_mem_nil _, rfl, rfl⟩
    rcases hcut with hnone | ⟨first, other, reason, rest, first', accepted, rest', hparted⟩
    · have hmem : refused ∈ events := hevents ▸ List.mem_append_right _ List.mem_cons_self
      rw [hnone refused hmem] at hrefused
      cases hrefused
    · obtain ⟨hsame, hsame', hplain, hother, haccepted⟩ := hparted
      obtain ⟨rfl, rfl, rfl⟩ :=
        hearlier.split_eq hlater.unrefused (hevents.symm.trans hsame) hother
      refine ⟨rest'.map Event.plain, ?_⟩
      rw [hsame', hplain, haccepted, List.map_append, List.map_cons, List.append_assoc,
        List.singleton_append]
  refine ⟨hresult, hearlier, ?_, ?_, hprefix, ?_⟩
  · rcases hlater with rfl | ⟨number, outcome, rfl⟩
    · exact List.forall_mem_nil _
    · exact List.forall_mem_singleton.2 rfl
  · have hstream : Event.stream earlier <+: Event.stream events' :=
      ((List.prefix_append _ _).trans hprefix).filter _
    exact List.prefix_iff_eq_take.1 hstream
  · exact hran.orderly.of_refusal hrefused hlater

end Bench

/-- A journal that keeps nothing, and refuses some of the records. -/
def Journal.refusing {σ : Type} (refuses : Record → Bool) : Journal (StateM σ) where
  start _ := pure ()
  record entry :=
    ExceptT.mk (pure (if refuses entry then .error (.report "no space left") else .ok ()))
  finish := pure ()

namespace Bench

theorem unseen_refusing (refuses : Record → Bool) :
    (Journal.refusing refuses).Unseen Store.Same where
  start _ _ := rfl
  record _ _ := rfl

theorem takesAll_refusing :
    (Journal.refusing fun _ => false : Journal (StateM Store)).TakesAll where
  start _ _ := rfl
  record _ _ := rfl
  finish _ := rfl

/-- Storing benches can be repeated: only the bytes in the store make a difference to them. -/
theorem repeatable_storing (campaign : Campaign) (journal : Journal (StateM Store)) :
    ((storing campaign).reporting journal).Repeatable Store.Same where
  equivalence := ⟨fun _ => rfl, Eq.symm, Eq.trans⟩
  log _ _ _ _ h := ⟨trivial, h⟩
  clock _ _ h := ⟨trivial, h⟩
  capabilities _ _ h := ⟨rfl, h⟩
  hostBytes _ _ h := ⟨rfl, h⟩
  create configuration _ _ _ := by
    have hmade (outcome : Except Failure Geometry) :
        Both (Engine.Alike Store.Same) (outcome.map Engine.storing)
          (outcome.map Engine.storing) := by
      cases outcome with
      | ok geometry => exact .ok (alike_storing geometry)
      | error failure => exact .error failure
    obtain ⟨kind, placement, precision, extent⟩ := configuration
    cases precision with
    | half => exact ⟨.error _, rfl⟩
    | single => exact ⟨hmade _, rfl⟩
    | double => exact ⟨hmade _, rfl⟩

/-- A grid of two configurations, with a journal that refuses the total of the first trial of the
second one. -/
theorem run_refused_storing :
    let campaign := { Campaign.standard with
      extents := [⟨[2], by decide, by decide, by simp⟩], kinds := [.complex]
      placements := [.inPlace], precisions := [.half, .single], runs := 1 }
    let bench := (storing campaign).reporting (.refusing (·.phase = .total))
    let events := ((bench.watched.run.run.run []).run ⟨3, #[1]⟩).1.2
    let events' := (((bench.reporting (.refusing fun _ => false)).watched.run.run.run []).run
      ⟨3, #[1]⟩).1.2
    ((bench.watched.run.run.run []).run ⟨3, #[1]⟩).1.1 = .error (.report "no space left") ∧
      ∃ earlier refused later, events = earlier ++ refused :: later ∧
        Event.stream earlier = (Event.stream events').take (Event.stream earlier).length ∧
        ∀ event ∈ later, event.isJournal = false := by
  intro campaign bench events events'
  have hany : events.any (·.refusal? = some (.report "no space left")) = true := by decide +kernel
  obtain ⟨refused, hmem, hrefused⟩ := List.any_eq_true.1 hany
  obtain ⟨earlier, later, hsplit⟩ := List.append_of_mem hmem
  have hrun := run_refused bench (.refusing fun _ => false) (repeatable_storing campaign _)
    (unseen_refusing _) (unseen_refusing _) takesAll_refusing ⟨3, #[1]⟩
  obtain ⟨hresult, -, hlater, hstream, -⟩ :=
    hrun earlier refused later _ hsplit (of_decide_eq_true hrefused)
  exact ⟨hresult, earlier, refused, later, hsplit, hstream, hlater⟩

end Bench

end SpectralBench
