import SpectralBench.Campaign.Run
import SpectralBench.Proofs.Twin

/-!
# Runs in other surroundings

A run is written for any surroundings, and uses them in no other way than by calling them one after
the other. So if the calls on one side do what the calls on the other side do, the whole runs do.
What "do what the others do" means is left open: a `Correspondence` is any relation between actions
that holds of actions without effects and of actions one after the other, if it holds of them.

This holds for benches that differ in how their platforms are torn down, since no run does that.

Main statements:

* `Correspondence.bindExcept`, `Correspondence.RelOn.bind` — two actions, one after the other.
* `Bench.rel_runConfiguration` — a configuration on corresponding benches.
* `Bench.rel_run` — whole runs on corresponding benches.
-/

namespace SpectralBench

/-- A way to relate the actions of two monads by their results. -/
structure Correspondence (m n : Type → Type) [Monad m] [Monad n] where
  Rel {α β : Type} : (α → β → Prop) → m α → n β → Prop
  pure {α β : Type} {post : α → β → Prop} {a : α} {b : β} : post a b → Rel post (pure a) (pure b)
  bind {α β γ δ : Type} {mid : α → β → Prop} {post : γ → δ → Prop} {left : m α} {right : n β}
    {next : α → m γ} {next' : β → n δ} : Rel mid left right →
    (∀ a b, mid a b → Rel post (next a) (next' b)) → Rel post (left >>= next) (right >>= next')

variable {m n : Type → Type} [Monad m] [Monad n] {R : Correspondence m n} {α β γ δ : Type}

/-! ## Actions -/

namespace Correspondence

/-- Parts of runs that may fail, on both sides with the same failure. -/
def RelExcept (R : Correspondence m n) (post : α → β → Prop) (left : ExceptT Failure m α)
    (right : ExceptT Failure n β) : Prop :=
  R.Rel (Both post) left.run right.run

section Lawful

variable [LawfulMonad m] [LawfulMonad n]

theorem map {post : γ → δ → Prop} {left : m α} {right : n β} {f : α → γ} {g : β → δ}
    (h : R.Rel (fun a b => post (f a) (g b)) left right) :
    R.Rel post (f <$> left) (g <$> right) := by
  rw [map_eq_pure_bind, map_eq_pure_bind]
  exact R.bind h fun a b hpost => R.pure hpost

/-- What related actions give may be said more weakly. -/
theorem mono {mid post : α → β → Prop} {left : m α} {right : n β} (h : R.Rel mid left right)
    (himp : ∀ a b, mid a b → post a b) : R.Rel post left right := by
  rw [← bind_pure left, ← bind_pure right]
  exact R.bind h fun a b hmid => R.pure (himp a b hmid)

end Lawful

/-- Actions that may fail are related if they fail alike, and go on alike where they do not. -/
theorem bindExcept {mid : α → β → Prop} {post : γ → δ → Prop} {left : ExceptT Failure m α}
    {right : ExceptT Failure n β} {next : α → ExceptT Failure m γ} {next' : β → ExceptT Failure n δ}
    (h : R.RelExcept mid left right)
    (hnext : ∀ a b, mid a b → R.RelExcept post (next a) (next' b)) :
    R.RelExcept post (left >>= next) (right >>= next') := by
  rw [RelExcept, ExceptT.run_bind, ExceptT.run_bind]
  refine R.bind h fun outcome outcome' hboth => ?_
  cases hboth with
  | ok hmid => exact hnext _ _ hmid
  | error failure => exact R.pure (.error failure)

theorem pureExcept {post : α → β → Prop} {a : α} {b : β} (h : post a b) :
    R.RelExcept post (Pure.pure a) (Pure.pure b) :=
  R.pure (.ok h)

/-- An effect that cannot fail. -/
theorem liftM_bind [LawfulMonad m] [LawfulMonad n] {mid : α → β → Prop} {post : γ → δ → Prop}
    {left : m α} {right : n β} {next : α → ExceptT Failure m γ} {next' : β → ExceptT Failure n δ}
    (h : R.Rel mid left right) (hnext : ∀ a b, mid a b → R.RelExcept post (next a) (next' b)) :
    R.RelExcept post (liftM left >>= next) (liftM right >>= next') :=
  bindExcept (map (mono h fun _ _ hmid => .ok hmid)) hnext

end Correspondence

/-! ## What corresponds -/

section Structures

variable (R)

/-- Engines that answer all calls alike. -/
structure Engine.Corresponds (engine : Engine m) (engine' : Engine n) : Prop where
  geometry_eq : engine.geometry = engine'.geometry
  start : ∀ step, R.RelExcept Eq (engine.stopwatch.start step) (engine'.stopwatch.start step)
  stop : ∀ mark, R.RelExcept Eq (engine.stopwatch.stop mark) (engine'.stopwatch.stop mark)
  elapsed : ∀ mark, R.RelExcept Eq (engine.stopwatch.elapsed mark) (engine'.stopwatch.elapsed mark)
  planEstimate : R.RelExcept Eq engine.planEstimate engine'.planEstimate
  allocate : R.RelExcept Eq engine.allocate engine'.allocate
  planForward : R.RelExcept Eq engine.planForward engine'.planForward
  planInverse : R.RelExcept Eq engine.planInverse engine'.planInverse
  upload : ∀ host, R.RelExcept Eq (engine.upload host) (engine'.upload host)
  executeForward : R.RelExcept Eq engine.executeForward engine'.executeForward
  executeInverse : R.RelExcept Eq engine.executeInverse engine'.executeInverse
  download : ∀ {size : Nat} (host : Vector UInt8 size),
    R.RelExcept Eq (engine.download host) (engine'.download host)
  destroy : R.RelExcept Eq engine.destroy engine'.destroy

/-- Sessions with engines that correspond, at one stage. -/
structure Session.Corresponds (session : Session m) (session' : Session n) : Prop where
  engine : session.engine.Corresponds R session'.engine
  stage_eq : session.stage = session'.stage

/-- Whether two environments do the same, up to what the relation says of their actions. -/
structure Environment.Corresponds (env : Environment m) (env' : Environment n) : Prop where
  arithmetic_eq : env.arithmetic = env'.arithmetic
  toHalf_eq : env.toHalf = env'.toHalf
  log : ∀ entry, R.Rel Eq (env.log entry) (env'.log entry)
  clock : R.Rel Eq env.clock env'.clock
  date : R.Rel Eq env.date env'.date

/-- Platforms that answer alike as long as they are up. Nothing is asked of how they are torn
down. -/
structure Platform.Corresponds (platform : Platform m) (platform' : Platform n) : Prop where
  title_eq : platform.title = platform'.title
  stopwatchName_eq : platform.stopwatchName = platform'.stopwatchName
  normalizes_eq : platform.normalizes = platform'.normalizes
  reuse_eq : platform.reuse = platform'.reuse
  capabilities : R.Rel Eq platform.capabilities platform'.capabilities
  hostBytes : R.Rel Eq platform.hostBytes platform'.hostBytes
  createEngine : ∀ configuration, R.RelExcept (Engine.Corresponds R)
    (platform.createEngine configuration) (platform'.createEngine configuration)

/-- Whether two journals take in the same. -/
structure Journal.Corresponds (journal : Journal m) (journal' : Journal n) : Prop where
  start : ∀ header, R.RelExcept Eq (journal.start header) (journal'.start header)
  record : ∀ entry, R.RelExcept Eq (journal.record entry) (journal'.record entry)
  finish : R.RelExcept Eq journal.finish journal'.finish

/-- Whether two benches run the same campaign, with a platform, a journal and an environment that
correspond. -/
structure Bench.Corresponds (bench : Bench m) (bench' : Bench n) : Prop where
  env : bench.env.Corresponds R bench'.env
  platform : bench.platform.Corresponds R bench'.platform
  campaign_eq : bench.campaign = bench'.campaign
  journal : bench.journal.Corresponds R bench'.journal

end Structures

/-! ## Actions on sessions -/

namespace Correspondence

/-- What two actions do to sessions that correspond: their results are related, and the sessions
correspond again. -/
def RelState (R : Correspondence m n) (post : α → β → Prop) (left : StateT (Session m) m α)
    (right : StateT (Session n) n β) : Prop :=
  ∀ session session', session.Corresponds R session' →
    R.Rel (fun ended ended' => post ended.1 ended'.1 ∧ ended.2.Corresponds R ended'.2)
      (left.run session) (right.run session')

/-- `RelState` for actions that may fail, on both sides with the same failure. -/
def RelOn (R : Correspondence m n) (post : α → β → Prop) (left : SessionM m α)
    (right : SessionM n β) : Prop :=
  R.RelState (Both post) left.run right.run

namespace RelState

theorem pure {post : α → β → Prop} {a : α} {b : β} (h : post a b) :
    R.RelState post (Pure.pure a) (Pure.pure b) :=
  fun _ _ hsessions => R.pure ⟨h, hsessions⟩

theorem bind {mid : α → β → Prop} {post : γ → δ → Prop} {left : StateT (Session m) m α}
    {right : StateT (Session n) n β} {next : α → StateT (Session m) m γ}
    {next' : β → StateT (Session n) n δ} (h : R.RelState mid left right)
    (hnext : ∀ a b, mid a b → R.RelState post (next a) (next' b)) :
    R.RelState post (left >>= next) (right >>= next') := by
  intro session session' hsessions
  rw [StateT.run_bind, StateT.run_bind]
  exact R.bind (h session session' hsessions) fun ended ended' hended =>
    hnext _ _ hended.1 _ _ hended.2

/-- What does not see the sessions. -/
theorem lift {post : α → β → Prop} {left : m α} {right : n β} (h : R.Rel post left right) :
    R.RelState post (StateT.lift left) (StateT.lift right) :=
  fun _ _ hsessions => R.bind h fun _ _ hpost => R.pure ⟨hpost, hsessions⟩

end RelState

namespace RelOn

theorem pure {post : α → β → Prop} {a : α} {b : β} (h : post a b) :
    R.RelOn post (Pure.pure a) (Pure.pure b) :=
  RelState.pure (.ok h)

theorem throw {post : α → β → Prop} (failure : Failure) :
    R.RelOn post (throw failure) (throw failure) :=
  RelState.pure (.error failure)

theorem bind {mid : α → β → Prop} {post : γ → δ → Prop} {left : SessionM m α}
    {right : SessionM n β} {next : α → SessionM m γ} {next' : β → SessionM n δ}
    (h : R.RelOn mid left right) (hnext : ∀ a b, mid a b → R.RelOn post (next a) (next' b)) :
    R.RelOn post (left >>= next) (right >>= next') := by
  rw [RelOn, ExceptT.run_bind, ExceptT.run_bind]
  refine RelState.bind h fun outcome outcome' hboth => ?_
  cases hboth with
  | ok hmid => exact hnext _ _ hmid
  | error failure => exact RelState.pure (.error failure)

theorem map [LawfulMonad m] [LawfulMonad n] {left : SessionM m α} {right : SessionM n α}
    (h : R.RelOn Eq left right) (f : α → β) : R.RelOn Eq (f <$> left) (f <$> right) := by
  rw [map_eq_pure_bind, map_eq_pure_bind]
  refine h.bind ?_
  rintro a _ rfl
  exact pure rfl

/-- What sees the sessions and cannot fail. -/
theorem lift [LawfulMonad m] [LawfulMonad n] {post : α → β → Prop} {left : StateT (Session m) m α}
    {right : StateT (Session n) n β} (h : R.RelState post left right) :
    R.RelOn post (ExceptT.lift left) (ExceptT.lift right) := by
  rw [RelOn, ExceptT.run_lift, ExceptT.run_lift, map_eq_pure_bind, map_eq_pure_bind]
  exact RelState.bind h fun a b hpost => RelState.pure (.ok hpost)

/-- A call of an engine may fail on both sides, with one failure. -/
theorem call {post : α → β → Prop} {left : ExceptT Failure m α} {right : ExceptT Failure n β}
    (h : R.RelExcept post left right) : R.RelOn post (Session.call left) (Session.call right) :=
  RelState.lift h

theorem perform [LawfulMonad m] [LawfulMonad n] {post : α → β → Prop} {left : m α} {right : n β}
    (h : R.Rel post left right) : R.RelOn post (Session.perform left) (Session.perform right) :=
  lift (RelState.lift h)

theorem current [LawfulMonad m] [LawfulMonad n] :
    R.RelOn (Session.Corresponds R) Session.current Session.current :=
  lift fun _ _ hsessions => R.pure ⟨hsessions, hsessions⟩

theorem set [LawfulMonad m] [LawfulMonad n] {session : Session m} {session' : Session n}
    (h : session.Corresponds R session') :
    R.RelOn Eq (ExceptT.lift (MonadStateOf.set session))
      (ExceptT.lift (MonadStateOf.set session')) :=
  lift fun _ _ _ => R.pure ⟨rfl, h⟩

theorem moveTo [LawfulMonad m] [LawfulMonad n] (stage : Stage) :
    R.RelOn Eq (Session.moveTo stage) (Session.moveTo stage) :=
  lift fun _ _ hsessions => R.pure ⟨rfl, ⟨hsessions.engine, rfl⟩⟩

end RelOn

end Correspondence

/-! ## Steps -/

namespace Session

open Correspondence

variable [LawfulMonad m] [LawfulMonad n] {env : Environment m} {env' : Environment n}
  (henv : env.Corresponds R env')

theorem rel_expect (phase : Phase) (stage : Stage) :
    R.RelOn Eq (expect phase stage) (expect phase stage) := by
  unfold expect
  refine RelOn.current.bind fun session session' hsessions => ?_
  rw [hsessions.stage_eq]
  split
  · exact RelOn.pure rfl
  · exact RelOn.throw _

theorem rel_measure {engine : Engine m} {engine' : Engine n}
    (hengine : engine.Corresponds R engine') (step : Step)
    {left : ExceptT Failure m α} {right : ExceptT Failure n α} (h : R.RelExcept Eq left right) :
    R.RelExcept Eq (engine.stopwatch.measure step left) (engine'.stopwatch.measure step right) := by
  unfold Stopwatch.measure
  refine bindExcept (hengine.start step) fun mark _ hmark => ?_
  subst hmark
  -- the watch is stopped whatever the call came to
  refine liftM_bind h fun outcome outcome' houtcome => ?_
  refine bindExcept (hengine.stop mark) fun _ _ _ => ?_
  refine bindExcept (R.pure houtcome) fun result _ hresult => ?_
  subst hresult
  refine bindExcept (hengine.elapsed mark) fun time _ htime => ?_
  subst htime
  exact pureExcept rfl

include henv

/-- A step goes to both engines or to neither. -/
theorem rel_run (step : Step) {action : Engine m → ExceptT Failure m α}
    {action' : Engine n → ExceptT Failure n α}
    (h : ∀ engine engine', engine.Corresponds R engine' →
      R.RelExcept Eq (action engine) (action' engine')) :
    R.RelOn Eq (run env step action) (run env' step action') := by
  unfold run
  refine RelOn.current.bind fun session session' hsessions => ?_
  -- the stage that a step requires depends on the kind, which is the same on both sides
  have hkind : session.kind = session'.kind := congrArg Geometry.kind hsessions.engine.geometry_eq
  have hcall : R.RelOn Eq
      (call (session.engine.stopwatch.measure step (action session.engine)) >>= fun ended => do
        perform (env.log ⟨.debug, Log.Target.session, s!"{step.label}: {ended.2.text}"⟩)
        moveTo step.reaches
        return ended)
      (call (session'.engine.stopwatch.measure step (action' session'.engine)) >>= fun ended => do
        perform (env'.log ⟨.debug, Log.Target.session, s!"{step.label}: {ended.2.text}"⟩)
        moveTo step.reaches
        return ended) := by
    refine (RelOn.call (rel_measure hsessions.engine step (h _ _ hsessions.engine))).bind ?_
    rintro ended _ rfl
    refine (RelOn.perform (henv.log _)).bind fun _ _ _ => ?_
    exact (RelOn.moveTo step.reaches).bind fun _ _ _ => RelOn.pure rfl
  rw [hkind]
  cases step.requires session'.kind with
  | some required => exact (rel_expect _ required).bind fun _ _ _ => hcall
  | none => exact hcall

/-- A timed step corresponds if what it calls does. -/
theorem rel_runTimed (step : Step) {action : Engine m → ExceptT Failure m Unit}
    {action' : Engine n → ExceptT Failure n Unit}
    (h : ∀ engine engine', engine.Corresponds R engine' →
      R.RelExcept Eq (action engine) (action' engine')) :
    R.RelOn Eq (runTimed env step action) (runTimed env' step action') :=
  (rel_run henv step h).map _

omit henv

theorem rel_planEstimate : R.RelOn Eq planEstimate planEstimate := by
  unfold planEstimate
  refine (rel_expect _ _).bind fun _ _ _ => ?_
  exact RelOn.current.bind fun _ _ hsessions => RelOn.call hsessions.engine.planEstimate

theorem rel_destroy : R.RelOn Eq destroy destroy := by
  unfold destroy
  refine RelOn.current.bind fun session session' hsessions => ?_
  rw [hsessions.stage_eq]
  split
  · exact RelOn.pure rfl
  · refine (RelOn.perform (rel_measure hsessions.engine .destroy hsessions.engine.destroy)).bind ?_
    intro outcome outcome' hboth
    refine (RelOn.moveTo .destroyed).bind fun _ _ _ => ?_
    refine (RelOn.call (R.pure hboth)).bind ?_
    rintro ended _ rfl
    exact RelOn.pure rfl

theorem rel_rearm : R.RelOn Eq rearm rearm := by
  unfold rearm
  exact (rel_expect _ _).bind fun _ _ _ => RelOn.moveTo _

include henv

theorem rel_planInverse : R.RelOn Eq (planInverse env) (planInverse env') := by
  unfold planInverse
  refine RelOn.current.bind fun session session' hsessions => ?_
  have hkind : session.kind = session'.kind := congrArg Geometry.kind hsessions.engine.geometry_eq
  rw [hkind, hsessions.stage_eq]
  cases session'.kind with
  | real => exact rel_runTimed henv _ fun _ _ h => h.planInverse
  | complex => exact RelOn.throw _

/-- Every step of a session corresponds. -/
theorem rel_step {size : Nat} (input : Array UInt8) (output : Vector UInt8 size) (step : Step) :
    R.RelOn Eq (Session.step env input output step) (Session.step env' input output step) := by
  cases step with
  -- what a step asks of its engine is all that differs between the steps
  | allocate => exact (rel_runTimed henv _ fun _ _ h => h.allocate).map _
  | planForward => exact (rel_runTimed henv _ fun _ _ h => h.planForward).map _
  | upload => exact (rel_runTimed henv _ fun _ _ h => h.upload input).map _
  | executeForward => exact (rel_runTimed henv _ fun _ _ h => h.executeForward).map _
  | planInverse => exact (rel_planInverse henv).map _
  | executeInverse => exact (rel_runTimed henv _ fun _ _ h => h.executeInverse).map _
  | download =>
    unfold Session.step download
    exact rel_run henv _ fun _ _ h => h.download output
  | destroy => exact rel_destroy.map _

omit [LawfulMonad m] [LawfulMonad n]

/-- Sessions that are given up are released alike. -/
theorem rel_drop {session : Session m} {session' : Session n}
    (h : session.Corresponds R session') : R.Rel Eq (session.drop env) (session'.drop env') := by
  unfold drop
  rw [h.stage_eq]
  split
  · exact R.pure rfl
  · refine R.bind h.engine.destroy fun outcome outcome' hboth => ?_
    cases hboth with
    | ok _ => exact R.pure rfl
    | error failure => exact henv.log _

end Session

/-! ## Runs -/

namespace Bench

open Correspondence

variable [LawfulMonad m] [LawfulMonad n] {bench : Bench m} {bench' : Bench n}
  (h : bench.Corresponds R bench') (configuration : Configuration)

include h

omit [LawfulMonad m] [LawfulMonad n] in
theorem rel_log (level : Log.Level) (text : String) :
    R.Rel Eq (bench.log level text) (bench'.log level text) :=
  h.env.log _

omit [LawfulMonad m] [LawfulMonad n] in
theorem newRecord_eq (phase : Phase) (status : Status) :
    bench.newRecord configuration phase status = bench'.newRecord configuration phase status := by
  rw [newRecord, newRecord, h.platform.title_eq]

omit [LawfulMonad m] [LawfulMonad n] in
theorem rel_report (entry : Record) (status : Status) :
    R.RelExcept Eq
      (do bench.journal.record entry
          return status : ExceptT Failure m Status)
      (do bench'.journal.record entry
          return status : ExceptT Failure n Status) :=
  bindExcept (h.journal.record entry) fun _ _ _ => pureExcept rfl

/-- A failure is written down alike and weighed alike. -/
theorem rel_classify (phase : Phase) (trial : Trial) (failure : Failure) :
    R.RelExcept Eq (bench.classify configuration phase trial failure)
      (bench'.classify configuration phase trial failure) := by
  unfold classify
  simp only [newRecord_eq h]
  cases failure.severity with
  | skip => exact liftM_bind (rel_log h _ _) fun _ _ _ => rel_report h _ _
  | fail => exact liftM_bind (rel_log h _ _) fun _ _ _ => rel_report h _ _
  | abort => exact R.pure (.error failure)

/-- The steps of a trial go equally far. -/
theorem rel_attempt {size : Nat} (input : Array UInt8) (steps : List Step)
    (output : Vector UInt8 size) :
    R.RelState Eq (bench.attempt input steps output) (bench'.attempt input steps output) := by
  induction steps generalizing output with
  | nil => exact RelState.pure rfl
  | cons step rest ih =>
    unfold attempt
    refine RelState.bind (Session.rel_step h.env input output step) fun outcome outcome' hboth => ?_
    cases hboth with
    | error failure => exact RelState.pure rfl
    | @ok taken _ htaken =>
      subst htaken
      -- the other steps start from the output that this one leaves
      refine (ih taken.1).bind ?_
      rintro later _ rfl
      exact RelState.pure rfl

theorem rel_renew : R.RelOn Eq (bench.renew configuration) (bench'.renew configuration) := by
  unfold renew
  rw [h.platform.reuse_eq]
  cases bench'.platform.reuse configuration.kind with
  | reusable => exact Session.rel_rearm
  | notReusable =>
    refine (RelOn.call (h.platform.createEngine configuration)).bind ?_
    intro engine engine' hengine
    refine RelOn.current.bind fun session session' hsessions => ?_
    have hnew : (Session.new engine).Corresponds R (Session.new engine') := ⟨hengine, rfl⟩
    refine (RelOn.set hnew).bind fun _ _ _ => ?_
    exact RelOn.perform (Session.rel_drop h.env hsessions)

theorem rel_release : R.RelState Eq bench.release bench'.release := by
  unfold release
  refine RelState.bind Session.rel_destroy fun outcome outcome' hboth => ?_
  cases hboth with
  | ok _ => exact RelState.pure rfl
  | error failure => exact RelState.lift (rel_log h _ _)

omit [LawfulMonad m] [LawfulMonad n] in
theorem rel_recordSteps (trial : Trial) (timings : List (Step × Duration)) :
    R.RelExcept Eq (bench.recordSteps configuration trial timings)
      (bench'.recordSteps configuration trial timings) := by
  induction timings with
  | nil => exact pureExcept rfl
  | cons timing rest ih =>
    unfold recordSteps
    rw [newRecord_eq h]
    exact bindExcept (h.journal.record _) fun _ _ _ => ih

/-- A trial ends alike: with the same records, and with the same failure, if any. -/
theorem rel_runTrial (trial : Trial) {size : Nat} (input : Array UInt8)
    (output : Vector UInt8 size) :
    R.RelOn Eq (bench.runTrial configuration trial input output)
      (bench'.runTrial configuration trial input output) := by
  unfold runTrial
  refine RelOn.current.bind fun session session' hsessions => ?_
  have hkind : session.kind = session'.kind := congrArg Geometry.kind hsessions.engine.geometry_eq
  rw [hkind]
  refine (RelOn.perform h.env.clock).bind ?_
  rintro started _ rfl
  refine (RelOn.lift (rel_attempt h input _ output)).bind ?_
  rintro attempt _ rfl
  refine (RelOn.perform h.env.clock).bind ?_
  rintro ended _ rfl
  refine (RelOn.call (rel_recordSteps h configuration trial attempt.timings)).bind fun _ _ _ => ?_
  cases attempt.result with
  | error fault =>
    refine (RelOn.lift (rel_release h)).bind fun _ _ _ => ?_
    exact (RelOn.call (rel_classify h configuration _ trial _)).map _
  | ok output =>
    rw [newRecord_eq h]
    exact (RelOn.call (h.journal.record _)).bind fun _ _ _ => RelOn.pure rfl

/-- The trials, by induction on how many are left. -/
theorem rel_runTrials {size : Nat} (input : Array UInt8) (left index : Nat)
    (output : Vector UInt8 size) :
    R.RelOn Eq (bench.runTrials configuration input left index output)
      (bench'.runTrials configuration input left index output) := by
  induction left generalizing index output with
  | zero => exact RelOn.pure rfl
  | succ left ih =>
    unfold runTrials
    rw [h.campaign_eq]
    -- the engine of the first trial is there already
    have hready : R.RelState (Both Eq)
        (if index = 0 then pure (.ok ()) else (bench.renew configuration).run)
        (if index = 0 then pure (.ok ()) else (bench'.renew configuration).run) := by
      split
      · exact RelState.pure (.ok rfl)
      · exact rel_renew h configuration
    refine (RelOn.lift hready).bind fun ready ready' hboth => ?_
    cases hboth with
    | error failure => exact (RelOn.call (rel_classify h configuration _ _ failure)).map _
    | ok _ =>
      refine (rel_runTrial h configuration _ input output).bind ?_
      rintro outcome _ rfl
      cases outcome with
      | error status => exact RelOn.pure rfl
      | ok output => exact ih (index + 1) output

/-- The estimates are equal, and so is what is admitted. -/
theorem rel_weigh : R.RelOn Eq bench.weigh bench'.weigh := by
  unfold weigh
  refine Session.rel_planEstimate.bind ?_
  rintro plan _ rfl
  refine (RelOn.perform h.platform.capabilities).bind ?_
  rintro capabilities _ rfl
  refine (RelOn.perform h.platform.hostBytes).bind ?_
  rintro hostBytes _ rfl
  refine RelOn.current.bind fun session session' hsessions => ?_
  rw [hsessions.engine.geometry_eq, h.campaign_eq]
  split
  · exact RelOn.pure rfl
  · exact RelOn.throw _

/-- The same output is judged alike. -/
theorem rel_judge (geometry : Geometry) (input output : Array UInt8) :
    R.RelExcept Eq (bench.judge configuration geometry input output)
      (bench'.judge configuration geometry input output) := by
  unfold judge
  rw [h.platform.normalizes_eq, h.campaign_eq]
  -- both sides compare the same samples
  refine bindExcept (R.pure (Both.refl _)) ?_
  rintro deviation _ rfl
  simp only [newRecord_eq h]
  split
  · exact rel_report h _ _
  · exact liftM_bind (rel_log h _ _) fun _ _ _ => rel_report h _ _

omit [LawfulMonad m] [LawfulMonad n] in
theorem trials_congr : bench.trials = bench'.trials := by
  rw [trials, trials, h.campaign_eq, h.env.arithmetic_eq]

/-- Driving an engine through all trials of a configuration. -/
theorem rel_measure : R.RelOn Eq (bench.measure configuration) (bench'.measure configuration) := by
  unfold measure
  refine (RelOn.lift (rel_weigh h)).bind fun weighed weighed' hboth => ?_
  cases hboth with
  | error failure =>
    refine (RelOn.lift (rel_release h)).bind fun _ _ _ => ?_
    exact RelOn.call (rel_classify h configuration _ _ failure)
  | ok _ =>
    refine RelOn.current.bind fun session session' hsessions => ?_
    rw [hsessions.engine.geometry_eq, trials_congr h, h.campaign_eq, h.env.toHalf_eq]
    refine (RelOn.call (R.pure (Both.refl _))).bind ?_
    rintro total _ rfl
    refine (rel_runTrials h configuration _ _ _ _).bind ?_
    rintro outcome _ rfl
    cases outcome with
    | error status => exact RelOn.pure rfl
    | ok output =>
      dsimp only
      split
      · exact RelOn.call (rel_judge h configuration _ _ _)
      · exact RelOn.pure rfl

/-- A configuration goes the same way on both sides. -/
theorem rel_runConfiguration :
    R.RelExcept Eq (bench.runConfiguration configuration)
      (bench'.runConfiguration configuration) := by
  unfold runConfiguration
  refine liftM_bind (rel_log h _ _) fun _ _ _ => ?_
  refine liftM_bind (h.platform.createEngine configuration) fun made made' hmade => ?_
  cases hmade with
  | error failure => exact rel_classify h configuration _ _ failure
  | @ok engine engine' hengine =>
    have hnew : (Session.new engine).Corresponds R (Session.new engine') := ⟨hengine, rfl⟩
    refine liftM_bind (rel_measure h configuration _ _ hnew) fun ended ended' hended => ?_
    refine liftM_bind (Session.rel_drop h.env hended.2) fun _ _ _ => ?_
    exact R.pure hended.1

/-- Whole campaigns correspond, configuration by configuration. -/
theorem rel_runAll (configurations : List Configuration) (tally : Tally) :
    R.RelExcept Eq (bench.runAll configurations tally) (bench'.runAll configurations tally) := by
  induction configurations generalizing tally with
  | nil => exact pureExcept rfl
  | cons configuration rest ih =>
    unfold runAll
    refine bindExcept (rel_runConfiguration h configuration) ?_
    rintro status _ rfl
    exact ih (tally.add status)

/-- On benches that correspond, whole runs do. -/
theorem rel_run : R.RelExcept Eq bench.run bench'.run := by
  unfold run
  rw [h.campaign_eq, h.platform.title_eq, h.platform.stopwatchName_eq]
  -- the check of the campaign asks nothing of the surroundings
  refine bindExcept (R.pure (Both.refl _)) fun _ _ _ => ?_
  refine liftM_bind h.platform.capabilities ?_
  rintro capabilities _ rfl
  refine liftM_bind h.env.date ?_
  rintro started _ rfl
  refine bindExcept (h.journal.start _) fun _ _ _ => ?_
  refine liftM_bind (rel_log h _ _) fun _ _ _ => ?_
  refine bindExcept (rel_runAll h _ _) ?_
  rintro tally _ rfl
  refine bindExcept h.journal.finish fun _ _ _ => ?_
  exact liftM_bind (rel_log h _ _) fun _ _ _ => pureExcept rfl

end Bench

end SpectralBench
