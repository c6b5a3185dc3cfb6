import SpectralBench.Proofs.Campaign
import SpectralBench.Proofs.Session.Twin

/-!
# A configuration knows nothing of the others

If all answers about a configuration depend on that configuration alone, it goes the same way
wherever in the grid it stands: with the result and the events of a run of its own, in any world that
is possible.

Inside of a trial the same two engines are in use from beginning to end. Between two trials both sides
may make new ones, which are alike in a way of their own; `Bench.Left` is what is left of two sessions
either way.

Main statements:

* `Bench.twins_runTrial` — a trial goes the same way with engines that are alike.
* `Bench.agree_runTrials` — so do all trials of a configuration, whichever engines they are given.
* `Bench.twins_runConfiguration` — a configuration goes the same way in any two worlds.
-/

namespace SpectralBench

variable {σ : Type} {bench : Bench (StateM σ)} {possible : σ → Prop} {alike : σ → σ → Prop}
  {base base' : List Event} {configuration : Configuration}

namespace Bench

/-! ## One trial -/

section Records

variable (hsteady : bench.Steady possible) (haside : bench.Aside possible alike)

include hsteady haside

/-- The same steps leave the same records, in whatever times. -/
theorem twins_recordSteps (trial : Trial) {timings timings' : List (Step × Duration)}
    (h : timings.map (·.1) = timings'.map (·.1)) :
    Twins (Linked alike base base') (bench.watched.recordSteps configuration trial timings).run
      (bench.watched.recordSteps configuration trial timings').run (Both Eq) := by
  induction timings generalizing timings' with
  | nil =>
    rw [List.map_eq_nil_iff.1 h.symm]
    exact Twins.pure (.ok rfl)
  | cons timing rest ih =>
    obtain ⟨timing', rest', rfl, hstep, hrest⟩ := List.map_eq_cons_iff.1 h.symm
    obtain ⟨step, time⟩ := timing
    obtain ⟨step', time'⟩ := timing'
    dsimp only at hstep
    subst hstep
    unfold recordSteps
    -- the two records differ in the time alone
    refine Twins.bindExcept (Twins.record hsteady haside ?_) fun _ _ _ => ih hrest.symm
    rfl

/-- A record and the status that goes with it. -/
theorem twins_report (entry : Record) (status : Status) :
    Twins (Linked alike base base')
      (do bench.watched.journal.record entry
          return status : ExceptT Failure (Watched (StateM σ)) Status).run
      (do bench.watched.journal.record entry
          return status : ExceptT Failure (Watched (StateM σ)) Status).run (Both Eq) :=
  (Twins.record hsteady haside rfl).bindExcept fun _ _ _ => Twins.pure (.ok rfl)

/-- A failure is sorted the same way on both sides. -/
theorem twins_classify (phase : Phase) (trial : Trial) (failure : Failure) :
    Twins (Linked alike base base')
      (bench.watched.classify configuration phase trial failure).run
      (bench.watched.classify configuration phase trial failure).run (Both Eq) := by
  unfold classify
  cases failure.severity with
  | skip =>
    refine (Twins.log haside _ _ _ _).liftM_bind fun _ _ _ => ?_
    exact twins_report hsteady haside _ .skipped
  | fail =>
    refine (Twins.log haside _ _ _ _).liftM_bind fun _ _ _ => ?_
    exact twins_report hsteady haside _ .failed
  | abort => exact Twins.pure (.error failure)

end Records

section Trials

variable {engine engine' : Engine (StateM σ)} {number number' : Nat} {stage : Stage}

/-- An attempt on both sides completes the same steps, and comes to the same result. -/
theorem twins_attempt (haside : bench.Aside possible alike) (hengine : engine.Alike alike engine')
    {size : Nat} (input : Array UInt8) (steps : List Step) (output : Vector UInt8 size) :
    Twins (Linked alike base base')
      ((bench.watched.attempt input steps output).run (Session.of engine number stage))
      ((bench.watched.attempt input steps output).run (Session.of engine' number' stage))
      (Session.Beside engine engine' number number' fun attempt attempt' =>
        attempt.timings.map (·.1) = attempt'.timings.map (·.1) ∧
          attempt.result = attempt'.result) := by
  -- by induction on the steps; the sessions may be at any stage, as long as it is the same one
  induction steps generalizing stage output with
  | nil => exact Twins.pure ⟨⟨rfl, rfl⟩, stage, rfl, rfl⟩
  | cons step rest ih =>
    unfold attempt
    rw [StateT.run_bind, StateT.run_bind]
    refine Twins.bind (Session.twins_step haside hengine input output step) ?_
    rintro ⟨result, session⟩ ⟨result', session'⟩ ⟨hboth, stage', hsession, hsession'⟩
    dsimp only at hboth hsession hsession'
    subst hsession hsession'
    cases hboth with
    | error failure => exact Twins.pure ⟨⟨rfl, rfl⟩, stage', rfl, rfl⟩
    | @ok taken taken' houtput =>
      -- the step may have taken another time on the other side, but gave the same output
      obtain ⟨output, time⟩ := taken
      obtain ⟨output', time'⟩ := taken'
      dsimp only at houtput ⊢
      subst houtput
      rw [StateT.run_bind, StateT.run_bind]
      refine Twins.bind (ih output) ?_
      rintro ⟨later, session⟩ ⟨later', session'⟩ ⟨⟨htimings, hresult⟩, hsessions⟩
      exact Twins.pure ⟨⟨congrArg (step :: ·) htimings, hresult⟩, hsessions⟩

/-- Two sessions are released together. -/
theorem twins_release (haside : bench.Aside possible alike) (hengine : engine.Alike alike engine') :
    Twins (Linked alike base base')
      (bench.watched.release.run (Session.of engine number stage))
      (bench.watched.release.run (Session.of engine' number' stage))
      (Session.Beside engine engine' number number' fun _ _ => True) := by
  unfold release
  rw [StateT.run_bind, StateT.run_bind]
  refine Twins.bind (Session.twins_destroy hengine) ?_
  rintro ⟨result, session⟩ ⟨result', session'⟩ ⟨hboth, stage', hsession, hsession'⟩
  dsimp only at hboth hsession hsession'
  subst hsession hsession'
  -- a release that fails is logged on both sides, and counts on both
  cases hboth with
  | ok _ => exact Twins.pure ⟨trivial, stage', rfl, rfl⟩
  | error failure =>
    dsimp only
    rw [StateT.run_lift, StateT.run_lift]
    exact (Twins.log haside _ _ _ _).bind fun _ _ _ => Twins.pure ⟨trivial, stage', rfl, rfl⟩

/-- Two engines are weighed alike if the platform's answers about memory are. -/
theorem twins_weigh (hapart : bench.Apart possible alike) (hengine : engine.Alike alike engine') :
    Session.Twins (Linked alike base base') engine engine' number number' stage
      bench.watched.weigh bench.watched.weigh Eq := by
  unfold weigh
  refine (Session.twins_planEstimate hengine).bind fun plan _ stage hplan => ?_
  subst hplan
  refine (Session.Twins.perform (Twins.capabilities hapart)).bind fun capabilities _ stage hsame => ?_
  subst hsame
  refine (Session.Twins.perform (Twins.hostBytes hapart)).bind fun hostBytes _ stage hsame => ?_
  subst hsame
  refine Session.Twins.current_bind ?_
  rw [show (Session.of engine number stage).engine.geometry =
    (Session.of engine' number' stage).engine.geometry from hengine.geometry_eq]
  cases (Session.of engine' number' stage).engine.geometry.weigh plan capabilities.availableBytes
    hostBytes bench.watched.campaign.limits with
  | ok _ => exact Session.Twins.pure rfl
  | error shortage => exact Session.Twins.throw _

variable (hsteady : bench.Steady possible) (haside : bench.Aside possible alike)
  (hengine : engine.Alike alike engine')

include hsteady haside hengine

/-- A trial goes the same way on both sides, whatever time it takes. -/
theorem twins_runTrial (trial : Trial) {size : Nat} (input : Array UInt8)
    (output : Vector UInt8 size) :
    Session.Twins (Linked alike base base') engine engine' number number' stage
      (bench.watched.runTrial configuration trial input output)
      (bench.watched.runTrial configuration trial input output) Eq := by
  unfold runTrial
  refine Session.Twins.current_bind ?_
  have hkind : (Session.of engine number stage).kind = (Session.of engine' number' stage).kind :=
    congrArg Geometry.kind hengine.geometry_eq
  rw [hkind]
  refine (Session.Twins.perform (.lift haside.clock)).bind fun started started' stage _ => ?_
  refine (Session.Twins.lift (twins_attempt haside hengine input _ output)).bind ?_
  rintro attempt attempt' stage ⟨htimings, hresult⟩
  refine (Session.Twins.perform (.lift haside.clock)).bind fun ended ended' stage _ => ?_
  -- the same steps are recorded, and then the same is done about the result
  refine (Session.Twins.call (twins_recordSteps hsteady haside trial htimings)).bind
    fun _ _ stage _ => ?_
  rw [hresult]
  cases attempt'.result with
  | error fault =>
    obtain ⟨step, failure⟩ := fault
    refine (Session.Twins.lift (twins_release haside hengine)).bind fun _ _ stage _ => ?_
    refine Session.Twins.map (Session.Twins.call ?_)
    exact (twins_classify hsteady haside _ trial failure).mono fun _ _ hboth =>
      hboth.mono fun _ _ hstatus => congrArg _ hstatus
  | ok output =>
    refine (Session.Twins.call (Twins.record hsteady haside ?_)).bind fun _ _ stage _ => ?_
    · rfl
    · exact Session.Twins.pure rfl

end Trials

/-- The same output is judged the same way. -/
theorem twins_judge (hsteady : bench.Steady possible) (haside : bench.Aside possible alike)
    (geometry : Geometry) (input output : Array UInt8) :
    Twins (Linked alike base base')
      (bench.watched.judge configuration geometry input output).run
      (bench.watched.judge configuration geometry input output).run (Both Eq) := by
  unfold judge judge.liftExcept
  refine Twins.bindExcept (Twins.pure (Both.refl _)) fun deviation _ hsame => ?_
  subst hsame
  dsimp only
  cases bench.watched.campaign.tolerance.accepts configuration.precision deviation with
  | true => exact twins_report hsteady haside _ _
  | false =>
    -- a result that is not accepted is logged before it is recorded
    refine (Twins.log haside _ _ _ _).liftM_bind fun _ _ _ => ?_
    exact twins_report hsteady haside _ _

/-! ## All trials of a configuration -/

/-- What is left of two sessions: engines that cannot be told apart, or engines that were released and
a world of which nothing is known. -/
inductive Left (bench : Bench (StateM σ)) (possible : σ → Prop) (base base' : List Event) :
    WatchedSession σ → WatchedSession σ → Link σ where
  | living {engine engine' : Engine (StateM σ)} {number number' : Nat} {trace trace' : List Event}
      {world world' : σ} (alike : σ → σ → Prop) (stage : Stage) : bench.Apart possible alike →
      engine.Alike alike engine' → Linked alike base base' trace world trace' world' →
      Left bench possible base base' (Session.of engine number stage)
        (Session.of engine' number' stage) trace world trace' world'
  | released {engine engine' : Engine (StateM σ)} {number number' : Nat} {trace trace' : List Event}
      {world world' : σ} : Linked (Between possible) base base' trace world trace' world' →
      Left bench possible base base' (Session.of engine number .destroyed)
        (Session.of engine' number' .destroyed) trace world trace' world'

/-- How two sessions can be made ready for a trial. -/
inductive ReadyAlike (bench : Bench (StateM σ)) (possible : σ → Prop) (base base' : List Event) :
    Except Failure Unit × WatchedSession σ → Except Failure Unit × WatchedSession σ →
      Link σ where
  | ready {engine engine' : Engine (StateM σ)} {number number' : Nat} {trace trace' : List Event}
      {world world' : σ} (alike : σ → σ → Prop) : bench.Apart possible alike →
      engine.Alike alike engine' → Linked alike base base' trace world trace' world' →
      ReadyAlike bench possible base base' (.ok (), Session.of engine number .constructed)
        (.ok (), Session.of engine' number' .constructed) trace world trace' world'
  | unready {engine engine' : Engine (StateM σ)} {number number' : Nat} {trace trace' : List Event}
      {world world' : σ} (failure : Failure) :
      Linked (Between possible) base base' trace world trace' world' →
      ReadyAlike bench possible base base' (.error failure, Session.of engine number .destroyed)
        (.error failure, Session.of engine' number' .destroyed) trace world trace' world'

/-- What a run leaves: related results, and what is left of the sessions. -/
def LeftWith (bench : Bench (StateM σ)) (possible : σ → Prop) (base base' : List Event) {α : Type}
    (ended ended' : Except Failure α × WatchedSession σ) : Link σ :=
  fun trace world trace' world' => Both Eq ended.1 ended'.1 ∧
    bench.Left possible base base' ended.2 ended'.2 trace world trace' world'

theorem Aside.between (haside : bench.Aside possible alike) {trace trace' : List Event}
    {world world' : σ} (h : Linked alike base base' trace world trace' world') :
    Linked (Between possible) base base' trace world trace' world' :=
  ⟨haside.possible_of world world' h.1, h.2⟩

variable {engine engine' : Engine (StateM σ)} {number number' : Nat}

/-- Two sessions are made ready together, each with an engine of its own or both with none. -/
theorem agree_ready (hsteady : bench.Steady possible) (hapart : bench.Apart possible alike)
    (hengine : engine.Alike alike engine') {index : Nat} :
    Agree (Linked alike base base')
      ((if index = 0 then pure (.ok ()) else (bench.watched.renew configuration).run :
          StateT (WatchedSession σ) _ (Except Failure Unit)).run
        (Session.of engine number (if index = 0 then .constructed else .destroyed)))
      ((if index = 0 then pure (.ok ()) else (bench.watched.renew configuration).run :
          StateT (WatchedSession σ) _ (Except Failure Unit)).run
        (Session.of engine' number' (if index = 0 then .constructed else .destroyed)))
      (bench.ReadyAlike possible base base') := by
  by_cases hindex : index = 0
  · simp only [if_pos hindex]
    exact Agree.pure fun _ _ _ _ hlink => .ready alike hapart hengine hlink
  · simp only [if_neg hindex]
    unfold renew
    cases bench.watched.platform.reuse configuration.kind with
    | reusable =>
      -- the sessions were destroyed, so both can be armed again
      exact Agree.pure fun _ _ _ _ hlink => .ready alike hapart hengine hlink
    | notReusable =>
      refine Agree.mono (Session.agree_call_bind (Agree.createEngine hsteady configuration) ?_)
        (fun _ _ _ _ hlink => hapart.between hlink) fun _ _ _ _ _ _ hready => hready
      intro outcome outcome' trace world trace' world' hcreated
      -- the sessions that are replaced were destroyed, so nothing is left to do for them
      cases hcreated with
      | made alike hapart hengine hlink => exact .ready alike hapart hengine hlink
      | refused failure hlink => exact .unready failure hlink

/-- What a trial leaves that was completed on both sides: sessions that were released. -/
theorem agree_runTrial (hsteady : bench.Steady possible) (haside : bench.Aside possible alike)
    (hengine : engine.Alike alike engine') (trial : Trial) {size : Nat} (input : Array UInt8)
    (output : Vector UInt8 size) :
    Agree (Linked alike base base')
      ((bench.watched.runTrial configuration trial input output).run.run
        (Session.of engine number .constructed))
      ((bench.watched.runTrial configuration trial input output).run.run
        (Session.of engine' number' .constructed))
      fun ended ended' trace world trace' world' =>
        Session.Beside engine engine' number number' (Both Eq) ended ended' ∧
          Linked alike base base' trace world trace' world' ∧
          ∀ completed, ended.1 = .ok (.ok completed) → ended.2.stage = .destroyed := by
  intro trace world trace' world' hlink
  obtain ⟨hbeside, hlink'⟩ := twins_runTrial hsteady haside hengine trial input output trace world
    trace' world' hlink
  refine ⟨hbeside, hlink', fun completed hcompleted => ?_⟩
  -- that a trial releases its session is known from the rules that every trial keeps to
  have hends : Session.Ends (bench.watched.runTrial configuration trial input output)
      (Session.of engine number .constructed) trace _ := ends_runTrial trial input output
  obtain ⟨events, -, stage, hsession, hran⟩ := hends world
  rw [hsession]
  rw [hcompleted] at hran
  exact hran.stage_eq

/-- A preparation that failed is sorted the same way on both sides, and leaves the sessions alone. -/
theorem agree_unready (hsteady : bench.Steady possible) (trial : Trial) (failure : Failure)
    {α : Type} :
    Agree (Linked (Between possible) base base')
      ((Except.error <$> Session.call (bench.watched.classify configuration .setup trial failure) :
          SessionM (Watched (StateM σ)) (Except Status α)).run.run
        (Session.of engine number .destroyed))
      ((Except.error <$> Session.call (bench.watched.classify configuration .setup trial failure) :
          SessionM (Watched (StateM σ)) (Except Status α)).run.run
        (Session.of engine' number' .destroyed))
      (bench.LeftWith possible base base') := by
  intro trace world trace' world' hlink
  obtain ⟨hboth, hlink'⟩ := twins_classify hsteady hsteady.aside .setup trial failure trace world
    trace' world' hlink
  rw [ExceptT.run_map, StateT.run_map, StateT.run_map]
  exact ⟨(hboth.mono fun _ _ hsame => congrArg Except.error hsame).map, .released hlink'⟩

/-- All trials go the same way on both sides, by induction on how many are left. What carries the
induction is that both sides have engines that are alike, and have released them. -/
theorem agree_runTrials (hsteady : bench.Steady possible) {size : Nat} (input : Array UInt8)
    (left : Nat) {index : Nat} (hapart : bench.Apart possible alike)
    (hengine : engine.Alike alike engine') (output : Vector UInt8 size) :
    Agree (Linked alike base base')
      ((bench.watched.runTrials configuration input left index output).run.run
        (Session.of engine number (if index = 0 then .constructed else .destroyed)))
      ((bench.watched.runTrials configuration input left index output).run.run
        (Session.of engine' number' (if index = 0 then .constructed else .destroyed)))
      (bench.LeftWith possible base base') := by
  induction left generalizing index alike engine engine' number number' output with
  | zero => exact Agree.pure fun _ _ _ _ hlink => ⟨.ok rfl, .living alike _ hapart hengine hlink⟩
  | succ left ih =>
    unfold runTrials
    refine Session.agree_lift_bind (agree_ready hsteady hapart hengine) ?_
    intro ready ready' trace world trace' world' hready
    cases hready with
    | unready failure hlink =>
      exact agree_unready hsteady _ failure trace world trace' world' hlink
    | ready alike hapart hengine hlink =>
      refine Session.agree_bind (agree_runTrial hsteady hapart.toAside hengine _ input output) ?_
        trace world trace' world' hlink
      rintro ⟨result, session⟩ ⟨result', session'⟩ trace world trace' world'
        ⟨⟨hboth, stage, hsession, hsession'⟩, hlink, hreleased⟩
      dsimp only at hboth hsession hsession' hreleased
      subst hsession hsession'
      cases hboth with
      | error failure => exact ⟨.error failure, .living alike stage hapart hengine hlink⟩
      | @ok outcome _ hsame =>
        subst hsame
        cases outcome with
        | error status => exact ⟨.ok rfl, .living alike stage hapart hengine hlink⟩
        | ok output =>
          -- only sessions that were released can be made ready for the next trial
          have hstage : stage = .destroyed := hreleased output rfl
          subst hstage
          exact ih hapart hengine output trace world trace' world' hlink

/-! ## One configuration -/

/-- Weighing leaves both sessions at their beginning. -/
theorem agree_weigh (hapart : bench.Apart possible alike) (hengine : engine.Alike alike engine') :
    Agree (Linked alike base base')
      (bench.watched.weigh.run.run (Session.of engine number .constructed))
      (bench.watched.weigh.run.run (Session.of engine' number' .constructed))
      fun ended ended' trace world trace' world' => (Both Eq ended.1 ended'.1 ∧
          ended.2 = Session.of engine number .constructed ∧
          ended'.2 = Session.of engine' number' .constructed) ∧
        Linked alike base base' trace world trace' world' := by
  intro trace world trace' world' hlink
  obtain ⟨⟨hboth, -⟩, hlink'⟩ := twins_weigh hapart hengine trace world trace' world' hlink
  have hends : Session.Ends bench.watched.weigh (Session.of engine number .constructed) trace _ :=
    ends_weigh
  have hends' : Session.Ends bench.watched.weigh (Session.of engine' number' .constructed) trace' _ :=
    ends_weigh
  obtain ⟨_, -, hsession, -⟩ := hends world
  obtain ⟨_, -, hsession', -⟩ := hends' world'
  exact ⟨⟨hboth, hsession, hsession'⟩, hlink'⟩

/-- The output of the last trial is judged the same way, whatever is left of the sessions. -/
theorem agree_judge (hsteady : bench.Steady possible) (geometry : Geometry)
    (input output : Array UInt8) {session session' : WatchedSession σ} :
    Agree (bench.Left possible base base' session session')
      ((Session.call (bench.watched.judge configuration geometry input output)).run.run session)
      ((Session.call (bench.watched.judge configuration geometry input output)).run.run session')
      (bench.LeftWith possible base base') := by
  intro trace world trace' world' hleft
  cases hleft with
  | living alike stage hapart hengine hlink =>
    obtain ⟨hboth, hlink'⟩ := twins_judge hsteady hapart.toAside geometry input output _ _ _ _ hlink
    exact ⟨hboth, .living alike stage hapart hengine hlink'⟩
  | released hlink =>
    obtain ⟨hboth, hlink'⟩ := twins_judge hsteady hsteady.aside geometry input output _ _ _ _ hlink
    exact ⟨hboth, .released hlink'⟩

/-- Sessions that were weighed and found too heavy are released, and the failure is sorted. -/
theorem agree_turnedAway (hsteady : bench.Steady possible) (hapart : bench.Apart possible alike)
    (hengine : engine.Alike alike engine') (failure : Failure) :
    Agree (Linked alike base base')
      ((ExceptT.lift bench.watched.release >>= fun _ =>
        Session.call (bench.watched.classify configuration .setup ⟨0, false⟩ failure)).run.run
        (Session.of engine number .constructed))
      ((ExceptT.lift bench.watched.release >>= fun _ =>
        Session.call (bench.watched.classify configuration .setup ⟨0, false⟩ failure)).run.run
        (Session.of engine' number' .constructed))
      (bench.LeftWith possible base base') := by
  have htold : Session.Twins (Linked alike base base') engine engine' number number' .constructed
      (ExceptT.lift bench.watched.release >>= fun _ =>
        Session.call (bench.watched.classify configuration .setup ⟨0, false⟩ failure))
      (ExceptT.lift bench.watched.release >>= fun _ =>
        Session.call (bench.watched.classify configuration .setup ⟨0, false⟩ failure)) Eq :=
    (Session.Twins.lift (twins_release hapart.toAside hengine)).bind fun _ _ _ _ =>
      Session.Twins.call (twins_classify hsteady hapart.toAside _ _ failure)
  intro trace world trace' world' hlink
  obtain ⟨⟨hboth, stage, hsession, hsession'⟩, hlink'⟩ := htold trace world trace' world' hlink
  refine ⟨hboth, ?_⟩
  rw [hsession, hsession']
  exact .living alike stage hapart hengine hlink'

/-- Engines that are alike are driven in the same way, whichever engines come after them. -/
theorem agree_measure (hsteady : bench.Steady possible) (hapart : bench.Apart possible alike)
    (hengine : engine.Alike alike engine') :
    Agree (Linked alike base base')
      ((bench.watched.measure configuration).run.run (Session.of engine number .constructed))
      ((bench.watched.measure configuration).run.run (Session.of engine' number' .constructed))
      (bench.LeftWith possible base base') := by
  unfold measure
  refine Session.agree_lift_bind (agree_weigh hapart hengine) fun ended ended' => ?_
  refine Agree.of_and fun hended => ?_
  obtain ⟨result, session⟩ := ended
  obtain ⟨result', session'⟩ := ended'
  obtain ⟨hboth, hsession, hsession'⟩ := hended
  dsimp only at hboth hsession hsession'
  subst hsession hsession'
  cases hboth with
  | error failure => exact agree_turnedAway hsteady hapart hengine failure
  | ok _ =>
    have hgeometry : (Session.of engine number .constructed).engine.geometry =
      (Session.of engine' number' .constructed).engine.geometry := hengine.geometry_eq
    refine Session.agree_current_bind ?_
    -- input and output are made from the geometry, which is the same on both sides
    dsimp only
    rw [hgeometry]
    refine Session.agree_settled_bind bench.watched.trials (fun total => ?_) fun failure =>
      Agree.pure fun _ _ _ _ hlink =>
        ⟨.error failure, .living alike .constructed hapart hengine hlink⟩
    refine Session.agree_bind (agree_runTrials hsteady _ total hapart hengine _) ?_
    rintro ⟨result, session⟩ ⟨result', session'⟩
    refine Agree.of_and fun hboth => ?_
    dsimp only at hboth
    cases hboth with
    | error failure => exact Agree.pure fun _ _ _ _ hleft => ⟨.error failure, hleft⟩
    | @ok outcome _ hsame =>
      subst hsame
      cases outcome with
      | error status => exact Agree.pure fun _ _ _ _ hleft => ⟨.ok rfl, hleft⟩
      | ok output =>
        by_cases hvalidate : bench.watched.campaign.validate = true
        · simp only [if_pos hvalidate]
          exact agree_judge hsteady _ _ _
        · simp only [if_neg hvalidate]
          exact Agree.pure fun _ _ _ _ hleft => ⟨.ok rfl, hleft⟩

/-- A session that is left is given up, and nothing is known of the world behind it. -/
theorem agree_drop {session session' : WatchedSession σ} :
    Agree (bench.Left possible base base' session session') (session.drop bench.watched.env)
      (session'.drop bench.watched.env) fun _ _ => Linked (Between possible) base base' := by
  intro trace world trace' world' hleft
  cases hleft with
  | living alike stage hapart hengine hlink =>
    exact hapart.between (Session.twins_drop hapart.toAside hengine _ _ _ _ hlink).2
  | released hlink => exact hlink

/-- Engines that are alike are driven and given up in the same way. -/
theorem agree_driven (hsteady : bench.Steady possible) (hapart : bench.Apart possible alike)
    (hengine : engine.Alike alike engine') :
    Agree (Linked alike base base')
      (do let (result, session) ← liftM
            ((bench.watched.measure configuration).run.run (Session.of engine number .constructed))
          liftM (session.drop bench.watched.env)
          ExceptT.mk (pure result) : ExceptT Failure (Watched (StateM σ)) Status).run
      (do let (result, session) ← liftM
            ((bench.watched.measure configuration).run.run (Session.of engine' number' .constructed))
          liftM (session.drop bench.watched.env)
          ExceptT.mk (pure result) : ExceptT Failure (Watched (StateM σ)) Status).run
      fun result result' trace world trace' world' =>
        Both Eq result result' ∧ Linked (Between possible) base base' trace world trace' world' := by
  refine Agree.liftM_bind (agree_measure hsteady hapart hengine) ?_
  rintro ⟨result, session⟩ ⟨result', session'⟩
  refine Agree.of_and fun hboth => ?_
  refine Agree.liftM_bind agree_drop fun _ _ => ?_
  exact Twins.pure hboth

/-- **A configuration on its own.** A configuration goes the same way in any two worlds that are
possible, whatever was run there before. -/
theorem twins_runConfiguration (hsteady : bench.Steady possible) (configuration : Configuration) :
    Twins (Linked (Between possible) base base')
      (bench.watched.runConfiguration configuration).run
      (bench.watched.runConfiguration configuration).run (Both Eq) := by
  unfold runConfiguration
  refine (Twins.log hsteady.aside _ _ _ _).liftM_bind fun _ _ _ => ?_
  refine Agree.liftM_bind (Agree.createEngine hsteady configuration) ?_
  intro made made' trace world trace' world' hcreated
  cases hcreated with
  | refused failure hlink =>
    exact twins_classify hsteady hsteady.aside _ _ failure trace world trace' world' hlink
  | made alike hapart hengine hlink =>
    exact agree_driven hsteady hapart hengine trace world trace' world' hlink

end Bench

end SpectralBench
