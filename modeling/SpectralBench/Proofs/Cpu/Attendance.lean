import SpectralBench.Proofs.Cpu.Calls
import SpectralBench.Proofs.Session.CallLanguage

/-!
# Sessions over an engine that owns its state

A session lets calls through to its engine by its stage, and times them. Where the engine owns its
state, nothing that the clock says comes back to either, so a request takes a stage and a state to
a stage and a state (`Rig.attend`), and lists of requests are runs of that.

Main statements:

* `leads_request` — what a session makes of a request.
* `attendFrom_eq` — what it makes of one request after another.
-/

namespace SpectralBench

/-- Asks a session for one thing after another, whatever the answers are. -/
def Session.attend {m : Type → Type} [Monad m] (env : Environment m) :
    List Request → StateT (Session m) m (List (Except Failure Unit))
  | [] => return []
  | request :: rest => do
    let answer ← (request.perform env).run
    let later ← attend env rest
    return answer :: later

/-- The session that a list of requests leaves, and the state of an engine that owns it. -/
def Session.attendFrom {σ τ : Type} (env : Environment (StateT τ (StateM σ)))
    (session : Session (StateT τ (StateM σ))) (state : τ) (requests : List Request) (world : σ) :
    Session (StateT τ (StateM σ)) × τ :=
  let ended := ((((attend env requests).run session).run state).run world).1
  (ended.1.2, ended.2)

/-- The answer to one more request. -/
def Session.answerTo {σ τ : Type} (env : Environment (StateT τ (StateM σ)))
    (session : Session (StateT τ (StateM σ))) (state : τ) (request : Request) (world : σ) :
    Except Failure Unit :=
  ((((request.perform env).run.run session).run state).run world).1.1.1

/-- A call is an effect outside of the session whose failure is passed on. -/
theorem Session.call_bind {m : Type → Type} [Monad m] [LawfulMonad m] {β γ : Type}
    (action : ExceptT Failure m β) (next : β → SessionM m γ) :
    Session.call action >>= next = Session.perform action.run >>= fun outcome =>
      match outcome with
      | .ok b => next b
      | .error failure => throw failure := by
  apply ExceptT.ext
  apply StateT.ext
  intro session
  rw [ExceptT.run_bind, ExceptT.run_bind, call, perform, ExceptT.run_lift, ExceptT.run_mk,
    bind_map_left]
  congr
  funext outcome
  cases outcome <;> rfl

namespace Cpu

variable {α β γ σ : Type}

/-- Whatever the world is, the session keeps its engine, and `post` holds of the answer, of the stage
and of the state of the engine afterwards. -/
def Leads (engine : Engine (StateT (State α) (StateM σ)))
    (action : SessionM (StateT (State α) (StateM σ)) β) (stage : Stage) (state : State α)
    (post : Except Failure β → Stage → State α → Prop) : Prop :=
  ∀ world, ∃ answer stage' after,
    (((action.run.run ⟨engine, stage⟩).run state).run world).1 = ((answer, ⟨engine, stage'⟩), after) ∧
      post answer stage' after

namespace Leads

variable {engine : Engine (StateT (State α) (StateM σ))} {stage : Stage} {state : State α}

theorem pure {b : β} {post : Except Failure β → Stage → State α → Prop}
    (h : post (.ok b) stage state) :
    Leads engine (Pure.pure b : SessionM (StateT (State α) (StateM σ)) β) stage state post :=
  fun _ => ⟨_, _, _, rfl, h⟩

theorem throw {failure : Failure} {post : Except Failure β → Stage → State α → Prop}
    (h : post (.error failure) stage state) :
    Leads engine (throw failure : SessionM (StateT (State α) (StateM σ)) β) stage state post :=
  fun _ => ⟨_, _, _, rfl, h⟩

theorem mono {action : SessionM (StateT (State α) (StateM σ)) β}
    {mid post : Except Failure β → Stage → State α → Prop}
    (h : Leads engine action stage state mid)
    (himp : ∀ answer stage state, mid answer stage state → post answer stage state) :
    Leads engine action stage state post := by
  intro world
  obtain ⟨answer, stage', after, hrun, hmid⟩ := h world
  exact ⟨answer, stage', after, hrun, himp _ _ _ hmid⟩

theorem bind {action : SessionM (StateT (State α) (StateM σ)) β}
    {next : β → SessionM (StateT (State α) (StateM σ)) γ}
    {mid : Except Failure β → Stage → State α → Prop}
    {post : Except Failure γ → Stage → State α → Prop} (h : Leads engine action stage state mid)
    (hok : ∀ b stage state, mid (.ok b) stage state → Leads engine (next b) stage state post)
    (herror : ∀ failure stage state, mid (.error failure) stage state →
      post (.error failure) stage state) :
    Leads engine (action >>= next) stage state post := by
  intro world
  obtain ⟨answer, stage', after, hrun, hmid⟩ := h world
  rw [ExceptT.run_bind, StateT.run_bind, StateT.run_bind, StateT.run_bind]
  generalize ((action.run.run ⟨engine, stage⟩).run state).run world = finished at hrun
  obtain ⟨⟨⟨outcome, session⟩, mid⟩, later⟩ := finished
  cases hrun
  cases answer with
  | error failure => exact ⟨_, _, _, rfl, herror failure stage' after hmid⟩
  | ok b => exact hok b stage' after hmid later

theorem map {action : SessionM (StateT (State α) (StateM σ)) β} {f : β → γ}
    {post : Except Failure γ → Stage → State α → Prop}
    (h : Leads engine action stage state fun answer => post (answer.map f)) :
    Leads engine (f <$> action) stage state post := by
  rw [← bind_pure_comp]
  exact h.bind (fun b stage state hpost => Leads.pure hpost) fun failure stage state hpost => hpost

theorem current_bind {next : Session (StateT (State α) (StateM σ)) →
      SessionM (StateT (State α) (StateM σ)) γ} {post : Except Failure γ → Stage → State α → Prop}
    (h : Leads engine (next ⟨engine, stage⟩) stage state post) :
    Leads engine (Session.current >>= next) stage state post :=
  h

theorem moveTo_bind {stage' : Stage} {next : Unit → SessionM (StateT (State α) (StateM σ)) γ}
    {post : Except Failure γ → Stage → State α → Prop}
    (h : Leads engine (next ()) stage' state post) :
    Leads engine (Session.moveTo stage' >>= next) stage state post :=
  h

/-- A phase is refused unless the stage is the required one. -/
theorem expect_bind {phase : Phase} {required : Stage}
    {next : Unit → SessionM (StateT (State α) (StateM σ)) γ}
    {post : Except Failure γ → Stage → State α → Prop}
    (hok : stage = required → Leads engine (next ()) stage state post)
    (herror : stage ≠ required →
      post (.error (.invalidTransition phase.label stage.label)) stage state) :
    Leads engine (Session.expect phase required >>= next) stage state post := by
  unfold Session.expect
  rw [bind_assoc]
  refine current_bind ?_
  by_cases hstage : stage = required
  · rw [if_pos hstage, pure_bind]
    exact hok hstage
  · rw [if_neg hstage]
    exact throw (herror hstage)

/-- An effect outside of the session. -/
theorem perform_bind {action : StateT (State α) (StateM σ) β}
    {next : β → SessionM (StateT (State α) (StateM σ)) γ}
    {post : Except Failure γ → Stage → State α → Prop}
    (h : ∀ world, ∃ b after, ((action.run state).run world).1 = (b, after) ∧
      Leads engine (next b) stage after post) :
    Leads engine (Session.perform action >>= next) stage state post := by
  intro world
  obtain ⟨b, after, hrun, hnext⟩ := h world
  change ∃ answer stage' after,
    ((((next ((action.run state).run world).1.1).run.run ⟨engine, stage⟩).run
      ((action.run state).run world).1.2).run ((action.run state).run world).2).1 = _ ∧ _
  rw [hrun]
  exact hnext _

/-- What is logged changes neither stage nor state. -/
theorem log_bind {env : Environment (StateM σ)} {entry : Log.Entry}
    {next : Unit → SessionM (StateT (State α) (StateM σ)) γ}
    {post : Except Failure γ → Stage → State α → Prop} (h : Leads engine (next ()) stage state post) :
    Leads engine (Session.perform ((env.beside (State α)).log entry) >>= next) stage state post :=
  perform_bind fun _ => ⟨_, _, rfl, h⟩

end Leads

section Timed

variable {call : ExceptT Failure (StateT (State α) (StateM σ)) β} {action : Action α β}
  (h : Performs call action) (env : Environment (StateM σ))

include h

/-- A call that is timed does what it does, and takes its time. -/
theorem exists_measured (step : Step) (state : State α) (world : σ) :
    ∃ time, ((((env.beside (State α)).stopwatch.measure step call).run.run state).run world).1 =
      ((action.run.run state).1.map fun b => (b, time), (action.run.run state).2) := by
  have hcall (next : Except Failure β → ExceptT Failure (StateT (State α) (StateM σ)) (β × Duration))
      (world : σ) : (((liftM call.run >>= next).run.run state).run world).1 =
        (((next ((call.run.run state).run world).1.1).run.run
          ((call.run.run state).run world).1.2).run ((call.run.run state).run world).2).1 := rfl
  let watch := (env.beside (State α)).stopwatch
  let mark := (env.clock world).1
  -- the clock is read in the world, so the call starts from the same state
  rw [← h state (env.clock world).2]
  refine ⟨⟨(env.clock ((call.run.run state).run (env.clock world).2).2).1 - mark⟩, ?_⟩
  refine (hcall (fun outcome => do
    watch.stop mark
    let result ← ExceptT.mk (pure outcome)
    let time ← watch.elapsed mark
    return (result, time)) (env.clock world).2).trans ?_
  rcases (call.run.run state).run (env.clock world).2 with ⟨⟨_ | b, after⟩, later⟩ <;> rfl

variable {engine : Engine (StateT (State α) (StateM σ))} {stage : Stage} {state : State α}

/-- A timed call whose outcome is looked at. -/
theorem leads_perform_bind {step : Step} {next : Except Failure (β × Duration) →
      SessionM (StateT (State α) (StateM σ)) γ} {post : Except Failure γ → Stage → State α → Prop}
    (hnext : ∀ time, Leads engine (next ((action.run.run state).1.map fun b => (b, time))) stage
      (action.run.run state).2 post) :
    Leads engine
      (Session.perform ((env.beside (State α)).stopwatch.measure step call).run >>= next) stage state
      post := by
  refine Leads.perform_bind fun world => ?_
  obtain ⟨time, hmeasured⟩ := exists_measured h env step state world
  exact ⟨_, _, hmeasured, hnext time⟩

/-- A timed call that ends what it is part of if it fails. -/
theorem leads_call_bind {step : Step} {next : β × Duration → SessionM (StateT (State α) (StateM σ)) γ}
    {post : Except Failure γ → Stage → State α → Prop}
    (hok : ∀ b time, (action.run.run state).1 = .ok b →
      Leads engine (next (b, time)) stage (action.run.run state).2 post)
    (herror : ∀ failure, (action.run.run state).1 = .error failure →
      post (.error failure) stage (action.run.run state).2) :
    Leads engine (Session.call ((env.beside (State α)).stopwatch.measure step call) >>= next) stage
      state post := by
  rw [Session.call_bind]
  refine leads_perform_bind h env fun time => ?_
  cases houtcome : (action.run.run state).1 with
  | error failure => exact Leads.throw (herror failure houtcome)
  | ok b => exact hok b time houtcome

end Timed

/-! ## Requests -/

section Requests

variable [Zero α] [Mul α]

/-- What a session makes of a step that performs an action: the answer, and the stage and the state
afterwards. -/
def Rig.take (rig : Rig α) (step : Step) (action : Action α Unit) (stage : Stage)
    (state : State α) : Except Failure Unit × Stage × State α :=
  if step.isDue rig.geometry.kind stage then
    let (answer, after) := action.run.run state
    (answer, if answer.isOk then step.reaches else stage, after)
  -- there is nothing left to release, which is no error
  else if step = .destroy then (.ok (), stage, state)
  else (.error (step.refusal rig.geometry.kind stage), stage, state)

/-- What a session makes of a request. -/
def Rig.attend (rig : Rig α) (scalar : Scalar α) (stage : Stage) (state : State α) :
    Request → Except Failure Unit × Stage × State α
  | .planEstimate =>
    if stage = .constructed then (.ok (), stage, state)
    else (.error (.invalidTransition Phase.setup.label stage.label), stage, state)
  | .step taken input output =>
    rig.take taken (rig.respond scalar (.step taken input output)) stage state
  | .rearm =>
    if stage = .destroyed then (.ok (), .constructed, state)
    else (.error (.invalidTransition Phase.setup.label stage.label), stage, state)

variable {scalar : Scalar α} {rig : Rig α} {stage : Stage} {state : State α}
  (env : Environment (StateM σ))

omit [Zero α] [Mul α] in
theorem Rig.take_of_isDue (rig : Rig α) {step : Step} (action : Action α β)
    (hdue : step.isDue rig.geometry.kind stage) (state : State α) :
    rig.take step ((fun _ => ()) <$> action) stage state =
      ((action.run.run state).1.map fun _ => (),
        if (action.run.run state).1.isOk then step.reaches else stage, (action.run.run state).2) := by
  rw [take, if_pos hdue, ExceptT.run_map, StateT.run_map]
  generalize action.run.run state = finished
  obtain ⟨outcome, after⟩ := finished
  cases outcome <;> rfl

/-- A step that is bound to one stage is taken at that stage and refused at every other. -/
theorem leads_run {step : Step} {required : Stage} {action : Action α β}
    {called : Engine (StateT (State α) (StateM σ)) →
      ExceptT Failure (StateT (State α) (StateM σ)) β}
    (hperforms : Performs (called (engine (env.beside _) scalar rig .own)) action)
    (hrequires : step.requires rig.geometry.kind = some required)
    (hdue : step.isDue rig.geometry.kind stage = decide (some required = some stage))
    (hrefusal : step.refusal rig.geometry.kind stage = .invalidTransition step.label stage.label)
    (hdestroy : step ≠ .destroy) :
    Leads (engine (env.beside _) scalar rig .own) (Session.run (env.beside _) step called) stage state
      fun answer stage' after => (answer.map fun _ => (), stage', after) =
        rig.take step ((fun _ => ()) <$> action) stage state := by
  unfold Session.run
  refine Leads.current_bind ?_
  rw [show step.requires (Session.mk (engine (env.beside _) scalar rig .own) stage).kind =
    some required from hrequires]
  refine Leads.expect_bind (fun hstage => ?_) (fun hstage => ?_)
  · -- the call is made, and moves the session only if it succeeds
    have hdue' : step.isDue rig.geometry.kind stage := by
      rw [hdue, hstage]
      exact decide_eq_true rfl
    have htake := rig.take_of_isDue action hdue' state
    refine leads_call_bind hperforms env (fun b time hok => ?_) fun failure herror => ?_
    · refine Leads.log_bind (Leads.moveTo_bind (Leads.pure ?_))
      rw [htake, hok]
      rfl
    · rw [htake, herror]
      rfl
  · -- the call is not made
    have hdue' : step.isDue rig.geometry.kind stage = false := by
      rw [hdue]
      exact decide_eq_false fun h => hstage (Option.some.inj h).symm
    rw [Rig.take, hdue', hrefusal, if_neg Bool.false_ne_true, if_neg hdestroy]
    rfl

/-- `leads_run` for a step without a result. -/
theorem leads_runTimed {step : Step} {required : Stage} {action : Action α Unit}
    {called : Engine (StateT (State α) (StateM σ)) →
      ExceptT Failure (StateT (State α) (StateM σ)) Unit}
    (hperforms : Performs (called (engine (env.beside _) scalar rig .own)) action)
    (hrequires : step.requires rig.geometry.kind = some required)
    (hdue : step.isDue rig.geometry.kind stage = decide (some required = some stage))
    (hrefusal : step.refusal rig.geometry.kind stage = .invalidTransition step.label stage.label)
    (hdestroy : step ≠ .destroy) (f : Duration → β) :
    Leads (engine (env.beside _) scalar rig .own)
      (f <$> Session.runTimed (env.beside _) step called) stage state
      fun answer stage' after =>
        (answer.map fun _ => (), stage', after) = rig.take step action stage state := by
  have hunit : (fun _ => ()) <$> action = action := id_map action
  refine Leads.map (Leads.map ((leads_run env hperforms hrequires hdue hrefusal hdestroy).mono ?_))
  rintro answer stage' after hanswer
  rw [hunit] at hanswer
  rw [← hanswer]
  cases answer <;> rfl

theorem leads_destroy :
    Leads (engine (env.beside _) scalar rig .own) Session.destroy stage state
      fun answer stage' after =>
        (answer.map fun _ => (), stage', after) = rig.take .destroy rig.destroy stage state := by
  have hdue : Step.destroy.isDue rig.geometry.kind stage = decide (stage ≠ .destroyed) := rfl
  unfold Session.destroy
  refine Leads.current_bind ?_
  by_cases hstage : stage = .destroyed
  · rw [if_pos hstage]
    refine Leads.pure ?_
    rw [Rig.take, hdue, decide_eq_false (not_not.2 hstage)]
    rfl
  · -- a release moves the session whether it succeeds or not
    rw [if_neg hstage]
    refine leads_perform_bind (.of_runIn rig.destroy) env fun time => Leads.moveTo_bind ?_
    refine Leads.pure ?_
    rw [Rig.take, hdue, decide_eq_true hstage]
    rfl

/-- Every step of a session is taken as the stage tells. -/
theorem leads_step (input output : Array UInt8) (step : Step) :
    Leads (engine (env.beside _) scalar rig .own)
      (Session.step (env.beside _) input output.toVector step) stage state
      fun answer stage' after => (answer.map fun _ => (), stage', after) =
        rig.take step (rig.respond scalar (.step step input output)) stage state := by
  cases step with
  | allocate => exact leads_runTimed env (performs_allocate env) rfl rfl rfl (by decide) _
  | planForward => exact leads_runTimed env (performs_planForward env) rfl rfl rfl (by decide) _
  | upload => exact leads_runTimed env (performs_upload env input) rfl rfl rfl (by decide) _
  | executeForward => exact leads_runTimed env (.of_runIn _) rfl rfl rfl (by decide) _
  | planInverse =>
    -- the only step that the kind can rule out, before the stage is looked at
    unfold Session.step Session.planInverse
    rw [map_bind]
    refine Leads.current_bind ?_
    rw [show (Session.mk (engine (env.beside _) scalar rig .own) stage).kind =
      rig.geometry.kind from rfl]
    cases hkind : rig.geometry.kind with
    | real =>
      refine leads_runTimed env (.of_runIn _) rfl ?_ ?_ (by decide) _
      · simp [Step.isDue, hkind, Kind.isReal, eq_comm]
      · simp [Step.refusal, hkind, Kind.isReal]
    | complex =>
      refine Leads.map (Leads.throw ?_)
      rw [Rig.take, hkind]
      rfl
  | executeInverse => exact leads_runTimed env (.of_runIn _) rfl rfl rfl (by decide) _
  | download => exact leads_run env (performs_download env _) rfl rfl rfl (by decide)
  | destroy =>
    refine Leads.map ((leads_destroy env).mono fun answer _ _ hanswer => ?_)
    rw [Rig.respond, ← hanswer]
    cases answer <;> rfl

/-- Every request is answered as stage and state tell. -/
theorem leads_request (request : Request) :
    Leads (engine (env.beside _) scalar rig .own) (request.perform (env.beside _)) stage state
      fun answer stage' after => (answer, stage', after) = rig.attend scalar stage state request := by
  cases request with
  | planEstimate =>
    refine Leads.map (Leads.expect_bind (fun hstage => ?_) fun hstage => ?_)
    · refine Leads.current_bind ?_
      rw [Rig.attend, if_pos hstage]
      exact fun _ => ⟨_, _, _, rfl, rfl⟩
    · rw [Rig.attend, if_neg hstage]
      rfl
  | step taken input output => exact Leads.map (leads_step env input output taken)
  | rearm =>
    refine Leads.expect_bind (fun hstage => ?_) fun hstage => ?_
    · rw [Rig.attend, if_pos hstage]
      exact fun _ => ⟨_, _, _, rfl, rfl⟩
    · rw [Rig.attend, if_neg hstage]

theorem answerTo_eq (request : Request) (world : σ) :
    Session.answerTo (env.beside _) ⟨engine (env.beside _) scalar rig .own, stage⟩ state request
      world = (rig.attend scalar stage state request).1 := by
  have hleads : Leads (engine (env.beside _) scalar rig .own) (request.perform (env.beside _))
      stage state fun answer stage' after =>
        (answer, stage', after) = rig.attend scalar stage state request :=
    leads_request env request
  obtain ⟨answer, stage', after, hrun, hattend⟩ := hleads world
  rw [Session.answerTo, hrun, ← hattend]

/-- The stage and the state that a list of requests leaves. -/
def Rig.attendAll (rig : Rig α) (scalar : Scalar α) (stage : Stage) (state : State α) :
    List Request → Stage × State α
  | [] => (stage, state)
  | request :: rest =>
    let (_, stage', after) := rig.attend scalar stage state request
    rig.attendAll scalar stage' after rest

/-- One request after another leads where each of them leads. -/
theorem attendFrom_eq (requests : List Request) (stage : Stage) (state : State α) (world : σ) :
    Session.attendFrom (env.beside _) ⟨engine (env.beside _) scalar rig .own, stage⟩ state requests
        world =
      (⟨engine (env.beside _) scalar rig .own, (rig.attendAll scalar stage state requests).1⟩,
        (rig.attendAll scalar stage state requests).2) := by
  induction requests generalizing stage state world with
  | nil => rfl
  | cons request rest ih =>
    let engine := engine (env.beside (State α)) scalar rig .own
    have hleads : Leads engine (request.perform (env.beside _)) stage state
        fun answer stage' after => (answer, stage', after) = rig.attend scalar stage state request :=
      leads_request env request
    obtain ⟨answer, stage', after, hrun, hattend⟩ := hleads world
    unfold Session.attendFrom at ih ⊢
    rw [Session.attend, Rig.attendAll, ← hattend]
    dsimp only
    rw [StateT.run_bind, StateT.run_bind, StateT.run_bind]
    -- the others start from the session, the state and the world that the first one left
    generalize (((request.perform (env.beside _)).run.run ⟨engine, stage⟩).run state).run world =
      finished at hrun
    obtain ⟨⟨⟨outcome, session⟩, mid⟩, later⟩ := finished
    cases hrun
    rw [← ih stage' after later]
    rfl

end Requests

end Cpu

end SpectralBench
