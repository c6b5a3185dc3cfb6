import SpectralBench.Proofs.Watch

/-!
# What calls on a session leave

Every step goes the same way. If it is due at the stage of the session, exactly one call reaches the
engine, and the stage moves on when that call succeeds; a `destroy` moves on in any case. If it is
not due, nothing reaches the engine and nothing changes: the step is refused, except that a repeated
`destroy` succeeds.

`Stepped` says this once for all eight steps, and `Session.ends_step` says that the session keeps to
it. What follows about trials and about call sequences is read off `Stepped` alone.

Main statements:

* `Session.ends_step` — a step leaves what `Stepped` allows.
* `Session.ends_planEstimate`, `Session.ends_rearm`, `Session.ends_drop` — the same for the calls that
  are no steps.
-/

namespace SpectralBench

/-- The stage that steps lead to from the beginning. -/
def Stage.after (trail : List Step) : Stage :=
  (trail.getLast?.map Step.reaches).getD .constructed

@[simp]
theorem Stage.after_concat (trail : List Step) (step : Step) :
    Stage.after (trail ++ [step]) = step.reaches := by
  simp [Stage.after]

/-- Whether a step may reach the engine of a session at the given stage. -/
def Step.isDue (kind : Kind) (stage : Stage) : Step → Bool
  -- a release is due at any time, but once
  | .destroy => stage ≠ .destroyed
  | .planInverse => kind.isReal && stage = .forwardExecuted
  | step => step.requires kind = some stage

/-- Why a step that is not due is refused. -/
def Step.refusal (kind : Kind) (stage : Stage) : Step → Failure
  | .planInverse => .invalidTransition Step.planInverse.label
      (if kind.isReal then stage.label else s!"{stage.label} (complex transform)")
  | step => .invalidTransition step.label stage.label

/-- How a step can end: its result, the stage afterwards and the calls that reached the engine. -/
inductive Stepped (number : Nat) (kind : Kind) (stage : Stage) (step : Step) :
    Except Failure Unit → Stage → List Event → Prop where
  | passed : step.isDue kind stage →
      Stepped number kind stage step (.ok ()) step.reaches [.called number step (.ok ())]
  -- a release that fails has been attempted, and is not attempted again
  | failed (failure : Failure) : step.isDue kind stage →
      Stepped number kind stage step (.error failure)
        (if step = .destroy then .destroyed else stage) [.called number step (.error failure)]
  | refused : step.isDue kind stage = false → step ≠ .destroy →
      Stepped number kind stage step (.error (step.refusal kind stage)) stage []
  -- there is nothing left to release, which is no error
  | repeated : stage = .destroyed → step = .destroy →
      Stepped number kind stage step (.ok ()) stage []

namespace Session

variable {σ α β : Type} {env : Environment (StateM σ)} {engine : Engine (StateM σ)} {number : Nat}
  {stage : Stage} {before : List Event}

/-- The session of a watched engine. -/
def of (engine : Engine (StateM σ)) (number : Nat) (stage : Stage) : WatchedSession σ :=
  ⟨engine.watched number, stage⟩

/-- What a step leaves: the same engine at the next stage, and the calls that `Stepped` allows. -/
def Takes (engine : Engine (StateM σ)) (number : Nat) (stage : Stage) (step : Step)
    (result : Except Failure α) (session : WatchedSession σ) (events : List Event) : Prop :=
  ∃ stage', session = of engine number stage' ∧
    Stepped number engine.geometry.kind stage step (result.map fun _ => ()) stage' events

theorem Takes.map {step : Step} {result : Except Failure α} {session : WatchedSession σ}
    {events : List Event} (h : Takes engine number stage step result session events) (f : α → β) :
    Takes engine number stage step (result.map f) session events := by
  cases result <;> exact h

/-- A phase is refused unless the stage is the required one. -/
theorem expect_bind {phase : Phase} {required : Stage}
    {next : Unit → SessionM (Watched (StateM σ)) α}
    {post : Except Failure α → WatchedSession σ → List Event → Prop}
    (hok : stage = required → Ends (next ()) (of engine number stage) before post)
    (herror : stage ≠ required →
      post (.error (.invalidTransition phase.label stage.label)) (of engine number stage) []) :
    Ends (expect phase required >>= next) (of engine number stage) before post := by
  unfold expect
  rw [bind_assoc]
  refine Ends.current_bind ?_
  by_cases hstage : stage = required
  · rw [if_pos (show (of engine number stage).stage = required from hstage), pure_bind]
    exact hok hstage
  · rw [if_neg (show (of engine number stage).stage ≠ required from hstage)]
    exact Ends.throw (herror hstage)

/-- A timed call is noted once, with the end that it came to. -/
theorem ends_measure {step : Step} (action : ExceptT Failure (StateM σ) α) :
    SpectralBench.Ends
      ((engine.watched number).stopwatch.measure step (Watched.noteCall number step action)).run
      before fun result events => events = [.called number step (result.map fun _ => ())] := by
  rw [Engine.measure_watched]
  exact SpectralBench.Ends.noting fun _ => rfl

/-- A step that is bound to one stage is taken at that stage and refused at every other. -/
theorem ends_run {step : Step} {required : Stage} (action : ExceptT Failure (StateM σ) α)
    {watched : Engine (Watched (StateM σ)) → ExceptT Failure (Watched (StateM σ)) α}
    (hwatched : watched (engine.watched number) = Watched.noteCall number step action)
    (hrequires : step.requires engine.geometry.kind = some required)
    (hdue : step.isDue engine.geometry.kind stage = decide (some required = some stage))
    (hrefusal : step.refusal engine.geometry.kind stage = .invalidTransition step.label stage.label)
    (hdestroy : step ≠ .destroy) :
    Ends (run env.watched step watched) (of engine number stage) before
      (Takes engine number stage step) := by
  unfold run
  refine Ends.current_bind ?_
  rw [show step.requires (of engine number stage).kind = some required from hrequires,
    show watched (of engine number stage).engine = Watched.noteCall number step action from hwatched]
  -- the step is due at the required stage, and at no other
  refine expect_bind (fun hstage => ?_) (fun hstage => ?_)
  · have hdue' : step.isDue engine.geometry.kind stage := by
      rw [hdue, hstage]
      exact decide_eq_true rfl
    have hcall : Ends (call ((engine.watched number).stopwatch.measure step
        (Watched.noteCall number step action))) (of engine number stage) before
        fun result session events => session = of engine number stage ∧
          events = [.called number step (result.map fun _ => ())] :=
      Ends.call ((ends_measure action).mono fun _ _ h => ⟨rfl, h⟩)
    refine hcall.bind ?_ ?_
    · rintro ⟨a, time⟩ _ _ ⟨rfl, rfl⟩
      refine Ends.perform_bind fun _ => ?_
      refine Ends.moveTo_bind ?_
      exact Ends.pure ⟨step.reaches, rfl, .passed hdue'⟩
    · rintro failure _ _ ⟨rfl, rfl⟩
      -- a failure leaves the stage as it was, since the step is no release
      have hfailed := @Stepped.failed number engine.geometry.kind stage step failure hdue'
      rw [if_neg hdestroy] at hfailed
      exact ⟨stage, rfl, hfailed⟩
  · have hdue' : step.isDue engine.geometry.kind stage = false := by
      rw [hdue]
      exact decide_eq_false fun h => hstage (Option.some.inj h).symm
    have hrefused := @Stepped.refused number engine.geometry.kind stage step hdue' hdestroy
    rw [hrefusal] at hrefused
    exact ⟨stage, rfl, hrefused⟩

/-- `ends_run` for a step without a result. -/
theorem ends_runTimed {step : Step} {required : Stage} (action : ExceptT Failure (StateM σ) Unit)
    {watched : Engine (Watched (StateM σ)) → ExceptT Failure (Watched (StateM σ)) Unit}
    (hwatched : watched (engine.watched number) = Watched.noteCall number step action)
    (hrequires : step.requires engine.geometry.kind = some required)
    (hdue : step.isDue engine.geometry.kind stage = decide (some required = some stage))
    (hrefusal : step.refusal engine.geometry.kind stage = .invalidTransition step.label stage.label)
    (hdestroy : step ≠ .destroy) (f : Duration → β) :
    Ends (f <$> runTimed env.watched step watched) (of engine number stage) before
      (Takes engine number stage step) := by
  unfold runTimed
  refine Ends.map (Ends.map ?_)
  refine (ends_run action hwatched hrequires hdue hrefusal hdestroy).mono fun result _ _ h => ?_
  exact (h.map _).map f

/-- A release reaches the engine unless it has done so before, and counts even if it fails. -/
theorem ends_destroy :
    Ends (destroy : SessionM (Watched (StateM σ)) Duration) (of engine number stage) before
      (Takes engine number stage .destroy) := by
  unfold destroy
  refine Ends.current_bind ?_
  by_cases hstage : stage = .destroyed
  · rw [if_pos (show (of engine number stage).stage = .destroyed from hstage)]
    exact Ends.pure ⟨stage, rfl, .repeated hstage rfl⟩
  · rw [if_neg (show (of engine number stage).stage ≠ .destroyed from hstage)]
    have hdue : Step.destroy.isDue engine.geometry.kind stage := decide_eq_true hstage
    refine Ends.performed_bind (ends_measure engine.destroy) ?_
    rintro outcome _ rfl
    refine Ends.moveTo_bind ?_
    cases outcome with
    | ok ended => exact Ends.pure ⟨.destroyed, rfl, .passed hdue⟩
    | error failure => exact Ends.throw ⟨.destroyed, rfl, .failed failure hdue⟩

/-- Every step of a session keeps to `Stepped`. -/
theorem ends_step {size : Nat} (input : Array UInt8) (output : Vector UInt8 size) (step : Step) :
    Ends (Session.step env.watched input output step) (of engine number stage) before
      (Takes engine number stage step) := by
  cases step with
  | planInverse =>
    -- the only step that the kind can rule out, before the stage is looked at
    unfold Session.step planInverse
    rw [map_bind]
    refine Ends.current_bind ?_
    rw [show (of engine number stage).kind = engine.geometry.kind from rfl]
    cases hkind : engine.geometry.kind with
    | real =>
      refine ends_runTimed engine.planInverse rfl rfl ?_ ?_ (by decide) _
      · simp [Step.isDue, hkind, Kind.isReal, eq_comm]
      · simp [Step.refusal, hkind, Kind.isReal]
    | complex =>
      refine Ends.map (Ends.throw ⟨stage, rfl, ?_⟩)
      rw [hkind]
      exact .refused rfl (by decide)
  | destroy =>
    refine Ends.map (ends_destroy.mono fun _ _ _ h => h.map _)
  | allocate => exact ends_runTimed engine.allocate rfl rfl rfl rfl (by decide) _
  | planForward => exact ends_runTimed engine.planForward rfl rfl rfl rfl (by decide) _
  | upload => exact ends_runTimed (engine.upload input) rfl rfl rfl rfl (by decide) _
  | executeForward => exact ends_runTimed engine.executeForward rfl rfl rfl rfl (by decide) _
  | executeInverse => exact ends_runTimed engine.executeInverse rfl rfl rfl rfl (by decide) _
  | download =>
    unfold Session.step download
    exact ends_run (engine.download output) rfl rfl rfl rfl (by decide)

/-- An estimate reaches the engine only before anything else has. -/
theorem ends_planEstimate :
    Ends (planEstimate : SessionM (Watched (StateM σ)) UInt64) (of engine number stage) before
      fun result session events => session = of engine number stage ∧
        if stage = .constructed then events = [.estimated number result]
        else events = [] ∧ result = .error (.invalidTransition Phase.setup.label stage.label) := by
  unfold planEstimate
  refine expect_bind (fun hstage => ?_) (fun hstage => ?_)
  · simp only [if_pos hstage]
    refine Ends.current_bind ?_
    exact Ends.call (SpectralBench.Ends.noting fun outcome => ⟨rfl, rfl⟩)
  · refine ⟨rfl, ?_⟩
    rw [if_neg hstage]
    exact ⟨rfl, rfl⟩

/-- Arming a session again reaches no engine. -/
theorem ends_rearm :
    Ends (rearm : SessionM (Watched (StateM σ)) Unit) (of engine number stage) before
      fun result session events => events = [] ∧
        if stage = .destroyed then result = .ok () ∧ session = of engine number .constructed
        else result = .error (.invalidTransition Phase.setup.label stage.label) ∧
          session = of engine number stage := by
  unfold rearm
  refine expect_bind (fun hstage => ?_) (fun hstage => ?_)
  · simp only [if_pos hstage]
    exact Ends.moveTo ⟨rfl, rfl, rfl⟩
  · refine ⟨rfl, ?_⟩
    rw [if_neg hstage]
    exact ⟨rfl, rfl⟩

/-- The call with which a session that still lives is given up. -/
inductive Dropped (number : Nat) (stage : Stage) : List Event → Prop where
  | idle : stage = .destroyed → Dropped number stage []
  | destroyed (outcome : Except Failure Unit) : stage ≠ .destroyed →
      Dropped number stage [.called number .destroy outcome]

theorem ends_drop :
    SpectralBench.Ends ((of engine number stage).drop env.watched) before
      fun _ events => Dropped number stage events := by
  unfold drop
  by_cases hstage : stage = .destroyed
  · rw [if_pos (show (of engine number stage).stage = .destroyed from hstage)]
    exact SpectralBench.Ends.pure (.idle hstage)
  · rw [if_neg (show (of engine number stage).stage ≠ .destroyed from hstage)]
    have hcall : SpectralBench.Ends (Watched.noteCall number .destroy engine.destroy).run before
        fun _ events => Dropped number stage events :=
      SpectralBench.Ends.noting fun _ => .destroyed _ hstage
    refine hcall.bind fun outcome events h => ?_
    cases outcome with
    | ok ended =>
      refine SpectralBench.Ends.pure ?_
      rw [List.append_nil]
      exact h
    | error failure =>
      refine SpectralBench.Ends.lift fun _ => ?_
      rw [List.append_nil]
      exact h

end Session

end SpectralBench
