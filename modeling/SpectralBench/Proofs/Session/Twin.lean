import SpectralBench.Proofs.Session
import SpectralBench.Proofs.Twin

/-!
# Two sessions side by side

Two sessions at the same stage, with engines that cannot be told apart, go the same way. Whatever
they are asked to do, it is passed on to both engines or refused by both, and they are at the same
stage again. Times may differ, and nothing that the sessions do depends on them.

Main statements:

* `Session.Twins.bind` — two actions, one after the other, on both sessions.
* `Session.twins_step`, `Session.twins_destroy`, `Session.twins_drop` — the steps of two sessions.
-/

namespace SpectralBench

variable {σ α β γ δ : Type}

/-! ## Actions on two sessions -/

namespace Session

/-- What comes after a part of a run that may fail runs only where that part succeeds. -/
theorem agree_bind {link : Link σ} {session session' : WatchedSession σ}
    {left : SessionM (Watched (StateM σ)) α} {right : SessionM (Watched (StateM σ)) β}
    {next : α → SessionM (Watched (StateM σ)) γ} {next' : β → SessionM (Watched (StateM σ)) δ}
    {mid : Except Failure α × WatchedSession σ → Except Failure β × WatchedSession σ → Link σ}
    {post : Except Failure γ × WatchedSession σ → Except Failure δ × WatchedSession σ → Link σ}
    (h : Agree link (left.run.run session) (right.run.run session') mid)
    (hnext : ∀ ended ended', Agree (mid ended ended')
      ((ExceptT.mk (pure ended.1) >>= next).run.run ended.2)
      ((ExceptT.mk (pure ended'.1) >>= next').run.run ended'.2) post) :
    Agree link ((left >>= next).run.run session) ((right >>= next').run.run session') post := by
  rw [ExceptT.run_bind, ExceptT.run_bind, StateT.run_bind, StateT.run_bind]
  exact Agree.bind h hnext

/-- Parts of runs that do not see the sessions. -/
theorem agree_call_bind {link : Link σ} {session session' : WatchedSession σ}
    {left : ExceptT Failure (Watched (StateM σ)) α} {right : ExceptT Failure (Watched (StateM σ)) β}
    {next : α → SessionM (Watched (StateM σ)) γ} {next' : β → SessionM (Watched (StateM σ)) δ}
    {mid : Except Failure α → Except Failure β → Link σ}
    {post : Except Failure γ × WatchedSession σ → Except Failure δ × WatchedSession σ → Link σ}
    (h : Agree link left.run right.run mid)
    (hnext : ∀ outcome outcome', Agree (mid outcome outcome')
      ((ExceptT.mk (pure outcome) >>= next).run.run session)
      ((ExceptT.mk (pure outcome') >>= next').run.run session') post) :
    Agree link ((Session.call left >>= next).run.run session)
      ((Session.call right >>= next').run.run session') post :=
  Agree.bind h hnext

/-- Parts of runs that see the sessions and cannot fail. -/
theorem agree_lift_bind {link : Link σ} {session session' : WatchedSession σ}
    {left : StateT (WatchedSession σ) (Watched (StateM σ)) α}
    {right : StateT (WatchedSession σ) (Watched (StateM σ)) β}
    {next : α → SessionM (Watched (StateM σ)) γ} {next' : β → SessionM (Watched (StateM σ)) δ}
    {mid : α × WatchedSession σ → β × WatchedSession σ → Link σ}
    {post : Except Failure γ × WatchedSession σ → Except Failure δ × WatchedSession σ → Link σ}
    (h : Agree link (left.run session) (right.run session') mid)
    (hnext : ∀ ended ended', Agree (mid ended ended') ((next ended.1).run.run ended.2)
      ((next' ended'.1).run.run ended'.2) post) :
    Agree link ((ExceptT.lift left >>= next).run.run session)
      ((ExceptT.lift right >>= next').run.run session') post :=
  Agree.bind h hnext

theorem agree_current_bind {link : Link σ} {session session' : WatchedSession σ}
    {next : WatchedSession σ → SessionM (Watched (StateM σ)) α}
    {next' : WatchedSession σ → SessionM (Watched (StateM σ)) β}
    {post : Except Failure α × WatchedSession σ → Except Failure β × WatchedSession σ → Link σ}
    (h : Agree link ((next session).run.run session) ((next' session').run.run session') post) :
    Agree link ((Session.current >>= next).run.run session)
      ((Session.current >>= next').run.run session') post :=
  h

/-- What is settled before the sessions are asked goes the same way on both sides. -/
theorem agree_settled_bind {link : Link σ} {session session' : WatchedSession σ}
    (settled : Except Failure α) {next : α → SessionM (Watched (StateM σ)) β}
    {next' : α → SessionM (Watched (StateM σ)) γ}
    {post : Except Failure β × WatchedSession σ → Except Failure γ × WatchedSession σ → Link σ}
    (hok : ∀ a, Agree link ((next a).run.run session) ((next' a).run.run session') post)
    (herror : ∀ failure, Agree link (pure (.error failure, session))
      (pure (.error failure, session')) post) :
    Agree link ((Session.call (ExceptT.mk (pure settled)) >>= next).run.run session)
      ((Session.call (ExceptT.mk (pure settled)) >>= next').run.run session') post := by
  cases settled with
  | error failure => exact herror failure
  | ok a => exact hok a

/-- Two sessions that were left at one stage, with the engines that they had, and with results that
are related. -/
def Beside (engine engine' : Engine (StateM σ)) (number number' : Nat) (rel : α → β → Prop)
    (ended : α × WatchedSession σ) (ended' : β × WatchedSession σ) : Prop :=
  rel ended.1 ended'.1 ∧
    ∃ stage, ended.2 = of engine number stage ∧ ended'.2 = of engine' number' stage

/-- The actions keep a link and the engines of the sessions, and leave both sessions at one stage. -/
def Twins (link : Link σ) (engine engine' : Engine (StateM σ)) (number number' : Nat) (stage : Stage)
    (left : SessionM (Watched (StateM σ)) α) (right : SessionM (Watched (StateM σ)) β)
    (rel : α → β → Prop) : Prop :=
  SpectralBench.Twins link (left.run.run (of engine number stage))
    (right.run.run (of engine' number' stage)) (Beside engine engine' number number' (Both rel))

namespace Twins

variable {link : Link σ} {engine engine' : Engine (StateM σ)} {number number' : Nat} {stage : Stage}
  {left : SessionM (Watched (StateM σ)) α} {right : SessionM (Watched (StateM σ)) β}
  {rel : α → β → Prop}

theorem pure {a : α} {b : β} (h : rel a b) :
    Twins link engine engine' number number' stage (Pure.pure a) (Pure.pure b) rel :=
  SpectralBench.Twins.pure ⟨.ok h, stage, rfl, rfl⟩

theorem throw (failure : Failure) :
    Twins link engine engine' number number' stage (throw failure) (throw failure) rel :=
  SpectralBench.Twins.pure ⟨.error failure, stage, rfl, rfl⟩

theorem mono {other : α → β → Prop}
    (h : Twins link engine engine' number number' stage left right rel)
    (himp : ∀ a b, rel a b → other a b) :
    Twins link engine engine' number number' stage left right other :=
  SpectralBench.Twins.mono h fun _ _ hended => ⟨hended.1.mono himp, hended.2⟩

theorem bind {next : α → SessionM (Watched (StateM σ)) γ} {next' : β → SessionM (Watched (StateM σ)) δ}
    {other : γ → δ → Prop} (h : Twins link engine engine' number number' stage left right rel)
    (hnext : ∀ a b stage', rel a b →
      Twins link engine engine' number number' stage' (next a) (next' b) other) :
    Twins link engine engine' number number' stage (left >>= next) (right >>= next') other := by
  unfold Twins SpectralBench.Twins at h ⊢
  refine agree_bind h fun ended ended' => Agree.of_and fun hended => ?_
  obtain ⟨outcome, session⟩ := ended
  obtain ⟨outcome', session'⟩ := ended'
  obtain ⟨hboth, stage', hsession, hsession'⟩ := hended
  dsimp only at hboth hsession hsession'
  subst hsession hsession'
  cases hboth with
  | ok hrel => exact hnext _ _ stage' hrel
  | error failure => exact SpectralBench.Twins.pure ⟨.error failure, stage', rfl, rfl⟩

theorem map {f : α → γ} {g : β → δ} {other : γ → δ → Prop}
    (h : Twins link engine engine' number number' stage left right fun a b => other (f a) (g b)) :
    Twins link engine engine' number number' stage (f <$> left) (g <$> right) other := by
  rw [Twins, ExceptT.run_map, ExceptT.run_map, StateT.run_map, StateT.run_map]
  exact SpectralBench.Twins.map
    (SpectralBench.Twins.mono h fun _ _ hended => ⟨hended.1.map, hended.2⟩)

/-- Parts of runs that do not see the sessions. -/
theorem call {left : ExceptT Failure (Watched (StateM σ)) α}
    {right : ExceptT Failure (Watched (StateM σ)) β}
    (h : SpectralBench.Twins link left.run right.run (Both rel)) :
    Twins link engine engine' number number' stage (Session.call left) (Session.call right) rel :=
  SpectralBench.Twins.map (f := fun result => (result, of engine number stage))
    (g := fun result => (result, of engine' number' stage))
    (h.mono fun _ _ hboth => ⟨hboth, stage, rfl, rfl⟩)

/-- Parts of runs that see the sessions and cannot fail. -/
theorem lift {left : StateT (WatchedSession σ) (Watched (StateM σ)) α}
    {right : StateT (WatchedSession σ) (Watched (StateM σ)) β}
    (h : SpectralBench.Twins link (left.run (of engine number stage))
      (right.run (of engine' number' stage)) (Beside engine engine' number number' rel)) :
    Twins link engine engine' number number' stage (ExceptT.lift left) (ExceptT.lift right) rel := by
  rw [Twins, ExceptT.run_lift, ExceptT.run_lift, StateT.run_map, StateT.run_map]
  exact SpectralBench.Twins.map (h.mono fun _ _ hended => ⟨.ok hended.1, hended.2⟩)

theorem perform {left : Watched (StateM σ) α} {right : Watched (StateM σ) β}
    (h : SpectralBench.Twins link left right rel) :
    Twins link engine engine' number number' stage (Session.perform left) (Session.perform right)
      rel :=
  lift (SpectralBench.Twins.map (f := fun a => (a, of engine number stage))
    (g := fun b => (b, of engine' number' stage)) (h.mono fun _ _ hrel => ⟨hrel, stage, rfl, rfl⟩))

theorem current_bind {next : WatchedSession σ → SessionM (Watched (StateM σ)) α}
    {next' : WatchedSession σ → SessionM (Watched (StateM σ)) β}
    (h : Twins link engine engine' number number' stage (next (of engine number stage))
      (next' (of engine' number' stage)) rel) :
    Twins link engine engine' number number' stage (Session.current >>= next)
      (Session.current >>= next') rel :=
  h

theorem moveTo (reached : Stage) :
    Twins link engine engine' number number' stage (Session.moveTo reached)
      (Session.moveTo reached) fun _ _ => True :=
  SpectralBench.Twins.pure ⟨.ok trivial, reached, rfl, rfl⟩

/-- A phase is refused on both sides or on neither. -/
theorem expect (phase : Phase) (required : Stage) :
    Twins link engine engine' number number' stage (Session.expect phase required)
      (Session.expect phase required) fun _ _ => True := by
  unfold Session.expect
  refine current_bind ?_
  by_cases hstage : stage = required
  · rw [if_pos (show (of engine number stage).stage = required from hstage),
      if_pos (show (of engine' number' stage).stage = required from hstage)]
    exact pure trivial
  · rw [if_neg (show (of engine number stage).stage ≠ required from hstage),
      if_neg (show (of engine' number' stage).stage ≠ required from hstage)]
    exact throw _

end Twins

/-! ## Steps of two sessions -/

section Steps

variable {bench : Bench (StateM σ)} {possible : σ → Prop} {alike : σ → σ → Prop}
  {base base' : List Event} {engine engine' : Engine (StateM σ)} {number number' : Nat}
  {stage : Stage} (haside : bench.Aside possible alike) (hengine : engine.Alike alike engine')

include hengine

/-- A timed call ends alike on both sides, in whatever time. -/
theorem answers_measure {step : Step} {left right : ExceptT Failure (StateM σ) α}
    (h : Answers alike Eq left.run right.run) :
    Answers alike (Both fun ended ended' => ended.1 = ended'.1)
      (engine.stopwatch.measure step left).run (engine'.stopwatch.measure step right).run := by
  unfold Stopwatch.measure
  refine (hengine.start step).bindExcept fun mark mark' _ => ?_
  refine Answers.liftM_bind h fun outcome outcome' heq => ?_
  subst heq
  refine (hengine.stop mark mark').bindExcept fun _ _ _ => ?_
  -- only a call that has succeeded is measured
  refine Answers.bindExcept (Answers.pure (Both.refl outcome)) fun result result' hresult => ?_
  refine Answers.bindExcept (hengine.elapsed mark mark') fun _ _ _ => ?_
  exact Answers.pure (.ok hresult)

theorem twins_measure {step : Step} {left right : ExceptT Failure (StateM σ) α}
    (h : Answers alike Eq left.run right.run) :
    SpectralBench.Twins (Linked alike base base')
      ((engine.watched number).stopwatch.measure step (Watched.noteCall number step left)).run
      ((engine'.watched number').stopwatch.measure step (Watched.noteCall number' step right)).run
      (Both fun ended ended' => ended.1 = ended'.1) := by
  rw [Engine.measure_watched, Engine.measure_watched]
  refine SpectralBench.Twins.noting (answers_measure hengine h) fun outcome outcome' hboth => ?_
  cases hboth with
  | ok hresult => exact ⟨rfl, rfl⟩
  | error failure => exact ⟨rfl, rfl⟩

include haside

/-- A step goes to both engines or to neither. -/
theorem twins_run {step : Step} {left right : ExceptT Failure (StateM σ) α}
    {watched watched' : Engine (Watched (StateM σ)) → ExceptT Failure (Watched (StateM σ)) α}
    (hwatched : watched (engine.watched number) = Watched.noteCall number step left)
    (hwatched' : watched' (engine'.watched number') = Watched.noteCall number' step right)
    (h : Answers alike Eq left.run right.run) :
    Twins (Linked alike base base') engine engine' number number' stage
      (run bench.env.watched step watched) (run bench.env.watched step watched')
      fun ended ended' => ended.1 = ended'.1 := by
  -- behind the check of the stage both sides go the same way, whatever the stage is
  have hcall (stage : Stage) : Twins (Linked alike base base') engine engine' number number' stage
      (call ((engine.watched number).stopwatch.measure step (watched (engine.watched number))) >>=
        fun ended => do
          perform (bench.env.watched.log
            ⟨.debug, Log.Target.session, s!"{step.label}: {ended.2.text}"⟩)
          moveTo step.reaches
          return ended)
      (call ((engine'.watched number').stopwatch.measure step (watched' (engine'.watched number'))) >>=
        fun ended => do
          perform (bench.env.watched.log
            ⟨.debug, Log.Target.session, s!"{step.label}: {ended.2.text}"⟩)
          moveTo step.reaches
          return ended)
      fun ended ended' => ended.1 = ended'.1 := by
    rw [hwatched, hwatched']
    refine (Twins.call (twins_measure hengine h)).bind fun ended ended' stage hresult => ?_
    refine (Twins.perform (.lift (haside.log _ _))).bind fun _ _ stage _ => ?_
    exact (Twins.moveTo step.reaches).bind fun _ _ stage _ => Twins.pure hresult
  unfold run
  refine Twins.current_bind ?_
  have hkind : (of engine number stage).kind = (of engine' number' stage).kind :=
    congrArg Geometry.kind hengine.geometry_eq
  rw [hkind]
  cases step.requires (of engine' number' stage).kind with
  | some required => exact (Twins.expect _ required).bind fun _ _ stage _ => hcall stage
  | none => exact hcall stage

/-- `twins_run` for a step without a result. -/
theorem twins_runTimed {step : Step} {left right : ExceptT Failure (StateM σ) Unit}
    {watched watched' : Engine (Watched (StateM σ)) → ExceptT Failure (Watched (StateM σ)) Unit}
    (hwatched : watched (engine.watched number) = Watched.noteCall number step left)
    (hwatched' : watched' (engine'.watched number') = Watched.noteCall number' step right)
    (h : Answers alike Eq left.run right.run) (output : α) :
    Twins (Linked alike base base') engine engine' number number' stage
      ((output, ·) <$> runTimed bench.env.watched step watched)
      ((output, ·) <$> runTimed bench.env.watched step watched')
      fun ended ended' => ended.1 = ended'.1 := by
  unfold runTimed
  refine Twins.map (Twins.map ?_)
  exact (twins_run haside hengine hwatched hwatched' h).mono fun _ _ _ => rfl

omit haside

/-- An engine is released on both sides or on neither. -/
theorem twins_destroy :
    Twins (Linked alike base base') engine engine' number number' stage destroy destroy
      fun _ _ => True := by
  unfold destroy
  refine Twins.current_bind ?_
  by_cases hstage : stage = .destroyed
  · rw [if_pos (show (of engine number stage).stage = .destroyed from hstage),
      if_pos (show (of engine' number' stage).stage = .destroyed from hstage)]
    exact Twins.pure trivial
  · rw [if_neg (show (of engine number stage).stage ≠ .destroyed from hstage),
      if_neg (show (of engine' number' stage).stage ≠ .destroyed from hstage)]
    refine (Twins.perform (twins_measure hengine hengine.destroy)).bind fun _ _ stage hboth => ?_
    refine (Twins.moveTo .destroyed).bind fun _ _ stage _ => ?_
    -- the outcome of the call is passed on, whatever time it took
    cases hboth with
    | ok _ => exact Twins.pure trivial
    | error failure => exact Twins.throw failure

include haside

/-- Every step leaves the outputs of the two sides equal. -/
theorem twins_step {size : Nat} (input : Array UInt8) (output : Vector UInt8 size) (step : Step) :
    Twins (Linked alike base base') engine engine' number number' stage
      (Session.step bench.env.watched input output step)
      (Session.step bench.env.watched input output step)
      fun ended ended' => ended.1 = ended'.1 := by
  cases step with
  | planInverse =>
    unfold Session.step planInverse
    rw [map_bind]
    refine Twins.current_bind ?_
    have hkind : (of engine number stage).kind = (of engine' number' stage).kind :=
      congrArg Geometry.kind hengine.geometry_eq
    rw [hkind]
    cases (of engine' number' stage).kind with
    | real => exact twins_runTimed haside hengine rfl rfl hengine.planInverse output
    | complex => exact Twins.map (Twins.throw _)
  | destroy => exact Twins.map ((twins_destroy hengine).mono fun _ _ _ => rfl)
  | allocate => exact twins_runTimed haside hengine rfl rfl hengine.allocate output
  | planForward => exact twins_runTimed haside hengine rfl rfl hengine.planForward output
  | upload => exact twins_runTimed haside hengine rfl rfl (hengine.upload input) output
  | executeForward => exact twins_runTimed haside hengine rfl rfl hengine.executeForward output
  | executeInverse => exact twins_runTimed haside hengine rfl rfl hengine.executeInverse output
  | download =>
    unfold Session.step download
    exact twins_run haside hengine rfl rfl (hengine.download output)

omit haside

/-- The two engines have the same estimate. -/
theorem twins_planEstimate :
    Twins (Linked alike base base') engine engine' number number' stage planEstimate planEstimate
      Eq := by
  unfold planEstimate
  refine (Twins.expect _ _).bind fun _ _ stage _ => ?_
  refine Twins.current_bind (Twins.call ?_)
  refine SpectralBench.Twins.mono (SpectralBench.Twins.noting hengine.planEstimate ?_)
    fun outcome _ heq => heq ▸ Both.refl outcome
  rintro outcome _ rfl
  exact ⟨rfl, rfl⟩

include haside

/-- A session that still lives is given up on both sides. -/
theorem twins_drop :
    SpectralBench.Twins (Linked alike base base') ((of engine number stage).drop bench.env.watched)
      ((of engine' number' stage).drop bench.env.watched) fun _ _ => True := by
  unfold drop
  by_cases hstage : stage = .destroyed
  · rw [if_pos (show (of engine number stage).stage = .destroyed from hstage),
      if_pos (show (of engine' number' stage).stage = .destroyed from hstage)]
    exact SpectralBench.Twins.pure trivial
  · rw [if_neg (show (of engine number stage).stage ≠ .destroyed from hstage),
      if_neg (show (of engine' number' stage).stage ≠ .destroyed from hstage)]
    refine SpectralBench.Twins.bind (SpectralBench.Twins.noteCall hengine.destroy)
      fun _ _ hboth => ?_
    cases hboth with
    | ok _ => exact SpectralBench.Twins.pure trivial
    | error failure => exact SpectralBench.Twins.lift (haside.log _ _)

end Steps

end Session

end SpectralBench
