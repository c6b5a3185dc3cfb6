import SpectralBench.Proofs.Campaign.Correspondence
import SpectralBench.Proofs.Watch

/-!
# Stopwatches that fail

A session hears of its timed calls through a stopwatch, and one that fails lets it know less than the
engine does. A call that the watch does not start never reaches the engine; one that the watch cannot
measure counts as failed, whatever the engine made of it. Nothing else comes of it. What reaches an
engine was asked for in its turn, and what the session takes for done, the engine has done
(`Event.TimedAs`).

An engine can be watched in two ways, with its calls noted as the session hears of them
(`Engine.watched`) and as the engine ends them (`Engine.reached`). That the notes differ in no other
way is a `Correspondence` between two runs of one world, so it is enough to look at single calls.

Main statements:

* `Correspondence.timing` — two runs of one world whose notes differ in no other way.
* `Engine.reached_corresponds` — the two ways to watch an engine.
-/

namespace SpectralBench

/-- Whether calls that have reached an engine are those that were timed, but for what stopwatches can
do when they fail. -/
inductive Event.TimedAs : (reached timed : List Event) → Prop
  | nil : TimedAs [] []
  | exactly {reached timed : List Event} (h : TimedAs reached timed) (event : Event) :
    TimedAs (reached ++ [event]) (timed ++ [event])
  /-- A call for which the watch was not started. -/
  | unstarted {reached timed : List Event} (h : TimedAs reached timed) (number : Nat) (step : Step)
    (failure : Failure) : TimedAs reached (timed ++ [.called number step (.error failure)])
  /-- A call that the watch could not measure. -/
  | unmeasured {reached timed : List Event} (h : TimedAs reached timed) (number : Nat) (step : Step)
    (outcome : Except Failure Unit) (failure : Failure) :
    TimedAs (reached ++ [.called number step outcome])
      (timed ++ [.called number step (.error failure)])

namespace Event.TimedAs

variable {reached timed : List Event}

/-- A call may turn out to have failed afterwards. -/
theorem spoil (h : TimedAs reached timed) (failure : Failure) :
    TimedAs reached (Event.spoil failure timed) := by
  cases h with
  | nil => exact .nil
  | exactly h event =>
    cases event with
    | called number step outcome =>
      rw [Event.spoil_concat]
      exact .unmeasured h number step outcome failure
    | _ =>
      -- what is no call is left as it was noted
      rw [Event.spoil, List.getLast?_concat]
      exact .exactly h _
  | unstarted h number step =>
    rw [Event.spoil_concat]
    exact .unstarted h number step failure
  | unmeasured h number step outcome =>
    rw [Event.spoil_concat]
    exact .unmeasured h number step outcome failure

end Event.TimedAs

section Timing

variable {σ α β : Type}

/-- What two runs of one world leave: on the left what has reached an engine is noted, and on the
right what was timed. -/
structure TimedRuns (post : α → β → Prop) (left : (α × List Event) × σ)
    (right : (β × List Event) × σ) : Prop where
  result : post left.1.1 right.1.1
  timedAs : Event.TimedAs left.1.2 right.1.2
  world_eq : left.2 = right.2

/-- Actions that leave such runs if they begin with such notes. -/
def Correspondence.timing (σ : Type) :
    Correspondence (Watched (StateM σ)) (Watched (StateM σ)) where
  Rel post left right := ∀ (reached timed : List Event) (world : σ), Event.TimedAs reached timed →
    TimedRuns post ((left.run reached).run world) ((right.run timed).run world)
  pure hpost _ _ _ htimed := ⟨hpost, htimed, rfl⟩
  bind {_ _ _ _ _ _ left right _ _} h hnext reached timed world htimed := by
    have hmid := h reached timed world htimed
    rw [StateT.run_bind, StateT.run_bind, StateT.run_bind, StateT.run_bind]
    generalize (left.run reached).run world = ended at hmid
    generalize (right.run timed).run world = ended' at hmid
    obtain ⟨⟨a, reached⟩, world⟩ := ended
    obtain ⟨⟨b, timed⟩, world'⟩ := ended'
    obtain ⟨hpost, hnotes, rfl⟩ := hmid
    exact hnext a b hpost reached timed world hnotes

/-- What is not noted at all. -/
theorem timing_lift (action : StateM σ α) :
    (Correspondence.timing σ).Rel Eq (StateT.lift action) (StateT.lift action) :=
  fun _ _ _ htimed => ⟨rfl, htimed, rfl⟩

/-- What is noted on both sides. -/
theorem timing_noting (event : Except Failure α → Event) (action : ExceptT Failure (StateM σ) α) :
    (Correspondence.timing σ).RelExcept Eq (Watched.noting event action)
      (Watched.noting event action) :=
  fun _ _ _ htimed => ⟨Both.refl _, .exactly htimed _, rfl⟩

/-- What corrects the notes of the timed calls if it fails. -/
theorem timing_correcting {correct : Failure → List Event → List Event}
    (hcorrect : ∀ {reached timed}, Event.TimedAs reached timed → ∀ failure,
      Event.TimedAs reached (correct failure timed)) (action : ExceptT Failure (StateM σ) α) :
    (Correspondence.timing σ).RelExcept Eq (ExceptT.mk (StateT.lift action.run))
      (Watched.correcting correct action) := by
  intro reached timed world htimed
  have hrun := Watched.run_correcting correct action timed world
  have hleft : (((ExceptT.mk (StateT.lift action.run) : ExceptT Failure (Watched (StateM σ)) α).run.run
      reached).run world) = (((action.run.run world).1, reached), (action.run.run world).2) := rfl
  rw [hrun, hleft]
  rcases action.run.run world with ⟨failure | a, after⟩
  · exact ⟨.error failure, hcorrect htimed failure, rfl⟩
  · exact ⟨.ok rfl, htimed, rfl⟩

/-- The two ways to watch an engine differ in nothing but what its stopwatch does. -/
theorem Engine.reached_corresponds (engine : Engine (StateM σ)) (number : Nat) :
    (engine.reached number).Corresponds (Correspondence.timing σ) (engine.watched number) where
  geometry_eq := rfl
  start step := timing_correcting (fun htimed failure => .unstarted htimed number step failure)
    (engine.stopwatch.start step)
  stop mark := timing_correcting Event.TimedAs.spoil (engine.stopwatch.stop mark)
  elapsed mark := timing_correcting Event.TimedAs.spoil (engine.stopwatch.elapsed mark)
  planEstimate := timing_noting _ engine.planEstimate
  allocate := timing_noting _ engine.allocate
  planForward := timing_noting _ engine.planForward
  planInverse := timing_noting _ engine.planInverse
  upload host := timing_noting _ (engine.upload host)
  executeForward := timing_noting _ engine.executeForward
  executeInverse := timing_noting _ engine.executeInverse
  download host := timing_noting _ (engine.download host)
  destroy := timing_noting _ engine.destroy

theorem Environment.watched_corresponds (env : Environment (StateM σ)) :
    env.watched.Corresponds (Correspondence.timing σ) env.watched where
  arithmetic_eq := rfl
  toHalf_eq := rfl
  log entry := timing_lift (env.log entry)
  clock := timing_lift env.clock
  date := timing_lift env.date

end Timing

end SpectralBench
