import SpectralBench.Campaign.Run

/-!
# Watched runs

A run is watched by noting what it does to its surroundings: engines that are made, calls that reach
them, the memory that is asked for, and what goes to the journal, each with how it ended. Watching
changes nothing else: a watched engine hands every call on and gives the answer back.

Engines are numbered in the order in which they are made, so that the calls of one engine can be
told from those of another. An engine brings its own stopwatch, and a call that is timed is noted as
the stopwatch hands its end back: one that the watch did not start, or could not measure, has failed.
What the engine itself has seen and answered is noted as well, on request (`Engine.reached`); with a
stopwatch that never fails (`Stopwatch.Reliable`) there is no difference.

The surroundings of a run are an arbitrary world `σ`, on which engines, platform and journal work as
they like. `Ends` says what holds after an action *whatever the world was*, so a fact about `Ends` is
a fact about every pattern of success and failure.

Main statements:

* `Ends.bind`, `Ends.bindExcept`, `Session.Ends.bind` — what two actions leave, one after the other,
  at the three levels on which runs are written.
* `Engine.measure_watched` — what is noted of a timed call is how it ended, the stopwatch included.
* `Stopwatch.Reliable.reached_eq` — a reliable stopwatch adds nothing to how a call ended.
* `Ends.noting`, `Ends.createEngine` — what a watched call leaves.
-/

namespace SpectralBench

/-- Something that a run did to its surroundings, with how it ended. -/
inductive Event where
  | created (configuration : Configuration) (outcome : Except Failure Geometry)
  | estimated (engine : Nat) (outcome : Except Failure UInt64)
  | called (engine : Nat) (step : Step) (outcome : Except Failure Unit)
  | capabilities (answer : Capabilities)
  | hostBytes (answer : UInt64)
  | started (header : Header) (outcome : Except Failure Unit)
  | recorded (entry : Record) (outcome : Except Failure Unit)
  | finished (outcome : Except Failure Unit)

/-- The configurations of the engines that were made; their places are the engines' numbers. -/
def Event.engines (events : List Event) : List Configuration :=
  events.filterMap fun
    | .created configuration (.ok _) => some configuration
    | _ => none

@[simp]
theorem Event.engines_append (events later : List Event) :
    engines (events ++ later) = engines events ++ engines later :=
  List.filterMap_append

/-- Whether an event neither makes nor calls an engine. -/
def Event.isQuiet : Event → Bool
  | .created _ (.ok _) => false
  | .estimated .. => false
  | .called .. => false
  | _ => true

/-- Whether an event is an entry for the journal. -/
def Event.isRecord : Event → Bool
  | .recorded .. => true
  | _ => false

theorem Event.quiet_of_records {events : List Event} (h : ∀ event ∈ events, event.isRecord) :
    ∀ event ∈ events, event.isQuiet := by
  intro event hevent
  have hrecord := h event hevent
  cases event <;> first | rfl | cases hrecord

theorem Event.engines_of_isQuiet {event : Event} (h : event.isQuiet) : engines [event] = [] := by
  cases event with
  | created _ outcome => cases outcome <;> first | rfl | cases h
  | estimated => cases h
  | called => cases h
  | _ => rfl

theorem Event.engines_of_quiet {events : List Event} (h : ∀ event ∈ events, event.isQuiet) :
    engines events = [] := by
  induction events with
  | nil => rfl
  | cons event rest ih =>
    obtain ⟨hevent, hrest⟩ := List.forall_mem_cons.1 h
    rw [← List.singleton_append, engines_append, engines_of_isQuiet hevent, ih hrest,
      List.append_nil]

theorem Event.length_engines_append {events : List Event} {count : Nat}
    (h : (engines events).length = count) (later : List Event) :
    (engines (events ++ later)).length = count + (engines later).length := by
  rw [engines_append, List.length_append, h]

/-- Where no engine is made, the last one stays the last. -/
theorem Event.length_engines_of_nil {events later : List Event} {count : Nat}
    (h : (engines events).length = count) (hlater : engines later = []) :
    (engines (events ++ later)).length = count := by
  rw [engines_append, hlater, List.append_nil, h]

/-- A record without the time that it took. -/
def Record.untimed (entry : Record) : Record :=
  { entry with durationNs := 0 }

/-- The entries that were handed to the journal. -/
def Event.records (events : List Event) : List Record :=
  events.filterMap fun
    | .recorded entry _ => some entry
    | _ => none

@[simp]
theorem Event.records_append (events later : List Event) :
    records (events ++ later) = records events ++ records later :=
  List.filterMap_append

/-- Actions in `m` with notes of what they did. -/
abbrev Watched (m : Type → Type) : Type → Type :=
  StateT (List Event) m

section Watching

variable {m : Type → Type} [Monad m] {α : Type}

/-- Notes how an action ended. -/
def Watched.noting (event : Except Failure α → Event) (action : ExceptT Failure m α) :
    ExceptT Failure (Watched m) α :=
  ExceptT.mk do
    let outcome ← StateT.lift action.run
    modify (· ++ [event outcome])
    return outcome

/-- Notes a call of an engine. -/
def Watched.noteCall (number : Nat) (step : Step) (action : ExceptT Failure m α) :
    ExceptT Failure (Watched m) α :=
  noting (fun outcome => .called number step (outcome.map fun _ => ())) action

/-- Corrects the notes if an action fails. -/
def Watched.correcting (correct : Failure → List Event → List Event) (action : ExceptT Failure m α) :
    ExceptT Failure (Watched m) α :=
  ExceptT.mk do
    let outcome ← StateT.lift action.run
    match outcome with
    | .ok _ => pure ()
    | .error failure => modify (correct failure)
    return outcome

/-- The notes with a call at their end that has failed after all. -/
def Event.spoil (failure : Failure) (events : List Event) : List Event :=
  match events.getLast? with
  | some (.called number step _) => events.dropLast ++ [.called number step (.error failure)]
  | _ => events

/-- The stopwatch of an engine with the given number. Where it fails, so does the call that it times:
a call that it does not start is noted as one that failed, and one that it cannot measure as well. -/
def Stopwatch.watched (number : Nat) (watch : Stopwatch m) : Stopwatch (Watched m) where
  name := watch.name
  start step := .correcting (fun failure events => events ++ [.called number step (.error failure)])
    (watch.start step)
  stop mark := .correcting Event.spoil (watch.stop mark)
  elapsed mark := .correcting Event.spoil (watch.elapsed mark)

/-- The engine with the given number, watched. -/
def Engine.watched (number : Nat) (engine : Engine m) : Engine (Watched m) where
  geometry := engine.geometry
  stopwatch := engine.stopwatch.watched number
  planEstimate := .noting (.estimated number) engine.planEstimate
  allocate := .noteCall number .allocate engine.allocate
  planForward := .noteCall number .planForward engine.planForward
  planInverse := .noteCall number .planInverse engine.planInverse
  upload host := .noteCall number .upload (engine.upload host)
  executeForward := .noteCall number .executeForward engine.executeForward
  executeInverse := .noteCall number .executeInverse engine.executeInverse
  download host := .noteCall number .download (engine.download host)
  destroy := .noteCall number .destroy engine.destroy

/-- A stopwatch whose failures are not noted. -/
def Stopwatch.unnoted (watch : Stopwatch m) : Stopwatch (Watched m) where
  name := watch.name
  start step := ExceptT.mk (StateT.lift (watch.start step).run)
  stop mark := ExceptT.mk (StateT.lift (watch.stop mark).run)
  elapsed mark := ExceptT.mk (StateT.lift (watch.elapsed mark).run)

/-- The engine with the given number, with a note of each call that reaches it, ended as the engine
itself has ended it. -/
def Engine.reached (number : Nat) (engine : Engine m) : Engine (Watched m) :=
  { engine.watched number with stopwatch := engine.stopwatch.unnoted }

/-- The platform, watched. A new engine gets the next number. -/
def Platform.watched (platform : Platform m) : Platform (Watched m) where
  title := platform.title
  stopwatchName := platform.stopwatchName
  normalizes := platform.normalizes
  reuse := platform.reuse
  capabilities := do
    let answer ← StateT.lift platform.capabilities
    modify (· ++ [.capabilities answer])
    return answer
  hostBytes := do
    let answer ← StateT.lift platform.hostBytes
    modify (· ++ [.hostBytes answer])
    return answer
  createEngine configuration := ExceptT.mk do
    let outcome ← StateT.lift (platform.createEngine configuration).run
    let number := (Event.engines (← get)).length
    modify (· ++ [.created configuration (outcome.map (·.geometry))])
    return outcome.map (·.watched number)
  destroy := ExceptT.mk (StateT.lift platform.destroy.run)

def Journal.watched (journal : Journal m) : Journal (Watched m) where
  start header := .noting (.started header) (journal.start header)
  record entry := .noting (.recorded entry) (journal.record entry)
  finish := .noting .finished journal.finish

def Environment.watched (env : Environment m) : Environment (Watched m) where
  arithmetic := env.arithmetic
  toHalf := env.toHalf
  log entry := StateT.lift (env.log entry)
  clock := StateT.lift env.clock
  date := StateT.lift env.date

/-- The same bench, with its platform and its journal watched. -/
def Bench.watched (bench : Bench m) : Bench (Watched m) where
  env := bench.env.watched
  platform := bench.platform.watched
  campaign := bench.campaign
  journal := bench.journal.watched

end Watching

variable {σ α β : Type}

@[simp]
theorem Event.spoil_concat (failure : Failure) (events : List Event) (number : Nat) (step : Step)
    (outcome : Except Failure Unit) :
    spoil failure (events ++ [.called number step outcome]) =
      events ++ [.called number step (.error failure)] := by
  simp [spoil]

/-! ## Timed calls -/

/-- What comes after an action runs only where that succeeds. -/
theorem Watched.run_bind (action : ExceptT Failure (Watched (StateM σ)) α)
    (next : α → ExceptT Failure (Watched (StateM σ)) β) (trace : List Event) (world : σ) :
    ((action >>= next).run.run trace).run world =
      match (action.run.run trace).run world with
      | ((.ok a, trace), world) => ((next a).run.run trace).run world
      | ((.error failure, trace), world) => ((.error failure, trace), world) := by
  rw [ExceptT.run_bind, StateT.run_bind, StateT.run_bind]
  rcases (action.run.run trace).run world with ⟨⟨_ | _, _⟩, _⟩ <;> rfl

theorem Watched.run_correcting (correct : Failure → List Event → List Event)
    (action : ExceptT Failure (StateM σ) α) (trace : List Event) (world : σ) :
    ((Watched.correcting correct action).run.run trace).run world =
      match action.run.run world with
      | (.ok a, world) => ((.ok a, trace), world)
      | (.error failure, world) => ((.error failure, correct failure trace), world) := by
  change StateT.run (StateT.run (StateT.lift action.run >>= _) trace) world = _
  rw [StateT.run_bind, StateT.run_lift, bind_assoc, StateT.run_bind]
  rcases action.run.run world with ⟨_ | _, after⟩ <;> rfl

/-- A measurement ends with the first of its parts that fails. -/
theorem Stopwatch.run_measure (watch : Stopwatch (StateM σ)) (step : Step)
    (operation : ExceptT Failure (StateM σ) α) (world : σ) :
    (watch.measure step operation).run.run world =
      match (watch.start step).run.run world with
      | (.error failure, world) => (.error failure, world)
      | (.ok mark, world) =>
        match operation.run.run world with
        | (outcome, world) =>
          match (watch.stop mark).run.run world, outcome with
          | (.error failure, world), _ => (.error failure, world)
          | (.ok _, world), .error failure => (.error failure, world)
          | (.ok _, world), .ok result =>
            match (watch.elapsed mark).run.run world with
            | (.error failure, world) => (.error failure, world)
            | (.ok time, world) => (.ok (result, time), world) := by
  have hoperation (next : Except Failure α → ExceptT Failure (StateM σ) (α × Duration)) (world : σ) :
      ((liftM operation.run >>= next).run.run world) =
        (next (operation.run.run world).1).run.run (operation.run.run world).2 := rfl
  rw [Stopwatch.measure, ExceptT.run_bind, StateT.run_bind]
  rcases (watch.start step).run.run world with ⟨_ | mark, started⟩
  · rfl
  refine (hoperation _ started).trans ?_
  dsimp only
  rcases operation.run.run started with ⟨outcome, ended⟩
  dsimp only
  rw [ExceptT.run_bind, StateT.run_bind]
  rcases (watch.stop mark).run.run ended with ⟨_ | _, stopped⟩
  · rfl
  cases outcome with
  | error failure => rfl
  | ok a =>
    change StateT.run (ExceptT.run (watch.elapsed mark >>= _)) stopped = _
    rw [ExceptT.run_bind, StateT.run_bind]
    dsimp only
    rcases (watch.elapsed mark).run.run stopped with ⟨_ | _, _⟩ <;> rfl

/-- What is noted of a timed call is how it ended for the one who asked for it, whether it was the
engine that failed or its stopwatch. -/
theorem Engine.measure_watched (engine : Engine (StateM σ)) (number : Nat) (step : Step)
    (action : ExceptT Failure (StateM σ) α) :
    (engine.watched number).stopwatch.measure step (Watched.noteCall number step action) =
      Watched.noteCall number step (engine.stopwatch.measure step action) := by
  have hcall (next : Except Failure α → ExceptT Failure (Watched (StateM σ)) (α × Duration))
      (trace : List Event) (world : σ) :
      ((liftM (Watched.noteCall number step action).run >>= next).run.run trace).run world =
        ((next (action.run.run world).1).run.run
          (trace ++ [.called number step ((action.run.run world).1.map fun _ => ())])).run
          (action.run.run world).2 := rfl
  have hnote (trace : List Event) (world : σ) :
      ((Watched.noteCall number step (engine.stopwatch.measure step action)).run.run trace).run
        world =
      ((((engine.stopwatch.measure step action).run.run world).1, trace ++ [.called number step
        (((engine.stopwatch.measure step action).run.run world).1.map fun _ => ())]),
        ((engine.stopwatch.measure step action).run.run world).2) := rfl
  suffices h : ∀ (trace : List Event) (world : σ),
      (((engine.watched number).stopwatch.measure step
        (Watched.noteCall number step action)).run.run trace).run world =
      ((Watched.noteCall number step (engine.stopwatch.measure step action)).run.run trace).run
        world from funext fun trace => funext fun world => h trace world
  intro trace world
  rw [hnote, Stopwatch.run_measure, Stopwatch.measure, Watched.run_bind, Engine.watched,
    Stopwatch.watched, Watched.run_correcting]
  rcases (engine.stopwatch.start step).run.run world with ⟨_ | mark, started⟩
  · rfl
  refine (hcall _ trace started).trans ?_
  dsimp only
  rcases action.run.run started with ⟨outcome, ended⟩
  dsimp only
  rw [Watched.run_bind, Watched.run_correcting]
  -- where the watch fails behind the call, what was noted of the call is corrected
  rcases (engine.stopwatch.stop mark).run.run ended with ⟨failure | _, stopped⟩
  · dsimp only
    rw [Event.spoil_concat]
    rfl
  cases outcome with
  | error failure => rfl
  | ok a =>
    change StateT.run (StateT.run (ExceptT.run (Watched.correcting Event.spoil
      (engine.stopwatch.elapsed mark) >>= _)) (trace ++ _)) stopped = _
    rw [Watched.run_bind, Watched.run_correcting]
    dsimp only
    rcases (engine.stopwatch.elapsed mark).run.run stopped with ⟨failure | _, _⟩
    · dsimp only
      rw [Event.spoil_concat]
      rfl
    · rfl

/-- What is asked of a stopwatch: that it lets every operation run, and has a time for each that
succeeds. Whatever the world is, it does not fail itself. -/
structure Stopwatch.Reliable (watch : Stopwatch (StateM σ)) : Prop where
  start : ∀ step world, ∃ mark, ((watch.start step).run.run world).1 = .ok mark
  stop : ∀ mark world, ((watch.stop mark).run.run world).1 = .ok ()
  elapsed : ∀ mark world, ∃ time, ((watch.elapsed mark).run.run world).1 = .ok time

namespace Stopwatch.Reliable

/-- Where nothing fails, there is nothing to correct. -/
theorem correcting_eq {correct : Failure → List Event → List Event}
    {action : ExceptT Failure (StateM σ) α}
    (h : ∀ world, ∃ a, (action.run.run world).1 = .ok a) :
    Watched.correcting correct action = ExceptT.mk (StateT.lift action.run) := by
  refine funext fun trace => funext fun world => ?_
  refine (Watched.run_correcting correct action trace world).trans ?_
  obtain ⟨a, ha⟩ := h world
  change _ = (((action.run.run world).1, trace), (action.run.run world).2)
  rcases hended : action.run.run world with ⟨outcome, after⟩
  rw [hended] at ha
  cases ha
  rfl

/-- With a reliable stopwatch, a call ends for the one who asked for it as the engine has ended it. -/
theorem reached_eq {engine : Engine (StateM σ)} (h : engine.stopwatch.Reliable) (number : Nat) :
    engine.reached number = engine.watched number := by
  have hwatch : engine.stopwatch.watched number = engine.stopwatch.unnoted := by
    unfold Stopwatch.watched Stopwatch.unnoted
    congr
    · exact funext fun step => correcting_eq (h.start step)
    · exact funext fun mark => correcting_eq fun world => ⟨(), h.stop mark world⟩
    · exact funext fun mark => correcting_eq (h.elapsed mark)
  rw [Engine.reached, ← hwatch]
  rfl

end Stopwatch.Reliable

/-! ## What an action leaves -/

/-- Whatever the world was, the action adds events to those before it, and `post` holds of its result
and of the events that it added. -/
def Ends (action : Watched (StateM σ) α) (before : List Event) (post : α → List Event → Prop) :
    Prop :=
  ∀ world, ∃ events,
    ((action.run before).run world).1.2 = before ++ events ∧
      post ((action.run before).run world).1.1 events

namespace Ends

variable {before : List Event}

theorem pure {a : α} {post : α → List Event → Prop} (h : post a []) :
    Ends (Pure.pure a : Watched (StateM σ) α) before post :=
  fun _ => ⟨[], (List.append_nil before).symm, h⟩

theorem mono {action : Watched (StateM σ) α} {mid post : α → List Event → Prop}
    (h : Ends action before mid) (himp : ∀ a events, mid a events → post a events) :
    Ends action before post := by
  intro world
  obtain ⟨events, htrace, hmid⟩ := h world
  exact ⟨events, htrace, himp _ _ hmid⟩

theorem bind {action : Watched (StateM σ) α} {next : α → Watched (StateM σ) β}
    {mid : α → List Event → Prop} {post : β → List Event → Prop} (h : Ends action before mid)
    (hnext : ∀ a events, mid a events →
      Ends (next a) (before ++ events) fun b later => post b (events ++ later)) :
    Ends (action >>= next) before post := by
  intro world
  obtain ⟨events, htrace, hmid⟩ := h world
  obtain ⟨later, hlater, hpost⟩ := hnext _ events hmid ((action.run before).run world).2
  -- the second action starts from the trace that the first one left
  rw [← htrace] at hlater hpost
  refine ⟨events ++ later, ?_, hpost⟩
  rw [← List.append_assoc, ← htrace]
  exact hlater

theorem map {action : Watched (StateM σ) α} {f : α → β} {post : β → List Event → Prop}
    (h : Ends action before fun a events => post (f a) events) : Ends (f <$> action) before post :=
  fun world => h world

theorem get_bind {next : List Event → Watched (StateM σ) β} {post : β → List Event → Prop}
    (h : Ends (next before) before post) : Ends (get >>= next) before post :=
  h

/-- What is not watched leaves no notes. -/
theorem lift {action : StateM σ α} {post : α → List Event → Prop} (h : ∀ a, post a []) :
    Ends (StateT.lift action) before post :=
  fun _ => ⟨[], (List.append_nil before).symm, h _⟩

theorem lift_bind {action : StateM σ α} {next : α → Watched (StateM σ) β}
    {post : β → List Event → Prop} (h : ∀ a, Ends (next a) before post) :
    Ends (StateT.lift action >>= next) before post :=
  fun world => h (action.run world).1 (action.run world).2

theorem noting {event : Except Failure α → Event} {action : ExceptT Failure (StateM σ) α}
    {post : Except Failure α → List Event → Prop} (h : ∀ outcome, post outcome [event outcome]) :
    Ends (Watched.noting event action).run before post :=
  fun _ => ⟨_, rfl, h _⟩

/-- A part of a run that may fail: what comes after it runs only where it succeeds. -/
theorem bindExcept {action : ExceptT Failure (Watched (StateM σ)) α}
    {next : α → ExceptT Failure (Watched (StateM σ)) β} {mid : Except Failure α → List Event → Prop}
    {post : Except Failure β → List Event → Prop} (h : Ends action.run before mid)
    (hok : ∀ a events, mid (.ok a) events →
      Ends (next a).run (before ++ events) fun b later => post b (events ++ later))
    (herror : ∀ failure events, mid (.error failure) events → post (.error failure) events) :
    Ends (action >>= next).run before post := by
  rw [ExceptT.run_bind]
  refine h.bind fun outcome events hmid => ?_
  cases outcome with
  | ok a => exact hok a events hmid
  | error failure =>
    -- nothing runs after a failure, so nothing is added to the events
    refine Ends.pure ?_
    rw [List.append_nil]
    exact herror failure events hmid

theorem ok_bind {a : α} {next : α → ExceptT Failure (Watched (StateM σ)) β}
    {post : Except Failure β → List Event → Prop} (h : Ends (next a).run before post) :
    Ends (ExceptT.mk (Pure.pure (.ok a)) >>= next).run before post :=
  h

/-- An effect that cannot fail. -/
theorem liftM_bind {action : Watched (StateM σ) α}
    {next : α → ExceptT Failure (Watched (StateM σ)) β} {mid : α → List Event → Prop}
    {post : Except Failure β → List Event → Prop} (h : Ends action before mid)
    (hnext : ∀ a events, mid a events →
      Ends (next a).run (before ++ events) fun b later => post b (events ++ later)) :
    Ends (liftM action >>= next).run before post :=
  h.bind hnext

/-- An effect that is not watched leaves no notes. -/
theorem unseen_bind {action : StateM σ α} {next : α → ExceptT Failure (Watched (StateM σ)) β}
    {post : Except Failure β → List Event → Prop} (h : ∀ a, Ends (next a).run before post) :
    Ends (liftM (StateT.lift action : Watched (StateM σ) α) >>= next).run before post :=
  fun world => h (action.run world).1 (action.run world).2

theorem capabilities {bench : Bench (StateM σ)} :
    Ends bench.watched.platform.capabilities before
      fun answer events => events = [.capabilities answer] :=
  fun _ => ⟨_, rfl, rfl⟩

theorem hostBytes {bench : Bench (StateM σ)} :
    Ends bench.watched.platform.hostBytes before fun answer events => events = [.hostBytes answer] :=
  fun _ => ⟨_, rfl, rfl⟩

/-- A new engine is one that the platform makes in some world, and gets the next number. -/
theorem createEngine {bench : Bench (StateM σ)} {configuration : Configuration}
    {post : Except Failure (Engine (Watched (StateM σ))) → List Event → Prop}
    (hok : ∀ engine world, (bench.platform.createEngine configuration world).1 = .ok engine →
      post (.ok (engine.watched (Event.engines before).length))
        [.created configuration (.ok engine.geometry)])
    (herror : ∀ failure, post (.error failure) [.created configuration (.error failure)]) :
    Ends (bench.watched.platform.createEngine configuration).run before post := by
  intro world
  refine ⟨_, rfl, ?_⟩
  -- the number is read off the trace before the event is added to it
  show post (Except.map _ (bench.platform.createEngine configuration world).1)
    [.created configuration (Except.map _ (bench.platform.createEngine configuration world).1)]
  cases houtcome : (bench.platform.createEngine configuration world).1 with
  | ok engine => exact hok engine world houtcome
  | error failure => exact herror failure

end Ends

/-! ## What an action on a session leaves -/

/-- A session with a watched engine. -/
abbrev WatchedSession (σ : Type) : Type :=
  Session (Watched (StateM σ))

namespace Session

/-- Whatever the world was, `post` holds of the result, of the session afterwards and of the events
that the action added. -/
def Ends (action : SessionM (Watched (StateM σ)) α) (session : WatchedSession σ) (before : List Event)
    (post : Except Failure α → WatchedSession σ → List Event → Prop) : Prop :=
  SpectralBench.Ends (action.run.run session) before fun ended events => post ended.1 ended.2 events

namespace Ends

variable {session : WatchedSession σ} {before : List Event}

theorem pure {a : α} {post : Except Failure α → WatchedSession σ → List Event → Prop}
    (h : post (.ok a) session []) :
    Ends (Pure.pure a : SessionM (Watched (StateM σ)) α) session before post :=
  SpectralBench.Ends.pure h

theorem throw {failure : Failure}
    {post : Except Failure α → WatchedSession σ → List Event → Prop}
    (h : post (.error failure) session []) :
    Ends (throw failure : SessionM (Watched (StateM σ)) α) session before post :=
  SpectralBench.Ends.pure h

theorem mono {action : SessionM (Watched (StateM σ)) α}
    {mid post : Except Failure α → WatchedSession σ → List Event → Prop}
    (h : Ends action session before mid)
    (himp : ∀ result session events, mid result session events → post result session events) :
    Ends action session before post :=
  SpectralBench.Ends.mono h fun ended events => himp ended.1 ended.2 events

theorem bind {action : SessionM (Watched (StateM σ)) α} {next : α → SessionM (Watched (StateM σ)) β}
    {mid : Except Failure α → WatchedSession σ → List Event → Prop}
    {post : Except Failure β → WatchedSession σ → List Event → Prop}
    (h : Ends action session before mid)
    (hok : ∀ a session events, mid (.ok a) session events →
      Ends (next a) session (before ++ events) fun b session later =>
        post b session (events ++ later))
    (herror : ∀ failure session events, mid (.error failure) session events →
      post (.error failure) session events) :
    Ends (action >>= next) session before post := by
  unfold Ends
  rw [ExceptT.run_bind, StateT.run_bind]
  refine SpectralBench.Ends.bind h fun ended events hmid => ?_
  obtain ⟨outcome, session⟩ := ended
  cases outcome with
  | ok a => exact hok a session events hmid
  | error failure =>
    refine SpectralBench.Ends.pure ?_
    rw [List.append_nil]
    exact herror failure session events hmid

theorem map {action : SessionM (Watched (StateM σ)) α} {f : α → β}
    {post : Except Failure β → WatchedSession σ → List Event → Prop}
    (h : Ends action session before fun result session events => post (result.map f) session events) :
    Ends (f <$> action) session before post := by
  unfold Ends
  rw [ExceptT.run_map, StateT.run_map]
  exact SpectralBench.Ends.map h

/-- A part of a run that does not see the session. -/
theorem call {action : ExceptT Failure (Watched (StateM σ)) α}
    {post : Except Failure α → WatchedSession σ → List Event → Prop}
    (h : SpectralBench.Ends action.run before fun result events => post result session events) :
    Ends (Session.call action) session before post :=
  SpectralBench.Ends.map (f := fun result => (result, session)) h

/-- A part of a run that sees the session and cannot fail. -/
theorem lift {action : StateT (WatchedSession σ) (Watched (StateM σ)) α}
    {post : Except Failure α → WatchedSession σ → List Event → Prop}
    (h : SpectralBench.Ends (action.run session) before
      fun ended events => post (.ok ended.1) ended.2 events) :
    Ends (ExceptT.lift action) session before post := by
  unfold Ends
  rw [ExceptT.run_lift, StateT.run_map]
  exact SpectralBench.Ends.map h

theorem lift_bind {action : StateT (WatchedSession σ) (Watched (StateM σ)) α}
    {next : α → SessionM (Watched (StateM σ)) β} {mid : α × WatchedSession σ → List Event → Prop}
    {post : Except Failure β → WatchedSession σ → List Event → Prop}
    (h : SpectralBench.Ends (action.run session) before mid)
    (hnext : ∀ a session events, mid (a, session) events →
      Ends (next a) session (before ++ events) fun b session later =>
        post b session (events ++ later)) :
    Ends (ExceptT.lift action >>= next) session before post := by
  have hlift : Ends (ExceptT.lift action) session before fun result session events =>
      ∃ a, result = .ok a ∧ mid (a, session) events :=
    lift (h.mono fun ended _ hmid => ⟨ended.1, rfl, hmid⟩)
  refine hlift.bind ?_ ?_
  · rintro a session events ⟨_, ⟨⟩, hmid⟩
    exact hnext a session events hmid
  · rintro failure session events ⟨_, himpossible, _⟩
    cases himpossible

theorem call_bind {action : ExceptT Failure (Watched (StateM σ)) α}
    {next : α → SessionM (Watched (StateM σ)) β} {mid : Except Failure α → List Event → Prop}
    {post : Except Failure β → WatchedSession σ → List Event → Prop}
    (h : SpectralBench.Ends action.run before mid)
    (hok : ∀ a events, mid (.ok a) events →
      Ends (next a) session (before ++ events) fun b session later =>
        post b session (events ++ later))
    (herror : ∀ failure events, mid (.error failure) events → post (.error failure) session events) :
    Ends (Session.call action >>= next) session before post := by
  have hcall : Ends (Session.call action) session before fun result session' events =>
      session' = session ∧ mid result events := call (h.mono fun _ _ hmid => ⟨rfl, hmid⟩)
  refine hcall.bind ?_ ?_
  · rintro a _ events ⟨rfl, hmid⟩
    exact hok a events hmid
  · rintro failure _ events ⟨rfl, hmid⟩
    exact herror failure events hmid

/-- A watched effect outside of the session. -/
theorem performed_bind {action : Watched (StateM σ) α}
    {next : α → SessionM (Watched (StateM σ)) β} {mid : α → List Event → Prop}
    {post : Except Failure β → WatchedSession σ → List Event → Prop}
    (h : SpectralBench.Ends action before mid)
    (hnext : ∀ a events, mid a events →
      Ends (next a) session (before ++ events) fun b session later =>
        post b session (events ++ later)) :
    Ends (Session.perform action >>= next) session before post := by
  have hlift : SpectralBench.Ends ((StateT.lift action : StateT (WatchedSession σ) _ α).run session)
      before fun ended events => ended.2 = session ∧ mid ended.1 events :=
    SpectralBench.Ends.map (f := fun a => (a, session)) (h.mono fun _ _ hmid => ⟨rfl, hmid⟩)
  refine lift_bind hlift ?_
  rintro a _ events ⟨rfl, hmid⟩
  exact hnext a events hmid

/-- An effect that is not watched leaves no notes. -/
theorem perform_bind {action : StateM σ α} {next : α → SessionM (Watched (StateM σ)) β}
    {post : Except Failure β → WatchedSession σ → List Event → Prop}
    (h : ∀ a, Ends (next a) session before post) :
    Ends (Session.perform (StateT.lift action) >>= next) session before post :=
  fun world => h (action.run world).1 (action.run world).2

theorem current_bind {next : WatchedSession σ → SessionM (Watched (StateM σ)) β}
    {post : Except Failure β → WatchedSession σ → List Event → Prop}
    (h : Ends (next session) session before post) :
    Ends (Session.current >>= next) session before post :=
  h

theorem set_bind {session' : WatchedSession σ} {next : PUnit → SessionM (Watched (StateM σ)) β}
    {post : Except Failure β → WatchedSession σ → List Event → Prop}
    (h : Ends (next ⟨⟩) session' before post) :
    Ends (ExceptT.lift (set session') >>= next) session before post :=
  h

theorem moveTo {stage : Stage} {post : Except Failure Unit → WatchedSession σ → List Event → Prop}
    (h : post (.ok ()) { session with stage } []) :
    Ends (Session.moveTo stage) session before post :=
  SpectralBench.Ends.pure h

theorem moveTo_bind {stage : Stage} {next : Unit → SessionM (Watched (StateM σ)) β}
    {post : Except Failure β → WatchedSession σ → List Event → Prop}
    (h : Ends (next ()) { session with stage } before post) :
    Ends (Session.moveTo stage >>= next) session before post :=
  h

end Ends

end Session

end SpectralBench
