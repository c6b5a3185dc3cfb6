import SpectralBench.Proofs.Watch

/-!
# Two runs side by side

The same part of a run can start in two worlds, behind two different histories. What it does is the
same in both if all answers that it gets are: then the results agree, and the events that are added
differ in nothing but the numbers of engines and the times in records.

`Agree` says of two actions what holds afterwards if some link held between their traces and worlds
before, and `Twins` keeps one link. The rules follow those of `Ends`.

Which worlds are alike is up to the bench: for two engines of one configuration there must be some
relation under which they cannot be told apart. `Bench.Steady` asks for that, in whichever of the
worlds that are possible the engines were made.

Main statements:

* `Agree.bind`, `Twins.bindExcept` — two actions, one after the other, on both sides.
* `Twins.noting`, `Agree.createEngine` — watched calls on both sides.
-/

namespace SpectralBench

/-! ## Traces -/

/-- An event without what the history of a run decides: the number of an engine, and a time. -/
def Event.plain : Event → Event
  | .estimated _ outcome => .estimated 0 outcome
  | .called _ step outcome => .called 0 step outcome
  | .recorded entry outcome => .recorded entry.untimed outcome
  | event => event

/-- Whether an event belongs to a configuration, with a journal that takes all records. -/
def Event.isVisiting : Event → Bool
  | .started .. => false
  | .finished _ => false
  | .recorded _ (.error _) => false
  | _ => true

theorem Event.isVisiting_plain (event : Event) : event.plain.isVisiting = event.isVisiting := by
  cases event with
  | recorded _ outcome => cases outcome <;> rfl
  | _ => rfl

/-- Whether two traces went on in the same way from where they were. -/
def Told (base base' trace trace' : List Event) : Prop :=
  ∃ added added', trace = base ++ added ∧ trace' = base' ++ added' ∧
    added.map Event.plain = added'.map Event.plain ∧ ∀ event ∈ added', event.isVisiting

theorem Told.refl (base base' : List Event) : Told base base' base base' :=
  ⟨[], [], (List.append_nil base).symm, (List.append_nil base').symm, rfl, List.forall_mem_nil _⟩

theorem Told.concat {base base' trace trace' : List Event} (h : Told base base' trace trace')
    {event event' : Event} (hplain : event.plain = event'.plain) (hvisiting : event'.isVisiting) :
    Told base base' (trace ++ [event]) (trace' ++ [event']) := by
  obtain ⟨added, added', rfl, rfl, hadded, hall⟩ := h
  refine ⟨added ++ [event], added' ++ [event'], List.append_assoc .., List.append_assoc .., ?_, ?_⟩
  · rw [List.map_append, List.map_append, hadded, List.map_singleton, List.map_singleton, hplain]
  · intro other hother
    obtain hother | hother := List.mem_append.1 hother
    · exact hall other hother
    · rw [List.mem_singleton.1 hother]
      exact hvisiting

/-! ## What two actions leave -/

variable {σ α β γ δ : Type}

/-- What relates two traces and two worlds. -/
abbrev Link (σ : Type) : Type :=
  List Event → σ → List Event → σ → Prop

/-- Whenever the link held before, `post` holds of the results, the traces and the worlds. -/
def Agree (link : Link σ) (left : Watched (StateM σ) α) (right : Watched (StateM σ) β)
    (post : α → β → Link σ) : Prop :=
  ∀ trace world trace' world', link trace world trace' world' →
    post ((left.run trace).run world).1.1 ((right.run trace').run world').1.1
      ((left.run trace).run world).1.2 ((left.run trace).run world).2
      ((right.run trace').run world').1.2 ((right.run trace').run world').2

/-- The actions keep a link, and their results are related. -/
def Twins (link : Link σ) (left : Watched (StateM σ) α) (right : Watched (StateM σ) β)
    (rel : α → β → Prop) : Prop :=
  Agree link left right fun a b trace world trace' world' =>
    rel a b ∧ link trace world trace' world'

/-- Two outcomes that are alike: related results, or the same failure. -/
inductive Both (rel : α → β → Prop) : Except Failure α → Except Failure β → Prop where
  | ok {a : α} {b : β} : rel a b → Both rel (.ok a) (.ok b)
  | error (failure : Failure) : Both rel (.error failure) (.error failure)

theorem Both.refl (outcome : Except Failure α) : Both Eq outcome outcome := by
  cases outcome with
  | ok a => exact .ok rfl
  | error failure => exact .error failure

theorem Both.mono {rel other : α → β → Prop} (himp : ∀ a b, rel a b → other a b)
    {left : Except Failure α} {right : Except Failure β} (h : Both rel left right) :
    Both other left right := by
  cases h with
  | ok hrel => exact .ok (himp _ _ hrel)
  | error failure => exact .error failure

theorem Both.eq {left right : Except Failure α} (h : Both Eq left right) : left = right := by
  cases h with
  | ok hrel => rw [hrel]
  | error => rfl

theorem Both.map {f : α → γ} {g : β → δ} {other : γ → δ → Prop} {left : Except Failure α}
    {right : Except Failure β} (h : Both (fun a b => other (f a) (g b)) left right) :
    Both other (left.map f) (right.map g) := by
  cases h with
  | ok hrel => exact .ok hrel
  | error failure => exact .error failure

namespace Agree

variable {link other : Link σ} {left : Watched (StateM σ) α} {right : Watched (StateM σ) β}

theorem mono {mid post : α → β → Link σ} (h : Agree link left right mid)
    (hlink : ∀ trace world trace' world', other trace world trace' world' →
      link trace world trace' world')
    (himp : ∀ a b trace world trace' world', mid a b trace world trace' world' →
      post a b trace world trace' world') : Agree other left right post :=
  fun _ _ _ _ hbefore => himp _ _ _ _ _ _ (h _ _ _ _ (hlink _ _ _ _ hbefore))

theorem pure {a : α} {b : β} {post : α → β → Link σ}
    (h : ∀ trace world trace' world', link trace world trace' world' →
      post a b trace world trace' world') :
    Agree link (Pure.pure a) (Pure.pure b) post :=
  fun trace world trace' world' hbefore => h trace world trace' world' hbefore

theorem bind {next : α → Watched (StateM σ) γ} {next' : β → Watched (StateM σ) δ}
    {mid : α → β → Link σ} {post : γ → δ → Link σ} (h : Agree link left right mid)
    (hnext : ∀ a b, Agree (mid a b) (next a) (next' b) post) :
    Agree link (left >>= next) (right >>= next') post :=
  fun trace world trace' world' hbefore => hnext _ _ _ _ _ _ (h trace world trace' world' hbefore)

/-- Effects that cannot fail. -/
theorem liftM_bind {next : α → ExceptT Failure (Watched (StateM σ)) γ}
    {next' : β → ExceptT Failure (Watched (StateM σ)) δ} {mid : α → β → Link σ}
    {post : Except Failure γ → Except Failure δ → Link σ} (h : Agree link left right mid)
    (hnext : ∀ a b, Agree (mid a b) (next a).run (next' b).run post) :
    Agree link (liftM left >>= next).run (liftM right >>= next').run post :=
  h.bind hnext

/-- A fact that does not depend on traces and worlds can be taken out of a link. -/
theorem of_and {p : Prop} {post : α → β → Link σ} (h : p → Agree link left right post) :
    Agree (fun trace world trace' world' => p ∧ link trace world trace' world') left right post :=
  fun trace world trace' world' hbefore => h hbefore.1 trace world trace' world' hbefore.2

end Agree

namespace Twins

variable {link : Link σ} {left : Watched (StateM σ) α} {right : Watched (StateM σ) β}
  {rel : α → β → Prop}

theorem pure {a : α} {b : β} (h : rel a b) :
    Twins link (Pure.pure a : Watched (StateM σ) α) (Pure.pure b) rel :=
  Agree.pure fun _ _ _ _ hlink => ⟨h, hlink⟩

theorem mono {other : α → β → Prop} (h : Twins link left right rel)
    (himp : ∀ a b, rel a b → other a b) : Twins link left right other :=
  Agree.mono h (fun _ _ _ _ hlink => hlink) fun a b _ _ _ _ hmid => ⟨himp a b hmid.1, hmid.2⟩

theorem bind {next : α → Watched (StateM σ) γ} {next' : β → Watched (StateM σ) δ}
    {post : γ → δ → Link σ} (h : Twins link left right rel)
    (hnext : ∀ a b, rel a b → Agree link (next a) (next' b) post) :
    Agree link (left >>= next) (right >>= next') post :=
  Agree.bind h fun a b => Agree.of_and (hnext a b)

theorem map {f : α → γ} {g : β → δ} {other : γ → δ → Prop}
    (h : Twins link left right fun a b => other (f a) (g b)) :
    Twins link (f <$> left) (g <$> right) other :=
  fun trace world trace' world' hlink => h trace world trace' world' hlink

/-- Parts of runs that may fail: what comes after them runs on both sides or on neither. -/
theorem bindExcept {left : ExceptT Failure (Watched (StateM σ)) α}
    {right : ExceptT Failure (Watched (StateM σ)) β}
    {next : α → ExceptT Failure (Watched (StateM σ)) γ}
    {next' : β → ExceptT Failure (Watched (StateM σ)) δ} {other : γ → δ → Prop}
    (h : Twins link left.run right.run (Both rel))
    (hnext : ∀ a b, rel a b → Twins link (next a).run (next' b).run (Both other)) :
    Twins link (left >>= next).run (right >>= next').run (Both other) := by
  rw [Twins, ExceptT.run_bind, ExceptT.run_bind]
  refine h.bind fun outcome outcome' hboth => ?_
  cases hboth with
  | ok hrel => exact hnext _ _ hrel
  | error failure => exact Twins.pure (.error failure)

theorem liftM_bind {next : α → ExceptT Failure (Watched (StateM σ)) γ}
    {next' : β → ExceptT Failure (Watched (StateM σ)) δ}
    {post : Except Failure γ → Except Failure δ → Link σ} (h : Twins link left right rel)
    (hnext : ∀ a b, rel a b → Agree link (next a).run (next' b).run post) :
    Agree link (liftM left >>= next).run (liftM right >>= next').run post :=
  h.bind hnext

end Twins

/-! ## Worlds that are alike -/

/-- Whether two actions answer alike in worlds that are alike, and leave such worlds. -/
def Answers (alike : σ → σ → Prop) (rel : α → β → Prop) (left : StateM σ α) (right : StateM σ β) :
    Prop :=
  ∀ world world', alike world world' →
    rel (left.run world).1 (right.run world').1 ∧ alike (left.run world).2 (right.run world').2

/-- `Answers` where the answers do not matter. -/
abbrev Spares (alike : σ → σ → Prop) (left right : StateM σ α) : Prop :=
  Answers alike (fun _ _ => True) left right

namespace Answers

variable {alike : σ → σ → Prop} {rel : α → β → Prop}

theorem pure {a : α} {b : β} (h : rel a b) :
    Answers alike rel (Pure.pure a : StateM σ α) (Pure.pure b) :=
  fun _ _ hworld => ⟨h, hworld⟩

theorem bind {left : StateM σ α} {right : StateM σ β} {next : α → StateM σ γ}
    {next' : β → StateM σ δ} {other : γ → δ → Prop} (h : Answers alike rel left right)
    (hnext : ∀ a b, rel a b → Answers alike other (next a) (next' b)) :
    Answers alike other (left >>= next) (right >>= next') := by
  intro world world' hworld
  obtain ⟨hrel, hafter⟩ := h world world' hworld
  exact hnext _ _ hrel _ _ hafter

theorem bindExcept {left : ExceptT Failure (StateM σ) α} {right : ExceptT Failure (StateM σ) β}
    {next : α → ExceptT Failure (StateM σ) γ} {next' : β → ExceptT Failure (StateM σ) δ}
    {other : γ → δ → Prop} (h : Answers alike (Both rel) left.run right.run)
    (hnext : ∀ a b, rel a b → Answers alike (Both other) (next a).run (next' b).run) :
    Answers alike (Both other) (left >>= next).run (right >>= next').run := by
  rw [ExceptT.run_bind, ExceptT.run_bind]
  refine h.bind fun outcome outcome' hboth => ?_
  cases hboth with
  | ok hrel => exact hnext _ _ hrel
  | error failure => exact pure (.error failure)

/-- An action whose answer is looked at, whatever it is. -/
theorem liftM_bind {left : StateM σ α} {right : StateM σ β}
    {next : α → ExceptT Failure (StateM σ) γ} {next' : β → ExceptT Failure (StateM σ) δ}
    {other : γ → δ → Prop} (h : Answers alike rel left right)
    (hnext : ∀ a b, rel a b → Answers alike (Both other) (next a).run (next' b).run) :
    Answers alike (Both other) (liftM left >>= next).run (liftM right >>= next').run := by
  intro world world' hworld
  obtain ⟨hrel, hafter⟩ := h world world' hworld
  exact hnext _ _ hrel _ _ hafter

end Answers

/-- Two engines that cannot be told apart by their answers. What their stopwatches show may differ,
as long as they fail alike and reading them makes no difference to the engines. -/
structure Engine.Alike (alike : σ → σ → Prop) (engine engine' : Engine (StateM σ)) : Prop where
  geometry_eq : engine.geometry = engine'.geometry
  start : ∀ step, Answers alike (Both fun _ _ => True) (engine.stopwatch.start step).run
    (engine'.stopwatch.start step).run
  stop : ∀ mark mark', Answers alike (Both fun _ _ => True) (engine.stopwatch.stop mark).run
    (engine'.stopwatch.stop mark').run
  elapsed : ∀ mark mark', Answers alike (Both fun _ _ => True)
    (engine.stopwatch.elapsed mark).run (engine'.stopwatch.elapsed mark').run
  planEstimate : Answers alike Eq engine.planEstimate.run engine'.planEstimate.run
  allocate : Answers alike Eq engine.allocate.run engine'.allocate.run
  planForward : Answers alike Eq engine.planForward.run engine'.planForward.run
  planInverse : Answers alike Eq engine.planInverse.run engine'.planInverse.run
  upload : ∀ host, Answers alike Eq (engine.upload host).run (engine'.upload host).run
  executeForward : Answers alike Eq engine.executeForward.run engine'.executeForward.run
  executeInverse : Answers alike Eq engine.executeInverse.run engine'.executeInverse.run
  download : ∀ {size : Nat} (host : Vector UInt8 size),
    Answers alike Eq (engine.download host).run (engine'.download host).run
  destroy : Answers alike Eq engine.destroy.run engine'.destroy.run

namespace Bench

variable (bench : Bench (StateM σ)) (possible : σ → Prop)

/-- Log, clock and journal leave alike worlds alike, all of which are possible. -/
structure Aside (alike : σ → σ → Prop) : Prop where
  possible_of : ∀ world world', alike world world' → possible world ∧ possible world'
  log : ∀ entry entry', Spares alike (bench.env.log entry) (bench.env.log entry')
  clock : Spares alike bench.env.clock bench.env.clock
  record : ∀ entry entry',
    Spares alike (bench.journal.record entry).run (bench.journal.record entry').run

/-- The platform's answers about memory are alike as well. -/
structure Apart (alike : σ → σ → Prop) : Prop extends bench.Aside possible alike where
  capabilities : Answers alike Eq bench.platform.capabilities bench.platform.capabilities
  hostBytes : Answers alike Eq bench.platform.hostBytes bench.platform.hostBytes

/-- Two worlds that are possible, and need have nothing in common. -/
def Between (world world' : σ) : Prop :=
  possible world ∧ possible world'

/-- How the making of an engine for one configuration can end in two worlds, if the answers depend on
the configuration alone: with the same failure, or with engines that cannot be told apart. -/
inductive MadeAlike :
    Except Failure (Engine (StateM σ)) → σ → Except Failure (Engine (StateM σ)) → σ → Prop where
  | made {engine engine' : Engine (StateM σ)} {world world' : σ} (alike : σ → σ → Prop) :
      alike world world' → bench.Apart possible alike → engine.Alike alike engine' →
      MadeAlike (.ok engine) world (.ok engine') world'
  | refused {world world' : σ} (failure : Failure) : Between possible world world' →
      MadeAlike (.error failure) world (.error failure) world'

/-- A bench on which all answers about a configuration depend on that configuration alone, whatever
was run before, and whose journal takes everything. Between configurations nothing is known of the
world but that it is possible. -/
structure Steady : Prop where
  create : ∀ configuration world world', Between possible world world' →
    bench.MadeAlike possible ((bench.platform.createEngine configuration).run.run world).1
      ((bench.platform.createEngine configuration).run.run world).2
      ((bench.platform.createEngine configuration).run.run world').1
      ((bench.platform.createEngine configuration).run.run world').2
  aside : bench.Aside possible (Between possible)
  capabilities : Spares (Between possible) bench.platform.capabilities bench.platform.capabilities
  date : Spares (Between possible) bench.env.date bench.env.date
  start : ∀ header,
    Spares (Between possible) (bench.journal.start header).run (bench.journal.start header).run
  finish : Spares (Between possible) bench.journal.finish.run bench.journal.finish.run
  start_eq_ok : ∀ header world, possible world →
    ((bench.journal.start header).run.run world).1 = .ok ()
  record_eq_ok : ∀ entry world, possible world →
    ((bench.journal.record entry).run.run world).1 = .ok ()
  finish_eq_ok : ∀ world, possible world → (bench.journal.finish.run.run world).1 = .ok ()

end Bench

/-! ## Watched calls -/

/-- The worlds are alike, and the traces went on in the same way. -/
def Linked (alike : σ → σ → Prop) (base base' : List Event) : Link σ :=
  fun trace world trace' world' => alike world world' ∧ Told base base' trace trace'

section Calls

variable {alike : σ → σ → Prop} {base base' : List Event}

namespace Twins

/-- What is not watched leaves no notes. -/
theorem lift {left : StateM σ α} {right : StateM σ β} {rel : α → β → Prop}
    (h : Answers alike rel left right) :
    Twins (Linked alike base base') (StateT.lift left) (StateT.lift right) rel := by
  rintro trace world trace' world' ⟨hworld, htold⟩
  obtain ⟨hrel, hafter⟩ := h world world' hworld
  exact ⟨hrel, hafter, htold⟩

theorem noting {rel : Except Failure α → Except Failure β → Prop}
    {event : Except Failure α → Event} {event' : Except Failure β → Event}
    {left : ExceptT Failure (StateM σ) α} {right : ExceptT Failure (StateM σ) β}
    (h : Answers alike rel left.run right.run)
    (hevent : ∀ outcome outcome', rel outcome outcome' →
      (event outcome).plain = (event' outcome').plain ∧ (event' outcome').isVisiting) :
    Twins (Linked alike base base') (Watched.noting event left).run (Watched.noting event' right).run
      rel := by
  rintro trace world trace' world' ⟨hworld, htold⟩
  obtain ⟨hrel, hafter⟩ := h world world' hworld
  obtain ⟨hplain, hvisiting⟩ := hevent _ _ hrel
  exact ⟨hrel, hafter, htold.concat hplain hvisiting⟩

/-- The numbers of engines are left out of what is compared. -/
theorem noteCall {number number' : Nat} {step : Step} {left right : ExceptT Failure (StateM σ) α}
    (h : Answers alike Eq left.run right.run) :
    Twins (Linked alike base base') (Watched.noteCall number step left).run
      (Watched.noteCall number' step right).run (Both Eq) := by
  refine Twins.mono (noting h ?_) fun outcome _ heq => heq ▸ Both.refl outcome
  rintro outcome _ rfl
  exact ⟨rfl, rfl⟩

variable {bench : Bench (StateM σ)} {possible : σ → Prop}

theorem log (haside : bench.Aside possible alike) (level level' : Log.Level) (text text' : String) :
    Twins (Linked alike base base') (bench.watched.log level text) (bench.watched.log level' text')
      fun _ _ => True :=
  lift (haside.log _ _)

theorem capabilities (hapart : bench.Apart possible alike) :
    Twins (Linked alike base base') bench.watched.platform.capabilities
      bench.watched.platform.capabilities Eq := by
  rintro trace world trace' world' ⟨hworld, htold⟩
  obtain ⟨hanswer, hafter⟩ := hapart.capabilities world world' hworld
  exact ⟨hanswer, hafter, htold.concat (congrArg Event.capabilities hanswer) rfl⟩

theorem hostBytes (hapart : bench.Apart possible alike) :
    Twins (Linked alike base base') bench.watched.platform.hostBytes
      bench.watched.platform.hostBytes Eq := by
  rintro trace world trace' world' ⟨hworld, htold⟩
  obtain ⟨hanswer, hafter⟩ := hapart.hostBytes world world' hworld
  exact ⟨hanswer, hafter, htold.concat (congrArg Event.hostBytes hanswer) rfl⟩

/-- The times in records are left out of what is compared. -/
theorem record (hsteady : bench.Steady possible) (haside : bench.Aside possible alike)
    {entry entry' : Record} (huntimed : entry.untimed = entry'.untimed) :
    Twins (Linked alike base base') (bench.watched.journal.record entry).run
      (bench.watched.journal.record entry').run (Both Eq) := by
  have haccepts : Answers alike (fun outcome outcome' => outcome = .ok () ∧ outcome' = .ok ())
      (bench.journal.record entry).run (bench.journal.record entry').run := by
    intro world world' hworld
    obtain ⟨hleft, hright⟩ := haside.possible_of world world' hworld
    exact ⟨⟨hsteady.record_eq_ok entry world hleft, hsteady.record_eq_ok entry' world' hright⟩,
      (haside.record entry entry' world world' hworld).2⟩
  refine Twins.mono (noting haccepts ?_) ?_
  · rintro _ _ ⟨rfl, rfl⟩
    exact ⟨by rw [Event.plain, Event.plain, huntimed], rfl⟩
  · rintro _ _ ⟨rfl, rfl⟩
    exact .ok rfl

end Twins

/-- How the watched making of an engine can end on both sides. -/
inductive CreatedAlike (bench : Bench (StateM σ)) (possible : σ → Prop) (base base' : List Event) :
    Except Failure (Engine (Watched (StateM σ))) → Except Failure (Engine (Watched (StateM σ))) →
      Link σ where
  | made {engine engine' : Engine (StateM σ)} {number number' : Nat} {trace trace' : List Event}
      {world world' : σ} (alike : σ → σ → Prop) : bench.Apart possible alike →
      engine.Alike alike engine' → Linked alike base base' trace world trace' world' →
      CreatedAlike bench possible base base' (.ok (engine.watched number))
        (.ok (engine'.watched number')) trace world trace' world'
  | refused {trace trace' : List Event} {world world' : σ} (failure : Failure) :
      Linked (Bench.Between possible) base base' trace world trace' world' →
      CreatedAlike bench possible base base' (.error failure) (.error failure) trace world trace'
        world'

/-- Engines of one configuration are alike, in whichever possible worlds they are made. -/
theorem Agree.createEngine {bench : Bench (StateM σ)} {possible : σ → Prop}
    (hsteady : bench.Steady possible) (configuration : Configuration) :
    Agree (Linked (Bench.Between possible) base base')
      (bench.watched.platform.createEngine configuration).run
      (bench.watched.platform.createEngine configuration).run
      (CreatedAlike bench possible base base') := by
  rintro trace world trace' world' ⟨hworld, htold⟩
  have hmade := hsteady.create configuration world world' hworld
  -- the event is noted whether an engine was made or not
  change CreatedAlike bench possible base base'
    (((bench.platform.createEngine configuration).run.run world).1.map _)
    (((bench.platform.createEngine configuration).run.run world').1.map _)
    (trace ++ [.created configuration
      (((bench.platform.createEngine configuration).run.run world).1.map _)])
    ((bench.platform.createEngine configuration).run.run world).2
    (trace' ++ [.created configuration
      (((bench.platform.createEngine configuration).run.run world').1.map _)])
    ((bench.platform.createEngine configuration).run.run world').2
  generalize (bench.platform.createEngine configuration).run.run world = left at hmade
  generalize (bench.platform.createEngine configuration).run.run world' = right at hmade
  obtain ⟨outcome, after⟩ := left
  obtain ⟨outcome', after'⟩ := right
  dsimp only at hmade ⊢
  cases hmade with
  | made alike halike hapart hengine =>
    refine .made alike hapart hengine ⟨halike, htold.concat ?_ rfl⟩
    exact congrArg (fun geometry => Event.created configuration (.ok geometry)) hengine.geometry_eq
  | refused failure hbetween => exact .refused failure ⟨hbetween, htold.concat rfl rfl⟩

end Calls

end SpectralBench
