import SpectralBench.Proofs.Campaign.Isolation
import SpectralBench.Proofs.Campaign.Lifetime
import SpectralBench.Proofs.Campaign.Tally

/-!
# The stream of a run

On a bench where all answers about a configuration depend on that configuration alone, a run of the
grid is put together from runs of its configurations on their own: the journal is started, gets what
each configuration leaves when nothing else is run, one after the other in the order of the grid, and
is finished. A configuration that is skipped or fails leaves the others as they are. One that ends the
run is the last that is touched, and then the journal is not finished.

`Bench.collect` puts the runs of single configurations together. That a run of the grid is nothing
else follows from `Bench.twins_runConfiguration`, by induction on the grid; the invariant is that the
world is one of those that are possible.

Main statements:

* `Bench.leaves_run` — a run leaves what `Bench.collect` puts together.
* `Bench.run_stream` — the stream of a run and its tally, and what becomes of both if a configuration
  ends the run.
-/

namespace SpectralBench

/-! ## Events -/

/-- Whether an event is a call of the journal. -/
def Event.isJournal : Event → Bool
  | .started .. => true
  | .recorded .. => true
  | .finished _ => true
  | _ => false

/-- What the journal was asked for, in order, but for the times in records. -/
def Event.stream (events : List Event) : List Event :=
  (events.map plain).filter isJournal

/-- Whether an event makes no engine, or one for the given configuration. -/
def Event.concerns (configuration : Configuration) : Event → Bool
  | .created other _ => other = configuration
  | _ => true

theorem Event.concerns_of_continues {configuration : Configuration} {event : Event}
    (h : event.continues configuration) : event.concerns configuration := by
  cases event <;> first | exact h | rfl

/-- Of what belongs to a configuration, the journal sees the records. -/
theorem Event.filter_isJournal {events : List Event} (h : ∀ event ∈ events, event.isVisiting) :
    events.filter isJournal = (records events).map (.recorded · (.ok ())) := by
  induction events with
  | nil => rfl
  | cons event rest ih =>
    obtain ⟨hevent, hrest⟩ := List.forall_mem_cons.1 h
    cases event with
    | started => cases hevent
    | finished => cases hevent
    | recorded entry outcome =>
      cases outcome with
      | error refusal => cases hevent
      | ok _ => exact congrArg (.recorded entry (.ok ()) :: ·) (ih hrest)
    | _ => exact ih hrest

/-! ## What is left in worlds that are possible -/

section Leaves

variable {σ α β : Type} {possible : σ → Prop}

/-- From any world that is possible, behind any history, the action leads to one that is possible,
and `post` holds of its result and of the events that it adds, but for what the history decides. -/
def Leaves (possible : σ → Prop) (action : Watched (StateM σ) α) (post : α → List Event → Prop) :
    Prop :=
  ∀ trace world, possible world → possible ((action.run trace).run world).2 ∧
    ∃ added, ((action.run trace).run world).1.2 = trace ++ added ∧
      post ((action.run trace).run world).1.1 (added.map Event.plain)

namespace Leaves

theorem pure {a : α} {post : α → List Event → Prop} (h : post a []) :
    Leaves possible (Pure.pure a : Watched (StateM σ) α) post :=
  fun trace _ hworld => ⟨hworld, [], (List.append_nil trace).symm, h⟩

theorem mono {action : Watched (StateM σ) α} {mid post : α → List Event → Prop}
    (h : Leaves possible action mid) (himp : ∀ a events, mid a events → post a events) :
    Leaves possible action post := by
  intro trace world hworld
  obtain ⟨hafter, added, htrace, hmid⟩ := h trace world hworld
  exact ⟨hafter, added, htrace, himp _ _ hmid⟩

theorem bind {action : Watched (StateM σ) α} {next : α → Watched (StateM σ) β}
    {mid : α → List Event → Prop} {post : β → List Event → Prop} (h : Leaves possible action mid)
    (hnext : ∀ a events, mid a events →
      Leaves possible (next a) fun b later => post b (events ++ later)) :
    Leaves possible (action >>= next) post := by
  intro trace world hworld
  obtain ⟨hmiddle, added, htrace, hmid⟩ := h trace world hworld
  obtain ⟨hafter, more, hmore, hpost⟩ := hnext _ _ hmid _ _ hmiddle
  refine ⟨hafter, added ++ more, ?_, ?_⟩
  · rw [← List.append_assoc, ← htrace]
    exact hmore
  · rw [List.map_append]
    exact hpost

/-- A part of a run that may fail: what comes after it runs only where it succeeds. -/
theorem bindExcept {action : ExceptT Failure (Watched (StateM σ)) α}
    {next : α → ExceptT Failure (Watched (StateM σ)) β} {mid : Except Failure α → List Event → Prop}
    {post : Except Failure β → List Event → Prop} (h : Leaves possible action.run mid)
    (hok : ∀ a events, mid (.ok a) events →
      Leaves possible (next a).run fun b later => post b (events ++ later))
    (herror : ∀ failure events, mid (.error failure) events → post (.error failure) events) :
    Leaves possible (action >>= next).run post := by
  rw [ExceptT.run_bind]
  refine h.bind fun outcome events hmid => ?_
  cases outcome with
  | ok a => exact hok a events hmid
  | error failure =>
    refine Leaves.pure ?_
    rw [List.append_nil]
    exact herror failure events hmid

theorem ok_bind {a : α} {next : α → ExceptT Failure (Watched (StateM σ)) β}
    {post : Except Failure β → List Event → Prop} (h : Leaves possible (next a).run post) :
    Leaves possible (ExceptT.mk (Pure.pure (.ok a)) >>= next).run post :=
  h

/-- An effect that cannot fail. -/
theorem liftM_bind {action : Watched (StateM σ) α}
    {next : α → ExceptT Failure (Watched (StateM σ)) β} {mid : α → List Event → Prop}
    {post : Except Failure β → List Event → Prop} (h : Leaves possible action mid)
    (hnext : ∀ a events, mid a events →
      Leaves possible (next a).run fun b later => post b (events ++ later)) :
    Leaves possible (liftM action >>= next).run post :=
  h.bind hnext

/-- An effect that is not watched leaves no notes. -/
theorem unseen_bind {action : StateM σ α} {next : α → ExceptT Failure (Watched (StateM σ)) β}
    {post : Except Failure β → List Event → Prop}
    (haction : ∀ world, possible world → possible (action.run world).2)
    (h : ∀ a, Leaves possible (next a).run post) :
    Leaves possible (liftM (StateT.lift action : Watched (StateM σ) α) >>= next).run post :=
  fun trace world hworld => h (action.run world).1 trace _ (haction world hworld)

/-- A watched call that is known to succeed. -/
theorem noting {event : Except Failure α → Event} {action : ExceptT Failure (StateM σ) α} {a : α}
    (h : ∀ world, possible world →
      possible (action.run.run world).2 ∧ (action.run.run world).1 = .ok a) :
    Leaves possible (Watched.noting event action).run
      fun result events => result = .ok a ∧ events = [(event (.ok a)).plain] := by
  intro trace world hworld
  obtain ⟨hafter, hresult⟩ := h world hworld
  exact ⟨hafter, _, rfl, hresult, congrArg (fun result => [(event result).plain]) hresult⟩

end Leaves

end Leaves

/-- A world that is possible is followed by one, whatever the action answers. -/
theorem Spares.possible {σ α : Type} {possible : σ → Prop} {action : StateM σ α}
    (h : Spares (Bench.Between possible) action action) (world : σ) (hworld : possible world) :
    possible (action.run world).2 :=
  (h world world ⟨hworld, hworld⟩).2.1

namespace Bench

variable {σ : Type} {bench : Bench (StateM σ)} {possible : σ → Prop}

/-! ## Configurations on their own -/

/-- A configuration that is run on its own, in a given world: its result, and the events that it
leaves, but for what the history of a run decides. -/
def visit (bench : Bench (StateM σ)) (configuration : Configuration) (world : σ) :
    Except Failure Status × List Event :=
  let ended := (((bench.watched.runConfiguration configuration).run.run []).run world).1
  (ended.1, ended.2.map Event.plain)

/-- A configuration leaves the same in the middle of a run as on its own. -/
theorem leaves_runConfiguration (hsteady : bench.Steady possible) (configuration : Configuration)
    {alone : σ} (halone : possible alone) :
    Leaves possible (bench.watched.runConfiguration configuration).run fun result events =>
      (result, events) = bench.visit configuration alone := by
  intro trace world hworld
  -- the other side is the configuration on its own, behind a history of nothing
  obtain ⟨hsame, ⟨hafter, -⟩, added, added', htrace, htrace', hplain, -⟩ :=
    twins_runConfiguration hsteady configuration trace world [] alone
      ⟨⟨hworld, halone⟩, Told.refl trace []⟩
  refine ⟨hafter, added, htrace, Prod.ext hsame.eq ?_⟩
  rw [hplain]
  exact congrArg (List.map Event.plain) (htrace'.trans (List.nil_append _)).symm

/-- Where the journal takes everything, all that a configuration leaves belongs to it. -/
theorem visit_isVisiting (hsteady : bench.Steady possible) (configuration : Configuration)
    {alone : σ} (halone : possible alone) :
    ∀ event ∈ (bench.visit configuration alone).2, event.isVisiting := by
  obtain ⟨-, -, added, added', -, htrace', -, hvisiting⟩ :=
    twins_runConfiguration hsteady configuration [] alone [] alone
      ⟨⟨halone, halone⟩, Told.refl [] []⟩
  intro event hevent
  obtain ⟨original, horiginal, rfl⟩ := List.mem_map.1 hevent
  rw [Event.isVisiting_plain]
  rw [List.nil_append] at htrace'
  exact hvisiting original (htrace' ▸ horiginal)

/-! ## The grid put together -/

/-- Visits put together: one after the other, up to the first that ends the run. -/
def collect (visits : Configuration → Except Failure Status × List Event) :
    List Configuration → Tally → Except Failure Tally × List Event
  | [], tally => (.ok tally, [])
  | configuration :: rest, tally =>
    match visits configuration with
    | (.error failure, events) => (.error failure, events)
    | (.ok status, events) =>
      let later := collect visits rest (tally.add status)
      (later.1, events ++ later.2)

/-- Only a grid that was completed is finished. -/
def closing : Except Failure Tally → List Event
  | .ok _ => [.finished (.ok ())]
  | .error _ => []

section Collect

variable {visits : Configuration → Except Failure Status × List Event}

/-- Visits that all come to a status are all put together. -/
theorem collect_of_ok {configurations : List Configuration}
    (h : ∀ configuration ∈ configurations, ∃ status, (visits configuration).1 = .ok status)
    (tally : Tally) : ∃ final,
      collect visits configurations tally =
        (.ok final, configurations.flatMap fun configuration => (visits configuration).2) := by
  induction configurations generalizing tally with
  | nil => exact ⟨tally, rfl⟩
  | cons configuration rest ih =>
    obtain ⟨⟨status, hstatus⟩, hrest⟩ := List.forall_mem_cons.1 h
    obtain ⟨final, hfinal⟩ := ih hrest (tally.add status)
    refine ⟨final, ?_⟩
    rw [collect, show visits configuration = (.ok status, (visits configuration).2) from
      Prod.ext hstatus rfl]
    dsimp only
    rw [hfinal, List.flatMap_cons]

/-- Behind visits that come to a status, one that fails is the last. -/
theorem collect_of_error {before after : List Configuration} {configuration : Configuration}
    {failure : Failure}
    (hbefore : ∀ earlier ∈ before, ∃ status, (visits earlier).1 = .ok status)
    (h : (visits configuration).1 = .error failure) (tally : Tally) :
    collect visits (before ++ configuration :: after) tally =
      (.error failure, (before ++ [configuration]).flatMap fun earlier => (visits earlier).2) := by
  induction before generalizing tally with
  | nil =>
    rw [List.nil_append, collect, show visits configuration = (.error failure,
      (visits configuration).2) from Prod.ext h rfl]
    exact congrArg _ (List.flatMap_singleton ..).symm
  | cons earlier rest ih =>
    obtain ⟨⟨status, hstatus⟩, hrest⟩ := List.forall_mem_cons.1 hbefore
    rw [List.cons_append, collect, show visits earlier = (.ok status, (visits earlier).2) from
      Prod.ext hstatus rfl]
    dsimp only
    rw [ih hrest, List.cons_append, List.flatMap_cons]

/-- If not all visits come to a status, one is the first that does not. -/
theorem exists_first_error {configurations : List Configuration}
    (h : ∃ configuration ∈ configurations, ∃ failure, (visits configuration).1 = .error failure) :
    ∃ before configuration after failure, configurations = before ++ configuration :: after ∧
      (∀ earlier ∈ before, ∃ status, (visits earlier).1 = .ok status) ∧
      (visits configuration).1 = .error failure := by
  induction configurations with
  | nil =>
    obtain ⟨_, himpossible, -⟩ := h
    cases himpossible
  | cons first rest ih =>
    cases hfirst : (visits first).1 with
    | error failure => exact ⟨[], first, rest, failure, rfl, List.forall_mem_nil _, hfirst⟩
    | ok status =>
      obtain ⟨configuration, hconfiguration, failure, hfailure⟩ := h
      have hlater : ∃ configuration ∈ rest, ∃ failure,
          (visits configuration).1 = .error failure := by
        obtain rfl | hrest := List.mem_cons.1 hconfiguration
        · rw [hfirst] at hfailure
          cases hfailure
        · exact ⟨configuration, hrest, failure, hfailure⟩
      obtain ⟨before, configuration, after, failure, rfl, hbefore, hfailed⟩ := ih hlater
      exact ⟨first :: before, configuration, after, failure, rfl,
        List.forall_mem_cons.2 ⟨⟨status, hfirst⟩, hbefore⟩, hfailed⟩

end Collect

/-- The grid is put together from visits on their own, by induction on the configurations. -/
theorem leaves_runAll (hsteady : bench.Steady possible) {alone : Configuration → σ}
    (halone : ∀ configuration, possible (alone configuration)) (configurations : List Configuration)
    (tally : Tally) :
    Leaves possible (bench.watched.runAll configurations tally).run fun result events =>
      (result, events) =
        collect (fun configuration => bench.visit configuration (alone configuration))
          configurations tally := by
  induction configurations generalizing tally with
  | nil => exact Leaves.pure rfl
  | cons configuration rest ih =>
    unfold runAll
    refine (leaves_runConfiguration hsteady configuration (halone configuration)).bindExcept ?_ ?_
    · intro status events hvisit
      refine (ih (tally.add status)).mono fun result later hlater => ?_
      rw [collect, ← hvisit]
      dsimp only
      rw [← hlater]
    · intro failure events hvisit
      rw [collect, ← hvisit]

theorem leaves_capabilities (hsteady : bench.Steady possible) :
    Leaves possible bench.watched.platform.capabilities
      fun answer events => events = [.capabilities answer] :=
  fun _ world hworld => ⟨hsteady.capabilities.possible world hworld, _, rfl, rfl⟩

/-- What a run leaves: nothing if its campaign is refused, and otherwise the visits between the start
of the journal and, if none of them ended the run, its end. -/
theorem leaves_run (hsteady : bench.Steady possible) {alone : Configuration → σ}
    (halone : ∀ configuration, possible (alone configuration)) :
    Leaves possible bench.watched.run.run fun result events =>
      match bench.campaign.check with
      | .error failure => result = .error failure ∧ events = []
      | .ok () => ∃ capabilities started collected,
          collected = collect (fun configuration => bench.visit configuration (alone configuration))
            bench.campaign.configurations .empty ∧
          result = collected.1 ∧
          events = bench.opening capabilities started (.ok ()) ++
            (collected.2 ++ closing collected.1) := by
  unfold run
  rw [show bench.watched.campaign = bench.campaign from rfl]
  cases hcheck : bench.campaign.check with
  | error failure => exact Leaves.pure ⟨rfl, rfl⟩
  | ok _ =>
    have hstart (header : Header) : Leaves possible (bench.watched.journal.start header).run
        fun result events => result = .ok () ∧ events = [.started header (.ok ())] :=
      Leaves.noting fun world hworld =>
        ⟨(hsteady.start header).possible world hworld, hsteady.start_eq_ok header world hworld⟩
    have hfinish : Leaves possible bench.watched.journal.finish.run
        fun result events => result = .ok () ∧ events = [.finished (.ok ())] :=
      Leaves.noting fun world hworld =>
        ⟨hsteady.finish.possible world hworld, hsteady.finish_eq_ok world hworld⟩
    have hlog (entry : Log.Entry) (world : σ) (hworld : possible world) :
        possible ((bench.env.log entry).run world).2 :=
      (hsteady.aside.log entry entry).possible world hworld
    refine Leaves.ok_bind ?_
    refine (leaves_capabilities hsteady).liftM_bind ?_
    rintro capabilities _ rfl
    refine Leaves.unseen_bind hsteady.date.possible fun started => ?_
    refine (hstart _).bindExcept ?_ fun _ _ hrefused => nomatch hrefused.1
    rintro _ _ ⟨-, rfl⟩
    refine Leaves.unseen_bind (hlog _) fun _ => ?_
    refine (leaves_runAll hsteady halone _ _).bindExcept ?_ ?_
    · intro tally visits hvisits
      refine hfinish.bindExcept ?_ fun _ _ hrefused => nomatch hrefused.1
      rintro _ _ ⟨-, rfl⟩
      refine Leaves.unseen_bind (hlog _) fun _ => Leaves.pure ?_
      exact ⟨capabilities, started, _, hvisits, rfl, rfl⟩
    · intro failure visits hvisits
      refine ⟨capabilities, started, _, hvisits, rfl, ?_⟩
      rw [closing, List.append_nil]
      rfl

/-! ## The stream -/

/-- A visit makes engines for its own configuration alone. -/
theorem Visited.concerns {configuration : Configuration} {number : Nat}
    {result : Except Failure Status} {events : List Event}
    (h : bench.Visited configuration number result events) :
    ∀ event ∈ events, event.concerns configuration := by
  have hrecords {told : List Event} (htold : ∀ event ∈ told, event.isRecord) :
      ∀ event ∈ told, event.concerns configuration := fun event hevent =>
    Event.concerns_of_continues (Event.continues_of_records htold configuration event hevent)
  have hdrops {number : Nat} {stage : Stage} {dropped : List Event}
      (hdropped : Session.Dropped number stage dropped) :
      ∀ event ∈ dropped, event.concerns configuration := fun event hevent =>
    Event.concerns_of_continues (hdropped.continues configuration event hevent)
  have htrials {left index number last : Nat} {geometry : Geometry}
      {result : Except Failure (Except Status Unit)} {stage : Stage} {ran : List Event}
      (hran : bench.TrialsRan configuration left index number geometry result last stage ran) :
      ∀ event ∈ ran, event.concerns configuration := fun event hevent =>
    Event.concerns_of_continues (hran.continues event hevent)
  have hweighs {geometry : Geometry} {result : Except Failure Unit} {weighed : List Event}
      (hweighed : bench.Weighed number geometry result weighed) :
      ∀ event ∈ weighed, event.concerns configuration := by
    cases hweighed <;> simp [Event.concerns]
  have hcreated (outcome : Except Failure Geometry) :
      Event.concerns configuration (.created configuration outcome) := decide_eq_true rfl
  cases h with
  | unmade htold => exact List.forall_mem_cons.2 ⟨hcreated _, hrecords htold.isRecord⟩
  | turnedAway _ hweighed hreleased htold =>
    simp only [List.forall_mem_cons, List.forall_mem_append]
    exact ⟨hcreated _, hweighs hweighed, hdrops hreleased, hrecords htold.isRecord⟩
  | uncounted _ hweighed _ hdropped =>
    simp only [List.forall_mem_cons, List.forall_mem_append]
    exact ⟨hcreated _, hweighs hweighed, hdrops hdropped⟩
  | stopped _ hweighed hran hdropped =>
    simp only [List.forall_mem_cons, List.forall_mem_append]
    exact ⟨hcreated _, hweighs hweighed, htrials hran, hdrops hdropped⟩
  | measured _ hweighed hran hjudged hdropped =>
    simp only [List.forall_mem_cons, List.forall_mem_append]
    exact ⟨hcreated _, hweighs hweighed, htrials hran, hrecords hjudged.isRecord, hdrops hdropped⟩

theorem visit_concerns (bench : Bench (StateM σ)) (configuration : Configuration) (alone : σ) :
    ∀ event ∈ (bench.visit configuration alone).2, event.concerns configuration := by
  have hends : Ends (bench.watched.runConfiguration configuration).run []
      (bench.Visited configuration 0) := ends_runConfiguration rfl
  obtain ⟨events, htrace, hvisited⟩ := hends alone
  intro event hevent
  obtain ⟨original, horiginal, rfl⟩ := List.mem_map.1 hevent
  have hmem : original ∈ [] ++ events := htrace ▸ horiginal
  have hconcerns := hvisited.concerns original hmem
  cases original <;> exact hconcerns

/-- The stream of a visit that the journal takes is that of its records. -/
theorem filter_visit (hsteady : bench.Steady possible) (configuration : Configuration) {alone : σ}
    (halone : possible alone) :
    (bench.visit configuration alone).2.filter Event.isJournal =
      (Event.records (bench.visit configuration alone).2).map (.recorded · (.ok ())) :=
  Event.filter_isJournal (visit_isVisiting hsteady configuration halone)

/-- The stream of the visits to some configurations. -/
theorem filter_visits (hsteady : bench.Steady possible) {alone : Configuration → σ}
    (halone : ∀ configuration, possible (alone configuration)) (configurations : List Configuration) :
    (configurations.flatMap fun configuration =>
        (bench.visit configuration (alone configuration)).2).filter Event.isJournal =
      (configurations.flatMap fun configuration =>
        Event.records (bench.visit configuration (alone configuration)).2).map
          (.recorded · (.ok ())) := by
  rw [List.filter_flatMap, List.map_flatMap]
  exact List.flatMap_congr fun configuration _ =>
    filter_visit hsteady configuration (halone configuration)

/-- A run whose events are those of some visits makes engines for what was visited. -/
theorem mem_of_created {alone : Configuration → σ} {events : List Event}
    {capabilities : Capabilities} {started : String} {configurations : List Configuration}
    (h : events.map Event.plain = bench.opening capabilities started (.ok ()) ++
      configurations.flatMap fun configuration =>
        (bench.visit configuration (alone configuration)).2)
    {made : Configuration} {outcome : Except Failure Geometry}
    (hmade : .created made outcome ∈ events) : made ∈ configurations := by
  have hmem : Event.created made outcome ∈ events.map Event.plain :=
    List.mem_map.2 ⟨_, hmade, rfl⟩
  rw [h, List.mem_append] at hmem
  obtain hopening | hvisits := hmem
  -- nothing is made before the first configuration
  · simp [opening] at hopening
  · obtain ⟨visited, hvisited, hcreated⟩ := List.mem_flatMap.1 hvisits
    have hconcerns := visit_concerns bench visited (alone visited) _ hcreated
    rw [of_decide_eq_true hconcerns]
    exact hvisited

/-- The stream of a run whose events are those of some visits. -/
theorem stream_eq (hsteady : bench.Steady possible) {alone : Configuration → σ}
    (halone : ∀ configuration, possible (alone configuration)) {events : List Event}
    {capabilities : Capabilities} {started : String} {configurations : List Configuration}
    {result : Except Failure Tally}
    (h : events.map Event.plain = bench.opening capabilities started (.ok ()) ++
      ((configurations.flatMap fun configuration =>
        (bench.visit configuration (alone configuration)).2) ++ closing result)) :
    ∃ header, Event.stream events = .started header (.ok ()) ::
      ((configurations.flatMap fun configuration =>
        Event.records (bench.visit configuration (alone configuration)).2).map
          (.recorded · (.ok ())) ++ closing result) := by
  have hopening : (bench.opening capabilities started (.ok ())).filter Event.isJournal =
      [.started ⟨bench.platform.title, capabilities.description, bench.platform.stopwatchName,
        started⟩ (.ok ())] := rfl
  have hclosing : (closing result).filter Event.isJournal = closing result := by
    cases result <;> rfl
  have hstream := congrArg (List.filter Event.isJournal) h
  rw [List.filter_append, List.filter_append, filter_visits hsteady halone, hopening, hclosing]
    at hstream
  exact ⟨_, hstream⟩

/-- **The stream of a run.** On a bench where all answers about a configuration depend on that
configuration alone and whose journal takes everything, from any world that is possible, and with
configurations run on their own in any such worlds:

* a campaign that is refused leaves nothing;
* a run that comes to a tally has started the journal once, given it what the configurations leave on
  their own, in the order of the grid and but for times, and finished it once. The tally counts every
  configuration of the grid, and agrees with the statuses of the records;
* if a configuration fails on its own, the first that does so ends the run with its failure. Nothing
  is left of the configurations behind it, no engine is made for them, and the journal is not
  finished;
* if none does, the run comes to a tally. -/
theorem run_stream (bench : Bench (StateM σ)) (hsteady : bench.Steady possible) {world : σ}
    (hworld : possible world) {alone : Configuration → σ}
    (halone : ∀ configuration, possible (alone configuration)) :
    let result := ((bench.watched.run.run.run []).run world).1.1
    let events := ((bench.watched.run.run.run []).run world).1.2
    let visit := fun configuration => bench.visit configuration (alone configuration)
    let recorded := fun configurations : List Configuration =>
      (configurations.flatMap fun configuration => Event.records (visit configuration).2).map
        fun entry => Event.recorded entry (.ok ())
    let campaign := bench.campaign
    (∀ failure, campaign.check = .error failure → result = .error failure ∧ events = []) ∧
      (∀ tally, result = .ok tally →
        (∃ header, Event.stream events =
          .started header (.ok ()) :: (recorded campaign.configurations ++ [.finished (.ok ())])) ∧
        campaign.configurations.length = campaign.kinds.length * campaign.placements.length *
          campaign.precisions.length * campaign.extents.length ∧
        campaign.configurations.length = tally.ok + tally.skipped + tally.failed ∧
        tally.skipped = (Event.records events).countP (·.status = .skipped) ∧
        tally.failed = (Event.records events).countP (·.status = .failed) ∧
        (campaign.validate = true → tally.ok = (Event.records events).countP fun entry =>
          entry.status = .ok ∧ entry.phase = .validate)) ∧
      (campaign.check = .ok () →
        (∃ configuration ∈ campaign.configurations, ∃ failure,
          (visit configuration).1 = .error failure) →
        ∃ before configuration after failure,
          campaign.configurations = before ++ configuration :: after ∧
          (∀ earlier ∈ before, ∃ status, (visit earlier).1 = .ok status) ∧
          (visit configuration).1 = .error failure ∧
          result = .error failure ∧
          (∃ header, Event.stream events =
            .started header (.ok ()) :: recorded (before ++ [configuration])) ∧
          (∃ capabilities started, events.map Event.plain =
            bench.opening capabilities started (.ok ()) ++
              (before ++ [configuration]).flatMap fun visited => (visit visited).2) ∧
          ∀ made outcome, .created made outcome ∈ events → made ∈ before ++ [configuration]) ∧
      (campaign.check = .ok () →
        (∀ configuration ∈ campaign.configurations, ∃ status, (visit configuration).1 = .ok status) →
        ∃ tally, result = .ok tally) := by
  intro result events visit recorded campaign
  obtain ⟨-, added, htrace, hleft⟩ := leaves_run hsteady halone [] world hworld
  rw [List.nil_append] at htrace
  rw [← htrace] at hleft
  cases hcheck : bench.campaign.check with
  | error failure =>
    rw [hcheck] at hleft
    obtain ⟨hresult, hnone⟩ := hleft
    refine ⟨?_, ?_, nofun, nofun⟩
    · rintro _ ⟨⟩
      exact ⟨hresult, List.map_eq_nil_iff.1 hnone⟩
    · intro tally hok
      cases hresult.symm.trans hok
  | ok _ =>
    rw [hcheck] at hleft
    obtain ⟨capabilities, started, collected, hcollected, hresult, hplain⟩ := hleft
    -- either all configurations come to a status, or there is a first that does not
    by_cases hall : ∀ configuration ∈ bench.campaign.configurations, ∃ status,
        (visit configuration).1 = .ok status
    · obtain ⟨final, hfinal⟩ := collect_of_ok hall .empty
      rw [hcollected, hfinal] at hresult hplain
      refine ⟨nofun, fun tally hok => ?_, ?_, fun _ _ => ⟨final, hresult⟩⟩
      · refine ⟨stream_eq hsteady halone hplain, ?_, counts_of_run bench world hok⟩
        rw [Campaign.length_configurations, Nat.mul_assoc, Nat.mul_assoc]
      · rintro - ⟨configuration, hconfiguration, failure, hfailure⟩
        obtain ⟨status, hstatus⟩ := hall configuration hconfiguration
        cases hstatus.symm.trans hfailure
    · have hexists : ∃ configuration ∈ bench.campaign.configurations, ∃ failure,
          (visit configuration).1 = .error failure := by
        obtain ⟨configuration, hconfiguration, hnone⟩ := not_forall₂.1 hall
        cases hvisit : (visit configuration).1 with
        | ok status => exact absurd ⟨status, hvisit⟩ hnone
        | error failure => exact ⟨configuration, hconfiguration, failure, hvisit⟩
      obtain ⟨before, configuration, after, failure, hsplit, hbefore, hfailure⟩ :=
        exists_first_error hexists
      have herror : collect visit (before ++ configuration :: after) .empty = _ :=
        collect_of_error hbefore hfailure .empty
      rw [hcollected, hsplit, herror] at hresult hplain
      refine ⟨nofun, fun tally hok => ?_, fun _ _ => ?_, fun _ hevery => absurd hevery hall⟩
      · cases hresult.symm.trans hok
      · obtain ⟨header, hstream⟩ := stream_eq hsteady halone hplain
        rw [closing, List.append_nil] at hstream hplain
        refine ⟨before, configuration, after, failure, hsplit, hbefore, hfailure, hresult,
          ⟨header, hstream⟩, ⟨capabilities, started, hplain⟩, fun made outcome hmade => ?_⟩
        exact mem_of_created hplain hmade

end Bench

/-- The bytes that a device holds, with a clock that goes on whenever it is read. -/
structure Store where
  ticks : Nat
  bytes : Array UInt8

namespace Store

def tick : StateM Store Nat := do
  let store ← get
  set { store with ticks := store.ticks + 1 }
  return store.ticks

def keep (bytes : Array UInt8) : StateM Store Unit :=
  modify fun store => { store with bytes }

/-- Whether two stores hold the same, whatever the time is. -/
def Same (store store' : Store) : Prop :=
  store.bytes = store'.bytes

end Store

/-- An engine that gives back what it was given. -/
def Engine.storing (geometry : Geometry) : Engine (StateM Store) where
  geometry
  stopwatch :=
    { name := "ticks", start := fun _ => liftM Store.tick, stop := fun _ => pure ()
      elapsed := fun mark => (fun now => ⟨now - mark⟩) <$> liftM Store.tick }
  planEstimate := pure 0
  allocate := liftM (Store.keep #[])
  planForward := pure ()
  planInverse := pure ()
  upload host := liftM (Store.keep host)
  executeForward := pure ()
  executeInverse := pure ()
  download := fun {size} _ => ExceptT.mk do
    let store ← get
    return if h : store.bytes.size = size then .ok ⟨store.bytes, h⟩
      else .error (.transferSize "download" size store.bytes.size)
  destroy := liftM (Store.keep #[])

/-- A bench whose engines give back what they were given, without half precision. -/
def Bench.storing (campaign : Campaign) : Bench (StateM Store) where
  env := { log := fun _ => pure (), clock := Store.tick, date := (toString ·) <$> Store.tick }
  platform :=
    { title := "storing", stopwatchName := "ticks", normalizes := true
      reuse := fun _ => .notReusable
      capabilities := pure { supportsHalf := false, availableBytes := 4096, description := "store" }
      hostBytes := pure 4096
      createEngine := fun configuration => ExceptT.mk do
        Store.keep #[]
        return match configuration.precision with
          | .half => .error (.unsupportedPrecision .half "store")
          | _ => configuration.geometry.map Engine.storing
      destroy := pure () }
  campaign
  journal := { start := fun _ => pure (), record := fun _ => pure (), finish := pure () }

namespace Bench

/-- Two engines that store the same bytes cannot be told apart. -/
theorem alike_storing (geometry : Geometry) :
    Engine.Alike Store.Same (Engine.storing geometry) (Engine.storing geometry) where
  geometry_eq := rfl
  start _ _ _ h := ⟨.ok trivial, h⟩
  stop _ _ _ _ h := ⟨.ok trivial, h⟩
  elapsed _ _ _ _ h := ⟨.ok trivial, h⟩
  planEstimate _ _ h := ⟨rfl, h⟩
  allocate _ _ _ := ⟨rfl, rfl⟩
  planForward _ _ h := ⟨rfl, h⟩
  planInverse _ _ h := ⟨rfl, h⟩
  upload _ _ _ _ := ⟨rfl, rfl⟩
  executeForward _ _ h := ⟨rfl, h⟩
  executeInverse _ _ h := ⟨rfl, h⟩
  download _ := by
    rintro ⟨_, bytes⟩ ⟨_, _⟩ rfl
    exact ⟨rfl, rfl⟩
  destroy _ _ _ := ⟨rfl, rfl⟩

theorem apart_storing (campaign : Campaign) : (storing campaign).Apart (fun _ => True) Store.Same where
  possible_of _ _ _ := ⟨trivial, trivial⟩
  log _ _ _ _ h := ⟨trivial, h⟩
  clock _ _ h := ⟨trivial, h⟩
  record _ _ _ _ h := ⟨trivial, h⟩
  capabilities _ _ h := ⟨rfl, h⟩
  hostBytes _ _ h := ⟨rfl, h⟩

/-- All answers of the bench depend on the configuration alone. -/
theorem steady_storing (campaign : Campaign) : (storing campaign).Steady fun _ => True where
  create configuration world world' _ := by
    have hmade (outcome : Except Failure Geometry) :
        (storing campaign).MadeAlike (fun _ => True) (outcome.map Engine.storing)
          { world with bytes := #[] } (outcome.map Engine.storing) { world' with bytes := #[] } := by
      cases outcome with
      | ok geometry => exact .made Store.Same rfl (apart_storing campaign) (alike_storing geometry)
      | error failure => exact .refused failure ⟨trivial, trivial⟩
    obtain ⟨kind, placement, precision, extent⟩ := configuration
    cases precision with
    | half => exact .refused _ ⟨trivial, trivial⟩
    | single => exact hmade _
    | double => exact hmade _
  aside := ⟨fun _ _ h => h, fun _ _ _ _ h => ⟨trivial, h⟩, fun _ _ h => ⟨trivial, h⟩,
    fun _ _ _ _ h => ⟨trivial, h⟩⟩
  capabilities _ _ h := ⟨trivial, h⟩
  date _ _ h := ⟨trivial, h⟩
  start _ _ _ h := ⟨trivial, h⟩
  finish _ _ h := ⟨trivial, h⟩
  start_eq_ok _ _ _ := rfl
  record_eq_ok _ _ _ := rfl
  finish_eq_ok _ _ := rfl

/-- A grid of two configurations, the first of which is skipped, in a store that has been used before;
on their own they are run in stores of other times with other bytes. -/
theorem run_stream_storing :
    let campaign := { Campaign.standard with
      extents := [⟨[2], by decide, by decide, by simp⟩], kinds := [.complex], placements := [.inPlace]
      precisions := [.half, .single], runs := 1 }
    let events := (((storing campaign).watched.run.run.run []).run ⟨3, #[1]⟩).1.2
    (∃ header, Event.stream events = .started header (.ok ()) ::
      ((campaign.configurations.flatMap fun configuration =>
        Event.records ((storing campaign).visit configuration ⟨7, #[2, 2]⟩).2).map
          (.recorded · (.ok ())) ++ [.finished (.ok ())])) ∧
      (Event.records events).countP (·.status = .skipped) = 1 := by
  intro campaign events
  have hresult : (((storing campaign).watched.run.run.run []).run ⟨3, #[1]⟩).1.1 = .ok ⟨1, 1, 0⟩ := by
    decide +kernel
  obtain ⟨-, hok, -⟩ := @run_stream Store (fun _ => True) (storing campaign)
    (steady_storing campaign) ⟨3, #[1]⟩ trivial (fun _ => ⟨7, #[2, 2]⟩) fun _ => trivial
  obtain ⟨hstream, -, -, hskipped, -⟩ := hok _ hresult
  exact ⟨hstream, hskipped.symm⟩

end Bench

end SpectralBench
