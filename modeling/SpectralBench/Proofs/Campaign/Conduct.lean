import SpectralBench.Proofs.Campaign.Lifetime
import Mathlib.Data.List.Infix

/-!
# The conduct of a run

A session refuses what its stage does not allow, and a refusal is a failure like any other. A run
never meets one: it asks for nothing that would be refused.

There are two places where a refusal would show. A refused estimate, a refused rearming or a
refused first step would end the run with a violation that nothing around it has caused; but every
violation that a run returns is the failure of something that it called (`Bench.Ran.traced`). Any
other refused step would stand behind a step that succeeded, and no call of it would reach the
engine; but what follows a step that succeeded is always a call of the next one
(`Bench.Ran.unbroken`). A release is never refused.

Main statements:

* `Bench.TrialRan.unbroken` — the steps of a trial, whatever its kind, leave no gap.
* `Bench.run_conduct` — where violations come from, and that no step is refused, over a whole run.
-/

namespace SpectralBench

/-- Whether a failure is a call that the stage of a session does not allow. -/
def Failure.isViolation : Failure → Bool
  | .invalidTransition .. => true
  | _ => false

/-- The failure that an event ended with. -/
def Event.failure? : Event → Option Failure
  | .created _ (.error failure) => some failure
  | .estimated _ (.error failure) => some failure
  | .called _ _ (.error failure) => some failure
  | .started _ (.error failure) => some failure
  | .recorded _ (.error failure) => some failure
  | .finished (.error failure) => some failure
  | _ => none

/-- What engines, platform and journal failed with, in order. -/
def Event.failures (events : List Event) : List Failure :=
  events.filterMap failure?

@[simp]
theorem Event.failures_append (events later : List Event) :
    failures (events ++ later) = failures events ++ failures later :=
  List.filterMap_append

/-- The geometries of the engines that were made, in the order of their numbers. -/
def Event.geometries (events : List Event) : List Geometry :=
  events.filterMap fun
    | .created _ (.ok geometry) => some geometry
    | _ => none

@[simp]
theorem Event.geometries_append (events later : List Event) :
    geometries (events ++ later) = geometries events ++ geometries later :=
  List.filterMap_append

/-- Every engine that was made has its geometry among the events. -/
theorem Event.length_geometries (events : List Event) :
    (geometries events).length = (engines events).length := by
  induction events with
  | nil => rfl
  | cons event rest ih =>
    rw [← List.singleton_append, geometries_append, engines_append, List.length_append,
      List.length_append, ih]
    congr 1
    cases event with
    | created _ outcome => cases outcome <;> rfl
    | _ => rfl

/-- The kind of the engine with a number. -/
def Event.kinds (events : List Event) (number : Nat) : Option Kind :=
  (geometries events)[number]?.map (·.kind)

/-! ## Where violations come from -/

/-- A violation is the failure of one of the events. -/
def Event.Explain (events : List Event) (failure : Failure) : Prop :=
  failure.isViolation → failure ∈ failures events

/-- A result that is a violation is the failure of one of the events. -/
def Traced {α : Type} (result : Except Failure α) (events : List Event) : Prop :=
  ∀ failure, result = .error failure → Event.Explain events failure

/-- What explains a failure still does so behind other events. -/
theorem Event.Explain.append_left {events : List Event} {failure : Failure}
    (h : Explain events failure) (before : List Event) : Explain (before ++ events) failure := by
  intro hviolation
  rw [failures_append]
  exact List.mem_append_right _ (h hviolation)

/-- And before other events. -/
theorem Event.Explain.append_right {events : List Event} {failure : Failure}
    (h : Explain events failure) (later : List Event) : Explain (events ++ later) failure := by
  intro hviolation
  rw [failures_append]
  exact List.mem_append_left _ (h hviolation)

namespace Traced

variable {α β : Type} {result : Except Failure α} {events : List Event}

theorem ok (a : α) (events : List Event) : Traced (.ok a : Except Failure α) events :=
  fun _ h => nomatch h

/-- A failure that the events explain. -/
theorem error {failure : Failure} (h : Event.Explain events failure) :
    Traced (.error failure : Except Failure α) events := by
  rintro _ ⟨⟩
  exact h

theorem map (h : Traced result events) (f : α → β) : Traced (result.map f) events := by
  cases result with
  | ok a => exact ok (f a) events
  | error failure => exact error (h failure rfl)

/-- What is made of a result does not touch its failures. -/
theorem of_map {f : α → β} (h : Traced (result.map f) events) : Traced result events := by
  cases result with
  | ok a => exact ok a events
  | error failure => exact error (h failure rfl)

theorem append_left (h : Traced result events) (before : List Event) :
    Traced result (before ++ events) :=
  fun failure hfailure => (h failure hfailure).append_left before

theorem append_right (h : Traced result events) (later : List Event) :
    Traced result (events ++ later) :=
  fun failure hfailure => (h failure hfailure).append_right later

end Traced

/-- The only failure of a row of records is that of the last of them. -/
theorem Written.traced {entries : List Record} {result : Except Failure Unit} {events : List Event}
    (h : Written entries result events) : Traced result events := by
  induction h with
  | nil => exact .ok () []
  | cons entry _ ih => exact ih.append_left [.recorded entry (.ok ())]
  | refused => exact .error fun _ => List.mem_singleton.2 rfl

/-! Measuring a deviation and checking a campaign make no calls, so they can violate nothing. -/

theorem Geometry.not_isViolation_of_checkTransfer {g : Geometry} {operation : String} {actual : Nat}
    {failure : Failure} (h : g.checkTransfer operation actual = .error failure) :
    failure.isViolation = false := by
  unfold checkTransfer at h
  split at h
  · cases h
  · cases h
    rfl

/-- No deviation fails with a violation: buffers are of the wrong size, or empty. -/
theorem Geometry.not_isViolation_of_deviation {g : Geometry} {input output : Array UInt8}
    {normalized : Bool} {failure : Failure}
    (h : g.deviation input output normalized = .error failure) : failure.isViolation = false := by
  unfold deviation at h
  cases hinput : g.checkTransfer "validate" input.size with
  | error refusal =>
    rw [hinput] at h
    cases h
    exact not_isViolation_of_checkTransfer hinput
  | ok =>
    cases houtput : g.checkTransfer "validate" output.size with
    | error refusal =>
      rw [hinput, houtput] at h
      cases h
      exact not_isViolation_of_checkTransfer houtput
    | ok =>
      rw [hinput, houtput] at h
      change (if _ then _ else _ : Except Failure Deviation) = _ at h
      split at h
      · cases h
        rfl
      · cases h

theorem Limits.not_isViolation_of_validate {limits : Limits} {failure : Failure}
    (h : limits.validate = .error failure) : failure.isViolation = false := by
  unfold validate at h
  split at h
  · cases h
    rfl
  · split at h
    · cases h
      rfl
    · split at h
      · cases h
        rfl
      · cases h

/-- A campaign that is refused is misconfigured, which is no violation either. -/
theorem Campaign.not_isViolation_of_check {campaign : Campaign} {failure : Failure}
    (h : campaign.check = .error failure) : failure.isViolation = false := by
  unfold check at h
  split at h
  · cases h
    rfl
  · split at h
    · cases h
      rfl
    · split at h
      · cases h
        rfl
      · exact Limits.not_isViolation_of_validate h

theorem Campaign.not_isViolation_of_trials {campaign : Campaign} {arithmetic : Word.Arithmetic}
    {failure : Failure} (h : campaign.trials arithmetic = .error failure) :
    failure.isViolation = false := by
  rw [(trials_eq_error_iff.1 h).1]
  rfl

namespace Bench

variable {σ : Type} {bench : Bench (StateM σ)} {configuration : Configuration} {number : Nat}

/-- A failure that is sorted has been met before, and the journal may add its own. -/
theorem Classified.traced {phase : Phase} {trial : Trial} {failure : Failure}
    {result : Except Failure Status} {before events : List Event}
    (h : bench.Classified configuration phase trial failure result events)
    (hfailure : Event.Explain before failure) : Traced result (before ++ events) := by
  cases h with
  | aborted => exact .error (hfailure.append_right [])
  | reported _ hwritten => exact (hwritten.traced.map _).append_left before

/-- A trial fails as a step or a record of it failed, and its release only leaves a note. -/
theorem TrialRan.traced {trial : Trial} {kind : Kind} {result : Except Failure (Except Status Unit)}
    {stage : Stage} {events : List Event}
    (h : bench.TrialRan configuration trial number kind result stage events) :
    Traced result events := by
  cases h with
  | completed _ hwritten => exact (hwritten.traced.map _).append_left _
  | failed _ _ _ htold =>
    -- the failure that is sorted is that of the step, which the records and the release follow
    rw [← List.append_assoc, ← List.append_assoc]
    have hcalled (events : List Event) (step : Step) (failure : Failure) :
        Event.Explain (events ++ [.called number step (.error failure)]) failure :=
      Event.Explain.append_left (fun _ => List.mem_singleton.2 rfl) events
    exact (htold.traced (((hcalled _ _ _).append_right _).append_right _)).map _
  | interrupted _ hwritten => exact Traced.append_left (.error (hwritten.traced _ rfl)) _

/-- Making a session ready fails only where the platform makes no engine; arming it again does
not. -/
theorem Readied.traced {index number' : Nat} {geometry geometry' : Geometry}
    {result : Except Failure Unit} {events : List Event}
    (h : bench.Readied configuration index number geometry result number' geometry' events) :
    Traced result events := by
  cases h with
  | unavailable => exact .error fun _ => List.mem_singleton.2 rfl
  | _ => exact .ok () _

/-- **A row of trials is traced**: by induction on the trials, of which each is ready and then
runs. -/
theorem TrialsRan.traced {left index last : Nat} {geometry : Geometry}
    {result : Except Failure (Except Status Unit)} {stage : Stage} {events : List Event}
    (h : bench.TrialsRan configuration left index number geometry result last stage events) :
    Traced result events := by
  induction h with
  | finished => exact .ok _ []
  | unready hready htold => exact (htold.traced (hready.traced _ rfl)).map _
  | stopped _ hran => exact hran.traced.append_left _
  | next _ _ _ ih => exact (ih.append_left _).append_left _

/-- Too little memory is no violation. -/
theorem Weighed.traced {geometry : Geometry} {result : Except Failure Unit} {events : List Event}
    (h : bench.Weighed number geometry result events) : Traced result events := by
  cases h with
  | unknown => exact .error fun _ => List.mem_singleton.2 rfl
  | short => exact .error nofun
  | admitted => exact .ok () _

/-- Judging a result fails as its record does. -/
theorem Judged.traced {geometry : Geometry} {result : Except Failure Status} {events : List Event}
    (h : bench.Judged configuration geometry result events) : Traced result events := by
  cases h with
  | unasked => exact .ok _ []
  | unmeasured _ _ hdeviation =>
    refine .error fun hviolation => ?_
    rw [Geometry.not_isViolation_of_deviation hdeviation] at hviolation
    cases hviolation
  | judged _ _ _ _ hwritten => exact hwritten.traced.map _

/-- **A visit is traced**, wherever it ends. -/
theorem Visited.traced {result : Except Failure Status} {events : List Event}
    (h : bench.Visited configuration number result events) : Traced result events := by
  cases h with
  | @unmade failure _ _ htold =>
    -- what is sorted is the failure of the platform
    have hcreated : Event.Explain [.created configuration (.error failure)] failure :=
      fun _ => List.mem_singleton.2 rfl
    exact htold.traced hcreated
  | turnedAway _ hweighed _ htold =>
    rw [← List.append_assoc]
    exact (htold.traced ((hweighed.traced _ rfl).append_right _)).append_left [_]
  | uncounted _ _ htrials =>
    -- a number of trials that does not fit stops the program, and is no violation
    refine .error fun hviolation => ?_
    rw [Campaign.not_isViolation_of_trials htrials] at hviolation
    cases hviolation
  | stopped _ _ hran =>
    exact ((hran.traced.of_map.append_right _).append_left _).append_left [_]
  | measured _ _ _ hjudged =>
    exact (((hjudged.traced.append_right _).append_left _).append_left _).append_left [_]

/-- The visits of a grid are traced one by one, up to the first that fails. -/
theorem GridRan.traced {configurations : List Configuration} {tally : Tally}
    {result : Except Failure Tally} {events : List Event}
    (h : bench.GridRan configurations number tally result events) : Traced result events := by
  induction h with
  | finished => exact .ok _ []
  | stopped hvisit => exact .error (hvisit.traced _ rfl)
  | next _ _ ih => exact ih.append_left _

/-- **A run is traced.** -/
theorem Ran.traced {result : Except Failure Tally} {events : List Event}
    (h : bench.Ran result events) : Traced result events := by
  cases h with
  | misconfigured hcheck =>
    refine .error fun hviolation => ?_
    rw [Campaign.not_isViolation_of_check hcheck] at hviolation
    cases hviolation
  | unstarted => exact .error fun _ => List.mem_singleton.2 rfl
  | stopped _ _ _ hgrid => exact hgrid.traced.append_left _
  | finished _ _ outcome =>
    have houtcome : Traced outcome [.finished outcome] := by
      cases outcome with
      | ok => exact .ok () _
      | error => exact .error fun _ => List.mem_singleton.2 rfl
    exact ((houtcome.map _).append_left _).append_left _

end Bench

/-! ## No step is refused -/

/-- Whether an event is a step that succeeded and that another step has to follow. -/
def Event.isPending : Event → Bool
  | .called _ step (.ok ()) => step ≠ .destroy
  | _ => false

/-- Every step that succeeds is followed at once by a call of the next one, on the same engine and
in the order of the engine's kind, until the engine is released. -/
def Event.Unbroken (kinds : Nat → Option Kind) (events : List Event) : Prop :=
  ∀ earlier number step later, events = earlier ++ .called number step (.ok ()) :: later →
    step ≠ .destroy →
    ∃ kind next outcome rest, kinds number = some kind ∧ [step, next] <:+: Step.sequence kind ∧
      later = .called number next outcome :: rest

/-- The engines that are made among the events have the kinds that are given for their numbers, from
`first` on. -/
def Event.Agree (kinds : Nat → Option Kind) (first : Nat) (events : List Event) : Prop :=
  ∀ (i : Nat) (geometry : Geometry), (geometries events)[i]? = some geometry →
    kinds (first + i) = some geometry.kind

namespace Event

variable {kinds : Nat → Option Kind} {events later : List Event} {first : Nat}

/-- Kinds that agree with all events agree with the first of them. -/
theorem Agree.left (h : Agree kinds first (events ++ later)) : Agree kinds first events := by
  intro i geometry hget
  refine h i geometry ?_
  have hlt : i < (geometries events).length := (List.getElem?_eq_some_iff.1 hget).1
  rw [geometries_append, List.getElem?_append_left hlt]
  exact hget

/-- And with the others, which make their engines after those of the first. -/
theorem Agree.right (h : Agree kinds first (events ++ later)) :
    Agree kinds (first + (engines events).length) later := by
  intro i geometry hget
  rw [Nat.add_assoc]
  refine h _ geometry ?_
  rw [geometries_append, ← length_geometries, List.getElem?_append_right (Nat.le_add_right _ _),
    Nat.add_sub_cancel_left]
  exact hget

theorem not_isPending_of_isQuiet {event : Event} (h : event.isQuiet) : event.isPending = false := by
  cases event with
  | called => cases h
  | _ => rfl

namespace Unbroken

/-- Nothing has to follow across a border, as nothing is open where the first part ends. -/
theorem append (h : Unbroken kinds events) (hlater : Unbroken kinds later) :
    Unbroken kinds (events ++ later) := by
  intro earlier number step rest heq hstep
  obtain ⟨middle, rfl, hmiddle⟩ | ⟨middle, hevents, hmiddle⟩ := List.append_eq_append_iff.1 heq
  · exact hlater middle number step rest hmiddle hstep
  · cases middle with
    | nil => exact hlater [] number step rest hmiddle.symm hstep
    | cons event more =>
      obtain ⟨rfl, rfl⟩ := List.cons.inj hmiddle
      -- the step that follows is in the first part as well
      obtain ⟨kind, next, outcome, rest, hkind, hnext, rfl⟩ :=
        h earlier number step more hevents hstep
      exact ⟨kind, next, outcome, rest ++ later, hkind, hnext, rfl⟩

/-- Events of which none has to be followed leave no gap. -/
theorem of_forall (h : ∀ event ∈ events, event.isPending = false) : Unbroken kinds events := by
  rintro earlier number step later rfl hstep
  have hpending : decide (step ≠ .destroy) = false :=
    h (.called number step (.ok ())) (List.mem_append_right _ List.mem_cons_self)
  exact absurd hstep (of_decide_eq_false hpending)

theorem of_quiet (h : ∀ event ∈ events, event.isQuiet) : Unbroken kinds events :=
  of_forall fun event hevent => not_isPending_of_isQuiet (h event hevent)

/-- A step in front of the step that follows it. -/
theorem cons {number : Nat} {kind : Kind} {step next : Step} {outcome : Except Failure Unit}
    (hkind : kinds number = some kind) (hnext : [step, next] <:+: Step.sequence kind)
    (h : Unbroken kinds (.called number next outcome :: events)) :
    Unbroken kinds (.called number step (.ok ()) :: .called number next outcome :: events) := by
  intro earlier number' step' later heq hstep
  cases earlier with
  | nil =>
    obtain ⟨hcalled, rfl⟩ := List.cons.inj heq
    cases hcalled
    exact ⟨kind, next, outcome, events, hkind, hnext, rfl⟩
  | cons event earlier => exact h earlier number' step' later (List.cons.inj heq).2 hstep

/-- Steps that are consecutive in the sequence of the kind leave no gap, if nothing has to follow
the last of them. By induction on the steps before it. -/
theorem steps {number : Nat} {kind : Kind} (hkind : kinds number = some kind) {done : List Step}
    {step : Step} {outcome : Except Failure Unit} (hdone : done ++ [step] <:+: Step.sequence kind)
    (hlast : (Event.called number step outcome).isPending = false) :
    Unbroken kinds (calls number done ++ [.called number step outcome]) := by
  induction done with
  | nil => exact of_forall (List.forall_mem_singleton.2 hlast)
  | cons earlier done ih =>
    have hrest := ih ((List.suffix_cons earlier _).isInfix.trans hdone)
    cases done with
    | nil => exact cons hkind hdone hrest
    | cons next done =>
      have hpair : [earlier, next] <:+: Step.sequence kind :=
        (List.prefix_append [earlier, next] (done ++ [step])).isInfix.trans hdone
      exact cons hkind hpair hrest

end Unbroken

end Event

/-- A session that is dropped makes one call at most, and nothing has to follow a release. -/
theorem Session.Dropped.unbroken {kinds : Nat → Option Kind} {number : Nat} {stage : Stage}
    {events : List Event} (h : Dropped number stage events) : Event.Unbroken kinds events := by
  refine Event.Unbroken.of_forall ?_
  cases h with
  | idle => exact List.forall_mem_nil _
  | destroyed outcome =>
    refine List.forall_mem_singleton.2 ?_
    cases outcome <;> rfl

namespace Bench

variable {σ : Type} {bench : Bench (StateM σ)} {configuration : Configuration} {number : Nat}
  {kinds : Nat → Option Kind}

/-- **The steps of a trial leave no gap**, whatever its kind and wherever it ends. -/
theorem TrialRan.unbroken {trial : Trial} {kind : Kind}
    {result : Except Failure (Except Status Unit)} {stage : Stage} {events : List Event}
    (h : bench.TrialRan configuration trial number kind result stage events)
    (hkind : kinds number = some kind) : Event.Unbroken kinds events := by
  -- up to a step that failed, the steps are the first of the sequence
  have hfailed {done rest : List Step} {step : Step} (failure : Failure)
      (hsteps : Step.sequence kind = done ++ step :: rest) : Event.Unbroken kinds
        (Event.calls number done ++ [.called number step (.error failure)]) := by
    refine .steps hkind ?_ rfl
    rw [hsteps, List.append_cons done step rest]
    exact (List.prefix_append _ rest).isInfix
  cases h with
  | completed _ hwritten =>
    obtain ⟨middle, hsequence, -⟩ := Step.sequence_eq kind
    have hcalls : Event.Unbroken kinds (Event.calls number (.allocate :: middle) ++
        [.called number .destroy (.ok ())]) := by
      refine .steps hkind ?_ rfl
      rw [hsequence]
      exact List.infix_rfl
    rw [hsequence, ← List.cons_append, Event.calls, List.map_append]
    exact hcalls.append (.of_quiet hwritten.quiet)
  | failed hsteps hwritten hreleased htold =>
    exact (hfailed _ hsteps).append
      ((Event.Unbroken.of_quiet hwritten.quiet).append
        (hreleased.unbroken.append (.of_quiet htold.quiet)))
  | interrupted hsteps hwritten => exact (hfailed _ hsteps).append (.of_quiet hwritten.quiet)

/-- No step is taken to make a session ready. -/
theorem Readied.unbroken {index number' : Nat} {geometry geometry' : Geometry}
    {result : Except Failure Unit} {events : List Event}
    (h : bench.Readied configuration index number geometry result number' geometry' events) :
    Event.Unbroken kinds events := by
  refine .of_forall ?_
  cases h with
  | first => exact List.forall_mem_nil _
  | rearmed => exact List.forall_mem_nil _
  | renewed => exact List.forall_mem_singleton.2 rfl
  | unavailable => exact List.forall_mem_singleton.2 rfl

/-- The kind of the engine that a trial uses is given, whether the engine is a new one or not. -/
theorem Readied.kinds_eq {index number' : Nat} {geometry geometry' : Geometry}
    {result : Except Failure Unit} {events : List Event}
    (h : bench.Readied configuration index number geometry result number' geometry' events)
    (hkind : kinds number = some geometry.kind) (hagree : Event.Agree kinds (number + 1) events) :
    kinds number' = some geometry'.kind := by
  cases h with
  | renewed => exact hagree 0 geometry' rfl
  | _ => exact hkind

/-- **A row of trials leaves no gap**: by induction on the trials, with the engine that each is run
on. -/
theorem TrialsRan.unbroken {left index last : Nat} {geometry : Geometry}
    {result : Except Failure (Except Status Unit)} {stage : Stage} {events : List Event}
    (h : bench.TrialsRan configuration left index number geometry result last stage events) :
    kinds number = some geometry.kind → Event.Agree kinds (number + 1) events →
      Event.Unbroken kinds events := by
  induction h with
  | finished =>
    intro _ _
    exact .of_forall (List.forall_mem_nil _)
  | unready hready htold =>
    intro _ _
    exact hready.unbroken.append (.of_quiet htold.quiet)
  | stopped hready hran =>
    -- the engine that the trial stopped on may be the one that was made for it
    intro hkind hagree
    exact hready.unbroken.append (hran.unbroken (hready.kinds_eq hkind hagree.left))
  | @next left index number number' _ _ _ _ _ _ ready ran later hready hran _ ih =>
    intro hkind hagree
    have hkind' := hready.kinds_eq hkind hagree.left
    -- the trial makes no engine, so the next ones are numbered from the engine in use
    have hlater : Event.Agree kinds (number' + 1) later := by
      have hright := hagree.right.right
      rw [hran.engines, List.length_nil, Nat.add_zero, Nat.add_right_comm, hready.engines] at hright
      exact hright
    exact hready.unbroken.append ((hran.unbroken hkind').append (ih hkind' hlater))

theorem Weighed.unbroken {geometry : Geometry} {result : Except Failure Unit} {events : List Event}
    (h : bench.Weighed number geometry result events) : Event.Unbroken kinds events := by
  refine .of_forall ?_
  cases h <;> simp [Event.isPending]

/-- Behind the engine that is admitted, the next ones are numbered from the one after it. -/
theorem Weighed.agree {geometry : Geometry} {weighed ran rest : List Event}
    (h : bench.Weighed number geometry (.ok ()) weighed)
    (hagree : Event.Agree kinds number
      ([.created configuration (.ok geometry)] ++ (weighed ++ (ran ++ rest)))) :
    Event.Agree kinds (number + 1) ran := by
  have hran := hagree.right.right.left
  rw [h.engines] at hran
  exact hran

/-- **A visit leaves no gap**, wherever it ends. -/
theorem Visited.unbroken {result : Except Failure Status} {events : List Event}
    (h : bench.Visited configuration number result events)
    (hagree : Event.Agree kinds number events) : Event.Unbroken kinds events := by
  have hcreated (outcome : Except Failure Geometry) :
      Event.Unbroken kinds [.created configuration outcome] :=
    .of_forall (List.forall_mem_singleton.2 rfl)
  cases h with
  | unmade htold => exact (hcreated _).append (.of_quiet htold.quiet)
  | turnedAway _ hweighed hreleased htold =>
    exact (hcreated _).append
      (hweighed.unbroken.append (hreleased.unbroken.append (.of_quiet htold.quiet)))
  | uncounted _ hweighed _ hdropped =>
    exact (hcreated _).append (hweighed.unbroken.append hdropped.unbroken)
  | stopped _ hweighed hran hdropped =>
    have hran' : Event.Unbroken kinds _ := hran.unbroken (hagree 0 _ rfl) (hweighed.agree hagree)
    exact (hcreated _).append (hweighed.unbroken.append (hran'.append hdropped.unbroken))
  | measured _ hweighed hran hjudged hdropped =>
    have hran' : Event.Unbroken kinds _ := hran.unbroken (hagree 0 _ rfl) (hweighed.agree hagree)
    exact (hcreated _).append (hweighed.unbroken.append (hran'.append
        ((Event.Unbroken.of_quiet hjudged.quiet).append hdropped.unbroken)))

/-- Nor do the visits of a grid, whose engines are numbered on from visit to visit. -/
theorem GridRan.unbroken {configurations : List Configuration} {tally : Tally}
    {result : Except Failure Tally} {events : List Event}
    (h : bench.GridRan configurations number tally result events) :
    Event.Agree kinds number events → Event.Unbroken kinds events := by
  induction h with
  | finished =>
    intro _
    exact .of_forall (List.forall_mem_nil _)
  | stopped hvisit => exact hvisit.unbroken
  | next hvisit _ ih =>
    intro hagree
    exact (hvisit.unbroken hagree.left).append (ih hagree.right)

/-- **A run leaves no gap.** -/
theorem Ran.unbroken {result : Except Failure Tally} {events : List Event}
    (h : bench.Ran result events) (hagree : Event.Agree kinds 0 events) :
    Event.Unbroken kinds events := by
  have hopening (capabilities : Capabilities) (started : String) (outcome : Except Failure Unit) :
      Event.Unbroken kinds (bench.opening capabilities started outcome) :=
    .of_quiet (quiet_opening capabilities started outcome)
  cases h with
  | misconfigured => exact .of_forall (List.forall_mem_nil _)
  | unstarted => exact hopening _ _ _
  | stopped _ _ _ hgrid => exact (hopening _ _ _).append (hgrid.unbroken hagree.right)
  | finished _ _ _ _ hgrid =>
    exact (hopening _ _ _).append ((hgrid.unbroken hagree.right.left).append
      (.of_forall (List.forall_mem_singleton.2 rfl)))

/-! ## The whole run -/

/-- **The conduct of a run.** However engines, platform and journal end their calls:

* a violation that the run returns is the failure of one of them, so if none of them ever fails with
  a violation, the run does not return any;
* every step that succeeds is followed at once by a call of the next step in the order of the
  engine's kind, so no session refuses a step that continues a
trial. -/
theorem run_conduct (bench : Bench (StateM σ)) (world : σ) :
    let result := ((bench.watched.run.run.run []).run world).1.1
    let events := ((bench.watched.run.run.run []).run world).1.2
    (∀ failure, result = .error failure → failure.isViolation →
        failure ∈ Event.failures events) ∧
      Event.Unbroken (Event.kinds events) events := by
  intro result events
  have hends : Ends bench.watched.run.run [] bench.Ran := ends_run
  obtain ⟨trace, htrace, hran⟩ := hends world
  have hevents : events = trace := htrace
  rw [hevents]
  refine ⟨hran.traced, hran.unbroken fun i geometry hget => ?_⟩
  rw [Nat.zero_add, Event.kinds, hget, Option.map_some]

end Bench

end SpectralBench
