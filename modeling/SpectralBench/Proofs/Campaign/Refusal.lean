import SpectralBench.Proofs.Campaign.Lifetime

/-!
# A journal that refuses

When the journal refuses what it is given, the run is over. Its result is the refusal, and the only
call that is left to make is the release of the engine in use, if that has not been released.

`Halted` says this of a part of a run: there was no refusal, or the first one was the end of it. It
is read off the rules of a run one by one, from the entries of a trial to the grid; the only part
that adds something behind a refusal is the release at the end of a configuration.

Main statements:

* `Bench.Ran.halted` — a run ends with the first refusal, but for a release.
* `Orderly.of_refusal` — whether a release is left, and of which engine.
-/

namespace SpectralBench

/-! ## Refusals -/

/-- Why the journal refused an event. -/
def Event.refusal? : Event → Option Failure
  | .started _ (.error refusal) => some refusal
  | .recorded _ (.error refusal) => some refusal
  | .finished (.error refusal) => some refusal
  | _ => none

/-- Whether the journal refused nothing. -/
def Unrefused (events : List Event) : Prop :=
  ∀ event ∈ events, event.refusal? = none

theorem Unrefused.append {events later : List Event} (h : Unrefused events)
    (hlater : Unrefused later) : Unrefused (events ++ later) :=
  List.forall_mem_append.2 ⟨h, hlater⟩

theorem Unrefused.calls (number : Nat) (steps : List Step) :
    Unrefused (Event.calls number steps) := by
  intro event hevent
  obtain ⟨step, -, rfl⟩ := List.mem_map.1 hevent
  rfl

/-- At most a release. -/
def AtMostRelease (events : List Event) : Prop :=
  events = [] ∨ ∃ number outcome, events = [.called number .destroy outcome]

theorem Session.Dropped.atMostRelease {number : Nat} {stage : Stage} {events : List Event}
    (h : Dropped number stage events) : AtMostRelease events := by
  cases h with
  | idle => exact .inl rfl
  | destroyed outcome => exact .inr ⟨number, outcome, rfl⟩

theorem AtMostRelease.unrefused {events : List Event} (h : AtMostRelease events) :
    Unrefused events := by
  rcases h with rfl | ⟨number, outcome, rfl⟩
  · exact List.forall_mem_nil _
  · exact List.forall_mem_singleton.2 rfl

/-- How a part of a run can go that ends with the first refusal; `closing` says what may be left to
do behind it. -/
inductive Halted {α : Type} (closing : List Event → Prop) :
    Except Failure α → List Event → Prop where
  | unrefused {result : Except Failure α} {events : List Event} :
      Unrefused events → Halted closing result events
  | refused {earlier later : List Event} {event : Event} {failure : Failure} :
      Unrefused earlier → event.refusal? = some failure → closing later →
      Halted closing (.error failure) (earlier ++ event :: later)

namespace Halted

variable {α β : Type} {closing : List Event → Prop} {result : Except Failure α}
  {events : List Event}

/-- A refusal behind which nothing is left to do. -/
theorem last {event : Event} {failure : Failure} (h : event.refusal? = some failure) :
    Halted (· = []) (.error failure : Except Failure α) [event] :=
  have hnone : Unrefused [] := List.forall_mem_nil _
  .refused hnone h rfl

theorem map (h : Halted closing result events) (f : α → β) :
    Halted closing (result.map f) events := by
  cases h with
  | unrefused hnone => exact .unrefused hnone
  | refused hearlier hevent hlater => exact .refused hearlier hevent hlater

theorem of_map {f : α → β} (h : Halted closing (result.map f) events) :
    Halted closing result events := by
  cases result with
  | ok a =>
    cases h with
    | unrefused hnone => exact .unrefused hnone
  | error failure =>
    cases h with
    | unrefused hnone => exact .unrefused hnone
    | refused hearlier hevent hlater => exact .refused hearlier hevent hlater

/-- A part that comes to a result was not refused anything. -/
theorem of_ok {a : α} (h : Halted closing (.ok a) events) : Unrefused events := by
  cases h with
  | unrefused hnone => exact hnone

theorem prepend {earlier : List Event} (hearlier : Unrefused earlier)
    (h : Halted closing result events) : Halted closing result (earlier ++ events) := by
  cases h with
  | unrefused hnone => exact .unrefused (hearlier.append hnone)
  | refused hmiddle hevent hlater =>
    rw [← List.append_assoc]
    exact .refused (hearlier.append hmiddle) hevent hlater

/-- What is left when a part is over that ends with a refusal. -/
theorem close {later : List Event} (h : Halted (· = []) result events)
    (hlater : AtMostRelease later) : Halted AtMostRelease result (events ++ later) := by
  cases h with
  | unrefused hnone => exact .unrefused (hnone.append hlater.unrefused)
  | refused hearlier hevent hnothing =>
    subst hnothing
    rw [List.append_assoc]
    exact .refused hearlier hevent hlater

theorem weaken (h : Halted (· = []) result events) : Halted AtMostRelease result events := by
  have hclosed := h.close (.inl rfl)
  rw [List.append_nil] at hclosed
  exact hclosed

end Halted

/-- Entries go to the journal up to the first that is refused. -/
theorem Written.halted {entries : List Record} {result : Except Failure Unit} {events : List Event}
    (h : Written entries result events) : Halted (· = []) result events := by
  induction h with
  | nil => exact .unrefused (List.forall_mem_nil _)
  | cons entry _ ih =>
    have hentry : Unrefused [.recorded entry (.ok ())] := List.forall_mem_singleton.2 rfl
    exact ih.prepend hentry
  | refused entry _ refusal => exact .last rfl

/-! ## The parts of a run -/

namespace Bench

variable {σ : Type} {bench : Bench (StateM σ)} {configuration : Configuration} {number : Nat}

theorem Classified.halted {phase : Phase} {trial : Trial} {failure : Failure}
    {result : Except Failure Status} {events : List Event}
    (h : bench.Classified configuration phase trial failure result events) :
    Halted (· = []) result events := by
  cases h with
  | aborted => exact .unrefused (List.forall_mem_nil _)
  | reported _ hwritten => exact hwritten.halted.map _

theorem TrialRan.halted {trial : Trial} {kind : Kind}
    {result : Except Failure (Except Status Unit)} {stage : Stage} {events : List Event}
    (h : bench.TrialRan configuration trial number kind result stage events) :
    Halted (· = []) result events := by
  have hcalled (steps : List Step) (step : Step) (failure : Failure) :
      Unrefused (Event.calls number steps ++ [.called number step (.error failure)]) :=
    (Unrefused.calls number steps).append (List.forall_mem_singleton.2 rfl)
  cases h with
  | completed _ hwritten => exact (hwritten.halted.prepend (.calls number _)).map _
  | failed _ hwritten hreleased htold =>
    -- what was recorded before the release was taken
    have htold' := (htold.halted.prepend hreleased.atMostRelease.unrefused)
    exact ((htold'.prepend hwritten.halted.of_ok).prepend (hcalled _ _ _)).map _
  | interrupted _ hwritten =>
    exact (hwritten.halted.prepend (hcalled _ _ _)).map fun _ => .ok ()

theorem Readied.unrefused {index number' : Nat} {geometry geometry' : Geometry}
    {result : Except Failure Unit} {events : List Event}
    (h : bench.Readied configuration index number geometry result number' geometry' events) :
    Unrefused events := by
  cases h with
  | first => exact List.forall_mem_nil _
  | rearmed => exact List.forall_mem_nil _
  | renewed => exact List.forall_mem_singleton.2 rfl
  | unavailable => exact List.forall_mem_singleton.2 rfl

theorem TrialsRan.halted {left index last : Nat} {geometry : Geometry}
    {result : Except Failure (Except Status Unit)} {stage : Stage} {events : List Event}
    (h : bench.TrialsRan configuration left index number geometry result last stage events) :
    Halted (· = []) result events := by
  induction h with
  | finished => exact .unrefused (List.forall_mem_nil _)
  | unready hready htold => exact (htold.halted.map _).prepend hready.unrefused
  | stopped hready hran => exact hran.halted.prepend hready.unrefused
  | next hready hran _ ih =>
    -- a trial that was completed was not refused anything
    exact (ih.prepend hran.halted.of_ok).prepend hready.unrefused

theorem Weighed.unrefused {geometry : Geometry} {result : Except Failure Unit}
    {events : List Event} (h : bench.Weighed number geometry result events) :
    Unrefused events := by
  cases h <;> simp [Unrefused, Event.refusal?]

theorem Judged.halted {geometry : Geometry} {result : Except Failure Status} {events : List Event}
    (h : bench.Judged configuration geometry result events) : Halted (· = []) result events := by
  cases h with
  | unasked => exact .unrefused (List.forall_mem_nil _)
  | unmeasured => exact .unrefused (List.forall_mem_nil _)
  | judged _ _ _ _ hwritten => exact hwritten.halted.map _

/-- A configuration ends with a refusal, but for the release of its engine. -/
theorem Visited.halted {result : Except Failure Status} {events : List Event}
    (h : bench.Visited configuration number result events) :
    Halted AtMostRelease result events := by
  have hmade (outcome : Except Failure Geometry) : Unrefused [.created configuration outcome] :=
    List.forall_mem_singleton.2 rfl
  cases h with
  | unmade htold => exact (htold.halted.prepend (hmade _)).weaken
  | turnedAway _ hweighed hreleased htold =>
    have htold' := htold.halted.prepend hreleased.atMostRelease.unrefused
    exact ((htold'.prepend hweighed.unrefused).prepend (hmade _)).weaken
  | uncounted _ hweighed _ hdropped =>
    have hdropped' := hdropped.atMostRelease.unrefused
    exact .unrefused ((hmade _).append (hweighed.unrefused.append hdropped'))
  | stopped _ hweighed hran hdropped =>
    have hran' := hran.halted.of_map.close hdropped.atMostRelease
    exact (hran'.prepend hweighed.unrefused).prepend (hmade _)
  | measured _ hweighed hran hjudged hdropped =>
    have hjudged' := hjudged.halted.close hdropped.atMostRelease
    exact ((hjudged'.prepend hran.halted.of_ok).prepend hweighed.unrefused).prepend (hmade _)

/-- A refusal leaves the rest of the grid alone. -/
theorem GridRan.halted {configurations : List Configuration} {tally : Tally}
    {result : Except Failure Tally} {events : List Event}
    (h : bench.GridRan configurations number tally result events) :
    Halted AtMostRelease result events := by
  induction h with
  | finished => exact .unrefused (List.forall_mem_nil _)
  | stopped hvisit => exact hvisit.halted.of_map (f := fun _ : Tally => Status.ok)
  | next hvisit _ ih => exact ih.prepend hvisit.halted.of_ok

/-- A run ends with the first refusal, but for a release. -/
theorem Ran.halted {result : Except Failure Tally} {events : List Event}
    (h : bench.Ran result events) : Halted AtMostRelease result events := by
  have hopening (capabilities : Capabilities) (started : String) :
      Unrefused (bench.opening capabilities started (.ok ())) := by
    simp [Unrefused, opening, Event.refusal?]
  cases h with
  | misconfigured => exact .unrefused (List.forall_mem_nil _)
  | unstarted capabilities started refusal =>
    have hfirst : Unrefused [.capabilities capabilities] := List.forall_mem_singleton.2 rfl
    exact (Halted.last rfl).weaken.prepend hfirst
  | stopped capabilities started _ hgrid => exact hgrid.halted.prepend (hopening _ _)
  | finished capabilities started outcome _ hgrid =>
    refine Halted.prepend (hopening _ _) (Halted.prepend hgrid.halted.of_ok ?_)
    cases outcome with
    | ok _ => exact .unrefused (List.forall_mem_singleton.2 rfl)
    | error refusal => exact (Halted.last rfl).weaken

end Bench

/-! ## What a refusal leaves -/

/-- Events with one refusal are cut there in one way only. By induction on what is before it. -/
theorem Unrefused.split_eq {first last earlier later : List Event} {other event : Event}
    {failure : Failure} (hfirst : Unrefused first) (hlast : Unrefused last)
    (hevents : first ++ other :: last = earlier ++ event :: later)
    (hevent : event.refusal? = some failure) : first = earlier ∧ other = event ∧ last = later := by
  -- neither before nor behind the refusal there is another one
  have hrefused (events : List Event) (hnone : Unrefused events) : event ∉ events := by
    intro hmem
    rw [hnone event hmem] at hevent
    cases hevent
  induction first generalizing earlier with
  | nil =>
    rcases earlier with _ | ⟨head, earlier⟩
    · obtain ⟨hother, hlater⟩ := List.cons.inj hevents
      exact ⟨rfl, hother, hlater⟩
    · have hmem : event ∈ last := by
        rw [(List.cons.inj hevents).2]
        exact List.mem_append_right _ List.mem_cons_self
      exact absurd hmem (hrefused last hlast)
  | cons head first ih =>
    obtain ⟨hhead, hrest⟩ := List.forall_mem_cons.1 hfirst
    rcases earlier with _ | ⟨head', earlier⟩
    · have hmem : event ∈ head :: first := List.mem_cons.2 (.inl (List.cons.inj hevents).1.symm)
      exact absurd hmem (hrefused _ hfirst)
    · obtain ⟨rfl, htail⟩ := List.cons.inj hevents
      obtain ⟨rfl, hsplit⟩ := ih hrest htail
      exact ⟨rfl, hsplit⟩

/-- Wherever a refusal stands, it is the first, and the result is the same refusal. -/
theorem Halted.of_split {α : Type} {closing : List Event → Prop} {result : Except Failure α}
    {earlier later : List Event} {event : Event} {failure : Failure}
    (h : Halted closing result (earlier ++ event :: later))
    (hclosing : ∀ events, closing events → Unrefused events)
    (hevent : event.refusal? = some failure) :
    result = .error failure ∧ Unrefused earlier ∧ closing later := by
  generalize hevents : earlier ++ event :: later = events at h
  cases h with
  | unrefused hnone =>
    have hmem : event ∈ events := hevents ▸ List.mem_append_right _ List.mem_cons_self
    rw [hnone event hmem] at hevent
    cases hevent
  | refused hfirst hother hlast =>
    obtain ⟨rfl, rfl, rfl⟩ := hfirst.split_eq (hclosing _ hlast) hevents.symm hevent
    rw [hother] at hevent
    obtain rfl := Option.some.inj hevent
    exact ⟨rfl, hfirst, hlast⟩

/-- Whether the last call of an engine is its release. -/
def Released (number : Nat) (trace : List Event) : Prop :=
  ∃ outcome, (callsOn number trace).getLast? = some (.called number .destroy outcome)

theorem Event.isQuiet_of_refusal {event : Event} {failure : Failure}
    (h : event.refusal? = some failure) : event.isQuiet := by
  cases event with
  | created => cases h
  | estimated => cases h
  | called => cases h
  | _ => rfl

theorem Story.not_released {number : Nat} {reuse : Reuse} {calls : List Event}
    {standing : Standing} (h : Story number reuse calls standing) (hstanding : standing ≠ .settled)
    (outcome : Except Failure Unit) : calls.getLast? ≠ some (.called number .destroy outcome) := by
  cases h with
  | made => exact nofun
  | estimated => simp
  | allocated => simp
  | again => simp
  | called _ _ hdestroy => simp [hdestroy]
  | destroyed => exact absurd rfl hstanding

/-- A release in an orderly trace is that of the last engine, which was not released before. -/
theorem Orderly.of_destroy {reuse : Kind → Reuse} {trace : List Event} {standing : Standing}
    {number : Nat} {outcome : Except Failure Unit}
    (h : Orderly reuse (trace ++ [.called number .destroy outcome]) standing) :
    (Event.engines trace).length = number + 1 ∧
      ∃ before, before ≠ .settled ∧ Orderly reuse trace before := by
  generalize hevents : trace ++ [.called number .destroy outcome] = events at h
  cases h with
  | start => exact absurd hevents (by simp)
  | quiet hquiet =>
    obtain ⟨-, hlast⟩ := List.append_inj' hevents rfl
    rw [← (List.cons.inj hlast).1] at hquiet
    cases hquiet
  | destroyed other hlast hstanding htrace =>
    obtain ⟨rfl, hevent⟩ := List.append_inj' hevents rfl
    cases (List.cons.inj hevent).1
    exact ⟨hlast, _, hstanding, htrace⟩
  | called _ _ _ hdestroy =>
    obtain ⟨-, hevent⟩ := List.append_inj' hevents rfl
    cases (List.cons.inj hevent).1
    exact absurd rfl hdestroy
  | _ =>
    obtain ⟨-, hevent⟩ := List.append_inj' hevents rfl
    cases (List.cons.inj hevent).1

/-- Behind a refusal the engine in use is released, unless all engines have been released. -/
theorem Orderly.of_refusal {reuse : Kind → Reuse} {earlier later : List Event} {event : Event}
    {failure : Failure} (h : Orderly reuse (earlier ++ event :: later) .settled)
    (hevent : event.refusal? = some failure) (hlater : AtMostRelease later) :
    (later = [] ∧ ∀ number < (Event.engines earlier).length, Released number earlier) ∨
      ∃ number outcome, later = [.called number .destroy outcome] ∧
        (Event.engines earlier).length = number + 1 ∧ ¬Released number earlier := by
  have hquiet := Event.isQuiet_of_refusal hevent
  have hengines : Event.engines (earlier ++ [event]) = Event.engines earlier := by
    rw [Event.engines_append, Event.engines_of_isQuiet hquiet, List.append_nil]
  have hcalls (number : Nat) : callsOn number (earlier ++ [event]) = callsOn number earlier := by
    rw [callsOn_append, callsOn_singleton, Event.reaches_of_isQuiet hquiet,
      if_neg Bool.false_ne_true, List.append_nil]
  rcases hlater with rfl | ⟨number, outcome, rfl⟩
  · refine .inl ⟨rfl, fun number hnumber => ?_⟩
    rw [← hengines] at hnumber
    rw [Released, ← hcalls]
    exact (h.story_settled (List.getElem?_eq_getElem hnumber)).getLast?
  · rw [List.append_cons] at h
    obtain ⟨hlast, before, hbefore, hearlier⟩ := h.of_destroy
    refine .inr ⟨number, outcome, rfl, hengines ▸ hlast, ?_⟩
    have hstory := hearlier.stories number _ (List.getElem?_eq_getElem (by omega))
    rw [if_pos hlast, hcalls] at hstory
    rintro ⟨other, hreleased⟩
    exact hstory.not_released hbefore other hreleased

end SpectralBench
