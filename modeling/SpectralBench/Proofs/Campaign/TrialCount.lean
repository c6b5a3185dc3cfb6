import SpectralBench.Proofs.Campaign.Tally

/-!
# How many trials a configuration has

A configuration that ends well has completed every trial it was given, in order, and each of them
has computed one forward transform. How many it was given is another matter: warm-up trials and runs
are added as words, so the sum of two accepted numbers can be too large for one. A build that checks
its sums stops the program there, when the engine has been made and its memory has been found to
suffice. In any other the trials that are left are all warm-up trials, and not a single run is
measured.

Main statements:

* `Bench.TrialsRan.trials` — trials that end well are those from the first index on, each once.
* `Bench.Visited.of_trials_error` — what is left of a configuration whose trials cannot be counted.
* `Bench.runConfiguration_trials` — the trials of a configuration, with and without an overflow.
-/

namespace SpectralBench

/-- The trials whose completion is on record, in order. -/
def Event.trials (events : List Event) : List Trial :=
  (records events).filterMap fun entry => if entry.phase = .total then some entry.trial else none

/-- How many forward transforms engines have computed. -/
def Event.transforms (events : List Event) : Nat :=
  events.countP fun
    | .called _ .executeForward (.ok ()) => true
    | _ => false

@[simp]
theorem Event.trials_append (events later : List Event) :
    trials (events ++ later) = trials events ++ trials later := by
  rw [trials, records_append, List.filterMap_append]
  rfl

@[simp]
theorem Event.transforms_append (events later : List Event) :
    transforms (events ++ later) = transforms events + transforms later :=
  List.countP_append

theorem Event.trials_of_records_nil {events : List Event} (h : records events = []) :
    trials events = [] := by
  rw [trials, h, List.filterMap_nil]

theorem Event.transforms_of_isRecord {events : List Event} (h : ∀ event ∈ events, event.isRecord) :
    transforms events = 0 := by
  refine List.countP_eq_zero.2 fun event hevent => ?_
  have hrecord := h event hevent
  cases event with
  | recorded => exact Bool.false_ne_true
  | _ => cases hrecord

/-- A trial computes one forward transform, whatever its kind. -/
theorem Event.transforms_sequence (number : Nat) (kind : Kind) :
    transforms (calls number (Step.sequence kind)) = 1 := by
  cases kind <;> rfl

/-- Whether an event is no step of a trial: of the steps, only a release. -/
def Event.isRelease : Event → Bool
  | .called _ step _ => step = .destroy
  | _ => true

theorem Event.isRelease_of_isRecord {event : Event} (h : event.isRecord) : event.isRelease := by
  cases event <;> first | rfl | cases h

/-- What the first engine of a configuration is weighed by: its geometry and estimate, and the bytes
that are there on the device and on the host. -/
def Event.weighed? : List Event → Option (Geometry × UInt64 × UInt64 × UInt64)
  | .created _ (.ok geometry) :: .estimated _ (.ok plan) :: .capabilities answer ::
      .hostBytes bytes :: _ => some (geometry, plan, answer.availableBytes, bytes)
  | _ => none

theorem Session.Dropped.isRelease {number : Nat} {stage : Stage} {events : List Event}
    (h : Dropped number stage events) : ∀ event ∈ events, event.isRelease := by
  cases h with
  | idle => exact List.forall_mem_nil _
  | destroyed => exact List.forall_mem_singleton.2 rfl

theorem Session.Dropped.transforms {number : Nat} {stage : Stage} {events : List Event}
    (h : Dropped number stage events) : Event.transforms events = 0 := by
  cases h <;> rfl

namespace Bench

variable {σ : Type} {bench : Bench (StateM σ)} {configuration : Configuration} {number : Nat}

/-- Whether a configuration begins with an engine of this geometry that may allocate. -/
def Admitted (bench : Bench (StateM σ)) (g : Geometry) (events : List Event) : Prop :=
  ∃ plan deviceBytes hostBytes, Event.weighed? events = some (g, plan, deviceBytes, hostBytes) ∧
    g.weigh plan deviceBytes hostBytes bench.campaign.limits = .ok ()

/-! ## The trials that are completed -/

/-- Records of steps complete no trial. -/
theorem trials_stepRecords (trial : Trial) (timings : List (Step × Duration)) :
    (bench.stepRecords configuration trial timings).filterMap
      (fun entry => if entry.phase = .total then some entry.trial else none) = [] := by
  refine List.filterMap_eq_nil_iff.2 fun entry hentry => ?_
  obtain ⟨timing, -, rfl⟩ := List.mem_map.1 hentry
  rfl

theorem TrialRan.trials {trial : Trial} {kind : Kind} {stage : Stage} {events : List Event}
    (h : bench.TrialRan configuration trial number kind (.ok (.ok ())) stage events) :
    Event.trials events = [trial] ∧ Event.transforms events = 1 := by
  generalize hok : (.ok (.ok ()) : Except Failure (Except Status Unit)) = result at h
  cases h with
  | @completed timings total written events _ hwritten =>
    cases written with
    | error refusal => cases hok
    | ok _ =>
      constructor
      · rw [Event.trials_append, Event.trials_of_records_nil (Event.records_calls _ _),
          List.nil_append, Event.trials, hwritten.records, List.filterMap_append,
          trials_stepRecords]
        rfl
      · rw [Event.transforms_append, Event.transforms_sequence,
          Event.transforms_of_isRecord hwritten.isRecord]
  | @failed _ _ _ _ told => cases told <;> cases hok
  | interrupted => cases hok

theorem Readied.transforms {index number' : Nat} {geometry geometry' : Geometry}
    {result : Except Failure Unit} {events : List Event}
    (h : bench.Readied configuration index number geometry result number' geometry' events) :
    Event.transforms events = 0 := by
  cases h <;> rfl

theorem Weighed.transforms {geometry : Geometry} {result : Except Failure Unit}
    {events : List Event} (h : bench.Weighed number geometry result events) :
    Event.transforms events = 0 := by
  cases h <;> rfl

theorem Weighed.isRelease {geometry : Geometry} {result : Except Failure Unit}
    {events : List Event} (h : bench.Weighed number geometry result events) :
    ∀ event ∈ events, event.isRelease := by
  cases h <;> simp [Event.isRelease]

/-- Trials that end well are as many as were asked for, and counted from the index on. By induction
on the trials that are left. -/
theorem TrialsRan.trials {left index last : Nat} {geometry : Geometry}
    {result : Except Failure (Except Status Unit)} {stage : Stage} {events : List Event}
    (h : bench.TrialsRan configuration left index number geometry result last stage events) :
    result = .ok (.ok ()) →
      Event.trials events = (List.range' index left).map (trialAt bench.campaign) ∧
        Event.transforms events = left := by
  induction h with
  | finished =>
    intro _
    exact ⟨rfl, rfl⟩
  | @unready _ _ _ _ _ _ _ told => intro hok; cases told <;> cases hok
  | @stopped _ _ _ _ _ _ ended => intro hok; cases ended <;> cases hok
  | @next left index _ _ _ _ _ _ _ _ ready ran later hready hran _ ih =>
    intro hok
    obtain ⟨htrial, htransform⟩ := hran.trials
    obtain ⟨htrials, htransforms⟩ := ih hok
    constructor
    · rw [Event.trials_append, Event.trials_append,
        Event.trials_of_records_nil hready.records, htrial, htrials, List.nil_append,
        List.singleton_append, List.range'_succ, List.map_cons]
    · rw [Event.transforms_append, Event.transforms_append, hready.transforms, htransform,
        htransforms]
      omega

/-- A judgement completes no trial. -/
theorem Judged.trials {geometry : Geometry} {status : Status} {events : List Event}
    (h : bench.Judged configuration geometry (.ok status) events) : Event.trials events = [] := by
  generalize hok : (.ok status : Except Failure Status) = result at h
  cases h with
  | unasked => rfl
  | unmeasured => rfl
  | @judged _ _ _ written _ _ _ _ _ hwritten =>
    cases written with
    | error refusal => cases hok
    | ok _ =>
      rw [Event.trials, hwritten.records]
      rfl

/-- A configuration ends well only after all of its trials. -/
theorem Visited.trials {events : List Event}
    (h : bench.Visited configuration number (.ok .ok) events) :
    ∃ total, bench.trials = .ok total ∧
      Event.trials events = (List.range total).map (trialAt bench.campaign) ∧
      Event.transforms events = total := by
  have hcreated (geometry : Geometry) (later : List Event) :
      Event.trials (.created configuration (.ok geometry) :: later) = Event.trials later := rfl
  have htransforms (geometry : Geometry) (later : List Event) :
      Event.transforms (.created configuration (.ok geometry) :: later) = Event.transforms later :=
    rfl
  generalize hok : (.ok .ok : Except Failure Status) = result at h
  cases h with
  | unmade htold =>
    subst hok
    exact absurd rfl htold.decisions.2
  | turnedAway _ _ _ htold =>
    subst hok
    exact absurd rfl htold.decisions.2
  | uncounted => cases hok
  | stopped _ _ hran =>
    subst hok
    -- trials that are given up never give the status of success
    exact absurd rfl (hran.decided _ rfl).2
  | @measured _ _ total _ _ _ _ _ _ _ hweighed hran hjudged hdropped htotal =>
    subst hok
    obtain ⟨htrials, hcount⟩ := hran.trials rfl
    refine ⟨total, htotal, ?_, ?_⟩
    · rw [hcreated, Event.trials_append, Event.trials_append, Event.trials_append,
        Event.trials_of_records_nil hweighed.records, htrials, hjudged.trials,
        Event.trials_of_records_nil hdropped.records, List.nil_append, List.append_nil,
        List.append_nil, List.range_eq_range']
    · rw [htransforms, Event.transforms_append, Event.transforms_append, Event.transforms_append,
        hweighed.transforms, hcount, Event.transforms_of_isRecord hjudged.isRecord,
        hdropped.transforms, Nat.zero_add, Nat.add_zero]

/-- Where the trials cannot be counted, no step is called but a release. A configuration that was
admitted ends with the failure to count, and one that was not does not end well either. -/
theorem Visited.of_trials_error {result : Except Failure Status} {events : List Event}
    {failure : Failure} (h : bench.Visited configuration number result events)
    (htrials : bench.trials = .error failure) :
    result ≠ .ok .ok ∧ (∀ event ∈ events, event.isRelease) ∧
      ∀ g, bench.Admitted g events → result = .error failure := by
  have hrecords {events : List Event} (h : ∀ event ∈ events, event.isRecord) :
      ∀ event ∈ events, event.isRelease :=
    fun event hevent => Event.isRelease_of_isRecord (h event hevent)
  cases h with
  | unmade htold =>
    refine ⟨?_, List.forall_mem_cons.2 ⟨rfl, hrecords htold.isRecord⟩, ?_⟩
    · rintro rfl
      exact htold.decisions.2 rfl
    · rintro g ⟨_, _, _, hweighed, _⟩
      cases hweighed
  | turnedAway _ hweighed hreleased htold =>
    refine ⟨?_, ?_, ?_⟩
    · rintro rfl
      exact htold.decisions.2 rfl
    · simp only [List.forall_mem_cons, List.forall_mem_append]
      exact ⟨rfl, hweighed.isRelease, hreleased.isRelease, hrecords htold.isRecord⟩
    · rintro g ⟨_, _, _, hadmitted, hfits⟩
      cases hweighed with
      | unknown => cases hadmitted
      | short hshort =>
        cases hadmitted
        rw [hshort] at hfits
        cases hfits
  | uncounted _ hweighed hfailure hdropped =>
    rw [htrials] at hfailure
    cases hfailure
    refine ⟨?_, ?_, fun _ _ => rfl⟩
    · rintro ⟨⟩
    · simp only [List.forall_mem_cons, List.forall_mem_append]
      exact ⟨rfl, hweighed.isRelease, hdropped.isRelease⟩
  | stopped _ _ _ _ htotal => rw [htrials] at htotal; cases htotal
  | measured _ _ _ _ _ htotal => rw [htrials] at htotal; cases htotal

/-! ## How many there are -/

theorem warmup_trialAt (campaign : Campaign) (index : Nat) :
    (trialAt campaign index).warmup = decide (index < campaign.warmups.toNat) := by
  unfold trialAt
  split <;> simp [*]

/-- The runs among the first trials are those behind the warm-up trials. -/
theorem countP_trialAt (campaign : Campaign) (total : Nat) :
    ((List.range total).map (trialAt campaign)).countP (!·.warmup) =
      total - campaign.warmups.toNat := by
  induction total with
  | zero => exact (Nat.zero_sub _).symm
  | succ total ih =>
    rw [List.range_succ, List.map_append, List.countP_append, ih, List.map_singleton,
      List.countP_singleton, warmup_trialAt]
    by_cases hwarmup : total < campaign.warmups.toNat
    · simp only [hwarmup, decide_true, Bool.not_true, Bool.false_eq_true, if_false]
      omega
    · simp only [hwarmup, decide_false, Bool.not_false, if_true]
      omega

theorem runs_pos {campaign : Campaign} (h : campaign.check = .ok ()) : 0 < campaign.runs.toNat := by
  refine Nat.pos_of_ne_zero fun hzero => ?_
  have hruns : campaign.runs = 0 := UInt64.toNat_inj.1 hzero
  unfold Campaign.check at h
  rw [if_pos hruns] at h
  split at h
  · cases h
  · split at h <;> cases h

/-- **The trials of a configuration.** When a configuration ends well, its engines have computed one
forward transform for every trial on record, and the trials on record are the first of those that
the campaign labels.

* As long as the sum of warm-up trials and runs is a word, they are all of them: every warm-up trial
  and every run.
* Once it is not, and the build checks its sums, no configuration ends well. One that is admitted
  stops the program, before the first step of a trial.
* If the build does not check, so many trials as there are words are missing, among them every
run. -/
theorem runConfiguration_trials (bench : Bench (StateM σ)) (configuration : Configuration)
    (world : σ) (hcheck : bench.campaign.check = .ok ()) :
    let outcome := ((bench.watched.runConfiguration configuration).run.run []).run world
    let result := outcome.1.1
    let events := outcome.1.2
    let trials := Event.trials events
    let warmups := bench.campaign.warmups.toNat
    let runs := bench.campaign.runs.toNat
    (warmups + runs < Word.count → result = .ok .ok →
        trials = (List.range (warmups + runs)).map (trialAt bench.campaign) ∧
        Event.transforms events = trials.length ∧ trials.countP (!·.warmup) = runs ∧ 0 < runs) ∧
      (Word.count ≤ warmups + runs → bench.env.arithmetic = .checked →
        result ≠ .ok .ok ∧ (∀ event ∈ events, event.isRelease) ∧
        ∀ g, bench.Admitted g events →
          result = .error (.panic "attempt to add with overflow")) ∧
      (Word.count ≤ warmups + runs → bench.env.arithmetic = .wrapping → result = .ok .ok →
        trials = (List.range (warmups + runs - Word.count)).map (trialAt bench.campaign) ∧
        Event.transforms events = trials.length ∧ trials.countP (!·.warmup) = 0) := by
  intro outcome result events trials warmups runs
  have hends : Ends (bench.watched.runConfiguration configuration).run []
      (bench.Visited configuration 0) := ends_runConfiguration rfl
  obtain ⟨visit, htrace, hvisited⟩ := hends world
  have hevents : events = visit := htrace
  rw [← hevents] at hvisited
  -- what is on record of a configuration that ends well, by the number of its trials
  have hended (hok : result = .ok .ok) : ∃ total, bench.trials = .ok total ∧
      trials = (List.range total).map (trialAt bench.campaign) ∧
      Event.transforms events = trials.length ∧
      trials.countP (!·.warmup) = total - warmups := by
    rw [show outcome.1.1 = .ok .ok from hok] at hvisited
    obtain ⟨total, htotal, htrials, htransforms⟩ := hvisited.trials
    refine ⟨total, htotal, htrials, htransforms.trans ?_, ?_⟩
    · rw [show trials = _ from htrials, List.length_map, List.length_range]
    · rw [show trials = _ from htrials, countP_trialAt]
  refine ⟨fun hfits hok => ?_, fun hover hchecked => ?_, fun hover hwrapping hok => ?_⟩
  · obtain ⟨total, htotal, htrials, htransforms, hmeasured⟩ := hended hok
    have hsum : total = warmups + runs := trials_eq htotal hfits
    subst hsum
    exact ⟨htrials, htransforms, by omega, runs_pos hcheck⟩
  · exact hvisited.of_trials_error (Campaign.trials_eq_error_iff.2 ⟨rfl, hchecked, hover⟩)
  · obtain ⟨total, htotal, htrials, htransforms, hmeasured⟩ := hended hok
    have hsum : total = warmups + runs - Word.count :=
      Except.ok.inj (htotal.symm.trans (Campaign.trials_eq_ok_iff.2 (.inr ⟨hwrapping, hover, rfl⟩)))
    rw [hsum] at htrials hmeasured
    -- less than a word is left, and less than the warm-up trials
    have hruns : runs < Word.count := bench.campaign.runs.toNat_lt
    exact ⟨htrials, htransforms, by omega⟩

/-- A configuration of two elements. -/
def pair : Configuration :=
  { kind := .complex, placement := .inPlace, precision := .single
    extent := ⟨[2], by decide, by decide, by simp⟩ }

/-- Some warm-up trials and one run, which nobody judges. -/
def warmed (warmups : UInt64) : Campaign :=
  { Campaign.standard with extents := [pair.extent], validate := false, runs := 1, warmups }

/-- Two warm-up trials and one run. -/
theorem runConfiguration_trials_warmed :
    let bench := obliging (warmed 2)
    let events := (((bench.watched.runConfiguration pair).run.run []).run ()).1.2
    (Event.trials events).length = 3 ∧ (Event.trials events).countP (!·.warmup) = 1 := by
  intro bench events
  obtain ⟨hall, -, -⟩ := runConfiguration_trials bench pair () (by decide +kernel)
  obtain ⟨htrials, -, hruns, -⟩ := hall (by decide) (by decide +kernel)
  exact ⟨(congrArg List.length htrials).trans rfl, hruns⟩

/-- With as many warm-up trials as a word can count, one run makes the sum of both too large. A build
that checks its sums stops before the first trial; in any other the sum is zero, and the configuration
ends well without a single trial. -/
theorem runConfiguration_without_trials :
    let checked := obliging (warmed 18446744073709551615)
    let wrapping := { checked with env.arithmetic := .wrapping }
    let outcome (bench : Bench (StateM Unit)) :=
      ((bench.watched.runConfiguration pair).run.run []).run ()
    checked.campaign.check = .ok () ∧
      checked.campaign.warmups.toNat + checked.campaign.runs.toNat = Word.count ∧
      (outcome checked).1.1 = .error (.panic "attempt to add with overflow") ∧
      (outcome wrapping).1.1 = .ok .ok ∧ Event.trials (outcome wrapping).1.2 = [] ∧
      Event.transforms (outcome wrapping).1.2 = 0 := by
  refine ⟨?_, ?_, ?_, ?_, ?_, ?_⟩ <;> decide +kernel

end Bench

end SpectralBench
