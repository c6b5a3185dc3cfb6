import SpectralBench.Proofs.Campaign
import SpectralBench.Proofs.Geometry
import SpectralBench.Proofs.Session.CallLanguage
import Mathlib.Data.List.Basic

/-!
# The records of a configuration

A configuration that is turned away leaves one record. Any other leaves the blocks of some trials,
each with one record for every step and one for the whole, and behind them an ending: a judgement if
all trials were completed, and otherwise the records of a last trial that was given up.

The times in the records are the only thing that is left open here; `Record.untimed` drops them.

Main statements:

* `Bench.runConfiguration_records` — the records of a configuration that comes to a status are of one
  of the two forms, and not of both.
-/

namespace SpectralBench

namespace Bench

section Forms

variable {σ : Type} (bench : Bench (StateM σ)) (configuration : Configuration)

/-- What a completed step of the trial with the given index leaves. -/
def stepEntry (index : Nat) (step : Step) : Record :=
  { bench.newRecord configuration (.timed step) .ok with trial := trialAt bench.campaign index }

/-- What a completed trial leaves: one record for each step and one for the whole. -/
def block (index : Nat) : List Record :=
  (Step.sequence configuration.kind).map (bench.stepEntry configuration index) ++
    [{ bench.newRecord configuration .total .ok with trial := trialAt bench.campaign index }]

/-- What a trial leaves that was given up: the steps that were completed before the one that failed,
or, where every trial has an engine of its own, the engine that could not be made. -/
inductive GivenUp (index : Nat) : List Record → Status → Prop where
  | inside (done : List Step) (step : Step) (rest : List Step) (failure : Failure)
      (status : Status) : Step.sequence configuration.kind = done ++ step :: rest →
      failure.severity.status? = some status →
      GivenUp index (done.map (bench.stepEntry configuration index) ++
        [bench.notice configuration (.timed step) (trialAt bench.campaign index) status failure])
        status
  -- the first trial uses the engine that was admitted, so it cannot be given up this way
  | between (failure : Failure) (status : Status) : 0 < index →
      bench.platform.reuse configuration.kind = .notReusable →
      failure.severity.status? = some status →
      GivenUp index
        [bench.notice configuration .setup (trialAt bench.campaign index) status failure] status

/-- What stands behind the blocks of the completed trials. -/
inductive Ending (total : Nat) : Nat → List Record → Status → Prop where
  | unjudged : bench.campaign.validate = false → Ending total total [] .ok
  | judged (deviation : Deviation) (status : Status) : bench.campaign.validate = true →
      status = (if bench.campaign.tolerance.accepts configuration.precision deviation then .ok
        else .failed) →
      Ending total total [bench.judgementRecord configuration status deviation] status
  -- no judgement follows a trial that was given up
  | givenUp {index : Nat} {entries : List Record} {status : Status} : index < total →
      bench.GivenUp configuration index entries status → Ending total index entries status

/-- The one record of a configuration that was turned away. -/
def TurnedAway (entries : List Record) (status : Status) : Prop :=
  ∃ failure : Failure, failure.severity.status? = some status ∧
    entries = [bench.notice configuration .setup ⟨0, false⟩ status failure]

/-- The records of a configuration that was measured. -/
def Measured (total : Nat) (entries : List Record) (status : Status) : Prop :=
  ∃ completed ending, bench.Ending configuration total completed ending status ∧
    entries = (List.range completed).flatMap (bench.block configuration) ++ ending

end Forms

end Bench

/-! ## The records of the parts -/

theorem Event.records_calls (number : Nat) (steps : List Step) :
    records (calls number steps) = [] := by
  induction steps with
  | nil => rfl
  | cons step rest ih => exact ih

theorem Written.records {entries : List Record} {events : List Event}
    (h : Written entries (.ok ()) events) : Event.records events = entries := by
  generalize hok : (.ok () : Except Failure Unit) = result at h
  induction h with
  | nil => rfl
  | cons entry _ ih => exact congrArg (entry :: ·) (ih hok)
  | refused => cases hok

theorem Session.Dropped.records {number : Nat} {stage : Stage} {events : List Event}
    (h : Dropped number stage events) : Event.records events = [] := by
  cases h <;> rfl

namespace Bench

variable {σ : Type} {bench : Bench (StateM σ)} {configuration : Configuration} {number : Nat}

theorem Weighed.records {geometry : Geometry} {result : Except Failure Unit} {events : List Event}
    (h : bench.Weighed number geometry result events) : Event.records events = [] := by
  cases h <;> rfl

theorem Readied.records {index number' : Nat} {geometry geometry' : Geometry}
    {result : Except Failure Unit} {events : List Event}
    (h : bench.Readied configuration index number geometry result number' geometry' events) :
    Event.records events = [] := by
  cases h <;> rfl

/-- A failure that gives a configuration its status leaves one record. -/
theorem Classified.records {phase : Phase} {trial : Trial} {failure : Failure} {status : Status}
    {events : List Event}
    (h : bench.Classified configuration phase trial failure (.ok status) events) :
    failure.severity.status? = some status ∧
      Event.records events = [bench.notice configuration phase trial status failure] := by
  generalize hok : (.ok status : Except Failure Status) = result at h
  cases h with
  | aborted => cases hok
  | @reported _ written _ hstatus hwritten =>
    -- a journal that refuses the record leaves no status
    cases written with
    | error refusal => cases hok
    | ok _ =>
      cases hok
      exact ⟨hstatus, hwritten.records⟩

theorem stepRecords_untimed (index : Nat) (timings : List (Step × Duration)) :
    (bench.stepRecords configuration (trialAt bench.campaign index) timings).map Record.untimed =
      (timings.map (·.1)).map (bench.stepEntry configuration index) := by
  rw [stepRecords, List.map_map, List.map_map]
  rfl

/-- A completed trial leaves its block. -/
theorem TrialRan.records_of_completed {index : Nat} {stage : Stage} {events : List Event}
    (h : bench.TrialRan configuration (trialAt bench.campaign index) number configuration.kind
      (.ok (.ok ())) stage events) :
    (Event.records events).map Record.untimed = bench.block configuration index := by
  generalize hok : (.ok (.ok ()) : Except Failure (Except Status Unit)) = result at h
  cases h with
  | @completed timings _ written _ hdone hwritten =>
    cases written with
    | error refusal => cases hok
    | ok _ =>
      rw [Event.records_append, Event.records_calls, List.nil_append, hwritten.records,
        List.map_append, stepRecords_untimed, hdone]
      rfl
  | @failed _ _ _ _ told => cases told <;> cases hok
  | interrupted => cases hok

/-- A trial that gives the configuration its status leaves the records of a trial given up. -/
theorem TrialRan.records_of_failed {index : Nat} {status : Status} {stage : Stage}
    {events : List Event}
    (h : bench.TrialRan configuration (trialAt bench.campaign index) number configuration.kind
      (.ok (.error status)) stage events) :
    bench.GivenUp configuration index ((Event.records events).map Record.untimed) status := by
  generalize hok : (.ok (.error status) : Except Failure (Except Status Unit)) = result at h
  cases h with
  | @completed _ _ written => cases written <;> cases hok
  | interrupted => cases hok
  | @failed timings step rest failure told written released _ hsteps hwritten hreleased htold =>
    cases told with
    | error refusal => cases hok
    | ok _ =>
      cases hok
      obtain ⟨hstatus, hrecords⟩ := htold.records
      simp only [Event.records_append, Event.records_calls, hwritten.records, hreleased.records,
        hrecords, List.nil_append, List.map_append, stepRecords_untimed]
      exact .inside _ step rest failure status hsteps hstatus

/-- The engine of a trial is of the configuration's kind if the engine before it is. -/
theorem Readied.kind {index number' : Nat} {geometry geometry' : Geometry}
    {result : Except Failure Unit} {events : List Event}
    (h : bench.Readied configuration index number geometry result number' geometry' events)
    (hmakes : ∀ made, bench.platform.Makes configuration made → made.kind = configuration.kind)
    (hkind : geometry.kind = configuration.kind) : geometry'.kind = configuration.kind := by
  cases h with
  | renewed _ _ hmade => exact hmakes _ hmade
  | _ => exact hkind

/-- The trials from an index on leave the blocks of those that were completed, and what the one left
that was given up, if any. By induction on the trials that are left. -/
theorem TrialsRan.records {left index last : Nat} {geometry : Geometry}
    {result : Except Failure (Except Status Unit)} {stage : Stage} {events : List Event}
    (h : bench.TrialsRan configuration left index number geometry result last stage events)
    (hmakes : ∀ made, bench.platform.Makes configuration made → made.kind = configuration.kind) :
    geometry.kind = configuration.kind → ∀ outcome, result = .ok outcome →
      ∃ completed entries, (Event.records events).map Record.untimed =
          (List.range' index completed).flatMap (bench.block configuration) ++ entries ∧
        match outcome with
        | .ok () => completed = left ∧ entries = []
        | .error status =>
          completed < left ∧ bench.GivenUp configuration (index + completed) entries status := by
  induction h with
  | finished index number geometry =>
    rintro _ _ ⟨⟩
    exact ⟨0, [], rfl, rfl, rfl⟩
  | @unready left index _ _ _ _ failure told ready _ hready htold =>
    intro _ outcome hok
    cases told with
    | error refusal => cases hok
    | ok status =>
      cases hok
      obtain ⟨hstatus, hrecords⟩ := htold.records
      refine ⟨0, _, rfl, Nat.succ_pos left, ?_⟩
      rw [Event.records_append, hready.records, hrecords]
      cases hready with
      | unavailable _ hindex hreuse =>
        -- only making a new engine can fail between two trials
        exact .between failure status (Nat.pos_of_ne_zero hindex) hreuse hstatus
  | @stopped left index _ _ _ _ ended _ ready ran hready hran =>
    intro hkind outcome hok
    cases ended with
    | error refusal => cases hok
    | ok status =>
      cases hok
      -- the steps recorded are those of the engine's kind, which is the configuration's
      rw [hready.kind hmakes hkind] at hran
      refine ⟨0, _, rfl, Nat.succ_pos left, ?_⟩
      rw [Event.records_append, hready.records]
      exact hran.records_of_failed
  | @next left index _ _ _ _ _ _ _ _ ready ran later hready hran _ ih =>
    intro hkind outcome hok
    rw [hready.kind hmakes hkind] at hran
    -- the trials behind this one count from the next index on
    obtain ⟨completed, entries, hrecords, houtcome⟩ := ih (hready.kind hmakes hkind) outcome hok
    refine ⟨completed + 1, entries, ?_, ?_⟩
    · rw [Event.records_append, Event.records_append, hready.records, List.nil_append,
        List.map_append, hran.records_of_completed, hrecords, List.range'_succ, List.flatMap_cons,
        List.append_assoc]
    · cases outcome with
      | ok _ => exact ⟨congrArg (· + 1) houtcome.1, houtcome.2⟩
      | error status =>
        obtain ⟨hlt, hgivenUp⟩ := houtcome
        rw [Nat.add_assoc, Nat.add_comm 1] at hgivenUp
        exact ⟨Nat.succ_lt_succ hlt, hgivenUp⟩

/-- What a visit leaves that comes to a status. -/
theorem Visited.records {status : Status} {events : List Event}
    (h : bench.Visited configuration number (.ok status) events)
    (hmakes : ∀ made, bench.platform.Makes configuration made → made.kind = configuration.kind) :
    bench.TurnedAway configuration ((Event.records events).map Record.untimed) status ∨
      ∃ total, bench.trials = .ok total ∧
        bench.Measured configuration total ((Event.records events).map Record.untimed) status := by
  have hcreated (outcome : Except Failure Geometry) (later : List Event) :
      Event.records (.created configuration outcome :: later) = Event.records later := rfl
  generalize hok : (.ok status : Except Failure Status) = result at h
  cases h with
  | @unmade failure told _ htold =>
    subst hok
    obtain ⟨hstatus, hrecords⟩ := htold.records
    rw [hcreated, hrecords]
    exact .inl ⟨failure, hstatus, rfl⟩
  | @turnedAway _ failure _ _ _ _ _ hweighed hreleased htold =>
    subst hok
    obtain ⟨hstatus, hrecords⟩ := htold.records
    rw [hcreated, Event.records_append, Event.records_append, hweighed.records, hreleased.records,
      hrecords]
    exact .inl ⟨failure, hstatus, rfl⟩
  | uncounted => cases hok
  | stopped hmade hweighed hran hdropped htrials =>
    subst hok
    obtain ⟨completed, entries, hrecords, hlt, hgivenUp⟩ :=
      hran.records hmakes (hmakes _ hmade) (.error status) rfl
    rw [Nat.zero_add] at hgivenUp
    rw [hcreated, Event.records_append, Event.records_append, hweighed.records, hdropped.records,
      List.nil_append, List.append_nil, hrecords, ← List.range_eq_range']
    exact .inr ⟨_, htrials, completed, entries, .givenUp hlt hgivenUp, rfl⟩
  | @measured _ _ _ _ _ _ _ judged _ hmade hweighed hran hjudged hdropped htrials =>
    subst hok
    obtain ⟨completed, entries, hrecords, rfl, rfl⟩ :=
      hran.records hmakes (hmakes _ hmade) (.ok ()) rfl
    rw [← List.range_eq_range', List.append_nil] at hrecords
    -- all trials were completed, so the ending is that of the judgement
    have hending : bench.Ending configuration completed completed
        ((Event.records judged).map Record.untimed) status := by
      generalize hok : (.ok status : Except Failure Status) = result at hjudged
      cases hjudged with
      | unasked hvalidate =>
        cases hok
        exact .unjudged hvalidate
      | unmeasured => cases hok
      | @judged _ deviation _ written _ hvalidate _ _ hstatus hwritten =>
        cases written with
        | error refusal => cases hok
        | ok _ =>
          cases hok
          rw [hwritten.records]
          exact .judged deviation _ hvalidate hstatus
    rw [hcreated, Event.records_append, Event.records_append, Event.records_append,
      hweighed.records, hdropped.records, List.nil_append, List.append_nil, List.map_append, hrecords]
    exact .inr ⟨completed, htrials, completed, _, hending, rfl⟩

/-! ## The two forms -/

theorem block_eq (bench : Bench (StateM σ)) (configuration : Configuration) (index : Nat) : ∃ entries,
    bench.block configuration index = bench.stepEntry configuration index .allocate :: entries := by
  unfold block
  cases configuration.kind <;> exact ⟨_, rfl⟩

/-- The first record of a configuration that was measured is never about its preparation. -/
theorem Measured.phase_ne {total : Nat} {entry : Record} {entries : List Record} {status : Status}
    (h : bench.Measured configuration total (entry :: entries) status) : entry.phase ≠ .setup := by
  obtain ⟨completed, ending, hending, heq⟩ := h
  -- the first block begins with an allocation, and what stands without one with a step or verdict
  cases completed with
  | succ completed =>
    obtain ⟨rest, hblock⟩ := block_eq bench configuration 0
    rw [List.range_eq_range', List.range'_succ, List.flatMap_cons, hblock] at heq
    rw [(List.cons.inj heq).1]
    exact Phase.noConfusion
  | zero =>
    rw [List.range_zero, List.flatMap_nil, List.nil_append] at heq
    subst heq
    cases hending with
    | judged => exact Phase.noConfusion
    | givenUp _ hgivenUp =>
      generalize hentries : entry :: entries = given at hgivenUp
      cases hgivenUp with
      | inside done =>
        cases done <;>
        · rw [(List.cons.inj hentries).1]
          exact Phase.noConfusion
      | between _ _ hpos =>
        -- the engine of the first trial has been made before it
        exact absurd hpos (Nat.lt_irrefl 0)

theorem not_turnedAway_of_measured {total : Nat} {entries : List Record} {status : Status}
    (h : bench.Measured configuration total entries status) :
    ¬bench.TurnedAway configuration entries status := by
  rintro ⟨failure, _, rfl⟩
  exact h.phase_ne rfl

/-! ## The labels -/

/-- Trials are labelled by their index, warm-up trials and runs apart. -/
theorem label_trialAt {campaign : Campaign} {index : Nat}
    (hfits : campaign.warmups.toNat + campaign.runs.toNat < Word.count)
    (hindex : index < campaign.warmups.toNat + campaign.runs.toNat) :
    ((trialAt campaign index).run.toNat, (trialAt campaign index).warmup) =
      if index < campaign.warmups.toNat then (index, true)
      else (index - campaign.warmups.toNat, false) := by
  have hword : UInt64.size = Word.count := rfl
  unfold trialAt
  split
  · rw [UInt64.toNat_ofNat_of_lt' (by omega)]
  · rw [UInt64.toNat_ofNat_of_lt' (by omega)]

/-- The trials of a campaign whose count fits into a word. -/
theorem trials_eq {total : Nat} (h : bench.trials = .ok total)
    (hfits : bench.campaign.warmups.toNat + bench.campaign.runs.toNat < Word.count) :
    total = bench.campaign.warmups.toNat + bench.campaign.runs.toNat := by
  obtain ⟨_, htotal⟩ | ⟨_, hcount, _⟩ := Campaign.trials_eq_ok_iff.1 h
  · exact htotal
  · exact absurd hfits (Nat.not_lt.2 hcount)

/-! ## The records of a configuration -/

/-- **The record grammar.** Where engines have the geometry of their configuration and the number of
trials fits into a word, the records of a configuration that comes to a status are of exactly one of
two forms: those of a configuration that was turned away, or those of one that was measured. The
trial with index `i` is labelled `i` as a warm-up trial, and from the first run on by how many runs
come before it. -/
theorem runConfiguration_records (bench : Bench (StateM σ)) (configuration : Configuration)
    (world : σ) {status : Status}
    (hgeometry : ∀ geometry, bench.platform.Makes configuration geometry →
      configuration.geometry = .ok geometry)
    (hfits : bench.campaign.warmups.toNat + bench.campaign.runs.toNat < Word.count)
    (hstatus : (((bench.watched.runConfiguration configuration).run.run []).run world).1.1 =
      .ok status) :
    let total := bench.campaign.warmups.toNat + bench.campaign.runs.toNat
    let events := (((bench.watched.runConfiguration configuration).run.run []).run world).1.2
    let entries := (Event.records events).map Record.untimed
    (bench.TurnedAway configuration entries status ∨
        bench.Measured configuration total entries status) ∧
      ¬(bench.TurnedAway configuration entries status ∧
        bench.Measured configuration total entries status) ∧
      ∀ index < total,
        ((trialAt bench.campaign index).run.toNat, (trialAt bench.campaign index).warmup) =
          if index < bench.campaign.warmups.toNat then (index, true)
          else (index - bench.campaign.warmups.toNat, false) := by
  intro total events entries
  have hends : Ends (bench.watched.runConfiguration configuration).run []
      (bench.Visited configuration 0) := ends_runConfiguration rfl
  obtain ⟨visit, htrace, hvisited⟩ := hends world
  have hevents : events = visit := htrace
  rw [hstatus] at hvisited
  -- of the geometry of engines, all that matters here is the kind
  have hmakes (made : Geometry) (hmade : bench.platform.Makes configuration made) :
      made.kind = configuration.kind :=
    congrArg Configuration.kind
      (Configuration.isExact_of_geometry (hgeometry made hmade)).1
  -- the two forms differ in their first record
  refine ⟨?_, fun h => not_turnedAway_of_measured h.2 h.1, fun index => label_trialAt hfits⟩
  rw [← hevents] at hvisited
  refine (hvisited.records hmakes).imp_right ?_
  rintro ⟨counted, htrials, hmeasured⟩
  rw [trials_eq htrials hfits] at hmeasured
  exact hmeasured

end Bench

/-- A bench on which everything succeeds, with an engine of its own for every trial. -/
def Bench.obliging (campaign : Campaign) : Bench (StateM Unit) where
  env := { log := fun _ => pure (), clock := pure 0, date := pure "" }
  platform :=
    { title := "obliging", stopwatchName := "none", normalizes := true
      reuse := fun _ => .notReusable
      capabilities := pure { supportsHalf := true, availableBytes := 4096, description := "" }
      hostBytes := pure 4096
      createEngine := fun configuration =>
        ExceptT.mk (pure (configuration.geometry.map Engine.obliging))
      destroy := pure () }
  campaign
  journal := { start := fun _ => pure (), record := fun _ => pure (), finish := pure () }

namespace Bench

/-- One warm-up trial and one run, which nobody judges, of a transform of two elements. -/
theorem runConfiguration_records_obliging :
    let campaign := { Campaign.standard with validate := false, runs := 1 }
    let configuration : Configuration :=
      { kind := .complex, placement := .inPlace, precision := .single
        extent := ⟨[2], by decide, by decide, by simp⟩ }
    let events := ((((obliging campaign).watched.runConfiguration configuration).run.run []).run
      ()).1.2
    (obliging campaign).Measured configuration 2 ((Event.records events).map Record.untimed) .ok := by
  intro campaign configuration events
  have hgeometry (geometry : Geometry)
      (hmade : (obliging campaign).platform.Makes configuration geometry) :
      configuration.geometry = .ok geometry := by
    obtain ⟨engine, world, hengine, rfl⟩ := hmade
    change configuration.geometry.map Engine.obliging = .ok engine at hengine
    cases hmap : configuration.geometry with
    | ok geometry =>
      rw [hmap] at hengine
      cases hengine
      rfl
    | error failure =>
      rw [hmap] at hengine
      cases hengine
  obtain ⟨⟨failure, hstatus, _⟩ | hmeasured, _⟩ :=
    @runConfiguration_records Unit (obliging campaign) configuration () .ok hgeometry (by decide)
      (by decide +kernel)
  · cases hseverity : failure.severity <;> rw [hseverity] at hstatus <;> cases hstatus
  · exact hmeasured

end Bench

end SpectralBench
