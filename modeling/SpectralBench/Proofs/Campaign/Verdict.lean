import SpectralBench.Proofs.Campaign.Conduct
import SpectralBench.Proofs.Campaign.Refusal
import SpectralBench.Proofs.Campaign.TrialCount
import SpectralBench.Proofs.RoundTrip

/-!
# Verdicts

What ends a configuration with a failure ends the whole run. Sorting a failure does so only if the
failure is one for good, and otherwise the journal has to refuse a record. Measuring the deviation of
the last output could do so as well, but it cannot fail: the output has the size of the input, and
that is one transfer.

So a configuration that completes its trials comes to a verdict, and only the journal can still keep
it from ending with a status.

Main statements:

* `Bench.TrialsRan.trials_lt` — a trial that was given up is missing on record.
* `Bench.Visited.endedBy` — what can end a configuration with a failure.
* `Bench.Visited.concluded` — how a configuration ends that completed its trials.
* `Bench.runConfiguration_concludes` — all of this about a run of a configuration.
-/

namespace SpectralBench

/-! ## What ends a run -/

/-- Whether the journal refused a record with this failure. -/
def Event.Refuses (failure : Failure) (events : List Event) : Prop :=
  ∃ entry, .recorded entry (.error failure) ∈ events

/-- Whether the platform or an engine met this failure. -/
def Event.Meets (failure : Failure) (events : List Event) : Prop :=
  ∃ event ∈ events, event.refusal? = none ∧ event.failure? = some failure

/-- How a failure can come to end a configuration: the journal refused a record, or the platform or an
engine failed for good. -/
inductive EndedBy (failure : Failure) (events : List Event) : Prop where
  | refused : Event.Refuses failure events → EndedBy failure events
  | broken : failure.severity = .abort → Event.Meets failure events → EndedBy failure events

theorem Event.Refuses.mono {failure : Failure} {events more : List Event}
    (h : Refuses failure events) (hsub : events ⊆ more) : Refuses failure more := by
  obtain ⟨entry, hentry⟩ := h
  exact ⟨entry, hsub hentry⟩

theorem Event.Refuses.prepend {failure : Failure} {events : List Event} (h : Refuses failure events)
    (before : List Event) : Refuses failure (before ++ events) :=
  h.mono (List.subset_append_right _ _)

theorem Event.Meets.mono {failure : Failure} {events more : List Event}
    (h : Meets failure events) (hsub : events ⊆ more) : Meets failure more := by
  obtain ⟨event, hevent, hfailure⟩ := h
  exact ⟨event, hsub hevent, hfailure⟩

theorem EndedBy.mono {failure : Failure} {events more : List Event} (h : EndedBy failure events)
    (hsub : events ⊆ more) : EndedBy failure more := by
  cases h with
  | refused hrefused => exact .refused (hrefused.mono hsub)
  | broken habort hmet => exact .broken habort (hmet.mono hsub)

theorem EndedBy.prepend {failure : Failure} {events : List Event} (h : EndedBy failure events)
    (before : List Event) : EndedBy failure (before ++ events) :=
  h.mono (List.subset_append_right _ _)

theorem Written.refuses {entries : List Record} {result : Except Failure Unit} {events : List Event}
    {failure : Failure} (h : Written entries result events) (hresult : result = .error failure) :
    Event.Refuses failure events := by
  induction h with
  | nil => cases hresult
  | cons entry _ ih => exact (ih hresult).mono (List.subset_cons_self _ _)
  | refused entry =>
    cases hresult
    exact ⟨entry, List.mem_cons_self⟩

/-- Whether it is taken or refused, the journal gets nothing but what is meant for it. -/
theorem Written.records_subset {entries : List Record} {result : Except Failure Unit}
    {events : List Event} (h : Written entries result events) : Event.records events ⊆ entries := by
  induction h with
  | nil => exact List.nil_subset _
  | cons entry _ ih => exact List.cons_subset_cons entry ih
  | refused entry entries => exact List.cons_subset_cons entry (List.nil_subset entries)

namespace Bench

variable {σ : Type} {bench : Bench (StateM σ)} {configuration : Configuration} {number : Nat}

/-! ## Parts that end a configuration -/

/-- Sorting a failure ends the run if it is one for good, or if the journal refuses the record. -/
theorem Classified.endedBy {phase : Phase} {trial : Trial} {failure last : Failure}
    {result : Except Failure Status} {before events : List Event}
    (h : bench.Classified configuration phase trial failure result events)
    (hmet : failure.severity = .abort → Event.Meets failure before)
    (hresult : result = .error last) : EndedBy last (before ++ events) := by
  cases h with
  | aborted habort =>
    cases hresult
    exact .broken habort ((hmet habort).mono (List.subset_append_left _ _))
  | @reported _ written _ _ hwritten =>
    cases written with
    | ok => cases hresult
    | error refusal =>
      cases hresult
      exact .refused ((hwritten.refuses rfl).prepend _)

theorem TrialRan.endedBy {trial : Trial} {kind : Kind} {failure : Failure}
    {result : Except Failure (Except Status Unit)} {stage : Stage} {events : List Event}
    (h : bench.TrialRan configuration trial number kind result stage events)
    (hresult : result = .error failure) : EndedBy failure events := by
  cases h with
  | @completed _ _ written _ _ hwritten =>
    cases written with
    | ok => cases hresult
    | error refusal =>
      cases hresult
      exact .refused ((hwritten.refuses rfl).prepend _)
  | @failed _ step _ met told written released events _ _ _ htold =>
    cases told with
    | ok => cases hresult
    | error last =>
      cases hresult
      have hmet : Event.Meets met [.called number step (.error met)] :=
        ⟨_, List.mem_singleton_self _, rfl, rfl⟩
      have hended := htold.endedBy (fun _ => hmet) rfl
      refine hended.mono fun event hevent => ?_
      simp only [List.mem_append] at hevent ⊢
      tauto
  | interrupted _ hwritten =>
    cases hresult
    exact .refused ((hwritten.refuses rfl).prepend _)

theorem Readied.meets {index number' : Nat} {geometry geometry' : Geometry} {failure : Failure}
    {result : Except Failure Unit} {events : List Event}
    (h : bench.Readied configuration index number geometry result number' geometry' events)
    (hresult : result = .error failure) : Event.Meets failure events := by
  cases h with
  | unavailable =>
    cases hresult
    exact ⟨_, List.mem_singleton_self _, rfl, rfl⟩
  | _ => cases hresult

/-- What ends the trials of a configuration, by induction on those that are left. -/
theorem TrialsRan.endedBy {left index last : Nat} {geometry : Geometry} {failure : Failure}
    {result : Except Failure (Except Status Unit)} {stage : Stage} {events : List Event}
    (h : bench.TrialsRan configuration left index number geometry result last stage events)
    (hresult : result = .error failure) : EndedBy failure events := by
  induction h with
  | finished => cases hresult
  | @unready _ _ _ _ _ _ _ told _ _ hready htold =>
    cases told with
    | ok => cases hresult
    | error last =>
      cases hresult
      exact htold.endedBy (fun _ => hready.meets rfl) rfl
  | stopped _ hran => exact (hran.endedBy hresult).prepend _
  | next _ _ _ ih => exact ((ih hresult).prepend _).prepend _

/-- A configuration that is turned away for good had no estimate: too little memory only skips it. -/
theorem Weighed.meets {geometry : Geometry} {failure : Failure} {result : Except Failure Unit}
    {events : List Event} (h : bench.Weighed number geometry result events)
    (hresult : result = .error failure) (habort : failure.severity = .abort) :
    Event.Meets failure events := by
  cases h with
  | unknown =>
    cases hresult
    exact ⟨_, List.mem_singleton_self _, rfl, rfl⟩
  | short =>
    cases hresult
    cases habort
  | admitted => cases hresult

/-- What follows the weighing is a part of the visit. -/
theorem subset_visit {part rest : List Event} (first : Event) (weighed : List Event)
    (h : part ⊆ rest) : part ⊆ first :: (weighed ++ rest) :=
  List.subset_cons_of_subset first (List.subset_append_of_subset_right weighed h)

/-! ## Trials that were given up -/

theorem trials_eq_nil {events : List Event}
    (h : ∀ entry ∈ Event.records events, entry.phase ≠ .total) : Event.trials events = [] := by
  refine List.filterMap_eq_nil_iff.2 fun entry hentry => ?_
  rw [if_neg (h entry hentry)]

theorem Classified.trials {phase : Phase} {trial : Trial} {failure : Failure}
    {result : Except Failure Status} {events : List Event}
    (h : bench.Classified configuration phase trial failure result events)
    (hphase : phase ≠ .total) : Event.trials events = [] := by
  cases h with
  | aborted => rfl
  | reported _ hwritten =>
    refine trials_eq_nil fun entry hentry => ?_
    rw [List.mem_singleton.1 (hwritten.records_subset hentry)]
    exact hphase

/-- A trial that was given up is not on record, unless the journal was what ended it. -/
theorem TrialRan.trials_or_refuses {trial : Trial} {kind : Kind}
    {result : Except Failure (Except Status Unit)} {stage : Stage} {events : List Event}
    (h : bench.TrialRan configuration trial number kind result stage events)
    (hresult : result ≠ .ok (.ok ())) :
    Event.trials events = [] ∨ ∃ failure, result = .error failure ∧ Event.Refuses failure events := by
  cases h with
  | @completed _ _ written _ _ hwritten =>
    cases written with
    | ok => exact absurd rfl hresult
    | error refusal =>
      exact .inr ⟨refusal, rfl, (hwritten.refuses rfl).prepend _⟩
  | @failed timings step _ failure _ written _ _ _ hwritten hreleased htold =>
    left
    have hsteps : Event.trials written = [] := by
      rw [Event.trials, hwritten.records, trials_stepRecords]
    have hcalled : Event.trials [.called number step (.error failure)] = [] := rfl
    simp only [Event.trials_append, hsteps, hcalled, htold.trials Phase.noConfusion,
      Event.trials_of_records_nil (Event.records_calls _ _),
      Event.trials_of_records_nil hreleased.records, List.append_nil]
  | interrupted _ hwritten => exact .inr ⟨_, rfl, (hwritten.refuses rfl).prepend _⟩

/-- Of trials that were not all completed, some are not on record, unless the journal was what ended
them. By induction on the trials that are left. -/
theorem TrialsRan.trials_lt_or_refuses {left index last : Nat} {geometry : Geometry}
    {result : Except Failure (Except Status Unit)} {stage : Stage} {events : List Event}
    (h : bench.TrialsRan configuration left index number geometry result last stage events)
    (hresult : result ≠ .ok (.ok ())) :
    (Event.trials events).length < left ∨
      ∃ failure, result = .error failure ∧ Event.Refuses failure events := by
  induction h with
  | finished => exact absurd rfl hresult
  | unready hready htold =>
    left
    rw [Event.trials_append, Event.trials_of_records_nil hready.records,
      htold.trials Phase.noConfusion]
    exact Nat.succ_pos _
  | stopped hready hran =>
    rcases hran.trials_or_refuses hresult with hnone | ⟨failure, hfailure, hrefuses⟩
    · left
      rw [Event.trials_append, Event.trials_of_records_nil hready.records, hnone]
      exact Nat.succ_pos _
    · exact .inr ⟨failure, hfailure, hrefuses.prepend _⟩
  | next hready hran _ ih =>
    rcases ih hresult with hfewer | ⟨failure, hfailure, hrefuses⟩
    · left
      rw [Event.trials_append, Event.trials_append, Event.trials_of_records_nil hready.records,
        hran.trials.1, List.nil_append, List.singleton_append, List.length_cons]
      exact Nat.succ_lt_succ hfewer
    · exact .inr ⟨failure, hfailure, (hrefuses.prepend _).prepend _⟩

/-! ## Verdicts -/

/-- How a configuration ends that completed its trials: the journal refused a record, nobody asked for
a verdict, or there is one, on an output of one transfer. -/
inductive Concluded (bench : Bench (StateM σ)) (configuration : Configuration) (g : Geometry)
    (events : List Event) : Except Failure Status → Prop where
  | refused {failure : Failure} : Event.Refuses failure events →
      Concluded bench configuration g events (.error failure)
  | unasked : bench.campaign.validate = false → Concluded bench configuration g events (.ok .ok)
  | judged {output : Vector UInt8 g.transferSize} {deviation : Deviation} {status : Status} :
      bench.campaign.validate = true →
      g.deviation (g.stimulus bench.env.toHalf bench.campaign.seed) output.toArray
        bench.platform.normalizes = .ok deviation →
      status = (if bench.campaign.tolerance.accepts configuration.precision deviation then .ok
        else .failed) →
      .recorded (bench.judgementRecord configuration status deviation) (.ok ()) ∈ events →
      Concluded bench configuration g events (.ok status)

variable {g : Geometry} {result : Except Failure Status} {events : List Event}

theorem Concluded.mono {more : List Event} (h : bench.Concluded configuration g events result)
    (hsub : events ⊆ more) : bench.Concluded configuration g more result := by
  cases h with
  | refused hrefuses => exact .refused (hrefuses.mono hsub)
  | unasked hvalidate => exact .unasked hvalidate
  | judged hvalidate hdeviation hstatus hrecorded =>
    exact .judged hvalidate hdeviation hstatus (hsub hrecorded)

/-- An output of the size of the stimulus is judged, as its deviation can be measured. -/
theorem Judged.concluded (hg : g.IsExact) (h : bench.Judged configuration g result events) :
    bench.Concluded configuration g events result := by
  cases h with
  | unasked hvalidate => exact .unasked hvalidate
  | unmeasured _ hsize hdeviation =>
    have hinput := hg.size_stimulus bench.env.toHalf bench.campaign.seed
    rw [hg.deviation_eq hinput (hsize.trans hinput)] at hdeviation
    cases hdeviation
  | @judged output deviation status written _ hvalidate hsize hdeviation hstatus hwritten =>
    cases written with
    | error refusal => exact .refused (hwritten.refuses rfl)
    | ok =>
      have htransfer : output.size = g.transferSize := hsize.trans (hg.size_stimulus _ _)
      have hmeasured : g.deviation (g.stimulus bench.env.toHalf bench.campaign.seed)
          (⟨output, htransfer⟩ : Vector UInt8 g.transferSize).toArray bench.platform.normalizes =
            .ok deviation :=
        hdeviation
      refine .judged hvalidate hmeasured hstatus ?_
      cases hwritten with
      | cons => exact List.mem_cons_self

/-- What ends a configuration with a failure. -/
theorem Visited.endedBy {failure : Failure}
    (h : bench.Visited configuration number result events)
    (hexact : ∀ made, bench.platform.Makes configuration made → made.IsExact)
    (hresult : result = .error failure) :
    EndedBy failure events ∨ bench.trials = .error failure := by
  subst hresult
  cases h with
  | @unmade met _ told htold =>
    have hmet : Event.Meets met [.created configuration (.error met)] :=
      ⟨_, List.mem_singleton_self _, rfl, rfl⟩
    exact .inl (htold.endedBy (fun _ => hmet) rfl)
  | turnedAway _ hweighed _ htold =>
    left
    have hended := htold.endedBy (hweighed.meets rfl) rfl
    refine hended.mono fun event hevent => ?_
    simp only [List.mem_append, List.mem_cons] at hevent ⊢
    tauto
  | uncounted _ _ htrials => exact .inr htrials
  | @stopped _ _ _ _ _ weighed ran dropped _ _ hran =>
    have htrials := List.subset_append_left ran dropped
    exact .inl ((hran.endedBy rfl).mono (subset_visit _ weighed htrials))
  | @measured _ _ _ _ _ weighed ran judged dropped hmade _ _ hjudged =>
    left
    cases hjudged.concluded (hexact _ hmade) with
    | refused hrefuses =>
      have hjudgement := List.subset_append_of_subset_right ran
        (List.subset_append_left judged dropped)
      exact .refused (hrefuses.mono (subset_visit _ weighed hjudgement))

/-- How a configuration ends that completed its trials. -/
theorem Visited.concluded (h : bench.Visited configuration number result events)
    (hexact : ∀ made, bench.platform.Makes configuration made → made.IsExact)
    (hadmitted : bench.Admitted g events) {total : Nat} (htotal : bench.trials = .ok total)
    (hall : (Event.trials events).length = total) :
    bench.Concluded configuration g events result := by
  obtain ⟨plan, deviceBytes, hostBytes, hweighed, hweigh⟩ := hadmitted
  cases h with
  | unmade => cases hweighed
  | turnedAway _ hshort =>
    -- what was weighed is what the configuration begins with, and that is admitted
    cases hshort with
    | unknown => cases hweighed
    | short hshort =>
      cases hweighed
      rw [hweigh] at hshort
      cases hshort
  | uncounted _ _ htrials =>
    rw [htotal] at htrials
    cases htrials
  | @stopped geometry _ _ _ _ weighed ran dropped _ hadmitted hran hdropped hcounted =>
    rw [Except.ok.inj (htotal.symm.trans hcounted)] at hall
    have hgiven : (result.map .error : Except Failure (Except Status Unit)) ≠ .ok (.ok ()) := by
      cases result <;> exact nofun
    have htrials : Event.trials (.created configuration (.ok geometry) ::
        (weighed ++ (ran ++ dropped))) = Event.trials ran := by
      change Event.trials (weighed ++ (ran ++ dropped)) = _
      simp only [Event.trials_append, Event.trials_of_records_nil hadmitted.records,
        Event.trials_of_records_nil hdropped.records, List.nil_append, List.append_nil]
    rcases hran.trials_lt_or_refuses hgiven with hfewer | ⟨failure, hfailure, hrefuses⟩
    · rw [htrials] at hall
      omega
    · cases result with
      | ok => cases hfailure
      | error =>
        cases hfailure
        have hran := List.subset_append_left ran dropped
        exact .refused (hrefuses.mono (subset_visit _ weighed hran))
  | @measured _ _ _ _ _ _ ran judged dropped hmade hadmitted _ hjudged =>
    -- the geometry that was admitted is that of the engine
    cases hadmitted
    cases hweighed
    have hjudgement := List.subset_append_of_subset_right ran
      (List.subset_append_left judged dropped)
    exact (hjudged.concluded (hexact _ hmade)).mono (subset_visit _ _ hjudgement)

/-- **Validation does not fail.** Where engines have the geometry of their configuration, a stimulus
is one transfer, which is a whole number of scalars and at least one, and every output of that size
holds equally many and has a deviation. So an admitted configuration that completes its trials comes
to its verdict, or to `ok` if nobody asked for one, and the only failure that it can end with is a
record that the journal refused. Any configuration that ends with a failure does so because of the
journal, because the platform or an engine failed for good, or because its trials cannot be counted. -/
theorem runConfiguration_concludes (bench : Bench (StateM σ)) (configuration : Configuration)
    (world : σ) (hgeometry : ∀ made, bench.platform.Makes configuration made →
      configuration.geometry = .ok made) :
    let seed := bench.campaign.seed
    let result := (((bench.watched.runConfiguration configuration).run.run []).run world).1.1
    let events := (((bench.watched.runConfiguration configuration).run.run []).run world).1.2
    (∀ g, configuration.geometry = .ok g →
      (g.stimulus bench.env.toHalf seed).size = g.transferSize ∧
      g.transferSize = g.scalarCount * g.precision.realSize ∧ 0 < g.scalarCount ∧
      (∀ (output : Vector UInt8 (g.stimulus bench.env.toHalf seed).size) (normalized : Bool),
        (g.precision.numbers (g.stimulus bench.env.toHalf seed).toList).length = g.scalarCount ∧
        (g.precision.numbers output.toList).length = g.scalarCount ∧
        ∃ deviation, g.deviation (g.stimulus bench.env.toHalf seed) output.toArray normalized =
          .ok deviation) ∧
      (bench.Admitted g events → ∀ total, bench.trials = .ok total →
        Event.trials events = (List.range total).map (trialAt bench.campaign) →
        bench.Concluded configuration g events result ∧
          ∀ failure, result = .error failure → Event.Refuses failure events)) ∧
      ∀ failure, result = .error failure →
        EndedBy failure events ∨ bench.trials = .error failure := by
  intro seed result events
  have hends : Ends (bench.watched.runConfiguration configuration).run []
      (bench.Visited configuration 0) := ends_runConfiguration rfl
  obtain ⟨visit, htrace, hvisited⟩ := hends world
  have hevents : events = visit := htrace
  rw [← hevents] at hvisited
  have hexact (made : Geometry) (hmade : bench.platform.Makes configuration made) : made.IsExact :=
    (Configuration.isExact_of_geometry (hgeometry made hmade)).2
  refine ⟨fun g hg => ?_, fun failure hfailure => hvisited.endedBy hexact hfailure⟩
  obtain ⟨-, hg⟩ := Configuration.isExact_of_geometry hg
  have hinput := hg.size_stimulus bench.env.toHalf seed
  have hlength (bytes : Array UInt8) (hbytes : bytes.size = g.transferSize) :
      (g.precision.numbers bytes.toList).length = g.scalarCount := by
    rw [Precision.numbers_eq, List.length_map, List.length_range, hbytes]
    rfl
  refine ⟨hinput, hg.scalarCount_mul.symm, hg.scalarCount_pos, fun output normalized => ?_,
    fun hadmitted total htotal hall => ?_⟩
  · have houtput : output.toArray.size = g.transferSize := output.size_toArray.trans hinput
    exact ⟨hlength _ hinput, hlength _ houtput, _, hg.deviation_eq hinput houtput normalized⟩
  · have hcount : (Event.trials events).length = total := by
      rw [hall, List.length_map, List.length_range]
    have hconcluded := hvisited.concluded hexact hadmitted htotal hcount
    refine ⟨hconcluded, fun failure hfailure => ?_⟩
    change bench.Concluded configuration g events result at hconcluded
    rw [hfailure] at hconcluded
    cases hconcluded with
    | refused hrefuses => exact hrefuses

/-- An obliging bench makes engines of the geometry of their configuration. -/
theorem geometry_obliging {campaign : Campaign} {configuration : Configuration} {made : Geometry}
    (hmade : (obliging campaign).platform.Makes configuration made) :
    configuration.geometry = .ok made := by
  obtain ⟨engine, world, hengine, rfl⟩ := hmade
  change configuration.geometry.map Engine.obliging = .ok engine at hengine
  cases hgeometry : configuration.geometry with
  | ok made =>
    rw [hgeometry] at hengine
    cases hengine
    rfl
  | error failure =>
    rw [hgeometry] at hengine
    cases hengine

/-- A run whose only trial gives back zeros, which is not what went in. -/
theorem runConfiguration_concludes_pair :
    let campaign := { warmed 0 with validate := true }
    let bench := obliging campaign
    let result := (((bench.watched.runConfiguration pair).run.run []).run ()).1.1
    let events := (((bench.watched.runConfiguration pair).run.run []).run ()).1.2
    let g : Geometry :=
      { configuration := pair, count := 2, complexCount := 2, dataSize := 16, complexBufferSize := 0,
        transferSize := 16 }
    bench.Admitted g events ∧ result = .ok .failed ∧
      ∃ (output : Vector UInt8 g.transferSize) (deviation : Deviation),
        g.deviation (g.stimulus bench.env.toHalf campaign.seed) output.toArray true = .ok deviation ∧
        campaign.tolerance.accepts pair.precision deviation = false ∧
        .recorded (bench.judgementRecord pair .failed deviation) (.ok ()) ∈ events := by
  intro campaign bench result events g
  have hadmitted : bench.Admitted g events := by
    refine ⟨0, 4096, 4096, ?_, ?_⟩ <;> decide +kernel
  have hfailed : result = .ok .failed := by decide +kernel
  have htrials : Event.trials events = (List.range 1).map (trialAt bench.campaign) := by
    decide +kernel
  obtain ⟨hmeasured, -⟩ := runConfiguration_concludes bench pair () fun _ => geometry_obliging
  obtain ⟨-, -, -, -, hconcludes⟩ := hmeasured g (by cbv)
  obtain ⟨hconcluded, -⟩ := hconcludes hadmitted 1 (by rfl) htrials
  refine ⟨hadmitted, hfailed, ?_⟩
  change bench.Concluded pair g events result at hconcluded
  rw [hfailed] at hconcluded
  cases hconcluded with
  | @judged output deviation _ _ hdeviation hstatus hrecorded =>
    refine ⟨output, deviation, hdeviation, ?_, hrecorded⟩
    refine eq_false_of_ne_true fun haccepts => ?_
    rw [show bench.campaign.tolerance = campaign.tolerance from rfl, if_pos haccepts] at hstatus
    cases hstatus

end Bench

end SpectralBench
