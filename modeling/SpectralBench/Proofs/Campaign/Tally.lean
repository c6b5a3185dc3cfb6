import SpectralBench.Proofs.Campaign.RecordGrammar

/-!
# What a tally counts

A run counts how its configurations end, and the journal gets records of them; the two come from
different places and have to agree. They do because every configuration leaves at most one record that
decides about it: a failure that was reported, or the judgement of its output. Records of completed
steps and trials decide nothing.

A configuration that ends well is decided by a record only if outputs are judged at all.

Main statements:

* `Bench.Visited.decisions` — the decisions in the records of one configuration.
* `Bench.GridRan.counts` — a tally counts configurations, and the decisions in the records.
-/

namespace SpectralBench

/-! ## Decisions -/

/-- What a record decides about its configuration, if anything. -/
def Record.decision (entry : Record) : Option Status :=
  if entry.status ≠ .ok ∨ entry.phase = .validate then some entry.status else none

/-- A failure decides in any phase, and success only in a judgement. -/
theorem Record.decision_eq_some {entry : Record} {status : Status} :
    entry.decision = some status ↔
      entry.status = status ∧ (status = .ok → entry.phase = .validate) := by
  unfold decision
  split
  next h =>
    rw [Option.some.injEq]
    constructor
    · rintro rfl
      exact ⟨rfl, fun hok => h.resolve_left (not_not_intro hok)⟩
    · exact And.left
  next h =>
    obtain ⟨hok, hphase⟩ := not_or.1 h
    refine ⟨nofun, ?_⟩
    rintro ⟨rfl, hvalidate⟩
    exact absurd (hvalidate (not_not.1 hok)) hphase

/-- What the records in a trace decide, in order. -/
def Event.decisions (events : List Event) : List Status :=
  (records events).filterMap Record.decision

@[simp]
theorem Event.decisions_append (events later : List Event) :
    decisions (events ++ later) = decisions events ++ decisions later := by
  rw [decisions, records_append, List.filterMap_append]
  rfl

theorem Event.decisions_of_records_nil {events : List Event} (h : records events = []) :
    decisions events = [] := by
  rw [decisions, h, List.filterMap_nil]

/-- Decisions for one status are the records that decide so. -/
theorem Event.count_decisions (events : List Event) (status : Status) :
    (decisions events).count status =
      (records events).countP fun entry =>
        entry.status = status ∧ (status = .ok → entry.phase = .validate) := by
  rw [decisions, List.count, List.countP_filterMap]
  refine List.countP_congr fun entry _ => ?_
  rw [decide_eq_true_iff, ← Record.decision_eq_some]
  cases entry.decision <;> simp

/-- A failure never gives a configuration the status of success. -/
theorem Severity.ne_ok_of_status? {severity : Severity} {status : Status}
    (h : severity.status? = some status) : status ≠ .ok := by
  cases severity <;> cases h <;> exact Status.noConfusion

theorem Tally.ok_add (tally : Tally) (status : Status) :
    (tally.add status).ok = tally.ok + [status].count .ok := by
  cases status <;> rfl

theorem Tally.skipped_add (tally : Tally) (status : Status) :
    (tally.add status).skipped = tally.skipped + [status].count .skipped := by
  cases status <;> rfl

theorem Tally.failed_add (tally : Tally) (status : Status) :
    (tally.add status).failed = tally.failed + [status].count .failed := by
  cases status <;> rfl

/-! ## The decisions of the parts -/

namespace Bench

variable {σ : Type} {bench : Bench (StateM σ)} {configuration : Configuration} {number : Nat}

theorem decision_notice {phase : Phase} {trial : Trial} {failure : Failure} {status : Status}
    (h : status ≠ .ok) :
    (bench.notice configuration phase trial status failure).decision = some status :=
  Record.decision_eq_some.2 ⟨rfl, fun hok => absurd hok h⟩

theorem decision_judgementRecord {status : Status} {deviation : Deviation} :
    (bench.judgementRecord configuration status deviation).decision = some status :=
  Record.decision_eq_some.2 ⟨rfl, fun _ => rfl⟩

/-- Completed steps decide nothing. -/
theorem decisions_stepRecords (trial : Trial) (timings : List (Step × Duration)) :
    (bench.stepRecords configuration trial timings).filterMap Record.decision = [] := by
  refine List.filterMap_eq_nil_iff.2 fun entry hentry => ?_
  obtain ⟨timing, -, rfl⟩ := List.mem_map.1 hentry
  rfl

/-- A failure that gives a configuration its status decides so once. -/
theorem Classified.decisions {phase : Phase} {trial : Trial} {failure : Failure} {status : Status}
    {events : List Event}
    (h : bench.Classified configuration phase trial failure (.ok status) events) :
    Event.decisions events = [status] ∧ status ≠ .ok := by
  obtain ⟨hstatus, hrecords⟩ := h.records
  have hne := Severity.ne_ok_of_status? hstatus
  refine ⟨?_, hne⟩
  rw [Event.decisions, hrecords, List.filterMap_cons_some (decision_notice hne),
    List.filterMap_nil]

/-- What trials decide: nothing if they were completed, and otherwise the status once. -/
def Decided (outcome : Except Status Unit) (decisions : List Status) : Prop :=
  match outcome with
  | .ok () => decisions = []
  | .error status => decisions = [status] ∧ status ≠ .ok

theorem TrialRan.decided {trial : Trial} {kind : Kind} {outcome : Except Status Unit} {stage : Stage}
    {events : List Event}
    (h : bench.TrialRan configuration trial number kind (.ok outcome) stage events) :
    Decided outcome (Event.decisions events) := by
  generalize hok : (.ok outcome : Except Failure (Except Status Unit)) = result at h
  have hcalls (steps : List Step) : Event.decisions (Event.calls number steps) = [] :=
    Event.decisions_of_records_nil (Event.records_calls number steps)
  cases h with
  | interrupted => cases hok
  | @completed timings _ written _ _ hwritten =>
    cases written with
    | error refusal => cases hok
    | ok _ =>
      cases hok
      rw [Event.decisions_append, hcalls, List.nil_append, Event.decisions, hwritten.records,
        List.filterMap_append, decisions_stepRecords]
      rfl
  | @failed _ _ _ _ told written _ _ _ hwritten hreleased htold =>
    cases told with
    | error refusal => cases hok
    | ok status =>
      cases hok
      obtain ⟨hdecisions, hne⟩ := htold.decisions
      have hsteps : Event.decisions written = [] := by
        rw [Event.decisions, hwritten.records, decisions_stepRecords]
      refine ⟨?_, hne⟩
      -- of all that a trial leaves, only the report of its failure decides
      simp only [Event.decisions_append, hcalls, hsteps, hdecisions,
        Event.decisions_of_records_nil hreleased.records, List.nil_append]
      rfl

theorem TrialsRan.decided {left index last : Nat} {geometry : Geometry}
    {result : Except Failure (Except Status Unit)} {stage : Stage} {events : List Event}
    (h : bench.TrialsRan configuration left index number geometry result last stage events) :
    ∀ outcome, result = .ok outcome → Decided outcome (Event.decisions events) := by
  induction h with
  | finished =>
    rintro _ ⟨⟩
    rfl
  | @unready _ _ _ _ _ _ _ told _ _ hready htold =>
    intro outcome hok
    cases told with
    | error refusal => cases hok
    | ok status =>
      cases hok
      rw [Event.decisions_append, Event.decisions_of_records_nil hready.records, List.nil_append]
      exact htold.decisions
  | @stopped _ _ _ _ _ _ ended _ _ _ hready hran =>
    intro outcome hok
    cases ended with
    | error refusal => cases hok
    | ok status =>
      cases hok
      rw [Event.decisions_append, Event.decisions_of_records_nil hready.records, List.nil_append]
      exact hran.decided
  | next hready hran _ ih =>
    intro outcome hok
    have hnone : Event.decisions _ = [] := hran.decided
    rw [Event.decisions_append, Event.decisions_append,
      Event.decisions_of_records_nil hready.records, hnone, List.nil_append, List.nil_append]
    exact ih outcome hok

/-- A judgement decides, and without one the configuration ended well. -/
theorem Judged.decisions {geometry : Geometry} {status : Status} {events : List Event}
    (h : bench.Judged configuration geometry (.ok status) events) :
    Event.decisions events = if bench.campaign.validate ∨ status ≠ .ok then [status] else [] := by
  generalize hok : (.ok status : Except Failure Status) = result at h
  cases h with
  | unasked hvalidate =>
    cases hok
    rw [if_neg (by simp [hvalidate])]
    rfl
  | unmeasured => cases hok
  | @judged _ _ _ written _ hvalidate _ _ _ hwritten =>
    cases written with
    | error refusal => cases hok
    | ok _ =>
      cases hok
      rw [if_pos (.inl hvalidate), Event.decisions, hwritten.records,
        List.filterMap_cons_some decision_judgementRecord, List.filterMap_nil]

/-- A configuration that comes to a status is decided by one record, except that success needs none
where outputs are not judged. -/
theorem Visited.decisions {status : Status} {events : List Event}
    (h : bench.Visited configuration number (.ok status) events) :
    Event.decisions events = if bench.campaign.validate ∨ status ≠ .ok then [status] else [] := by
  have hcreated (outcome : Except Failure Geometry) (later : List Event) :
      Event.decisions (.created configuration outcome :: later) = Event.decisions later := rfl
  generalize hok : (.ok status : Except Failure Status) = result at h
  cases h with
  | unmade htold =>
    subst hok
    obtain ⟨hdecisions, hne⟩ := htold.decisions
    rw [if_pos (.inr hne), hcreated, hdecisions]
  | turnedAway _ hweighed hreleased htold =>
    subst hok
    obtain ⟨hdecisions, hne⟩ := htold.decisions
    rw [if_pos (.inr hne), hcreated, Event.decisions_append, Event.decisions_append,
      Event.decisions_of_records_nil hweighed.records,
      Event.decisions_of_records_nil hreleased.records, hdecisions]
    rfl
  | uncounted => cases hok
  | stopped _ hweighed hran hdropped =>
    subst hok
    obtain ⟨hdecisions, hne⟩ := hran.decided (.error status) rfl
    rw [if_pos (.inr hne), hcreated, Event.decisions_append, Event.decisions_append,
      Event.decisions_of_records_nil hweighed.records,
      Event.decisions_of_records_nil hdropped.records, hdecisions]
    rfl
  | measured _ hweighed hran hjudged hdropped =>
    subst hok
    -- trials that were all completed decide nothing, so the judgement does
    have htrials : Event.decisions _ = [] := hran.decided (.ok ()) rfl
    rw [hcreated, Event.decisions_append, Event.decisions_append, Event.decisions_append,
      Event.decisions_of_records_nil hweighed.records, htrials,
      Event.decisions_of_records_nil hdropped.records, List.nil_append, List.nil_append,
      List.append_nil]
    exact hjudged.decisions

/-! ## The whole grid -/

/-- From a tally on, a run of the grid counts its configurations, and the decisions in its records;
those for success count only where outputs are judged. -/
theorem GridRan.counts {configurations : List Configuration} {tally final : Tally}
    {events : List Event}
    (h : bench.GridRan configurations number tally (.ok final) events) :
    final.total = tally.total + configurations.length ∧
      final.skipped = tally.skipped + (Event.decisions events).count .skipped ∧
      final.failed = tally.failed + (Event.decisions events).count .failed ∧
      (bench.campaign.validate → final.ok = tally.ok + (Event.decisions events).count .ok) := by
  generalize hok : (.ok final : Except Failure Tally) = result at h
  induction h with
  | finished =>
    cases hok
    exact ⟨rfl, rfl, rfl, fun _ => rfl⟩
  | stopped => cases hok
  | @next _ _ _ tally status _ visit later hvisit _ ih =>
    obtain ⟨htotal, hskipped, hfailed, hsucceeded⟩ := ih hok
    rw [Tally.total_add] at htotal
    -- each configuration adds one to its own count, in the tally as in the records
    have hcount (counted : Status) (hcounted : counted = .ok → bench.campaign.validate) :
        (Event.decisions (visit ++ later)).count counted =
          [status].count counted + (Event.decisions later).count counted := by
      rw [Event.decisions_append, List.count_append, hvisit.decisions]
      split
      next => rfl
      next hnone =>
        obtain ⟨hvalidate, hstatus⟩ := not_or.1 hnone
        have hne : counted ≠ status := by
          rintro rfl
          exact hvalidate (hcounted (not_not.1 hstatus))
        rw [List.count_singleton, beq_false_of_ne hne.symm]
        rfl
    refine ⟨?_, ?_, ?_, fun hvalidate => ?_⟩
    · rw [htotal, List.length_cons]
      omega
    · rw [hskipped, hcount .skipped nofun, Tally.skipped_add, Nat.add_assoc]
    · rw [hfailed, hcount .failed nofun, Tally.failed_add, Nat.add_assoc]
    · rw [hsucceeded hvalidate, hcount .ok fun _ => hvalidate, Tally.ok_add, Nat.add_assoc]

/-- A run that comes to a tally has counted every configuration, and every decision in its records;
those for success count only where outputs are judged. -/
theorem Ran.counts {tally : Tally} {events : List Event} (h : bench.Ran (.ok tally) events) :
    tally.total = bench.campaign.configurations.length ∧
      tally.skipped = (Event.decisions events).count .skipped ∧
      tally.failed = (Event.decisions events).count .failed ∧
      (bench.campaign.validate → tally.ok = (Event.decisions events).count .ok) := by
  generalize hok : (.ok tally : Except Failure Tally) = result at h
  cases h with
  | misconfigured => cases hok
  | unstarted => cases hok
  | stopped => cases hok
  | @finished capabilities started outcome _ visits _ hgrid =>
    cases outcome with
    | error refusal => cases hok
    | ok _ =>
      cases hok
      have hvisits : Event.decisions (bench.opening capabilities started (.ok ()) ++
          (visits ++ [.finished (.ok ())])) = Event.decisions visits := by
        rw [Event.decisions_append, Event.decisions_append]
        exact (List.nil_append _).trans (List.append_nil _)
      rw [hvisits]
      -- the run begins with a tally of nothing
      obtain ⟨htotal, hskipped, hfailed, hsucceeded⟩ := hgrid.counts
      rw [Tally.empty] at htotal hskipped hfailed hsucceeded
      exact ⟨htotal.trans (Nat.zero_add _), hskipped.trans (Nat.zero_add _),
        hfailed.trans (Nat.zero_add _), fun hvalidate => (hsucceeded hvalidate).trans (Nat.zero_add _)⟩

/-- On whatever bench, a run that comes to a tally has one configuration of the grid for each count,
and its records have the statuses that the tally says. -/
theorem counts_of_run (bench : Bench (StateM σ)) (world : σ) {tally : Tally}
    (hok : ((bench.watched.run.run.run []).run world).1.1 = .ok tally) :
    let entries := Event.records ((bench.watched.run.run.run []).run world).1.2
    bench.campaign.configurations.length = tally.ok + tally.skipped + tally.failed ∧
      tally.skipped = entries.countP (·.status = .skipped) ∧
      tally.failed = entries.countP (·.status = .failed) ∧
      (bench.campaign.validate = true → tally.ok = entries.countP fun entry =>
        entry.status = .ok ∧ entry.phase = .validate) := by
  intro entries
  have hends : Ends bench.watched.run.run [] bench.Ran := ends_run
  obtain ⟨events, htrace, hran⟩ := hends world
  rw [hok] at hran
  have hentries : entries = Event.records events := congrArg Event.records htrace
  obtain ⟨htotal, hskipped, hfailed, hsucceeded⟩ := hran.counts
  rw [Event.count_decisions, ← hentries] at hskipped hfailed hsucceeded
  refine ⟨htotal.symm, hskipped.trans ?_, hfailed.trans ?_, fun hvalidate =>
    (hsucceeded hvalidate).trans ?_⟩
  · simp
  · simp
  · simp

end Bench

end SpectralBench
