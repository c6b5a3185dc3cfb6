import SpectralBench.Proofs.Campaign.Trial

/-!
# What a campaign leaves

From the preparation of a session for its next trial to the whole grid, every part of a run with the
ways in which it can go: its result, its last engine and stage, and the events that it added.
Whatever holds of all runs follows from these rules by cases, by induction on the trials of a
configuration and by induction on the grid, without the effects that the run is written in.

The engine in use is always the last that was made, so its number is one less than the number of
engines so far; this is what the preparation of a session relies on when it makes a new one.

Main statements:

* `Bench.ends_runTrials` — the trials of a configuration keep to `Bench.TrialsRan`.
* `Bench.ends_runConfiguration` — a configuration keeps to `Bench.Visited`.
* `Bench.ends_run` — a whole run keeps to `Bench.Ran`.
-/

namespace SpectralBench

/-- A platform that can make an engine of this geometry for a configuration. -/
def Platform.Makes {σ : Type} (platform : Platform (StateM σ)) (configuration : Configuration)
    (geometry : Geometry) : Prop :=
  ∃ engine world, (platform.createEngine configuration world).1 = .ok engine ∧
    engine.geometry = geometry

/-! ## The rules -/

namespace Bench

section Rules

variable {σ : Type} (bench : Bench (StateM σ)) (configuration : Configuration)

/-- How a session can be made ready for a trial: the first trial finds it ready, and every other one
finds it destroyed. -/
inductive Readied (index number : Nat) (geometry : Geometry) :
    Except Failure Unit → Nat → Geometry → List Event → Prop where
  | first : index = 0 → Readied index number geometry (.ok ()) number geometry []
  -- the same engine once more
  | rearmed : index ≠ 0 → bench.platform.reuse configuration.kind = .reusable →
      Readied index number geometry (.ok ()) number geometry []
  -- an engine of its own, which gets the next number
  | renewed {next : Geometry} : index ≠ 0 →
      bench.platform.reuse configuration.kind = .notReusable →
      bench.platform.Makes configuration next →
      Readied index number geometry (.ok ()) (number + 1) next [.created configuration (.ok next)]
  -- no engine could be made, so the one before it is still the last
  | unavailable (failure : Failure) : index ≠ 0 →
      bench.platform.reuse configuration.kind = .notReusable →
      Readied index number geometry (.error failure) number geometry
        [.created configuration (.error failure)]

/-- How the trials from an index on can go: the result, the engine and the stage at the end. -/
inductive TrialsRan : (left index number : Nat) → Geometry →
    Except Failure (Except Status Unit) → Nat → Stage → List Event → Prop where
  -- without any trial the session is as it was made
  | finished (index number : Nat) (geometry : Geometry) :
      TrialsRan 0 index number geometry (.ok (.ok ())) number
        (if index = 0 then .constructed else .destroyed) []
  -- the trial did not begin, and its records are about the preparation
  | unready {left index number number' : Nat} {geometry geometry' : Geometry} {failure : Failure}
      {result : Except Failure Status} {ready told : List Event} :
      bench.Readied configuration index number geometry (.error failure) number' geometry' ready →
      bench.Classified configuration .setup (trialAt bench.campaign index) failure result told →
      TrialsRan (left + 1) index number geometry (result.map .error) number' .destroyed
        (ready ++ told)
  -- the trial gave the configuration its status, or ended the run
  | stopped {left index number number' : Nat} {geometry geometry' : Geometry}
      {result : Except Failure Status} {stage : Stage} {ready ran : List Event} :
      bench.Readied configuration index number geometry (.ok ()) number' geometry' ready →
      bench.TrialRan configuration (trialAt bench.campaign index) number' geometry'.kind
        (result.map .error) stage ran →
      TrialsRan (left + 1) index number geometry (result.map .error) number' stage (ready ++ ran)
  | next {left index number number' last : Nat} {geometry geometry' : Geometry}
      {result : Except Failure (Except Status Unit)} {stage stage' : Stage}
      {ready ran later : List Event} :
      bench.Readied configuration index number geometry (.ok ()) number' geometry' ready →
      bench.TrialRan configuration (trialAt bench.campaign index) number' geometry'.kind
        (.ok (.ok ())) stage ran →
      TrialsRan left (index + 1) number' geometry' result last stage' later →
      TrialsRan (left + 1) index number geometry result last stage' (ready ++ (ran ++ later))

/-- How an engine can be asked whether its configuration may allocate. -/
inductive Weighed (number : Nat) (geometry : Geometry) :
    Except Failure Unit → List Event → Prop where
  -- no estimate, and nothing else is asked for
  | unknown (failure : Failure) :
      Weighed number geometry (.error failure) [.estimated number (.error failure)]
  | short {plan hostBytes : UInt64} {capabilities : Capabilities} {shortage : Shortage} :
      geometry.weigh plan capabilities.availableBytes hostBytes bench.campaign.limits =
        .error shortage →
      Weighed number geometry (.error (.insufficientMemory shortage))
        [.estimated number (.ok plan), .capabilities capabilities, .hostBytes hostBytes]
  | admitted {plan hostBytes : UInt64} {capabilities : Capabilities} :
      geometry.weigh plan capabilities.availableBytes hostBytes bench.campaign.limits = .ok () →
      Weighed number geometry (.ok ())
        [.estimated number (.ok plan), .capabilities capabilities, .hostBytes hostBytes]

/-- How the output of the last trial can be judged, if that was asked for. -/
inductive Judged (geometry : Geometry) : Except Failure Status → List Event → Prop where
  | unasked : bench.campaign.validate = false → Judged geometry (.ok .ok) []
  -- the output cannot be compared, which leaves no record
  | unmeasured {output : Array UInt8} {failure : Failure} : bench.campaign.validate = true →
      output.size = (geometry.stimulus bench.env.toHalf bench.campaign.seed).size →
      geometry.deviation (geometry.stimulus bench.env.toHalf bench.campaign.seed) output
        bench.platform.normalizes = .error failure →
      Judged geometry (.error failure) []
  | judged {output : Array UInt8} {deviation : Deviation} {status : Status}
      {result : Except Failure Unit} {events : List Event} : bench.campaign.validate = true →
      output.size = (geometry.stimulus bench.env.toHalf bench.campaign.seed).size →
      geometry.deviation (geometry.stimulus bench.env.toHalf bench.campaign.seed) output
        bench.platform.normalizes = .ok deviation →
      status = (if bench.campaign.tolerance.accepts configuration.precision deviation then .ok
        else .failed) →
      Written [bench.judgementRecord configuration status deviation] result events →
      Judged geometry (result.map fun _ => status) events

/-- How one configuration can go, with the number that its first engine gets. -/
inductive Visited (number : Nat) : Except Failure Status → List Event → Prop where
  -- no engine, so there is nothing to release
  | unmade {failure : Failure} {result : Except Failure Status} {told : List Event} :
      bench.Classified configuration .setup ⟨0, false⟩ failure result told →
      Visited number result (.created configuration (.error failure) :: told)
  -- not admitted: the engine is released before the failure is sorted
  | turnedAway {geometry : Geometry} {failure : Failure} {result : Except Failure Status}
      {weighed released told : List Event} : bench.platform.Makes configuration geometry →
      bench.Weighed number geometry (.error failure) weighed →
      Session.Dropped number .constructed released →
      bench.Classified configuration .setup ⟨0, false⟩ failure result told →
      Visited number result
        (.created configuration (.ok geometry) :: (weighed ++ (released ++ told)))
  -- admitted, but there is no number of trials, and the program stops
  | uncounted {geometry : Geometry} {failure : Failure} {weighed dropped : List Event} :
      bench.platform.Makes configuration geometry →
      bench.Weighed number geometry (.ok ()) weighed →
      bench.trials = .error failure →
      Session.Dropped number .constructed dropped →
      Visited number (.error failure) (.created configuration (.ok geometry) :: (weighed ++ dropped))
  -- admitted, but not all trials were completed
  | stopped {geometry : Geometry} {result : Except Failure Status} {total last : Nat} {stage : Stage}
      {weighed ran dropped : List Event} : bench.platform.Makes configuration geometry →
      bench.Weighed number geometry (.ok ()) weighed →
      bench.TrialsRan configuration total 0 number geometry (result.map .error) last stage ran →
      Session.Dropped last stage dropped →
      bench.trials = .ok total →
      Visited number result
        (.created configuration (.ok geometry) :: (weighed ++ (ran ++ dropped)))
  | measured {geometry : Geometry} {result : Except Failure Status} {total last : Nat}
      {stage : Stage} {weighed ran judged dropped : List Event} :
      bench.platform.Makes configuration geometry →
      bench.Weighed number geometry (.ok ()) weighed →
      bench.TrialsRan configuration total 0 number geometry (.ok (.ok ())) last stage ran →
      bench.Judged configuration geometry result judged →
      Session.Dropped last stage dropped →
      bench.trials = .ok total →
      Visited number result
        (.created configuration (.ok geometry) :: (weighed ++ (ran ++ (judged ++ dropped))))

/-- How the grid can go from a configuration on. -/
inductive GridRan : List Configuration → Nat → Tally → Except Failure Tally → List Event →
    Prop where
  | finished (number : Nat) (tally : Tally) : GridRan [] number tally (.ok tally) []
  -- a failure that ends the run leaves the rest of the grid alone
  | stopped {configuration : Configuration} {rest : List Configuration} {number : Nat}
      {tally : Tally} {failure : Failure} {visit : List Event} :
      bench.Visited configuration number (.error failure) visit →
      GridRan (configuration :: rest) number tally (.error failure) visit
  | next {configuration : Configuration} {rest : List Configuration} {number : Nat}
      {tally : Tally} {status : Status} {result : Except Failure Tally} {visit later : List Event} :
      bench.Visited configuration number (.ok status) visit →
      GridRan rest (number + (Event.engines visit).length) (tally.add status) result later →
      GridRan (configuration :: rest) number tally result (visit ++ later)

/-- What a run does before its first configuration. -/
def opening (capabilities : Capabilities) (started : String) (outcome : Except Failure Unit) :
    List Event :=
  [.capabilities capabilities,
    .started
      { title := bench.platform.title, device := capabilities.description,
        timer := bench.platform.stopwatchName, started } outcome]

/-- How the whole run can go. -/
inductive Ran : Except Failure Tally → List Event → Prop where
  | misconfigured {failure : Failure} : bench.campaign.check = .error failure →
      Ran (.error failure) []
  -- the journal could not be started
  | unstarted (capabilities : Capabilities) (started : String) (refusal : Failure) :
      bench.campaign.check = .ok () →
      Ran (.error refusal) (bench.opening capabilities started (.error refusal))
  | stopped (capabilities : Capabilities) (started : String) {failure : Failure}
      {visits : List Event} : bench.campaign.check = .ok () →
      bench.GridRan bench.campaign.configurations 0 .empty (.error failure) visits →
      Ran (.error failure) (bench.opening capabilities started (.ok ()) ++ visits)
  | finished (capabilities : Capabilities) (started : String) (outcome : Except Failure Unit)
      {tally : Tally} {visits : List Event} : bench.campaign.check = .ok () →
      bench.GridRan bench.campaign.configurations 0 .empty (.ok tally) visits →
      Ran (outcome.map fun _ => tally)
        (bench.opening capabilities started (.ok ()) ++ (visits ++ [.finished outcome]))

end Rules

end Bench

/-! ## The engines that a part of a run makes -/

theorem Event.engines_calls (number : Nat) (steps : List Step) :
    engines (calls number steps) = [] := by
  induction steps with
  | nil => rfl
  | cons step rest ih => exact ih

theorem Written.isRecord {entries : List Record} {result : Except Failure Unit}
    {events : List Event} (h : Written entries result events) : ∀ event ∈ events, event.isRecord := by
  induction h with
  | nil => exact List.forall_mem_nil _
  | cons entry _ ih => exact List.forall_mem_cons.2 ⟨rfl, ih⟩
  | refused => exact List.forall_mem_singleton.2 rfl

theorem Written.quiet {entries : List Record} {result : Except Failure Unit} {events : List Event}
    (h : Written entries result events) : ∀ event ∈ events, event.isQuiet :=
  Event.quiet_of_records h.isRecord

theorem Session.Dropped.engines {number : Nat} {stage : Stage} {events : List Event}
    (h : Dropped number stage events) : Event.engines events = [] := by
  cases h <;> rfl

namespace Bench

variable {σ : Type} {bench : Bench (StateM σ)} {configuration : Configuration} {number : Nat}
  {before : List Event}

theorem Classified.isRecord {phase : Phase} {trial : Trial} {failure : Failure}
    {result : Except Failure Status} {events : List Event}
    (h : bench.Classified configuration phase trial failure result events) :
    ∀ event ∈ events, event.isRecord := by
  cases h with
  | aborted => exact List.forall_mem_nil _
  | reported _ hwritten => exact hwritten.isRecord

theorem Classified.quiet {phase : Phase} {trial : Trial} {failure : Failure}
    {result : Except Failure Status} {events : List Event}
    (h : bench.Classified configuration phase trial failure result events) :
    ∀ event ∈ events, event.isQuiet :=
  Event.quiet_of_records h.isRecord

theorem Judged.isRecord {geometry : Geometry} {result : Except Failure Status} {events : List Event}
    (h : bench.Judged configuration geometry result events) : ∀ event ∈ events, event.isRecord := by
  cases h with
  | unasked => exact List.forall_mem_nil _
  | unmeasured => exact List.forall_mem_nil _
  | judged _ _ _ _ hwritten => exact hwritten.isRecord

theorem Judged.quiet {geometry : Geometry} {result : Except Failure Status} {events : List Event}
    (h : bench.Judged configuration geometry result events) : ∀ event ∈ events, event.isQuiet :=
  Event.quiet_of_records h.isRecord

theorem TrialRan.engines {trial : Trial} {kind : Kind}
    {result : Except Failure (Except Status Unit)} {stage : Stage} {events : List Event}
    (h : bench.TrialRan configuration trial number kind result stage events) :
    Event.engines events = [] := by
  cases h with
  | completed _ hwritten =>
    rw [Event.engines_append, Event.engines_calls, Event.engines_of_quiet hwritten.quiet,
      List.append_nil]
  | failed _ hwritten hreleased htold =>
    simp only [Event.engines_append, Event.engines_calls, Event.engines_of_quiet hwritten.quiet,
      hreleased.engines, Event.engines_of_quiet htold.quiet, List.append_nil]
    rfl
  | interrupted _ hwritten =>
    simp only [Event.engines_append, Event.engines_calls, Event.engines_of_quiet hwritten.quiet,
      List.append_nil]
    rfl

theorem Readied.engines {index number' : Nat} {geometry geometry' : Geometry}
    {result : Except Failure Unit} {events : List Event}
    (h : bench.Readied configuration index number geometry result number' geometry' events) :
    number + (Event.engines events).length = number' := by
  cases h <;> rfl

theorem TrialsRan.engines {left index last : Nat} {geometry : Geometry}
    {result : Except Failure (Except Status Unit)} {stage : Stage} {events : List Event}
    (h : bench.TrialsRan configuration left index number geometry result last stage events) :
    number + (Event.engines events).length = last := by
  induction h with
  | finished => rfl
  | unready hready htold =>
    rw [Event.engines_append, Event.engines_of_quiet htold.quiet, List.append_nil]
    exact hready.engines
  | stopped hready hran =>
    rw [Event.engines_append, hran.engines, List.append_nil]
    exact hready.engines
  | next hready hran _ ih =>
    rw [Event.engines_append, Event.engines_append, hran.engines, List.nil_append,
      List.length_append, ← Nat.add_assoc, hready.engines]
    exact ih

theorem Weighed.engines {geometry : Geometry} {result : Except Failure Unit} {events : List Event}
    (h : bench.Weighed number geometry result events) : Event.engines events = [] := by
  cases h <;> rfl

/-- A trial that was completed has released its session. -/
theorem TrialRan.stage_eq {trial : Trial} {kind : Kind} {stage : Stage} {events : List Event}
    (h : bench.TrialRan configuration trial number kind (.ok (.ok ())) stage events) :
    stage = .destroyed := by
  generalize hresult : (.ok (.ok ()) : Except Failure (Except Status Unit)) = result at h
  cases h with
  | completed => rfl
  | failed => rfl
  | interrupted => cases hresult

/-! ## Runs keep to the rules -/

/-- A new engine gets the next number. -/
theorem ends_create (hnumber : (Event.engines before).length = number) :
    Ends (bench.watched.platform.createEngine configuration).run before
      fun result events => match result with
        | .ok watched => ∃ engine : Engine (StateM σ), watched = engine.watched number ∧
            bench.platform.Makes configuration engine.geometry ∧
            events = [.created configuration (.ok engine.geometry)]
        | .error failure => events = [.created configuration (.error failure)] := by
  subst hnumber
  refine Ends.createEngine (fun engine world hmade => ?_) (fun failure => rfl)
  exact ⟨engine, rfl, ⟨engine, world, hmade, rfl⟩, rfl⟩

/-- The session of the last of the engines so far is made ready for a trial. -/
theorem ends_ready {index : Nat} {engine : Engine (StateM σ)}
    (hnumber : (Event.engines before).length = number + 1) :
    Ends ((if index = 0 then pure (.ok ()) else (bench.watched.renew configuration).run :
        StateT (WatchedSession σ) _ (Except Failure Unit)).run
        (Session.of engine number (if index = 0 then .constructed else .destroyed))) before
      fun ended events => ∃ engine' number',
        ended.2 = Session.of engine' number'
          (match ended.1 with | .ok _ => .constructed | .error _ => .destroyed) ∧
        bench.Readied configuration index number engine.geometry ended.1 number' engine'.geometry
          events := by
  by_cases hindex : index = 0
  · simp only [if_pos hindex]
    exact Ends.pure ⟨engine, number, rfl, .first hindex⟩
  · simp only [if_neg hindex]
    unfold renew
    rw [show bench.watched.platform.reuse configuration.kind =
      bench.platform.reuse configuration.kind from rfl]
    cases hreuse : bench.platform.reuse configuration.kind with
    | reusable =>
      -- every trial but the first finds its session destroyed, so arming it cannot fail
      refine Ends.mono Session.ends_rearm ?_
      rintro ⟨result, session⟩ events ⟨rfl, hrearmed⟩
      rw [if_pos rfl] at hrearmed
      dsimp only at hrearmed
      obtain ⟨rfl, rfl⟩ := hrearmed
      exact ⟨engine, number, rfl, .rearmed hindex hreuse⟩
    | notReusable =>
      change Session.Ends _ _ _ fun result session events => ∃ engine' number',
        session = Session.of engine' number'
          (match result with | .ok _ => .constructed | .error _ => .destroyed) ∧
        bench.Readied configuration index number engine.geometry result number' engine'.geometry
          events
      refine Session.Ends.call_bind (ends_create hnumber) ?_ ?_
      · rintro _ _ ⟨next, rfl, hmade, rfl⟩
        refine Session.Ends.current_bind ?_
        refine Session.Ends.set_bind ?_
        rw [← bind_pure (Session.perform _)]
        refine Session.Ends.performed_bind Session.ends_drop ?_
        intro _ dropped hdropped
        -- the session that is replaced has been destroyed, so nothing is left to do
        cases hdropped with
        | idle => exact Session.Ends.pure ⟨next, number + 1, rfl, .renewed hindex hreuse hmade⟩
        | destroyed _ hlive => exact absurd rfl hlive
      · rintro failure _ rfl
        exact ⟨engine, number, rfl, .unavailable failure hindex hreuse⟩

/-- The trials of a configuration, by induction on how many are left. What carries the induction is
that the engine in use is the last that was made, and that it has been released. -/
theorem ends_runTrials {size : Nat} (input : Array UInt8) (left : Nat) {index : Nat}
    {engine : Engine (StateM σ)} (hnumber : (Event.engines before).length = number + 1)
    (output : Vector UInt8 size) :
    Session.Ends (bench.watched.runTrials configuration input left index output)
      (Session.of engine number (if index = 0 then .constructed else .destroyed)) before
      fun result session events => ∃ engine' last stage,
        session = Session.of engine' last stage ∧
        bench.TrialsRan configuration left index number engine.geometry
          (result.map (·.map fun _ => ())) last stage events := by
  induction left generalizing index engine number before output with
  | zero => exact Session.Ends.pure ⟨engine, number, _, rfl, .finished index number _⟩
  | succ left ih =>
    unfold runTrials
    refine Session.Ends.lift_bind (ends_ready hnumber) ?_
    rintro ready _ events ⟨engine', number', hsession, hready⟩
    dsimp only at hsession hready
    subst hsession
    have hnumber' : (Event.engines (before ++ events)).length = number' + 1 := by
      -- the engine in use is still the last, also if it is a new one
      rw [Event.length_engines_append hnumber, ← hready.engines]
      omega
    cases ready with
    | error failure =>
      refine Session.Ends.map (Session.Ends.call ((ends_classify _ _ failure).mono ?_))
      intro result told htold
      refine ⟨engine', number', .destroyed, rfl, ?_⟩
      -- the preparation failed before the trial, so none is completed from here on
      have hunready : bench.TrialsRan configuration (left + 1) index number engine.geometry
        (result.map .error) number' .destroyed (events ++ told) := .unready hready htold
      cases result <;> exact hunready
    | ok _ =>
      refine (ends_runTrial (trialAt bench.campaign index) input output).bind ?_ ?_
      · rintro outcome _ ran ⟨stage, rfl, hran⟩
        cases outcome with
        | error status =>
          -- a status ends the configuration, whatever trials are left
          refine Session.Ends.pure ⟨engine', number', stage, rfl, ?_⟩
          rw [List.append_nil]
          have hstopped : bench.TrialRan configuration _ _ _
            (Except.map .error (.ok status : Except Failure Status)) _ _ := hran
          exact .stopped hready hstopped
        | ok output =>
          -- only a session that has been released can be made ready for the next trial
          have hstage := hran.stage_eq
          subst hstage
          have hlast := Event.length_engines_of_nil hnumber' hran.engines
          refine (ih hlast output).mono ?_
          rintro result _ later ⟨engine'', last, stage, rfl, hlater⟩
          exact ⟨engine'', last, stage, rfl, .next hready hran hlater⟩
      · rintro failure _ ran ⟨stage, rfl, hran⟩
        have hstopped : bench.TrialRan configuration _ _ _
          (Except.map .error (.error failure : Except Failure Status)) _ _ := hran
        exact ⟨engine', number', stage, rfl, .stopped hready hstopped⟩

variable {engine : Engine (StateM σ)}

theorem ends_weigh :
    Session.Ends bench.watched.weigh (Session.of engine number .constructed) before
      fun result session events => session = Session.of engine number .constructed ∧
        bench.Weighed number engine.geometry result events := by
  unfold weigh
  refine Session.ends_planEstimate.bind ?_ ?_
  · rintro plan _ estimated ⟨rfl, hestimated⟩
    rw [if_pos rfl] at hestimated
    subst hestimated
    refine Session.Ends.performed_bind Ends.capabilities ?_
    rintro capabilities _ rfl
    refine Session.Ends.performed_bind Ends.hostBytes ?_
    rintro hostBytes _ rfl
    refine Session.Ends.current_bind ?_
    rw [show (Session.of engine number .constructed).engine.geometry = engine.geometry from rfl,
      show bench.watched.campaign = bench.campaign from rfl]
    cases hweigh : engine.geometry.weigh plan capabilities.availableBytes hostBytes
      bench.campaign.limits with
    | ok _ => exact Session.Ends.pure ⟨rfl, .admitted hweigh⟩
    | error shortage => exact Session.Ends.throw ⟨rfl, .short hweigh⟩
  · rintro failure _ estimated ⟨rfl, hestimated⟩
    rw [if_pos rfl] at hestimated
    subst hestimated
    exact ⟨rfl, .unknown failure⟩

theorem ends_judge {geometry : Geometry} {output : Array UInt8}
    (hvalidate : bench.campaign.validate = true)
    (hsize : output.size = (geometry.stimulus bench.env.toHalf bench.campaign.seed).size) :
    Ends (bench.watched.judge configuration geometry
        (geometry.stimulus bench.env.toHalf bench.campaign.seed) output).run before
      (bench.Judged configuration geometry) := by
  unfold judge judge.liftExcept
  cases hdeviation : geometry.deviation (geometry.stimulus bench.env.toHalf bench.campaign.seed) output
    bench.watched.platform.normalizes with
  | error failure => exact Ends.pure (.unmeasured hvalidate hsize hdeviation)
  | ok deviation =>
    -- the verdict is recorded in either case, and logged only if it is a failure
    have hrecord (status : Status) (hstatus : status =
        if bench.campaign.tolerance.accepts configuration.precision deviation then .ok else .failed) :
        Ends (do
            bench.watched.journal.record (bench.judgementRecord configuration status deviation)
            return status : ExceptT Failure (Watched (StateM σ)) Status).run before
          (bench.Judged configuration geometry) := by
      refine (ends_record _).bindExcept (fun _ _ hwritten => ?_) (fun _ _ hwritten => ?_)
      · exact Ends.pure (.judged hvalidate hsize hdeviation hstatus (hwritten.append .nil))
      · exact .judged hvalidate hsize hdeviation hstatus hwritten
    refine Ends.ok_bind ?_
    cases haccepts : bench.campaign.tolerance.accepts configuration.precision deviation with
    | true =>
      rw [haccepts] at hrecord
      rw [show bench.watched.campaign = bench.campaign from rfl]
      simp only [haccepts, if_true]
      exact hrecord .ok rfl
    | false =>
      rw [haccepts] at hrecord
      rw [show bench.watched.campaign = bench.campaign from rfl]
      simp only [haccepts, Bool.false_eq_true, if_false]
      exact Ends.unseen_bind fun _ => hrecord .failed rfl

/-- Driving an engine leaves what a visit of its configuration leaves, but for the engine's making
and for the release of the session at the end. -/
theorem ends_measure (hnumber : (Event.engines before).length = number + 1)
    (hmade : bench.platform.Makes configuration engine.geometry) :
    Session.Ends (bench.watched.measure configuration) (Session.of engine number .constructed) before
      fun result session events => ∃ engine' last stage, session = Session.of engine' last stage ∧
        ∀ dropped, Session.Dropped last stage dropped →
          bench.Visited configuration number result
            (.created configuration (.ok engine.geometry) :: (events ++ dropped)) := by
  unfold measure
  refine Session.Ends.lift_bind ends_weigh ?_
  rintro result _ weighed ⟨hsession, hweighed⟩
  dsimp only at hsession hweighed
  subst hsession
  cases result with
  | error failure =>
    refine Session.Ends.lift_bind ends_release ?_
    rintro _ _ released ⟨hsession, hreleased⟩
    dsimp only at hsession
    subst hsession
    refine Session.Ends.call ((ends_classify _ _ failure).mono fun result told htold => ?_)
    refine ⟨engine, number, .destroyed, rfl, ?_⟩
    -- a session that was turned away has been released, so dropping it adds nothing
    rintro dropped (_ | ⟨_, hlive⟩)
    · rw [List.append_nil]
      exact .turnedAway hmade hweighed hreleased htold
    · exact absurd rfl hlive
  | ok _ =>
    refine Session.Ends.current_bind ?_
    have hnumber' := Event.length_engines_of_nil hnumber hweighed.engines
    rw [show bench.watched.trials = bench.trials from rfl]
    rcases htrials : bench.trials with failure | total
    · refine Session.Ends.throw ⟨engine, number, .constructed, rfl, fun dropped hdropped => ?_⟩
      rw [List.append_nil]
      exact .uncounted hmade hweighed htrials hdropped
    refine (ends_runTrials _ _ hnumber' _).bind ?_ ?_
    · rintro outcome _ ran ⟨engine', last, stage, rfl, hran⟩
      cases outcome with
      | error status =>
        refine Session.Ends.pure ⟨engine', last, stage, rfl, fun dropped hdropped => ?_⟩
        have hstopped : bench.TrialsRan configuration _ _ _ _
            (Except.map .error (.ok status : Except Failure Status)) _ _ _ := hran
        rw [List.append_nil, List.append_assoc]
        exact .stopped hmade hweighed hstopped hdropped htrials
      | ok output =>
        dsimp only
        -- without validation the output of the last trial is thrown away
        by_cases hvalidate : bench.campaign.validate = true
        · rw [if_pos (show bench.watched.campaign.validate = true from hvalidate)]
          refine Session.Ends.call ((ends_judge hvalidate output.size_toArray).mono ?_)
          intro result judged hjudged
          refine ⟨engine', last, stage, rfl, fun dropped hdropped => ?_⟩
          rw [List.append_assoc, List.append_assoc]
          exact .measured hmade hweighed hran hjudged hdropped htrials
        · rw [if_neg (show ¬bench.watched.campaign.validate = true from hvalidate)]
          refine Session.Ends.pure ⟨engine', last, stage, rfl, fun dropped hdropped => ?_⟩
          rw [List.append_assoc, List.append_assoc]
          exact .measured hmade hweighed hran (.unasked (eq_false_of_ne_true hvalidate)) hdropped
            htrials
    · rintro failure _ ran ⟨engine', last, stage, rfl, hran⟩
      refine ⟨engine', last, stage, rfl, fun dropped hdropped => ?_⟩
      have hstopped : bench.TrialsRan configuration _ _ _ _
          (Except.map .error (.error failure : Except Failure Status)) _ _ _ := hran
      rw [List.append_assoc]
      exact .stopped hmade hweighed hstopped hdropped htrials

/-- A configuration keeps to the rules: the session that its engine was in is released on the way
out. -/
theorem ends_runConfiguration (hnumber : (Event.engines before).length = number) :
    Ends (bench.watched.runConfiguration configuration).run before
      (bench.Visited configuration number) := by
  unfold runConfiguration
  refine Ends.unseen_bind fun _ => ?_
  refine Ends.liftM_bind (ends_create hnumber) ?_
  rintro (failure | _) events hcreated
  · subst hcreated
    exact (ends_classify _ _ failure).mono fun _ _ htold => .unmade htold
  · obtain ⟨engine, rfl, hmade, rfl⟩ := hcreated
    have hnumber' := Event.length_engines_append hnumber
      [.created configuration (.ok engine.geometry)]
    refine Ends.liftM_bind (ends_measure hnumber' hmade) ?_
    rintro ⟨result, session⟩ visit ⟨engine', last, stage, hsession, hvisited⟩
    dsimp only at hsession hvisited ⊢
    subst hsession
    -- on every way out the session is dropped, whatever became of it
    refine Ends.liftM_bind Session.ends_drop ?_
    intro _ dropped hdropped
    refine Ends.pure ?_
    rw [List.append_nil]
    exact hvisited dropped hdropped

/-- The grid keeps to the rules, by induction on the configurations that are left. -/
theorem ends_runAll (configurations : List Configuration) (tally : Tally)
    (hnumber : (Event.engines before).length = number) :
    Ends (bench.watched.runAll configurations tally).run before
      (bench.GridRan configurations number tally) := by
  induction configurations generalizing number before tally with
  | nil => exact Ends.pure (.finished number tally)
  | cons configuration rest ih =>
    unfold runAll
    refine (ends_runConfiguration hnumber).bindExcept ?_ ?_
    · intro status visit hvisit
      have hnext := Event.length_engines_append hnumber visit
      exact (ih (tally.add status) hnext).mono fun _ _ hlater => .next hvisit hlater
    · intro failure visit hvisit
      exact .stopped hvisit

theorem ends_start (header : Header) :
    Ends (bench.watched.journal.start header).run before
      fun result events => events = [.started header result] :=
  Ends.noting fun _ => rfl

theorem ends_finish : Ends bench.watched.journal.finish.run before
    fun result events => events = [.finished result] :=
  Ends.noting fun _ => rfl

/-- A whole run keeps to the rules. -/
theorem ends_run : Ends bench.watched.run.run [] bench.Ran := by
  unfold run
  rw [show bench.watched.campaign = bench.campaign from rfl]
  cases hcheck : bench.campaign.check with
  | error failure => exact Ends.pure (.misconfigured hcheck)
  | ok _ =>
    refine Ends.ok_bind ?_
    refine Ends.liftM_bind Ends.capabilities ?_
    rintro capabilities _ rfl
    refine Ends.unseen_bind fun started => ?_
    refine (ends_start _).bindExcept ?_ ?_
    · rintro _ _ rfl
      refine Ends.unseen_bind fun _ => ?_
      refine (ends_runAll _ _ rfl).bindExcept ?_ ?_
      · intro tally visits hgrid
        refine ends_finish.bindExcept ?_ ?_
        · rintro _ _ rfl
          refine Ends.unseen_bind fun _ => ?_
          exact Ends.pure (.finished capabilities started (.ok ()) hcheck hgrid)
        · rintro refusal _ rfl
          exact .finished capabilities started (.error refusal) hcheck hgrid
      · intro failure visits hgrid
        exact .stopped capabilities started hcheck hgrid
    · rintro refusal _ rfl
      exact .unstarted capabilities started refusal hcheck

end Bench

end SpectralBench
