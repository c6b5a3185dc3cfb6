import SpectralBench.Proofs.Campaign
import SpectralBench.Proofs.Campaign.Custody

/-!
# The lifetime of engines

A run keeps its engines in good custody, however its calls end and wherever it stops: on every way
out the engine in use is released, and no engine is allocated before its configuration was admitted.

Main statements:

* `Bench.run_lifetimes` — releases, the one engine that lives, and admission, over a whole run.
-/

namespace SpectralBench

/-! ## Orderly continuations -/

theorem Orderly.append_quiet {reuse : Kind → Reuse} {trace events : List Event}
    {standing : Standing} (h : Orderly reuse trace standing)
    (hquiet : ∀ event ∈ events, event.isQuiet) :
    Orderly reuse (trace ++ events) standing := by
  induction events generalizing trace with
  | nil =>
    rw [List.append_nil]
    exact h
  | cons event rest ih =>
    rw [List.append_cons]
    have hfirst : Orderly reuse (trace ++ [event]) standing :=
      .quiet (hquiet event List.mem_cons_self) h
    exact ih hfirst fun other hother => hquiet other (List.mem_cons_of_mem event hother)

theorem Orderly.append_calls {reuse : Kind → Reuse} {trace : List Event} {number : Nat}
    {steps : List Step} (h : Orderly reuse trace .live)
    (hlast : (Event.engines trace).length = number + 1)
    (hsteps : ∀ step ∈ steps, step ≠ .allocate ∧ step ≠ .destroy) :
    Orderly reuse (trace ++ Event.calls number steps) .live := by
  induction steps generalizing trace with
  | nil =>
    rw [Event.calls, List.map_nil, List.append_nil]
    exact h
  | cons step rest ih =>
    obtain ⟨hallocate, hdestroy⟩ := hsteps step List.mem_cons_self
    rw [Event.calls, List.map_cons, List.append_cons]
    refine ih (.called (.ok ()) hlast hallocate hdestroy h) ?_ ?_
    · exact Event.length_engines_of_nil hlast rfl
    · exact fun other hother => hsteps other (List.mem_cons_of_mem step hother)

/-- Releasing what is left leaves nothing to do. -/
theorem Orderly.append_dropped {reuse : Kind → Reuse} {trace events : List Event} {number : Nat}
    {standing : Standing} {stage : Stage} (h : Orderly reuse trace standing)
    (hlast : (Event.engines trace).length = number + 1)
    (hstage : standing = .settled ↔ stage = .destroyed)
    (hdropped : Session.Dropped number stage events) : Orderly reuse (trace ++ events) .settled := by
  cases hdropped with
  | idle hdestroyed =>
    rw [hstage.2 hdestroyed] at h
    rw [List.append_nil]
    exact h
  | destroyed outcome hlive => exact .destroyed outcome hlast (fun h => hlive (hstage.1 h)) h

/-- The steps of a trial: an allocation first, a release last, and neither in between. -/
theorem Step.sequence_eq (kind : Kind) : ∃ middle,
    sequence kind = .allocate :: (middle ++ [.destroy]) ∧
      ∀ step ∈ middle, step ≠ .allocate ∧ step ≠ .destroy := by
  cases kind with
  | real =>
    exact ⟨[.planForward, .upload, .executeForward, .planInverse, .executeInverse, .download], rfl,
      by decide⟩
  | complex =>
    exact ⟨[.planForward, .upload, .executeForward, .executeInverse, .download], rfl, by decide⟩

theorem Stage.after_ne_destroyed {trail : List Step} (h : ∀ step ∈ trail, step ≠ .destroy) :
    after trail ≠ .destroyed := by
  obtain rfl | ⟨rest, last, rfl⟩ := List.eq_nil_or_concat trail
  · exact Stage.noConfusion
  · rw [List.concat_eq_append] at h ⊢
    have hlast := h last (List.mem_append_right _ List.mem_cons_self)
    rw [after_concat]
    cases last <;> first | exact Stage.noConfusion | exact absurd rfl hlast

namespace Bench

variable {σ : Type} {bench : Bench (StateM σ)} {configuration : Configuration} {number : Nat}
  {before : List Event}

/-- A trace on which the engine in use may allocate: it is new, or it was released and may be used
again. -/
structure Ready (bench : Bench (StateM σ)) (configuration : Configuration) (number : Nat)
    (trace : List Event) : Prop where
  last : (Event.engines trace).length = number + 1
  configured : (Event.engines trace)[number]? = some configuration
  orderly : Orderly bench.platform.reuse trace .fresh ∨
    bench.platform.reuse configuration.kind = .reusable ∧
      Orderly bench.platform.reuse trace .settled

theorem Ready.allocate (h : bench.Ready configuration number before)
    (outcome : Except Failure Unit) :
    Orderly bench.platform.reuse (before ++ [.called number .allocate outcome]) .live := by
  obtain hfresh | ⟨hreuse, hsettled⟩ := h.orderly
  · exact .allocated outcome h.last hfresh
  · exact .again outcome h.last h.configured hreuse hsettled

/-- The steps of a trial up to one whose end is left open. -/
theorem Ready.steps (h : bench.Ready configuration number before) {kind : Kind} {done : List Step}
    {step : Step} {rest : List Step} (hsteps : Step.sequence kind = done ++ step :: rest)
    (outcome : Except Failure Unit) :
    ∃ standing, Orderly bench.platform.reuse
        (before ++ (Event.calls number done ++ [.called number step outcome])) standing ∧
      (standing = .settled ↔
        (if step = .destroy then .destroyed else Stage.after done) = .destroyed) := by
  obtain ⟨middle, hsequence, hmiddle⟩ := Step.sequence_eq kind
  rw [hsequence] at hsteps
  -- the step is the allocation, the release at the end, or one of those in between
  cases done with
  | nil =>
    obtain ⟨rfl, -⟩ := List.cons.inj hsteps
    exact ⟨.live, h.allocate outcome, by decide⟩
  | cons first more =>
    obtain ⟨rfl, hmore⟩ := List.cons.inj hsteps
    have htrace :
        before ++ (Event.calls number (.allocate :: more) ++ [.called number step outcome]) =
          before ++ [.called number .allocate (.ok ())] ++ Event.calls number more ++
            [.called number step outcome] := by
      simp [Event.calls]
    have hlast : (Event.engines (before ++ [.called number .allocate (.ok ())])).length =
        number + 1 := Event.length_engines_of_nil h.last rfl
    have hlast' := Event.length_engines_of_nil hlast (Event.engines_calls number more)
    rw [htrace]
    -- what comes behind the step tells whether it is the last of the trial
    obtain rfl | ⟨most, final, rfl⟩ := List.eq_nil_or_concat rest
    · -- the step is the release at the end of the trial
      obtain ⟨rfl, hrelease⟩ := List.append_inj' hmore rfl
      obtain ⟨rfl, -⟩ := List.cons.inj hrelease
      have hlive := (h.allocate (.ok ())).append_calls hlast hmiddle
      rw [if_pos rfl]
      exact ⟨.settled, .destroyed outcome hlast' Standing.noConfusion hlive, iff_of_true rfl rfl⟩
    · have hmiddles : middle ++ [.destroy] = (more ++ step :: most) ++ [final] := by
        simpa using hmore
      obtain ⟨rfl, -⟩ := List.append_inj' hmiddles rfl
      have hmores (other : Step) (hother : other ∈ more) :=
        hmiddle other (List.mem_append_left _ hother)
      obtain ⟨hallocate, hdestroy⟩ := hmiddle step (List.mem_append_right _ List.mem_cons_self)
      have hlive := (h.allocate (.ok ())).append_calls hlast hmores
      refine ⟨.live, .called outcome hlast' hallocate hdestroy hlive, ?_⟩
      rw [if_neg hdestroy]
      refine iff_of_false Standing.noConfusion (Stage.after_ne_destroyed fun other hother => ?_)
      obtain rfl | hother := List.mem_cons.1 hother
      · exact Step.noConfusion
      · exact (hmores other hother).2

/-- A trial keeps its engine in custody, and leaves it settled exactly when its session is
destroyed. -/
theorem TrialRan.orderly {trial : Trial} {kind : Kind}
    {result : Except Failure (Except Status Unit)} {stage : Stage} {events : List Event}
    (h : bench.TrialRan configuration trial number kind result stage events)
    (hready : bench.Ready configuration number before) :
    ∃ standing, Orderly bench.platform.reuse (before ++ events) standing ∧
      (standing = .settled ↔ stage = .destroyed) := by
  cases h with
  | completed _ hwritten =>
    obtain ⟨middle, hsequence, -⟩ := Step.sequence_eq kind
    rw [← List.cons_append] at hsequence
    obtain ⟨standing, horderly, hsettled⟩ := hready.steps hsequence (.ok ())
    -- a completed trial is one whose release ended well
    have hcalls : Event.calls number (Step.sequence kind) =
        Event.calls number (.allocate :: middle) ++ [.called number .destroy (.ok ())] := by
      rw [hsequence, Event.calls, List.map_append]
      rfl
    rw [← List.append_assoc, hcalls]
    exact ⟨standing, horderly.append_quiet hwritten.quiet, hsettled⟩
  | @failed timings step _ failure _ written _ _ hsteps hwritten hreleased htold =>
    obtain ⟨standing, horderly, hsettled⟩ := hready.steps hsteps (.error failure)
    have hcalled : Event.engines (Event.calls number (timings.map (·.1)) ++
        [.called number step (.error failure)]) = [] := by
      rw [Event.engines_append, Event.engines_calls]
      rfl
    have hlast := Event.length_engines_of_nil (Event.length_engines_of_nil hready.last hcalled)
      (Event.engines_of_quiet hwritten.quiet)
    -- the release finds nothing to do if the step that failed was itself a release
    have hdropped := (horderly.append_quiet hwritten.quiet).append_dropped hlast hsettled hreleased
    have htold := hdropped.append_quiet htold.quiet
    rw [List.append_assoc, List.append_assoc, List.append_assoc] at htold
    exact ⟨.settled, htold, iff_of_true rfl rfl⟩
  | @interrupted timings step _ failure _ _ hsteps hwritten =>
    obtain ⟨standing, horderly, hsettled⟩ := hready.steps hsteps (.error failure)
    rw [← List.append_assoc]
    exact ⟨standing, horderly.append_quiet hwritten.quiet, hsettled⟩

theorem Readied.ready {index number' : Nat} {geometry geometry' : Geometry} {events : List Event}
    (h : bench.Readied configuration index number geometry (.ok ()) number' geometry' events)
    (hlast : (Event.engines before).length = number + 1)
    (hconfigured : (Event.engines before)[number]? = some configuration)
    (horderly : Orderly bench.platform.reuse before (if index = 0 then .fresh else .settled)) :
    bench.Ready configuration number' (before ++ events) := by
  cases h with
  | first hindex =>
    rw [if_pos hindex] at horderly
    rw [List.append_nil]
    exact ⟨hlast, hconfigured, .inl horderly⟩
  | rearmed hindex hreuse =>
    rw [if_neg hindex] at horderly
    rw [List.append_nil]
    exact ⟨hlast, hconfigured, .inr ⟨hreuse, horderly⟩⟩
  | renewed hindex =>
    rw [if_neg hindex] at horderly
    have hengines : Event.engines (before ++ [.created configuration (.ok geometry')]) =
        Event.engines before ++ [configuration] := Event.engines_append _ _
    refine ⟨?_, ?_, .inl (.created configuration geometry' horderly)⟩
    · rw [hengines, List.length_append, hlast]
      rfl
    · rw [hengines, ← hlast, List.getElem?_concat_length]

/-- The trials of a configuration keep their engines in custody. By induction on the trials that are
left: before the first the engine is new, before any other it is settled. -/
theorem TrialsRan.orderly {left index last : Nat} {geometry : Geometry}
    {result : Except Failure (Except Status Unit)} {stage : Stage} {events : List Event}
    (h : bench.TrialsRan configuration left index number geometry result last stage events) :
    ∀ before, (Event.engines before).length = number + 1 →
      (Event.engines before)[number]? = some configuration →
      Orderly bench.platform.reuse before (if index = 0 then .fresh else .settled) →
      ∃ standing, Orderly bench.platform.reuse (before ++ events) standing ∧
        (standing = .settled ↔ stage = .destroyed) := by
  induction h with
  | finished index =>
    intro before _ _ horderly
    rw [List.append_nil]
    refine ⟨_, horderly, ?_⟩
    split <;> decide
  | unready hready htold =>
    intro before _ _ horderly
    cases hready with
    | unavailable failure hindex =>
      -- no engine was made, and the one before it has been settled
      rw [if_neg hindex] at horderly
      refine ⟨.settled, horderly.append_quiet ?_, iff_of_true rfl rfl⟩
      exact List.forall_mem_cons.2 ⟨rfl, htold.quiet⟩
  | stopped hready hran =>
    intro before hlast hconfigured horderly
    rw [← List.append_assoc]
    exact hran.orderly (hready.ready hlast hconfigured horderly)
  | @next _ _ _ _ _ _ _ _ _ _ ready ran _ hready hran _ ih =>
    intro before hlast hconfigured horderly
    have hnext := hready.ready hlast hconfigured horderly
    obtain ⟨standing, hrest, hsettled⟩ := hran.orderly hnext
    -- a completed trial leaves its engine settled, as the next one needs it
    have hstanding := hsettled.2 hran.stage_eq
    subst hstanding
    rw [← List.append_assoc, ← List.append_assoc]
    refine ih (before ++ ready ++ ran) (Event.length_engines_of_nil hnext.last hran.engines) ?_ hrest
    rw [Event.engines_append _ ran, hran.engines, List.append_nil]
    exact hnext.configured

theorem Weighed.orderly {geometry : Geometry} {result : Except Failure Unit} {events : List Event}
    (h : bench.Weighed number geometry result events)
    (hlast : (Event.engines before).length = number + 1)
    (horderly : Orderly bench.platform.reuse before .fresh) :
    Orderly bench.platform.reuse (before ++ events) .fresh := by
  cases h with
  | unknown failure => exact .estimated (.error failure) hlast horderly
  | @short plan hostBytes capabilities =>
    rw [List.append_cons]
    refine Orderly.append_quiet (.estimated (.ok plan) hlast horderly) ?_
    exact List.forall_mem_cons.2 ⟨rfl, List.forall_mem_singleton.2 rfl⟩
  | @admitted plan hostBytes capabilities =>
    rw [List.append_cons]
    refine Orderly.append_quiet (.estimated (.ok plan) hlast horderly) ?_
    exact List.forall_mem_cons.2 ⟨rfl, List.forall_mem_singleton.2 rfl⟩

/-- The trials of a configuration that was admitted, with what comes behind them. -/
theorem TrialsRan.settled {geometry : Geometry} {result : Except Failure (Except Status Unit)}
    {left last : Nat} {stage : Stage} {ran judged dropped : List Event}
    (h : bench.TrialsRan configuration left 0 number geometry result last stage ran)
    (hlast : (Event.engines before).length = number + 1)
    (hconfigured : (Event.engines before)[number]? = some configuration)
    (horderly : Orderly bench.platform.reuse before .fresh)
    (hquiet : ∀ event ∈ judged, event.isQuiet)
    (hdropped : Session.Dropped last stage dropped) :
    Orderly bench.platform.reuse (before ++ (ran ++ (judged ++ dropped))) .settled := by
  obtain ⟨standing, hran, hstage⟩ := h.orderly before hlast hconfigured horderly
  -- the trials may have made engines of their own, and the judgement makes none
  have hused : (Event.engines (before ++ ran ++ judged)).length = last + 1 := by
    rw [Event.length_engines_of_nil (Event.length_engines_append hlast ran)
      (Event.engines_of_quiet hquiet), ← h.engines]
    omega
  rw [← List.append_assoc, ← List.append_assoc]
  exact (hran.append_quiet hquiet).append_dropped hused hstage hdropped

/-- A visit leaves nothing to do if it found nothing to do. -/
theorem Visited.orderly {result : Except Failure Status} {events : List Event}
    (h : bench.Visited configuration number result events)
    (hnumber : (Event.engines before).length = number)
    (horderly : Orderly bench.platform.reuse before .settled) :
    Orderly bench.platform.reuse (before ++ events) .settled := by
  have hcreated (geometry : Geometry) :
      Orderly bench.platform.reuse (before ++ [.created configuration (.ok geometry)]) .fresh :=
    .created configuration geometry horderly
  have hlast (geometry : Geometry) :
      (Event.engines (before ++ [.created configuration (.ok geometry)])).length = number + 1 :=
    Event.length_engines_append hnumber _
  -- the engine that was made first for the configuration is of that configuration
  have hconfigured {geometry : Geometry} {result : Except Failure Unit} {weighed : List Event}
      (hweighed : bench.Weighed number geometry result weighed) :
      (Event.engines (before ++ [.created configuration (.ok geometry)] ++ weighed))[number]? =
        some configuration := by
    rw [Event.engines_append, Event.engines_append, hweighed.engines, List.append_nil, ← hnumber]
    exact List.getElem?_concat_length
  cases h with
  | unmade htold => exact horderly.append_quiet (List.forall_mem_cons.2 ⟨rfl, htold.quiet⟩)
  | @turnedAway geometry _ _ _ _ _ _ hweighed hreleased htold =>
    rw [List.append_cons, ← List.append_assoc, ← List.append_assoc]
    refine Orderly.append_quiet ?_ htold.quiet
    exact (hweighed.orderly (hlast geometry) (hcreated geometry)).append_dropped
      (Event.length_engines_of_nil (hlast geometry) hweighed.engines) (by decide) hreleased
  | @uncounted geometry _ _ _ _ hweighed _ hdropped =>
    rw [List.append_cons, ← List.append_assoc]
    exact (hweighed.orderly (hlast geometry) (hcreated geometry)).append_dropped
      (Event.length_engines_of_nil (hlast geometry) hweighed.engines) (by decide) hdropped
  | @stopped geometry _ _ _ _ _ _ _ _ hweighed hran hdropped =>
    rw [List.append_cons, ← List.append_assoc]
    -- nothing is judged, so nothing stands between the trials and the release
    change Orderly _ (_ ++ (_ ++ ([] ++ _))) _
    exact hran.settled (Event.length_engines_of_nil (hlast geometry) hweighed.engines)
      (hconfigured hweighed) (hweighed.orderly (hlast geometry) (hcreated geometry))
      (List.forall_mem_nil _) hdropped
  | @measured geometry _ _ _ _ _ _ _ _ _ hweighed hran hjudged hdropped =>
    rw [List.append_cons, ← List.append_assoc]
    exact hran.settled (Event.length_engines_of_nil (hlast geometry) hweighed.engines)
      (hconfigured hweighed) (hweighed.orderly (hlast geometry) (hcreated geometry)) hjudged.quiet
      hdropped

/-- The grid, by induction on the configurations that are left. -/
theorem GridRan.orderly {configurations : List Configuration} {tally : Tally}
    {result : Except Failure Tally} {events : List Event}
    (h : bench.GridRan configurations number tally result events) :
    ∀ before, (Event.engines before).length = number →
      Orderly bench.platform.reuse before .settled →
      Orderly bench.platform.reuse (before ++ events) .settled := by
  induction h with
  | finished =>
    intro before _ horderly
    rw [List.append_nil]
    exact horderly
  | stopped hvisit =>
    intro before hnumber horderly
    exact hvisit.orderly hnumber horderly
  | @next _ _ _ _ _ _ visit _ hvisit _ ih =>
    intro before hnumber horderly
    rw [← List.append_assoc]
    exact ih (before ++ visit) (Event.length_engines_append hnumber visit)
      (hvisit.orderly hnumber horderly)

theorem quiet_opening (capabilities : Capabilities) (started : String)
    (outcome : Except Failure Unit) :
    ∀ event ∈ bench.opening capabilities started outcome, event.isQuiet :=
  List.forall_mem_cons.2 ⟨rfl, List.forall_mem_singleton.2 rfl⟩

theorem Ran.orderly {result : Except Failure Tally} {events : List Event}
    (h : bench.Ran result events) : Orderly bench.platform.reuse events .settled := by
  have hopening (capabilities : Capabilities) (started : String) (outcome : Except Failure Unit) :
      Orderly bench.platform.reuse (bench.opening capabilities started outcome) .settled :=
    Orderly.append_quiet .start (quiet_opening capabilities started outcome)
  cases h with
  | misconfigured => exact .start
  | unstarted capabilities started refusal => exact hopening capabilities started (.error refusal)
  | stopped capabilities started _ hgrid =>
    exact hgrid.orderly _ rfl (hopening capabilities started (.ok ()))
  | finished capabilities started outcome _ hgrid =>
    rw [← List.append_assoc]
    refine Orderly.append_quiet ?_ (List.forall_mem_singleton.2 rfl)
    exact hgrid.orderly _ rfl (hopening capabilities started (.ok ()))

end Bench

/-! ## Admission -/

/-- Whether an event belongs to the trials of a configuration: a new engine for it, a call of a step,
or a record. -/
def Event.continues (configuration : Configuration) : Event → Bool
  | .created other _ => other = configuration
  | .called .. => true
  | .recorded .. => true
  | _ => false

/-- A visit of a configuration allocates only if the configuration was admitted first: its engine was
made, gave an estimate, and was found to fit with it. After that there is no other estimate. -/
def Admits (limits : Limits) (number : Nat) (configuration : Configuration) (visit : List Event) :
    Prop :=
  (∃ engine outcome, .called engine .allocate outcome ∈ visit) →
    ∃ geometry plan capabilities hostBytes rest,
      visit = .created configuration (.ok geometry) :: .estimated number (.ok plan) ::
        .capabilities capabilities :: .hostBytes hostBytes :: rest ∧
      geometry.weigh plan capabilities.availableBytes hostBytes limits = .ok () ∧
      ∀ event ∈ rest, event.continues configuration

/-- A tour of configurations, from the first on and as far as it goes: one visit after the other,
each with the number that its first engine gets. -/
inductive Tour (limits : Limits) : Nat → List Configuration → List Event → Prop where
  | ended (number : Nat) (configurations : List Configuration) : Tour limits number configurations []
  | visit {number : Nat} {configuration : Configuration} {configurations : List Configuration}
      {visit later : List Event} : Admits limits number configuration visit →
      Tour limits (number + (Event.engines visit).length) configurations later →
      Tour limits number (configuration :: configurations) (visit ++ later)

theorem Event.continues_of_records {events : List Event} (h : ∀ event ∈ events, event.isRecord)
    (configuration : Configuration) : ∀ event ∈ events, event.continues configuration := by
  intro event hevent
  have hrecord := h event hevent
  cases event <;> first | rfl | cases hrecord

theorem Session.Dropped.continues {number : Nat} {stage : Stage} {events : List Event}
    (h : Dropped number stage events) (configuration : Configuration) :
    ∀ event ∈ events, event.continues configuration := by
  cases h with
  | idle => exact List.forall_mem_nil _
  | destroyed => exact List.forall_mem_singleton.2 rfl

theorem Session.Dropped.not_allocate {number : Nat} {stage : Stage} {events : List Event}
    (h : Dropped number stage events) (engine : Nat) (outcome : Except Failure Unit) :
    .called engine .allocate outcome ∉ events := by
  cases h <;> simp

theorem Event.continues_calls (number : Nat) (steps : List Step) (configuration : Configuration) :
    ∀ event ∈ calls number steps, event.continues configuration := by
  intro event hevent
  obtain ⟨step, _, rfl⟩ := List.mem_map.1 hevent
  rfl

namespace Bench

variable {σ : Type} {bench : Bench (StateM σ)} {configuration : Configuration} {number : Nat}

theorem TrialRan.continues {trial : Trial} {kind : Kind}
    {result : Except Failure (Except Status Unit)} {stage : Stage} {events : List Event}
    (h : bench.TrialRan configuration trial number kind result stage events) :
    ∀ event ∈ events, event.continues configuration := by
  cases h with
  | completed _ hwritten =>
    exact List.forall_mem_append.2 ⟨Event.continues_calls number _ configuration,
      Event.continues_of_records hwritten.isRecord configuration⟩
  | failed _ hwritten hreleased htold =>
    simp only [List.forall_mem_append, List.forall_mem_singleton]
    exact ⟨⟨Event.continues_calls number _ configuration, rfl⟩,
      Event.continues_of_records hwritten.isRecord configuration, hreleased.continues configuration,
      Event.continues_of_records htold.isRecord configuration⟩
  | interrupted _ hwritten =>
    simp only [List.forall_mem_append, List.forall_mem_singleton]
    exact ⟨⟨Event.continues_calls number _ configuration, rfl⟩,
      Event.continues_of_records hwritten.isRecord configuration⟩

theorem Readied.continues {index number' : Nat} {geometry geometry' : Geometry}
    {result : Except Failure Unit} {events : List Event}
    (h : bench.Readied configuration index number geometry result number' geometry' events) :
    ∀ event ∈ events, event.continues configuration := by
  cases h with
  | first => exact List.forall_mem_nil _
  | rearmed => exact List.forall_mem_nil _
  | renewed => exact List.forall_mem_singleton.2 (decide_eq_true rfl)
  | unavailable => exact List.forall_mem_singleton.2 (decide_eq_true rfl)

theorem TrialsRan.continues {left index last : Nat} {geometry : Geometry}
    {result : Except Failure (Except Status Unit)} {stage : Stage} {events : List Event}
    (h : bench.TrialsRan configuration left index number geometry result last stage events) :
    ∀ event ∈ events, event.continues configuration := by
  induction h with
  | finished => exact List.forall_mem_nil _
  | unready hready htold =>
    exact List.forall_mem_append.2 ⟨hready.continues,
      Event.continues_of_records htold.isRecord configuration⟩
  | stopped hready hran => exact List.forall_mem_append.2 ⟨hready.continues, hran.continues⟩
  | next hready hran _ ih =>
    simp only [List.forall_mem_append]
    exact ⟨hready.continues, hran.continues, ih⟩

theorem Weighed.not_allocate {geometry : Geometry} {result : Except Failure Unit}
    {events : List Event} (h : bench.Weighed number geometry result events) (engine : Nat)
    (outcome : Except Failure Unit) : .called engine .allocate outcome ∉ events := by
  cases h <;> simp

/-- A visit allocates only if its configuration was admitted first. -/
theorem Visited.admits {result : Except Failure Status} {events : List Event}
    (h : bench.Visited configuration number result events) :
    Admits bench.campaign.limits number configuration events := by
  -- records allocate nothing
  have htold {phase : Phase} {trial : Trial} {failure : Failure} {result : Except Failure Status}
      {told : List Event} (h : bench.Classified configuration phase trial failure result told)
      (engine : Nat) (outcome : Except Failure Unit) : .called engine .allocate outcome ∉ told :=
    fun hallocate => by cases h.isRecord _ hallocate
  rintro ⟨engine, outcome, hallocate⟩
  -- a visit that ends before its trials allocates nothing, so there is nothing to show
  cases h with
  | unmade h =>
    obtain himpossible | hlater := List.mem_cons.1 hallocate
    · cases himpossible
    · exact absurd hlater (htold h engine outcome)
  | turnedAway _ hweighed hreleased h =>
    simp only [List.mem_cons, List.mem_append, reduceCtorEq, false_or] at hallocate
    obtain hallocate | hallocate | hallocate := hallocate
    · exact absurd hallocate (hweighed.not_allocate engine outcome)
    · exact absurd hallocate (hreleased.not_allocate engine outcome)
    · exact absurd hallocate (htold h engine outcome)
  | uncounted _ hweighed _ hdropped =>
    simp only [List.mem_cons, List.mem_append, reduceCtorEq, false_or] at hallocate
    obtain hallocate | hallocate := hallocate
    · exact absurd hallocate (hweighed.not_allocate engine outcome)
    · exact absurd hallocate (hdropped.not_allocate engine outcome)
  | @stopped geometry _ _ _ _ weighed ran dropped _ hweighed hran hdropped =>
    -- the only way to come to the trials is to have been admitted
    cases hweighed with
    | @admitted plan hostBytes capabilities hfits =>
      refine ⟨geometry, plan, capabilities, hostBytes, ran ++ dropped, rfl, hfits, ?_⟩
      exact List.forall_mem_append.2 ⟨hran.continues, hdropped.continues configuration⟩
  | @measured geometry _ _ _ _ weighed ran judged dropped _ hweighed hran hjudged hdropped =>
    cases hweighed with
    | @admitted plan hostBytes capabilities hfits =>
      refine ⟨geometry, plan, capabilities, hostBytes, ran ++ (judged ++ dropped), rfl, hfits, ?_⟩
      simp only [List.forall_mem_append]
      exact ⟨hran.continues, Event.continues_of_records hjudged.isRecord configuration,
        hdropped.continues configuration⟩

theorem GridRan.tour {configurations : List Configuration} {tally : Tally}
    {result : Except Failure Tally} {events : List Event}
    (h : bench.GridRan configurations number tally result events) :
    Tour bench.campaign.limits number configurations events := by
  induction h with
  | finished number => exact .ended number []
  | @stopped _ rest _ _ _ visit hvisit =>
    -- the tour ends where the run was stopped
    have hended := Tour.visit hvisit.admits (.ended _ rest)
    rw [List.append_nil] at hended
    exact hended
  | next hvisit _ ih => exact .visit hvisit.admits ih

/-- What a run leaves besides the tour of its configurations neither makes nor calls an engine. -/
theorem Ran.tour {result : Except Failure Tally} {events : List Event}
    (h : bench.Ran result events) : ∃ opening visits closing,
      events = opening ++ (visits ++ closing) ∧
      (∀ event ∈ opening ++ closing, event.isQuiet) ∧
      Tour bench.campaign.limits 0 bench.campaign.configurations visits := by
  cases h with
  | misconfigured =>
    exact ⟨[], [], [], rfl, List.forall_mem_nil _, .ended 0 _⟩
  | unstarted capabilities started refusal =>
    refine ⟨_, [], [], (List.append_nil _).symm, ?_, .ended 0 _⟩
    rw [List.append_nil]
    exact quiet_opening capabilities started (.error refusal)
  | @stopped capabilities started _ visits _ hgrid =>
    refine ⟨_, visits, [], by rw [List.append_nil], ?_, hgrid.tour⟩
    rw [List.append_nil]
    exact quiet_opening capabilities started (.ok ())
  | @finished capabilities started outcome _ visits _ hgrid =>
    refine ⟨_, visits, [.finished outcome], rfl, ?_, hgrid.tour⟩
    refine List.forall_mem_append.2 ⟨quiet_opening capabilities started (.ok ()), ?_⟩
    exact List.forall_mem_singleton.2 rfl

/-! ## Whole runs -/

/-- **The lifetime of engines.** However the calls of a run end, and wherever it stops:

* the last call of every engine that was made is its release;
* between two releases of an engine there is an attempt to allocate, and an engine that may not be
  used again is released exactly once;
* at every moment at most one engine lives;
* no engine is allocated before its configuration was admitted. -/
theorem run_lifetimes (bench : Bench (StateM σ)) (world : σ) :
    let trace := ((bench.watched.run.run.run []).run world).1.2
    (∀ number < (Event.engines trace).length, ∃ outcome,
        (callsOn number trace).getLast? = some (.called number .destroy outcome)) ∧
      (∀ number, Separated number (callsOn number trace)) ∧
      (∀ number configuration, (Event.engines trace)[number]? = some configuration →
        bench.platform.reuse configuration.kind = .notReusable →
        (callsOn number trace).countP (·.isDestroy) = 1) ∧
      (∀ earlier later, trace = earlier ++ later → ∀ number other,
        Live number (callsOn number earlier) → Live other (callsOn other earlier) →
        number = other) ∧
      ∃ opening visits closing, trace = opening ++ (visits ++ closing) ∧
        (∀ event ∈ opening ++ closing, event.isQuiet) ∧
        Tour bench.campaign.limits 0 bench.campaign.configurations visits := by
  intro trace
  have hends : Ends bench.watched.run.run [] bench.Ran := ends_run
  obtain ⟨events, htrace, hran⟩ := hends world
  have hevents : trace = events := htrace
  rw [← hevents] at hran
  have horderly := hran.orderly
  -- a run ends with nothing left to do, and every beginning of it is orderly as well
  refine ⟨fun number hnumber => ?_, fun number => ?_, fun number configuration hmade hreuse => ?_,
    fun earlier later heq number other hlive hother => ?_, hran.tour⟩
  · exact (horderly.story_settled (List.getElem?_eq_getElem hnumber)).getLast?
  · exact horderly.separated number
  · have hstory := horderly.story_settled hmade
    rw [hreuse] at hstory
    exact hstory.countP_isDestroy
  · obtain ⟨standing, hearlier⟩ := horderly.of_prefix earlier later heq
    have hnumber := hearlier.last_of_live hlive
    have hnumber' := hearlier.last_of_live hother
    omega

end Bench

end SpectralBench
