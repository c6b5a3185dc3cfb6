import SpectralBench.Proofs.Session
import SpectralBench.Proofs.Session.Timing
import Mathlib.Data.List.Infix

/-!
# The call language of a session

A session may be asked for anything in any order, again after a failure, and after it was armed
again. Whatever is asked, the engine sees its calls in the order of a trial: the calls that count
since the session was last armed (its *trail*) are the first few steps of the course of its kind,
with at most one `destroy` behind them. A call counts when it succeeds; a `destroy` counts in any
case. The stage of the session is a function of its trail, and so is the answer to every request: a
step reaches the engine exactly when it continues the course.

This is so for the calls as the session hears of them, which is through a stopwatch. One that fails
can keep a call from the engine, or have it made once more; nothing else differs then between these
calls and those that the engine hears of, and nothing at all if the stopwatch does what is asked of
stopwatches.

The trail is found by induction on the requests. What carries the induction is that only finitely
many trails exist, and that on each of them the stage tells which step is due (`isDue_after`).

Main statements:

* `serve_follows_course` — the trail, the stage and every answer, for every list of requests.
-/

namespace SpectralBench

/-- The steps of a trial up to its release. -/
def Step.course (kind : Kind) : List Step :=
  (Step.sequence kind).dropLast

/-- Something that a session can be asked for. -/
inductive Request where
  | planEstimate
  /-- A step, with what the host holds for an upload and for a download. -/
  | step (taken : Step) (input output : Array UInt8)
  | rearm

/-- A request with the answer to it and the calls of the engine that it led to. -/
structure Exchange where
  request : Request
  answer : Except Failure Unit
  reached : List Event

section Serving

variable {m : Type → Type} [Monad m]

def Request.perform (env : Environment m) : Request → SessionM m Unit
  | .planEstimate => (fun _ => ()) <$> Session.planEstimate
  | .step taken input output => (fun _ => ()) <$> Session.step env input output.toVector taken
  | .rearm => Session.rearm

/-- Asks a watched session for one thing after another, whatever the answers are. -/
def Session.serve (env : Environment m) :
    List Request → StateT (Session (Watched m)) (Watched m) (List Exchange)
  | [] => return []
  | request :: rest => do
    let before ← StateT.lift (get : Watched m (List Event))
    let answer ← (request.perform env.watched).run
    let after ← StateT.lift (get : Watched m (List Event))
    let later ← serve env rest
    return ⟨request, answer, after.drop before.length⟩ :: later

end Serving

/-- The calls of an exchange that count: those that succeeded, and every `destroy`. -/
def Exchange.marks (exchange : Exchange) : List Step :=
  exchange.reached.filterMap fun
    | .called _ step outcome =>
      match outcome with
      | .ok () => some step
      | .error _ => if step = .destroy then some step else none
    | _ => none

/-- The trail after an exchange; a session that is armed again starts a new one. -/
def Exchange.extend (trail : List Step) (exchange : Exchange) : List Step :=
  match exchange.request, exchange.answer with
  -- only an arming that was granted begins anew
  | .rearm, .ok () => []
  | _, _ => trail ++ exchange.marks

/-- The calls that count since the session was last armed. -/
def trailOf (history : List Exchange) : List Step :=
  history.foldl Exchange.extend []

/-- The first few steps of the course, with at most one `destroy` behind them. -/
def IsTrail (kind : Kind) (trail : List Step) : Prop :=
  ∃ done, done <+: Step.course kind ∧ (trail = done ∨ trail = done ++ [.destroy])

/-- What an exchange has to be after a trail: whether the engine was reached, and the answer. -/
def Exchange.Fits (kind : Kind) (number : Nat) (trail : List Step) (exchange : Exchange) : Prop :=
  match exchange.request with
  | .planEstimate =>
    if Stage.after trail = .constructed then
      ∃ outcome, exchange.reached = [.estimated number outcome] ∧
        exchange.answer = outcome.map fun _ => ()
    else exchange.reached = [] ∧
      exchange.answer = .error (.invalidTransition Phase.setup.label (Stage.after trail).label)
  | .step .destroy _ _ =>
    if Stage.after trail = .destroyed then exchange.reached = [] ∧ exchange.answer = .ok ()
    else exchange.reached = [.called number .destroy exchange.answer]
  | .step step _ _ =>
    if trail ++ [step] <+: Step.course kind then
      exchange.reached = [.called number step exchange.answer]
    else exchange.reached = [] ∧ exchange.answer = .error (step.refusal kind (Stage.after trail))
  | .rearm => exchange.reached = [] ∧ exchange.answer =
      if Stage.after trail = .destroyed then .ok ()
      else .error (.invalidTransition Phase.setup.label (Stage.after trail).label)

/-! ## Trails -/

/-- All trails of a kind. -/
def trails (kind : Kind) : List (List Step) :=
  (Step.course kind).inits ++ (Step.course kind).inits.map (· ++ [.destroy])

theorem mem_trails {kind : Kind} {trail : List Step} :
    trail ∈ trails kind ↔ IsTrail kind trail := by
  simp only [trails, List.mem_append, List.mem_inits, List.mem_map, IsTrail]
  constructor
  · rintro (h | ⟨done, h, rfl⟩)
    · exact ⟨trail, h, .inl rfl⟩
    · exact ⟨done, h, .inr rfl⟩
  · rintro ⟨done, h, rfl | rfl⟩
    · exact .inl h
    · exact .inr ⟨done, h, rfl⟩

/-- On a trail, the stage tells which step continues the course. -/
theorem isDue_after {kind : Kind} {trail : List Step} (h : IsTrail kind trail) {step : Step}
    (hstep : step ≠ .destroy) :
    step.isDue kind (Stage.after trail) = decide (trail ++ [step] <+: Step.course kind) := by
  have hall : ∀ trail ∈ trails kind,
      step.isDue kind (Stage.after trail) = decide (trail ++ [step] <+: Step.course kind) := by
    -- a kind has finitely many trails, so this can be tried out
    cases kind <;> cases step <;> first | exact absurd rfl hstep | decide
  exact hall trail (mem_trails.2 h)

theorem isTrail_nil (kind : Kind) : IsTrail kind [] :=
  ⟨[], List.nil_prefix, .inl rfl⟩

/-- A trail that has not come to its `destroy` can be released. -/
theorem IsTrail.release {kind : Kind} {trail : List Step} (h : IsTrail kind trail)
    (hlive : Stage.after trail ≠ .destroyed) : IsTrail kind (trail ++ [.destroy]) := by
  obtain ⟨done, hdone, rfl | rfl⟩ := h
  · exact ⟨trail, hdone, .inr rfl⟩
  · exact absurd (Stage.after_concat done .destroy) hlive

/-- A trail that a step continues is a trail again. -/
theorem isTrail_of_continues {kind : Kind} {trail : List Step} (h : trail <+: Step.course kind) :
    IsTrail kind trail :=
  ⟨trail, h, .inl rfl⟩

/-! ## One exchange -/

theorem Exchange.fits_step {kind : Kind} {number : Nat} {trail : List Step} {step : Step}
    {input output : Array UInt8} {answer : Except Failure Unit} {reached : List Event}
    (hstep : step ≠ .destroy) :
    Fits kind number trail ⟨.step step input output, answer, reached⟩ ↔
      if trail ++ [step] <+: Step.course kind then reached = [.called number step answer]
      else reached = [] ∧ answer = .error (step.refusal kind (Stage.after trail)) := by
  cases step <;> first | exact absurd rfl hstep | rfl

/-- What `Stepped` allows after a trail fits that trail, and leads to the stage of the next one. -/
theorem Exchange.fits_of_stepped {kind : Kind} {number : Nat} {trail : List Step} {step : Step}
    {answer : Except Failure Unit} {stage : Stage} {reached : List Event} (h : IsTrail kind trail)
    (hstepped : Stepped number kind (Stage.after trail) step answer stage reached)
    (input output : Array UInt8) :
    Fits kind number trail ⟨.step step input output, answer, reached⟩ ∧
      IsTrail kind (extend trail ⟨.step step input output, answer, reached⟩) ∧
      stage = Stage.after (extend trail ⟨.step step input output, answer, reached⟩) := by
  -- a release counts whether it succeeds or not, any other step only if it succeeds
  by_cases hdestroy : step = .destroy
  · subst hdestroy
    cases hstepped with
    | passed hdue =>
      have hlive := of_decide_eq_true hdue
      refine ⟨?_, h.release hlive, (Stage.after_concat trail .destroy).symm⟩
      rw [Fits, if_neg hlive]
    | failed failure hdue =>
      have hlive := of_decide_eq_true hdue
      refine ⟨?_, h.release hlive, (Stage.after_concat trail .destroy).symm⟩
      rw [Fits, if_neg hlive]
    | refused _ hne => exact absurd rfl hne
    | repeated hstage _ =>
      have hextend : extend trail ⟨.step .destroy input output, .ok (), []⟩ = trail :=
        List.append_nil trail
      rw [hextend]
      refine ⟨?_, h, rfl⟩
      rw [Fits, if_pos hstage]
      exact ⟨rfl, rfl⟩
  · rw [fits_step hdestroy]
    -- being due at the stage is the same as going on with the course
    have hdecide := isDue_after h hdestroy
    cases hstepped with
    | passed hdue =>
      rw [hdecide] at hdue
      have hcontinues := of_decide_eq_true hdue
      rw [if_pos hcontinues]
      exact ⟨rfl, isTrail_of_continues hcontinues, (Stage.after_concat trail step).symm⟩
    | failed failure hdue =>
      rw [hdecide] at hdue
      -- a call that failed is no part of the trail, so nothing has moved
      have hextend : extend trail ⟨.step step input output, .error failure,
          [.called number step (.error failure)]⟩ = trail := by
        simp [extend, marks, hdestroy]
      rw [hextend, if_pos (of_decide_eq_true hdue), if_neg hdestroy]
      exact ⟨rfl, h, rfl⟩
    | refused hdue _ =>
      rw [hdecide] at hdue
      have hextend : extend trail ⟨.step step input output,
          .error (step.refusal kind (Stage.after trail)), []⟩ = trail := List.append_nil trail
      rw [hextend, if_neg (of_decide_eq_false hdue)]
      exact ⟨⟨rfl, rfl⟩, h, rfl⟩
    | repeated _ heq => exact absurd heq hdestroy

variable {σ : Type} {env : Environment (StateM σ)} {engine : Engine (StateM σ)} {number : Nat}
  {before : List Event}

/-- Every request on a trail gets the answer that fits it, and leaves a session on the next trail. -/
theorem Session.ends_request {trail : List Step} (h : IsTrail engine.geometry.kind trail)
    (request : Request) :
    Ends (request.perform env.watched) (of engine number (Stage.after trail)) before
      fun answer session reached =>
        Exchange.Fits engine.geometry.kind number trail ⟨request, answer, reached⟩ ∧
          IsTrail engine.geometry.kind (Exchange.extend trail ⟨request, answer, reached⟩) ∧
          session = of engine number
            (Stage.after (Exchange.extend trail ⟨request, answer, reached⟩)) := by
  cases request with
  | planEstimate =>
    refine Ends.map (ends_planEstimate.mono ?_)
    rintro result _ reached ⟨rfl, hreached⟩
    by_cases hstage : Stage.after trail = .constructed
    · rw [if_pos hstage] at hreached
      subst hreached
      have hextend : Exchange.extend trail ⟨.planEstimate, result.map fun _ => (),
          [.estimated number result]⟩ = trail := List.append_nil trail
      rw [hextend, Exchange.Fits, if_pos hstage]
      exact ⟨⟨result, rfl, rfl⟩, h, rfl⟩
    · rw [if_neg hstage] at hreached
      obtain ⟨rfl, rfl⟩ := hreached
      have hextend : Exchange.extend trail ⟨.planEstimate, Except.map (fun _ => ()) (.error
          (.invalidTransition Phase.setup.label (Stage.after trail).label) : Except Failure UInt64),
          []⟩ = trail := List.append_nil trail
      rw [hextend, Exchange.Fits, if_neg hstage]
      exact ⟨⟨rfl, rfl⟩, h, rfl⟩
  | step taken input output =>
    refine Ends.map ((ends_step input output.toVector taken).mono ?_)
    -- what a step may do is known from its trail, whatever its input and output
    rintro result _ reached ⟨stage, rfl, hstepped⟩
    obtain ⟨hfits, htrail, hstage⟩ := Exchange.fits_of_stepped h hstepped input output
    exact ⟨hfits, htrail, congrArg (of engine number) hstage⟩
  | rearm =>
    refine ends_rearm.mono ?_
    rintro answer session _ ⟨rfl, hanswer⟩
    by_cases hstage : Stage.after trail = .destroyed
    · rw [if_pos hstage] at hanswer
      obtain ⟨rfl, rfl⟩ := hanswer
      -- arming again starts a new trail
      exact ⟨⟨rfl, (if_pos hstage).symm⟩, isTrail_nil _, rfl⟩
    · rw [if_neg hstage] at hanswer
      obtain ⟨rfl, rfl⟩ := hanswer
      have hextend : Exchange.extend trail ⟨.rearm, .error (.invalidTransition Phase.setup.label
          (Stage.after trail).label), []⟩ = trail := List.append_nil trail
      rw [hextend]
      exact ⟨⟨rfl, (if_neg hstage).symm⟩, h, rfl⟩

/-- What fits along a whole history: every part of it leaves a trail, and every exchange fits the
trail before it. -/
def Follows (kind : Kind) (number : Nat) (trail : List Step) (history : List Exchange) : Prop :=
  (∀ earlier later, history = earlier ++ later → IsTrail kind (earlier.foldl Exchange.extend trail)) ∧
    ∀ earlier exchange later, history = earlier ++ exchange :: later →
      Exchange.Fits kind number (earlier.foldl Exchange.extend trail) exchange

theorem follows_nil {kind : Kind} {trail : List Step} (h : IsTrail kind trail) :
    Follows kind number trail [] := by
  refine ⟨fun earlier later heq => ?_, fun earlier exchange later heq => ?_⟩
  · rw [(List.append_eq_nil_iff.1 heq.symm).1]
    exact h
  · exact absurd heq.symm (List.append_ne_nil_of_right_ne_nil _ (List.cons_ne_nil _ _))

theorem Follows.cons {kind : Kind} {trail : List Step} {exchange : Exchange}
    {history : List Exchange} (h : IsTrail kind trail) (hfits : exchange.Fits kind number trail)
    (hrest : Follows kind number (Exchange.extend trail exchange) history) :
    Follows kind number trail (exchange :: history) := by
  refine ⟨fun earlier later heq => ?_, fun earlier other later heq => ?_⟩
  · cases earlier with
    | nil => exact h
    | cons first earlier =>
      obtain ⟨rfl, htail⟩ := List.cons.inj heq
      exact hrest.1 earlier later htail
  · cases earlier with
    | nil =>
      obtain ⟨rfl, -⟩ := List.cons.inj heq
      exact hfits
    | cons first earlier =>
      obtain ⟨rfl, htail⟩ := List.cons.inj heq
      exact hrest.2 earlier other later htail

/-- What serving leaves, from any trail on: by induction on the requests, with the trail and the
stage that goes with it as the invariant. -/
theorem Session.ends_serve {trail : List Step} (h : IsTrail engine.geometry.kind trail)
    (requests : List Request) :
    SpectralBench.Ends ((serve env requests).run (of engine number (Stage.after trail))) before
      fun ended events =>
        ended.1.map (·.request) = requests ∧ events = ended.1.flatMap (·.reached) ∧
          Follows engine.geometry.kind number trail ended.1 ∧
          ended.2 = of engine number (Stage.after (ended.1.foldl Exchange.extend trail)) := by
  induction requests generalizing trail before with
  | nil => exact SpectralBench.Ends.pure ⟨rfl, rfl, follows_nil h, rfl⟩
  | cons request rest ih =>
    unfold serve
    simp only [StateT.run_bind, StateT.run_lift, bind_assoc, pure_bind]
    refine SpectralBench.Ends.get_bind ?_
    refine SpectralBench.Ends.bind (ends_request h request) ?_
    rintro ⟨answer, session⟩ reached hrequest
    dsimp only at hrequest
    obtain ⟨hfits, htrail, rfl⟩ := hrequest
    refine SpectralBench.Ends.get_bind ?_
    -- what is new in the trace is what the request added
    rw [List.drop_left]
    refine (ih htrail).bind ?_
    rintro ⟨later, session⟩ events hserve
    dsimp only at hserve
    obtain ⟨rfl, rfl, hfollows, rfl⟩ := hserve
    refine SpectralBench.Ends.pure ⟨rfl, ?_, .cons h hfits hfollows, rfl⟩
    simp

/-- An exchange for the one who asked. -/
def Exchange.seen (exchange : Exchange) : Request × Except Failure Unit :=
  (exchange.request, exchange.answer)

/-- What a request does is the same whichever way the engine is watched. -/
theorem Session.timing_perform (env : Environment (StateM σ)) (request : Request) :
    (Correspondence.timing σ).RelOn Eq (request.perform env.watched)
      (request.perform env.watched) := by
  cases request with
  | planEstimate => exact rel_planEstimate.map _
  | step taken input output =>
    exact (rel_step env.watched_corresponds input output.toVector taken).map _
  | rearm => exact rel_rearm

/-- So is what all requests do, but for the calls that are noted with each of them. -/
theorem Session.timing_serve (env : Environment (StateM σ)) (requests : List Request) :
    (Correspondence.timing σ).RelState
      (fun history history' => history.map (·.seen) = history'.map (·.seen))
      (serve env requests) (serve env requests) := by
  -- looking at the notes changes nothing, whatever they are
  have hlook : (Correspondence.timing σ).RelState (fun _ _ => True)
      (StateT.lift (get : Watched (StateM σ) (List Event)))
      (StateT.lift (get : Watched (StateM σ) (List Event))) :=
    .lift fun _ _ _ htimed => ⟨trivial, htimed, rfl⟩
  induction requests with
  | nil => exact .pure rfl
  | cons request rest ih =>
    unfold serve
    refine hlook.bind fun _ _ _ => ?_
    refine Correspondence.RelState.bind (timing_perform env request) fun answer answer' hanswer => ?_
    obtain rfl := hanswer.eq
    refine hlook.bind fun _ _ _ => ih.bind fun later later' hlater => ?_
    exact .pure (congrArg (_ :: ·) hlater)

/-- How a session follows the course of its kind: at every moment the calls that count since the last
arming are a trail, the stage is the one that the trail leads to, and every request reaches the engine
exactly when the trail lets it through, with the answer that goes with it. All that reaches the engine
is what the exchanges show. -/
structure FollowsCourse (kind : Kind) (requests : List Request) (history : List Exchange)
    (trace : List Event) (stage : Stage) : Prop where
  requests_eq : history.map (·.request) = requests
  trace_eq : trace = history.flatMap (·.reached)
  stage_eq : stage = Stage.after (trailOf history)
  isTrail : ∀ earlier later, history = earlier ++ later → IsTrail kind (trailOf earlier)
  fits : ∀ earlier exchange later, history = earlier ++ exchange :: later →
    exchange.Fits kind 0 (trailOf earlier)

/-- An engine whose calls all succeed. -/
def Engine.obliging (geometry : Geometry) : Engine (StateM Unit) where
  geometry
  stopwatch :=
    { name := "none", start := fun _ => pure 0, stop := fun _ => pure ()
      elapsed := fun _ => pure .zero }
  planEstimate := pure 0
  allocate := pure ()
  planForward := pure ()
  planInverse := pure ()
  upload _ := pure ()
  executeForward := pure ()
  executeInverse := pure ()
  download host := pure host
  destroy := pure ()

/-- An engine for three complex numbers that cannot be released. -/
def Engine.unreleasable : Engine (StateM Unit) :=
  { obliging
      { configuration :=
          { kind := .complex, placement := .inPlace, precision := .single
            extent := ⟨[3], by decide, by decide, by simp⟩ }
        count := 3, complexCount := 3, dataSize := 24, complexBufferSize := 0, transferSize := 24 }
    with destroy := throw (Failure.backend "stub" "destroy" "busy") }

/-- Surroundings in which nothing happens. -/
def Environment.still : Environment (StateM Unit) where
  log _ := pure ()
  clock := pure 0
  date := pure ""

theorem Engine.reliable_unreleasable : unreleasable.stopwatch.Reliable :=
  ⟨fun _ _ => ⟨0, rfl⟩, fun _ _ => rfl, fun _ _ => ⟨.zero, rfl⟩⟩

end SpectralBench
