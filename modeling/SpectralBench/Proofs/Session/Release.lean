import SpectralBench.Proofs.Campaign.Custody
import SpectralBench.Proofs.Session.CallLanguage

/-!
# The releases of a session

A session is new, is asked for anything in any order, and is dropped at last. However its engine
answers, the engine is released once more often than the session was armed again: every arming is
bound to a release before it, and whatever is left to release is released when the session is
dropped. Only a stopwatch that fails can keep a release from the engine, since the session takes the
engine for released all the same.

Of a whole life only two things count here, that the engine was released and that the session was
armed again. These are its turns, and they take turns: `Turning` is the automaton with two states
that says so. What one exchange does is read off its trail (`Exchange.turning`); a history follows
by induction, and all that is said about releases is a fact about the automaton.

Main statements:

* `Turning.count_released`, `Turning.armed_between` — what taking turns means.
* `Session.ends_live` — the turns of a whole life, from its beginning to its drop.
* `life_releases` — how often, when and when not the engine is released.
-/

namespace SpectralBench

/-! ## Turns -/

/-- Something that decides about the next release. -/
inductive Turn where
  /-- A release has reached the engine, however it ended. -/
  | released
  /-- The session was armed again. -/
  | armed
  deriving DecidableEq

/-- The releases among the calls of an engine. -/
def Event.releases (events : List Event) : List Turn :=
  (events.filter Event.isDestroy).map fun _ => .released

/-- Whether a session was armed again. -/
def Exchange.isArming (exchange : Exchange) : Bool :=
  match exchange.request, exchange.answer with
  | .rearm, .ok () => true
  | _, _ => false

/-- The turns of an exchange. -/
def Exchange.turns (exchange : Exchange) : List Turn :=
  Event.releases exchange.reached ++ if exchange.isArming then [.armed] else []

/-- The turns of a whole life: those of its exchanges, and a release when it is dropped. -/
def lifeTurns (history : List Exchange) (dropped : List Event) : List Turn :=
  history.flatMap Exchange.turns ++ Event.releases dropped

/-- Turns that lead from one state to another; a state says whether the session is destroyed. Only a
session that is not can be released, and only one that is can be armed. -/
inductive Turning : Bool → List Turn → Bool → Prop where
  | nil (destroyed : Bool) : Turning destroyed [] destroyed
  | released {turns : List Turn} {ended : Bool} :
      Turning true turns ended → Turning false (.released :: turns) ended
  | armed {turns : List Turn} {ended : Bool} :
      Turning false turns ended → Turning true (.armed :: turns) ended

namespace Turning

variable {destroyed middle ended : Bool} {turns later : List Turn}

theorem append (h : Turning destroyed turns middle) (hlater : Turning middle later ended) :
    Turning destroyed (turns ++ later) ended := by
  induction h with
  | nil => exact hlater
  | released _ ih => exact .released (ih hlater)
  | armed _ ih => exact .armed (ih hlater)

theorem split (h : Turning destroyed (turns ++ later) ended) :
    ∃ middle, Turning destroyed turns middle ∧ Turning middle later ended := by
  induction turns generalizing destroyed with
  | nil => exact ⟨destroyed, .nil destroyed, h⟩
  | cons turn turns ih =>
    cases h with
    | released h =>
      obtain ⟨middle, hturns, hlater⟩ := ih h
      exact ⟨middle, .released hturns, hlater⟩
    | armed h =>
      obtain ⟨middle, hturns, hlater⟩ := ih h
      exact ⟨middle, .armed hturns, hlater⟩

/-- Every arming makes room for one more release, and so does a beginning that is not destroyed. -/
theorem count_released (h : Turning destroyed turns ended) :
    turns.count .released + (if ended then 0 else 1) =
      turns.count .armed + if destroyed then 0 else 1 := by
  induction h with
  | nil => simp
  | released _ ih =>
    simp only [List.count_cons_self, List.count_cons_of_ne (show Turn.released ≠ .armed by decide),
      if_true, Bool.false_eq_true, if_false] at ih ⊢
    omega
  | armed _ ih =>
    simp only [List.count_cons_self, List.count_cons_of_ne (show Turn.armed ≠ .released by decide),
      if_true, Bool.false_eq_true, if_false] at ih ⊢
    omega

/-- Between two releases the session was armed again. -/
theorem armed_between {earlier between : List Turn}
    (h : Turning destroyed (earlier ++ .released :: (between ++ .released :: later)) ended) :
    .armed ∈ between := by
  obtain ⟨middle, -, hfirst⟩ := h.split
  cases hfirst with
  | released hrest =>
    obtain ⟨middle, hbetween, hsecond⟩ := hrest.split
    cases hsecond with
    | released =>
      -- the first release left the session destroyed, and the second one found it otherwise
      cases hbetween with
      | armed => exact List.mem_cons_self

end Turning

/-! ## The turns of an exchange -/

theorem Event.count_releases (events : List Event) :
    (releases events).count .released = events.countP (·.isDestroy) := by
  induction events with
  | nil => rfl
  | cons event rest ih =>
    cases hdestroy : event.isDestroy <;> simp [releases, hdestroy] at ih ⊢ <;> omega

theorem Event.not_mem_releases (events : List Event) : .armed ∉ releases events := by
  simp [releases]

/-- A trail that goes on is not at its end. -/
theorem Stage.after_ne_destroyed_of_prefix {kind : Kind} {trail : List Step}
    (h : trail <+: Step.course kind) : after trail ≠ .destroyed := by
  have hall : ∀ trail ∈ (Step.course kind).inits, after trail ≠ .destroyed := by
    cases kind <;> decide
  exact hall trail ((List.mem_inits _ _).2 h)

/-- Whether a session on a trail is destroyed. -/
def isDestroyed (trail : List Step) : Bool :=
  Stage.after trail = .destroyed

theorem isDestroyed_of_ne {trail : List Step} (h : Stage.after trail ≠ .destroyed) :
    isDestroyed trail = false :=
  decide_eq_false h

theorem isDestroyed_concat_destroy (trail : List Step) :
    isDestroyed (trail ++ [.destroy]) = true := by
  rw [isDestroyed, Stage.after_concat]
  rfl

/-- An exchange that reached nothing and armed nothing takes no turn. -/
theorem Exchange.turning_of_idle {trail : List Step} {exchange : Exchange}
    (hreached : exchange.reached = []) (harming : exchange.isArming = false)
    (hextend : extend trail exchange = trail) :
    Turning (isDestroyed trail) exchange.turns (isDestroyed (extend trail exchange)) := by
  rw [hextend, turns, hreached, harming]
  exact .nil _

/-- The turns of an exchange lead from the trail before it to the trail after it. -/
theorem Exchange.turning {kind : Kind} {number : Nat} {trail : List Step} {exchange : Exchange}
    (hfits : exchange.Fits kind number trail) :
    Turning (isDestroyed trail) exchange.turns (isDestroyed (extend trail exchange)) := by
  obtain ⟨request, answer, reached⟩ := exchange
  cases request with
  | planEstimate =>
    rw [Fits] at hfits
    dsimp only at hfits
    by_cases hstage : Stage.after trail = .constructed
    · rw [if_pos hstage] at hfits
      obtain ⟨outcome, rfl, rfl⟩ := hfits
      have hextend : extend trail ⟨.planEstimate, outcome.map fun _ => (),
          [.estimated number outcome]⟩ = trail := List.append_nil trail
      rw [hextend]
      exact .nil _
    · rw [if_neg hstage] at hfits
      obtain ⟨rfl, rfl⟩ := hfits
      exact turning_of_idle rfl rfl (List.append_nil trail)
  | rearm =>
    rw [Fits] at hfits
    dsimp only at hfits
    obtain ⟨rfl, rfl⟩ := hfits
    by_cases hstage : Stage.after trail = .destroyed
    · rw [if_pos hstage, isDestroyed, hstage]
      exact .armed (.nil false)
    · rw [if_neg hstage]
      exact turning_of_idle rfl rfl (List.append_nil trail)
  | step taken input output =>
    by_cases hdestroy : taken = .destroy
    · subst hdestroy
      rw [Fits] at hfits
      dsimp only at hfits
      by_cases hstage : Stage.after trail = .destroyed
      · rw [if_pos hstage] at hfits
        obtain ⟨rfl, rfl⟩ := hfits
        exact turning_of_idle rfl rfl (List.append_nil trail)
      · rw [if_neg hstage] at hfits
        subst hfits
        -- a release counts, whether it succeeds or not
        have hextend : extend trail ⟨.step .destroy input output, answer,
            [.called number .destroy answer]⟩ = trail ++ [.destroy] := by
          cases answer <;> rfl
        rw [hextend, isDestroyed_of_ne hstage, isDestroyed_concat_destroy]
        exact .released (.nil true)
    · rw [fits_step hdestroy] at hfits
      by_cases hgoes : trail ++ [taken] <+: Step.course kind
      · rw [if_pos hgoes] at hfits
        subst hfits
        have hlive := isDestroyed_of_ne (Stage.after_ne_destroyed_of_prefix
          ((List.prefix_append trail [taken]).trans hgoes))
        have hturns : turns ⟨.step taken input output, answer, [.called number taken answer]⟩ =
            [] := by
          cases taken <;> first | exact absurd rfl hdestroy | rfl
        have hlive' : isDestroyed (extend trail ⟨.step taken input output, answer,
            [.called number taken answer]⟩) = false := by
          cases answer with
          | ok _ => exact isDestroyed_of_ne (Stage.after_ne_destroyed_of_prefix hgoes)
          | error failure =>
            have hextend : extend trail ⟨.step taken input output, .error failure,
                [.called number taken (.error failure)]⟩ = trail := by
              simp [extend, marks, hdestroy]
            rw [hextend]
            exact hlive
        rw [hturns, hlive, hlive']
        exact .nil false
      · rw [if_neg hgoes] at hfits
        obtain ⟨rfl, rfl⟩ := hfits
        exact turning_of_idle rfl rfl (List.append_nil trail)

/-- An exchange that leaves the session destroyed released it, or found it so and then reached
nothing. -/
theorem Exchange.reached_of_destroyed {kind : Kind} {number : Nat} {trail : List Step}
    {exchange : Exchange} (hfits : exchange.Fits kind number trail)
    (hended : Stage.after (extend trail exchange) = .destroyed) :
    (exchange.reached = [] ∧ Stage.after trail = .destroyed) ∨
      ∃ outcome, exchange.reached = [.called number .destroy outcome] := by
  obtain ⟨request, answer, reached⟩ := exchange
  cases request with
  | planEstimate =>
    have hextend : extend trail ⟨.planEstimate, answer, reached⟩ =
        trail ++ marks ⟨.planEstimate, answer, reached⟩ := by cases answer <;> rfl
    rw [Fits] at hfits
    dsimp only at hfits
    by_cases hstage : Stage.after trail = .constructed
    · rw [if_pos hstage] at hfits
      obtain ⟨outcome, rfl, rfl⟩ := hfits
      -- an estimate is no part of the trail, so the session is still as it was made
      rw [hextend, show marks _ = [] from rfl, List.append_nil, hstage] at hended
      cases hended
    · rw [if_neg hstage] at hfits
      obtain ⟨rfl, -⟩ := hfits
      rw [hextend, show marks _ = [] from rfl, List.append_nil] at hended
      exact .inl ⟨rfl, hended⟩
  | rearm =>
    rw [Fits] at hfits
    dsimp only at hfits
    obtain ⟨rfl, -⟩ := hfits
    refine .inl ⟨rfl, ?_⟩
    cases answer with
    | ok _ => cases hended
    | error failure =>
      rw [show extend trail ⟨.rearm, .error failure, []⟩ = trail from List.append_nil trail]
        at hended
      exact hended
  | step taken input output =>
    have hextend : extend trail ⟨.step taken input output, answer, reached⟩ =
        trail ++ marks ⟨.step taken input output, answer, reached⟩ := by cases answer <;> rfl
    by_cases hdestroy : taken = .destroy
    · subst hdestroy
      rw [Fits] at hfits
      dsimp only at hfits
      by_cases hstage : Stage.after trail = .destroyed
      · rw [if_pos hstage] at hfits
        exact .inl ⟨hfits.1, hstage⟩
      · rw [if_neg hstage] at hfits
        exact .inr ⟨answer, hfits⟩
    · rw [fits_step hdestroy] at hfits
      by_cases hgoes : trail ++ [taken] <+: Step.course kind
      · -- the session is on its course, before the call and after it
        rw [if_pos hgoes] at hfits
        subst hfits
        have hlive := Stage.after_ne_destroyed_of_prefix
          ((List.prefix_append trail [taken]).trans hgoes)
        refine absurd hended ?_
        cases answer with
        | ok _ => exact Stage.after_ne_destroyed_of_prefix hgoes
        | error failure =>
          rw [hextend, show marks _ = [] by simp [marks, hdestroy], List.append_nil]
          exact hlive
      · rw [if_neg hgoes] at hfits
        obtain ⟨rfl, -⟩ := hfits
        rw [hextend, show marks _ = [] from rfl, List.append_nil] at hended
        exact .inl ⟨rfl, hended⟩

/-! ## The turns of a life -/

variable {kind : Kind} {number : Nat} {trail : List Step} {history : List Exchange}

theorem Follows.tail {exchange : Exchange} (h : Follows kind number trail (exchange :: history)) :
    Follows kind number (Exchange.extend trail exchange) history := by
  refine ⟨fun earlier later heq => ?_, fun earlier other later heq => ?_⟩
  · exact h.1 (exchange :: earlier) later (congrArg (exchange :: ·) heq)
  · exact h.2 (exchange :: earlier) other later (congrArg (exchange :: ·) heq)

/-- The turns of a history, by induction on its exchanges with the trail as the invariant. -/
theorem Follows.turning (h : Follows kind number trail history) :
    Turning (isDestroyed trail) (history.flatMap Exchange.turns)
      (isDestroyed (history.foldl Exchange.extend trail)) := by
  induction history generalizing trail with
  | nil => exact .nil _
  | cons exchange history ih =>
    rw [List.flatMap_cons]
    exact (Exchange.turning (h.2 [] exchange history rfl)).append (ih h.tail)

/-- A history that leaves the session destroyed has a release as its last call, unless the session
was destroyed before and nothing reached the engine since. -/
theorem Follows.reached_of_destroyed (h : Follows kind number trail history)
    (hended : Stage.after (history.foldl Exchange.extend trail) = .destroyed) :
    (history.flatMap (·.reached) = [] ∧ Stage.after trail = .destroyed) ∨
      ∃ outcome,
        (history.flatMap (·.reached)).getLast? = some (.called number .destroy outcome) := by
  induction history generalizing trail with
  | nil => exact .inl ⟨rfl, hended⟩
  | cons exchange history ih =>
    rw [List.flatMap_cons]
    rcases ih h.tail hended with ⟨hnone, hdestroyed⟩ | ⟨outcome, hlast⟩
    · rw [hnone, List.append_nil]
      rcases Exchange.reached_of_destroyed (h.2 [] exchange history rfl) hdestroyed with
        hidle | ⟨outcome, hreached⟩
      · exact .inl hidle
      · rw [hreached]
        exact .inr ⟨outcome, rfl⟩
    · refine .inr ⟨outcome, ?_⟩
      rw [List.getLast?_append, hlast]
      rfl

/-- A drop takes the turn that is left. -/
theorem Session.Dropped.turning {dropped : List Event}
    (h : Dropped number (Stage.after trail) dropped) :
    Turning (isDestroyed trail) (Event.releases dropped) true := by
  cases h with
  | idle hstage =>
    rw [show isDestroyed trail = true from decide_eq_true hstage]
    exact .nil true
  | destroyed outcome hstage =>
    rw [isDestroyed_of_ne hstage]
    exact .released (.nil true)

/-- The armings among the turns of a history are its exchanges that armed the session. -/
theorem count_armed_lifeTurns (history : List Exchange) (dropped : List Event) :
    (lifeTurns history dropped).count .armed = history.countP (·.isArming) := by
  have hreleases (events : List Event) : (Event.releases events).count .armed = 0 :=
    List.count_eq_zero.2 (Event.not_mem_releases events)
  rw [lifeTurns, List.count_append, hreleases, Nat.add_zero]
  induction history with
  | nil => rfl
  | cons exchange history ih =>
    rw [List.flatMap_cons, List.count_append, ih, List.countP_cons, Exchange.turns,
      List.count_append, hreleases]
    cases exchange.isArming <;> simp [Nat.add_comm]

/-- The releases among the turns of a life are those that reached the engine. -/
theorem count_released_lifeTurns (history : List Exchange) (dropped : List Event) :
    (lifeTurns history dropped).count .released =
      (history.flatMap (·.reached) ++ dropped).countP (·.isDestroy) := by
  rw [lifeTurns, List.count_append, Event.count_releases, List.countP_append]
  congr 1
  induction history with
  | nil => rfl
  | cons exchange history ih =>
    rw [List.flatMap_cons, List.flatMap_cons, List.count_append, List.countP_append, ih,
      Exchange.turns, List.count_append, Event.count_releases]
    cases exchange.isArming <;> simp

variable {m : Type → Type} [Monad m]

/-- The life of a session of an engine that is watched in whatever way: it is new, serves requests, and
is dropped. -/
def Session.live (env : Environment m) (watched : Engine (Watched m)) (requests : List Request) :
    Watched m (List Exchange) := do
  let (history, session) ← (serve env requests).run (.new watched)
  session.drop env.watched
  return history

/-- What a life leaves: the calls of its exchanges and those of its drop, in turns from a session
that is not destroyed to one that is, and with a release as the last call. -/
theorem Session.ends_live {σ : Type} (env : Environment (StateM σ)) (engine : Engine (StateM σ))
    (requests : List Request) :
    SpectralBench.Ends (live env (engine.watched 0) requests) [] fun history events =>
      history.map (·.request) = requests ∧ ∃ dropped,
        events = history.flatMap (·.reached) ++ dropped ∧
          Turning false (lifeTurns history dropped) true ∧
          ∃ outcome, events.getLast? = some (.called 0 .destroy outcome) := by
  have hserve : SpectralBench.Ends ((serve env requests).run (of engine 0 _)) [] _ :=
    ends_serve (isTrail_nil engine.geometry.kind) requests
  unfold live
  refine SpectralBench.Ends.bind hserve ?_
  rintro ⟨history, session⟩ events hserved
  dsimp only at hserved
  obtain ⟨hrequests, rfl, hfollows, rfl⟩ := hserved
  refine SpectralBench.Ends.bind ends_drop ?_
  intro _ dropped hdropped
  refine SpectralBench.Ends.pure ⟨hrequests, dropped, by rw [List.append_nil], ?_, ?_⟩
  · exact hfollows.turning.append hdropped.turning
  · rw [List.append_nil]
    cases hdropped with
    | idle hstage =>
      rw [List.append_nil]
      -- a new session is not destroyed, so the history cannot have been idle
      rcases hfollows.reached_of_destroyed hstage with ⟨-, himpossible⟩ | hlast
      · cases himpossible
      · exact hlast
    | destroyed outcome _ => exact ⟨outcome, List.getLast?_concat⟩

/-- Whether a session was armed again is known to the one who asked. -/
theorem Exchange.isArming_congr {exchange exchange' : Exchange} (h : exchange.seen = exchange'.seen) :
    exchange.isArming = exchange'.isArming := by
  obtain ⟨request, answer, _⟩ := exchange
  obtain ⟨_, _, _⟩ := exchange'
  cases h
  rfl

theorem Exchange.countP_isArming {history history' : List Exchange}
    (h : history.map (·.seen) = history'.map (·.seen)) :
    history.countP (·.isArming) = history'.countP (·.isArming) := by
  induction history generalizing history' with
  | nil =>
    obtain rfl : history' = [] := List.map_eq_nil_iff.1 h.symm
    rfl
  | cons exchange rest ih =>
    cases history' with
    | nil => cases h
    | cons exchange' rest' =>
      obtain ⟨hfirst, hrest⟩ := List.cons.inj h
      rw [List.countP_cons, List.countP_cons, ih hrest, isArming_congr hfirst]

/-- Whatever a stopwatch does, an engine is released no more often than it was timed to be. -/
theorem Event.TimedAs.isDestroy_le {reached timed : List Event} (h : TimedAs reached timed) :
    reached.countP (·.isDestroy) ≤ timed.countP (·.isDestroy) := by
  induction h with
  | nil => exact Nat.le_refl 0
  | exactly _ event ih =>
    rw [List.countP_append, List.countP_append]
    exact Nat.add_le_add_right ih _
  | unstarted _ _ _ _ ih =>
    rw [List.countP_append]
    exact Nat.le_add_right_of_le ih
  | unmeasured _ number step _ _ ih =>
    -- a release is one however it ended
    have hsame (outcome : Except Failure Unit) (failure : Failure) :
        Event.isDestroy (.called number step outcome) =
          Event.isDestroy (.called number step (.error failure)) := by
      cases step <;> rfl
    rw [List.countP_append, List.countP_append, List.countP_singleton, List.countP_singleton, hsame]
    exact Nat.add_le_add_right ih _

/-- A life is the same whichever way the engine is watched, but for the notes. -/
theorem Session.timing_live {σ : Type} (env : Environment (StateM σ)) (engine : Engine (StateM σ))
    (requests : List Request) :
    (Correspondence.timing σ).Rel
      (fun history history' => history.map (·.seen) = history'.map (·.seen))
      (live env (engine.reached 0) requests) (live env (engine.watched 0) requests) := by
  unfold live
  refine (Correspondence.timing σ).bind (timing_serve env requests _ _
    ⟨engine.reached_corresponds 0, rfl⟩) fun ended ended' hended => ?_
  refine (Correspondence.timing σ).bind (rel_drop env.watched_corresponds hended.2) fun _ _ _ => ?_
  exact (Correspondence.timing σ).pure hended.1

/-- A session that is destroyed already is released without a call: neither its engine nor a
stopwatch is touched, no time passes, and nothing changes. -/
theorem Session.destroy_of_destroyed [LawfulMonad m] {session : Session m}
    (h : session.stage = .destroyed) :
    (Session.destroy : SessionM m Duration).run.run session = pure (.ok .zero, session) := by
  simp [Session.destroy, Session.current, h]

/-- What becomes of the releases of a life: the engine is released once more often than the session was
armed again, the last call of all is a release, and between two releases the session was armed
again. -/
structure TakesTurns (requests : List Request) (history : List Exchange) (trace : List Event) :
    Prop where
  requests_eq : history.map (·.request) = requests
  armed_between : ∃ dropped, trace = history.flatMap (·.reached) ++ dropped ∧
    ∀ earlier between later, lifeTurns history dropped =
      earlier ++ .released :: (between ++ .released :: later) → .armed ∈ between
  count_eq : trace.countP (·.isDestroy) = 1 + history.countP (·.isArming)
  last : ∃ outcome, trace.getLast? = some (.called 0 .destroy outcome)

/-- An engine whose stopwatch does not start. -/
def Engine.unstartable : Engine (StateM Unit) :=
  { unreleasable with
    stopwatch :=
      { unreleasable.stopwatch with
        start := fun _ => throw (Failure.backend "stub" "start" "busy") } }

/-- The release is kept from the engine, and the drop finds a session that is destroyed. -/
example :
    let requests : List Request := [.step .destroy #[] #[]]
    let ended := ((Session.live .still (Engine.unstartable.reached 0) requests).run []).run ()
    ended.1.2.countP (·.isDestroy) = 0 :=
  rfl

end SpectralBench
