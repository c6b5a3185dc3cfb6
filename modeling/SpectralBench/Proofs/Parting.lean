import SpectralBench.Proofs.Campaign.Refusal
import SpectralBench.Proofs.Session.Twin

/-!
# Two runs that part

Two runs that differ in their journals alone go together until one of the journals refuses what the
other one takes. From there the first run only has to end, and the second one goes on. What both
have done by then stays where it is, since a run only ever adds to its trace.

`Parts` says this of two actions: they go together and their results are related, or they have
parted, and then something is known of each result on its own. The rule for two actions, one after
the other, needs to know of the second ones that they go together, and that each of them adds to its
trace when the runs have parted before.

Which worlds are alike is left open here, as it is for runs side by side: they give the same answers
to all calls, and nothing that a journal does can be told from the answers.

Main statements:

* `Parts.bind`, `Parts.bindExcept` — two actions, one after the other, on both sides.
* `Session.Parts.bind` — the same for actions on two sessions.
* `Agree.asked_bind` — a call that one of the journals may refuse, and what comes after it.
-/

namespace SpectralBench

variable {σ α β γ δ : Type}

/-! ## Where two runs part -/

/-- A call of the journal, as if it had been taken. -/
def Event.taken : Event → Event
  | .started header _ => .started header (.ok ())
  | .recorded entry _ => .recorded entry (.ok ())
  | .finished _ => .finished (.ok ())
  | event => event

/-- The runs did the same, but for times, up to a call of the journal that was refused in the first
and taken in the second. -/
def Parted (trace trace' : List Event) : Prop :=
  ∃ earlier refused failure later earlier' accepted later',
    trace = earlier ++ refused :: later ∧ trace' = earlier' ++ accepted :: later' ∧
      earlier.map Event.plain = earlier'.map Event.plain ∧
      refused.refusal? = some failure ∧ refused.taken.plain = accepted.plain

theorem Parted.append {trace trace' : List Event} (h : Parted trace trace')
    (more more' : List Event) : Parted (trace ++ more) (trace' ++ more') := by
  obtain ⟨earlier, refused, failure, later, earlier', accepted, later', rfl, rfl, hsame⟩ := h
  exact ⟨earlier, refused, failure, later ++ more, earlier', accepted, later' ++ more', by simp,
    by simp, hsame⟩

theorem Parted.append_right {trace trace' : List Event} (h : Parted trace trace')
    (more : List Event) : Parted trace (trace' ++ more) := by
  have hgrown := h.append [] more
  rwa [List.append_nil] at hgrown

/-- Runs that went together can part at the next call of the journal. -/
theorem Parted.here {trace trace' : List Event} {refused accepted : Event} {failure : Failure}
    (hplain : trace.map Event.plain = trace'.map Event.plain)
    (hrefused : refused.refusal? = some failure) (hsame : refused.taken.plain = accepted.plain) :
    Parted (trace ++ [refused]) (trace' ++ [accepted]) :=
  ⟨trace, refused, failure, [], trace', accepted, [], rfl, rfl, hplain, hrefused, hsame⟩

theorem Told.plain {base trace trace' : List Event} (h : Told base base trace trace') :
    trace.map Event.plain = trace'.map Event.plain := by
  obtain ⟨added, added', rfl, rfl, hadded, -⟩ := h
  rw [List.map_append, List.map_append, hadded]

/-- What belongs to a configuration was not refused. -/
theorem Event.refusal?_of_isVisiting {event : Event} (h : event.isVisiting) :
    event.refusal? = none := by
  cases event with
  | started => cases h
  | finished => cases h
  | recorded _ outcome => cases outcome <;> first | rfl | cases h
  | _ => rfl

theorem Told.unrefused {base trace trace' : List Event} (h : Told base base trace trace')
    (hbase : Unrefused base) : Unrefused trace := by
  obtain ⟨added, added', rfl, -, hadded, hvisiting⟩ := h
  refine hbase.append fun event hevent => ?_
  -- what is added on the other side is the same event, but for what history decides
  have hmem : event.plain ∈ added'.map Event.plain := hadded ▸ List.mem_map_of_mem hevent
  obtain ⟨other, hother, hplain⟩ := List.mem_map.1 hmem
  have hsame := hvisiting other hother
  rw [← Event.isVisiting_plain, hplain, Event.isVisiting_plain] at hsame
  exact Event.refusal?_of_isVisiting hsame

/-! ## Actions that go together or part -/

section Parts

variable (alike : σ → σ → Prop) (base : List Event)

/-- From worlds that are alike, behind traces that went on in the same way, the actions go together
and their results are related by `rel`; or they part, and then `p` and `q` hold of the results. -/
def Parts (left : Watched (StateM σ) α) (right : Watched (StateM σ) β) (rel : α → β → Prop)
    (p : α → Prop) (q : β → Prop) : Prop :=
  Agree (Linked alike base base) left right fun a b trace world trace' world' =>
    (rel a b ∧ Linked alike base base trace world trace' world') ∨
      (p a ∧ q b ∧ Parted trace trace')

/-- Whether an outcome is a failure. -/
def IsError (outcome : Except Failure α) : Prop :=
  ∃ failure, outcome = .error failure

/-- `Parts` for parts of a run that may fail: after they have parted, the first one has failed. -/
def PartsExcept (left : ExceptT Failure (Watched (StateM σ)) α)
    (right : ExceptT Failure (Watched (StateM σ)) β) (rel : α → β → Prop) : Prop :=
  Parts alike base left.run right.run (Both rel) IsError fun _ => True

end Parts

/-- An action that only adds to the trace. -/
def Grows (action : Watched (StateM σ) α) : Prop :=
  ∀ before, Ends action before fun _ _ => True

/-! ## Before and behind the grid -/

/-- What comes after a call that is noted, and may fail. -/
theorem run_noting_bind {event : Except Failure α → Event} {action : ExceptT Failure (StateM σ) α}
    {next : α → ExceptT Failure (Watched (StateM σ)) β} (trace : List Event) (world : σ) :
    ((Watched.noting event action >>= next).run.run trace).run world =
      match (action.run.run world).1 with
      | .ok a => ((next a).run.run (trace ++ [event (.ok a)])).run (action.run.run world).2
      | .error failure =>
        ((.error failure, trace ++ [event (.error failure)]), (action.run.run world).2) := by
  change ((ExceptT.bindCont next (action.run.run world).1).run
    (trace ++ [event (action.run.run world).1])).run (action.run.run world).2 = _
  cases (action.run.run world).1 <;> rfl

/-- The runs did the same so far and nothing was refused; `rel` relates their worlds. -/
def Same (rel : σ → σ → Prop) : Link σ :=
  fun trace world trace' world' => Unrefused trace ∧ trace = trace' ∧ rel world world'

/-- The first run was not refused anything, or the runs have parted where it was. -/
def Cut : Link σ :=
  fun trace _ trace' _ => Unrefused trace ∨ Parted trace trace'

theorem Agree.same {action : Watched (StateM σ) α}
    (h : ∀ before, Ends action before fun _ events => Unrefused events) :
    Agree (Same Eq) action action fun a b trace world trace' world' =>
      a = b ∧ Same Eq trace world trace' world' := by
  rintro trace world _ _ ⟨htrace, rfl, rfl⟩
  obtain ⟨events, hadded, hnone⟩ := h trace world
  refine ⟨rfl, ?_, rfl, rfl⟩
  rw [hadded]
  exact htrace.append hnone

/-- Runs that did the same so far go on from there in the same way. -/
theorem Agree.of_same {alike : σ → σ → Prop} {left : Watched (StateM σ) α}
    {right : Watched (StateM σ) β} {post : α → β → Link σ}
    (h : ∀ base, Unrefused base → Agree (Linked alike base base) left right post) :
    Agree (Same alike) left right post := by
  rintro trace world _ world' ⟨htrace, rfl, hworld⟩
  exact h trace htrace trace world trace world' ⟨hworld, Told.refl trace trace⟩

theorem Agree.ok_bind {link : Link σ} {a : α} {b : β}
    {next : α → ExceptT Failure (Watched (StateM σ)) γ}
    {next' : β → ExceptT Failure (Watched (StateM σ)) δ}
    {post : Except Failure γ → Except Failure δ → Link σ}
    (h : Agree link (next a).run (next' b).run post) :
    Agree link (ExceptT.mk (Pure.pure (.ok a)) >>= next).run
      (ExceptT.mk (Pure.pure (.ok b)) >>= next').run post :=
  h

/-- A call that one of the journals may refuse and the other one takes, and what comes after it. -/
theorem Agree.asked_bind {link mid : Link σ} {event : Except Failure Unit → Event}
    {left right : ExceptT Failure (StateM σ) Unit}
    {next : Unit → ExceptT Failure (Watched (StateM σ)) α}
    {next' : Unit → ExceptT Failure (Watched (StateM σ)) β}
    (hevent : ∀ failure, (event (.error failure)).refusal? = some failure ∧
      (event (.error failure)).taken = event (.ok ()))
    (htakes : ∀ world, (right.run.run world).1 = .ok ()) (hgrows : Grows (next' ()).run)
    (hlink : ∀ trace world trace' world', link trace world trace' world' →
      trace.map Event.plain = trace'.map Event.plain ∧
        mid (trace ++ [event (.ok ())]) (left.run.run world).2 (trace' ++ [event (.ok ())])
          (right.run.run world').2)
    (hnext : Agree mid (next ()).run (next' ()).run fun _ _ => Cut) :
    Agree link (Watched.noting event left >>= next).run (Watched.noting event right >>= next').run
      fun _ _ => Cut := by
  intro trace world trace' world' hbefore
  obtain ⟨hplain, hmid⟩ := hlink trace world trace' world' hbefore
  have hright := htakes world'
  -- only the first journal decides whether the runs part here
  cases hleft : (left.run.run world).1 with
  | ok _ =>
    simpa only [run_noting_bind, hleft, hright] using hnext _ _ _ _ hmid
  | error failure =>
    -- the first run is over, and the other one goes on behind the call
    have hparted : Parted (trace ++ [event (.error failure)]) (trace' ++ [event (.ok ())]) :=
      .here hplain (hevent failure).1 (congrArg Event.plain (hevent failure).2)
    obtain ⟨more, hmore, -⟩ := hgrows (trace' ++ [event (.ok ())]) (right.run.run world').2
    refine .inr ?_
    simp only [run_noting_bind, hleft, hright, hmore]
    exact hparted.append_right more

variable {alike : σ → σ → Prop} {base : List Event}

namespace Parts

variable {left : Watched (StateM σ) α} {right : Watched (StateM σ) β} {rel : α → β → Prop}
  {p : α → Prop} {q : β → Prop}

theorem of_twins (h : Twins (Linked alike base base) left right rel) :
    Parts alike base left right rel p q :=
  fun trace world trace' world' hlink => .inl (h trace world trace' world' hlink)

theorem mono {other : α → β → Prop} {p' : α → Prop} {q' : β → Prop}
    (h : Parts alike base left right rel p q) (hrel : ∀ a b, rel a b → other a b)
    (hp : ∀ a, p a → p' a) (hq : ∀ b, q b → q' b) : Parts alike base left right other p' q' := by
  intro trace world trace' world' hlink
  rcases h trace world trace' world' hlink with ⟨hresults, hafter⟩ | ⟨hleft, hright, hparted⟩
  · exact .inl ⟨hrel _ _ hresults, hafter⟩
  · exact .inr ⟨hp _ hleft, hq _ hright, hparted⟩

theorem bind {next : α → Watched (StateM σ) γ} {next' : β → Watched (StateM σ) δ}
    {other : γ → δ → Prop} {p' : γ → Prop} {q' : δ → Prop} (h : Parts alike base left right rel p q)
    (hnext : ∀ a b, rel a b → Parts alike base (next a) (next' b) other p' q')
    (hleft : ∀ a before, p a → Ends (next a) before fun c _ => p' c)
    (hright : ∀ b before, q b → Ends (next' b) before fun d _ => q' d) :
    Parts alike base (left >>= next) (right >>= next') other p' q' := by
  intro trace world trace' world' hlink
  rcases h trace world trace' world' hlink with ⟨hresults, hafter⟩ | ⟨ha, hb, hparted⟩
  · exact hnext _ _ hresults _ _ _ _ hafter
  · -- the runs have parted, and what each of them does now is added behind that
    obtain ⟨more, htrace, hc⟩ :=
      hleft _ ((left.run trace).run world).1.2 ha ((left.run trace).run world).2
    obtain ⟨more', htrace', hd⟩ :=
      hright _ ((right.run trace').run world').1.2 hb ((right.run trace').run world').2
    refine .inr ⟨hc, hd, ?_⟩
    have hgrown := hparted.append more more'
    rw [← htrace, ← htrace'] at hgrown
    exact hgrown

theorem map {f : α → γ} {g : β → δ} {other : γ → δ → Prop} {p' : γ → Prop} {q' : δ → Prop}
    (h : Parts alike base left right (fun a b => other (f a) (g b)) (fun a => p' (f a))
      fun b => q' (g b)) :
    Parts alike base (f <$> left) (g <$> right) other p' q' :=
  fun trace world trace' world' hlink => h trace world trace' world' hlink

/-- Parts of runs that may fail: what comes after them runs on both sides, on neither, or only on
the side that was not refused anything. -/
theorem bindExcept {left : ExceptT Failure (Watched (StateM σ)) α}
    {right : ExceptT Failure (Watched (StateM σ)) β}
    {next : α → ExceptT Failure (Watched (StateM σ)) γ}
    {next' : β → ExceptT Failure (Watched (StateM σ)) δ} {other : γ → δ → Prop}
    (h : PartsExcept alike base left right rel)
    (hnext : ∀ a b, rel a b → PartsExcept alike base (next a) (next' b) other)
    (hgrows : ∀ b, Grows (next' b).run) :
    PartsExcept alike base (left >>= next) (right >>= next') other := by
  rw [PartsExcept, ExceptT.run_bind, ExceptT.run_bind]
  refine Parts.bind h ?_ ?_ ?_
  · intro outcome outcome' hboth
    cases hboth with
    | ok hrel => exact hnext _ _ hrel
    | error failure => exact .of_twins (Twins.pure (.error failure))
  · rintro _ before ⟨failure, rfl⟩
    exact Ends.pure ⟨failure, rfl⟩
  · intro outcome before _
    cases outcome with
    | ok b => exact hgrows b before
    | error failure => exact Ends.pure trivial

theorem ok_bind {a : α} {b : β} {next : α → ExceptT Failure (Watched (StateM σ)) γ}
    {next' : β → ExceptT Failure (Watched (StateM σ)) δ} {other : γ → δ → Prop}
    (h : PartsExcept alike base (next a) (next' b) other) :
    PartsExcept alike base (ExceptT.mk (Pure.pure (.ok a)) >>= next)
      (ExceptT.mk (Pure.pure (.ok b)) >>= next') other :=
  h

/-- Effects that cannot fail, after which the runs may have parted. -/
theorem effect_bind {next : α → ExceptT Failure (Watched (StateM σ)) γ}
    {next' : β → ExceptT Failure (Watched (StateM σ)) δ} {other : γ → δ → Prop}
    (h : Parts alike base left right rel p q)
    (hnext : ∀ a b, rel a b → PartsExcept alike base (next a) (next' b) other)
    (hleft : ∀ a before, p a → Ends (next a).run before fun c _ => IsError c)
    (hright : ∀ b, q b → Grows (next' b).run) :
    PartsExcept alike base (liftM left >>= next) (liftM right >>= next') other :=
  h.bind hnext hleft fun b before hb => hright b hb before

/-- Effects that cannot fail, before runs that may part. -/
theorem liftM_bind {next : α → ExceptT Failure (Watched (StateM σ)) γ}
    {next' : β → ExceptT Failure (Watched (StateM σ)) δ} {other : γ → δ → Prop}
    (h : Twins (Linked alike base base) left right rel)
    (hnext : ∀ a b, rel a b → PartsExcept alike base (next a) (next' b) other) :
    PartsExcept alike base (liftM left >>= next) (liftM right >>= next') other := by
  rw [PartsExcept, Parts]
  exact Twins.liftM_bind h fun a b hrel => hnext a b hrel

/-- What comes after actions that go together or part. -/
theorem cut_bind {left : ExceptT Failure (Watched (StateM σ)) α}
    {right : ExceptT Failure (Watched (StateM σ)) β}
    {next : α → ExceptT Failure (Watched (StateM σ)) γ}
    {next' : β → ExceptT Failure (Watched (StateM σ)) δ} (h : PartsExcept alike base left right rel)
    (hbase : Unrefused base)
    (hnext : ∀ a b, rel a b →
      Agree (Linked alike base base) (next a).run (next' b).run fun _ _ => Cut)
    (hgrows : ∀ b, Grows (next' b).run) :
    Agree (Linked alike base base) (left >>= next).run (right >>= next').run fun _ _ => Cut := by
  unfold PartsExcept Parts at h
  rw [ExceptT.run_bind, ExceptT.run_bind]
  refine Agree.bind h fun outcome outcome' trace world trace' world' hmiddle => ?_
  rcases hmiddle with ⟨hboth, hlink⟩ | ⟨⟨failure, rfl⟩, -, hparted⟩
  · cases hboth with
    | ok hrel => exact hnext _ _ hrel trace world trace' world' hlink
    | error failure => exact .inl (hlink.2.unrefused hbase)
  · cases outcome' with
    | error failure' => exact .inr hparted
    | ok b =>
      -- the first run is over, and only the other one goes on
      obtain ⟨more, hmore, -⟩ := hgrows b trace' world'
      refine .inr ?_
      change Parted trace (((next' b).run.run trace').run world').1.2
      rw [hmore]
      exact hparted.append_right more

end Parts

namespace Session

/-! ## Actions on two sessions that go together or part -/

/-- A session of some watched engine. -/
def IsWatched (session : WatchedSession σ) : Prop :=
  ∃ engine number stage, session = of engine number stage

/-- Two sessions at one stage, with engines that cannot be told apart. -/
def Abreast (alike : σ → σ → Prop) (session session' : WatchedSession σ) : Prop :=
  ∃ engine engine' number number' stage, engine.Alike alike engine' ∧
    session = of engine number stage ∧ session' = of engine' number' stage

theorem Abreast.isWatched {session session' : WatchedSession σ}
    (h : Abreast alike session session') : IsWatched session ∧ IsWatched session' := by
  obtain ⟨engine, engine', number, number', stage, -, hsession, hsession'⟩ := h
  exact ⟨⟨engine, number, stage, hsession⟩, engine', number', stage, hsession'⟩

theorem Abreast.geometry_eq {session session' : WatchedSession σ}
    (h : Abreast alike session session') : session.engine.geometry = session'.engine.geometry := by
  obtain ⟨engine, engine', number, number', stage, hengine, rfl, rfl⟩ := h
  exact hengine.geometry_eq

/-- The results are related, and the sessions are still abreast. -/
def Ahead (alike : σ → σ → Prop) (rel : α → β → Prop) (ended : α × WatchedSession σ)
    (ended' : β × WatchedSession σ) : Prop :=
  rel ended.1 ended'.1 ∧ Abreast alike ended.2 ended'.2

/-- An action on a session that only adds to the trace. -/
def Grows (action : SessionM (Watched (StateM σ)) α) : Prop :=
  ∀ session before, IsWatched session →
    Ends action session before fun _ session _ => IsWatched session

/-- Actions on two sessions that go together. -/
def Keeps (alike : σ → σ → Prop) (base : List Event) (left : SessionM (Watched (StateM σ)) α)
    (right : SessionM (Watched (StateM σ)) β) (rel : α → β → Prop) : Prop :=
  ∀ session session', Abreast alike session session' →
    SpectralBench.Twins (Linked alike base base) (left.run.run session) (right.run.run session')
      (Ahead alike (Both rel))

/-- Actions on two sessions that go together or part, and then the first of them has failed. -/
def Parts (alike : σ → σ → Prop) (base : List Event) (left : SessionM (Watched (StateM σ)) α)
    (right : SessionM (Watched (StateM σ)) β) (rel : α → β → Prop) : Prop :=
  ∀ session session', Abreast alike session session' →
    SpectralBench.Parts alike base (left.run.run session) (right.run.run session')
      (Ahead alike (Both rel)) (fun ended => IsError ended.1 ∧ IsWatched ended.2)
      fun ended' => IsWatched ended'.2

namespace Grows

variable {action : SessionM (Watched (StateM σ)) α}

theorem pure (a : α) : Grows (Pure.pure a : SessionM (Watched (StateM σ)) α) :=
  fun _ _ hsession => Ends.pure hsession

theorem bind {next : α → SessionM (Watched (StateM σ)) β} (h : Grows action)
    (hnext : ∀ a, Grows (next a)) : Grows (action >>= next) := by
  intro session before hsession
  refine (h session before hsession).bind ?_ ?_
  · intro a session events hafter
    exact hnext a session (before ++ events) hafter
  · intro failure session events hafter
    exact hafter

theorem map (h : Grows action) (f : α → β) : Grows (f <$> action) :=
  fun session before hsession => Ends.map (h session before hsession)

theorem call {action : ExceptT Failure (Watched (StateM σ)) α}
    (h : SpectralBench.Grows action.run) : Grows (Session.call action) :=
  fun _ before hsession => Ends.call ((h before).mono fun _ _ _ => hsession)

theorem perform {action : Watched (StateM σ) α} (h : SpectralBench.Grows action) :
    Grows (Session.perform action) :=
  fun _ before hsession =>
    Ends.lift (SpectralBench.Ends.map (f := fun a => (a, _))
      ((h before).mono fun _ _ _ => hsession))

theorem lift {action : StateT (WatchedSession σ) (Watched (StateM σ)) α}
    (h : ∀ session before, IsWatched session →
      SpectralBench.Ends (action.run session) before fun ended _ => IsWatched ended.2) :
    Grows (ExceptT.lift action) :=
  fun session before hsession => Ends.lift (h session before hsession)

theorem current : Grows (Session.current : SessionM (Watched (StateM σ)) _) :=
  fun _ before hsession _ => ⟨[], (List.append_nil before).symm, hsession⟩

end Grows

namespace Keeps

variable {left : SessionM (Watched (StateM σ)) α} {right : SessionM (Watched (StateM σ)) β}
  {rel : α → β → Prop}

theorem of_twins (h : ∀ (engine engine' : Engine (StateM σ)) (number number' : Nat) (stage : Stage),
    engine.Alike alike engine' →
    Twins (Linked alike base base) engine engine' number number' stage left right rel) :
    Keeps alike base left right rel := by
  rintro _ _ ⟨engine, engine', number, number', stage, hengine, rfl, rfl⟩
  refine SpectralBench.Twins.mono (h engine engine' number number' stage hengine) ?_
  rintro ended ended' ⟨hboth, stage', hsession, hsession'⟩
  exact ⟨hboth, engine, engine', number, number', stage', hengine, hsession, hsession'⟩

/-- What comes after actions that go together, whatever is known of it: it runs on both sides, or both
have failed. -/
theorem agree_bind {next : α → SessionM (Watched (StateM σ)) γ}
    {next' : β → SessionM (Watched (StateM σ)) δ}
    {post : Except Failure γ × WatchedSession σ → Except Failure δ × WatchedSession σ → Link σ}
    (h : Keeps alike base left right rel) {session session' : WatchedSession σ}
    (habreast : Abreast alike session session')
    (hnext : ∀ a b after after', rel a b → Abreast alike after after' →
      Agree (Linked alike base base) ((next a).run.run after) ((next' b).run.run after') post)
    (herror : ∀ failure after after', Abreast alike after after' →
      Agree (Linked alike base base) (Pure.pure (.error failure, after))
        (Pure.pure (.error failure, after')) post) :
    Agree (Linked alike base base) ((left >>= next).run.run session)
      ((right >>= next').run.run session') post := by
  refine Session.agree_bind (h session session' habreast) fun ended ended' => ?_
  refine Agree.of_and fun hended => ?_
  obtain ⟨outcome, after⟩ := ended
  obtain ⟨outcome', after'⟩ := ended'
  obtain ⟨hboth, hafter⟩ := hended
  cases hboth with
  | ok hrel => exact hnext _ _ after after' hrel hafter
  | error failure => exact herror failure after after' hafter

theorem bind {next : α → SessionM (Watched (StateM σ)) γ}
    {next' : β → SessionM (Watched (StateM σ)) δ} {other : γ → δ → Prop}
    (h : Keeps alike base left right rel)
    (hnext : ∀ a b, rel a b → Keeps alike base (next a) (next' b) other) :
    Keeps alike base (left >>= next) (right >>= next') other := by
  intro session session' habreast
  refine h.agree_bind habreast ?_ ?_
  · intro a b after after' hrel hafter
    exact hnext a b hrel after after' hafter
  · intro failure after after' hafter
    exact SpectralBench.Twins.pure ⟨.error failure, hafter⟩

/-- Parts of runs that do not see the sessions. -/
theorem call {left : ExceptT Failure (Watched (StateM σ)) α}
    {right : ExceptT Failure (Watched (StateM σ)) β}
    (h : SpectralBench.Twins (Linked alike base base) left.run right.run (Both rel)) :
    Keeps alike base (Session.call left) (Session.call right) rel :=
  fun session session' habreast =>
    SpectralBench.Twins.map (f := fun outcome => (outcome, session))
      (g := fun outcome => (outcome, session')) (h.mono fun _ _ hboth => ⟨hboth, habreast⟩)

/-- Parts of runs that see the sessions and cannot fail. -/
theorem lift {left : StateT (WatchedSession σ) (Watched (StateM σ)) α}
    {right : StateT (WatchedSession σ) (Watched (StateM σ)) β}
    (h : ∀ session session', Abreast alike session session' →
      SpectralBench.Twins (Linked alike base base) (left.run session) (right.run session')
        (Ahead alike rel)) :
    Keeps alike base (ExceptT.lift left) (ExceptT.lift right) rel := by
  intro session session' habreast
  rw [ExceptT.run_lift, ExceptT.run_lift, StateT.run_map, StateT.run_map]
  exact SpectralBench.Twins.map
    ((h session session' habreast).mono fun _ _ hended => ⟨.ok hended.1, hended.2⟩)

theorem perform {left : Watched (StateM σ) α} {right : Watched (StateM σ) β}
    (h : SpectralBench.Twins (Linked alike base base) left right rel) :
    Keeps alike base (Session.perform left) (Session.perform right) rel := by
  refine lift fun session session' habreast => ?_
  exact SpectralBench.Twins.map (f := fun a => (a, session)) (g := fun b => (b, session'))
    (h.mono fun _ _ hrel => ⟨hrel, habreast⟩)

theorem current : Keeps alike base Session.current Session.current (Abreast alike) :=
  fun _ _ habreast => SpectralBench.Twins.pure ⟨.ok habreast, habreast⟩

theorem set {session session' : WatchedSession σ} (h : Abreast alike session session') :
    Keeps alike base (ExceptT.lift (MonadStateOf.set session))
      (ExceptT.lift (MonadStateOf.set session')) fun _ _ => True :=
  fun _ _ _ => SpectralBench.Twins.pure ⟨.ok trivial, h⟩

end Keeps

namespace Parts

variable {left : SessionM (Watched (StateM σ)) α} {right : SessionM (Watched (StateM σ)) β}
  {rel : α → β → Prop}

theorem pure {a : α} {b : β} (h : rel a b) : Parts alike base (Pure.pure a) (Pure.pure b) rel :=
  fun _ _ habreast => .of_twins (SpectralBench.Twins.pure ⟨.ok h, habreast⟩)

theorem bind {next : α → SessionM (Watched (StateM σ)) γ}
    {next' : β → SessionM (Watched (StateM σ)) δ} {other : γ → δ → Prop}
    (h : Parts alike base left right rel)
    (hnext : ∀ a b, rel a b → Parts alike base (next a) (next' b) other)
    (hgrows : ∀ b, Grows (next' b)) :
    Parts alike base (left >>= next) (right >>= next') other := by
  intro session session' habreast
  rw [ExceptT.run_bind, ExceptT.run_bind, StateT.run_bind, StateT.run_bind]
  refine SpectralBench.Parts.bind (h session session' habreast) ?_ ?_ ?_
  · rintro ⟨outcome, after⟩ ⟨outcome', after'⟩ ⟨hboth, hafter⟩
    cases hboth with
    | ok hrel => exact hnext _ _ hrel after after' hafter
    | error failure => exact .of_twins (SpectralBench.Twins.pure ⟨.error failure, hafter⟩)
  · -- the side that was refused something runs nothing more
    rintro ⟨outcome, after⟩ before ⟨⟨failure, hfailure⟩, hafter⟩
    dsimp only at hfailure
    subst hfailure
    exact SpectralBench.Ends.pure ⟨⟨failure, rfl⟩, hafter⟩
  · rintro ⟨outcome', after'⟩ before hafter
    cases outcome' with
    | ok b => exact hgrows b after' before hafter
    | error failure => exact SpectralBench.Ends.pure hafter

/-- Before the runs can part. -/
theorem keeps_bind {next : α → SessionM (Watched (StateM σ)) γ}
    {next' : β → SessionM (Watched (StateM σ)) δ} {other : γ → δ → Prop}
    (h : Keeps alike base left right rel)
    (hnext : ∀ a b, rel a b → Parts alike base (next a) (next' b) other) :
    Parts alike base (left >>= next) (right >>= next') other := by
  intro session session' habreast
  refine h.agree_bind habreast ?_ ?_
  · intro a b after after' hrel hafter
    exact hnext a b hrel after after' hafter
  · intro failure after after' hafter
    exact SpectralBench.Parts.of_twins (SpectralBench.Twins.pure ⟨.error failure, hafter⟩)

theorem map {f : α → γ} {g : β → δ} {other : γ → δ → Prop}
    (h : Parts alike base left right fun a b => other (f a) (g b)) :
    Parts alike base (f <$> left) (g <$> right) other := by
  intro session session' habreast
  rw [ExceptT.run_map, ExceptT.run_map, StateT.run_map, StateT.run_map]
  refine SpectralBench.Parts.map ((h session session' habreast).mono ?_ ?_ ?_)
  · exact fun _ _ hended => ⟨hended.1.map, hended.2⟩
  · rintro ⟨_, after⟩ ⟨⟨failure, rfl⟩, hafter⟩
    exact ⟨⟨failure, rfl⟩, hafter⟩
  · exact fun _ hafter => hafter

/-- Parts of runs that do not see the sessions. -/
theorem call {left : ExceptT Failure (Watched (StateM σ)) α}
    {right : ExceptT Failure (Watched (StateM σ)) β}
    (h : PartsExcept alike base left right rel) :
    Parts alike base (Session.call left) (Session.call right) rel := by
  intro session session' habreast
  refine SpectralBench.Parts.map (f := fun outcome => (outcome, session))
    (g := fun outcome => (outcome, session')) (Parts.mono h ?_ ?_ ?_)
  · exact fun _ _ hboth => ⟨hboth, habreast⟩
  · exact fun _ herror => ⟨herror, habreast.isWatched.1⟩
  · exact fun _ _ => habreast.isWatched.2

end Parts

end Session

end SpectralBench
