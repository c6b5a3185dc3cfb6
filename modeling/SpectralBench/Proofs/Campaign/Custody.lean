import SpectralBench.Proofs.Watch
import Mathlib.Data.List.Basic

/-!
# Engines in good custody

A trace of a run is orderly when every call is for the engine that was made last, a new engine is
made only after the one before it was released, and every engine is used in turns: an allocation,
calls, a release, and then another allocation only if the engine may be used again. An engine that
was never allocated may be released as well.

What this means for a single engine is its story: the calls on it, and how it stands after them.
The facts about lifetimes are proved of stories, and an orderly trace is taken apart into one story
for each engine.

Main statements:

* `Story.getLast?`, `Story.separated`, `Story.countP_isDestroy` — how an engine is released.
* `Orderly.stories` — the engines of an orderly trace have stories, and only the last one may live.
* `Orderly.last_of_live` — an engine that lives is the last that was made.
-/

namespace SpectralBench

/-- Whether an event is a call of the engine with the given number. -/
def Event.reaches (number : Nat) : Event → Bool
  | .estimated engine _ => engine = number
  | .called engine _ _ => engine = number
  | _ => false

/-- Whether an event is a release of an engine. -/
def Event.isDestroy : Event → Bool
  | .called _ .destroy _ => true
  | _ => false

/-- The calls of one engine. -/
def callsOn (number : Nat) (trace : List Event) : List Event :=
  trace.filter (·.reaches number)

/-- An engine lives from an attempt to allocate to its next release. -/
def Live (number : Nat) (calls : List Event) : Prop :=
  ∃ earlier outcome later, calls = earlier ++ .called number .allocate outcome :: later ∧
    ∀ event ∈ later, event.isDestroy = false

/-- Between two releases of an engine there is an attempt to allocate. -/
def Separated (number : Nat) (calls : List Event) : Prop :=
  ∀ earlier first between second later,
    calls = earlier ++ .called number .destroy first ::
        (between ++ .called number .destroy second :: later) →
      ∃ outcome, .called number .allocate outcome ∈ between

/-- How an engine stands. -/
inductive Standing where
  /-- Made, and not yet allocated. -/
  | fresh
  | live
  /-- Released. -/
  | settled
  deriving DecidableEq

/-- The calls of one engine, and how it stands after them. -/
inductive Story (number : Nat) (reuse : Reuse) : List Event → Standing → Prop where
  | made : Story number reuse [] .fresh
  | estimated {calls : List Event} (outcome : Except Failure UInt64) :
      Story number reuse calls .fresh →
      Story number reuse (calls ++ [.estimated number outcome]) .fresh
  | allocated {calls : List Event} (outcome : Except Failure Unit) :
      Story number reuse calls .fresh →
      Story number reuse (calls ++ [.called number .allocate outcome]) .live
  | again {calls : List Event} (outcome : Except Failure Unit) : reuse = .reusable →
      Story number reuse calls .settled →
      Story number reuse (calls ++ [.called number .allocate outcome]) .live
  | called {calls : List Event} {step : Step} (outcome : Except Failure Unit) :
      step ≠ .allocate → step ≠ .destroy → Story number reuse calls .live →
      Story number reuse (calls ++ [.called number step outcome]) .live
  | destroyed {calls : List Event} {standing : Standing} (outcome : Except Failure Unit) :
      standing ≠ .settled → Story number reuse calls standing →
      Story number reuse (calls ++ [.called number .destroy outcome]) .settled

/-- A trace in which only the engine in use is called, and that engine stands as given; before the
first engine nothing is left to do. -/
inductive Orderly (reuse : Kind → Reuse) : List Event → Standing → Prop where
  -- before the first engine there is none to release
  | start : Orderly reuse [] .settled
  | quiet {trace : List Event} {standing : Standing} {event : Event} : event.isQuiet →
      Orderly reuse trace standing → Orderly reuse (trace ++ [event]) standing
  | created {trace : List Event} (configuration : Configuration) (geometry : Geometry) :
      Orderly reuse trace .settled →
      Orderly reuse (trace ++ [.created configuration (.ok geometry)]) .fresh
  | estimated {trace : List Event} {number : Nat} (outcome : Except Failure UInt64) :
      (Event.engines trace).length = number + 1 → Orderly reuse trace .fresh →
      Orderly reuse (trace ++ [.estimated number outcome]) .fresh
  | allocated {trace : List Event} {number : Nat} (outcome : Except Failure Unit) :
      (Event.engines trace).length = number + 1 → Orderly reuse trace .fresh →
      Orderly reuse (trace ++ [.called number .allocate outcome]) .live
  -- the configuration says whether its engine may be used again
  | again {trace : List Event} {number : Nat} {configuration : Configuration}
      (outcome : Except Failure Unit) : (Event.engines trace).length = number + 1 →
      (Event.engines trace)[number]? = some configuration →
      reuse configuration.kind = .reusable → Orderly reuse trace .settled →
      Orderly reuse (trace ++ [.called number .allocate outcome]) .live
  | called {trace : List Event} {number : Nat} {step : Step} (outcome : Except Failure Unit) :
      (Event.engines trace).length = number + 1 → step ≠ .allocate → step ≠ .destroy →
      Orderly reuse trace .live → Orderly reuse (trace ++ [.called number step outcome]) .live
  | destroyed {trace : List Event} {number : Nat} {standing : Standing}
      (outcome : Except Failure Unit) : (Event.engines trace).length = number + 1 →
      standing ≠ .settled → Orderly reuse trace standing →
      Orderly reuse (trace ++ [.called number .destroy outcome]) .settled

/-! ## Stories -/

theorem not_live_nil (number : Nat) : ¬Live number [] := by
  rintro ⟨earlier, outcome, later, h, _⟩
  exact List.append_ne_nil_of_right_ne_nil earlier (List.cons_ne_nil _ later) h.symm

/-- A call makes an engine live if it allocates, and lets it live if it is no release. -/
theorem live_concat {number : Nat} {calls : List Event} {event : Event} :
    Live number (calls ++ [event]) ↔
      (∃ outcome, event = .called number .allocate outcome) ∨
        (Live number calls ∧ event.isDestroy = false) := by
  constructor
  · rintro ⟨earlier, outcome, later, hcalls, hlater⟩
    -- the allocation is either the last call, or lies among those before it
    obtain rfl | ⟨rest, last, rfl⟩ := List.eq_nil_or_concat later
    · exact .inl ⟨outcome, (List.append_inj' hcalls rfl).2 |> List.cons.inj |>.1⟩
    · rw [List.concat_eq_append, ← List.cons_append, ← List.append_assoc] at hcalls
      obtain ⟨rfl, hlast⟩ := List.append_inj' hcalls rfl
      obtain ⟨rfl, -⟩ := List.cons.inj hlast
      rw [List.concat_eq_append] at hlater
      refine .inr ⟨⟨earlier, outcome, rest, rfl, fun other hother => ?_⟩, ?_⟩
      · exact hlater other (List.mem_append_left _ hother)
      · exact hlater event (List.mem_append_right _ List.mem_cons_self)
  · rintro (⟨outcome, rfl⟩ | ⟨⟨earlier, outcome, later, rfl, hlater⟩, hevent⟩)
    · exact ⟨calls, outcome, [], rfl, List.forall_mem_nil _⟩
    · refine ⟨earlier, outcome, later ++ [event], by rw [List.append_assoc, List.cons_append], ?_⟩
      intro other hother
      obtain hother | hother := List.mem_append.1 hother
      · exact hlater other hother
      · rw [List.mem_singleton.1 hother]
        exact hevent

/-- An engine that lives was allocated since any of its releases. -/
theorem Live.mem_between {number : Nat} {earlier between : List Event} {release : Event}
    (h : Live number (earlier ++ release :: between)) (hrelease : release.isDestroy) :
    ∃ outcome, .called number .allocate outcome ∈ between := by
  obtain ⟨before, outcome, later, heq, hlater⟩ := h
  refine ⟨outcome, ?_⟩
  -- either the release or the allocation comes first, and they are not the same call
  obtain ⟨more, rfl, hmore⟩ | ⟨more, rfl, hmore⟩ := List.append_eq_append_iff.1 heq
  · -- the allocation comes behind the release
    cases more with
    | nil =>
      rw [(List.cons.inj hmore).1] at hrelease
      cases hrelease
    | cons _ more =>
      obtain ⟨-, rfl⟩ := List.cons.inj hmore
      exact List.mem_append_right _ List.mem_cons_self
  · cases more with
    | nil =>
      -- the two would be the same call
      rw [← (List.cons.inj hmore).1] at hrelease
      cases hrelease
    | cons _ more =>
      obtain ⟨-, rfl⟩ := List.cons.inj hmore
      have hnot := hlater release (List.mem_append_right _ List.mem_cons_self)
      rw [hrelease] at hnot
      cases hnot

theorem separated_nil (number : Nat) : Separated number [] := by
  intro earlier first between second later heq
  exact absurd heq.symm (List.append_ne_nil_of_right_ne_nil earlier (List.cons_ne_nil _ _))

theorem Separated.concat {number : Nat} {calls : List Event} {event : Event}
    (h : Separated number calls)
    (hevent : event.isDestroy → Live number calls ∨ ∀ other ∈ calls, other.isDestroy = false) :
    Separated number (calls ++ [event]) := by
  intro earlier first between second later heq
  -- only a pair whose second release is the new call is not known to be separated
  obtain rfl | ⟨rest, last, rfl⟩ := List.eq_nil_or_concat later
  · rw [← List.cons_append, ← List.append_assoc] at heq
    obtain ⟨rfl, hlast⟩ := List.append_inj' heq rfl
    rw [(List.cons.inj hlast).1] at hevent
    obtain hlive | hnone := hevent rfl
    · exact hlive.mem_between rfl
    · cases hnone _ (List.mem_append_right _ List.mem_cons_self)
  · have hcalls : calls ++ [event] = (earlier ++ .called number .destroy first ::
        (between ++ .called number .destroy second :: rest)) ++ [last] := by
      simp only [heq, List.concat_eq_append, List.append_assoc, List.cons_append]
    exact h earlier first between second rest (List.append_inj' hcalls rfl).1

namespace Story

variable {number : Nat} {reuse : Reuse} {calls : List Event} {standing : Standing}

/-- An engine stands live exactly when it lives. -/
theorem live_iff (h : Story number reuse calls standing) : Live number calls ↔ standing = .live := by
  induction h with
  | made => exact iff_of_false (not_live_nil number) Standing.noConfusion
  | estimated outcome _ ih =>
    rw [live_concat, ih]
    simp
  | allocated outcome => exact iff_of_true (live_concat.2 (.inl ⟨outcome, rfl⟩)) rfl
  | again outcome => exact iff_of_true (live_concat.2 (.inl ⟨outcome, rfl⟩)) rfl
  | @called calls step outcome _ hdestroy _ ih =>
    refine iff_of_true (live_concat.2 (.inr ⟨ih.2 rfl, ?_⟩)) rfl
    cases step <;> first | rfl | exact absurd rfl hdestroy
  | destroyed outcome =>
    rw [live_concat]
    simp [Event.isDestroy]

/-- A released engine was released by its last call. -/
theorem getLast? (h : Story number reuse calls .settled) :
    ∃ outcome, calls.getLast? = some (.called number .destroy outcome) := by
  cases h with
  | destroyed outcome => exact ⟨outcome, List.getLast?_concat⟩

theorem not_destroyed_of_fresh (h : Story number reuse calls .fresh) :
    ∀ event ∈ calls, event.isDestroy = false := by
  generalize hfresh : Standing.fresh = standing at h
  induction h with
  | made => exact List.forall_mem_nil _
  | estimated outcome _ ih =>
    intro event hevent
    obtain hevent | hevent := List.mem_append.1 hevent
    · exact ih hfresh event hevent
    · rw [List.mem_singleton.1 hevent]
      rfl
  | _ => cases hfresh

theorem separated (h : Story number reuse calls standing) : Separated number calls := by
  induction h with
  | made => exact separated_nil number
  | estimated _ _ ih => exact ih.concat fun h => by cases h
  | allocated _ _ ih => exact ih.concat fun h => by cases h
  | again _ _ _ ih => exact ih.concat fun h => by cases h
  | called _ _ _ hcalls ih => exact ih.concat fun _ => .inl (hcalls.live_iff.2 rfl)
  | @destroyed calls standing _ hstanding hcalls ih =>
    -- a release of a new engine is the first, and a live one was allocated since the last
    refine ih.concat fun _ => ?_
    cases standing with
    | fresh => exact .inr hcalls.not_destroyed_of_fresh
    | live => exact .inl (hcalls.live_iff.2 rfl)
    | settled => exact absurd rfl hstanding

/-- An engine that may not be used again is released once. -/
theorem countP_isDestroy (h : Story number .notReusable calls standing) :
    calls.countP (·.isDestroy) = if standing = .settled then 1 else 0 := by
  induction h with
  | made => rfl
  | estimated _ _ ih =>
    rw [List.countP_append]
    exact ih
  | allocated _ _ ih =>
    rw [List.countP_append]
    exact ih
  | again _ hreuse => cases hreuse
  | @called _ step outcome _ hdestroy _ ih =>
    have hnot : [Event.called number step outcome].countP (·.isDestroy) = 0 := by
      cases step <;> first | rfl | exact absurd rfl hdestroy
    rw [List.countP_append, hnot]
    exact ih
  | destroyed _ hstanding _ ih =>
    rw [if_neg hstanding] at ih
    rw [List.countP_append, ih]
    rfl

end Story

/-! ## Orderly traces -/

@[simp]
theorem callsOn_append (number : Nat) (trace later : List Event) :
    callsOn number (trace ++ later) = callsOn number trace ++ callsOn number later :=
  List.filter_append _ _

theorem Event.reaches_of_isQuiet {event : Event} (h : event.isQuiet) (number : Nat) :
    event.reaches number = false := by
  cases event with
  | estimated => cases h
  | called => cases h
  | _ => rfl

theorem callsOn_singleton (number : Nat) (event : Event) :
    callsOn number [event] = if event.reaches number then [event] else [] := by
  rw [callsOn, List.filter_singleton]
  cases event.reaches number <;> rfl

/-- Every engine that was made has a story. The last one stands as given, and every one before it is
settled. -/
def Stories (reuse : Kind → Reuse) (trace : List Event) (standing : Standing) : Prop :=
  ∀ number configuration, (Event.engines trace)[number]? = some configuration →
    Story number (reuse configuration.kind) (callsOn number trace)
      (if (Event.engines trace).length = number + 1 then standing else .settled)

/-- A call of the last engine adds to its story, and to no other. -/
theorem Stories.call {reuse : Kind → Reuse} {trace : List Event} {standing standing' : Standing}
    {last : Nat} {event : Event} (h : Stories reuse trace standing)
    (hlast : (Event.engines trace).length = last + 1) (hengines : Event.engines [event] = [])
    (hreaches : ∀ number, event.reaches number = decide (last = number))
    (hcall : ∀ configuration, (Event.engines trace)[last]? = some configuration →
      Story last (reuse configuration.kind) (callsOn last trace) standing →
      Story last (reuse configuration.kind) (callsOn last trace ++ [event]) standing') :
    Stories reuse (trace ++ [event]) standing' := by
  intro number configuration hconfiguration
  rw [Event.engines_append, hengines, List.append_nil] at hconfiguration ⊢
  rw [callsOn_append, callsOn_singleton, hreaches]
  have hstory := h number configuration hconfiguration
  -- for every other engine, the call changes neither its story nor how it stands
  by_cases hnumber : last = number
  · subst hnumber
    rw [if_pos hlast] at hstory ⊢
    rw [if_pos (decide_eq_true rfl)]
    exact hcall configuration hconfiguration hstory
  · have hne : (Event.engines trace).length ≠ number + 1 := by omega
    rw [if_neg hne] at hstory ⊢
    rw [if_neg (by simpa using hnumber), List.append_nil]
    exact hstory

namespace Orderly

variable {reuse : Kind → Reuse} {trace : List Event} {standing : Standing}

/-- No engine is called before it is made. -/
theorem callsOn_eq_nil (h : Orderly reuse trace standing) {number : Nat}
    (hnumber : (Event.engines trace).length ≤ number) : callsOn number trace = [] := by
  -- a call reaches the last engine, and the numbers behind it are not in use
  have hcall {trace : List Event} {last : Nat} {event : Event}
      (hlast : (Event.engines trace).length = last + 1)
      (ih : (Event.engines trace).length ≤ number → callsOn number trace = [])
      (hengines : Event.engines [event] = [])
      (hreaches : event.reaches number = decide (last = number))
      (hnumber : (Event.engines (trace ++ [event])).length ≤ number) :
      callsOn number (trace ++ [event]) = [] := by
    rw [Event.engines_append, hengines, List.append_nil] at hnumber
    rw [callsOn_append, ih hnumber, callsOn_singleton, hreaches, if_neg (by simp; omega)]
    rfl
  induction h with
  | start => rfl
  | @quiet trace _ event hquiet _ ih =>
    rw [Event.engines_append, Event.engines_of_isQuiet hquiet, List.append_nil] at hnumber
    rw [callsOn_append, ih hnumber, callsOn_singleton, Event.reaches_of_isQuiet hquiet]
    rfl
  | created _ _ _ ih =>
    rw [Event.engines_append, List.length_append] at hnumber
    rw [callsOn_append, ih (by omega)]
    rfl
  | estimated _ hlast _ ih => exact hcall hlast ih rfl rfl hnumber
  | allocated _ hlast _ ih => exact hcall hlast ih rfl rfl hnumber
  | again _ hlast _ _ _ ih => exact hcall hlast ih rfl rfl hnumber
  | called _ hlast _ _ _ ih => exact hcall hlast ih rfl rfl hnumber
  | destroyed _ hlast _ _ ih => exact hcall hlast ih rfl rfl hnumber

/-- The engines of an orderly trace have stories: by induction on the trace, one call at a time. -/
theorem stories (h : Orderly reuse trace standing) : Stories reuse trace standing := by
  induction h with
  | start => exact fun number configuration h => by cases h
  | @quiet trace standing event hquiet _ ih =>
    intro number configuration hconfiguration
    rw [Event.engines_append, Event.engines_of_isQuiet hquiet, List.append_nil]
      at hconfiguration ⊢
    rw [callsOn_append, callsOn_singleton, Event.reaches_of_isQuiet hquiet, if_neg Bool.false_ne_true,
      List.append_nil]
    exact ih number configuration hconfiguration
  | @created trace configuration geometry htrace ih =>
    -- the engine that was last is settled, and the new one has no calls yet
    intro number other hother
    have hengines : Event.engines (trace ++ [.created configuration (.ok geometry)]) =
      Event.engines trace ++ [configuration] := Event.engines_append _ _
    have hcalls : callsOn number (trace ++ [.created configuration (.ok geometry)]) =
        callsOn number trace := by
      rw [callsOn_append]
      exact List.append_nil _
    rw [hengines] at hother ⊢
    rw [hcalls, List.length_append, List.length_singleton]
    obtain hnumber | hnumber := Nat.lt_or_ge number (Event.engines trace).length
    · have hstory := ih number other (by rwa [List.getElem?_append_left hnumber] at hother)
      rw [ite_self] at hstory
      rw [if_neg (by omega)]
      exact hstory
    · have hlength := (List.getElem?_eq_some_iff.1 hother).1
      rw [List.length_append, List.length_singleton] at hlength
      rw [if_pos (by omega), htrace.callsOn_eq_nil hnumber]
      exact .made
  | estimated outcome hlast _ ih =>
    exact ih.call hlast rfl (fun _ => rfl) fun _ _ hstory => .estimated outcome hstory
  | allocated outcome hlast _ ih =>
    exact ih.call hlast rfl (fun _ => rfl) fun _ _ hstory => .allocated outcome hstory
  | again outcome hlast hconfiguration hreuse _ ih =>
    refine ih.call hlast rfl (fun _ => rfl) fun other hother hstory => ?_
    -- that the engine may be used again is known of its configuration
    rw [hconfiguration] at hother
    obtain rfl := Option.some.inj hother
    exact .again outcome hreuse hstory
  | called outcome hlast hallocate hdestroy _ ih =>
    exact ih.call hlast rfl (fun _ => rfl) fun _ _ hstory =>
      .called outcome hallocate hdestroy hstory
  | destroyed outcome hlast hstanding _ ih =>
    exact ih.call hlast rfl (fun _ => rfl) fun _ _ hstory => .destroyed outcome hstanding hstory

/-- A trace is orderly from its beginning on. -/
theorem of_prefix (h : Orderly reuse trace standing) :
    ∀ earlier later, trace = earlier ++ later → ∃ standing, Orderly reuse earlier standing := by
  -- every rule adds one event, so a proper beginning is one of the trace before it
  have hconcat {trace : List Event} {event : Event} {standing : Standing}
      (h : Orderly reuse (trace ++ [event]) standing)
      (ih : ∀ earlier later, trace = earlier ++ later → ∃ standing, Orderly reuse earlier standing)
      (earlier later : List Event) (heq : trace ++ [event] = earlier ++ later) :
      ∃ standing, Orderly reuse earlier standing := by
    obtain rfl | ⟨rest, last, rfl⟩ := List.eq_nil_or_concat later
    · rw [List.append_nil] at heq
      rw [← heq]
      exact ⟨standing, h⟩
    · rw [List.concat_eq_append, ← List.append_assoc] at heq
      exact ih earlier rest (List.append_inj' heq rfl).1
  induction h with
  | start =>
    intro earlier later heq
    rw [(List.append_eq_nil_iff.1 heq.symm).1]
    exact ⟨_, .start⟩
  | quiet hquiet h ih => exact hconcat (.quiet hquiet h) ih
  | created configuration geometry h ih => exact hconcat (.created configuration geometry h) ih
  | estimated outcome hlast h ih => exact hconcat (.estimated outcome hlast h) ih
  | allocated outcome hlast h ih => exact hconcat (.allocated outcome hlast h) ih
  | again outcome hlast hconfiguration hreuse h ih =>
    exact hconcat (.again outcome hlast hconfiguration hreuse h) ih
  | called outcome hlast hallocate hdestroy h ih =>
    exact hconcat (.called outcome hlast hallocate hdestroy h) ih
  | destroyed outcome hlast hstanding h ih => exact hconcat (.destroyed outcome hlast hstanding h) ih

/-- Only the last engine can live. -/
theorem last_of_live (h : Orderly reuse trace standing) {number : Nat}
    (hlive : Live number (callsOn number trace)) : (Event.engines trace).length = number + 1 := by
  obtain hnumber | hnumber := Nat.lt_or_ge number (Event.engines trace).length
  · have hstanding := (h.stories number _ (List.getElem?_eq_getElem hnumber)).live_iff.1 hlive
    by_contra hne
    rw [if_neg hne] at hstanding
    cases hstanding
  · rw [h.callsOn_eq_nil hnumber] at hlive
    exact absurd hlive (not_live_nil number)

/-- Where nothing is left to do, every engine is settled. -/
theorem story_settled (h : Orderly reuse trace .settled) {number : Nat}
    {configuration : Configuration}
    (hconfiguration : (Event.engines trace)[number]? = some configuration) :
    Story number (reuse configuration.kind) (callsOn number trace) .settled := by
  have hstory := h.stories number configuration hconfiguration
  rw [ite_self] at hstory
  exact hstory

theorem separated (h : Orderly reuse trace standing) (number : Nat) :
    Separated number (callsOn number trace) := by
  obtain hnumber | hnumber := Nat.lt_or_ge number (Event.engines trace).length
  · exact (h.stories number _ (List.getElem?_eq_getElem hnumber)).separated
  · rw [h.callsOn_eq_nil hnumber]
    exact separated_nil number

end Orderly

end SpectralBench
