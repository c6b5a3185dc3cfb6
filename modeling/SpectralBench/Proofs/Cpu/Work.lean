import SpectralBench.Cpu.Work

/-!
# Work that succeeds, and work that keeps something

Two things are said of work. `Gives` is about one run: from this state it succeeds, and leaves that
one. `Maintains` is about every run, also one that fails halfway: a property of the state is kept. A
loop succeeds by an invariant that counts how far it has come, and it maintains what its body does.

Main statements:

* `Gives.bind`, `Gives.bind_eq` — one piece of work after another.
* `Gives.countUp` — a loop whose body takes an invariant from each number to the next.
* `Maintains.bind`, `Maintains.countUp` — what every part keeps, the whole keeps.
-/

namespace SpectralBench.Cpu

variable {σ β γ : Type}

/-- Whether work succeeds from a state, with a result and a state afterwards. -/
def Gives (work : Work σ β) (before : σ) (b : β) (after : σ) : Prop :=
  work.run.run before = (.ok b, after)

namespace Gives

variable {before mid after : σ}

/-- Behind work that succeeds, what is left is the rest from where it has come to. -/
theorem bind_eq {first : Work σ β} {next : β → Work σ γ} {b : β} (h : Gives first before b mid) :
    (first >>= next).run.run before = (next b).run.run mid := by
  rw [ExceptT.run_bind, StateT.run_bind, h]
  rfl

/-- Two pieces of work succeed one after the other if the second does from where the first ends. -/
theorem bind {first : Work σ β} {next : β → Work σ γ} {b : β} {c : γ}
    (h : Gives first before b mid) (hnext : Gives (next b) mid c after) :
    Gives (first >>= next) before c after :=
  h.bind_eq.trans hnext

theorem of_pure (state : σ) (b : β) : Gives (pure b) state b state :=
  rfl

theorem of_get (state : σ) : Gives get state state state :=
  rfl

theorem of_modify (f : σ → σ) (state : σ) : Gives (modify f) state () (f state) :=
  rfl

theorem of_act {f : σ → Except Failure β × σ} {b : β} (h : f before = (.ok b, after)) :
    Gives (act f) before b after :=
  h

/-- A result that was computed outside leaves the state alone. -/
theorem settle {result : Except Failure β} {b : β} (h : result = .ok b) (state : σ) :
    Gives (settle result) state b state := by
  subst h
  rfl

/-- A loop takes an invariant through its numbers one by one; the state is any that the invariant
admits. -/
theorem countFrom (invariant : Nat → σ → Prop) {body : Nat → Work σ Unit} {first count : Nat}
    (hbody : ∀ i < first + count, first ≤ i → ∀ state, invariant i state →
      ∃ next, Gives (body i) state () next ∧ invariant (i + 1) next)
    (hstart : invariant first before) :
    ∃ after, Gives (countFrom body first count) before () after ∧
      invariant (first + count) after := by
  -- the first round is done in front, so the start moves with the count
  induction count generalizing first before with
  | zero => exact ⟨before, of_pure before (), hstart⟩
  | succ n ih =>
    obtain ⟨mid, hgives, hmid⟩ := hbody first (by omega) (Nat.le_refl _) before hstart
    obtain ⟨after, hrest, hafter⟩ := ih
      (fun i hi hfirst => hbody i (by omega) (Nat.le_of_succ_le hfirst)) hmid
    rw [Nat.succ_add] at hafter
    exact ⟨after, hgives.bind hrest, hafter⟩

/-- A loop that counts up from zero. -/
theorem countUp (invariant : Nat → σ → Prop) {body : Nat → Work σ Unit} {count : Nat}
    (hbody : ∀ i < count, ∀ state, invariant i state →
      ∃ next, Gives (body i) state () next ∧ invariant (i + 1) next)
    (hstart : invariant 0 before) :
    ∃ after, Gives (countUp count body) before () after ∧ invariant count after := by
  rw [← Nat.zero_add count] at hbody
  obtain ⟨after, hgives, hafter⟩ := countFrom invariant (fun i hi _ => hbody i hi) hstart
  rw [Nat.zero_add] at hafter
  exact ⟨after, hgives, hafter⟩

/-- A loop that leaves one known state after another. -/
theorem countUp_states (states : Nat → σ) {body : Nat → Work σ Unit} {count : Nat}
    (hbody : ∀ i < count, Gives (body i) (states i) () (states (i + 1))) :
    Gives (Cpu.countUp count body) (states 0) () (states count) := by
  obtain ⟨after, hgives, rfl⟩ := countUp (fun i state => state = states i)
    (fun i hi state hstate => ⟨_, hstate ▸ hbody i hi, rfl⟩) rfl
  exact hgives

end Gives

/-- Work that fails is all that comes of what it is the beginning of. -/
theorem run_bind_of_error {first : Work σ β} {before after : σ} {failure : Failure}
    (h : first.run.run before = (.error failure, after)) (next : β → Work σ γ) :
    (first >>= next).run.run before = (.error failure, after) := by
  rw [ExceptT.run_bind, StateT.run_bind, h]
  rfl

/-- Whether work keeps a property of the state, whether it succeeds or not. -/
def Maintains (property : σ → Prop) (work : Work σ β) : Prop :=
  ∀ state, property state → property (work.run.run state).2

namespace Maintains

variable {property : σ → Prop}

/-- What the first piece of work keeps, also where it fails, and every continuation, the whole
keeps. -/
theorem bind {first : Work σ β} {next : β → Work σ γ} (h : Maintains property first)
    (hnext : ∀ b, Maintains property (next b)) : Maintains property (first >>= next) := by
  intro state hstate
  have hmid := h state hstate
  rw [ExceptT.run_bind, StateT.run_bind]
  generalize first.run.run state = finished at hmid
  obtain ⟨outcome, mid⟩ := finished
  cases outcome with
  -- the rest is not reached
  | error failure => exact hmid
  | ok b => exact hnext b mid hmid

/-- Work that leaves every state as it is. -/
theorem of_same {work : Work σ β} (h : ∀ state, (work.run.run state).2 = state) :
    Maintains property work := by
  intro state hstate
  rwa [h]

theorem of_pure (b : β) : Maintains property (pure b : Work σ β) :=
  of_same fun _ => rfl

theorem of_throw (failure : Failure) : Maintains property (throw failure : Work σ β) :=
  of_same fun _ => rfl

theorem of_get : Maintains property (get : Work σ σ) :=
  of_same fun _ => rfl

theorem of_settle (result : Except Failure β) : Maintains property (settle result) :=
  of_same fun _ => rfl

theorem of_act {f : σ → Except Failure β × σ} (h : ∀ state, property state → property (f state).2) :
    Maintains property (act f) :=
  h

theorem of_modify {f : σ → σ} (h : ∀ state, property state → property (f state)) :
    Maintains property (modify f : Work σ Unit) :=
  h

theorem map {work : Work σ β} (h : Maintains property work) (f : β → γ) :
    Maintains property (f <$> work) := by
  rw [← bind_pure_comp]
  exact h.bind fun _ => of_pure _

/-- A loop keeps what every round of it keeps. -/
theorem countUp {body : Nat → Work σ Unit} (h : ∀ i, Maintains property (body i)) (count : Nat) :
    Maintains property (countUp count body) := by
  unfold Cpu.countUp
  generalize 0 = first
  induction count generalizing first with
  | zero => exact of_pure ()
  | succ n ih => exact (h first).bind fun _ => ih (first + 1)

end Maintains

end SpectralBench.Cpu
