import SpectralBench.Proofs.Cpu.Calls
import SpectralBench.Proofs.Cpu.Totality
import SpectralBench.Proofs.Cpu.Upkeep

/-!
# What the state of an engine always is

An engine can be called in any order, and called again after a failure. Its buffers are empty or have
the sizes of the geometry, its plan is that of the latest planning which succeeded since the engine was
last destroyed, unless a later one failed that had given the plan up, and the work buffers have room
for it. This couples buffers, plan and work buffers, and it is what executions rely on.

Calls are of two sorts. Planning and destroying replace the plan, all others touch buffers only
(`Rig.Refills`) and leave them empty or whole. So the invariant is kept by case analysis on the two
plannings, the release, and one lemma for everything else.

Main statements:

* `Rig.respond_refills` — what the calls do that touch buffers only.
* `Rig.Consistent.respond`, `Rig.Consistent.serve` — the invariant is kept by a call, and by a list.
* `Rig.Allocated.respond` — buffers that are there stay until they are released.
* `Rig.Consistent.suits` — the plan has the form of the geometry, and fits the work buffers.
-/

namespace SpectralBench

/-- Whether a call may replace the plan. -/
def Call.replans : Call → Bool
  | .step .planForward _ _ => true
  | .step .planInverse _ _ => true
  | .step .destroy _ _ => true
  | _ => false

/-- The direction that is planned after a call and its answer, if there is a plan; the plan of a
complex transform is the forward one throughout. A real transform gives its plan up before it plans the
way back, so a failure leaves it without. -/
def Call.planned (kind : Kind) (direction : Option Bool) : Call → Except Failure Unit → Option Bool
  | .step .planForward _ _, .ok () => some false
  | .step .planInverse _ _, .ok () => if kind.isReal then some true else direction
  | .step .planInverse _ _, .error _ => if kind.isReal then none else direction
  | .step .destroy _ _, .ok () => none
  | _, _ => direction

theorem Call.planned_of_replans {kind : Kind} {call : Call} (h : call.replans = false)
    (direction : Option Bool) (answer : Except Failure Unit) :
    call.planned kind direction answer = direction := by
  cases call with
  | planEstimate => rfl
  | step taken input output => cases taken <;> first | rfl | cases h

/-- The direction that is planned after a list of calls and their answers. -/
def Call.latest (kind : Kind) (direction : Option Bool) (calls : List Call)
    (answers : List (Except Failure Unit)) : Option Bool :=
  (calls.zip answers).foldl (fun direction exchange =>
    exchange.1.planned kind direction exchange.2) direction

namespace Cpu

variable {α : Type}

/-! ## Plans of a geometry -/

/-- Whether there is one line transform for each of several lengths, with room to work in. -/
def Workspace.Suits (space : Workspace) (plans : List (LinePlan α)) (lengths : List ℕ) : Prop :=
  plans.map (·.length) = lengths ∧ ∀ plan ∈ plans, plan.workspace.LE space

/-- Whether a plan is one of a geometry and a direction, and work buffers are as it needs them: a
complex plan has a transform for every axis in each direction, and none of real rows; a real one has
a transform for every outer axis and one of the rows, all of them in its own direction only, and a line
of just one row. -/
def Plan.Suits (plan : Plan α) (g : Geometry) (inverse : Bool) (space : Workspace) : Prop :=
  match g.kind, inverse with
  | .complex, _ =>
    space.Suits plan.forward g.extent.sizes ∧ space.Suits plan.inverse g.extent.sizes ∧
      plan.spectrum = none ∧ plan.signal = none
  | .real, false =>
    space.Suits plan.forward g.extent.outer ∧ plan.inverse = [] ∧ plan.signal = none ∧
      (∃ row ∈ plan.spectrum, row.length = g.extent.last ∧ row.scratch ≤ space.scratch) ∧
      space.realLine = g.extent.last
  | .real, true =>
    space.Suits plan.inverse g.extent.outer ∧ plan.forward = [] ∧ plan.spectrum = none ∧
      (∃ row ∈ plan.signal, row.length = g.extent.last ∧ row.scratch ≤ space.scratch) ∧
      space.realLine = g.extent.last

theorem Workspace.Suits.of_map {space : Workspace} {plan : ℕ → LinePlan α} {lengths : List ℕ}
    (hlength : ∀ d ∈ lengths, (plan d).length = d)
    (hroom : ∀ d ∈ lengths, (plan d).workspace.LE space) :
    space.Suits (lengths.map plan) lengths := by
  refine ⟨?_, fun other hother => ?_⟩
  · rw [List.map_map]
    exact (List.map_congr_left hlength).trans (List.map_id lengths)
  · obtain ⟨d, hd, rfl⟩ := List.mem_map.1 hother
    exact hroom d hd

namespace Rig

variable {rig : Rig α} {direction : Option Bool} {state before after : State α}

/-! ## The invariant -/

/-- A change of the buffers alone, each of which keeps its size or gets the size of the geometry. -/
structure Refills (rig : Rig α) (before after : State α) : Prop where
  plan_eq : after.plan = before.plan
  space_eq : after.space = before.space
  size_primary : after.primary.size = before.primary.size ∨
    after.primary.size = rig.geometry.primaryCount
  size_secondary : after.secondary.size = before.secondary.size ∨
    rig.geometry.placement = .outOfPlace ∧
      after.secondary.size = rig.geometry.secondaryCount

theorem Refills.of_keeps (rig : Rig α) (h : before.Keeps after) : rig.Refills before after :=
  ⟨h.plan_eq, h.space_eq, .inl (h.size_buffer .primary), .inl (h.size_buffer .secondary)⟩

theorem Refills.allocated (h : rig.Refills before after) (hbefore : rig.Allocated before) :
    rig.Allocated after where
  -- a size that is kept was the size of the geometry before
  size_primary := h.size_primary.elim (·.trans hbefore.size_primary) id
  size_secondary hplace :=
    h.size_secondary.elim (·.trans (hbefore.size_secondary hplace)) And.right

/-- The invariant: buffers that are empty or whole, the plan of a direction, if any, and work buffers
that have room for it and are not too large. -/
structure Consistent (rig : Rig α) (direction : Option Bool) (state : State α) : Prop where
  size_primary : state.primary.size = 0 ∨ state.primary.size = rig.geometry.primaryCount
  size_secondary : state.secondary.size = 0 ∨
    rig.geometry.placement = .outOfPlace ∧
      state.secondary.size = rig.geometry.secondaryCount
  plan_eq : state.plan = direction.map rig.plan
  room : ∀ inverse ∈ direction, (rig.workspace inverse).LE state.space
  realLine_le : state.realLine.size ≤ rig.geometry.extent.last
  affords : rig.Affords state.space

theorem consistent_empty (rig : Rig α) : rig.Consistent none .empty where
  size_primary := .inl rfl
  size_secondary := .inl rfl
  plan_eq := rfl
  room _ h := nomatch h
  realLine_le := Nat.zero_le _
  affords := by
    constructor <;> exact (Nat.zero_mul _).trans_le (Nat.zero_le _)

theorem Refills.consistent (h : rig.Refills before after) (hbefore : rig.Consistent direction before) :
    rig.Consistent direction after where
  size_primary := by
    obtain hsame | hwhole := h.size_primary
    · rw [hsame]
      exact hbefore.size_primary
    · exact .inr hwhole
  size_secondary := by
    obtain hsame | hwhole := h.size_secondary
    · rw [hsame]
      exact hbefore.size_secondary
    · exact .inr hwhole
  plan_eq := h.plan_eq.trans hbefore.plan_eq
  room := h.space_eq ▸ hbefore.room
  realLine_le := (congrArg Workspace.realLine h.space_eq).trans_le hbefore.realLine_le
  affords := h.space_eq ▸ hbefore.affords

theorem Consistent.ready {inverse : Bool} (h : rig.Consistent (some inverse) state)
    (hallocated : rig.Allocated state) : rig.Ready inverse state :=
  ⟨h.plan_eq, h.room inverse rfl, h.realLine_le, hallocated⟩

/-- The plan at hand is one of the geometry, and the work buffers are as it needs them. -/
theorem Consistent.suits [Zero α] {lines : Lines α} (hforward : rig.GoesForward lines)
    (hback : rig.GoesBack lines) {inverse : Bool} (h : rig.Consistent (some inverse) state) :
    (rig.plan inverse).Suits rig.geometry inverse state.space := by
  have hroom := h.room inverse rfl
  have hline := hroom.2.2
  rw [realLine_workspace] at hline
  cases hkind : rig.geometry.kind with
  | complex =>
    simp only [Plan.Suits, hkind, plan_of_complex hkind]
    exact ⟨.of_map (fun d hd => (hforward.complex d hd).length_eq)
        (fun d hd => (workspace_le (mem_plan_forward hkind inverse hd)).trans hroom),
      .of_map (fun d hd => (hback.complex d hd).length_eq)
        (fun d hd => (workspace_le (mem_plan_inverse hkind inverse hd)).trans hroom), trivial, trivial⟩
  | real =>
    rw [hkind] at hline
    have hrealLine : state.space.realLine = rig.geometry.extent.last :=
      Nat.le_antisymm h.realLine_le hline
    have hsize : ∀ d ∈ rig.geometry.extent.outer, d ∈ rig.geometry.extent.sizes :=
      fun d hd => rig.geometry.extent.outer_subset hd
    cases inverse with
    | false =>
      have hscratch := Nat.le_trans (scratch_spectrum_le hkind) hroom.1
      simp only [Plan.Suits, hkind, plan_forward_of_real hkind]
      exact ⟨.of_map (fun d hd => (hforward.complex d (hsize d hd)).length_eq)
          (fun d hd => (workspace_le (mem_plan_outer_forward hd)).trans hroom), trivial, trivial,
        ⟨_, rfl, (hforward.real hkind).length_eq, hscratch⟩, hrealLine⟩
    | true =>
      have hscratch := Nat.le_trans (scratch_signal_le hkind) hroom.1
      simp only [Plan.Suits, hkind, plan_inverse_of_real hkind]
      exact ⟨.of_map (fun d hd => (hback.complex d (hsize d hd)).length_eq)
          (fun d hd => (workspace_le (mem_plan_outer_inverse hd)).trans hroom), trivial, trivial,
        ⟨_, rfl, (hback.real hkind).length_eq, hscratch⟩, hrealLine⟩

/-! ## Calls that touch buffers only -/

section Transfers

/-- What an allocation comes to: the first buffer that is too large is reported. -/
def allotted (rig : Rig α) : Except Failure Unit :=
  if rig.maxBuffer < rig.geometry.dataSize then
    .error (.allocation "host" "data" rig.geometry.dataSize)
  else match rig.geometry.placement with
    | .inPlace => .ok ()
    | .outOfPlace =>
      if rig.maxBuffer < rig.geometry.complexBufferSize then
        .error (.allocation "host" "complex" rig.geometry.complexBufferSize)
      else .ok ()

/-- An allocation reserves what it gets, and changes nothing else; one that succeeds gets all. -/
theorem allocate_refills [Zero α] (rig : Rig α) (state : State α) :
    rig.Refills state (rig.allocate.run.run state).2 ∧
      (rig.allocate.run.run state).1 = rig.allotted ∧
      ((rig.allocate.run.run state).1 = .ok () →
        rig.Allocated (rig.allocate.run.run state).2) := by
  have hprimary : (Array.replicate (rig.geometry.dataSize / rig.unit) (0 : α)).size =
      rig.geometry.primaryCount := Array.size_replicate
  have hwhole : (Array.replicate (rig.geometry.complexBufferSize / rig.unit) (0 : α)).size =
      rig.geometry.secondaryCount := Array.size_replicate
  rw [allotted]
  by_cases hdata : rig.geometry.dataSize ≤ rig.maxBuffer
  · rw [if_neg (Nat.not_lt.2 hdata)]
    cases hplace : rig.geometry.placement with
    | inPlace =>
      simp only [allocate, zeroed, if_pos hdata, hplace]
      refine ⟨⟨rfl, rfl, .inr hprimary, .inl rfl⟩, rfl, fun _ => ⟨hprimary, fun hother => ?_⟩⟩
      rw [hplace] at hother
      cases hother
    | outOfPlace =>
      -- the second buffer may be refused where the first was not
      by_cases hsecondary : rig.geometry.complexBufferSize ≤ rig.maxBuffer
      · simp only [allocate, zeroed, if_pos hdata, if_pos hsecondary, hplace,
          if_neg (Nat.not_lt.2 hsecondary)]
        exact ⟨⟨rfl, rfl, .inr hprimary, .inr ⟨hplace, hwhole⟩⟩, rfl,
          fun _ => ⟨hprimary, fun _ => hwhole⟩⟩
      · simp only [allocate, zeroed, if_pos hdata, if_neg hsecondary, hplace,
          if_pos (Nat.not_le.1 hsecondary)]
        refine ⟨⟨rfl, rfl, .inr hprimary, .inl rfl⟩, rfl, fun hok => ?_⟩
        cases hok
  · rw [if_pos (Nat.not_le.1 hdata), allocate, zeroed, if_neg hdata]
    refine ⟨.of_keeps rig (.refl state), rfl, fun hok => ?_⟩
    cases hok

theorem size_scatter (rig : Rig α) (host buffer : Array α) :
    (rig.geometry.scatter rig.unit host buffer).1.size = buffer.size := by
  rw [Geometry.scatter]
  split
  · rfl
  · exact Rows.size_scatter ..

theorem uploadBytes_maintains (rig : Rig α) (scalar : Scalar α) (input : Array UInt8)
    (state : State α) : Maintains state.Keeps (rig.uploadBytes scalar input) := by
  refine (Maintains.of_settle _).bind fun _ current h => ?_
  exact h.put .primary (size_scatter ..)

/-- A download leaves every state as it is. -/
theorem downloadBytes_maintains [Zero α] (rig : Rig α) (scalar : Scalar α) {size : ℕ}
    (host : Vector UInt8 size) (property : State α → Prop) :
    Maintains property (rig.downloadBytes scalar host) :=
  (Maintains.of_settle _).bind fun _ =>
    (Maintains.of_get.bind fun _ => (Maintains.of_settle _).bind fun _ => Maintains.of_pure _).bind
      fun _ => Maintains.of_pure _

/-- Whatever neither plans nor releases touches buffers only. -/
theorem respond_refills [Zero α] [Mul α] (rig : Rig α) (scalar : Scalar α) (state : State α)
    {call : Call} (hreplans : call.replans = false) :
    rig.Refills state ((rig.respond scalar call).run.run state).2 := by
  have hkeeps {β : Type} {action : Action α β} (h : Maintains state.Keeps action) :
      rig.Refills state (action.run.run state).2 := .of_keeps rig (h state (.refl state))
  cases call with
  | planEstimate => exact hkeeps (Maintains.of_pure ())
  | step taken input output =>
    cases taken with
    | allocate => exact (allocate_refills rig state).1
    | upload => exact hkeeps (uploadBytes_maintains rig scalar input state)
    | executeForward => exact hkeeps (executeForward_maintains rig state)
    | executeInverse => exact hkeeps (executeInverse_maintains rig state)
    | download => exact hkeeps ((downloadBytes_maintains rig scalar output.toVector _).map _)
    | _ => cases hreplans

end Transfers

/-! ## Calls that replace the plan -/

section Plannings

theorem Consistent.unplanned (h : rig.Consistent direction state) :
    rig.Consistent none { state with plan := none } :=
  ⟨h.size_primary, h.size_secondary, rfl, (fun _ hnone => nomatch hnone), h.realLine_le, h.affords⟩

/-- A planning that fails never takes any room away. -/
theorem Consistent.widens (h : rig.Consistent direction before) (hwidens : rig.Widens before after) :
    rig.Consistent direction after where
  size_primary := hwidens.primary_eq ▸ h.size_primary
  size_secondary := hwidens.secondary_eq ▸ h.size_secondary
  plan_eq := hwidens.plan_eq.trans h.plan_eq
  room inverse hinverse := (h.room inverse hinverse).trans hwidens.space_le
  realLine_le := hwidens.realLine_eq ▸ h.realLine_le
  affords := hwidens.affords

variable [Zero α]

/-- One that succeeds makes room for its plan. -/
theorem Consistent.installed (h : rig.Consistent direction state) {inverse : Bool}
    (haffords : rig.Affords (rig.workspace inverse)) :
    rig.Consistent (some inverse) (rig.installed inverse state) where
  size_primary := h.size_primary
  size_secondary := h.size_secondary
  plan_eq := rfl
  room other hother := by
    rw [Option.mem_some_iff.1 hother, space_installed]
    exact Workspace.le_grow_right ..
  realLine_le := (size_widened ..).trans_le
    (Nat.max_le.2 ⟨h.realLine_le, rig.realLine_workspace_le inverse⟩)
  affords := affords_installed h.affords haffords

/-- What the installation of a plan leaves. -/
theorem Consistent.install (h : rig.Consistent direction state) (inverse : Bool) :
    rig.Consistent
      (if ((rig.install inverse).run.run state).1.isOk then some inverse else direction)
      ((rig.install inverse).run.run state).2 := by
  obtain haffords | ⟨failure, after, -, hrun, hwidens⟩ := install_cases inverse h.affords
  · have hrun : (rig.install inverse).run.run state = _ := install_gives haffords state
    rw [hrun]
    exact h.installed haffords
  · rw [hrun]
    exact h.widens hwidens

/-- No planning touches the buffers, however far it gets. -/
theorem install_maintains_allocated (rig : Rig α) (inverse : Bool) :
    Maintains rig.Allocated (rig.install inverse) := by
  intro state h
  rw [install_run]
  split <;> exact ⟨h.size_primary, h.size_secondary⟩

end Plannings

/-! ## All calls -/

section Calls

variable [Zero α] [Mul α] (scalar : Scalar α)

/-- **What a call keeps.** The invariant holds after every call, whether it succeeds or not. -/
theorem Consistent.respond (h : rig.Consistent direction state) (call : Call) :
    rig.Consistent
      (call.planned rig.geometry.kind direction ((rig.respond scalar call).run.run state).1)
      ((rig.respond scalar call).run.run state).2 := by
  cases hreplans : call.replans with
  | false =>
    rw [Call.planned_of_replans hreplans]
    exact (respond_refills rig scalar state hreplans).consistent h
  | true =>
    cases call with
    | planEstimate => cases hreplans
    | step taken input output =>
      cases taken with
      | planForward =>
        have hinstall := h.install false
        rw [Rig.respond, planForward]
        cases hanswer : ((rig.install false).run.run state).1 with
        | ok =>
          rw [hanswer] at hinstall
          exact hinstall
        | error failure =>
          rw [hanswer] at hinstall
          exact hinstall
      | planInverse =>
        rw [Rig.respond, planInverse]
        cases hkind : rig.geometry.kind with
        | complex => exact h
        | real =>
          -- the plan is given up before the other one is made
          have hinstall := h.unplanned.install true
          rw [(Gives.of_modify _ state).bind_eq]
          cases hanswer : ((rig.install true).run.run { state with plan := none }).1 with
          | ok =>
            rw [hanswer] at hinstall
            exact hinstall
          | error failure =>
            rw [hanswer] at hinstall
            exact hinstall
      -- a release leaves the empty state
      | destroy => exact consistent_empty rig
      | _ => cases hreplans

/-- Buffers that are there stay until they are released. -/
theorem Allocated.respond (hallocated : rig.Allocated state) {call : Call}
    (hcall : ∀ input output, call ≠ .step .destroy input output) :
    rig.Allocated ((rig.respond scalar call).run.run state).2 := by
  cases hreplans : call.replans with
  | false => exact (respond_refills rig scalar state hreplans).allocated hallocated
  | true =>
    cases call with
    | planEstimate => cases hreplans
    | step taken input output =>
      cases taken with
      | planForward => exact install_maintains_allocated rig false state hallocated
      | planInverse =>
        rw [Rig.respond, planInverse]
        cases rig.geometry.kind with
        | complex => exact hallocated
        | real =>
          exact install_maintains_allocated rig true { state with plan := none }
            ⟨hallocated.size_primary, hallocated.size_secondary⟩
      | destroy => exact absurd rfl (hcall input output)
      | _ => cases hreplans

/-- Buffers stay through a history without a release. -/
theorem Allocated.serve (hallocated : rig.Allocated state) (calls : List Call)
    (hcalls : ∀ input output, Call.step .destroy input output ∉ calls) :
    rig.Allocated (rig.serve scalar state calls).2 := by
  induction calls generalizing state with
  | nil => exact hallocated
  | cons call rest ih =>
    have hcall : ∀ input output, call ≠ .step .destroy input output := by
      rintro input output rfl
      exact hcalls input output List.mem_cons_self
    exact ih (hallocated.respond scalar hcall)
      fun input output hmem => hcalls input output (List.mem_cons_of_mem _ hmem)

/-- **What a history keeps.** By induction on the calls, with the state and the planned direction as
they are before each. -/
theorem Consistent.serve (h : rig.Consistent direction state) (calls : List Call) :
    rig.Consistent
      (Call.latest rig.geometry.kind direction calls (rig.serve scalar state calls).1)
      (rig.serve scalar state calls).2 := by
  induction calls generalizing direction state with
  | nil => exact h
  | cons call rest ih => exact ih (h.respond scalar call)

end Calls

end Rig

/-- What is known of the rig of a configuration, for a scalar type that realizes line transforms. -/
theorem realized_of_rigOf [Zero α] {scalar : Scalar α} {lines : Lines α} {options : Options}
    {c : Configuration} {rig : Rig α} (hscalar : scalar.Realizes lines)
    (hrig : rigOf scalar options c = .ok rig) :
    rig.geometry.IsExact ∧ rig.GoesForward lines ∧ rig.GoesBack lines ∧
      rig.geometry.precision = scalar.precision := by
  obtain ⟨hprecision, hgeometry, hlibrary, -, -⟩ := of_rigOf hrig
  obtain ⟨hconfiguration, hg⟩ := Configuration.isExact_of_geometry hgeometry
  subst hconfiguration
  have hsizes := rig.geometry.extent.sizes_pos
  have hrealizes (d : ℕ) (hd : 0 < d) : rig.library.Realizes lines d :=
    hlibrary ▸ hscalar.library d hd
  exact ⟨hg, ⟨fun d hd => (hrealizes d (hsizes d hd)).forward,
      fun _ => (hrealizes _ rig.geometry.extent.last_pos).spectrum⟩,
    ⟨fun d hd => (hrealizes d (hsizes d hd)).inverse,
      fun _ => (hrealizes _ rig.geometry.extent.last_pos).signal⟩, hprecision⟩

end Cpu

end SpectralBench
