import SpectralBench.Proofs.Cpu.Contract
import SpectralBench.Proofs.Cpu.Transfers
import SpectralBench.Proofs.Cpu.Work

/-!
# Calls around the transforms

What allocation, planning and transfers do to the state of an engine. Most calls leave the plan alone
and every buffer at its size (`State.Keeps`), whatever they write; an engine that is ready for a
transform stays so through them.

Main statements:

* `Rig.allocate_gives` — buffers of the sizes of the geometry.
* `Rig.install_cases` — planning succeeds, or stops at the first work buffer that would be too large.
* `Rig.Allocated.ready_installed`, `Rig.planInverse_gives` — planning makes an engine ready.
* `Rig.upload_gives`, `Rig.download_gives` — transfers of whole buffers.
* `Rig.Ready.keeps` — what keeps sizes and plan leaves an engine ready.
-/

namespace SpectralBench

namespace Geometry

variable {g : Geometry}

/-- The scalars of the secondary buffer; none in place. -/
def secondaryCount (g : Geometry) : Nat :=
  g.complexBufferSize / g.precision.realSize

/-- A complex transform halves no axis. -/
theorem complexSizes_of_complex (hcomplex : g.kind = .complex) :
    g.complexSizes = g.extent.sizes := by
  rw [complexSizes, hcomplex, Extent.complexSizes]

/-- Wherever it lies, a spectrum fills the buffer that it lies in. -/
theorem IsExact.secondaryCount_of_outOfPlace (hg : g.IsExact) (hplace : g.placement = .outOfPlace) :
    g.secondaryCount = 2 * Word.product g.complexSizes := by
  rw [secondaryCount, hg.complexBufferSize_eq, hplace, hg.complexCount_eq, Precision.complexSize,
    if_neg (by decide), ← Nat.mul_assoc, Nat.mul_div_cancel _ (Precision.realSize_pos _),
    Nat.mul_comm]

/-- Complex data takes two scalars for each element. -/
theorem IsExact.primaryCount_of_complex (hg : g.IsExact) (hcomplex : g.kind = .complex) :
    g.primaryCount = 2 * Word.product g.complexSizes := by
  rw [hg.primaryCount_of_plain (isPadded_of_complex hcomplex), hg.scalarCount_eq, hg.count_eq,
    complexSizes_of_complex hcomplex, hcomplex, Nat.mul_comm]
  rfl

/-- In place the primary buffer has room for the spectrum, two scalars for each of its elements. -/
theorem IsExact.primaryCount_of_inPlace (hg : g.IsExact) (hplace : g.placement = .inPlace) :
    g.primaryCount = 2 * Word.product g.complexSizes := by
  cases hkind : g.kind with
  | complex => exact hg.primaryCount_of_complex hkind
  | real =>
    rw [hg.primaryCount_of_padded (isPadded_of_inPlace hkind hplace), complexSizes_of_real hkind,
      Word.product_concat, Nat.mul_left_comm]

/-- Out of place a real transform has one scalar for each element of its rows. -/
theorem IsExact.primaryCount_of_plain_real (hg : g.IsExact) (hreal : g.kind = .real)
    (hplace : g.placement = .outOfPlace) :
    g.primaryCount = Word.product g.extent.outer * g.extent.last := by
  rw [hg.primaryCount_of_plain (isPadded_of_outOfPlace hplace), hg.scalarCount_of_real hreal]

end Geometry

namespace Cpu

variable {α : Type}

/-! ## Workspaces -/

namespace Workspace

theorem LE.trans {a b c : Workspace} (hab : a.LE b) (hbc : b.LE c) : a.LE c :=
  ⟨Nat.le_trans hab.1 hbc.1, Nat.le_trans hab.2.1 hbc.2.1, Nat.le_trans hab.2.2 hbc.2.2⟩

/-- The workspace of several line transforms has room for each of them. -/
theorem le_lineWorkspace {plans : List (LinePlan α)} {plan : LinePlan α} (h : plan ∈ plans) :
    plan.workspace.LE (lineWorkspace plans) := by
  induction plans with
  | nil => cases h
  | cons first rest ih =>
    obtain rfl | h := List.mem_cons.1 h
    · exact le_grow_left ..
    · exact (ih h).trans (le_grow_right ..)

/-- Transforms along complex lines need no line of reals. -/
theorem realLine_lineWorkspace (plans : List (LinePlan α)) : (lineWorkspace plans).realLine = 0 := by
  induction plans with
  | nil => rfl
  | cons plan rest ih =>
    change max plan.workspace.realLine (lineWorkspace rest).realLine = 0
    rw [ih]
    rfl

end Workspace

/-! ## What calls keep -/

namespace State

/-- Whether a state has the plan of another one, and buffers of the same sizes. -/
structure Keeps (before after : State α) : Prop where
  plan_eq : after.plan = before.plan
  space_eq : after.space = before.space
  size_buffer : ∀ side, (after.buffer side).size = (before.buffer side).size

namespace Keeps

variable {before mid after : State α}

theorem refl (state : State α) : state.Keeps state :=
  ⟨rfl, rfl, fun _ => rfl⟩

theorem trans (h : before.Keeps mid) (hnext : mid.Keeps after) : before.Keeps after :=
  ⟨hnext.plan_eq.trans h.plan_eq, hnext.space_eq.trans h.space_eq,
    fun side => (hnext.size_buffer side).trans (h.size_buffer side)⟩

theorem size_scratch (h : before.Keeps after) : after.scratch.size = before.scratch.size :=
  congrArg Workspace.scratch h.space_eq

theorem size_line (h : before.Keeps after) : after.line.size = before.line.size :=
  congrArg Workspace.line h.space_eq

theorem size_realLine (h : before.Keeps after) : after.realLine.size = before.realLine.size :=
  congrArg Workspace.realLine h.space_eq

end Keeps

end State

namespace Rig

variable {rig : Rig α} {state before after : State α} {inverse : Bool}

/-- Whether the buffers have the sizes of the geometry. In place there is only one. -/
structure Allocated (rig : Rig α) (state : State α) : Prop where
  size_primary : state.primary.size = rig.geometry.primaryCount
  size_secondary : rig.geometry.placement = .outOfPlace →
    state.secondary.size = rig.geometry.secondaryCount

/-- Buffers are still there after work that keeps their sizes. -/
theorem Allocated.keeps (h : rig.Allocated before) (hkeeps : before.Keeps after) :
    rig.Allocated after :=
  ⟨(hkeeps.size_buffer .primary).trans h.size_primary,
    fun hplace => (hkeeps.size_buffer .secondary).trans (h.size_secondary hplace)⟩

/-- Whether an engine is ready for a transform: it has the plan of the direction, work buffers with
room for it, and its other buffers. -/
structure Ready (rig : Rig α) (inverse : Bool) (state : State α) : Prop where
  plan_eq : state.plan = some (rig.plan inverse)
  room : (rig.workspace inverse).LE state.space
  /-- A row is copied to the whole line of reals and back, so that must not be too long either. -/
  realLine_le : state.realLine.size ≤ rig.geometry.extent.last
  allocated : rig.Allocated state

/-- An engine is still ready after work that keeps plan and sizes. -/
theorem Ready.keeps (h : rig.Ready inverse before) (hkeeps : before.Keeps after) :
    rig.Ready inverse after where
  plan_eq := hkeeps.plan_eq.trans h.plan_eq
  room := hkeeps.space_eq ▸ h.room
  realLine_le := hkeeps.size_realLine ▸ h.realLine_le
  allocated := h.allocated.keeps hkeeps

/-- The buffer of the transform domain. -/
def spectrumSide (rig : Rig α) : Side :=
  match rig.geometry.placement with
  | .inPlace => .primary
  | .outOfPlace => .secondary

/-- What the buffer of the transform domain holds. -/
def spectra (rig : Rig α) (state : State α) : Array α :=
  state.buffer rig.spectrumSide

/-- The spectra are in the buffers, so whatever leaves those alone leaves the spectra alone. -/
theorem spectra_congr (rig : Rig α) {left right : State α} (hprimary : left.primary = right.primary)
    (hsecondary : left.secondary = right.secondary) : rig.spectra left = rig.spectra right := by
  rw [spectra, spectra]
  cases rig.spectrumSide with
  | primary => exact hprimary
  | secondary => exact hsecondary

/-- Spectra have two scalars for each of their elements. -/
theorem Allocated.size_spectra (hg : rig.geometry.IsExact) (h : rig.Allocated state) :
    (rig.spectra state).size = 2 * Word.product rig.geometry.complexSizes := by
  rw [spectra, spectrumSide]
  cases hplace : rig.geometry.placement with
  | inPlace => exact h.size_primary.trans (hg.primaryCount_of_inPlace hplace)
  | outOfPlace => exact (h.size_secondary hplace).trans (hg.secondaryCount_of_outOfPlace hplace)

/-! ## Allocation -/

section Allocation

variable [Zero α]

/-- A buffer within the limit is handed out, full of zeros. -/
theorem zeroed_gives {bytes : ℕ} (h : bytes ≤ rig.maxBuffer) (buffer : String) (state : State α) :
    Gives (rig.zeroed buffer bytes) state (Array.replicate (bytes / rig.unit) 0) state := by
  rw [zeroed, if_pos h]
  rfl

/-- An allocation replaces what a transform works on, and touches neither plan nor work buffers. -/
theorem allocate_gives (hdata : rig.geometry.dataSize ≤ rig.maxBuffer)
    (hsecondary : rig.geometry.complexBufferSize ≤ rig.maxBuffer) (before : State α) :
    ∃ after, Gives rig.allocate before () after ∧ rig.Allocated after ∧
      after.plan = before.plan ∧ after.space = before.space := by
  have hprimary : (Array.replicate (rig.geometry.dataSize / rig.unit) (0 : α)).size =
      rig.geometry.primaryCount := Array.size_replicate
  cases hplace : rig.geometry.placement with
  | inPlace =>
    refine ⟨{ before with primary := _ }, (zeroed_gives hdata "data" before).bind
      ((Gives.of_modify _ _).bind ?_), ⟨hprimary, fun hother => ?_⟩, rfl, rfl⟩
    · rw [hplace]
      exact Gives.of_pure ..
    · rw [hplace] at hother
      cases hother
  | outOfPlace =>
    let secondary := Array.replicate (rig.geometry.complexBufferSize / rig.unit) (0 : α)
    refine ⟨{ before with primary := _, secondary }, (zeroed_gives hdata "data" before).bind
      ((Gives.of_modify _ _).bind ?_), ⟨hprimary, fun _ => Array.size_replicate⟩, rfl, rfl⟩
    rw [hplace]
    exact (zeroed_gives hsecondary "complex" _).bind (Gives.of_modify _ _)

end Allocation

/-! ## Planning -/

/-- The plan of a complex transform is the same for both directions, and has no transforms of
reals. -/
theorem plan_of_complex (hkind : rig.geometry.kind = .complex) (inverse : Bool) :
    rig.plan inverse =
      ⟨rig.geometry.extent.sizes.map rig.library.forward,
        rig.geometry.extent.sizes.map rig.library.inverse, none, none⟩ := by
  simp only [plan, hkind]

/-- Forward, the outer axes have complex lines and the last one goes from reals to half spectra. -/
theorem plan_forward_of_real (hkind : rig.geometry.kind = .real) :
    rig.plan false =
      ⟨rig.geometry.extent.outer.map rig.library.forward, [],
        some (rig.library.spectrum rig.geometry.extent.last), none⟩ := by
  simp only [plan, hkind]

/-- Backward, the outer axes have complex lines and the last one goes from half spectra to reals. -/
theorem plan_inverse_of_real (hkind : rig.geometry.kind = .real) :
    rig.plan true =
      ⟨[], rig.geometry.extent.outer.map rig.library.inverse, none,
        some (rig.library.signal rig.geometry.extent.last)⟩ := by
  simp only [plan, hkind]

/-- Whether work buffers of these sizes are not too large to be reserved. -/
structure Affords (rig : Rig α) (space : Workspace) : Prop where
  scratch_le : space.scratch * (2 * rig.unit) ≤ rig.maxBuffer
  line_le : space.line * (2 * rig.unit) ≤ rig.maxBuffer
  realLine_le : space.realLine * rig.unit ≤ rig.maxBuffer

/-- A work buffer with zeros behind what it holds, as far as it was too short. -/
def widened {β : Type} (zero : β) (needed : ℕ) (held : Array β) : Array β :=
  held ++ Array.replicate (needed - held.size) zero

/-- A work buffer is as long as it was or as is needed, whichever is more. -/
theorem size_widened {β : Type} (zero : β) (needed : ℕ) (held : Array β) :
    (widened zero needed held).size = max held.size needed := by
  rw [widened, Array.size_append, Array.size_replicate]
  omega

theorem le_size_widened {β : Type} (zero : β) (needed : ℕ) (held : Array β) :
    held.size ≤ (widened zero needed held).size :=
  (Nat.le_max_left ..).trans_eq (size_widened ..).symm

/-- A work buffer within the limit stays within it when it is widened within it. -/
theorem widened_le {β : Type} {bytes needed : ℕ} {held : Array β}
    (hheld : held.size * bytes ≤ rig.maxBuffer) (h : needed * bytes ≤ rig.maxBuffer) (zero : β) :
    (widened zero needed held).size * bytes ≤ rig.maxBuffer := by
  rw [size_widened]
  obtain hle | hle := Nat.le_total held.size needed
  · rwa [Nat.max_eq_right hle]
  · rwa [Nat.max_eq_left hle]

theorem grow_eq_ok {β : Type} {bytes needed : ℕ} (h : needed * bytes ≤ rig.maxBuffer)
    (buffer : String) (zero : β) (held : Array β) :
    rig.grow buffer bytes zero needed held = .ok (widened zero needed held) := by
  rw [grow, widened]
  by_cases hroom : needed ≤ held.size
  · rw [if_pos hroom, Nat.sub_eq_zero_of_le hroom, Array.replicate_zero, Array.append_empty]
  · rw [if_neg hroom, if_pos h]

/-- A buffer that is not too large itself has no room for what is. -/
theorem grow_eq_error {β : Type} {bytes needed : ℕ} {held : Array β}
    (hheld : held.size * bytes ≤ rig.maxBuffer) (h : ¬needed * bytes ≤ rig.maxBuffer)
    (buffer : String) (zero : β) :
    rig.grow buffer bytes zero needed held = .error (.allocation "host" buffer needed) := by
  have hroom : ¬needed ≤ held.size :=
    fun hle => h (Nat.le_trans (Nat.mul_le_mul_right bytes hle) hheld)
  rw [grow, if_neg hroom, if_neg h]

/-- A state whose work buffers were made large enough for the plan of a direction, which it has. -/
def installed [Zero α] (rig : Rig α) (inverse : Bool) (state : State α) : State α :=
  { state with
    scratch := widened ⟨0, 0⟩ (rig.workspace inverse).scratch state.scratch
    line := widened ⟨0, 0⟩ (rig.workspace inverse).line state.line
    realLine := widened 0 (rig.workspace inverse).realLine state.realLine
    plan := some (rig.plan inverse) }

/-- Installing a plan makes room for it beside what there was room for. -/
theorem space_installed [Zero α] (rig : Rig α) (inverse : Bool) (state : State α) :
    (rig.installed inverse state).space = state.space.grow (rig.workspace inverse) := by
  rw [State.space, installed, size_widened, size_widened, size_widened]
  rfl

/-- An engine whose work buffers are within the limit keeps them there when it installs a plan that
is. -/
theorem affords_installed [Zero α] (hbefore : rig.Affords before.space)
    (haffords : rig.Affords (rig.workspace inverse)) :
    rig.Affords (rig.installed inverse before).space where
  scratch_le := widened_le hbefore.scratch_le haffords.scratch_le _
  line_le := widened_le hbefore.line_le haffords.line_le _
  realLine_le := widened_le hbefore.realLine_le haffords.realLine_le _

/-- The work buffers are grown one after another, and what was grown before a failure stays. -/
theorem install_run [Zero α] (rig : Rig α) (inverse : Bool) (before : State α) :
    (rig.install inverse).run.run before =
      match rig.grow "scratch" (2 * rig.unit) ⟨0, 0⟩ (rig.workspace inverse).scratch before.scratch,
        rig.grow "line" (2 * rig.unit) ⟨0, 0⟩ (rig.workspace inverse).line before.line,
        rig.grow "real line" rig.unit 0 (rig.workspace inverse).realLine before.realLine with
      | .error failure, _, _ => (.error failure, before)
      | .ok scratch, .error failure, _ => (.error failure, { before with scratch })
      | .ok scratch, .ok held, .error failure =>
        (.error failure, { before with scratch, line := held })
      | .ok scratch, .ok held, .ok realLine =>
        (.ok (),
          { before with scratch, line := held, realLine, plan := some (rig.plan inverse) }) := by
  unfold install
  rw [(Gives.of_get before).bind_eq]
  cases rig.grow "scratch" (2 * rig.unit) ⟨0, 0⟩ (rig.workspace inverse).scratch before.scratch with
  | error failure => rfl
  | ok scratch =>
    rw [(Gives.settle rfl before).bind_eq, (Gives.of_modify _ before).bind_eq,
      (Gives.of_get _).bind_eq]
    cases rig.grow "line" (2 * rig.unit) ⟨0, 0⟩ (rig.workspace inverse).line before.line with
    | error failure => rfl
    | ok held =>
      rw [(Gives.settle rfl _).bind_eq, (Gives.of_modify _ _).bind_eq, (Gives.of_get _).bind_eq]
      cases rig.grow "real line" rig.unit 0 (rig.workspace inverse).realLine before.realLine <;> rfl

/-- Planning makes the work buffers large enough, and touches no other buffer. -/
theorem install_gives [Zero α] (haffords : rig.Affords (rig.workspace inverse)) (before : State α) :
    Gives (rig.install inverse) before () (rig.installed inverse before) := by
  rw [Gives, install_run, grow_eq_ok haffords.scratch_le, grow_eq_ok haffords.line_le,
    grow_eq_ok haffords.realLine_le]
  rfl

/-- What the planning of a direction comes to: the first work buffer that would be too large is
reported. -/
def reserved (rig : Rig α) (inverse : Bool) : Except Failure Unit :=
  let space := rig.workspace inverse
  if rig.maxBuffer < space.scratch * (2 * rig.unit) then
    .error (.allocation "host" "scratch" space.scratch)
  else if rig.maxBuffer < space.line * (2 * rig.unit) then
    .error (.allocation "host" "line" space.line)
  else if rig.maxBuffer < space.realLine * rig.unit then
    .error (.allocation "host" "real line" space.realLine)
  else .ok ()

/-- Work buffers within the limit are found. -/
theorem reserved_of_affords (h : rig.Affords (rig.workspace inverse)) :
    rig.reserved inverse = .ok () := by
  simp only [reserved, if_neg (Nat.not_lt.2 h.scratch_le), if_neg (Nat.not_lt.2 h.line_le),
    if_neg (Nat.not_lt.2 h.realLine_le)]

/-- Whether the work buffers for complex numbers became longer at most, and nothing else has
changed. -/
structure Widens (rig : Rig α) (before after : State α) : Prop where
  plan_eq : after.plan = before.plan
  primary_eq : after.primary = before.primary
  secondary_eq : after.secondary = before.secondary
  realLine_eq : after.realLine = before.realLine
  space_le : before.space.LE after.space
  affords : rig.Affords after.space

/-- A planning succeeds, or it stops at the work buffer that would be too large. -/
theorem install_cases [Zero α] (inverse : Bool) (hbefore : rig.Affords before.space) :
    rig.Affords (rig.workspace inverse) ∨ ∃ failure after, rig.reserved inverse = .error failure ∧
      (rig.install inverse).run.run before = (.error failure, after) ∧ rig.Widens before after := by
  rw [install_run, reserved]
  by_cases hscratch : (rig.workspace inverse).scratch * (2 * rig.unit) ≤ rig.maxBuffer
  case neg =>
    rw [grow_eq_error hbefore.scratch_le hscratch]
    exact .inr ⟨_, before, if_pos (Nat.not_le.1 hscratch), rfl, rfl, rfl, rfl, rfl,
      ⟨Nat.le_refl _, Nat.le_refl _, Nat.le_refl _⟩, hbefore⟩
  rw [grow_eq_ok hscratch]
  simp only [if_neg (Nat.not_lt.2 hscratch)]
  have hscratchLe := rig.widened_le hbefore.scratch_le hscratch (⟨0, 0⟩ : Complex α)
  by_cases hline : (rig.workspace inverse).line * (2 * rig.unit) ≤ rig.maxBuffer
  case neg =>
    rw [grow_eq_error hbefore.line_le hline]
    exact .inr ⟨_, _, if_pos (Nat.not_le.1 hline), rfl, rfl, rfl, rfl, rfl,
      ⟨le_size_widened .., Nat.le_refl _, Nat.le_refl _⟩, hscratchLe, hbefore.line_le,
      hbefore.realLine_le⟩
  rw [grow_eq_ok hline]
  simp only [if_neg (Nat.not_lt.2 hline)]
  by_cases hrealLine : (rig.workspace inverse).realLine * rig.unit ≤ rig.maxBuffer
  case neg =>
    rw [grow_eq_error hbefore.realLine_le hrealLine]
    exact .inr ⟨_, _, if_pos (Nat.not_le.1 hrealLine), rfl, rfl, rfl, rfl, rfl,
      ⟨le_size_widened .., le_size_widened .., Nat.le_refl _⟩, hscratchLe,
      widened_le hbefore.line_le hline _, hbefore.realLine_le⟩
  exact .inl ⟨hscratch, hline, hrealLine⟩

/-- Only a real transform works with a line of reals, which is one row long. -/
theorem realLine_workspace (rig : Rig α) (inverse : Bool) :
    (rig.workspace inverse).realLine =
      if rig.geometry.kind.isReal then rig.geometry.extent.last else 0 := by
  let needs (scratch : Option ℕ) : ℕ := (rowWorkspace rig.geometry.extent.last scratch).realLine
  have hrows : (rig.workspace inverse).realLine =
      max (needs ((rig.plan inverse).spectrum.map (·.scratch)))
        (needs ((rig.plan inverse).signal.map (·.scratch))) := by
    change max (lineWorkspace _).realLine _ = _
    rw [Workspace.realLine_lineWorkspace, Nat.zero_max]
    rfl
  rw [hrows]
  cases hkind : rig.geometry.kind with
  | complex =>
    rw [plan_of_complex hkind]
    rfl
  | real =>
    cases inverse with
    | false =>
      rw [plan_forward_of_real hkind]
      exact Nat.max_zero _
    | true =>
      rw [plan_inverse_of_real hkind]
      exact Nat.zero_max _

theorem realLine_workspace_le (rig : Rig α) (inverse : Bool) :
    (rig.workspace inverse).realLine ≤ rig.geometry.extent.last := by
  rw [realLine_workspace]
  split
  · exact Nat.le_refl _
  · exact Nat.zero_le _

/-- An engine that has its buffers is ready once a direction is planned. -/
theorem Allocated.ready_installed [Zero α] (h : rig.Allocated before)
    (hrealLine : before.realLine.size ≤ rig.geometry.extent.last) (inverse : Bool) :
    rig.Ready inverse (rig.installed inverse before) where
  plan_eq := rfl
  room := by
    rw [space_installed]
    exact Workspace.le_grow_right ..
  realLine_le := (size_widened ..).trans_le
    (Nat.max_le.2 ⟨hrealLine, rig.realLine_workspace_le inverse⟩)
  allocated := ⟨h.size_primary, h.size_secondary⟩

/-- One plan serves both directions of a complex transform. -/
theorem Ready.of_complex (hkind : rig.geometry.kind = .complex) (h : rig.Ready inverse state)
    (other : Bool) : rig.Ready other state where
  plan_eq := by
    rw [h.plan_eq, plan_of_complex hkind, plan_of_complex hkind]
  room := by
    have hroom := h.room
    rwa [workspace, plan_of_complex hkind] at hroom ⊢
  realLine_le := h.realLine_le
  allocated := h.allocated

/-- After a planning of the way back, if one is needed, an engine is ready for it. -/
theorem planInverse_gives [Zero α]
    (haffords : rig.geometry.kind = .real → rig.Affords (rig.workspace true))
    (hready : rig.Ready false before) :
    ∃ after, Gives rig.planInverse before () after ∧
      (rig.geometry.kind.isReal = false → after = before) ∧ rig.Ready true after ∧
      after.primary = before.primary ∧ after.secondary = before.secondary := by
  cases hkind : rig.geometry.kind with
  | real =>
    -- the forward plan is gone, the buffers are not
    let unplanned : State α := { before with plan := none }
    have hallocated : rig.Allocated unplanned :=
      ⟨hready.allocated.size_primary, hready.allocated.size_secondary⟩
    refine ⟨rig.installed true unplanned, ?_, (fun hcomplex => nomatch hcomplex),
      hallocated.ready_installed hready.realLine_le true, rfl, rfl⟩
    rw [planInverse, hkind]
    exact (Gives.of_modify _ _).bind (install_gives (haffords hkind) unplanned)
  | complex =>
    -- nothing is planned anew, so nothing changes
    refine ⟨before, ?_, fun _ => rfl, hready.of_complex hkind true, rfl, rfl⟩
    rw [planInverse, hkind]
    exact Gives.of_pure ..

/-! ## Transfers -/

/-- An upload writes the rows of the primary buffer, and touches nothing else. -/
theorem upload_gives (hg : rig.geometry.IsExact)
    (hsize : before.primary.size = rig.geometry.primaryCount) {host : Array α}
    (hhost : host.size = rig.geometry.scalarCount) :
    ∃ after, Gives (rig.upload host) before () after ∧ before.Keeps after ∧
      rig.geometry.scalarRows.Holds after.primary host := by
  obtain ⟨primary, hscatter, hprimary, hholds⟩ := hg.scatter_eq_ok hhost hsize
  refine ⟨{ before with primary }, (Gives.of_get before).bind ?_, ⟨rfl, rfl, fun side => ?_⟩, hholds⟩
  · rw [unit, hscatter]
    exact (Gives.of_modify _ _).bind (Gives.settle rfl _)
  · cases side with
    | primary => exact hprimary.trans hsize.symm
    | secondary => rfl

/-- A download copies the buffer out, row by row, and leaves the engine as it is. -/
theorem download_gives (hg : rig.geometry.IsExact) {host filled : Array α}
    (hholds : rig.geometry.scalarRows.Holds before.primary host)
    (hfilled : filled.size = rig.geometry.scalarCount) :
    Gives (rig.download filled) before host before := by
  refine (Gives.of_get before).bind ?_
  rw [unit, hg.gather_eq_ok hholds hfilled]
  exact (Gives.settle rfl _).bind (Gives.of_pure _ _)

end Rig

end Cpu

end SpectralBench
