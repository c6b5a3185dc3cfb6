import SpectralBench.Cpu.Estimate
import SpectralBench.Proofs.Cpu.Invariant
import SpectralBench.Proofs.Geometry.Exactness
import Mathlib.Algebra.Order.BigOperators.Group.List
import Mathlib.Data.List.Fold
import Mathlib.Data.List.Forall2

/-!
# What a plan estimate stands for

An estimate is made of seven steps, each clipped to a word. Clipping a part of a sum or of a product
is lost in clipping the whole, so the steps collapse to the plain formula over all natural numbers,
clipped once at the end. The formula grows with every length. And since it counts a line as long as
the longest axis and a real row, it covers the lines that planning reserves, in whatever order the
two directions are planned.

Main statements:

* `Word.addSat_min`, `Word.min_addSat`, `Word.mulSat_min` — clipping on the way is lost in clipping at
  the end.
* `Configuration.planEstimate_eq` — an estimate is the formula, clipped once.
* `Configuration.planBytes_mono` — the formula grows with every length.
* `Rig.lines_afterPlanning` — what planning reserves, after any number of plannings.
* `Configuration.planEstimate_covers` — all of this about the estimate of a configuration.
-/

namespace SpectralBench

/-! ## Clipping -/

namespace Word

/-- A sum of clipped numbers is the clipped sum, so that one clip at the end is enough. -/
theorem addSat_min (a b : ℕ) : addSat a (min b top) = min (a + b) top := by
  unfold addSat
  omega

theorem min_addSat (a b : ℕ) : addSat (min a top) b = min (a + b) top := by
  unfold addSat
  omega

/-- What was clipped is too large again after a multiplication, unless nothing is left of it. -/
theorem mulSat_min (a b : ℕ) : mulSat (min a top) b = min (a * b) top := by
  unfold mulSat
  rcases Nat.le_total a top with hle | hclipped
  · rw [Nat.min_eq_left hle]
  · rw [Nat.min_eq_right hclipped]
    rcases Nat.eq_zero_or_pos b with rfl | hpos
    · rw [Nat.mul_zero, Nat.mul_zero]
    · have htop : top ≤ top * b := Nat.le_mul_of_pos_right top hpos
      have hmore : top * b ≤ a * b := Nat.mul_le_mul_right b hclipped
      omega

/-- A sum that is clipped at every step. -/
theorem foldl_addSat_mulSat (counts : List ℕ) (factor start : ℕ) :
    counts.foldl (fun sum d => addSat sum (mulSat d factor)) (min start top) =
      min (start + factor * counts.sum) top := by
  induction counts generalizing start with
  | nil => rfl
  | cons d rest ih =>
    have hstep : addSat (min start top) (mulSat d factor) = min (start + d * factor) top := by
      rw [mulSat, addSat_min]
      omega
    rw [List.foldl_cons, hstep, ih, List.sum_cons]
    congr 1
    ring

end Word

/-! ## The formula -/

theorem foldr_max (lengths : List ℕ) (a : ℕ) : lengths.foldr max a = max (lengths.foldl max 0) a := by
  rw [List.foldl_eq_foldr]
  induction lengths with
  | nil => exact (Nat.zero_max a).symm
  | cons d rest ih => rw [List.foldr_cons, List.foldr_cons, ih, max_assoc]

/-- Pointwise larger numbers have a larger maximum. -/
theorem foldr_max_mono {small large : List ℕ} (h : List.Forall₂ (· ≤ ·) small large) {a b : ℕ}
    (hab : a ≤ b) : small.foldr max a ≤ large.foldr max b := by
  induction h with
  | nil => exact hab
  | cons hle _ ih => exact max_le_max hle ih

theorem foldr_max_lt {lengths : List ℕ} {a bound : ℕ} (h : ∀ d ∈ lengths, d < bound)
    (ha : a < bound) : lengths.foldr max a < bound := by
  induction lengths with
  | nil => exact ha
  | cons d rest ih =>
    exact max_lt (h d List.mem_cons_self) (ih fun e he => h e (List.mem_cons_of_mem d he))

namespace Configuration

variable {c d : Configuration} {g h : Geometry}

/-- The lengths of the axes that are transformed as complex lines: all of them, or all but the
contiguous one. -/
def complexLengths (c : Configuration) : List ℕ :=
  if c.kind = .real then c.extent.sizes.dropLast else c.extent.sizes

/-- The length of the axis that is transformed as a real line; none counts as zero. -/
def realLength (c : Configuration) : ℕ :=
  if c.kind = .real then c.extent.last else 0

/-- The length of the longest line of complex numbers, half spectra among them. -/
def longestLength (c : Configuration) : ℕ :=
  c.complexLengths.foldr max (if c.kind = .real then c.extent.last / 2 + 1 else 0)

/-- Bytes of a plan over all natural numbers: two tables for each complex axis, one for the real one,
scratch and a line, all of them complex, and a real line. -/
def planBytes (c : Configuration) (realSize : ℕ) : ℕ :=
  (2 * c.complexLengths.sum + c.realLength + 2 * c.longestLength) * 2 * realSize +
    c.realLength * realSize

theorem complexAxes_eq (hconfiguration : g.configuration = c) : g.complexAxes = c.complexLengths := by
  subst hconfiguration
  rw [Geometry.complexAxes, complexLengths, Geometry.kind, Geometry.extent]
  cases g.configuration.kind <;> rfl

theorem realAxis_eq (hconfiguration : g.configuration = c) : g.realAxis = c.realLength := by
  subst hconfiguration
  rw [Geometry.realAxis, realLength, Geometry.kind, Geometry.extent]
  cases g.configuration.kind <;> rfl

theorem longestLine_eq (hconfiguration : g.configuration = c) :
    g.longestLine = c.longestLength := by
  rw [longestLength, foldr_max, ← complexAxes_eq hconfiguration]
  subst hconfiguration
  rw [Geometry.longestLine, Geometry.kind, Geometry.extent]
  cases g.configuration.kind with
  | real => rfl
  | complex => exact (Nat.max_zero _).symm

/-- An estimate is the formula over all natural numbers, clipped once. -/
theorem planEstimate_eq (hconfiguration : g.configuration = c) (realSize : ℕ) :
    g.planEstimate realSize = min (c.planBytes realSize) Word.top := by
  have htables : g.twiddles = min (2 * c.complexLengths.sum + c.realLength) Word.top := by
    have hsum := Word.foldl_addSat_mulSat c.complexLengths 2 0
    rw [Nat.zero_min, Nat.zero_add] at hsum
    rw [Geometry.twiddles, complexAxes_eq hconfiguration, realAxis_eq hconfiguration, hsum,
      Word.min_addSat]
  have helements : Word.addSat g.twiddles (Word.mulSat g.longestLine 2) =
      min (2 * c.complexLengths.sum + c.realLength + 2 * c.longestLength) Word.top := by
    rw [htables, longestLine_eq hconfiguration, Word.min_addSat, Word.mulSat]
    omega
  rw [Geometry.planEstimate, helements, Word.mulSat_min, Word.min_addSat,
    realAxis_eq hconfiguration, Word.mulSat, planBytes, Nat.mul_assoc _ 2 realSize]
  omega

/-- An estimate that is a word is exact. -/
theorem planEstimate_of_lt (hconfiguration : g.configuration = c) {realSize : ℕ}
    (hfits : c.planBytes realSize < 2 ^ 64) : g.planEstimate realSize = c.planBytes realSize := by
  rw [planEstimate_eq hconfiguration]
  exact Nat.min_eq_left (Nat.le_of_lt_succ hfits)

/-! ## Growing lengths -/

theorem forall₂_dropLast {small large : List ℕ} (h : List.Forall₂ (· ≤ ·) small large) :
    List.Forall₂ (· ≤ ·) small.dropLast large.dropLast := by
  rw [List.dropLast_eq_take, List.dropLast_eq_take, h.length_eq]
  exact List.forall₂_take _ h

theorem last_le (hlengths : List.Forall₂ (· ≤ ·) c.extent.sizes d.extent.sizes) :
    c.extent.last ≤ d.extent.last := by
  rw [← c.extent.outer_append_last, ← d.extent.outer_append_last] at hlengths
  have houter : c.extent.outer.length = d.extent.outer.length := by
    have hlength := hlengths.length_eq
    rw [List.length_append, List.length_append] at hlength
    exact Nat.add_right_cancel hlength
  have hdrop := List.forall₂_drop c.extent.outer.length hlengths
  rw [List.drop_left, houter, List.drop_left] at hdrop
  exact (List.forall₂_cons.1 hdrop).1

/-- The formula grows with every length. -/
theorem planBytes_mono (hkind : c.kind = d.kind)
    (hlengths : List.Forall₂ (· ≤ ·) c.extent.sizes d.extent.sizes) (realSize : ℕ) :
    c.planBytes realSize ≤ d.planBytes realSize := by
  have haxes : List.Forall₂ (· ≤ ·) c.complexLengths d.complexLengths := by
    rw [complexLengths, complexLengths, hkind]
    split
    · exact forall₂_dropLast hlengths
    · exact hlengths
  have hlast := last_le hlengths
  have hreal : c.realLength ≤ d.realLength := by
    rw [realLength, realLength, hkind]
    split
    · exact hlast
    · exact Nat.le_refl _
  have hlongest : c.longestLength ≤ d.longestLength := by
    refine foldr_max_mono haxes ?_
    rw [hkind]
    split
    · exact Nat.succ_le_succ (Nat.div_le_div_right hlast)
    · exact Nat.le_refl _
  have hsum : c.complexLengths.sum ≤ d.complexLengths.sum := haxes.sum_le_sum
  unfold planBytes
  gcongr

end Configuration

/-! ## The lines of a plan -/

namespace Cpu

variable {α : Type}

/-- Bytes of the line of complex numbers and of the line of reals. -/
def Workspace.lineBytes (space : Workspace) (realSize : ℕ) : ℕ :=
  space.line * (2 * realSize) + space.realLine * realSize

/-- The line that plans share is as long as the longest of them needs. -/
theorem line_lineWorkspace (plans : List (LinePlan α)) :
    (lineWorkspace plans).line = (plans.map (·.length)).foldr max 0 := by
  induction plans with
  | nil => rfl
  | cons plan rest ih =>
    rw [List.map_cons, List.foldr_cons, ← ih]
    rfl

theorem line_lineWorkspace_append (first second : List (LinePlan α)) :
    (lineWorkspace (first ++ second)).line =
      max (lineWorkspace first).line (lineWorkspace second).line := by
  induction first with
  | nil => exact (Nat.zero_max _).symm
  | cons plan rest ih =>
    change max plan.workspace.line (lineWorkspace (rest ++ second)).line = _
    rw [ih]
    exact (Nat.max_assoc ..).symm

namespace Rig

variable {rig : Rig α} {c : Configuration}

/-- Whether the complex plans for the axes are as long as these. -/
structure IsSized (rig : Rig α) : Prop where
  forward_length : ∀ d ∈ rig.geometry.extent.sizes, (rig.library.forward d).length = d
  inverse_length : ∀ d ∈ rig.geometry.extent.sizes, (rig.library.inverse d).length = d

/-- The line that a plan needs is as long as the longest of its complex axes. -/
theorem line_workspace (hsized : rig.IsSized) (inverse : Bool) :
    (rig.workspace inverse).line = rig.geometry.complexAxes.foldr max 0 := by
  -- the plans for some lengths are as long as these
  have hlines {plan : ℕ → LinePlan α} {lengths : List ℕ} (h : ∀ d ∈ lengths, (plan d).length = d) :
      (lineWorkspace (lengths.map plan)).line = lengths.foldr max 0 := by
    rw [line_lineWorkspace, List.map_map]
    exact congrArg _ ((List.map_congr_left h).trans (List.map_id lengths))
  have houter (d : ℕ) (hd : d ∈ rig.geometry.extent.outer) : d ∈ rig.geometry.extent.sizes :=
    rig.geometry.extent.outer_subset hd
  -- real rows need no line of complex numbers
  have hrows (plan : Plan α) (last : ℕ) :
      (plan.workspace last).line = (lineWorkspace (plan.forward ++ plan.inverse)).line := by
    have hrow (scratch : Option ℕ) : (rowWorkspace last scratch).line = 0 := by
      cases scratch <;> rfl
    change max _ (max (rowWorkspace last _).line (rowWorkspace last _).line) = _
    rw [hrow, hrow]
    exact Nat.max_zero _
  rw [workspace, hrows, Geometry.complexAxes]
  cases hkind : rig.geometry.kind with
  | complex =>
    rw [plan_of_complex hkind, line_lineWorkspace_append, hlines hsized.forward_length,
      hlines hsized.inverse_length]
    exact Nat.max_self _
  | real =>
    cases inverse with
    | false =>
      rw [plan_forward_of_real hkind, List.append_nil]
      exact hlines fun d hd => hsized.forward_length d (houter d hd)
    | true =>
      rw [plan_inverse_of_real hkind, List.nil_append]
      exact hlines fun d hd => hsized.inverse_length d (houter d hd)

theorem size_of_grow {β : Type} {buffer : String} {bytes needed : ℕ} {zero : β}
    {held grown : Array β} (h : rig.grow buffer bytes zero needed held = .ok grown) :
    grown.size = max held.size needed := by
  rw [grow] at h
  split at h
  · rename_i hroom
    cases h
    exact (Nat.max_eq_left hroom).symm
  · split at h
    · cases h
      exact size_widened zero needed held
    · cases h

/-- A planning makes the work buffers no larger than it has to, however far it gets. -/
theorem space_install_le [Zero α] (rig : Rig α) (inverse : Bool) (state : State α) :
    ((rig.install inverse).run.run state).2.space.LE
      (state.space.grow (rig.workspace inverse)) := by
  have hkept := Workspace.le_grow_left state.space (rig.workspace inverse)
  rw [install_run]
  split
  · exact hkept
  · rename_i hscratch _
    exact ⟨(size_of_grow hscratch).le, hkept.2⟩
  · rename_i hscratch hheld _
    exact ⟨(size_of_grow hscratch).le, (size_of_grow hheld).le, hkept.2.2⟩
  · rename_i hscratch hheld hrealLine
    exact ⟨(size_of_grow hscratch).le, (size_of_grow hheld).le, (size_of_grow hrealLine).le⟩

/-- The state of a new engine after planning some directions, one after the other. A planning that
fails is followed by the next. -/
def afterPlanning [Zero α] (rig : Rig α) (directions : List Bool) : State α :=
  directions.foldl (fun state inverse => ((rig.install inverse).run.run state).2) .empty

/-- Whether the lines of a workspace are within those of the formula. -/
def LinesWithin (c : Configuration) (space : Workspace) : Prop :=
  space.line ≤ c.longestLength ∧ space.realLine ≤ c.realLength

/-- Lines within the longest axes take no more bytes than the plan was said to need. -/
theorem LinesWithin.lineBytes_le {space : Workspace} (h : LinesWithin c space) (realSize : ℕ) :
    space.lineBytes realSize ≤ c.planBytes realSize := by
  obtain ⟨hline, hreal⟩ := h
  have helements : space.line ≤ 2 * c.complexLengths.sum + c.realLength + 2 * c.longestLength := by
    omega
  rw [Workspace.lineBytes, Configuration.planBytes, Nat.mul_assoc _ 2]
  gcongr

/-- The lines that either direction needs. -/
theorem lines_workspace (hconfiguration : rig.geometry.configuration = c) (hsized : rig.IsSized)
    (inverse : Bool) : LinesWithin c (rig.workspace inverse) := by
  constructor
  · rw [line_workspace hsized, Configuration.complexAxes_eq hconfiguration]
    exact foldr_max_mono (List.forall₂_refl _) (Nat.zero_le _)
  · rw [realLine_workspace, ← Configuration.realAxis_eq hconfiguration, Geometry.realAxis]
    cases rig.geometry.kind <;> exact Nat.le_refl _

/-- Planning a direction keeps the lines within the longest axes, also where it fails for want of
room. -/
theorem LinesWithin.install [Zero α] {state : State α} (h : LinesWithin c state.space)
    (hconfiguration : rig.geometry.configuration = c) (hsized : rig.IsSized) (inverse : Bool) :
    LinesWithin c ((rig.install inverse).run.run state).2.space := by
  obtain ⟨hline, hreal⟩ := lines_workspace hconfiguration hsized inverse
  obtain ⟨-, hgrown, hlonger⟩ := rig.space_install_le inverse state
  exact ⟨hgrown.trans (Nat.max_le.2 ⟨h.1, hline⟩), hlonger.trans (Nat.max_le.2 ⟨h.2, hreal⟩)⟩

/-- Planning never reserves longer lines, in whatever order and however often directions are
planned. -/
theorem lines_afterPlanning [Zero α] (hconfiguration : rig.geometry.configuration = c)
    (hsized : rig.IsSized) (directions : List Bool) :
    LinesWithin c (rig.afterPlanning directions).space := by
  unfold afterPlanning
  have hempty : LinesWithin c (State.empty : State α).space := ⟨Nat.zero_le _, Nat.zero_le _⟩
  generalize (State.empty : State α) = state at hempty
  induction directions generalizing state with
  | nil => exact hempty
  | cons inverse rest ih => exact ih _ (hempty.install hconfiguration hsized inverse)

end Rig

end Cpu

/-! ## The estimate of a configuration -/

/-- Whether the steps of an estimate that are not clipped stay words by themselves. -/
structure Geometry.StaysInWords (g : Geometry) (realSize : ℕ) : Prop where
  length_lt : ∀ d ∈ g.complexAxes, d < 2 ^ 64
  realAxis_lt : g.realAxis < 2 ^ 64
  half_lt : halfLength g.extent.last < 2 ^ 64
  longestLine_lt : g.longestLine < 2 ^ 64
  complexSize_lt : 2 * realSize < 2 ^ 64

theorem Extent.sizes_lt (e : Extent) : ∀ d ∈ e.sizes, d < 2 ^ 64 := by
  intro d hd
  obtain ⟨word, -, rfl⟩ := List.mem_map.1 hd
  exact word.toNat_lt

/-- Every length of a geometry is a word, so the steps of its estimate that are not clipped are
words too. -/
theorem Geometry.staysInWords (g : Geometry) {realSize : ℕ} (hsize : 2 * realSize < 2 ^ 64) :
    g.StaysInWords realSize := by
  have hlast : g.extent.last < 2 ^ 64 := g.extent.sizes_lt _ g.extent.last_mem
  have hhalf : halfLength g.extent.last < 2 ^ 64 := by
    rw [halfLength]
    omega
  have haxes : ∀ d ∈ g.complexAxes, d < 2 ^ 64 := by
    intro d hd
    rw [complexAxes] at hd
    cases hkind : g.kind with
    | real =>
      rw [hkind] at hd
      exact g.extent.sizes_lt d (g.extent.outer_subset hd)
    | complex =>
      rw [hkind] at hd
      exact g.extent.sizes_lt d hd
  refine ⟨haxes, ?_, hhalf, ?_, hsize⟩
  · rw [realAxis]
    cases g.kind with
    | real => exact hlast
    | complex => exact Nat.two_pow_pos 64
  · rw [Configuration.longestLine_eq rfl, Configuration.longestLength,
      ← Configuration.complexAxes_eq rfl]
    refine foldr_max_lt haxes ?_
    split
    · exact hhalf
    · decide

/-- **An estimate covers the lines of its plans.** For every geometry of a configuration, and scalars
of four or eight bytes:

* The estimate is the formula over all natural numbers, clipped once to a word, and no step on the
  way leaves the words.
* Lengths that are nowhere smaller do not make it smaller.
* Unless it is clipped, the lines that either direction needs are within it, and so are those that an
  engine has reserved after it planned any directions in any order. -/
theorem Configuration.planEstimate_covers {c d : Configuration} {g h : Geometry}
    (hg : c.geometry = .ok g) (hh : d.geometry = .ok h) {realSize : ℕ}
    (hsize : realSize = 4 ∨ realSize = 8) :
    g.planEstimate realSize = min (2 ^ 64 - 1) (c.planBytes realSize) ∧
      g.StaysInWords realSize ∧
      (c.kind = d.kind → List.Forall₂ (· ≤ ·) c.extent.sizes d.extent.sizes →
        g.planEstimate realSize ≤ h.planEstimate realSize) ∧
      ∀ (α : Type) [Zero α] (rig : Cpu.Rig α), rig.geometry = g → rig.IsSized →
        c.planBytes realSize < 2 ^ 64 →
        (∀ inverse, (rig.workspace inverse).lineBytes realSize ≤ g.planEstimate realSize) ∧
        ∀ directions, (rig.afterPlanning directions).space.lineBytes realSize ≤
          g.planEstimate realSize := by
  obtain ⟨hconfiguration, -⟩ := isExact_of_geometry hg
  obtain ⟨hother, -⟩ := isExact_of_geometry hh
  refine ⟨?_, g.staysInWords (by omega), fun hkind hlengths => ?_, fun α _ rig hrig hsized hfits => ?_⟩
  · rw [planEstimate_eq hconfiguration, Nat.min_comm]
    rfl
  · rw [planEstimate_eq hconfiguration, planEstimate_eq hother]
    exact min_le_min_right _ (planBytes_mono hkind hlengths realSize)
  · have hrigConfiguration : rig.geometry.configuration = c := by rw [hrig, hconfiguration]
    rw [planEstimate_of_lt hconfiguration hfits]
    exact ⟨fun inverse =>
        (Cpu.Rig.lines_workspace hrigConfiguration hsized inverse).lineBytes_le realSize,
      fun directions =>
        (Cpu.Rig.lines_afterPlanning hrigConfiguration hsized directions).lineBytes_le realSize⟩

/-- Real numbers in four rows of six, and in five rows of six. -/
theorem Configuration.planEstimate_covers_rowsOfSix :
    let g : Geometry :=
      { configuration :=
          { kind := .real, placement := .outOfPlace, precision := .double
            extent := ⟨[4, 6], by decide, by decide, by simp⟩ }
        count := 24, complexCount := 16, dataSize := 192, complexBufferSize := 256
        transferSize := 192 }
    let h : Geometry :=
      { configuration :=
          { kind := .real, placement := .outOfPlace, precision := .double
            extent := ⟨[5, 6], by decide, by decide, by simp⟩ }
        count := 30, complexCount := 20, dataSize := 240, complexBufferSize := 320
        transferSize := 240 }
    let rig : Cpu.Rig Float :=
      { geometry := g, library := Cpu.Fourier.doubleLibrary, scale := none, maxBuffer := 400 }
    g.planEstimate 8 = 400 ∧ g.planEstimate 8 ≤ h.planEstimate 8 ∧
      (rig.afterPlanning [false, true]).space.lineBytes 8 ≤ 400 := by
  intro g h rig
  have hg : g.configuration.geometry = .ok g := by cbv
  have hh : h.configuration.geometry = .ok h := by cbv
  have hlengths : List.Forall₂ (· ≤ ·) g.configuration.extent.sizes h.configuration.extent.sizes := by
    decide
  obtain ⟨hestimate, -, hmono, hcovers⟩ := planEstimate_covers hg hh (.inr rfl)
  have hbytes : g.configuration.planBytes 8 = 400 := by decide
  rw [hbytes] at hestimate hcovers
  have hsized : rig.IsSized := ⟨fun _ _ => rfl, fun _ _ => rfl⟩
  obtain ⟨-, hlines⟩ := hcovers Float rig rfl hsized (by decide)
  have hlined := hlines [false, true]
  rw [hestimate] at hlined
  exact ⟨hestimate, hmono rfl hlengths, hlined⟩

end SpectralBench
