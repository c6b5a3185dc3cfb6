import SpectralBench.Proofs.Cpu.Transforms

/-!
# Executions succeed

An execution can fail in many ways: no plan, or one of the wrong direction, scratch or a line that is
too short, a buffer that is no array of the shape, a plan that gives up, an index out of range. None
of them happens to an engine that is ready, if the plans of its library can be relied on. What is left
then is a function of what the rows of the primary buffer held, or of the spectra: neither the padding
between rows has a part in it, nor what work buffers and the other buffer held before. The functions
are given here with no regard to what the line transforms compute, so that floating point numbers are
covered.

Main statements:

* `Lines.spectrumOf`, `Lines.signalFrom` — what the transforms compute.
* `Rig.executeForward_gives`, `Rig.executeInverse_gives` — executions succeed, and what they leave.
-/

namespace SpectralBench.Cpu

variable {α : Type}

/-! ## Transforms as functions -/

namespace Lines

variable [Zero α]

/-- The spectra of the rows of a host. -/
def rowSpectra (lines : Lines α) (kind : Kind) (extent : Extent) (host : Array α) :
    Array (Complex α) :=
  match kind with
  | .complex => mapRows extent.last (lines.forward extent.last) (pairs host)
  | .real => mapRows extent.last (lines.spectrum extent.last) host

/-- The spectrum of what a host holds. -/
def spectrumOf (lines : Lines α) (kind : Kind) (extent : Extent) (host : Array α) :
    Array (Complex α) :=
  alongAxes (extent.complexSizes kind) (extent.outer.map lines.forward)
    (lines.rowSpectra kind extent host)

/-- Spectra after the inverse transforms along their outer axes. -/
def outerBack (lines : Lines α) (kind : Kind) (extent : Extent) (spectra : Array (Complex α)) :
    Array (Complex α) :=
  alongAxes (extent.complexSizes kind) (extent.outer.map lines.inverse) spectra

/-- What a host gets back of spectra, before it is scaled. Complex rows come first where there is one
buffer, and last where there are two. -/
def signalFrom (lines : Lines α) (kind : Kind) (placement : Placement) (extent : Extent)
    (spectra : Array (Complex α)) : Array α :=
  match kind, placement with
  | .complex, .inPlace =>
    flat (lines.outerBack .complex extent (mapRows extent.last (lines.inverse extent.last) spectra))
  | .complex, .outOfPlace =>
    flat (mapRows extent.last (lines.inverse extent.last) (lines.outerBack .complex extent spectra))
  | .real, _ =>
    mapRows (halfLength extent.last)
      (fun half => lines.signal extent.last (Rig.clearEdges extent.last half))
      (lines.outerBack .real extent spectra)

end Lines

namespace Rig

/-! ## What is relied on -/

section Plans

variable [Zero α] {rig : Rig α} {lines : Lines α}

/-- Whether the plans of the way forward do this to lines. -/
structure GoesForward (rig : Rig α) (lines : Lines α) : Prop where
  complex : ∀ d ∈ rig.geometry.extent.sizes, Provides rig.library.forward lines.forward d
  real : rig.geometry.kind = .real → rig.library.ProvidesSpectra lines rig.geometry.extent.last

/-- Whether the plans of the way back do this to lines. -/
structure GoesBack (rig : Rig α) (lines : Lines α) : Prop where
  complex : ∀ d ∈ rig.geometry.extent.sizes, Provides rig.library.inverse lines.inverse d
  real : rig.geometry.kind = .real → rig.library.ProvidesSignals lines rig.geometry.extent.last

end Plans

section Room

variable {rig : Rig α} {inverse : Bool}

/-- The workspace of a plan has room for all of its line transforms. -/
theorem workspace_le {plan : LinePlan α}
    (h : plan ∈ (rig.plan inverse).forward ++ (rig.plan inverse).inverse) :
    plan.workspace.LE (rig.workspace inverse) :=
  (Workspace.le_lineWorkspace h).trans (Workspace.le_grow_left ..)

theorem mem_plan_forward (hkind : rig.geometry.kind = .complex) (inverse : Bool) {d : ℕ}
    (hd : d ∈ rig.geometry.extent.sizes) :
    rig.library.forward d ∈ (rig.plan inverse).forward ++ (rig.plan inverse).inverse := by
  rw [plan_of_complex hkind]
  exact List.mem_append_left _ (List.mem_map_of_mem hd)

theorem mem_plan_inverse (hkind : rig.geometry.kind = .complex) (inverse : Bool) {d : ℕ}
    (hd : d ∈ rig.geometry.extent.sizes) :
    rig.library.inverse d ∈ (rig.plan inverse).forward ++ (rig.plan inverse).inverse := by
  rw [plan_of_complex hkind]
  exact List.mem_append_right _ (List.mem_map_of_mem hd)

/-- The plan forward has a transform for each of the outer axes, whatever is transformed. -/
theorem mem_plan_outer_forward {d : ℕ} (hd : d ∈ rig.geometry.extent.outer) :
    rig.library.forward d ∈ (rig.plan false).forward ++ (rig.plan false).inverse := by
  cases hkind : rig.geometry.kind with
  | complex => exact mem_plan_forward hkind false (rig.geometry.extent.outer_subset hd)
  | real =>
    rw [plan_forward_of_real hkind]
    exact List.mem_append_left _ (List.mem_map_of_mem hd)

/-- And the plan backward. -/
theorem mem_plan_outer_inverse {d : ℕ} (hd : d ∈ rig.geometry.extent.outer) :
    rig.library.inverse d ∈ (rig.plan true).forward ++ (rig.plan true).inverse := by
  cases hkind : rig.geometry.kind with
  | complex => exact mem_plan_inverse hkind true (rig.geometry.extent.outer_subset hd)
  | real =>
    rw [plan_inverse_of_real hkind]
    exact List.mem_append_right _ (List.mem_map_of_mem hd)

/-- Scratch is long enough for the transform of a row of reals. -/
theorem scratch_spectrum_le (hkind : rig.geometry.kind = .real) :
    (rig.library.spectrum rig.geometry.extent.last).scratch ≤ (rig.workspace false).scratch := by
  rw [workspace, plan_forward_of_real hkind]
  exact Nat.le_trans (Nat.le_max_left ..) (Nat.le_max_right ..)

/-- And for that of a half spectrum. -/
theorem scratch_signal_le (hkind : rig.geometry.kind = .real) :
    (rig.library.signal rig.geometry.extent.last).scratch ≤ (rig.workspace true).scratch := by
  rw [workspace, plan_inverse_of_real hkind]
  exact Nat.le_trans (Nat.le_max_right ..) (Nat.le_max_right ..)

/-- A line transform of the plan at hand runs in the work buffers. -/
theorem runsIn_of_mem {plan : ℕ → LinePlan α} {f : ℕ → Array (Complex α) → Array (Complex α)}
    {state : State α} {d : ℕ} (h : Provides plan f d) (hd : 0 < d)
    (hmem : plan d ∈ (rig.plan inverse).forward ++ (rig.plan inverse).inverse)
    (hroom : (rig.workspace inverse).LE state.space) :
    (plan d).RunsIn (f d) d state.line.size state.scratch.size := by
  obtain ⟨hscratch, hline, -⟩ := (workspace_le hmem).trans hroom
  exact ⟨hd, h.length_eq, h.transforms, h.length_eq ▸ hline,
    Nat.le_trans (Nat.le_max_left ..) hscratch⟩

end Room

/-! ## Complex transforms -/

section Complex

/-- A list of plans for the axes falls into those of the outer axes and that of the last one. -/
theorem splitPlans_eq_ok (e : Extent) (plan : ℕ → LinePlan α) :
    splitPlans e.sizes.length (e.sizes.map plan) = .ok (e.outer.map plan, plan e.last) := by
  rw [← e.outer_append_last]
  simp [splitPlans]

/-- There is at least one row. -/
theorem outer_product_pos (rig : Rig α) : 0 < Word.product rig.geometry.extent.outer :=
  Word.product_pos rig.geometry.extent.outer_pos

variable {rig : Rig α} {state : State α} {plan : ℕ → LinePlan α}
  {f : ℕ → Array (Complex α) → Array (Complex α)}

/-- The elements are as many rows as the outer axes have places. -/
theorem product_of_complex (hkind : rig.geometry.kind = .complex) :
    Word.product rig.geometry.complexSizes =
      Word.product rig.geometry.extent.outer * rig.geometry.extent.last := by
  rw [Geometry.complexSizes_of_complex hkind, ← Word.product_concat, Extent.outer_append_last]

/-- The primary buffer holds whole rows of complex numbers. -/
theorem Allocated.size_rows (h : rig.Allocated state) (hkind : rig.geometry.kind = .complex)
    (hg : rig.geometry.IsExact) : state.primary.size =
      2 * (Word.product rig.geometry.extent.outer * rig.geometry.extent.last) := by
  rw [h.size_primary, hg.primaryCount_of_complex hkind, product_of_complex hkind]

/-- So does the secondary one, where there is one. -/
theorem Allocated.size_other_rows (h : rig.Allocated state) (hkind : rig.geometry.kind = .complex)
    (hg : rig.geometry.IsExact) (hplace : rig.geometry.placement = .outOfPlace) :
    state.secondary.size =
      2 * (Word.product rig.geometry.extent.outer * rig.geometry.extent.last) := by
  rw [h.size_secondary hplace, hg.secondaryCount_of_outOfPlace hplace, product_of_complex hkind]

variable [Zero α] (operation : String) (hkind : rig.geometry.kind = .complex)
  (hg : rig.geometry.IsExact) (hallocated : rig.Allocated state)
  (hruns : ∀ d ∈ rig.geometry.extent.sizes,
    (plan d).RunsIn (f d) d state.line.size state.scratch.size)

include hkind hg hallocated hruns

/-- In place, rows come first in either direction. -/
theorem runComplex_inPlace (hplace : rig.geometry.placement = .inPlace) (inverse : Bool) :
    ∃ after, Gives (rig.runComplex operation inverse (rig.geometry.extent.sizes.map plan)) state ()
        after ∧
      state.Fills .primary (flat (alongAxes rig.geometry.complexSizes
        (rig.geometry.extent.outer.map f)
        (mapRows rig.geometry.extent.last (f rig.geometry.extent.last) (pairs state.primary))))
        after := by
  have hsize : state.primary.size = 2 * Word.product rig.geometry.complexSizes :=
    hallocated.size_primary.trans (hg.primaryCount_of_complex hkind)
  have hpairs : (pairs state.primary).size =
      Word.product rig.geometry.extent.outer * rig.geometry.extent.last := by
    rw [size_pairs, hallocated.size_rows hkind hg, Nat.mul_div_cancel_left _ Nat.two_pos]
  have hlast := hruns _ rig.geometry.extent.last_mem
  have hmapped := size_mapRows rig.geometry.extent.last_pos hpairs fun _ => hlast.size_eq
  obtain ⟨mid, hrows, hmid⟩ := runRows_leaves operation (deskOf state .primary) hlast
    rig.outer_product_pos hpairs
  obtain ⟨last, houter, hafter⟩ := transformOuter_leaves_outer operation
    (fun d hd => hruns d (rig.geometry.extent.outer_subset hd))
    (hmapped.trans (product_of_complex hkind).symm) hmid
  have hboth : Gives (do
      runRows operation (plan rig.geometry.extent.last)
      transformOuter operation rig.geometry.complexSizes (rig.geometry.extent.outer.map plan))
      (deskOf state .primary) () last := hrows.bind houter
  -- rows and outer axes are worked on at one desk, which is lent once
  obtain ⟨after, hgives, hfills⟩ := lend_gives operation .primary hsize
    ((size_alongAxes ..).trans (hmapped.trans (product_of_complex hkind).symm))
    ⟨last, hboth, hmid.trans hafter⟩
  refine ⟨after, ?_, hfills⟩
  rw [runComplex, hplace]
  simp only [splitPlans_eq_ok]
  rw [← Geometry.complexSizes_of_complex hkind]
  exact (Gives.settle rfl state).bind hgives

variable (hplace : rig.geometry.placement = .outOfPlace)
  (hroom : (plan rig.geometry.extent.last).scratchOutOfPlace ≤ state.scratch.size)

include hplace hroom

/-- Across and forward, rows come first. -/
theorem runComplex_across_forward :
    ∃ after, Gives (rig.runComplex operation false (rig.geometry.extent.sizes.map plan)) state ()
        after ∧
      state.Fills .secondary (flat (alongAxes rig.geometry.complexSizes
        (rig.geometry.extent.outer.map f)
        (mapRows rig.geometry.extent.last (f rig.geometry.extent.last) (pairs state.primary))))
        after := by
  have hlast := hruns _ rig.geometry.extent.last_mem
  have hprimary := hallocated.size_rows hkind hg
  have hsecondary := hallocated.size_other_rows hkind hg hplace
  obtain ⟨mid, hrows, hmid⟩ := runRowsAcross_gives operation .primary .secondary
    hlast.transforms hlast.length_eq hlast.pos hroom rig.outer_product_pos hprimary
    hsecondary
  have hsize : (mid.buffer .secondary).size = 2 * Word.product rig.geometry.complexSizes := by
    rw [hmid.keeps.size_buffer, product_of_complex hkind]
    exact hsecondary
  have houterRuns : ∀ d ∈ rig.geometry.extent.outer,
      (plan d).RunsIn (f d) d mid.line.size mid.scratch.size := by
    rw [hmid.keeps.size_line, hmid.keeps.size_scratch]
    exact fun d hd => hruns d (rig.geometry.extent.outer_subset hd)
  -- the outer axes find in the secondary buffer what the rows have left there
  obtain ⟨after, houter, hafter⟩ := outer_gives operation houterRuns .secondary hsize
  rw [hmid.buffer_eq, pairs_flat] at hafter
  refine ⟨after, ?_, hmid.keeps.trans hafter.keeps, hafter.buffer_eq⟩
  rw [runComplex, hplace]
  simp only [splitPlans_eq_ok]
  rw [← Geometry.complexSizes_of_complex hkind]
  exact (Gives.settle rfl state).bind (hrows.bind houter)

/-- Across and back, rows come last. -/
theorem runComplex_across_back :
    ∃ after, Gives (rig.runComplex operation true (rig.geometry.extent.sizes.map plan)) state ()
        after ∧
      state.Fills .primary (flat (mapRows rig.geometry.extent.last (f rig.geometry.extent.last)
        (alongAxes rig.geometry.complexSizes (rig.geometry.extent.outer.map f)
          (pairs state.secondary)))) after := by
  have hlast := hruns _ rig.geometry.extent.last_mem
  have hprimary := hallocated.size_rows hkind hg
  have hsecondary : state.secondary.size = 2 * Word.product rig.geometry.complexSizes := by
    rw [hallocated.size_secondary hplace, hg.secondaryCount_of_outOfPlace hplace]
  obtain ⟨mid, houter, hmid⟩ := outer_gives operation
    (fun d hd => hruns d (rig.geometry.extent.outer_subset hd)) .secondary hsecondary
  have hsource : (mid.buffer .secondary).size =
      2 * (Word.product rig.geometry.extent.outer * rig.geometry.extent.last) := by
    rw [hmid.keeps.size_buffer, ← product_of_complex hkind]
    exact hsecondary
  obtain ⟨after, hrows, hafter⟩ := runRowsAcross_gives operation .secondary .primary
    hlast.transforms hlast.length_eq hlast.pos (hmid.keeps.size_scratch ▸ hroom)
    rig.outer_product_pos hsource ((hmid.keeps.size_buffer .primary).trans hprimary)
  rw [hmid.buffer_eq, pairs_flat] at hafter
  refine ⟨after, ?_, hmid.keeps.trans hafter.keeps, hafter.buffer_eq⟩
  rw [runComplex, hplace]
  simp only [splitPlans_eq_ok]
  rw [← Geometry.complexSizes_of_complex hkind]
  exact (Gives.settle rfl state).bind ((Gives.of_get state).bind
    ((Gives.settle (complexView_eq_ok operation hprimary) state).bind (houter.bind hrows)))

omit hplace

/-- Whichever buffer the spectrum is in, the primary one gets what it leads back to. -/
theorem runComplex_back {lines : Lines α} (hinverse : lines.inverse = f) :
    ∃ after, Gives (rig.runComplex operation true (rig.geometry.extent.sizes.map plan)) state ()
        after ∧
      state.Fills .primary (lines.signalFrom .complex rig.geometry.placement rig.geometry.extent
        (pairs (rig.spectra state))) after := by
  subst hinverse
  have hsizes : rig.geometry.complexSizes = rig.geometry.extent.complexSizes .complex := by
    rw [Geometry.complexSizes, hkind]
  unfold Lines.signalFrom Lines.outerBack
  rw [spectra, spectrumSide, ← hsizes]
  cases hplace : rig.geometry.placement with
  | inPlace => exact runComplex_inPlace operation hkind hg hallocated hruns hplace true
  | outOfPlace => exact runComplex_across_back operation hkind hg hallocated hruns hplace hroom

/-- Wherever the spectrum is for, it is that of the primary buffer. -/
theorem runComplex_forward :
    ∃ after, Gives (rig.runComplex operation false (rig.geometry.extent.sizes.map plan)) state ()
        after ∧
      state.Fills rig.spectrumSide (flat (alongAxes rig.geometry.complexSizes
        (rig.geometry.extent.outer.map f)
        (mapRows rig.geometry.extent.last (f rig.geometry.extent.last) (pairs state.primary))))
        after := by
  rw [spectrumSide]
  cases hplace : rig.geometry.placement with
  | inPlace => exact runComplex_inPlace operation hkind hg hallocated hruns hplace false
  | outOfPlace => exact runComplex_across_forward operation hkind hg hallocated hruns hplace hroom

end Complex

/-! ## Real transforms -/

section Real

variable {rig : Rig α} {state : State α} (hkind : rig.geometry.kind = .real)
  (hg : rig.geometry.IsExact)

/-- Scalars from one row of the primary buffer to the next, where rows are of real numbers. -/
def rowPitch (rig : Rig α) : ℕ :=
  match rig.geometry.placement with
  | .inPlace => rig.paddedWidth
  | .outOfPlace => rig.geometry.extent.last

/-- The scalars of the spectrum are as many padded rows. -/
theorem product_of_real (hkind : rig.geometry.kind = .real) :
    2 * Word.product rig.geometry.complexSizes =
      Word.product rig.geometry.extent.outer * rig.paddedWidth := by
  rw [Geometry.complexSizes_of_real hkind, Word.product_concat, paddedWidth, Nat.mul_left_comm]

/-- In place, the primary buffer holds whole padded rows. -/
theorem Allocated.size_padded (h : rig.Allocated state) (hkind : rig.geometry.kind = .real)
    (hg : rig.geometry.IsExact) (hplace : rig.geometry.placement = .inPlace) :
    state.primary.size = Word.product rig.geometry.extent.outer * rig.paddedWidth := by
  rw [h.size_primary, hg.primaryCount_of_inPlace hplace, product_of_real hkind]

/-- Out of place, it holds whole rows without padding. -/
theorem Allocated.size_plain (h : rig.Allocated state) (hkind : rig.geometry.kind = .real)
    (hg : rig.geometry.IsExact) (hplace : rig.geometry.placement = .outOfPlace) :
    state.primary.size = Word.product rig.geometry.extent.outer * rig.geometry.extent.last := by
  rw [h.size_primary, hg.primaryCount_of_plain_real hkind hplace]

/-- The secondary buffer holds their half spectra, which are as long as padded rows. -/
theorem Allocated.size_halves (h : rig.Allocated state) (hkind : rig.geometry.kind = .real)
    (hg : rig.geometry.IsExact) (hplace : rig.geometry.placement = .outOfPlace) :
    state.secondary.size = Word.product rig.geometry.extent.outer * rig.paddedWidth := by
  rw [h.size_secondary hplace, hg.secondaryCount_of_outOfPlace hplace, product_of_real hkind]

/-- With and without padding, a buffer holds what its rows begin with. -/
theorem holds_iff_rows (hkind : rig.geometry.kind = .real) (hg : rig.geometry.IsExact)
    {buffer host : Array α} (hbuffer : buffer.size = rig.geometry.primaryCount)
    (hhost : host.size = rig.geometry.scalarCount) :
    rig.geometry.scalarRows.Holds buffer host ↔ ∀ row < Word.product rig.geometry.extent.outer,
      (rowAt rig.rowPitch buffer row).extract 0 rig.geometry.extent.last =
        rowAt rig.geometry.extent.last host row := by
  rw [rowPitch]
  cases hplace : rig.geometry.placement with
  | inPlace =>
    exact hg.holds_iff_rows (Geometry.isPadded_of_inPlace hkind hplace) hbuffer hhost
  | outOfPlace =>
    have hlast := rig.geometry.extent.last_pos
    have hrows := hg.primaryCount_of_plain_real hkind hplace
    -- the rows are as long as those of the host, and there is nothing between them
    have hwhole (row : ℕ) : (rowAt rig.geometry.extent.last buffer row).extract 0
        rig.geometry.extent.last = rowAt rig.geometry.extent.last buffer row :=
      Array.extract_eq_self_of_le (size_rowAt_le ..)
    simp only [hwhole]
    rw [hg.holds_iff_eq (Geometry.isPadded_of_outOfPlace hplace) hbuffer hhost]
    constructor
    · rintro rfl row -
      rfl
    · exact ext_rows hlast (hbuffer.trans hrows) (hhost.trans (hg.scalarCount_of_real hkind))

section Forward

variable {plan : SpectrumPlan α} {f : Array α → Array (Complex α)} {host : Array α}
  (operation : String)

/-- A buffer whose padded rows are half spectra. -/
theorem eq_flat_of_rows {count : ℕ} {buffer : Array α}
    (hbuffer : buffer.size = count * rig.paddedWidth)
    (hhost : host.size = count * rig.geometry.extent.last)
    (hf : ∀ values, values.size = rig.geometry.extent.last →
      (f values).size = halfLength rig.geometry.extent.last)
    (hrows : ∀ row < count, rowAt rig.paddedWidth buffer row =
      flat (f (rowAt rig.geometry.extent.last host row))) :
    buffer = flat (mapRows rig.geometry.extent.last f host) := by
  have hlast := rig.geometry.extent.last_pos
  have hhalf := halfLength_pos rig.geometry.extent.last
  refine ext_rows (Nat.mul_pos Nat.two_pos hhalf) hbuffer ?_ fun row hrow => ?_
  · rw [size_flat, size_mapRows hlast hhost hf, Nat.mul_left_comm]
  · rw [rowAt_flat, rowAt_mapRows hlast hhost hf hrow]
    exact hrows row hrow

variable (hplan : plan.Transforms f) (hlength : plan.length = rig.geometry.extent.last)
  (hscratch : plan.scratch ≤ state.scratch.size) (hallocated : rig.Allocated state)
  (hf : ∀ values, values.size = rig.geometry.extent.last →
    (f values).size = halfLength rig.geometry.extent.last)
  (hholds : rig.geometry.scalarRows.Holds state.primary host)

include hkind hg hplan hlength hscratch hallocated hf hholds

/-- In place, the rows of the primary buffer become their half spectra. -/
theorem spectrumRows_inPlace (hplace : rig.geometry.placement = .inPlace)
    (hline : state.realLine.size = rig.geometry.extent.last) :
    ∃ after, Gives (countUp (state.primary.size / rig.paddedWidth)
        (rig.spectrumInPlace operation plan)) state () after ∧
      state.Fills .primary (flat (mapRows rig.geometry.extent.last f host)) after := by
  have hhost := hg.size_of_holds hholds
  have hrows := (holds_iff_rows hkind hg hallocated.size_primary hhost).1 hholds
  have hsize := hallocated.size_padded hkind hg hplace
  rw [hsize, Nat.mul_div_cancel _ rig.paddedWidth_pos]
  rw [rowPitch, hplace] at hrows
  have hworks : WorksOnRows .primary .primary rig.paddedWidth rig.paddedWidth
      (fun row half => half = flat (f (rowAt rig.geometry.extent.last host row)))
      (rig.spectrumInPlace operation plan) (Word.product rig.geometry.extent.outer) state := by
    intro row hrow mid hmid hsame
    -- the row is still as it was at first, since no other row reaches into it
    obtain ⟨next, hgives, hnext, hhalf⟩ := spectrumInPlace_gives operation hplan hlength
      (hmid.size_scratch ▸ hscratch) hrow (hmid.size_realLine.trans hline)
      ((hmid.size_buffer .primary).trans hsize)
    refine ⟨next, hgives, hnext, hhalf.trans ?_⟩
    rw [← hrows row hrow]
    exact congrArg (fun values => flat (f (values.extract 0 rig.geometry.extent.last))) hsame
  obtain ⟨after, hgives, hkeeps, hdone⟩ := hworks.countUp
  exact ⟨after, hgives, hkeeps, eq_flat_of_rows ((hkeeps.size_buffer .primary).trans hsize)
    (hhost.trans (hg.scalarCount_of_real hkind)) hf hdone⟩

/-- Across, they become the half spectra in the secondary buffer. -/
theorem spectrumRows_across (hplace : rig.geometry.placement = .outOfPlace) :
    ∃ after, Gives (countUp (min (state.primary.size / rig.geometry.extent.last)
        ((pairs state.secondary).size / halfLength rig.geometry.extent.last))
        (rig.spectrumAcross operation plan)) state () after ∧
      state.Fills .secondary (flat (mapRows rig.geometry.extent.last f host)) after := by
  have hhost := hg.size_of_holds hholds
  have hsource := hallocated.size_plain hkind hg hplace
  have htarget := hallocated.size_halves hkind hg hplace
  have hview : (pairs state.secondary).size =
      Word.product rig.geometry.extent.outer * halfLength rig.geometry.extent.last := by
    rw [size_pairs, htarget, paddedWidth, Nat.mul_left_comm, Nat.mul_div_cancel_left _ Nat.two_pos]
  obtain rfl : state.primary = host := (hg.holds_iff_eq (Geometry.isPadded_of_outOfPlace hplace)
    hallocated.size_primary hhost).1 hholds
  rw [hview, Nat.mul_div_cancel _ (halfLength_pos _), hsource,
    Nat.mul_div_cancel _ rig.geometry.extent.last_pos, Nat.min_self]
  have hworks : WorksOnRows .primary .secondary rig.geometry.extent.last rig.paddedWidth
      (fun row half => half = flat (f (rowAt rig.geometry.extent.last state.primary row)))
      (rig.spectrumAcross operation plan) (Word.product rig.geometry.extent.outer) state := by
    intro row hrow mid hmid hsame
    obtain ⟨next, hgives, hnext, hhalf⟩ := spectrumAcross_gives operation hplan hlength
      (hmid.size_scratch ▸ hscratch) hrow ((hmid.size_buffer .primary).trans hsource)
      ((hmid.size_buffer .secondary).trans htarget)
    exact ⟨next, hgives, hnext, hhalf.trans (congrArg (fun values => flat (f values)) hsame)⟩
  obtain ⟨after, hgives, hkeeps, hdone⟩ := hworks.countUp
  exact ⟨after, hgives, hkeeps, eq_flat_of_rows ((hkeeps.size_buffer .secondary).trans htarget)
    hsource hf hdone⟩

/-- Rows come first, and then the outer axes of the buffer that they are in. -/
theorem runRealForward_gives [Zero α] {outer : ℕ → LinePlan α}
    {g : ℕ → Array (Complex α) → Array (Complex α)}
    (hruns : ∀ d ∈ rig.geometry.extent.outer,
      (outer d).RunsIn (g d) d state.line.size state.scratch.size)
    (hline : state.realLine.size = rig.geometry.extent.last) :
    ∃ after, Gives (rig.runRealForward (rig.geometry.extent.outer.map outer) plan) state () after ∧
      state.Fills rig.spectrumSide (flat (alongAxes rig.geometry.complexSizes
        (rig.geometry.extent.outer.map g) (mapRows rig.geometry.extent.last f host))) after := by
  have hspectra := hallocated.size_spectra hg
  -- whatever buffer the rows are left in, the outer axes find it in the shape of the spectrum
  have houter {side : Side} {mid : State α} (hmid : state.Fills side
      (flat (mapRows rig.geometry.extent.last f host)) mid)
      (hside : (state.buffer side).size = 2 * Word.product rig.geometry.complexSizes) :
      ∃ after, Gives (lend "execute_forward" side (transformOuter "execute_forward"
          rig.geometry.complexSizes (rig.geometry.extent.outer.map outer))) mid () after ∧
        state.Fills side (flat (alongAxes rig.geometry.complexSizes
          (rig.geometry.extent.outer.map g) (mapRows rig.geometry.extent.last f host))) after := by
    rw [← hmid.keeps.size_line, ← hmid.keeps.size_scratch] at hruns
    obtain ⟨after, hgives, hafter⟩ := outer_gives "execute_forward" hruns side
      ((hmid.keeps.size_buffer side).trans hside)
    rw [hmid.buffer_eq, pairs_flat] at hafter
    exact ⟨after, hgives, hmid.keeps.trans hafter.keeps, hafter.buffer_eq⟩
  rw [spectra, spectrumSide] at hspectra
  rw [runRealForward, spectrumSide]
  cases hplace : rig.geometry.placement with
  | inPlace =>
    rw [hplace] at hspectra
    obtain ⟨mid, hrows, hmid⟩ := spectrumRows_inPlace hkind hg "execute_forward" hplan hlength
      hscratch hallocated hf hholds hplace hline
    obtain ⟨after, hrest, hafter⟩ := houter hmid hspectra
    exact ⟨after, (Gives.of_get state).bind ((Gives.of_ensureSpace hscratch _ _).bind
      (hrows.bind hrest)), hafter⟩
  | outOfPlace =>
    rw [hplace] at hspectra
    obtain ⟨mid, hrows, hmid⟩ := spectrumRows_across hkind hg "execute_forward" hplan hlength
      hscratch hallocated hf hholds hplace
    obtain ⟨after, hrest, hafter⟩ := houter hmid hspectra
    have hview := complexView_eq_ok "execute_forward" hspectra
    exact ⟨after, (Gives.of_get state).bind ((Gives.of_ensureSpace hscratch _ _).bind
      ((Gives.settle hview _).bind (hrows.bind hrest))), hafter⟩

end Forward

section Back

variable [Zero α] {plan : SignalPlan α} {f : Array (Complex α) → Array α}
  {spectra : Array (Complex α)} (operation : String) (hplan : plan.Transforms f)
  (hlength : plan.length = rig.geometry.extent.last) (hscratch : plan.scratch ≤ state.scratch.size)
  (hallocated : rig.Allocated state)
  (hspectra : spectra.size =
    Word.product rig.geometry.extent.outer * halfLength rig.geometry.extent.last)

include hkind hg hplan hlength hspectra

/-- Rows of the primary buffer that begin with the numbers of half spectra. -/
theorem holds_of_rows {buffer : Array α} (hbuffer : buffer.size = rig.geometry.primaryCount)
    (hrows : ∀ row < Word.product rig.geometry.extent.outer,
      (rowAt rig.rowPitch buffer row).extract 0 rig.geometry.extent.last =
        f (clearEdges rig.geometry.extent.last
          (rowAt (halfLength rig.geometry.extent.last) spectra row))) :
    rig.geometry.scalarRows.Holds buffer (mapRows (halfLength rig.geometry.extent.last)
      (fun half => f (clearEdges rig.geometry.extent.last half)) spectra) := by
  have hhalf := halfLength_pos rig.geometry.extent.last
  -- the library is asked for lines with clear edges only
  have hsize : ∀ half : Array (Complex α), half.size = halfLength rig.geometry.extent.last →
      (f (clearEdges rig.geometry.extent.last half)).size = rig.geometry.extent.last := by
    intro half hsize
    rw [← hlength] at hsize ⊢
    exact hplan.size_eq ((size_clearEdges ..).trans hsize) (edgesClear_clearEdges hsize)
  refine (holds_iff_rows hkind hg hbuffer ?_).2 fun row hrow => ?_
  · rw [size_mapRows hhalf hspectra hsize, hg.scalarCount_of_real hkind]
  · rw [rowAt_mapRows hhalf hspectra hsize hrow]
    exact hrows row hrow

include hscratch hallocated

/-- In place, half spectra become the numbers that the rows begin with. -/
theorem signalRows_inPlace (hplace : rig.geometry.placement = .inPlace)
    (hline : state.realLine.size = rig.geometry.extent.last)
    (hbuffer : state.primary = flat spectra) :
    ∃ after, Gives (countUp (state.primary.size / rig.paddedWidth)
        (rig.signalInPlace operation plan)) state () after ∧ state.Keeps after ∧
      rig.geometry.scalarRows.Holds after.primary (mapRows (halfLength rig.geometry.extent.last)
        (fun half => f (clearEdges rig.geometry.extent.last half)) spectra) := by
  have hsize := hallocated.size_padded hkind hg hplace
  rw [hsize, Nat.mul_div_cancel _ rig.paddedWidth_pos]
  have hworks : WorksOnRows .primary .primary rig.paddedWidth rig.paddedWidth
      (fun row values => values.extract 0 rig.geometry.extent.last =
        f (clearEdges rig.geometry.extent.last
          (rowAt (halfLength rig.geometry.extent.last) spectra row)))
      (rig.signalInPlace operation plan) (Word.product rig.geometry.extent.outer) state := by
    intro row hrow mid hmid hsame
    obtain ⟨next, hgives, hnext, hnumbers⟩ := signalInPlace_gives operation hplan hlength
      (hmid.size_scratch ▸ hscratch) hrow (hmid.size_realLine.trans hline)
      ((hmid.size_buffer .primary).trans hsize)
    have hview : rowAt rig.paddedWidth mid.primary row =
        flat (rowAt (halfLength rig.geometry.extent.last) spectra row) := by
      rw [← rowAt_flat, ← hbuffer]
      exact hsame
    rw [hview, pairs_flat] at hnumbers
    exact ⟨next, hgives, hnext, hnumbers⟩
  obtain ⟨after, hgives, hkeeps, hdone⟩ := hworks.countUp
  refine ⟨after, hgives, hkeeps, holds_of_rows hkind hg hplan hlength hspectra
    (hallocated.keeps hkeeps).size_primary ?_⟩
  rw [rowPitch, hplace]
  exact hdone

/-- Across, they become the rows of the primary buffer. -/
theorem signalRows_across (hplace : rig.geometry.placement = .outOfPlace)
    (hbuffer : state.secondary = flat spectra) :
    ∃ after, Gives (countUp (min ((pairs state.secondary).size / halfLength rig.geometry.extent.last)
        (state.primary.size / rig.geometry.extent.last)) (rig.signalAcross operation plan)) state ()
        after ∧ state.Keeps after ∧
      rig.geometry.scalarRows.Holds after.primary (mapRows (halfLength rig.geometry.extent.last)
        (fun half => f (clearEdges rig.geometry.extent.last half)) spectra) := by
  have htarget := hallocated.size_plain hkind hg hplace
  have hsource := hallocated.size_halves hkind hg hplace
  rw [show (pairs state.secondary).size = _ by rw [hbuffer, pairs_flat, hspectra],
    Nat.mul_div_cancel _ (halfLength_pos _), htarget,
    Nat.mul_div_cancel _ rig.geometry.extent.last_pos, Nat.min_self]
  have hworks : WorksOnRows .secondary .primary rig.paddedWidth rig.geometry.extent.last
      (fun row values => values = f (clearEdges rig.geometry.extent.last
        (rowAt (halfLength rig.geometry.extent.last) spectra row)))
      (rig.signalAcross operation plan) (Word.product rig.geometry.extent.outer) state := by
    intro row hrow mid hmid hsame
    obtain ⟨next, hgives, hnext, hnumbers⟩ := signalAcross_gives operation hplan hlength
      (hmid.size_scratch ▸ hscratch) hrow ((hmid.size_buffer .secondary).trans hsource)
      ((hmid.size_buffer .primary).trans htarget)
    have hview : rowAt rig.paddedWidth mid.secondary row =
        flat (rowAt (halfLength rig.geometry.extent.last) spectra row) := by
      rw [← rowAt_flat, ← hbuffer]
      exact hsame
    rw [hview, pairs_flat] at hnumbers
    exact ⟨next, hgives, hnext, hnumbers⟩
  obtain ⟨after, hgives, hkeeps, hdone⟩ := hworks.countUp
  refine ⟨after, hgives, hkeeps, holds_of_rows hkind hg hplan hlength hspectra
    (hallocated.keeps hkeeps).size_primary fun row hrow => ?_⟩
  -- out of place nothing pads a row
  rw [rowPitch, hplace, ← hdone row hrow]
  exact Array.extract_eq_self_of_le (size_rowAt_le ..)

end Back

/-- The outer axes come first, and then the rows of what they leave. -/
theorem runRealInverse_gives [Zero α] (hkind : rig.geometry.kind = .real)
    (hg : rig.geometry.IsExact) {plan : SignalPlan α} {f : Array (Complex α) → Array α}
    (hplan : plan.Transforms f) (hlength : plan.length = rig.geometry.extent.last)
    (hscratch : plan.scratch ≤ state.scratch.size) (hallocated : rig.Allocated state)
    {outer : ℕ → LinePlan α} {g : ℕ → Array (Complex α) → Array (Complex α)}
    (hruns : ∀ d ∈ rig.geometry.extent.outer,
      (outer d).RunsIn (g d) d state.line.size state.scratch.size)
    (hline : state.realLine.size = rig.geometry.extent.last) :
    ∃ after, Gives (rig.runRealInverse (rig.geometry.extent.outer.map outer) plan) state () after ∧
      state.Keeps after ∧
      rig.geometry.scalarRows.Holds after.primary (mapRows (halfLength rig.geometry.extent.last)
        (fun half => f (clearEdges rig.geometry.extent.last half))
        (alongAxes rig.geometry.complexSizes (rig.geometry.extent.outer.map g)
          (pairs (rig.spectra state)))) := by
  have hsize := hallocated.size_spectra hg
  have hspectra : (alongAxes rig.geometry.complexSizes (rig.geometry.extent.outer.map g)
      (pairs (rig.spectra state))).size =
        Word.product rig.geometry.extent.outer * halfLength rig.geometry.extent.last := by
    rw [size_alongAxes, size_pairs, hsize, Nat.mul_div_cancel_left _ Nat.two_pos,
      Geometry.complexSizes_of_real hkind, Word.product_concat]
  obtain ⟨mid, houter, hmid⟩ := outer_gives "execute_inverse" hruns rig.spectrumSide hsize
  have hroom : plan.scratch ≤ mid.scratch.size := hmid.keeps.size_scratch ▸ hscratch
  have hallocated := hallocated.keeps hmid.keeps
  have hline := hmid.keeps.size_realLine.trans hline
  have hbuffer := hmid.buffer_eq
  rw [spectra] at hspectra ⊢
  rw [runRealInverse]
  rw [spectrumSide] at houter hbuffer hspectra ⊢
  cases hplace : rig.geometry.placement with
  | inPlace =>
    rw [hplace] at houter hbuffer hspectra
    obtain ⟨after, hrows, hkeeps, hholds⟩ := signalRows_inPlace hkind hg "execute_inverse" hplan
      hlength hroom hallocated hspectra hplace hline hbuffer
    exact ⟨after, houter.bind ((Gives.of_get mid).bind ((Gives.of_ensureSpace hroom _ _).bind hrows)),
      hmid.keeps.trans hkeeps, hholds⟩
  | outOfPlace =>
    rw [hplace] at houter hbuffer hspectra
    obtain ⟨after, hrows, hkeeps, hholds⟩ := signalRows_across hkind hg "execute_inverse" hplan
      hlength hroom hallocated hspectra hplace hbuffer
    have hview := complexView_eq_ok "execute_inverse" ((hallocated.size_secondary hplace).trans
      (hg.secondaryCount_of_outOfPlace hplace))
    exact ⟨after, houter.bind ((Gives.of_get mid).bind ((Gives.of_ensureSpace hroom _ _).bind
      ((Gives.settle hview _).bind hrows))), hmid.keeps.trans hkeeps, hholds⟩

end Real

/-! ## Executions -/

section Executions

variable [Zero α] {rig : Rig α} {lines : Lines α} {before : State α} {inverse : Bool}
  (hg : rig.geometry.IsExact)

omit [Zero α] in
/-- The line of reals of an engine that is ready is one row long. -/
theorem Ready.size_realLine (h : rig.Ready inverse before) (hkind : rig.geometry.kind = .real) :
    before.realLine.size = rig.geometry.extent.last := by
  have hroom : (rig.workspace inverse).realLine ≤ before.realLine.size := h.room.2.2
  rw [realLine_workspace, hkind] at hroom
  exact Nat.le_antisymm h.realLine_le hroom

include hg

/-- **A forward transform succeeds**, and leaves the spectrum of what the rows held. -/
theorem executeForward_gives (hforward : rig.GoesForward lines) (hready : rig.Ready false before)
    {host : Array α} (hholds : rig.geometry.scalarRows.Holds before.primary host) :
    ∃ after, Gives rig.executeForward before () after ∧ before.Keeps after ∧
      rig.spectra after = flat (lines.spectrumOf rig.geometry.kind rig.geometry.extent host) := by
  have hpos := rig.geometry.extent.sizes_pos
  have houter : ∀ d ∈ rig.geometry.extent.outer, (rig.library.forward d).RunsIn (lines.forward d) d
      before.line.size before.scratch.size := fun d hd =>
    have hsize := rig.geometry.extent.outer_subset hd
    runsIn_of_mem (hforward.complex d hsize) (hpos d hsize) (mem_plan_outer_forward hd) hready.room
  unfold Lines.spectrumOf Lines.rowSpectra executeForward
  cases hkind : rig.geometry.kind with
  | complex =>
    have hruns : ∀ d ∈ rig.geometry.extent.sizes, (rig.library.forward d).RunsIn (lines.forward d) d
        before.line.size before.scratch.size := fun d hd =>
      runsIn_of_mem (hforward.complex d hd) (hpos d hd) (mem_plan_forward hkind false hd) hready.room
    have hroom : (rig.library.forward rig.geometry.extent.last).scratchOutOfPlace ≤
        before.scratch.size := Nat.le_trans (Nat.le_max_right ..)
      ((workspace_le (mem_plan_forward hkind false rig.geometry.extent.last_mem)).trans
        hready.room).1
    have hhost := hg.size_of_holds hholds
    obtain rfl : before.primary = host := (hg.holds_iff_eq (Geometry.isPadded_of_complex hkind)
      hready.allocated.size_primary hhost).1 hholds
    obtain ⟨after, hgives, hafter⟩ := runComplex_forward "execute_forward" hkind hg
      hready.allocated hruns hroom
    refine ⟨after, (Gives.of_get before).bind ?_, hafter.keeps, hafter.buffer_eq.trans ?_⟩
    · rw [hready.plan_eq, plan_of_complex hkind]
      exact hgives
    · rw [Geometry.complexSizes, hkind]
  | real =>
    obtain ⟨hlength, hplan⟩ := hforward.real hkind
    have hscratch := Nat.le_trans (scratch_spectrum_le hkind) hready.room.1
    obtain ⟨after, hgives, hafter⟩ := runRealForward_gives hkind hg hplan hlength hscratch
      hready.allocated (fun _ => (hforward.real hkind).size_eq) hholds houter
      (hready.size_realLine hkind)
    refine ⟨after, (Gives.of_get before).bind ?_, hafter.keeps, hafter.buffer_eq.trans ?_⟩
    · rw [hready.plan_eq, plan_forward_of_real hkind]
      exact hgives
    · rw [Geometry.complexSizes, hkind]

omit hg

variable [Mul α]

/-- What a scaled inverse transform makes of the elements that an unscaled one leaves. -/
def rescaled (rig : Rig α) (host : Array α) : Array α :=
  match rig.scale with
  | none => host
  | some factor => host.map (· * factor)

omit [Zero α] in
theorem size_rescaled (rig : Rig α) (host : Array α) : (rig.rescaled host).size = host.size := by
  rw [rescaled]
  split
  · rfl
  · exact Array.size_map ..

omit [Zero α] in
/-- A buffer that holds an array holds the scaled array after it was scaled; what pads the rows is
scaled with them. -/
theorem holds_rescaled {rows : Rows} {buffer host : Array α} (h : rows.Holds buffer host) :
    rows.Holds (rig.rescaled buffer) (rig.rescaled host) := by
  rw [rescaled, rescaled]
  cases rig.scale with
  | none => exact h
  | some factor => exact h.map _

omit [Zero α] in
/-- The whole primary buffer is scaled, and nothing else. -/
theorem rescale_gives (before : State α) :
    ∃ after, Gives rig.rescale before () after ∧ before.Keeps after ∧
      after.primary = rig.rescaled before.primary := by
  refine ⟨before.put (rig.rescaled before.primary) .primary, ?_,
    State.keeps_put (size_rescaled ..), rfl⟩
  rw [rescale, rescaled]
  cases rig.scale with
  | none => exact Gives.of_pure ..
  | some factor => exact Gives.of_modify ..

include hg

/-- **An inverse transform succeeds**, and leaves rows that hold what the spectra lead back to. -/
theorem executeInverse_gives (hback : rig.GoesBack lines) (hready : rig.Ready true before) :
    ∃ after, Gives rig.executeInverse before () after ∧ before.Keeps after ∧
      rig.geometry.scalarRows.Holds after.primary (rig.rescaled (lines.signalFrom rig.geometry.kind
        rig.geometry.placement rig.geometry.extent (pairs (rig.spectra before)))) := by
  have hpos := rig.geometry.extent.sizes_pos
  have houter : ∀ d ∈ rig.geometry.extent.outer, (rig.library.inverse d).RunsIn (lines.inverse d) d
      before.line.size before.scratch.size := fun d hd =>
    have hsize := rig.geometry.extent.outer_subset hd
    runsIn_of_mem (hback.complex d hsize) (hpos d hsize) (mem_plan_outer_inverse hd) hready.room
  -- the transform itself leaves rows that hold what is not scaled yet
  suffices hmid : ∃ mid, (∀ after, Gives rig.rescale mid () after →
      Gives rig.executeInverse before () after) ∧ before.Keeps mid ∧
      rig.geometry.scalarRows.Holds mid.primary (lines.signalFrom rig.geometry.kind
        rig.geometry.placement rig.geometry.extent (pairs (rig.spectra before))) by
    obtain ⟨mid, hgives, hkeeps, hholds⟩ := hmid
    obtain ⟨after, hrescale, hscaled, hprimary⟩ := rig.rescale_gives mid
    exact ⟨after, hgives after hrescale, hkeeps.trans hscaled, hprimary ▸ holds_rescaled hholds⟩
  unfold executeInverse
  cases hkind : rig.geometry.kind with
  | complex =>
    have hruns : ∀ d ∈ rig.geometry.extent.sizes, (rig.library.inverse d).RunsIn (lines.inverse d) d
        before.line.size before.scratch.size := fun d hd =>
      runsIn_of_mem (hback.complex d hd) (hpos d hd) (mem_plan_inverse hkind true hd) hready.room
    have hroom : (rig.library.inverse rig.geometry.extent.last).scratchOutOfPlace ≤
        before.scratch.size := Nat.le_trans (Nat.le_max_right ..)
      ((workspace_le (mem_plan_inverse hkind true rig.geometry.extent.last_mem)).trans
        hready.room).1
    obtain ⟨mid, hgives, hmid⟩ := runComplex_back "execute_inverse" hkind hg hready.allocated hruns
      hroom rfl
    refine ⟨mid, fun after hrescale => (Gives.of_get before).bind ?_, hmid.keeps, ?_⟩
    · rw [hready.plan_eq, plan_of_complex hkind]
      exact hgives.bind hrescale
    · have hplain := Geometry.isPadded_of_complex hkind
      have hsize := (hready.allocated.keeps hmid.keeps).size_primary
      have hprimary : mid.primary = _ := hmid.buffer_eq
      exact (hg.holds_iff_eq hplain hsize
        (hprimary ▸ hsize.trans (hg.primaryCount_of_plain hplain))).2 hprimary
  | real =>
    obtain ⟨hlength, hplan⟩ := hback.real hkind
    have hscratch := Nat.le_trans (scratch_signal_le hkind) hready.room.1
    obtain ⟨mid, hgives, hkeeps, hholds⟩ := runRealInverse_gives hkind hg hplan hlength hscratch
      hready.allocated houter (hready.size_realLine hkind)
    rw [Geometry.complexSizes, hkind] at hholds
    refine ⟨mid, fun after hrescale => (Gives.of_get before).bind ?_, hkeeps, hholds⟩
    rw [hready.plan_eq, plan_inverse_of_real hkind]
    exact hgives.bind hrescale

end Executions

end Rig

end SpectralBench.Cpu
