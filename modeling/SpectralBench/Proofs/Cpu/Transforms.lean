import SpectralBench.Proofs.Cpu.Axes
import SpectralBench.Proofs.Cpu.Execution

/-!
# Parts of a transform

A transform is made of work on the contiguous axis and of work along the outer ones. The outer axes
are done on the complex view of one buffer, which is lent to them with the work buffers. Complex rows
are done by one call of a plan; rows of real numbers one by one, each of them read before anything is
written to where it came from.

Each part succeeds on an engine that has buffers and room. What work buffers held before has no part
in what it leaves, and what it leaves where it has read is not known.

Main statements:

* `Rig.outer_gives` — the outer axes of a buffer.
* `Rig.runRows_leaves`, `Rig.runRowsAcross_gives` — complex rows, in place and across.
* `Rig.spectrumInPlace_gives`, `Rig.spectrumAcross_gives`, `Rig.signalInPlace_gives`,
  `Rig.signalAcross_gives` — one row of real numbers.
* `Rig.WorksOnRows.countUp` — a loop over rows: the rows before it are still as they were, those behind
  it are done.
-/

namespace SpectralBench.Cpu

variable {α : Type}

namespace State

variable {side other : Side} {state before after : State α} {buffer : Array α}

/-- Whether a buffer was filled, and everything else has kept its size. -/
structure Fills (side : Side) (buffer : Array α) (before after : State α) : Prop where
  keeps : before.Keeps after
  buffer_eq : after.buffer side = buffer

theorem buffer_put_self (state : State α) (buffer : Array α) (side : Side) :
    (state.put buffer side).buffer side = buffer := by
  cases side <;> rfl

theorem size_buffer_put (hsize : buffer.size = (state.buffer side).size) (other : Side) :
    ((state.put buffer side).buffer other).size = (state.buffer other).size := by
  cases side <;> cases other <;> first | exact hsize | rfl

theorem keeps_put (hsize : buffer.size = (state.buffer side).size) :
    state.Keeps (state.put buffer side) where
  plan_eq := by cases side <;> rfl
  space_eq := by cases side <;> rfl
  size_buffer other := size_buffer_put hsize other

/-- A buffer that keeps its size. -/
theorem Keeps.put (h : before.Keeps after) (side : Side)
    (hsize : buffer.size = (after.buffer side).size) : before.Keeps (after.put buffer side) :=
  h.trans (keeps_put hsize)

/-- Work buffers that keep their sizes. -/
theorem Keeps.work (h : before.Keeps after) {held scratch : Array (Complex α)} {realLine : Array α}
    (hscratch : scratch.size = after.scratch.size) (hline : held.size = after.line.size)
    (hrealLine : realLine.size = after.realLine.size) :
    before.Keeps { after with scratch, line := held, realLine } where
  plan_eq := h.plan_eq
  space_eq := by
    rw [← h.space_eq, space, space, hscratch, hline, hrealLine]
  size_buffer other := (by cases other <;> rfl : _ = _).trans (h.size_buffer other)

theorem buffer_work (state : State α) (held scratch : Array (Complex α)) (realLine : Array α)
    (side : Side) : State.buffer { state with scratch, line := held, realLine } side =
      state.buffer side := by
  cases side <;> rfl

end State

namespace Rig

variable {rig : Rig α} {state before : State α} {side source target : Side} {count : ℕ}
  (operation : String)

theorem complexView_eq_ok {slice : Array α} (hsize : slice.size = 2 * count) :
    complexView operation slice = .ok (pairs slice) :=
  if_pos (by omega)

/-- The room that work has on a buffer of a state. -/
def deskOf (state : State α) (side : Side) : Desk α :=
  ⟨pairs (state.buffer side), state.line, state.scratch⟩

/-- Work on the complex view of a buffer. -/
theorem lend_gives (side : Side) {work : Work (Desk α) Unit} {data : Array (Complex α)}
    (hsize : (state.buffer side).size = 2 * count) (hdata : data.size = count)
    (h : Leaves work (deskOf state side) data) :
    ∃ after, Gives (lend operation side work) state () after ∧
      state.Fills side (flat data) after := by
  obtain ⟨desk, hgives, rfl, hline, hscratch⟩ := h
  have hflat : (flat desk.data).size = (state.buffer side).size := by
    rw [size_flat, hdata, hsize]
  refine ⟨{ state.put (flat desk.data) side with line := desk.line, scratch := desk.scratch },
    Gives.of_act ?_, (State.keeps_put hflat).work ?_ ?_ rfl, ?_⟩
  · have hrun : work.run.run ⟨pairs (state.buffer side), state.line, state.scratch⟩ =
        (.ok (), desk) := hgives
    simp only [complexView_eq_ok operation hsize, hrun]
  · rw [hscratch]
    cases side <;> rfl
  · rw [hline]
    cases side <;> rfl
  · exact (State.buffer_work ..).trans (state.buffer_put_self _ side)

/-! ## The outer axes -/

section Outer

variable [Zero α] {plan : ℕ → LinePlan α} {f : ℕ → Array (Complex α) → Array (Complex α)}
  (hruns : ∀ d ∈ rig.geometry.extent.outer,
    (plan d).RunsIn (f d) d state.line.size state.scratch.size)

include hruns

theorem transformOuter_leaves_outer {data : Array (Complex α)}
    (hdata : data.size = Word.product rig.geometry.complexSizes) {desk : Desk α}
    (hdesk : (deskOf state side).Became data desk) :
    Leaves (transformOuter operation rig.geometry.complexSizes (rig.geometry.extent.outer.map plan))
      desk (alongAxes rig.geometry.complexSizes (rig.geometry.extent.outer.map f) data) := by
  have hline : desk.line.size = state.line.size := hdesk.size_line
  have hscratch : desk.scratch.size = state.scratch.size := hdesk.size_scratch
  rw [← hline, ← hscratch] at hruns
  have hsuited := Suited.of_forall hruns [if rig.geometry.kind.isReal then
    halfLength rig.geometry.extent.last else rig.geometry.extent.last]
  rw [← Extent.complexSizes_eq, ← Geometry.complexSizes] at hsuited
  have hleaves := transformOuter_leaves operation hsuited (by rw [hdesk.data_eq, hdata])
  rwa [hdesk.data_eq] at hleaves

/-- The outer axes of a buffer are transformed one after another. -/
theorem outer_gives (side : Side)
    (hsize : (state.buffer side).size = 2 * Word.product rig.geometry.complexSizes) :
    ∃ after, Gives (lend operation side
        (transformOuter operation rig.geometry.complexSizes (rig.geometry.extent.outer.map plan)))
        state () after ∧
      state.Fills side (flat (alongAxes rig.geometry.complexSizes (rig.geometry.extent.outer.map f)
        (pairs (state.buffer side)))) after := by
  have hdata : (pairs (state.buffer side)).size = Word.product rig.geometry.complexSizes := by
    rw [size_pairs, hsize, Nat.mul_div_cancel_left _ Nat.two_pos]
  exact lend_gives operation side hsize ((size_alongAxes ..).trans hdata)
    (transformOuter_leaves_outer operation hruns hdata ⟨rfl, rfl, rfl⟩)

end Outer

/-! ## Complex rows -/

section Complex

variable {plan : LinePlan α} {f : Array (Complex α) → Array (Complex α)} {d : ℕ}

/-- Complex rows are transformed over themselves by one call. -/
theorem runRows_leaves (desk : Desk α)
    (hruns : plan.RunsIn f d desk.line.size desk.scratch.size)
    (hcount : 0 < count) (hsize : desk.data.size = count * d) :
    Leaves (runRows operation plan) desk (mapRows d f desk.data) := by
  obtain rfl := hruns.length_eq
  obtain ⟨data, scratch, hcall, hresult⟩ := hruns.transforms.inPlace desk.data.toVector
    (front plan.scratchInPlace desk.scratch) (hsize ▸ Nat.dvd_mul_left ..)
    (hsize ▸ Nat.mul_pos hcount hruns.pos) (Nat.le_min.2 ⟨Nat.le_refl _, hruns.scratch_le⟩)
  have hroom : ensureSpace operation desk.scratch.size plan.scratchInPlace = .ok () :=
    if_pos hruns.scratch_le
  refine ⟨{ desk with data := data.toArray, scratch := putFront scratch desk.scratch },
    Gives.of_act ?_, hresult, rfl, size_putFront ..⟩
  simp only [hroom, hcall]
  rfl

/-- Complex rows of one buffer are transformed into the other one by one call. -/
theorem runRowsAcross_gives (source target : Side) (hplan : plan.Transforms f)
    (hlength : plan.length = d) (hd : 0 < d)
    (hroom : plan.scratchOutOfPlace ≤ state.scratch.size) (hcount : 0 < count)
    (hsource : (state.buffer source).size = 2 * (count * d))
    (htarget : (state.buffer target).size = 2 * (count * d)) :
    ∃ after, Gives (runRowsAcross operation plan source target) state () after ∧
      state.Fills target (flat (mapRows d f (pairs (state.buffer source)))) after := by
  subst hlength
  have hpairs {side : Side} (hside : (state.buffer side).size = 2 * (count * plan.length)) :
      (pairs (state.buffer side)).size = count * plan.length := by
    rw [size_pairs, hside, Nat.mul_div_cancel_left _ Nat.two_pos]
  have hinput := hpairs hsource
  obtain ⟨input, output, scratch, hcall, hresult⟩ := hplan.outOfPlace
    (pairs (state.buffer source)).toVector (pairs (state.buffer target)).toVector
    (front plan.scratchOutOfPlace state.scratch) (hinput ▸ Nat.dvd_mul_left ..)
    (hinput ▸ Nat.mul_pos hcount hd) (hinput.trans (hpairs htarget).symm)
    (Nat.le_min.2 ⟨Nat.le_refl _, hroom⟩)
  -- both buffers are written back as large as they were
  have hflat {side : Side} (hside : (state.buffer side).size = 2 * (count * plan.length))
      (view : Vector (Complex α) (pairs (state.buffer side)).size) :
      (flat view.toArray).size = (state.buffer side).size := by
    rw [size_flat, Vector.size_toArray, hpairs hside, hside]
  have hfirst := State.keeps_put (hflat hsource input)
  have hsecond := State.keeps_put ((hflat htarget output).trans (hfirst.size_buffer target).symm)
  have hkeeps := hfirst.trans hsecond
  refine ⟨{ (state.put (flat input.toArray) source).put (flat output.toArray) target with
      scratch := putFront scratch state.scratch }, Gives.of_act ?_,
    hkeeps.work ((size_putFront ..).trans hkeeps.size_scratch.symm) rfl rfl, ?_⟩
  · have hviews : ensureSpace operation state.scratch.size plan.scratchOutOfPlace = .ok () :=
      if_pos hroom
    simp only [complexView_eq_ok operation hsource, complexView_eq_ok operation htarget, hviews]
    simp only [bind, Except.bind, pure, Except.pure, hcall]
    rfl
  · rw [State.buffer_work, State.buffer_put_self, hresult]

end Complex

/-! ## Rows of real numbers -/

/-- Whether work on a row has written to no other row, neither of the buffer that it reads nor of the
one that it is for. -/
structure KeepsToRow (source target : Side) (width wide row : ℕ) (before after : State α) : Prop where
  keeps : before.Keeps after
  source : AgreeBut width row (before.buffer source) (after.buffer source)
  target : AgreeBut wide row (before.buffer target) (after.buffer target)

/-- Whether work on each of some rows keeps to that row and makes something of it, if the row is still
as it was before. -/
def WorksOnRows (source target : Side) (width wide : ℕ) (post : ℕ → Array α → Prop)
    (body : ℕ → Action α Unit) (count : ℕ) (before : State α) : Prop :=
  ∀ row < count, ∀ state, before.Keeps state →
    rowAt width (state.buffer source) row = rowAt width (before.buffer source) row →
    ∃ next, Gives (body row) state () next ∧ KeepsToRow source target width wide row state next ∧
      post row (rowAt wide (next.buffer target) row)

/-- A loop over rows finds each row as it was before the loop, and leaves each as work on it has left
it. By counting how many rows are done, with those before the loop still the same. -/
theorem WorksOnRows.countUp {body : ℕ → Action α Unit} {width wide : ℕ} {post : ℕ → Array α → Prop}
    (hbody : WorksOnRows source target width wide post body count before) :
    ∃ after, Gives (countUp count body) before () after ∧ before.Keeps after ∧
      ∀ row < count, post row (rowAt wide (after.buffer target) row) := by
  let invariant (done : ℕ) (state : State α) : Prop := before.Keeps state ∧
    (∀ row, done ≤ row →
      rowAt width (state.buffer source) row = rowAt width (before.buffer source) row) ∧
    ∀ row < done, post row (rowAt wide (state.buffer target) row)
  have hnext : ∀ done < count, ∀ state, invariant done state →
      ∃ next, Gives (body done) state () next ∧ invariant (done + 1) next := by
    rintro done hcount state ⟨hkeeps, hsame, hdone⟩
    obtain ⟨next, hgives, hrow, hpost⟩ := hbody done hcount state hkeeps (hsame done (Nat.le_refl _))
    refine ⟨next, hgives, hkeeps.trans hrow.keeps, fun row hlater => ?_, fun row hearlier => ?_⟩
    · rw [hrow.source row (Nat.ne_of_gt hlater), hsame row (Nat.le_of_succ_le hlater)]
    · obtain rfl | hne := eq_or_ne row done
      · exact hpost
      · rw [hrow.target row hne]
        exact hdone row (by omega)
  obtain ⟨after, hgives, hkeeps, -, hdone⟩ := Gives.countUp invariant hnext
    ⟨.refl before, fun _ _ => rfl, fun row hrow => absurd hrow (Nat.not_lt_zero row)⟩
  exact ⟨after, hgives, hkeeps, hdone⟩

section Real

variable {row : ℕ}

theorem paddedWidth_pos (rig : Rig α) : 0 < rig.paddedWidth :=
  Nat.mul_pos Nat.two_pos (halfLength_pos _)

/-- A padded row has room for a half spectrum. -/
theorem size_view (rig : Rig α) {data : Array α} (hsize : data.size = count * rig.paddedWidth)
    (hrow : row < count) :
    (rowAt rig.paddedWidth data row).size = 2 * halfLength rig.geometry.extent.last ∧
      (pairs (rowAt rig.paddedWidth data row)).size = halfLength rig.geometry.extent.last := by
  have hwidth := size_rowAt hsize hrow
  refine ⟨hwidth, ?_⟩
  rw [size_pairs, hwidth, paddedWidth, Nat.mul_div_cancel_left _ Nat.two_pos]

/-- A half spectrum fills a padded row. -/
theorem size_flat_half (rig : Rig α) {n : ℕ} (half : Vector (Complex α) n)
    (hn : n = halfLength rig.geometry.extent.last) :
    (flat half.toArray).size = rig.paddedWidth := by
  rw [size_flat, Vector.size_toArray, hn, paddedWidth]

/-- The numbers that a padded row begins with. -/
def numbersOf (rig : Rig α) (state : State α) (row : ℕ) : Array α :=
  (rowAt rig.paddedWidth state.primary row).extract 0 rig.geometry.extent.last

theorem size_numbersOf (rig : Rig α) (hsize : state.primary.size = count * rig.paddedWidth)
    (hrow : row < count) : (rig.numbersOf state row).size = rig.geometry.extent.last := by
  have hlast := last_le_padded rig.geometry.extent.last
  rw [numbersOf, Array.size_extract, (rig.size_view hsize hrow).1]
  omega

theorem rowToLine_gives (rig : Rig α)
    (hline : state.realLine.size = (rig.numbersOf state row).size) :
    Gives (rig.rowToLine row) state () { state with realLine := rig.numbersOf state row } := by
  have hcopied : copied state.realLine (rig.numbersOf state row) = .ok (rig.numbersOf state row) :=
    if_pos hline
  refine Gives.of_act ?_
  rw [numbersOf] at hcopied
  simp only [hcopied, numbersOf]

/-- The line takes the place of the numbers, and what follows them in the row is kept. -/
theorem lineToRow_gives (rig : Rig α)
    (hline : (rig.numbersOf state row).size = state.realLine.size) :
    Gives (rig.lineToRow row) state ()
      { state with primary := putRow rig.paddedWidth row state.realLine state.primary } := by
  have hcopied : copied (rig.numbersOf state row) state.realLine = .ok state.realLine := if_pos hline
  refine Gives.of_act ?_
  rw [numbersOf] at hcopied
  simp only [hcopied]

theorem row_le {width : ℕ} {data : Array α} (hsize : data.size = count * width)
    (hrow : row < count) : (row + 1) * width ≤ data.size :=
  hsize ▸ Nat.mul_le_mul_right width hrow

section Spectrum

variable {plan : SpectrumPlan α} {f : Array α → Array (Complex α)} (hplan : plan.Transforms f)
  (hlength : plan.length = rig.geometry.extent.last) (hroom : plan.scratch ≤ state.scratch.size)
  (hrow : row < count)

include hplan hlength hroom hrow

/-- What a padded row begins with becomes its half spectrum. -/
theorem spectrumInPlace_gives (hline : state.realLine.size = rig.geometry.extent.last)
    (hsize : state.primary.size = count * rig.paddedWidth) :
    ∃ next, Gives (rig.spectrumInPlace operation plan row) state () next ∧
      KeepsToRow .primary .primary rig.paddedWidth rig.paddedWidth row state next ∧
      rowAt rig.paddedWidth next.primary row = flat (f (rig.numbersOf state row)) := by
  obtain ⟨hwidth, hview⟩ := rig.size_view hsize hrow
  have hnumbers := rig.size_numbersOf hsize hrow
  obtain ⟨input, half, scratch, hcall, hhalf⟩ := hplan.process (rig.numbersOf state row).toVector
    (pairs (rowAt rig.paddedWidth state.primary row)).toVector (front plan.scratch state.scratch)
    (hnumbers.trans hlength.symm) (by rw [hlength, hview]) (Nat.le_min.2 ⟨Nat.le_refl _, hroom⟩)
  have hvalues := rig.size_flat_half half hview
  let next : State α := { state with
    realLine := input.toArray
    primary := putRow rig.paddedWidth row (flat half.toArray) state.primary
    scratch := putFront scratch state.scratch }
  have hkeeps : state.Keeps
      (state.put (putRow rig.paddedWidth row (flat half.toArray) state.primary) .primary) :=
    State.keeps_put (size_putRow ..)
  have hagree : AgreeBut rig.paddedWidth row state.primary next.primary :=
    .putRow (Nat.le_of_eq hvalues)
  refine ⟨next, (rig.rowToLine_gives (hline.trans hnumbers.symm)).bind (Gives.of_act ?_),
    ⟨hkeeps.work (size_putFront ..) rfl ?_, hagree, hagree⟩, ?_⟩
  · simp only [complexView_eq_ok operation hwidth, hcall]
    rfl
  · exact (Vector.size_toArray _).trans (hnumbers.trans hline.symm)
  · rw [← hhalf]
    exact rowAt_putRow_self hvalues (row_le hsize hrow)

/-- A row becomes its half spectrum in the other buffer. -/
theorem spectrumAcross_gives (hsource : state.primary.size = count * rig.geometry.extent.last)
    (htarget : state.secondary.size = count * rig.paddedWidth) :
    ∃ next, Gives (rig.spectrumAcross operation plan row) state () next ∧
      KeepsToRow .primary .secondary rig.geometry.extent.last rig.paddedWidth row state next ∧
      rowAt rig.paddedWidth next.secondary row =
        flat (f (rowAt rig.geometry.extent.last state.primary row)) := by
  obtain ⟨-, hview⟩ := rig.size_view htarget hrow
  have hnumbers := size_rowAt hsource hrow
  obtain ⟨input, half, scratch, hcall, hhalf⟩ := hplan.process
    (rowAt rig.geometry.extent.last state.primary row).toVector
    (pairs (rowAt rig.paddedWidth state.secondary row)).toVector (front plan.scratch state.scratch)
    (hnumbers.trans hlength.symm) (by rw [hlength, hview]) (Nat.le_min.2 ⟨Nat.le_refl _, hroom⟩)
  have hvalues := rig.size_flat_half half hview
  have hinput : input.toArray.size = rig.geometry.extent.last :=
    (Vector.size_toArray _).trans hnumbers
  let next : State α := { state with
    primary := putRow rig.geometry.extent.last row input.toArray state.primary
    secondary := putRow rig.paddedWidth row (flat half.toArray) state.secondary
    scratch := putFront scratch state.scratch }
  refine ⟨next, Gives.of_act ?_, ⟨⟨rfl, ?_, fun side => ?_⟩, .putRow (Nat.le_of_eq hinput),
    .putRow (Nat.le_of_eq hvalues)⟩, ?_⟩
  · simp only [hcall]
    rfl
  · simp only [State.space, next, size_putFront]
  · cases side <;> exact size_putRow ..
  · rw [← hhalf]
    exact rowAt_putRow_self hvalues (row_le htarget hrow)

end Spectrum

section Signal

variable [Zero α] {plan : SignalPlan α} {f : Array (Complex α) → Array α} (hplan : plan.Transforms f)
  (hlength : plan.length = rig.geometry.extent.last) (hroom : plan.scratch ≤ state.scratch.size)
  (hrow : row < count)

include hplan hlength hroom hrow

/-- The half spectrum in a padded row becomes the numbers that the row begins with. -/
theorem signalInPlace_gives (hline : state.realLine.size = rig.geometry.extent.last)
    (hsize : state.primary.size = count * rig.paddedWidth) :
    ∃ next, Gives (rig.signalInPlace operation plan row) state () next ∧
      KeepsToRow .primary .primary rig.paddedWidth rig.paddedWidth row state next ∧
      rig.numbersOf next row = f (clearEdges rig.geometry.extent.last
        (pairs (rowAt rig.paddedWidth state.primary row))) := by
  obtain ⟨hwidth, hview⟩ := rig.size_view hsize hrow
  have hhalf := (size_clearEdges rig.geometry.extent.last _).trans hview
  obtain ⟨half, numbers, scratch, hcall, hnumbers⟩ := hplan.process
    (clearEdges rig.geometry.extent.last (pairs (rowAt rig.paddedWidth state.primary row))).toVector
    state.realLine.toVector (front plan.scratch state.scratch) (by rw [hlength, hhalf])
    (hline.trans hlength.symm) (Nat.le_min.2 ⟨Nat.le_refl _, hroom⟩)
    (hlength.symm ▸ edgesClear_clearEdges hview)
  have hvalues := rig.size_flat_half half hhalf
  have hlast : numbers.toArray.size = rig.geometry.extent.last :=
    (Vector.size_toArray _).trans hline
  -- the row is written twice: by the plan, whatever it leaves, and then by the numbers
  let mid : State α := { state with
    realLine := numbers.toArray
    primary := putRow rig.paddedWidth row (flat half.toArray) state.primary
    scratch := putFront scratch state.scratch }
  let next : State α := { mid with primary := putRow rig.paddedWidth row mid.realLine mid.primary }
  have hmid : mid.primary.size = count * rig.paddedWidth := (size_putRow ..).trans hsize
  have hkeeps : state.Keeps (state.put next.primary .primary) :=
    State.keeps_put ((size_putRow ..).trans (hmid.trans hsize.symm))
  have hagree : AgreeBut rig.paddedWidth row state.primary next.primary :=
    .trans (.putRow (Nat.le_of_eq hvalues))
      (.putRow (hlast.trans_le (last_le_padded rig.geometry.extent.last)))
  refine ⟨next, Gives.bind (b := ()) (Gives.of_act ?_)
    (rig.lineToRow_gives ((rig.size_numbersOf hmid hrow).trans hlast.symm)),
    ⟨hkeeps.work (size_putFront ..) rfl (hlast.trans hline.symm), hagree, hagree⟩, ?_⟩
  · simp only [complexView_eq_ok operation hwidth, hcall]
    rfl
  · refine (extract_rowAt_putRow hlast (last_le_padded _) (row_le hmid hrow)).trans hnumbers

/-- The half spectrum in a row of the other buffer becomes a row of numbers. -/
theorem signalAcross_gives (hsource : state.secondary.size = count * rig.paddedWidth)
    (htarget : state.primary.size = count * rig.geometry.extent.last) :
    ∃ next, Gives (rig.signalAcross operation plan row) state () next ∧
      KeepsToRow .secondary .primary rig.paddedWidth rig.geometry.extent.last row state next ∧
      rowAt rig.geometry.extent.last next.primary row = f (clearEdges rig.geometry.extent.last
        (pairs (rowAt rig.paddedWidth state.secondary row))) := by
  obtain ⟨-, hview⟩ := rig.size_view hsource hrow
  have hhalf := (size_clearEdges rig.geometry.extent.last _).trans hview
  have hwidth := size_rowAt htarget hrow
  obtain ⟨half, numbers, scratch, hcall, hnumbers⟩ := hplan.process
    (clearEdges rig.geometry.extent.last (pairs (rowAt rig.paddedWidth state.secondary row))).toVector
    (rowAt rig.geometry.extent.last state.primary row).toVector (front plan.scratch state.scratch)
    (by rw [hlength, hhalf]) (hwidth.trans hlength.symm) (Nat.le_min.2 ⟨Nat.le_refl _, hroom⟩)
    (hlength.symm ▸ edgesClear_clearEdges hview)
  have hvalues := rig.size_flat_half half hhalf
  have hlast : numbers.toArray.size = rig.geometry.extent.last :=
    (Vector.size_toArray _).trans hwidth
  let next : State α := { state with
    primary := putRow rig.geometry.extent.last row numbers.toArray state.primary
    secondary := putRow rig.paddedWidth row (flat half.toArray) state.secondary
    scratch := putFront scratch state.scratch }
  refine ⟨next, Gives.of_act ?_, ⟨⟨rfl, ?_, fun side => ?_⟩, .putRow (Nat.le_of_eq hvalues),
    .putRow (Nat.le_of_eq hlast)⟩, ?_⟩
  · simp only [hcall]
    rfl
  · simp only [State.space, next, size_putFront]
  · cases side <;> exact size_putRow ..
  · exact (rowAt_putRow_self hlast (row_le htarget hrow)).trans hnumbers

end Signal

end Real

end Rig

end SpectralBench.Cpu
