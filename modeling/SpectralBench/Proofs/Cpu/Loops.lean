import SpectralBench.Proofs.Cpu.Contract
import SpectralBench.Proofs.Cpu.Sweep
import SpectralBench.Proofs.Cpu.Work

/-!
# Loops along axes

A transform along an axis goes through its lines by loops over single elements, and every line passes
through the same buffer. What the buffer and scratch held before a line came has no part in what
becomes of it: the gathering writes all that the plan reads, and the plan all that is written back. So
the loops make of the array what a sweep makes of it, and of the work buffers only the sizes are kept.

Along an axis of the array no index is out of range, so no loop stops.

Main statements:

* `gather_gives`, `runLine_gives`, `scatter_gives` — the three parts of a line.
* `transformLine_leaves`, `transformBlock_leaves`, `transformAxis_leaves` — lines, blocks and axes are
  swept, as far as the loops have come.
* `transformAxes_cons` — the first of several axes is swept, and the others follow.
* `transformOuter_of_size`, `transformOuter_of_size_ne` — what is done and what is refused.
-/

namespace SpectralBench.Cpu

variable {α : Type}

/-- Whether a desk became another one with this array, and with work buffers of the same sizes. -/
structure Desk.Became (before : Desk α) (data : Array (Complex α)) (after : Desk α) : Prop where
  data_eq : after.data = data
  size_line : after.line.size = before.line.size
  size_scratch : after.scratch.size = before.scratch.size

theorem Desk.Became.trans {before mid after : Desk α} {first second : Array (Complex α)}
    (h : before.Became first mid) (hnext : mid.Became second after) : before.Became second after :=
  ⟨hnext.data_eq, hnext.size_line.trans h.size_line, hnext.size_scratch.trans h.size_scratch⟩

/-- Whether work succeeds and leaves this array, and work buffers as large as they were. -/
def Leaves (work : Work (Desk α) Unit) (before : Desk α) (data : Array (Complex α)) : Prop :=
  ∃ after, Gives work before () after ∧ before.Became data after

/-- Whether a plan takes lines of a length, does `f` to them, and finds work buffers of these sizes
large enough. -/
structure LinePlan.RunsIn (plan : LinePlan α) (f : Array (Complex α) → Array (Complex α))
    (d line scratch : ℕ) : Prop where
  pos : 0 < d
  length_eq : plan.length = d
  transforms : plan.Transforms f
  line_le : d ≤ line
  scratch_le : plan.scratchInPlace ≤ scratch

theorem LinePlan.RunsIn.size_eq [Zero α] {plan : LinePlan α}
    {f : Array (Complex α) → Array (Complex α)} {d line scratch : ℕ}
    (h : plan.RunsIn f d line scratch) {values : Array (Complex α)} (hvalues : values.size = d) :
    (f values).size = d := by
  obtain rfl := h.length_eq
  exact h.transforms.size_eq h.pos hvalues

/-! ## One line -/

section Line

variable {length stride : ℕ} {place : Place} {desk : Desk α} {plan : LinePlan α}
  {f : Array (Complex α) → Array (Complex α)}

/-- Whether the first elements of a line are gathered, and nothing else has changed. -/
structure Gathered (length stride : ℕ) (place : Place) (before : Desk α) (count : ℕ)
    (after : Desk α) : Prop where
  data_eq : after.data = before.data
  scratch_eq : after.scratch = before.scratch
  size_line : after.line.size = before.line.size
  getElem?_line : ∀ i < count, after.line[i]? =
    before.data[({ place with index := i } : Place).position length stride]?

theorem Gathered.extract_line [Zero α] {gathered : Desk α}
    (h : Gathered length stride place desk length gathered) (hline : length ≤ desk.line.size)
    (hplaces : ∀ i < length,
      ({ place with index := i } : Place).position length stride < desk.data.size) :
    gathered.line.extract 0 length = lineThrough length stride desk.data place := by
  have hsize := h.size_line
  apply Array.ext_getElem?
  intro i
  obtain hi | hi := Nat.lt_or_ge i length
  · have hfront : (gathered.line.extract 0 length)[i]? = gathered.line[i]? := by
      rw [Array.getElem?_extract, if_pos (by omega), Nat.zero_add]
    rw [hfront, h.getElem?_line i hi, lineThrough, Array.getElem?_ofFn, dif_pos hi,
      Array.getD_eq_getD_getElem?, Array.getElem?_eq_getElem (hplaces i hi)]
    rfl
  · rw [Array.getElem?_eq_none (by rw [Array.size_extract]; omega),
      Array.getElem?_eq_none (by rw [size_lineThrough]; exact hi)]

/-- The line is gathered, over whatever its buffer held. -/
theorem gather_gives (hline : length ≤ desk.line.size)
    (hplaces : ∀ i < length,
      ({ place with index := i } : Place).position length stride < desk.data.size) :
    ∃ gathered, Gives (countUp length (gatherElement length stride place)) desk () gathered ∧
      Gathered length stride place desk length gathered := by
  refine Gives.countUp (Gathered length stride place desk) (fun i hi state h => ?_)
    ⟨rfl, rfl, rfl, fun i hi => absurd hi (Nat.not_lt_zero i)⟩
  -- the element that is due is in the array, and has a place in the line
  obtain ⟨value, hvalue⟩ : ∃ value,
      desk.data[({ place with index := i } : Place).position length stride]? = some value :=
    ⟨_, Array.getElem?_eq_getElem (hplaces i hi)⟩
  have hsize := h.size_line
  refine ⟨{ state with line := state.line.setIfInBounds i value }, Gives.of_act ?_, h.data_eq,
    h.scratch_eq, (Array.size_setIfInBounds ..).trans hsize, fun k hk => ?_⟩
  · simp only [h.data_eq, hvalue]
  · obtain rfl | hne := eq_or_ne i k
    · rw [Array.getElem?_setIfInBounds_self_of_lt (by omega), hvalue]
    · rw [Array.getElem?_setIfInBounds_ne hne]
      exact h.getElem?_line k (by omega)

/-- What the line begins with is transformed, whatever scratch holds. -/
theorem runLine_gives (hruns : plan.RunsIn f length desk.line.size desk.scratch.size) :
    ∃ after, Gives (runLine plan length) desk () after ∧ desk.Became desk.data after ∧
      after.line.extract 0 length = f (desk.line.extract 0 length) := by
  have hlength := hruns.length_eq
  have hfront : min length desk.line.size = length := Nat.min_eq_left hruns.line_le
  have hscratch : plan.scratchInPlace ≤ min plan.scratchInPlace desk.scratch.size :=
    Nat.le_min.2 ⟨Nat.le_refl _, hruns.scratch_le⟩
  obtain ⟨values, scratch, hcall, hresult⟩ := hruns.transforms.inPlace (front length desk.line)
    (front plan.scratchInPlace desk.scratch) (by rw [hfront, hlength])
    (by rw [hfront]; exact hruns.pos) hscratch
  have hvalues : (desk.line.extract 0 length).size = plan.length := by
    rw [Array.size_extract, hlength]
    omega
  rw [toArray_front, mapRows_line (hlength ▸ hruns.pos) hvalues] at hresult
  refine ⟨{ desk with line := putFront values desk.line, scratch := putFront scratch desk.scratch },
    Gives.of_act ?_, ⟨rfl, size_putFront .., size_putFront ..⟩, ?_⟩
  · simp only [hcall]
    rfl
  · rw [← hresult]
    exact extract_append_front ((Vector.size_toArray _).trans hfront)

/-- The line is written back. -/
theorem scatter_gives (hline : length ≤ desk.line.size)
    (hplaces : ∀ i < length,
      ({ place with index := i } : Place).position length stride < desk.data.size) :
    Gives (countUp length (scatterElement length stride place)) desk ()
      { desk with
        data := putLine length stride place (desk.line.extract 0 length) length desk.data } := by
  refine Gives.countUp_states
    (fun i => { desk with
      data := putLine length stride place (desk.line.extract 0 length) i desk.data })
    fun i hi => Gives.of_act ?_
  obtain ⟨value, hvalue⟩ : ∃ value, desk.line[i]? = some value :=
    ⟨_, Array.getElem?_eq_getElem (Nat.lt_of_lt_of_le hi hline)⟩
  have hfront : (desk.line.extract 0 length)[i]? = some value := by
    rw [Array.getElem?_extract, if_pos (by omega), Nat.zero_add, hvalue]
  have hplace := hplaces i hi
  simp only [hvalue, putLine_succ, hfront, size_putLine, if_pos hplace]

/-- A line is transformed in place, and all other lines are left alone. -/
theorem transformLine_leaves [Zero α] (place : Place)
    (hruns : plan.RunsIn f length desk.line.size desk.scratch.size)
    (hplaces : ∀ i < length,
      ({ place with index := i } : Place).position length stride < desk.data.size) :
    Leaves (transformLine plan length stride place) desk
      (mapLine length stride f place desk.data) := by
  obtain ⟨gathered, hgather, hgathered⟩ := gather_gives hruns.line_le hplaces
  have hline := hgathered.extract_line hruns.line_le hplaces
  rw [← hgathered.size_line, ← hgathered.scratch_eq] at hruns
  obtain ⟨mid, hrun, hmid, hmapped⟩ := runLine_gives hruns
  have hscatter := scatter_gives (hmid.size_line ▸ hruns.line_le)
    fun i hi => by
      rw [hmid.data_eq, hgathered.data_eq]
      exact hplaces i hi
  refine ⟨_, hgather.bind (hrun.bind hscatter), ?_, ?_, ?_⟩
  · dsimp only
    rw [hmapped, hline, hmid.data_eq, hgathered.data_eq, mapLine]
  · exact hmid.size_line.trans hgathered.size_line
  · exact hmid.size_scratch.trans (congrArg Array.size hgathered.scratch_eq)

end Line

/-! ## One axis -/

section Axis

variable [Zero α] {blocks length stride block count : ℕ} {desk : Desk α} {plan : LinePlan α}
  {f : Array (Complex α) → Array (Complex α)}
  (hruns : plan.RunsIn f length desk.line.size desk.scratch.size)
  (hsize : desk.data.size = blocks * (length * stride))

include hruns hsize

/-- The first lines of a block, one after another. -/
theorem transformBlock_leaves (hblock : block < blocks) (hcount : count ≤ stride) :
    Leaves (transformBlock plan length stride block count) desk
      (sweepBlock length stride f block count desk.data) := by
  refine Gives.countUp
    (fun offset => desk.Became (sweepBlock length stride f block offset desk.data))
    (fun offset hoffset state h => ?_) ⟨rfl, rfl, rfl⟩
  rw [← h.size_line, ← h.size_scratch] at hruns
  obtain ⟨after, hgives, hafter⟩ := transformLine_leaves ⟨block, 0, offset⟩ hruns
    fun i hi => by
      rw [h.data_eq, size_sweepBlock, hsize]
      exact Place.position_lt _ hblock hi (Nat.lt_of_lt_of_le hoffset hcount)
  refine ⟨after, hgives, h.trans ?_⟩
  rw [sweepBlock, Nat.fold_succ]
  rwa [h.data_eq] at hafter

/-- The first blocks of an axis, one after another. -/
theorem transformAxis_leaves (hcount : count ≤ blocks) :
    Leaves (transformAxis plan count length stride) desk
      (sweep count length stride f desk.data) := by
  refine Gives.countUp (fun block => desk.Became (sweep block length stride f desk.data))
    (fun block hblock state h => ?_) ⟨rfl, rfl, rfl⟩
  rw [← h.size_line, ← h.size_scratch] at hruns
  obtain ⟨after, hgives, hafter⟩ := transformBlock_leaves hruns
    (h.data_eq ▸ (size_sweep ..).trans hsize) (Nat.lt_of_lt_of_le hblock hcount) (Nat.le_refl stride)
  refine ⟨after, hgives, h.trans ?_⟩
  rw [sweep, Nat.fold_succ]
  rwa [h.data_eq] at hafter

end Axis

/-! ## Several axes -/

/-- Whether plans do these functions to the lines along the leading axes of a shape, one for each, and
find work buffers of these sizes large enough. -/
inductive Suited (line scratch : ℕ) :
    List ℕ → List (LinePlan α) → List (Array (Complex α) → Array (Complex α)) → Prop
  | nil {shape : List ℕ} : Suited line scratch shape [] []
  | cons {d : ℕ} {plan : LinePlan α} {f : Array (Complex α) → Array (Complex α)} {shape : List ℕ}
      {plans : List (LinePlan α)} {fs : List (Array (Complex α) → Array (Complex α))}
      (head : plan.RunsIn f d line scratch) (tail : Suited line scratch shape plans fs) :
      Suited line scratch (d :: shape) (plan :: plans) (f :: fs)

theorem Suited.of_forall {plan : ℕ → LinePlan α} {f : ℕ → Array (Complex α) → Array (Complex α)}
    {line scratch : ℕ} {lengths : List ℕ} (h : ∀ d ∈ lengths, (plan d).RunsIn (f d) d line scratch)
    (rest : List ℕ) : Suited line scratch (lengths ++ rest) (lengths.map plan) (lengths.map f) := by
  induction lengths with
  | nil => exact .nil
  | cons d lengths ih =>
    exact .cons (h d List.mem_cons_self) (ih fun e he => h e (List.mem_cons_of_mem d he))

section Axes

variable {desk : Desk α} {plan : LinePlan α} {plans : List (LinePlan α)} {shape : List ℕ}
  (operation : String)

theorem transformOuter_nil (shape : List ℕ) (desk : Desk α) :
    Gives (transformOuter operation shape []) desk () desk :=
  rfl

/-- An array that does not have the shape's size is left alone. -/
theorem transformOuter_of_size_ne (hplans : plans ≠ [])
    (hsize : desk.data.size ≠ Word.product shape) :
    (transformOuter operation shape plans).run.run desk =
      (.error (shapeMismatch operation desk.data.size (Word.product shape)), desk) := by
  rw [transformOuter, List.isEmpty_eq_false_iff.2 hplans, if_neg Bool.false_ne_true,
    (Gives.of_get desk).bind_eq, if_pos hsize]
  rfl

/-- Without plans it makes no difference that the size is not looked at. -/
theorem transformOuter_of_size (hsize : desk.data.size = Word.product shape) :
    (transformOuter operation shape plans).run.run desk =
      (transformAxes operation shape 0 plans).run.run desk := by
  obtain _ | ⟨plan, plans⟩ := plans
  · rfl
  · rw [transformOuter, List.isEmpty_cons, if_neg Bool.false_ne_true, (Gives.of_get desk).bind_eq,
      if_neg (not_not.2 hsize)]

theorem Gives.of_ensureSpace {σ : Type} {available needed : ℕ} (h : needed ≤ available)
    (operation : String) (state : σ) :
    Gives (Cpu.settle (ensureSpace operation available needed)) state () state :=
  .settle (if_pos h) state

/-- The first axis is swept, and the others find what that has left. -/
theorem transformAxes_cons [Zero α] (plans : List (LinePlan α))
    {f : Array (Complex α) → Array (Complex α)} {length : ℕ} {outer inner : List ℕ} (hruns : plan.RunsIn f length desk.line.size desk.scratch.size)
    (hsize : desk.data.size = Word.product (outer ++ length :: inner)) :
    ∃ mid, Gives (transformAxis plan (Word.product outer) length (Word.product inner)) desk () mid ∧
      desk.Became (sweep (Word.product outer) length (Word.product inner) f desk.data) mid ∧
      (transformAxes operation (outer ++ length :: inner) outer.length (plan :: plans)).run.run desk =
        (transformAxes operation (outer ++ length :: inner) (outer.length + 1) plans).run.run mid := by
  rw [Word.product_append, Word.product_cons] at hsize
  obtain ⟨mid, hgives, hmid⟩ := transformAxis_leaves hruns hsize (Nat.le_refl _)
  have hlength : (outer ++ length :: inner)[outer.length]? = some length := by simp
  have hinner : (outer ++ length :: inner).drop (outer.length + 1) = inner := by
    rw [← List.drop_drop, List.drop_left]
    rfl
  refine ⟨mid, hgives, hmid, ?_⟩
  rw [transformAxes, hlength]
  dsimp only
  rw [(Gives.of_get desk).bind_eq, (Gives.of_ensureSpace hruns.line_le operation desk).bind_eq,
    (Gives.of_ensureSpace hruns.scratch_le operation desk).bind_eq, List.take_left, hinner,
    hgives.bind_eq]

end Axes

end SpectralBench.Cpu
