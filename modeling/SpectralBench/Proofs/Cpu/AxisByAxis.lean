import SpectralBench.Proofs.Cpu.Loops
import SpectralBench.Proofs.Cpu.Separation

/-!
# Transforms axis by axis

What a transform along the leading axes of an array does, whatever is done to a line: axis after axis,
from the outermost one on, every line is replaced by what the transform of that axis makes of it. A
line along an axis is said by indices here, as the elements whose indices differ in the number along
that axis only. No regard is had to how lines are strided, nor to the order in which they are mapped.

The transforms of lines need not be linear. All that is asked of them is that they are functions of
lines of their length, whatever the work buffers hold, and that those have room.

Main statements:

* `AxisPass.of_gives` — the loops along an axis replace every line along it, and meet every position
  once.
* `AxisByAxis.unique` — replacing lines axis by axis has one result.
* `transformOuter_axis_by_axis` — a transform along the leading axes is refused or does just that.
-/

namespace SpectralBench.Cpu

variable {α β : Type}

/-! ## One axis -/

/-- The blocks of an axis, one for each index along the axes outside of it. -/
def blocksOf (shape : List ℕ) (axis : ℕ) : ℕ :=
  Word.product (shape.take axis)

/-- The elements of a line along an axis. -/
def lengthOf (shape : List ℕ) (axis : ℕ) : ℕ :=
  shape.getD axis 0

/-- Positions from one element of a line to the next, one for each index along the inner axes. -/
def strideOf (shape : List ℕ) (axis : ℕ) : ℕ :=
  Word.product (shape.drop (axis + 1))

/-- The line along an axis through an index, the numbers along the other axes being fixed. -/
def lineAlong [Inhabited β] (shape : List ℕ) (axis : ℕ) (data : Array β) (index : List ℕ) : Array β :=
  Array.ofFn fun i : Fin (lengthOf shape axis) =>
    data.getD (rowMajor shape (index.set axis i)) default

/-- Whether every line along an axis was replaced by what a transform makes of it. -/
structure Replaced [Inhabited β] (shape : List ℕ) (axis : ℕ) (f : Array β → Array β)
    (before after : Array β) : Prop where
  size_before : before.size = Word.product shape
  size_after : after.size = Word.product shape
  getElem?_eq : ∀ index, Within shape index →
    after[rowMajor shape index]? = (f (lineAlong shape axis before index))[index.getD axis 0]?

/-- Whether a desk became another one by the loops of a plan along an axis, and those are sound. -/
structure AxisPass [Zero α] (shape : List ℕ) (axis : ℕ) (plan : LinePlan α)
    (f : Array (Complex α) → Array (Complex α)) (before after : Desk α) : Prop where
  /-- The loops over blocks, offsets and elements are carried out to their end. -/
  gives : Gives (transformAxis plan (blocksOf shape axis) (lengthOf shape axis) (strideOf shape axis))
    before () after
  size_line : after.line.size = before.line.size
  size_scratch : after.scratch.size = before.scratch.size
  /-- Blocks, elements of a line and offsets do not lead out of the array. -/
  position_lt : ∀ place : Place,
    place.Inside (blocksOf shape axis) (lengthOf shape axis) (strideOf shape axis) →
      place.position (lengthOf shape axis) (strideOf shape axis) < before.data.size
  /-- They lead to every position exactly once. -/
  existsUnique : ∀ position < before.data.size, ∃! place : Place,
    place.Inside (blocksOf shape axis) (lengthOf shape axis) (strideOf shape axis) ∧
      place.position (lengthOf shape axis) (strideOf shape axis) = position
  /-- When the loops come to a line, this line is still as it was before them. -/
  gathered : ∀ block < blocksOf shape axis, ∀ offset < strideOf shape axis,
    ∃ mid, Gives (do
        transformAxis plan block (lengthOf shape axis) (strideOf shape axis)
        transformBlock plan (lengthOf shape axis) (strideOf shape axis) block offset) before () mid ∧
      lineThrough (lengthOf shape axis) (strideOf shape axis) mid.data ⟨block, 0, offset⟩ =
        lineThrough (lengthOf shape axis) (strideOf shape axis) before.data ⟨block, 0, offset⟩
  replaced : Replaced shape axis f before.data after.data

section Axis

variable [Inhabited β] {outer inner : List ℕ} {length : ℕ} {f : Array β → Array β}
  {before after other : Array β}

theorem blocksOf_append (outer : List ℕ) (length : ℕ) (inner : List ℕ) :
    blocksOf (outer ++ length :: inner) outer.length = Word.product outer := by
  rw [blocksOf, List.take_left]

theorem strideOf_append (outer : List ℕ) (length : ℕ) (inner : List ℕ) :
    strideOf (outer ++ length :: inner) outer.length = Word.product inner := by
  rw [strideOf, ← List.drop_drop, List.drop_left]
  rfl

theorem lengthOf_append (outer : List ℕ) (length : ℕ) (inner : List ℕ) :
    lengthOf (outer ++ length :: inner) outer.length = length := by
  simp [lengthOf]

/-- The number along an axis, and the blocks and offsets that the others make, are the place of an
index. -/
theorem rowMajor_eq_position {front back : List ℕ} (h : front.length = outer.length) (i : ℕ) :
    rowMajor (outer ++ length :: inner) (front ++ i :: back) =
      Place.position length (Word.product inner) ⟨rowMajor outer front, i, rowMajor inner back⟩ := by
  rw [rowMajor_append h, Word.product_cons, rowMajor, Place.position, Nat.add_assoc]

theorem lineAlong_eq {front back : List ℕ} (h : front.length = outer.length) (data : Array β)
    (i : ℕ) :
    lineAlong (outer ++ length :: inner) outer.length data (front ++ i :: back) =
      lineThrough length (Word.product inner) data
        ⟨rowMajor outer front, i, rowMajor inner back⟩ := by
  rw [lineAlong, lineThrough, lengthOf_append]
  congr 1
  funext k
  have hset : (front ++ i :: back).set outer.length k = front ++ k.val :: back := by
    rw [← h]
    simp
  rw [hset, rowMajor_eq_position h]

/-- A sweep replaces every line along its axis. -/
theorem replaced_sweep (hsize : before.size = Word.product (outer ++ length :: inner))
    (hf : ∀ line, line.size = length → (f line).size = length) :
    Replaced (outer ++ length :: inner) outer.length f before
      (sweep (Word.product outer) length (Word.product inner) f before) where
  size_before := hsize
  size_after := (size_sweep ..).trans hsize
  getElem?_eq index hindex := by
    obtain ⟨front, back, rfl, hfront, hback⟩ := hindex.exists_append
    obtain _ | ⟨hi, hback⟩ := hback
    rename_i i back
    rw [Word.product_append, Word.product_cons] at hsize
    have hinside : (⟨rowMajor outer front, i, rowMajor inner back⟩ : Place).Inside
        (Word.product outer) length (Word.product inner) :=
      ⟨rowMajor_lt hfront, hi, rowMajor_lt hback⟩
    -- a transform that keeps the length leaves no element as it was
    have hfull : i < (f (lineThrough length (Word.product inner) before
        ⟨rowMajor outer front, i, rowMajor inner back⟩)).size := by
      rw [hf _ (size_lineThrough ..)]
      exact hi
    have hnumber : (front ++ i :: back).getD outer.length 0 = i := by
      rw [← hfront.length_eq]
      simp
    rw [rowMajor_eq_position hfront.length_eq, lineAlong_eq hfront.length_eq, hnumber,
      getElem?_sweep f hsize hinside, Array.getElem?_eq_getElem hfull, Option.some_or]

/-- What the loops have done when they come to a line is a sweep of the lines before it. -/
theorem exists_gathered {α : Type} [Zero α] {plan : LinePlan α}
    {f : Array (Complex α) → Array (Complex α)} {blocks stride : ℕ} {desk : Desk α}
    (hruns : plan.RunsIn f length desk.line.size desk.scratch.size)
    (hsize : desk.data.size = blocks * (length * stride)) {block offset : ℕ} (hblock : block < blocks)
    (hoffset : offset < stride) :
    ∃ mid, Gives (do
        transformAxis plan block length stride
        transformBlock plan length stride block offset) desk () mid ∧
      lineThrough length stride mid.data ⟨block, 0, offset⟩ =
        lineThrough length stride desk.data ⟨block, 0, offset⟩ := by
  obtain ⟨swept, hfirst, hswept⟩ := transformAxis_leaves hruns hsize hblock.le
  rw [← hswept.size_line, ← hswept.size_scratch] at hruns
  obtain ⟨mid, hsecond, hmid⟩ := transformBlock_leaves hruns
    (by rw [hswept.data_eq, size_sweep, hsize]) hblock hoffset.le
  refine ⟨mid, hfirst.bind hsecond, ?_⟩
  rw [hmid.data_eq, hswept.data_eq]
  exact lineThrough_swept f hsize ⟨block, 0, offset⟩ hblock hoffset

/-- The loops along an axis, in the shape as it is. -/
theorem AxisPass.of_gives {α : Type} [Zero α] {plan : LinePlan α}
    {f : Array (Complex α) → Array (Complex α)} {desk mid : Desk α}
    (hruns : plan.RunsIn f length desk.line.size desk.scratch.size)
    (hsize : desk.data.size = Word.product (outer ++ length :: inner))
    (hgives : Gives (transformAxis plan (Word.product outer) length (Word.product inner)) desk () mid)
    (hmid : desk.Became (sweep (Word.product outer) length (Word.product inner) f desk.data) mid) :
    AxisPass (outer ++ length :: inner) outer.length plan f desk mid := by
  have hreplaced := replaced_sweep hsize fun _ => hruns.size_eq
  rw [← hmid.data_eq] at hreplaced
  rw [Word.product_append, Word.product_cons] at hsize
  refine ⟨?gives, hmid.size_line, hmid.size_scratch, ?position_lt, ?existsUnique, ?gathered,
    hreplaced⟩ <;> simp only [blocksOf_append, strideOf_append, lengthOf_append]
  case gives => exact hgives
  case position_lt =>
    intro place hinside
    rw [hsize]
    exact hinside.position_lt
  case existsUnique =>
    intro position hposition
    exact Place.existsUnique_inside (hsize ▸ hposition)
  case gathered =>
    intro block hblock offset hoffset
    exact exists_gathered hruns hsize hblock hoffset

/-- Replacing the lines along an axis has one result, because every position has an index. -/
theorem Replaced.unique {shape : List ℕ} {axis : ℕ} (h : Replaced shape axis f before after)
    (hother : Replaced shape axis f before other) : other = after := by
  apply Array.ext_getElem?
  intro position
  obtain hposition | hposition := Nat.lt_or_ge position (Word.product shape)
  · obtain ⟨index, ⟨hindex, rfl⟩, -⟩ := existsUnique_rowMajor hposition
    rw [h.getElem?_eq index hindex, hother.getElem?_eq index hindex]
  · rw [Array.getElem?_eq_none (hother.size_after.trans_le hposition),
      Array.getElem?_eq_none (h.size_after.trans_le hposition)]

end Axis

/-! ## One axis after another -/

/-- Whether one state becomes another by a step along each of several axes that follow one another,
one for each transform of lines. -/
inductive AxisByAxis {τ σ : Type} (step : ℕ → τ → σ → σ → Prop) : ℕ → List τ → σ → σ → Prop
  | nil {axis : ℕ} {state : σ} : AxisByAxis step axis [] state state
  | cons {axis : ℕ} {transform : τ} {transforms : List τ} {before mid after : σ}
      (head : step axis transform before mid)
      (tail : AxisByAxis step (axis + 1) transforms mid after) :
      AxisByAxis step axis (transform :: transforms) before after

section Axes

variable [Zero α] {shape rest : List ℕ} {axis line scratch : ℕ} {plans : List (LinePlan α)}
  {fs : List (Array (Complex α) → Array (Complex α))} {before after other : Array (Complex α)}

/-- The loops of a plan along an axis, as a step. -/
def passStep (shape : List ℕ) (axis : ℕ)
    (transform : LinePlan α × (Array (Complex α) → Array (Complex α))) : Desk α → Desk α → Prop :=
  AxisPass shape axis transform.1 transform.2

theorem AxisByAxis.replaced {transforms : List (LinePlan α × (Array (Complex α) → Array (Complex α)))}
    {desk last : Desk α} (h : AxisByAxis (passStep shape) axis transforms desk last) :
    AxisByAxis (Replaced shape) axis (transforms.map (·.2)) desk.data last.data := by
  induction h with
  | nil => exact .nil
  | cons head _ ih => exact .cons head.replaced ih

/-- Replacing lines axis by axis has one result. -/
theorem AxisByAxis.unique (h : AxisByAxis (Replaced shape) axis fs before after)
    (hother : AxisByAxis (Replaced shape) axis fs before other) : other = after := by
  induction h generalizing other with
  | nil =>
    cases hother
    rfl
  | cons head _ ih =>
    obtain _ | ⟨hhead, htail⟩ := hother
    -- both continue with the same array
    obtain rfl := head.unique hhead
    exact ih htail

/-- By induction on the plans: what the axes before have left is transformed along the next one. -/
theorem transformAxes_axis_by_axis (operation : String) (h : Suited line scratch rest plans fs)
    (outer : List ℕ) {desk : Desk α} (hline : desk.line.size = line)
    (hscratch : desk.scratch.size = scratch)
    (hsize : desk.data.size = Word.product (outer ++ rest)) :
    ∃ last, Gives (transformAxes operation (outer ++ rest) outer.length plans) desk () last ∧
      last.line.size = line ∧ last.scratch.size = scratch ∧
      AxisByAxis (passStep (outer ++ rest)) outer.length (plans.zip fs) desk last := by
  induction h generalizing outer desk with
  | nil => exact ⟨desk, rfl, hline, hscratch, .nil⟩
  | @cons d plan f inner plans fs head tail ih =>
    subst hline hscratch
    obtain ⟨mid, hgives, hmid, hrest⟩ := transformAxes_cons operation plans head hsize
    have hpass := AxisPass.of_gives head hsize hgives hmid
    -- the axis that is done is one of the outer ones for those that follow
    have hshape : outer ++ [d] ++ inner = outer ++ d :: inner := by simp
    obtain ⟨last, hlast, hline, hscratch, hpasses⟩ := ih (outer ++ [d]) hmid.size_line
      hmid.size_scratch (by rw [hmid.data_eq, size_sweep, hsize, hshape])
    rw [hshape, List.length_append] at hlast hpasses
    exact ⟨last, hrest.trans hlast, hline, hscratch, .cons hpass hpasses⟩

omit [Zero α] in
theorem Suited.map_zip (h : Suited line scratch shape plans fs) : (plans.zip fs).map (·.2) = fs := by
  induction h with
  | nil => rfl
  | cons _ _ ih => rw [List.zip_cons_cons, List.map_cons, ih]

/-- **Transforms axis by axis.** Without plans an array is left alone, whatever its size. With some of
them, an array that does not have the size of the shape is refused, and is left alone too, as the work
buffers are. Otherwise let there be at most as many plans as axes, let each do some function to lines
of the length of its axis, and let the work buffers have room, with anything in them. Then the
transform succeeds: it runs the loops along axis after axis from the outermost one on, the loops along
each come to every position once and gather lines that they have not touched before, and the array
that is left is the one in which every line along the first axis was replaced, then every line along
the second, and so on. -/
theorem transformOuter_axis_by_axis (operation : String) (shape : List ℕ)
    (plans : List (LinePlan α)) (desk : Desk α) :
    (plans = [] → Gives (transformOuter operation shape plans) desk () desk) ∧
    (plans ≠ [] → desk.data.size ≠ Word.product shape →
      (transformOuter operation shape plans).run.run desk =
        (.error (shapeMismatch operation desk.data.size (Word.product shape)), desk)) ∧
    ∀ fs, desk.data.size = Word.product shape →
      Suited desk.line.size desk.scratch.size shape plans fs →
      ∃ last, Gives (transformOuter operation shape plans) desk () last ∧
        last.line.size = desk.line.size ∧ last.scratch.size = desk.scratch.size ∧
        AxisByAxis (passStep shape) 0 (plans.zip fs) desk last ∧
        ∀ other, AxisByAxis (Replaced shape) 0 fs desk.data other ↔ other = last.data := by
  refine ⟨?_, transformOuter_of_size_ne operation, fun fs hsize hsuited => ?_⟩
  · rintro rfl
    exact transformOuter_nil ..
  · obtain ⟨last, hgives, hline, hscratch, hpasses⟩ :=
      transformAxes_axis_by_axis operation hsuited [] rfl rfl hsize
    have hreplaced := hpasses.replaced
    rw [hsuited.map_zip] at hreplaced
    refine ⟨last, (transformOuter_of_size operation hsize).trans hgives, hline, hscratch, hpasses,
      fun other => ⟨hreplaced.unique, ?_⟩⟩
    rintro rfl
    exact hreplaced

/-- Two blocks of three rows of two numbers, with transforms along the outer axes that are not linear.
The work buffers are longer than they have to be, and not empty. -/
theorem transformOuter_axis_by_axis_box :
    let square (values : Array (Complex ℤ)) : Array (Complex ℤ) :=
      values.mapIdx fun i c => ⟨c.re * c.re + i, c.im⟩
    let plans : List (LinePlan ℤ) := [.ofLines 2 0 0 Array.reverse, .ofLines 3 1 0 square]
    let box (size : ℕ) : Desk ℤ :=
      ⟨Array.ofFn fun i : Fin size => ⟨i, 0⟩, #[⟨7, 7⟩, ⟨7, 7⟩, ⟨7, 7⟩, ⟨7, 7⟩], #[⟨9, 9⟩]⟩
    Gives (transformOuter "execute_forward" [2, 3, 2] []) (box 11) () (box 11) ∧
    (transformOuter "execute_forward" [2, 3, 2] plans).run.run (box 11) =
      (.error (.backend "host" "execute_forward" "buffer holds 11 elements, shape needs 12"),
        box 11) ∧
    ∃ last, Gives (transformOuter "execute_forward" [2, 3, 2] plans) (box 12) () last ∧
      AxisByAxis (passStep [2, 3, 2]) 0 (plans.zip [Array.reverse, square]) (box 12) last ∧
      ∀ other, AxisByAxis (Replaced [2, 3, 2]) 0 [Array.reverse, square] (box 12).data other ↔
        other = last.data := by
  intro square plans box
  have hturned : (LinePlan.ofLines 2 0 0 Array.reverse : LinePlan ℤ).RunsIn Array.reverse 2 4 1 :=
    ⟨by decide, rfl, LinePlan.ofLines_transforms (by decide) fun _ h => Array.size_reverse.trans h,
      by decide, by decide⟩
  have hsquared : (LinePlan.ofLines 3 1 0 square).RunsIn square 3 4 1 :=
    ⟨by decide, rfl, LinePlan.ofLines_transforms (by decide) fun _ h => Array.size_mapIdx.trans h,
      by decide, by decide⟩
  have hsmall := (transformOuter_axis_by_axis "execute_forward" [2, 3, 2] plans (box 11)).2.1
    (List.cons_ne_nil _ _) (by decide)
  have hfailure : shapeMismatch "execute_forward" (box 11).data.size (Word.product [2, 3, 2]) =
      .backend "host" "execute_forward" "buffer holds 11 elements, shape needs 12" := by
    have hsize : (box 11).data.size = 11 := Array.size_ofFn
    rw [hsize]
    rfl
  rw [hfailure] at hsmall
  obtain ⟨last, hgives, -, -, hpasses, hunique⟩ :=
    (transformOuter_axis_by_axis "execute_forward" [2, 3, 2] plans (box 12)).2.2
      [Array.reverse, square] Array.size_ofFn (.cons hturned (.cons hsquared .nil))
  exact ⟨(transformOuter_axis_by_axis _ [2, 3, 2] [] (box 11)).1 rfl, hsmall, last, hgives, hpasses,
    hunique⟩

end Axes

end SpectralBench.Cpu
