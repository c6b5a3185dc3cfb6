import SpectralBench.Cpu.Axis
import Mathlib.Algebra.BigOperators.Pi
import Mathlib.Algebra.BigOperators.Group.Finset.Sigma
import Mathlib.Algebra.BigOperators.Ring.Finset
import Mathlib.Algebra.Module.Pi
import Mathlib.Tactic.Ring

/-!
# Passes along axes

An array with several axes is a function of the position, zero behind its end. A linear transform of
the lines along one axis is a pass over such a function: it leaves the block and the offset of a
position alone and mixes the elements of its line by a kernel.

Passes along different axes commute, because a line of the one meets every line of the other in the
same way; passes along the same axis compose by their kernels. So inverse passes undo forward ones
whatever the order of the axes is, up to the product of their lengths.

Main statements:

* `pass_comm` — passes along different axes commute.
* `pass_pass` — an inverse pass along the same axis leaves a multiple.
* `passes_passes` — inverse passes along several axes leave a multiple.
-/

namespace SpectralBench.Cpu

/-! ## Lines -/

/-- The position of an element of the line through a position. -/
def onLine (length stride position index : ℕ) : ℕ :=
  (position / stride / length * length + index) * stride + position % stride

section Lines

variable {length stride : ℕ}

theorem onLine_div (hstride : 0 < stride) (position index : ℕ) :
    onLine length stride position index / stride = position / stride / length * length + index := by
  rw [onLine, Nat.mul_comm _ stride, Nat.mul_add_div hstride,
    Nat.div_eq_of_lt (Nat.mod_lt position hstride), Nat.add_zero]

theorem onLine_mod (position index : ℕ) :
    onLine length stride position index % stride = position % stride := by
  rw [onLine, Nat.mul_comm _ stride, Nat.mul_add_mod, Nat.mod_mod]

/-- A position is on its own line. -/
theorem onLine_self (position : ℕ) :
    onLine length stride position (position / stride % length) = position := by
  rw [onLine, Nat.div_add_mod', Nat.div_add_mod']

theorem onLine_index (hstride : 0 < stride) (position : ℕ) {index : ℕ} (hindex : index < length) :
    onLine length stride position index / stride % length = index := by
  rw [onLine_div hstride, Nat.mul_comm, Nat.mul_add_mod, Nat.mod_eq_of_lt hindex]

/-- All positions of a line have the same line. -/
theorem onLine_onLine (hstride : 0 < stride) (position : ℕ) {index : ℕ} (hindex : index < length)
    (other : ℕ) :
    onLine length stride (onLine length stride position index) other =
      onLine length stride position other := by
  have hlength : 0 < length := Nat.zero_lt_of_lt hindex
  -- the index of an element does not matter for the block that its line is in
  have hblock : (position / stride / length * length + index) / length =
      position / stride / length := by
    rw [Nat.mul_comm, Nat.mul_add_div hlength, Nat.div_eq_of_lt hindex, Nat.add_zero]
  rw [onLine, onLine_div hstride, onLine_mod, hblock]
  rfl

/-- A line does not leave its block. -/
theorem onLine_lt (hstride : 0 < stride) {bound position index : ℕ}
    (hbound : length * stride ∣ bound) (hposition : position < bound) (hindex : index < length) :
    onLine length stride position index < bound := by
  obtain ⟨count, rfl⟩ := hbound
  have hblock : position / stride / length < count := by
    rw [Nat.div_div_eq_div_mul, Nat.mul_comm stride]
    exact Nat.div_lt_of_lt_mul hposition
  have hoffset := Nat.mod_lt position hstride
  -- the line ends within its block, and the block before the bound
  calc onLine length stride position index
      < (position / stride / length * length + index) * stride + stride := by
        rw [onLine]
        omega
    _ = (position / stride / length * length + (index + 1)) * stride := by ring
    _ ≤ (position / stride / length * length + length) * stride :=
        Nat.mul_le_mul_right _ (Nat.add_le_add_left hindex _)
    _ = (position / stride / length + 1) * (length * stride) := by ring
    _ ≤ count * (length * stride) := Nat.mul_le_mul_right _ hblock
    _ = length * stride * count := Nat.mul_comm _ _

theorem index_add (hstride : 0 < stride) {blocks : ℕ} (hblocks : length * stride ∣ blocks)
    (position : ℕ) :
    (blocks + position) / stride % length = position / stride % length := by
  obtain ⟨count, rfl⟩ := hblocks
  rw [Nat.mul_comm length, Nat.mul_assoc, Nat.mul_add_div hstride, Nat.mul_add_mod]

/-- A position behind whole blocks has its line behind those blocks. -/
theorem onLine_add (hlength : 0 < length) (hstride : 0 < stride) {blocks : ℕ}
    (hblocks : length * stride ∣ blocks) (position index : ℕ) :
    onLine length stride (blocks + position) index =
      blocks + onLine length stride position index := by
  obtain ⟨count, rfl⟩ := hblocks
  have hblock : (length * stride * count + position) / stride / length =
      count + position / stride / length := by
    rw [Nat.mul_comm length, Nat.mul_assoc, Nat.mul_add_div hstride, Nat.mul_add_div hlength]
  have hoffset : (length * stride * count + position) % stride = position % stride := by
    rw [Nat.mul_comm length, Nat.mul_assoc, Nat.mul_add_mod]
  rw [onLine, onLine, hblock, hoffset]
  ring

/-! ## Lines along two axes -/

variable {outer wide : ℕ}

/-- A line along an inner axis stays inside one stride of an outer axis. -/
theorem onLine_eq_add (hlength : 0 < length) (hstride : 0 < stride) (hwide : length * stride ∣ wide)
    (position index : ℕ) :
    onLine length stride position index =
      position / wide * wide + onLine length stride (position % wide) index := by
  -- strides of the outer axis are whole blocks of the inner one
  have hposition := onLine_add hlength hstride (Dvd.dvd.mul_left hwide (position / wide))
    (position % wide) index
  rw [Nat.div_add_mod'] at hposition
  exact hposition

theorem onLine_div_wide (hstride : 0 < stride) (hpos : 0 < wide) (hwide : length * stride ∣ wide)
    (position : ℕ) {index : ℕ} (hindex : index < length) :
    onLine length stride position index / wide = position / wide := by
  have hlt := onLine_lt hstride hwide (Nat.mod_lt position hpos) hindex
  rw [onLine_eq_add (Nat.zero_lt_of_lt hindex) hstride hwide, Nat.mul_comm,
    Nat.mul_add_div hpos, Nat.div_eq_of_lt hlt, Nat.add_zero]

theorem onLine_mod_wide (hstride : 0 < stride) (hpos : 0 < wide) (hwide : length * stride ∣ wide)
    (position : ℕ) {index : ℕ} (hindex : index < length) :
    onLine length stride position index % wide = onLine length stride (position % wide) index := by
  have hlt := onLine_lt hstride hwide (Nat.mod_lt position hpos) hindex
  rw [onLine_eq_add (Nat.zero_lt_of_lt hindex) hstride hwide, Nat.mul_comm, Nat.mul_add_mod,
    Nat.mod_eq_of_lt hlt]

/-- Moving along an outer axis does not change the index along an inner one. -/
theorem index_onLine_wide (hstride : 0 < stride) (hwide : length * stride ∣ wide)
    (position other : ℕ) :
    onLine outer wide position other / stride % length = position / stride % length := by
  have hposition := index_add hstride (Dvd.dvd.mul_left hwide (position / wide)) (position % wide)
  rw [Nat.div_add_mod'] at hposition
  rw [onLine, index_add hstride (Dvd.dvd.mul_left hwide _), hposition]

/-- It does not matter along which axis one moves first. -/
theorem onLine_comm (hstride : 0 < stride) (hpos : 0 < wide) (hwide : length * stride ∣ wide)
    (position : ℕ) {index : ℕ} (hindex : index < length) (other : ℕ) :
    onLine outer wide (onLine length stride position index) other =
      onLine length stride (onLine outer wide position other) index := by
  rw [onLine, onLine_div_wide hstride hpos hwide position hindex,
    onLine_mod_wide hstride hpos hwide position hindex,
    ← onLine_add (Nat.zero_lt_of_lt hindex) hstride (Dvd.dvd.mul_left hwide _)]
  rfl

end Lines

/-! ## Passes -/

section Passes

variable {R : Type} [CommRing R]

/-- Mixes the elements of every line along an axis by a kernel. -/
def pass (length stride : ℕ) (kernel : ℕ → ℕ → R) (x : ℕ → R) (position : ℕ) : R :=
  ∑ i ∈ Finset.range length,
    kernel (position / stride % length) i * x (onLine length stride position i)

variable {length stride outer wide : ℕ} {kernel other : ℕ → ℕ → R}

/-- Passes along different axes commute. -/
theorem pass_comm (hstride : 0 < stride) (hpos : 0 < wide) (hwide : length * stride ∣ wide)
    (x : ℕ → R) :
    pass length stride kernel (pass outer wide other x) =
      pass outer wide other (pass length stride kernel x) := by
  funext position
  -- both sides sum over pairs of indices, and the two moves commute
  calc pass length stride kernel (pass outer wide other x) position
      = ∑ i ∈ Finset.range length, ∑ j ∈ Finset.range outer,
          kernel (position / stride % length) i * (other (position / wide % outer) j *
            x (onLine outer wide (onLine length stride position i) j)) := by
        refine Finset.sum_congr rfl fun i hi => ?_
        rw [pass, Finset.mul_sum,
          onLine_div_wide hstride hpos hwide position (Finset.mem_range.1 hi)]
    _ = ∑ j ∈ Finset.range outer, ∑ i ∈ Finset.range length,
          other (position / wide % outer) j * (kernel (position / stride % length) i *
            x (onLine length stride (onLine outer wide position j) i)) := by
        rw [Finset.sum_comm]
        refine Finset.sum_congr rfl fun j _ => Finset.sum_congr rfl fun i hi => ?_
        rw [onLine_comm hstride hpos hwide position (Finset.mem_range.1 hi)]
        ring
    _ = pass outer wide other (pass length stride kernel x) position := by
        refine Finset.sum_congr rfl fun j _ => ?_
        rw [pass, Finset.mul_sum, index_onLine_wide hstride hwide]

/-- Whether one kernel undoes another up to a factor. -/
def Undoes (length : ℕ) (c : R) (other kernel : ℕ → ℕ → R) : Prop :=
  ∀ k < length, ∀ i < length,
    ∑ j ∈ Finset.range length, other k j * kernel j i = if k = i then c else 0

/-- A pass that undoes another along the same axis leaves a multiple. -/
theorem pass_pass (hlength : 0 < length) (hstride : 0 < stride) {c : R}
    (h : Undoes length c other kernel) (x : ℕ → R) :
    pass length stride other (pass length stride kernel x) = c • x := by
  funext position
  have hindex : position / stride % length < length := Nat.mod_lt _ hlength
  -- the elements of a line have the same line, so the two kernels are multiplied on it
  calc pass length stride other (pass length stride kernel x) position
      = ∑ j ∈ Finset.range length, ∑ i ∈ Finset.range length,
          other (position / stride % length) j * (kernel j i *
            x (onLine length stride position i)) := by
        refine Finset.sum_congr rfl fun j hj => ?_
        have hj := Finset.mem_range.1 hj
        simp only [pass, Finset.mul_sum, onLine_index hstride position hj,
          onLine_onLine hstride position hj]
    _ = ∑ i ∈ Finset.range length,
          (∑ j ∈ Finset.range length, other (position / stride % length) j * kernel j i) *
            x (onLine length stride position i) := by
        rw [Finset.sum_comm]
        refine Finset.sum_congr rfl fun i _ => ?_
        rw [Finset.sum_mul]
        refine Finset.sum_congr rfl fun j _ => ?_
        ring
    -- of the product of the kernels only the diagonal is left
    _ = ∑ i ∈ Finset.range length, if position / stride % length = i then
          c * x (onLine length stride position i) else 0 := by
        refine Finset.sum_congr rfl fun i hi => ?_
        rw [h _ hindex i (Finset.mem_range.1 hi), ite_mul, zero_mul]
    _ = c * x position := by
        rw [Finset.sum_ite_eq, if_pos (Finset.mem_range.2 hindex), onLine_self]
    _ = (c • x) position := rfl

/-- Passes along leading axes of the given lengths, outermost first; `width` elements lie inside. -/
def passes (kernels : ℕ → ℕ → ℕ → R) (width : ℕ) : List ℕ → (ℕ → R) → ℕ → R
  | [], x => x
  | length :: inner, x =>
    passes kernels width inner (pass length (Word.product inner * width) (kernels length) x)

variable {kernels others : ℕ → ℕ → ℕ → R} {width : ℕ} {lengths : List ℕ}

/-- A pass along an axis that is inside of all the others. -/
theorem pass_passes (hstride : 0 < stride) (hpos : ∀ d ∈ lengths, 0 < d) (hwidth : 0 < width)
    (hinner : length * stride ∣ width) (x : ℕ → R) :
    pass length stride kernel (passes kernels width lengths x) =
      passes kernels width lengths (pass length stride kernel x) := by
  induction lengths generalizing x with
  | nil => rfl
  | cons outer inner ih =>
    have hinnerPos : ∀ d ∈ inner, 0 < d := fun d hd => hpos d (List.mem_cons_of_mem outer hd)
    rw [passes, passes, ih hinnerPos,
      pass_comm hstride (Nat.mul_pos (Word.product_pos hinnerPos) hwidth)
        (Dvd.dvd.mul_left hinner _)]

/-- A pass along an axis that is outside of all the others. -/
theorem pass_passes_outer (hpos : ∀ d ∈ lengths, 0 < d) (hwidth : 0 < width) (hwide : 0 < wide)
    (houter : Word.product lengths * width ∣ wide) (x : ℕ → R) :
    pass outer wide other (passes kernels width lengths x) =
      passes kernels width lengths (pass outer wide other x) := by
  induction lengths generalizing x with
  | nil => rfl
  | cons length inner ih =>
    have hinnerPos : ∀ d ∈ inner, 0 < d := fun d hd => hpos d (List.mem_cons_of_mem length hd)
    rw [Word.product_cons, Nat.mul_assoc] at houter
    rw [passes, passes, ih hinnerPos (Dvd.dvd.trans (Dvd.intro_left _ rfl) houter),
      pass_comm (Nat.mul_pos (Word.product_pos hinnerPos) hwidth) hwide houter]

/-- Inverse passes along several axes leave a multiple by the product of the factors. -/
theorem passes_passes (hpos : ∀ d ∈ lengths, 0 < d) (hwidth : 0 < width)
    (h : ∀ d ∈ lengths, Undoes d (d : R) (others d) (kernels d)) (x : ℕ → R) :
    passes others width lengths (passes kernels width lengths x) =
      (Word.product lengths : R) • x := by
  -- by induction from the outermost axis, whose pass back comes first: it commutes with the
  -- passes forward along the inner axes, and meets its own
  induction lengths generalizing x with
  | nil => simp [passes]
  | cons length inner ih =>
    have hlength := hpos length List.mem_cons_self
    have hinnerPos : ∀ d ∈ inner, 0 < d := fun d hd => hpos d (List.mem_cons_of_mem length hd)
    have hstride : 0 < Word.product inner * width := Nat.mul_pos (Word.product_pos hinnerPos) hwidth
    have hinner : ∀ d ∈ inner, Undoes d (d : R) (others d) (kernels d) :=
      fun d hd => h d (List.mem_cons_of_mem length hd)
    rw [passes, passes, pass_passes_outer hinnerPos hwidth hstride dvd_rfl, ih hinnerPos hinner,
      pass_pass hlength hstride (h length List.mem_cons_self), smul_smul, Word.product_cons,
      Nat.cast_mul, mul_comm]

end Passes

end SpectralBench.Cpu
