import SpectralBench.Proofs.Cpu.Passes
import SpectralBench.Proofs.Geometry
import SpectralBench.Proofs.Geometry.Rows
import Mathlib.Data.List.Forall2

/-!
# Separation of transforms

Passes along several axes, one after the other, are one sum over all indices at once, in which the
kernels of the axes are multiplied. An index is a list of as many numbers as there are axes, the
outermost first, and the array holds it at its row-major place.

Main statements:

* `rowMajor_lt`, `existsUnique_rowMajor` — every index has its place in the array, and every place
  its index.
* `passes_apply` — passes along the outer axes sum over the indices of those axes.
* `passes_rows` — with rows that were transformed before, they sum over all indices.
-/

namespace SpectralBench.Cpu

/-! ## Indices -/

/-- The place of an index in an array of the given lengths, the last axis contiguous. -/
def rowMajor : List ℕ → List ℕ → ℕ
  | _ :: inner, i :: index => i * Word.product inner + rowMajor inner index
  | _, _ => 0

/-- Whether an index has one number below each of the given lengths. -/
def Within (lengths index : List ℕ) : Prop :=
  List.Forall₂ (· < ·) index lengths

section Indices

variable {lengths index : List ℕ} {d i : ℕ}

theorem Within.length_eq (h : Within lengths index) : index.length = lengths.length :=
  List.Forall₂.length_eq h

theorem rowMajor_lt (h : Within lengths index) : rowMajor lengths index < Word.product lengths := by
  induction h with
  | nil => exact Nat.one_pos
  | cons hi _ ih => exact Rows.place_lt hi ih

/-- Outer axes count blocks of the inner ones. -/
theorem rowMajor_append (h : index.length = lengths.length) (inner rest : List ℕ) :
    rowMajor (lengths ++ inner) (index ++ rest) =
      rowMajor lengths index * Word.product inner + rowMajor inner rest := by
  induction lengths generalizing index with
  | nil =>
    obtain rfl := List.length_eq_zero_iff.1 h
    simp [rowMajor]
  | cons length lengths ih =>
    obtain _ | ⟨first, others⟩ := index
    · cases h
    · rw [List.cons_append, List.cons_append, rowMajor, ih (Nat.succ.inj h), Word.product_append,
        rowMajor]
      ring

theorem rowMajor_concat (h : index.length = lengths.length) (d i : ℕ) :
    rowMajor (lengths ++ [d]) (index ++ [i]) = rowMajor lengths index * d + i := by
  rw [rowMajor_append h]
  simp [rowMajor]

/-- An index along outer and inner axes is made of one along each. -/
theorem Within.exists_append {inner : List ℕ} (h : Within (lengths ++ inner) index) :
    ∃ front back, index = front ++ back ∧ Within lengths front ∧ Within inner back :=
  ⟨index.take lengths.length, index.drop lengths.length, (List.take_append_drop ..).symm,
    List.forall₂_take_append _ _ _ h, List.forall₂_drop_append _ _ _ h⟩

/-- An index within some lengths and one more has a last number. -/
theorem Within.exists_concat (h : Within (lengths ++ [d]) index) :
    ∃ outer i, index = outer ++ [i] ∧ Within lengths outer ∧ i < d := by
  obtain ⟨outer, last, rfl, houter, hlast⟩ := h.exists_append
  obtain _ | ⟨hi, hnil⟩ := hlast
  cases hnil
  exact ⟨outer, _, rfl, houter, hi⟩

/-- Every place of an array is that of exactly one index. -/
theorem existsUnique_rowMajor {place : ℕ} (h : place < Word.product lengths) :
    ∃! index, Within lengths index ∧ rowMajor lengths index = place := by
  induction lengths generalizing place with
  | nil =>
    obtain rfl : place = 0 := Nat.lt_one_iff.1 h
    refine ⟨[], ⟨.nil, rfl⟩, ?_⟩
    rintro index ⟨hindex, -⟩
    cases hindex
    rfl
  | cons d inner ih =>
    have hinner : 0 < Word.product inner := Nat.pos_of_mul_pos_left (Nat.zero_lt_of_lt h)
    obtain ⟨rest, ⟨hrest, hplace⟩, hunique⟩ := ih (Nat.mod_lt place hinner)
    have hfirst : place / Word.product inner < d := Nat.div_lt_of_lt_mul (by rwa [Nat.mul_comm])
    refine ⟨place / Word.product inner :: rest, ⟨.cons hfirst hrest, ?_⟩, ?_⟩
    · rw [rowMajor, hplace, Nat.div_add_mod']
    · rintro index ⟨hindex, rfl⟩
      obtain _ | ⟨hi, hother⟩ := hindex
      -- quotient and remainder of a place are its first number and the place of the others
      have hsmall := rowMajor_lt hother
      rw [rowMajor, Rows.place_div hsmall]
      rw [rowMajor, Rows.place_mod hsmall] at hunique
      rw [hunique _ ⟨hother, rfl⟩]

end Indices

/-! ## Sums over indices -/

section Sums

variable {R : Type} [CommRing R]

/-- The sum over all indices within the given lengths. -/
def sumOver : List ℕ → (List ℕ → R) → R
  | [], f => f []
  | d :: inner, f => ∑ i ∈ Finset.range d, sumOver inner fun index => f (i :: index)

variable {lengths : List ℕ} {f g : List ℕ → R}

theorem sumOver_congr (h : ∀ index, Within lengths index → f index = g index) :
    sumOver lengths f = sumOver lengths g := by
  induction lengths generalizing f g with
  | nil => exact h [] .nil
  | cons d inner ih =>
    refine Finset.sum_congr rfl fun i hi => ih fun index hindex => ?_
    exact h _ (.cons (Finset.mem_range.1 hi) hindex)

theorem sumOver_sum (s : Finset ℕ) (f : ℕ → List ℕ → R) :
    (sumOver lengths fun index => ∑ i ∈ s, f i index) = ∑ i ∈ s, sumOver lengths (f i) := by
  induction lengths generalizing f with
  | nil => rfl
  | cons d inner ih =>
    simp only [sumOver, ih]
    exact Finset.sum_comm

theorem sumOver_concat (lengths : List ℕ) (d : ℕ) (f : List ℕ → R) :
    sumOver (lengths ++ [d]) f =
      sumOver lengths fun index => ∑ i ∈ Finset.range d, f (index ++ [i]) := by
  induction lengths generalizing f with
  | nil => rfl
  | cons length inner ih =>
    rw [List.cons_append, sumOver, sumOver]
    exact Finset.sum_congr rfl fun i _ => ih _

/-- The product of the kernels of all axes. -/
def weight (kernels : ℕ → ℕ → ℕ → R) : List ℕ → List ℕ → List ℕ → R
  | d :: inner, k :: bin, i :: index => kernels d k i * weight kernels inner bin index
  | _, _, _ => 1

theorem weight_concat (kernels : ℕ → ℕ → ℕ → R) {lengths bin index : List ℕ}
    (hbin : bin.length = lengths.length) (hindex : index.length = lengths.length) (d k i : ℕ) :
    weight kernels (lengths ++ [d]) (bin ++ [k]) (index ++ [i]) =
      weight kernels lengths bin index * kernels d k i := by
  induction lengths generalizing bin index with
  | nil =>
    obtain rfl := List.length_eq_zero_iff.1 hbin
    obtain rfl := List.length_eq_zero_iff.1 hindex
    exact mul_comm ..
  | cons length inner ih =>
    obtain _ | ⟨firstBin, bins⟩ := bin
    · cases hbin
    obtain _ | ⟨first, rest⟩ := index
    · cases hindex
    simp only [List.cons_append, weight, ih (Nat.succ.inj hbin) (Nat.succ.inj hindex), mul_assoc]

/-! ## Passes as sums -/

/-- A pass at a place of which block, index and offset are known. -/
theorem pass_apply {d stride k offset : ℕ} (hk : k < d) (hoffset : offset < stride)
    (kernel : ℕ → ℕ → R) (x : ℕ → R) (block : ℕ) :
    pass d stride kernel x ((block * d + k) * stride + offset) =
      ∑ i ∈ Finset.range d, kernel k i * x ((block * d + i) * stride + offset) := by
  have hline : ((block * d + k) * stride + offset) / stride = block * d + k :=
    Rows.place_div hoffset
  have hplace : ((block * d + k) * stride + offset) % stride = offset := Rows.place_mod hoffset
  simp only [pass, onLine, hline, hplace, Rows.place_div hk, Rows.place_mod hk]

/-- Lines of stride one are rows. -/
theorem pass_row {d k : ℕ} (hk : k < d) (kernel : ℕ → ℕ → R) (x : ℕ → R) (row : ℕ) :
    pass d 1 kernel x (row * d + k) = ∑ i ∈ Finset.range d, kernel k i * x (row * d + i) := by
  have hrow := pass_apply hk Nat.one_pos kernel x row
  simpa only [Nat.mul_one, Nat.add_zero] using hrow

/-- Passes along the outer axes sum over the indices of those axes. -/
theorem passes_apply (kernels : ℕ → ℕ → ℕ → R) {width offset : ℕ} (hoffset : offset < width)
    {lengths bin : List ℕ} (hbin : Within lengths bin) (x : ℕ → R) (block : ℕ) :
    passes kernels width lengths x
        ((block * Word.product lengths + rowMajor lengths bin) * width + offset) =
      sumOver lengths fun index => weight kernels lengths bin index *
        x ((block * Word.product lengths + rowMajor lengths index) * width + offset) := by
  -- by induction from the outermost axis: the inner axes see its elements as blocks of their own
  induction hbin generalizing x block with
  | nil => exact (one_mul _).symm
  | @cons k d bin inner hk hbin ih =>
    have hsplit : ∀ i place, (block * (d * Word.product inner) +
        (i * Word.product inner + place)) * width + offset =
          ((block * d + i) * Word.product inner + place) * width + offset := by
      intro i place
      ring
    -- what is inside of one element of the axis is less than its stride
    have hpass : ∀ index, Within inner index →
        pass d (Word.product inner * width) (kernels d) x
            (((block * d + k) * Word.product inner + rowMajor inner index) * width + offset) =
          ∑ i ∈ Finset.range d, kernels d k i *
            x (((block * d + i) * Word.product inner + rowMajor inner index) * width + offset) := by
      intro index hindex
      have hinside : rowMajor inner index * width + offset < Word.product inner * width :=
        Rows.place_lt (rowMajor_lt hindex) hoffset
      have hplace : ∀ i, ((block * d + i) * Word.product inner + rowMajor inner index) * width +
          offset = (block * d + i) * (Word.product inner * width) +
            (rowMajor inner index * width + offset) := by
        intro i
        ring
      simp only [hplace]
      exact pass_apply hk hinside (kernels d) x block
    simp only [passes, Word.product_cons, rowMajor, hsplit, sumOver, weight]
    rw [ih, ← sumOver_sum]
    refine sumOver_congr fun index hindex => ?_
    rw [hpass index hindex, Finset.mul_sum]
    exact Finset.sum_congr rfl fun i _ => by ring

/-- Where the rows hold sums over rows of the input, passes along the outer axes make them sums over
all of it. Transformed rows may have another width than those of the input. -/
theorem passes_rows {kernels : ℕ → ℕ → ℕ → R} {width last : ℕ} {lengths bin : List ℕ} {x y : ℕ → R}
    (hrows : ∀ row < Word.product lengths, ∀ k < width,
      y (row * width + k) = ∑ i ∈ Finset.range last, kernels last k i * x (row * last + i))
    (hbin : Within (lengths ++ [width]) bin) :
    passes kernels width lengths y (rowMajor (lengths ++ [width]) bin) =
      sumOver (lengths ++ [last]) fun index =>
        weight kernels (lengths ++ [last]) bin index * x (rowMajor (lengths ++ [last]) index) := by
  obtain ⟨outer, k, rfl, houter, hk⟩ := hbin.exists_concat
  have hpasses := passes_apply kernels hk houter y 0
  simp only [Nat.zero_mul, Nat.zero_add] at hpasses
  rw [rowMajor_concat houter.length_eq, hpasses, sumOver_concat]
  refine sumOver_congr fun index hindex => ?_
  rw [hrows _ (rowMajor_lt hindex) k hk, Finset.mul_sum]
  refine Finset.sum_congr rfl fun i _ => ?_
  rw [weight_concat kernels houter.length_eq hindex.length_eq, rowMajor_concat hindex.length_eq,
    mul_assoc]

end Sums

end SpectralBench.Cpu
