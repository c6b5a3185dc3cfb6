import SpectralBench.Geometry

/-!
# What a geometry knows

A geometry exists only when all of its sizes fit, so each of them is the product that it stands for.

Main statements:

* `Geometry.IsExact.transferSize_le` — a transfer fits into the primary buffer.
* `Configuration.isExact_of_geometry` — what is known of the geometry of a configuration.
-/

namespace SpectralBench

theorem Word.product_append (counts more : List Nat) :
    product (counts ++ more) = product counts * product more := by
  induction counts with
  | nil => exact (Nat.one_mul _).symm
  | cons d rest ih => rw [List.cons_append, product_cons, product_cons, ih, Nat.mul_assoc]

theorem Word.product_concat (counts : List Nat) (d : Nat) :
    product (counts ++ [d]) = product counts * d := by
  rw [product_append, product_cons, product_nil, Nat.mul_one]

theorem Precision.complexSize_pos (precision : Precision) : 0 < precision.complexSize :=
  Nat.mul_pos Nat.two_pos precision.realSize_pos

theorem Precision.valueSize_pos (precision : Precision) (kind : Kind) :
    0 < precision.valueSize kind := by
  cases kind with
  | real => exact precision.realSize_pos
  | complex => exact precision.complexSize_pos

/-- A half spectrum has its first entry, even that of a line of length zero or one. -/
theorem halfLength_pos (last : Nat) : 0 < halfLength last :=
  Nat.succ_pos _

/-- A half spectrum takes at least the room of its numbers. -/
theorem last_le_padded (last : Nat) : last ≤ 2 * halfLength last := by
  rw [halfLength]
  omega

namespace Extent

theorem sizes_pos (e : Extent) : ∀ d ∈ e.sizes, 0 < d := by
  intro d hd
  obtain ⟨word, hword, rfl⟩ := List.mem_map.1 hd
  exact e.dims_pos word hword

theorem outer_subset (e : Extent) : e.outer ⊆ e.sizes :=
  (List.dropLast_sublist _).subset

theorem outer_pos (e : Extent) : ∀ d ∈ e.outer, 0 < d :=
  fun d hd => e.sizes_pos d (e.outer_subset hd)

theorem last_mem (e : Extent) : e.last ∈ e.sizes := by
  rw [← e.outer_append_last]
  exact List.mem_append_right _ List.mem_cons_self

theorem complexSizes_pos (e : Extent) (kind : Kind) : ∀ d ∈ e.complexSizes kind, 0 < d := by
  intro d hd
  cases kind with
  | complex => exact e.sizes_pos d hd
  | real =>
    obtain hd | hd := List.mem_append.1 hd
    · exact e.outer_pos d hd
    · rw [List.mem_singleton.1 hd]
      exact Nat.succ_pos _

end Extent

/-- Whether each size of a geometry is the product that it stands for. -/
structure Geometry.IsExact (g : Geometry) : Prop where
  count_eq : g.count = Word.product g.extent.sizes
  complexCount_eq : g.complexCount = Word.product g.complexSizes
  /-- Padded rows hold as many real numbers as their half spectra. -/
  dataSize_eq : g.dataSize = (if g.isPadded then 2 * g.complexCount else g.count) * g.valueSize
  complexBufferSize_eq : g.complexBufferSize =
    if g.placement.isInPlace then 0 else g.complexCount * g.precision.complexSize
  transferSize_eq : g.transferSize = g.count * g.valueSize

namespace Geometry

variable {g : Geometry}

/-- The elements are as many rows as the outer axes have places, each as long as the last axis. -/
theorem IsExact.count_eq_mul (hg : g.IsExact) :
    g.count = Word.product g.extent.outer * g.extent.last := by
  rw [hg.count_eq, ← Extent.outer_append_last, Word.product_concat]

/-- A real transform halves the last axis of its spectrum and no other. -/
theorem complexSizes_of_real (hreal : g.kind = .real) :
    g.complexSizes = g.extent.outer ++ [halfLength g.extent.last] := by
  rw [complexSizes, hreal, Extent.complexSizes]

/-- The spectrum of a real transform has as many rows as the input, each half as long. -/
theorem IsExact.complexCount_of_real (hg : g.IsExact) (hreal : g.kind = .real) :
    g.complexCount = Word.product g.extent.outer * halfLength g.extent.last := by
  rw [hg.complexCount_eq, complexSizes_of_real hreal, Word.product_concat]

/-- A complex element has two scalars. -/
theorem valueSize_eq (g : Geometry) :
    g.valueSize = (if g.kind.isReal then 1 else 2) * g.precision.realSize := by
  rw [valueSize, Precision.valueSize, Precision.complexSize]
  split
  · rw [Nat.one_mul]
  · rfl

theorem isPadded_of_inPlace (hreal : g.kind = .real) (hplace : g.placement = .inPlace) :
    g.isPadded = true := by
  rw [isPadded, hreal, hplace]
  rfl

theorem isPadded_of_outOfPlace (hplace : g.placement = .outOfPlace) : g.isPadded = false := by
  rw [isPadded, hplace]
  exact Bool.and_false _

theorem isPadded_of_complex (hcomplex : g.kind = .complex) : g.isPadded = false := by
  rw [isPadded, hcomplex]
  rfl

/-- Only real transforms pad their rows. -/
theorem kind_of_isPadded (hpadded : g.isPadded = true) : g.kind = .real := by
  cases h : g.kind with
  | real => rfl
  | complex => exact absurd hpadded (Bool.eq_false_iff.1 (isPadded_of_complex h))

theorem IsExact.count_pos (hg : g.IsExact) : 0 < g.count := by
  rw [hg.count_eq]
  exact Word.product_pos g.extent.sizes_pos

theorem IsExact.complexCount_pos (hg : g.IsExact) : 0 < g.complexCount := by
  rw [hg.complexCount_eq]
  exact Word.product_pos (g.extent.complexSizes_pos g.kind)

/-- A transfer fits into the primary buffer, with room to spare where rows are padded. -/
theorem IsExact.transferSize_le (hg : g.IsExact) : g.transferSize ≤ g.dataSize := by
  rw [hg.transferSize_eq, hg.dataSize_eq]
  refine Nat.mul_le_mul_right _ ?_
  split
  · rename_i hpadded
    rw [hg.count_eq_mul, hg.complexCount_of_real (kind_of_isPadded hpadded), Nat.mul_left_comm]
    exact Nat.mul_le_mul_left _ (last_le_padded _)
  · exact Nat.le_refl _

end Geometry

namespace Configuration

variable {c : Configuration} {g : Geometry}

/-- A quantity that was found fits. -/
theorem eq_of_fitted {quantity : String} {found : Option Nat} {n : Nat}
    (h : c.fitted quantity found = .ok n) : found = some n := by
  cases found with
  | none => cases h
  | some value =>
    cases h
    rfl

theorem eq_of_fitted_mul {quantity : String} {a b n : Nat}
    (h : c.fitted quantity (Word.mul? a b) = .ok n) : n = a * b :=
  (Word.mul?_eq_some_iff.1 (eq_of_fitted h)).2

theorem eq_of_fitted_product {quantity : String} {counts : List Nat} {n : Nat}
    (hpos : ∀ d ∈ counts, 0 < d) (h : c.fitted quantity (Word.product? counts) = .ok n) :
    n = Word.product counts :=
  ((Word.product?_eq_some_iff hpos).1 (eq_of_fitted h)).2

/-- In place, a real transform has room for its spectrum; otherwise there is one element for each of
the extent. -/
theorem eq_of_dataCount {count complexCount n : Nat} (h : c.dataCount count complexCount = .ok n) :
    n = if c.kind.isReal && c.placement.isInPlace then 2 * complexCount else count := by
  unfold dataCount at h
  -- only the padded data of a real transform in place has another count
  cases hkind : c.kind <;> cases hplacement : c.placement <;> rw [hkind, hplacement] at h
  · rw [eq_of_fitted_mul h, Nat.mul_comm]
    rfl
  all_goals cases h; rfl

/-- The second buffer holds the spectrum, and in place there is none. -/
theorem eq_of_secondarySize {complexCount n : Nat} (h : c.secondarySize complexCount = .ok n) :
    n = if c.placement.isInPlace then 0 else complexCount * c.precision.complexSize := by
  unfold secondarySize at h
  cases hplacement : c.placement <;> rw [hplacement] at h
  · cases h
    rfl
  · exact eq_of_fitted_mul h

/-- A part of a computation that succeeded did so itself. -/
theorem bind_eq_ok {α β : Type} {first : Except Failure α} {next : α → Except Failure β} {b : β}
    (h : first >>= next = .ok b) : ∃ a, first = .ok a ∧ next a = .ok b := by
  cases first with
  | error failure => cases h
  | ok a => exact ⟨a, rfl, h⟩

theorem bind_ok {α β : Type} (a : α) (next : α → Except Failure β) :
    (Except.ok a >>= next) = next a :=
  rfl

/-- A computation that failed did so in one of its parts. -/
theorem bind_eq_error {α β : Type} {first : Except Failure α} {next : α → Except Failure β}
    {failure : Failure} (h : first >>= next = .error failure) :
    first = .error failure ∨ ∃ a, first = .ok a ∧ next a = .error failure := by
  cases first with
  | error _ =>
    cases h
    exact .inl rfl
  | ok a => exact .inr ⟨a, rfl, h⟩

/-- A geometry is that of its configuration, and exact. -/
theorem isExact_of_geometry (h : c.geometry = .ok g) : g.configuration = c ∧ g.IsExact := by
  -- each quantity was computed from those before it, and fitted
  obtain ⟨count, hcount, h⟩ := bind_eq_ok h
  obtain ⟨complexCount, hcomplexCount, h⟩ := bind_eq_ok h
  obtain ⟨dataCount, hdataCount, h⟩ := bind_eq_ok h
  obtain ⟨dataSize, hdataSize, h⟩ := bind_eq_ok h
  obtain ⟨complexBufferSize, hcomplexBufferSize, h⟩ := bind_eq_ok h
  obtain ⟨transferSize, htransferSize, h⟩ := bind_eq_ok h
  -- what is left is to read each of them as a product
  cases h
  refine ⟨rfl, ?_, ?_, ?_, eq_of_secondarySize hcomplexBufferSize, eq_of_fitted_mul htransferSize⟩
  · exact eq_of_fitted_product c.extent.sizes_pos hcount
  · exact eq_of_fitted_product (c.extent.complexSizes_pos c.kind) hcomplexCount
  · rw [eq_of_fitted_mul hdataSize, eq_of_dataCount hdataCount]
    rfl

end Configuration

end SpectralBench
