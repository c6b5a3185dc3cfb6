import SpectralBench.Proofs.Geometry
import Mathlib.Algebra.BigOperators.Group.List.Basic
import Mathlib.Algebra.Order.Ring.Nat

/-!
# When sizes fit

The sizes of a configuration are given once more over all natural numbers, as plain products. The
geometry of a configuration exists exactly when each of them is a 64-bit word, and then it is made of
them. There is no configuration whose sizes fit but whose geometry is refused on the way: lengths are
positive, so no partial product is larger than the whole.

Main statements:

* `Configuration.geometry_of_fits` — sizes that fit are found.
* `Configuration.eq_unbounded_of_geometry` — sizes that are found are exact.
* `Configuration.overflows_of_geometry` — nothing but an overflow is ever reported.
* `Configuration.geometry_iff_fits` — all of this about a configuration.
-/

namespace SpectralBench

/-- The lengths of the axes in the transform domain, of which only the last can differ. -/
def Configuration.spectrumLengths (c : Configuration) : List ℕ :=
  c.extent.sizes.dropLast ++ [if c.kind = .real then c.extent.last / 2 + 1 else c.extent.last]

/-- The sizes of a configuration over all natural numbers. -/
def Configuration.unbounded (c : Configuration) : Geometry where
  configuration := c
  count := c.extent.sizes.prod
  complexCount := c.spectrumLengths.prod
  dataSize :=
    (if c.kind = .real ∧ c.placement = .inPlace then 2 * c.spectrumLengths.prod
      else c.extent.sizes.prod) * c.precision.valueSize c.kind
  complexBufferSize :=
    if c.placement = .inPlace then 0 else c.spectrumLengths.prod * c.precision.complexSize
  transferSize := c.extent.sizes.prod * c.precision.valueSize c.kind

/-- Whether every size is a 64-bit word. -/
structure Geometry.Fits (g : Geometry) : Prop where
  count_lt : g.count < 2 ^ 64
  complexCount_lt : g.complexCount < 2 ^ 64
  dataSize_lt : g.dataSize < 2 ^ 64
  complexBufferSize_lt : g.complexBufferSize < 2 ^ 64
  transferSize_lt : g.transferSize < 2 ^ 64

/-! ## Products -/

/-- The product of a shape is the product of whole numbers. -/
theorem Word.product_eq_prod (counts : List ℕ) : product counts = counts.prod :=
  rfl

/-- The product of some of the first factors is at most the product of all of them. -/
theorem Word.prod_take_le {counts : List ℕ} (hpos : ∀ d ∈ counts, 0 < d) (k : ℕ) :
    (counts.take k).prod ≤ counts.prod := by
  have hrest : 0 < (counts.drop k).prod := product_pos fun d hd => hpos d (List.mem_of_mem_drop hd)
  calc (counts.take k).prod
      ≤ (counts.take k).prod * (counts.drop k).prod := Nat.le_mul_of_pos_right _ hrest
    _ = counts.prod := List.prod_take_mul_prod_drop counts k

namespace Configuration

variable {c : Configuration} {g : Geometry}

/-- The axes of a spectrum, as the program halves them and as the formula does. -/
theorem spectrumLengths_eq (c : Configuration) : c.spectrumLengths = c.extent.complexSizes c.kind := by
  rw [Extent.complexSizes_eq, spectrumLengths, Extent.outer]
  cases c.kind <;> rfl

theorem spectrumLengths_pos (c : Configuration) : ∀ d ∈ c.spectrumLengths, 0 < d := by
  rw [spectrumLengths_eq]
  exact c.extent.complexSizes_pos c.kind

theorem isPadded_iff (hconfiguration : g.configuration = c) :
    g.isPadded = true ↔ c.kind = .real ∧ c.placement = .inPlace := by
  subst hconfiguration
  rw [Geometry.isPadded, Geometry.kind, Geometry.placement]
  cases g.configuration.kind <;> cases g.configuration.placement <;> decide

theorem isInPlace_iff (c : Configuration) : c.placement.isInPlace = true ↔ c.placement = .inPlace := by
  cases c.placement <;> decide

/-! ## Sizes that are found -/

/-- A geometry whose numbers are exact is the one that unbounded numbers give. -/
theorem eq_unbounded (hconfiguration : g.configuration = c) (hg : g.IsExact) : g = c.unbounded := by
  have hcount : g.count = c.extent.sizes.prod := by
    rw [hg.count_eq, Word.product_eq_prod, Geometry.extent, hconfiguration]
  have hcomplexCount : g.complexCount = c.spectrumLengths.prod := by
    rw [hg.complexCount_eq, Word.product_eq_prod, spectrumLengths_eq, Geometry.complexSizes,
      Geometry.extent, Geometry.kind, hconfiguration]
  have hvalue : g.valueSize = c.precision.valueSize c.kind := by
    rw [Geometry.valueSize, Geometry.precision, Geometry.kind, hconfiguration]
  have hdata := hg.dataSize_eq
  have hbuffer := hg.complexBufferSize_eq
  have htransfer := hg.transferSize_eq
  simp only [isPadded_iff hconfiguration, hcount, hcomplexCount, hvalue] at hdata
  simp only [Geometry.placement, Geometry.precision, hconfiguration, isInPlace_iff,
    hcomplexCount] at hbuffer
  rw [hcount, hvalue] at htransfer
  obtain ⟨_, _, _, _, _, _⟩ := g
  simp only at hconfiguration hcount hcomplexCount hdata hbuffer htransfer
  rw [unbounded, hconfiguration, hcount, hcomplexCount, hdata, hbuffer, htransfer]

/-- What the program computes is what unbounded numbers give. -/
theorem eq_unbounded_of_geometry (h : c.geometry = .ok g) : g = c.unbounded := by
  obtain ⟨hconfiguration, hg⟩ := isExact_of_geometry h
  exact eq_unbounded hconfiguration hg

/-- Out of place there is always something to hold in the second buffer. -/
theorem complexBufferSize_eq_zero_iff (hg : g.IsExact) :
    g.complexBufferSize = 0 ↔ g.placement = .inPlace := by
  have hbytes : 0 < g.complexCount * g.precision.complexSize :=
    Nat.mul_pos hg.complexCount_pos g.precision.complexSize_pos
  rw [hg.complexBufferSize_eq]
  cases hplacement : g.placement with
  | inPlace => exact ⟨fun _ => rfl, fun _ => rfl⟩
  | outOfPlace => exact ⟨fun h => absurd h hbytes.ne', fun h => nomatch h⟩

theorem lt_of_fitted_mul {quantity : String} {a b n : ℕ}
    (h : c.fitted quantity (Word.mul? a b) = .ok n) : n < 2 ^ 64 := by
  obtain ⟨hlt, rfl⟩ := Word.mul?_eq_some_iff.1 (eq_of_fitted h)
  exact hlt

theorem lt_of_fitted_product {quantity : String} {counts : List ℕ} {n : ℕ}
    (hpos : ∀ d ∈ counts, 0 < d) (h : c.fitted quantity (Word.product? counts) = .ok n) :
    n < 2 ^ 64 := by
  obtain ⟨hlt, rfl⟩ := (Word.product?_eq_some_iff hpos).1 (eq_of_fitted h)
  exact hlt

theorem lt_of_secondarySize {complexCount n : ℕ} (h : c.secondarySize complexCount = .ok n) :
    n < 2 ^ 64 := by
  unfold secondarySize at h
  split at h
  · cases h
    exact Nat.two_pow_pos 64
  · exact lt_of_fitted_mul h

/-- Where the program finds a geometry, every number of it is a word. -/
theorem fits_of_geometry (h : c.geometry = .ok g) : g.Fits := by
  obtain ⟨count, hcount, h⟩ := bind_eq_ok h
  obtain ⟨complexCount, hcomplexCount, h⟩ := bind_eq_ok h
  obtain ⟨_, _, h⟩ := bind_eq_ok h
  obtain ⟨dataSize, hdataSize, h⟩ := bind_eq_ok h
  obtain ⟨complexBufferSize, hcomplexBufferSize, h⟩ := bind_eq_ok h
  obtain ⟨transferSize, htransferSize, h⟩ := bind_eq_ok h
  cases h
  exact ⟨lt_of_fitted_product c.extent.sizes_pos hcount,
    lt_of_fitted_product (c.extent.complexSizes_pos c.kind) hcomplexCount,
    lt_of_fitted_mul hdataSize, lt_of_secondarySize hcomplexBufferSize,
    lt_of_fitted_mul htransferSize⟩

/-! ## Sizes that fit -/

theorem fitted_mul {a b : ℕ} (h : a * b < 2 ^ 64) (quantity : String) :
    c.fitted quantity (Word.mul? a b) = .ok (a * b) := by
  rw [Word.mul?_eq_some_iff.2 ⟨h, rfl⟩, fitted]

theorem fitted_product {counts : List ℕ} (hpos : ∀ d ∈ counts, 0 < d) (h : counts.prod < 2 ^ 64)
    (quantity : String) : c.fitted quantity (Word.product? counts) = .ok counts.prod := by
  rw [(Word.product?_eq_some_iff hpos).2 ⟨h, rfl⟩, fitted]
  rfl

/-- Padded rows have no more elements than the buffer has bytes. -/
theorem padded_of_fits (h : c.unbounded.Fits) (hpadded : c.kind = .real ∧ c.placement = .inPlace) :
    2 * c.spectrumLengths.prod < 2 ^ 64 := by
  have hdata := h.dataSize_lt
  rw [unbounded, if_pos hpadded] at hdata
  exact Nat.lt_of_le_of_lt (Nat.le_mul_of_pos_right _ (c.precision.valueSize_pos c.kind)) hdata

/-- If every number is a word, the elements of the data buffer are counted. -/
theorem dataCount_of_fits (h : c.unbounded.Fits) :
    c.dataCount c.extent.sizes.prod c.spectrumLengths.prod =
      .ok (if c.kind = .real ∧ c.placement = .inPlace then 2 * c.spectrumLengths.prod
        else c.extent.sizes.prod) := by
  unfold dataCount
  cases hkind : c.kind <;> cases hplacement : c.placement
  case real.inPlace =>
    have hpadded := padded_of_fits h ⟨hkind, hplacement⟩
    rw [Nat.mul_comm] at hpadded
    rw [fitted_mul hpadded, Nat.mul_comm]
    rfl
  all_goals rfl

/-- If every number is a word, the second buffer is measured. -/
theorem secondarySize_of_fits (h : c.unbounded.Fits) :
    c.secondarySize c.spectrumLengths.prod =
      .ok (if c.placement = .inPlace then 0
        else c.spectrumLengths.prod * c.precision.complexSize) := by
  have hbuffer := h.complexBufferSize_lt
  unfold secondarySize
  rw [unbounded] at hbuffer
  cases hplacement : c.placement with
  | inPlace => rfl
  | outOfPlace =>
    simp only [hplacement] at hbuffer
    rw [fitted_mul hbuffer]
    rfl

/-- If every number is a word, the program finds the geometry. -/
theorem geometry_of_fits (h : c.unbounded.Fits) : c.geometry = .ok c.unbounded := by
  have hcount := fitted_product (c := c) c.extent.sizes_pos h.count_lt "element count"
  have hcomplexCount := fitted_product (c := c) c.spectrumLengths_pos h.complexCount_lt "element count"
  have hdata := fitted_mul (c := c) h.dataSize_lt "data size"
  have htransfer := fitted_mul (c := c) h.transferSize_lt "transfer size"
  -- each quantity is found from those before it
  simp only [geometry, ← spectrumLengths_eq, hcount, hcomplexCount, bind_ok, dataCount_of_fits h]
  rw [hdata, bind_ok, secondarySize_of_fits h, bind_ok, htransfer, bind_ok]
  rfl

/-! ## Sizes that do not fit -/

/-- The failure of a quantity that is no word. -/
def Overflows (c : Configuration) (failure : Failure) : Prop :=
  ∃ quantity, failure = .invalidExtent c.extent.sizes (Extent.Defect.overflow quantity).message

/-- A quantity that is not found is one that does not fit, and it is named. -/
theorem Overflows.of_fitted {quantity : String} {found : Option ℕ} {failure : Failure}
    (h : c.fitted quantity found = .error failure) : c.Overflows failure := by
  cases found with
  | none =>
    cases h
    exact ⟨quantity, rfl⟩
  | some value => cases h

theorem Overflows.of_dataCount {count complexCount : ℕ} {failure : Failure}
    (h : c.dataCount count complexCount = .error failure) : c.Overflows failure := by
  unfold dataCount at h
  split at h
  · exact .of_fitted h
  · cases h

theorem Overflows.of_secondarySize {complexCount : ℕ} {failure : Failure}
    (h : c.secondarySize complexCount = .error failure) : c.Overflows failure := by
  unfold secondarySize at h
  split at h
  · cases h
  · exact .of_fitted h

/-- Nothing else keeps a configuration from having a geometry. -/
theorem overflows_of_geometry {failure : Failure} (h : c.geometry = .error failure) :
    c.Overflows failure := by
  -- whichever quantity was the first not to be found, its failure is that of the whole
  obtain hcount | ⟨_, _, h⟩ := bind_eq_error h
  · exact .of_fitted hcount
  obtain hcomplexCount | ⟨_, _, h⟩ := bind_eq_error h
  · exact .of_fitted hcomplexCount
  obtain hdataCount | ⟨_, _, h⟩ := bind_eq_error h
  · exact .of_dataCount hdataCount
  obtain hdataSize | ⟨_, _, h⟩ := bind_eq_error h
  · exact .of_fitted hdataSize
  obtain hbuffer | ⟨_, _, h⟩ := bind_eq_error h
  · exact .of_secondarySize hbuffer
  obtain htransfer | ⟨_, _, h⟩ := bind_eq_error h
  · exact .of_fitted htransfer
  · cases h

/-! ## Both together -/

/-- An overflow ends the run. -/
theorem Overflows.severity {failure : Failure} (h : c.Overflows failure) :
    failure.severity = .abort := by
  obtain ⟨quantity, rfl⟩ := h
  rfl

/-- **Sizes up to 64 bits.** A configuration has a geometry exactly when its sizes are words, and then
the geometry is made of them: half spectra change the last length only, wide indices are for buffers
of four gibibytes and more, there is no second buffer exactly in place, and a transfer fits into the
primary one. A configuration whose sizes are not all words is refused for good, with its lengths.
Where they are, so is every number that is multiplied on the way to them. -/
theorem geometry_iff_fits (c : Configuration) :
    ((∃ g, c.geometry = .ok g) ↔ c.unbounded.Fits) ∧
      (∀ g, c.geometry = .ok g →
        g = c.unbounded ∧ g.complexSizes = c.spectrumLengths ∧
        (g.isWide = true ↔ 2 ^ 32 ≤ g.dataSize ∨ 2 ^ 32 ≤ g.complexBufferSize) ∧
        (g.complexBufferSize = 0 ↔ c.placement = .inPlace) ∧ g.transferSize ≤ g.dataSize) ∧
      (¬c.unbounded.Fits → ∃ failure, c.geometry = .error failure ∧ c.Overflows failure ∧
        failure.severity = .abort) ∧
      (c.unbounded.Fits →
        (∀ k, (c.extent.sizes.take k).prod < 2 ^ 64 ∧ (c.spectrumLengths.take k).prod < 2 ^ 64) ∧
        (c.kind = .real ∧ c.placement = .inPlace → 2 * c.spectrumLengths.prod < 2 ^ 64)) := by
  refine ⟨⟨fun ⟨g, h⟩ => ?_, fun h => ⟨_, geometry_of_fits h⟩⟩, fun g h => ?_, fun h => ?_,
    fun h => ⟨fun k => ⟨?_, ?_⟩, padded_of_fits h⟩⟩
  · exact eq_unbounded_of_geometry h ▸ fits_of_geometry h
  · obtain ⟨hconfiguration, hg⟩ := isExact_of_geometry h
    refine ⟨eq_unbounded hconfiguration hg, ?_, ?_, ?_, hg.transferSize_le⟩
    · rw [spectrumLengths_eq, Geometry.complexSizes, Geometry.extent, Geometry.kind, hconfiguration]
    · rw [Geometry.isWide, Bool.or_eq_true, decide_eq_true_iff, decide_eq_true_iff]
      rfl
    · rw [complexBufferSize_eq_zero_iff hg, Geometry.placement, hconfiguration]
  · cases hgeometry : c.geometry with
    | ok g => exact absurd (eq_unbounded_of_geometry hgeometry ▸ fits_of_geometry hgeometry) h
    | error failure =>
      have hoverflows := overflows_of_geometry hgeometry
      exact ⟨failure, rfl, hoverflows, hoverflows.severity⟩
  · exact Nat.lt_of_le_of_lt (Word.prod_take_le c.extent.sizes_pos k) h.count_lt
  · exact Nat.lt_of_le_of_lt (Word.prod_take_le c.spectrumLengths_pos k) h.complexCount_lt

end Configuration

end SpectralBench
