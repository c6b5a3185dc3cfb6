import SpectralBench.Cpu.State
import SpectralBench.Proofs.Cpu.Rows
import SpectralBench.Proofs.Geometry
import SpectralBench.Proofs.Geometry.Transfers
import SpectralBench.Proofs.RoundTrip

/-!
# Transfers of whole buffers

After an upload the rows of the primary buffer hold the elements of the host, and a download of a
buffer whose rows hold something gives just that back. What is between the rows does not matter. So
a transform is right when it takes buffers that hold an input to buffers that hold its output, with
and without padding.

Main statements:

* `Rows.holds_iff_rowAt` — what it means to hold a host's elements in rows that are far apart.
* `Geometry.IsExact.scatter_eq_ok`, `Geometry.IsExact.gather_eq_ok` — transfers of a geometry's
  sizes succeed.
* `Geometry.IsExact.holds_iff_eq`, `Geometry.IsExact.holds_iff_rows` — what it means to hold a host's
  elements without padding and with it.
-/

namespace SpectralBench

namespace Rows

variable {α : Type} {rows : Rows} {buffer host : Array α}

/-- Rows that lie `wide` apart are the beginnings of rows of that width. -/
theorem holds_iff_rowAt {wide : Nat} (hwide : rows.width ≤ wide)
    (hpitch : ∀ row < rows.count, row * rows.pitch = row * wide)
    (hhost : host.size = rows.count * rows.width)
    (hfits : ∀ row < rows.count, row * rows.pitch + rows.width ≤ buffer.size) :
    rows.Holds buffer host ↔ ∀ row < rows.count,
      (Cpu.rowAt wide buffer row).extract 0 rows.width = Cpu.rowAt rows.width host row := by
  have hspot : ∀ row < rows.count, ∀ column < rows.width,
      ((Cpu.rowAt wide buffer row).extract 0 rows.width)[column]? =
        buffer[row * rows.pitch + column]? := by
    intro row hrow column hcolumn
    rw [Array.getElem?_extract, hpitch row hrow,
      ← Cpu.getElem?_rowAt buffer row (Nat.lt_of_lt_of_le hcolumn hwide), Nat.zero_add]
    split
    · rfl
    · rw [Array.getElem?_eq_none (by omega)]
  constructor
  · intro h row hrow
    apply Array.ext_getElem?
    intro column
    -- behind the row neither side has anything
    obtain hcolumn | hcolumn := Nat.lt_or_ge column rows.width
    · rw [hspot row hrow column hcolumn, h.getElem?_eq row hrow column hcolumn,
        Cpu.getElem?_rowAt host row hcolumn]
    · have hright := Cpu.size_rowAt_le rows.width host row
      rw [Array.getElem?_eq_none (by rw [Array.size_extract]; omega),
        Array.getElem?_eq_none (by omega)]
  · intro h
    refine ⟨hhost, hfits, fun row hrow column hcolumn => ?_⟩
    rw [← hspot row hrow column hcolumn, h row hrow, Cpu.getElem?_rowAt host row hcolumn]

end Rows

namespace Geometry

open Cpu (rowAt)

variable {α : Type} {g : Geometry} {buffer host : Array α}

/-- The scalars of the primary buffer. -/
def primaryCount (g : Geometry) : Nat :=
  g.dataSize / g.precision.realSize

theorem IsExact.primaryCount_of_padded (hg : g.IsExact) (hpadded : g.isPadded = true) :
    g.primaryCount = Word.product g.extent.outer * (2 * halfLength g.extent.last) := by
  have hkind := kind_of_isPadded hpadded
  have hvalue : g.valueSize = g.precision.realSize := by
    rw [valueSize_eq, hkind]
    exact Nat.one_mul _
  rw [primaryCount, hg.dataSize_eq, if_pos hpadded, hvalue,
    Nat.mul_div_cancel _ (Precision.realSize_pos _), hg.complexCount_of_real hkind,
    Nat.mul_left_comm]

theorem IsExact.primaryCount_of_plain (hg : g.IsExact) (hplain : g.isPadded = false) :
    g.primaryCount = g.scalarCount := by
  rw [primaryCount, hg.dataSize_eq, hplain, if_neg Bool.false_ne_true, ← hg.transferSize_eq,
    scalarCount]

/-- The rows of a transfer, in scalars. -/
def scalarRows (g : Geometry) : Rows :=
  g.transferRows g.precision.realSize

theorem scalarRows_of_plain (hplain : g.isPadded = false) :
    g.scalarRows = ⟨1, g.scalarCount, g.scalarCount⟩ := by
  rw [scalarRows, transferRows, padding?, hplain, if_neg (fun h => Bool.false_ne_true h.1)]
  rfl

/-- Padding makes rows as wide as half spectra. With one axis there is only one row. -/
theorem IsExact.scalarRows_of_padded (hg : g.IsExact) (hpadded : g.isPadded = true) :
    g.scalarRows.count = Word.product g.extent.outer ∧ g.scalarRows.width = g.extent.last ∧
      (∀ row < g.scalarRows.count,
        row * g.scalarRows.pitch = row * (2 * halfLength g.extent.last)) ∧
      g.extent.last ≤ g.scalarRows.pitch := by
  have hunit := Precision.realSize_pos g.precision
  -- with one axis the transfer is not split into rows, which is the same as one row
  obtain hrank | hrank := Nat.lt_or_ge g.extent.rank 2
  · have houter : g.extent.outer = [] := by
      apply List.eq_nil_of_length_eq_zero
      rw [Extent.outer, List.length_dropLast, Extent.sizes, List.length_map]
      exact Nat.sub_eq_zero_of_le (Nat.le_of_lt_succ hrank)
    have hcount : g.scalarCount = g.extent.last := by
      rw [hg.scalarCount_of_real (kind_of_isPadded hpadded), houter]
      exact Nat.one_mul _
    have hrows : g.scalarRows = ⟨1, g.scalarCount, g.scalarCount⟩ := by
      rw [scalarRows, transferRows, padding?, if_neg (fun h => absurd h.2 (Nat.not_le.2 hrank))]
      rfl
    rw [hrows, houter, hcount]
    refine ⟨rfl, rfl, fun row hrow => ?_, Nat.le_refl _⟩
    rw [Nat.lt_one_iff.1 hrow, Nat.zero_mul, Nat.zero_mul]
  · have hrows : g.scalarRows =
        ⟨Word.product g.extent.outer, g.extent.last, 2 * halfLength g.extent.last⟩ := by
      rw [scalarRows, transferRows, padding?, if_pos ⟨hpadded, hrank⟩]
      dsimp only
      rw [rows, hg.count_eq_mul, Nat.mul_div_cancel _ g.extent.last_pos,
        Nat.mul_div_cancel _ hunit, Precision.complexSize, ← Nat.mul_assoc,
        Nat.mul_div_cancel _ hunit, Nat.mul_comm 2]
    rw [hrows]
    exact ⟨rfl, rfl, fun _ _ => rfl, last_le_padded _⟩

/-! ## Transfers -/

/-- The rows lie inside of the primary buffer, and hold a whole transfer. -/
theorem IsExact.scalarRows_fit (hg : g.IsExact) :
    g.scalarRows.width ≤ g.scalarRows.pitch ∧
      g.scalarCount = g.scalarRows.count * g.scalarRows.width ∧
      ∀ row < g.scalarRows.count,
        row * g.scalarRows.pitch + g.scalarRows.width ≤ g.primaryCount :=
  hg.transferRows_fit (Nat.dvd_refl _)

theorem IsExact.scatter_eq_ok (hg : g.IsExact) (hhost : host.size = g.scalarCount)
    (hbuffer : buffer.size = g.primaryCount) :
    ∃ primary, g.scatter g.precision.realSize host buffer = (primary, .ok ()) ∧
      primary.size = g.primaryCount ∧ g.scalarRows.Holds primary host := by
  obtain ⟨hscatter, hholds⟩ := hg.scatter_eq (Nat.dvd_refl _) hhost hbuffer
  exact ⟨_, hscatter, (Rows.size_scatter ..).trans hbuffer, hholds⟩

theorem IsExact.size_of_holds (hg : g.IsExact) (hholds : g.scalarRows.Holds buffer host) :
    host.size = g.scalarCount :=
  hholds.size_eq.trans hg.scalarRows_fit.2.1.symm

/-- The rows of every buffer hold something. -/
theorem IsExact.exists_holds [Zero α] (hg : g.IsExact) (hbuffer : buffer.size = g.primaryCount) :
    ∃ host, g.scalarRows.Holds buffer host := by
  obtain ⟨-, hcount, hfits⟩ := hg.scalarRows_fit
  have hfilled : (Array.replicate g.scalarCount (0 : α)).size =
      g.scalarRows.count * g.scalarRows.width := Array.size_replicate.trans hcount
  exact ⟨_, Rows.holds_gather hfilled (hbuffer ▸ hfits)⟩

theorem IsExact.gather_eq_ok (hg : g.IsExact) (hholds : g.scalarRows.Holds buffer host)
    {before : Array α} (hbefore : before.size = g.scalarCount) :
    g.gather g.precision.realSize buffer before = (host, .ok ()) :=
  hg.gather_eq (Nat.dvd_refl _) hholds hbefore

/-- Without padding, a buffer holds what it is. -/
theorem IsExact.holds_iff_eq (hg : g.IsExact) (hplain : g.isPadded = false)
    (hbuffer : buffer.size = g.primaryCount) (hhost : host.size = g.scalarCount) :
    g.scalarRows.Holds buffer host ↔ buffer = host := by
  rw [scalarRows_of_plain hplain]
  rw [hg.primaryCount_of_plain hplain] at hbuffer
  constructor
  · intro h
    apply Array.ext (hbuffer.trans hhost.symm)
    intro i hi hi'
    -- there is one row, and it is the whole buffer
    have hspot := h.getElem?_eq 0 Nat.one_pos i (hhost ▸ hi')
    rw [Nat.zero_mul, Nat.zero_add, Array.getElem?_eq_getElem hi,
      Array.getElem?_eq_getElem hi'] at hspot
    exact Option.some.inj hspot
  · rintro rfl
    refine ⟨hhost.trans (Nat.one_mul _).symm, fun row hrow => ?_, fun row hrow column _ => ?_⟩
    · exact Nat.le_of_eq (by rw [Nat.lt_one_iff.1 hrow, Nat.zero_mul, Nat.zero_add, hhost])
    · rw [Nat.lt_one_iff.1 hrow, Nat.zero_mul]

/-- With padding, a buffer holds what its padded rows begin with. -/
theorem IsExact.holds_iff_rows (hg : g.IsExact) (hpadded : g.isPadded = true)
    (hbuffer : buffer.size = g.primaryCount) (hhost : host.size = g.scalarCount) :
    g.scalarRows.Holds buffer host ↔ ∀ row < Word.product g.extent.outer,
      (rowAt (2 * halfLength g.extent.last) buffer row).extract 0 g.extent.last =
        rowAt g.extent.last host row := by
  obtain ⟨hcount, hwidth, hpitch, -⟩ := hg.scalarRows_of_padded hpadded
  obtain ⟨-, hwhole, hfits⟩ := hg.scalarRows_fit
  have hwide : g.scalarRows.width ≤ 2 * halfLength g.extent.last := by
    rw [hwidth]
    exact last_le_padded _
  rw [Rows.holds_iff_rowAt hwide hpitch (hhost.trans hwhole) (by rwa [hbuffer]), hcount, hwidth]

end Geometry

end SpectralBench
