import SpectralBench.Proofs.Geometry.Exactness
import SpectralBench.Proofs.Geometry.Rows
import Mathlib.Tactic.Ring

/-!
# Transfers of a geometry

The rows of a transfer follow from the sizes of a geometry: they hold as many elements as a transfer
moves, and they lie inside of the primary buffer. So no transfer of these sizes fails, and what goes
up comes down again. Between padded rows there is room that no transfer touches.

Elements are of any size that divides that of a scalar, so that all of this is known of bytes and of
scalars alike.

Main statements:

* `Geometry.IsExact.rows_of_padding` — padded rows take up a transfer and the buffer exactly.
* `Geometry.IsExact.transferRows_fit` — the rows hold a transfer, and fit.
* `Geometry.IsExact.scatter_eq`, `Geometry.IsExact.gather_eq` — transfers succeed.
* `Configuration.transfer_inverts` — what goes up comes down, and the padding is left alone.
-/

namespace SpectralBench

namespace Geometry

variable {g : Geometry} {rows : Rows}

/-! ## The rows of a transfer -/

theorem padding?_eq_some_iff :
    g.padding? = some rows ↔ (g.isPadded = true ∧ 2 ≤ g.extent.rank) ∧
      rows = ⟨g.rows, g.extent.last * g.precision.realSize,
        halfLength g.extent.last * g.precision.complexSize⟩ := by
  rw [padding?]
  split
  · rename_i hpadded
    simp only [hpadded, Option.some.injEq, true_and, and_true, eq_comm]
  · rename_i hplain
    simp only [hplain, false_and, reduceCtorEq]

/-- Padded rows hold what a transfer moves, fill the buffer, and have room between them. -/
theorem IsExact.rows_of_padding (hg : g.IsExact) (h : g.padding? = some rows) :
    rows.count * rows.width = g.transferSize ∧ rows.count * rows.pitch = g.dataSize ∧
      rows.width < rows.pitch := by
  obtain ⟨⟨hpadded, -⟩, rfl⟩ := padding?_eq_some_iff.1 h
  have hkind := kind_of_isPadded hpadded
  have hvalue : g.valueSize = g.precision.realSize := by
    rw [valueSize_eq, hkind]
    exact Nat.one_mul _
  have hrows : g.rows = Word.product g.extent.outer := by
    rw [rows, hg.count_eq_mul, Nat.mul_div_cancel _ g.extent.last_pos]
  dsimp only
  refine ⟨?_, ?_, ?_⟩
  · rw [hrows, hg.transferSize_eq, hg.count_eq_mul, hvalue, Nat.mul_assoc]
  · rw [hrows, hg.dataSize_eq, if_pos hpadded, hg.complexCount_of_real hkind, hvalue,
      Precision.complexSize]
    ring
  · -- a half spectrum has at least one number more than the row
    have hlonger : g.extent.last < 2 * halfLength g.extent.last := by
      rw [halfLength]
      omega
    calc g.extent.last * g.precision.realSize
        < 2 * halfLength g.extent.last * g.precision.realSize :=
          Nat.mul_lt_mul_of_pos_right hlonger g.precision.realSize_pos
      _ = halfLength g.extent.last * g.precision.complexSize := by
          rw [Precision.complexSize]
          ring

/-! ## Transfers in elements -/

variable {α : Type} {unit : ℕ} {buffer host : Array α}

theorem transferRows_of_padding (h : g.padding? = some rows) (unit : ℕ) :
    g.transferRows unit = ⟨rows.count, rows.width / unit, rows.pitch / unit⟩ := by
  rw [transferRows, h]

theorem transferRows_of_plain (h : g.padding? = none) (unit : ℕ) :
    g.transferRows unit = ⟨1, g.transferSize / unit, g.transferSize / unit⟩ := by
  rw [transferRows, h]

theorem transferRows_one (h : g.padding? = some rows) : g.transferRows 1 = rows := by
  rw [transferRows_of_padding h, Nat.div_one, Nat.div_one]

theorem dvd_valueSize (hunit : unit ∣ g.precision.realSize) : unit ∣ g.valueSize := by
  rw [valueSize_eq]
  exact hunit.mul_left _

theorem IsExact.dvd_transferSize (hg : g.IsExact) (hunit : unit ∣ g.precision.realSize) :
    unit ∣ g.transferSize := by
  rw [hg.transferSize_eq]
  exact (dvd_valueSize hunit).mul_left _

theorem dvd_of_padding (h : g.padding? = some rows) (hunit : unit ∣ g.precision.realSize) :
    unit ∣ rows.width ∧ unit ∣ rows.pitch := by
  obtain ⟨-, rfl⟩ := padding?_eq_some_iff.1 h
  exact ⟨hunit.mul_left _, (hunit.mul_left _).mul_left _⟩

/-- The rows of a transfer hold all of it, and lie inside of the primary buffer. -/
theorem IsExact.transferRows_fit (hg : g.IsExact) (hunit : unit ∣ g.precision.realSize) :
    (g.transferRows unit).width ≤ (g.transferRows unit).pitch ∧
      g.transferSize / unit = (g.transferRows unit).count * (g.transferRows unit).width ∧
      ∀ row < (g.transferRows unit).count,
        row * (g.transferRows unit).pitch + (g.transferRows unit).width ≤ g.dataSize / unit := by
  cases hpadding : g.padding? with
  | none =>
    rw [transferRows_of_plain hpadding]
    refine ⟨Nat.le_refl _, (Nat.one_mul _).symm, fun row hrow => ?_⟩
    rw [Nat.lt_one_iff.1 hrow, Nat.zero_mul, Nat.zero_add]
    exact Nat.div_le_div_right hg.transferSize_le
  | some rows =>
    obtain ⟨hwhole, hdata, hnarrow⟩ := hg.rows_of_padding hpadding
    obtain ⟨hwidth, hpitch⟩ := dvd_of_padding hpadding hunit
    rw [transferRows_of_padding hpadding]
    dsimp only
    refine ⟨Nat.div_le_div_right hnarrow.le, ?_, fun row hrow => ?_⟩
    · rw [← hwhole, Nat.mul_div_assoc _ hwidth]
    · -- a row ends before the next one begins
      calc row * (rows.pitch / unit) + rows.width / unit
          ≤ row * (rows.pitch / unit) + rows.pitch / unit :=
            Nat.add_le_add_left (Nat.div_le_div_right hnarrow.le) _
        _ = (row + 1) * (rows.pitch / unit) := (Nat.succ_mul ..).symm
        _ ≤ rows.count * (rows.pitch / unit) := Nat.mul_le_mul_right _ hrow
        _ = g.dataSize / unit := by rw [← hdata, Nat.mul_div_assoc _ hpitch]

/-- An upload succeeds, and the rows hold the host. -/
theorem IsExact.scatter_eq (hg : g.IsExact) (hunit : unit ∣ g.precision.realSize)
    (hhost : host.size = g.transferSize / unit) (hbuffer : buffer.size = g.dataSize / unit) :
    g.scatter unit host buffer = ((g.transferRows unit).scatter host buffer, .ok ()) ∧
      (g.transferRows unit).Holds ((g.transferRows unit).scatter host buffer) host := by
  obtain ⟨hwidth, hcount, hfits⟩ := hg.transferRows_fit hunit
  have hholds : (g.transferRows unit).Holds ((g.transferRows unit).scatter host buffer) host :=
    Rows.holds_scatter hwidth (hhost.trans hcount) (by rwa [hbuffer])
  have hfit := hholds.allFit
  rw [Rows.size_scatter] at hfit
  refine ⟨?_, hholds⟩
  rw [scatter, checkTransfer, hhost, Nat.div_mul_cancel (hg.dvd_transferSize hunit), if_pos rfl]
  dsimp only
  rw [hfit]
  rfl

/-- A download of rows that hold something succeeds, and gives it. -/
theorem IsExact.gather_eq (hg : g.IsExact) (hunit : unit ∣ g.precision.realSize)
    (hholds : (g.transferRows unit).Holds buffer host) {before : Array α}
    (hbefore : before.size = g.transferSize / unit) :
    g.gather unit buffer before = (host, .ok ()) := by
  have hsize : before.size = host.size :=
    (hbefore.trans (hg.transferRows_fit hunit).2.1).trans hholds.size_eq.symm
  rw [gather, checkTransfer, hbefore, Nat.div_mul_cancel (hg.dvd_transferSize hunit), if_pos rfl]
  dsimp only
  rw [hholds.allFit, hholds.gather_eq hsize]
  rfl

/-! ## Transfers in bytes -/

/-- Whether a byte of the primary buffer is outside of what transfers move. -/
def Spares (g : Geometry) (place : ℕ) : Prop :=
  match g.padding? with
  | some rows => ¬rows.Covers place
  | none => g.transferSize ≤ place

theorem not_covers_of_spares {place : ℕ} (h : g.Spares place) :
    ¬(g.transferRows 1).Covers place := by
  unfold Spares at h
  cases hpadding : g.padding? with
  | some rows =>
    rw [hpadding] at h
    rwa [transferRows_one hpadding]
  | none =>
    rw [hpadding] at h
    rw [transferRows_of_plain hpadding, Nat.div_one]
    rintro ⟨row, hrow, -, hend⟩
    dsimp only at hrow hend
    rw [Nat.lt_one_iff.1 hrow, Nat.zero_mul, Nat.zero_add] at hend
    exact Nat.not_lt.2 h hend

end Geometry

/-- **What goes up comes down.** With buffers of the geometry's sizes no transfer fails. An upload
keeps the length of the buffer and every byte between the rows, and a download after it gives the
bytes that went up, whatever the host held. An upload of what was downloaded changes nothing. The
rows make up the transfer and the buffer exactly, in words. -/
theorem Configuration.transfer_inverts {c : Configuration} {g : Geometry}
    (hgeometry : c.geometry = .ok g) (host buffer : Array UInt8)
    (hhost : host.size = g.transferSize) (hbuffer : buffer.size = g.dataSize) :
    (∃ after, g.scatter 1 host buffer = (after, .ok ()) ∧ after.size = buffer.size ∧
        (∀ before : Array UInt8, before.size = g.transferSize →
          g.gather 1 after before = (host, .ok ())) ∧
        ∀ place, g.Spares place → after[place]? = buffer[place]?) ∧
      (∀ before : Array UInt8, before.size = g.transferSize →
        ∃ gathered, g.gather 1 buffer before = (gathered, .ok ()) ∧
          gathered.size = g.transferSize ∧ g.scatter 1 gathered buffer = (buffer, .ok ())) ∧
      (∀ rows, g.padding? = some rows →
        rows.count * rows.width = g.transferSize ∧ rows.count * rows.pitch = g.dataSize ∧
          0 < rows.pitch - rows.width ∧
          ∀ row < rows.count, row * rows.pitch + rows.width ≤ g.dataSize) ∧
      g.transferSize < 2 ^ 64 ∧ g.dataSize < 2 ^ 64 := by
  obtain ⟨-, hg⟩ := isExact_of_geometry hgeometry
  have hfits := fits_of_geometry hgeometry
  have hunit : 1 ∣ g.precision.realSize := Nat.one_dvd _
  obtain ⟨hwidth, hcount, hrows⟩ := hg.transferRows_fit hunit
  rw [← Nat.div_one g.transferSize] at hhost
  rw [← Nat.div_one g.dataSize] at hbuffer
  refine ⟨?_, fun before hbefore => ?_, fun rows hpadding => ?_, hfits.transferSize_lt,
    hfits.dataSize_lt⟩
  · obtain ⟨hscatter, hholds⟩ := hg.scatter_eq hunit hhost hbuffer
    refine ⟨_, hscatter, Rows.size_scatter .., fun before hbefore => ?_, fun place hspares => ?_⟩
    · exact hg.gather_eq hunit hholds (hbefore.trans (Nat.div_one _).symm)
    · exact Rows.getElem?_scatter_of_not_covers (Geometry.not_covers_of_spares hspares)
  · rw [← Nat.div_one g.transferSize] at hbefore
    -- what was read from the rows is what they hold
    have hholds := Rows.holds_gather (hbefore.trans hcount) (by rwa [hbuffer])
    have hgathered : ((g.transferRows 1).gather buffer before).size = g.transferSize / 1 :=
      (Rows.size_gather ..).trans hbefore
    have hgather := hg.gather_eq hunit hholds hbefore
    refine ⟨_, hgather, hgathered.trans (Nat.div_one _), ?_⟩
    rw [(hg.scatter_eq hunit hgathered hbuffer).1, hholds.scatter_eq hwidth]
  · obtain ⟨hwhole, hdata, hnarrow⟩ := hg.rows_of_padding hpadding
    refine ⟨hwhole, hdata, Nat.sub_pos_of_lt hnarrow, ?_⟩
    rwa [Geometry.transferRows_one hpadding, Nat.div_one] at hrows

/-- Two rows of three numbers each, with room for a fourth. -/
def Geometry.twoByThree : Geometry where
  configuration :=
    { kind := .real, placement := .inPlace, precision := .single
      extent := ⟨[2, 3], by decide, by decide, by simp⟩ }
  count := 6
  complexCount := 4
  dataSize := 32
  complexBufferSize := 0
  transferSize := 24

theorem Configuration.transfer_inverts_twoByThree :
    let g := Geometry.twoByThree
    let host : Array UInt8 := Array.replicate 24 1
    let buffer : Array UInt8 := Array.replicate 32 7
    g.configuration.geometry = .ok g ∧ g.padding? = some ⟨2, 12, 16⟩ ∧ g.Spares 12 ∧
      ∃ after, g.scatter 1 host buffer = (after, .ok ()) ∧ after[12]? = some 7 ∧
        g.gather 1 after host = (host, .ok ()) := by
  intro g host buffer
  have hgeometry : g.configuration.geometry = .ok g := by cbv
  have hpadding : g.padding? = some ⟨2, 12, 16⟩ := by decide
  have hspares : g.Spares 12 := by
    rw [Geometry.Spares, hpadding]
    rintro ⟨row, -, hstart, hend⟩
    dsimp only at hstart hend
    omega
  obtain ⟨⟨after, hscatter, -, hgather, hframe⟩, -⟩ := transfer_inverts hgeometry host buffer
    (by rfl) (by rfl)
  refine ⟨hgeometry, hpadding, hspares, after, hscatter, ?_, hgather host (by rfl)⟩
  rw [hframe 12 hspares]
  rfl

end SpectralBench
