import SpectralBench.Proofs.Geometry.Transfers

/-!
# Transfers of any length

A host of the wrong length is refused before anything is moved. Any other is copied row after row, up
to the first row that reaches beyond the buffer, and there the transfer fails. Rows that come later
reach further still, so the rows that were copied are exactly those that fit. The padding behind the
last row is not missed.

`Rows.copy` is that copy in both directions; they differ in which side the rows are apart on. What a
copy leaves is said element by element in `Rows.Copied`, and that leaves no choice, which is why the
copy and the transfers of a geometry are the same.

Main statements:

* `Rows.copied_copy` — what a copy row after row leaves, by induction on the rows.
* `Rows.copy_eq_scatter`, `Rows.copy_eq_gather` — transfers are copies row after row.
* `Configuration.transfer_any_length` — when transfers fail, with what, and what they leave.
-/

namespace SpectralBench

namespace Rows

variable {α : Type} {rows : Rows} {length reads writes : ℕ}

/-! ## Row after row -/

/-- Writes a piece over an array, from a place on. -/
def overwrite (target piece : Array α) (start : ℕ) : Array α :=
  target.mapIdx fun place old =>
    if start ≤ place then (piece[place - start]?).getD old else old

/-- Copies the rows from `row` on, up to the first that does not fit into a buffer of the given
length, and says whether there was none. The rows begin `reads` elements apart where they come from,
and `writes` elements apart where they go. -/
def copy (rows : Rows) (length reads writes : ℕ) (source : Array α) :
    (left row : ℕ) → Array α → Array α × Bool
  | 0, _, target => (target, true)
  | left + 1, row, target =>
    if rows.fits length row then
      rows.copy length reads writes source left (row + 1)
        (overwrite target (source.extract (row * reads) (row * reads + rows.width)) (row * writes))
    else (target, false)

/-- What a copy of chosen rows leaves: their elements are those of the source, and every other element
is what it was before. -/
structure Copied (width reads writes : ℕ) (chosen : ℕ → Prop) (source before after : Array α) :
    Prop where
  size_eq : after.size = before.size
  taken : ∀ row, chosen row → ∀ column < width,
    after[row * writes + column]? = source[row * reads + column]?
  spared : ∀ place, (∀ row, chosen row → ¬(row * writes ≤ place ∧ place < row * writes + width)) →
    after[place]? = before[place]?

theorem fits_iff {row : ℕ} :
    rows.fits length row = true ↔ row * rows.pitch + rows.width ≤ length :=
  decide_eq_true_iff

/-- A row ends before a later one does. -/
theorem fits_of_le {row later : ℕ} (hle : row ≤ later) (h : rows.fits length later = true) :
    rows.fits length row = true := by
  have hstart := Nat.mul_le_mul_right rows.pitch hle
  rw [fits_iff] at h ⊢
  omega

/-- All rows fit if the last one does. -/
theorem allFit_iff :
    rows.allFit length = true ↔ ∀ row < rows.count, rows.fits length row = true := by
  unfold allFit
  rw [Bool.or_eq_true, decide_eq_true_iff]
  constructor
  · rintro (hzero | hlast) row hrow
    · omega
    · exact fits_of_le (by omega) hlast
  · intro h
    rcases Nat.eq_zero_or_pos rows.count with hzero | hpos
    · exact Or.inl hzero
    · exact Or.inr (h _ (by omega))

namespace Copied

variable {width : ℕ} {chosen more : ℕ → Prop} {source before mid after : Array α}

theorem refl (hnone : ∀ row, ¬chosen row) : Copied width reads writes chosen source before before :=
  ⟨rfl, fun row hrow => absurd hrow (hnone row), fun _ _ => rfl⟩

theorem congr (h : Copied width reads writes chosen source before after)
    (hiff : ∀ row, more row ↔ chosen row) :
    Copied width reads writes more source before after :=
  ⟨h.size_eq, fun row hrow => h.taken row ((hiff row).1 hrow),
    fun place hplace => h.spared place fun row hrow => hplace row ((hiff row).2 hrow)⟩

/-- One copy after another: rows do not overlap, so the second leaves alone what it did not choose. -/
theorem trans (hwidth : width ≤ writes) (h : Copied width reads writes chosen source before mid)
    (hmore : Copied width reads writes more source mid after) :
    Copied width reads writes (fun row => chosen row ∨ more row) source before after where
  size_eq := hmore.size_eq.trans h.size_eq
  taken row hrow column hcolumn := by
    by_cases hagain : more row
    · exact hmore.taken row hagain column hcolumn
    · have hfirst : chosen row := hrow.resolve_right hagain
      have hkept : after[row * writes + column]? = mid[row * writes + column]? := by
        apply hmore.spared
        rintro other hother ⟨hstart, hend⟩
        -- a place belongs to one row only
        have hrow : (row * writes + column) / writes = row := place_div (by omega)
        have hsame : (row * writes + column) / writes = other := by
          have hplace : (other * writes + (row * writes + column - other * writes)) / writes = other :=
            place_div (by omega)
          rwa [Nat.add_sub_cancel' hstart] at hplace
        exact hagain (by rwa [← hrow, hsame])
      rw [hkept]
      exact h.taken row hfirst column hcolumn
  spared place hplace := by
    have hlater := hmore.spared place fun row hrow => hplace row (Or.inr hrow)
    rw [hlater]
    exact h.spared place fun row hrow => hplace row (Or.inl hrow)

/-- What a copy leaves is determined element by element. -/
theorem unique {other : Array α} (h : Copied width reads writes chosen source before after)
    (hother : Copied width reads writes chosen source before other) : after = other := by
  apply Array.ext_getElem?
  intro place
  by_cases hrow : ∃ row, chosen row ∧ row * writes ≤ place ∧ place < row * writes + width
  · obtain ⟨row, hchosen, hstart, hend⟩ := hrow
    obtain ⟨column, rfl⟩ := Nat.exists_eq_add_of_le hstart
    rw [h.taken row hchosen column (by omega), hother.taken row hchosen column (by omega)]
  · have hspared (row : ℕ) (hchosen : chosen row) :
        ¬(row * writes ≤ place ∧ place < row * writes + width) :=
      fun hplace => hrow ⟨row, hchosen, hplace⟩
    rw [h.spared place hspared, hother.spared place hspared]

/-- Nothing changes if no row is chosen. -/
theorem eq_of_none (h : Copied width reads writes chosen source before after)
    (hnone : ∀ row, ¬chosen row) : after = before :=
  h.unique (refl hnone)

end Copied

/-- One row is written where it belongs. -/
theorem copied_overwrite {source target : Array α} {row width : ℕ}
    (hsource : row * reads + width ≤ source.size) (htarget : row * writes + width ≤ target.size) :
    Copied width reads writes (· = row) source target
      (overwrite target (source.extract (row * reads) (row * reads + width)) (row * writes)) where
  size_eq := Array.size_mapIdx
  taken := by
    rintro _ rfl column hcolumn
    rename_i row
    have hspot : row * writes + column < target.size := by omega
    have hpiece : (source.extract (row * reads) (row * reads + width))[column]? =
        source[row * reads + column]? := by
      rw [Array.getElem?_extract_of_lt (by omega), Array.getElem?_eq_getElem (by omega)]
    rw [overwrite, Array.getElem?_mapIdx, Array.getElem?_eq_getElem hspot, Option.map_some,
      if_pos (Nat.le_add_right _ _), Nat.add_sub_cancel_left, hpiece,
      Array.getElem?_eq_getElem (by omega), Option.getD_some]
  spared := by
    intro place hplace
    have houtside := hplace row rfl
    rw [overwrite, Array.getElem?_mapIdx]
    cases htarget : target[place]? with
    | none => rfl
    | some old =>
      rw [Option.map_some]
      split
      · -- behind the row there is nothing left of the piece
        rw [Array.getElem?_eq_none (by rw [Array.size_extract]; omega)]
        rfl
      · rfl

/-- A copy row after row takes every row that fits, and knows whether one did not. -/
theorem copied_copy (hwidth : rows.width ≤ writes) {source : Array α} (left row : ℕ)
    (target : Array α)
    (hsource : ∀ later < row + left, rows.fits length later = true →
      later * reads + rows.width ≤ source.size)
    (htarget : ∀ later < row + left, rows.fits length later = true →
      later * writes + rows.width ≤ target.size) :
    Copied rows.width reads writes
        (fun later => (row ≤ later ∧ later < row + left) ∧ rows.fits length later = true) source target
        (rows.copy length reads writes source left row target).1 ∧
      ((rows.copy length reads writes source left row target).2 = true ↔
        ∀ later, row ≤ later → later < row + left → rows.fits length later = true) := by
  -- by induction on the rows that are left, whatever has been written before them
  induction left generalizing row target with
  | zero =>
    refine ⟨Copied.refl ?_, ?_⟩
    · rintro later ⟨⟨hfirst, hlast⟩, -⟩
      omega
    · simp only [copy, true_iff]
      intro later hfirst hlast
      omega
  | succ left ih =>
    unfold copy
    by_cases hfit : rows.fits length row = true
    · rw [if_pos hfit]
      have hone := copied_overwrite (hsource row (by omega) hfit) (htarget row (by omega) hfit)
      obtain ⟨hrest, hwhole⟩ := ih (row + 1)
        (overwrite target (source.extract (row * reads) (row * reads + rows.width)) (row * writes))
        (fun later hlater => hsource later (by omega))
        (fun later hlater => by rw [hone.size_eq]; exact htarget later (by omega))
      refine ⟨(hone.trans hwidth hrest).congr fun later => ?_, hwhole.trans ?_⟩
      · constructor
        · rintro ⟨hrange, hlater⟩
          rcases Nat.eq_or_lt_of_le hrange.1 with hfirst | hnext
          · exact Or.inl hfirst.symm
          · exact Or.inr ⟨⟨hnext, by omega⟩, hlater⟩
        · rintro (rfl | ⟨hrange, hlater⟩)
          · exact ⟨⟨Nat.le_refl _, by omega⟩, hfit⟩
          · exact ⟨⟨by omega, by omega⟩, hlater⟩
      · constructor
        · intro h later hfirst hlast
          rcases Nat.eq_or_lt_of_le hfirst with rfl | hnext
          · exact hfit
          · exact h later hnext (by omega)
        · intro h later hfirst hlast
          exact h later (by omega) (by omega)
    · rw [if_neg hfit]
      -- no later row fits either, so leaving them out is right
      refine ⟨Copied.refl ?_, ?_⟩
      · rintro later ⟨⟨hfirst, -⟩, hlater⟩
        exact hfit (fits_of_le hfirst hlater)
      · constructor
        · intro h
          cases h
        · intro h
          exact absurd (h row (Nat.le_refl _) (by omega)) hfit

/-! ## Transfers are copies -/

/-- The rows that fit into a buffer of the given length. -/
def Fitting (rows : Rows) (length row : ℕ) : Prop :=
  row < rows.count ∧ row * rows.pitch + rows.width ≤ length

theorem fitting_iff {row : ℕ} :
    rows.Fitting length row ↔ row < rows.count ∧ rows.fits length row = true := by
  rw [Fitting, fits_iff]

variable {host buffer : Array α}

theorem copied_scatter (hwidth : rows.width ≤ rows.pitch)
    (hhost : host.size = rows.count * rows.width) (buffer : Array α) :
    Copied rows.width rows.width rows.pitch (rows.Fitting buffer.size) host buffer
      (rows.scatter host buffer) where
  size_eq := size_scatter ..
  taken row hrow column hcolumn := getElem?_scatter hwidth hhost hrow.1 hcolumn hrow.2
  spared place hplace := by
    have hnone : rows.source? buffer.size place = none := by
      rw [source?, if_neg]
      rintro ⟨hrow, hcolumn, hfit⟩
      have hdivision := Nat.div_add_mod' place rows.pitch
      exact hplace _ (fitting_iff.2 ⟨hrow, hfit⟩) ⟨by omega, by omega⟩
    rw [scatter, Array.getElem?_mapIdx, hnone]
    cases buffer[place]? <;> rfl

theorem copied_gather (hhost : host.size = rows.count * rows.width) (buffer : Array α) :
    Copied rows.width rows.pitch rows.width (rows.Fitting buffer.size) buffer host
      (rows.gather buffer host) where
  size_eq := size_gather ..
  taken row hrow column hcolumn := by
    have hplace : row * rows.width + column < host.size := by
      rw [hhost]
      exact place_lt hrow.1 hcolumn
    have hspot : row * rows.pitch + column < buffer.size := by
      have hfit := hrow.2
      omega
    rw [gather, Array.getElem?_mapIdx, Array.getElem?_eq_getElem hplace, Option.map_some]
    dsimp only
    rw [place_div hcolumn, place_mod hcolumn, if_pos (fits_iff.2 hrow.2),
      Array.getD_eq_getD_getElem?, Array.getElem?_eq_getElem hspot, Option.getD_some]
  spared place hplace := by
    rw [gather, Array.getElem?_mapIdx]
    cases hold : host[place]? with
    | none => rfl
    | some old =>
      rw [Option.map_some]
      dsimp only
      split
      · -- every place of a host is in a row, and this one is in none that fits
        rename_i hfit
        have hinside : place < rows.count * rows.width := by
          rw [← hhost]
          exact (Array.getElem?_eq_some_iff.1 hold).1
        have hpos : 0 < rows.width := Nat.pos_of_mul_pos_left (Nat.zero_lt_of_lt hinside)
        have hrow : place / rows.width < rows.count :=
          Nat.div_lt_of_lt_mul (by rwa [Nat.mul_comm])
        have hdivision := Nat.div_add_mod' place rows.width
        have hcolumn := Nat.mod_lt place hpos
        exact absurd ⟨by omega, by omega⟩ (hplace _ (fitting_iff.2 ⟨hrow, hfit⟩))
      · rfl

/-- Every row of a host lies inside of it. -/
theorem row_within (hhost : host.size = rows.count * rows.width) {row : ℕ} (hrow : row < rows.count) :
    row * rows.width + rows.width ≤ host.size := by
  have hend := Nat.mul_le_mul_right rows.width (Nat.succ_le_of_lt hrow)
  rwa [Nat.succ_mul, ← hhost] at hend

/-- An upload is a copy row after row. -/
theorem copy_eq_scatter (hwidth : rows.width ≤ rows.pitch)
    (hhost : host.size = rows.count * rows.width) :
    rows.copy buffer.size rows.width rows.pitch host rows.count 0 buffer =
      (rows.scatter host buffer, rows.allFit buffer.size) := by
  have hsource (row : ℕ) (hrow : row < 0 + rows.count) (_ : rows.fits buffer.size row = true) :
      row * rows.width + rows.width ≤ host.size :=
    row_within hhost (by omega)
  obtain ⟨hcopied, hwhole⟩ := copied_copy hwidth rows.count 0 buffer hsource
    fun _ _ hfit => fits_iff.1 hfit
  refine Prod.ext ?_ ?_
  · refine hcopied.unique ((copied_scatter hwidth hhost buffer).congr fun row => ?_)
    rw [fitting_iff]
    simp only [Nat.zero_le, Nat.zero_add, true_and]
  · rw [Bool.eq_iff_iff, hwhole, allFit_iff]
    simp only [Nat.zero_le, Nat.zero_add, true_implies]

/-- So is a download, with the pitches the other way around. -/
theorem copy_eq_gather (hhost : host.size = rows.count * rows.width) :
    rows.copy buffer.size rows.pitch rows.width buffer rows.count 0 host =
      (rows.gather buffer host, rows.allFit buffer.size) := by
  have hsource (row : ℕ) (_ : row < 0 + rows.count) (hfit : rows.fits buffer.size row = true) :
      row * rows.pitch + rows.width ≤ buffer.size :=
    fits_iff.1 hfit
  obtain ⟨hcopied, hwhole⟩ := copied_copy (Nat.le_refl rows.width) rows.count 0 host hsource
    fun row hrow _ => row_within hhost (by omega)
  refine Prod.ext ?_ ?_
  · refine hcopied.unique ((copied_gather hhost buffer).congr fun row => ?_)
    rw [fitting_iff]
    simp only [Nat.zero_le, Nat.zero_add, true_and]
  · rw [Bool.eq_iff_iff, hwhole, allFit_iff]
    simp only [Nat.zero_le, Nat.zero_add, true_implies]

end Rows

namespace Geometry

variable {α : Type} {g : Geometry} {unit : ℕ} {host buffer : Array α}

/-! ## Transfers of a geometry -/

/-- The rows of a transfer in bytes: padded ones, or all of it as one row. -/
theorem transferRows_bytes (g : Geometry) :
    g.transferRows 1 =
      if g.isPadded = true ∧ 2 ≤ g.extent.rank then
        ⟨g.count / g.extent.last, g.extent.last * g.precision.realSize,
          (g.extent.last / 2 + 1) * g.precision.complexSize⟩
      else ⟨1, g.transferSize, g.transferSize⟩ := by
  cases hpadding : g.padding? with
  | some rows =>
    obtain ⟨hpadded, rfl⟩ := padding?_eq_some_iff.1 hpadding
    rw [transferRows_one hpadding, if_pos hpadded]
    rfl
  | none =>
    rw [transferRows_of_plain hpadding, Nat.div_one]
    unfold padding? at hpadding
    split at hpadding
    · cases hpadding
    · rename_i hplain
      rw [if_neg hplain]

/-- There is always a row to transfer. -/
theorem IsExact.transferRows_pos (hg : g.IsExact) : 0 < (g.transferRows 1).count := by
  have hcount := hg.count_pos
  rw [transferRows_bytes]
  split
  · have hlast : g.extent.last ≤ g.count := by
      rw [hg.count_eq_mul] at hcount ⊢
      exact Nat.le_mul_of_pos_left _ (Nat.pos_of_mul_pos_right hcount)
    exact Nat.div_pos hlast g.extent.last_pos
  · exact Nat.one_pos

/-- All rows fit into a buffer that holds the last one. -/
theorem IsExact.allFit_transferRows (hg : g.IsExact) (length : ℕ) :
    (g.transferRows 1).allFit length =
      decide (((g.transferRows 1).count - 1) * (g.transferRows 1).pitch +
        (g.transferRows 1).width ≤ length) := by
  have hpos := hg.transferRows_pos
  rw [Rows.allFit, decide_eq_false (by omega), Bool.false_or]
  rfl

/-- A host of another length is refused, and nothing is moved. -/
theorem transfer_refused (hother : host.size ≠ g.transferSize) :
    g.scatter 1 host buffer =
        (buffer, .error (.transferSize "upload" g.transferSize host.size)) ∧
      g.gather 1 buffer host =
        (host, .error (.transferSize "download" g.transferSize host.size)) := by
  constructor
  · rw [scatter, Nat.mul_one, checkTransfer, if_neg hother]
  · rw [gather, Nat.mul_one, checkTransfer, if_neg hother]

/-- The outcome of a transfer tells whether all rows fit. -/
def outcome (g : Geometry) (operation : String) (length : ℕ) : Except Failure Unit :=
  if (g.transferRows 1).allFit length then .ok ()
  else .error (.transferSize operation g.dataSize length)

theorem isOk_outcome (g : Geometry) (operation : String) (length : ℕ) :
    (g.outcome operation length).isOk = (g.transferRows 1).allFit length := by
  unfold outcome
  cases (g.transferRows 1).allFit length <;> rfl

theorem scatter_eq_outcome (hhost : host.size = g.transferSize) :
    g.scatter 1 host buffer =
      ((g.transferRows 1).scatter host buffer, g.outcome "upload" buffer.size) := by
  rw [scatter, Nat.mul_one, checkTransfer, if_pos hhost]
  dsimp only
  rw [Nat.mul_one]
  rfl

theorem gather_eq_outcome (hhost : host.size = g.transferSize) :
    g.gather 1 buffer host =
      ((g.transferRows 1).gather buffer host, g.outcome "download" buffer.size) := by
  rw [gather, Nat.mul_one, checkTransfer, if_pos hhost]
  dsimp only
  rw [Nat.mul_one]
  rfl

end Geometry

/-- **Transfers of any length.** A host of another length than a transfer is refused in both
directions, with its length, and nothing changes. Any other is transferred as far as rows fit into the
buffer:

* the transfer succeeds if the last row fits, and fails with the lengths of the buffer otherwise;
* either way exactly the rows that fit were copied, and nothing else has changed, not even the length;
* this is what a copy row after row leaves that stops at the first row that does not fit;
* nothing at all changes if the first row does not fit, which is all there is without
padding. -/
theorem Configuration.transfer_any_length {c : Configuration} {g : Geometry}
    (hgeometry : c.geometry = .ok g) (host buffer : Array UInt8) :
    let rows := g.transferRows 1
    let enough := (rows.count - 1) * rows.pitch + rows.width ≤ buffer.size
    let uploaded := g.scatter 1 host buffer
    let downloaded := g.gather 1 buffer host
    (rows = if g.isPadded = true ∧ 2 ≤ g.extent.rank then
        ⟨g.count / g.extent.last, g.extent.last * g.precision.realSize,
          (g.extent.last / 2 + 1) * g.precision.complexSize⟩
      else ⟨1, g.transferSize, g.transferSize⟩) ∧
    (host.size ≠ g.transferSize →
      uploaded = (buffer, .error (.transferSize "upload" g.transferSize host.size)) ∧
        downloaded = (host, .error (.transferSize "download" g.transferSize host.size))) ∧
    (host.size = g.transferSize →
      (enough → uploaded.2 = .ok () ∧ downloaded.2 = .ok ()) ∧
      (¬enough →
        uploaded.2 = .error (.transferSize "upload" g.dataSize buffer.size) ∧
          downloaded.2 = .error (.transferSize "download" g.dataSize buffer.size)) ∧
      Rows.Copied rows.width rows.width rows.pitch (rows.Fitting buffer.size) host buffer uploaded.1 ∧
      Rows.Copied rows.width rows.pitch rows.width (rows.Fitting buffer.size) buffer host
        downloaded.1 ∧
      rows.copy buffer.size rows.width rows.pitch host rows.count 0 buffer =
        (uploaded.1, uploaded.2.isOk) ∧
      rows.copy buffer.size rows.pitch rows.width buffer rows.count 0 host =
        (downloaded.1, downloaded.2.isOk) ∧
      (buffer.size < rows.width → uploaded.1 = buffer ∧ downloaded.1 = host)) := by
  intro rows enough uploaded downloaded
  obtain ⟨-, hg⟩ := isExact_of_geometry hgeometry
  obtain ⟨hwidth, hwhole, -⟩ := hg.transferRows_fit (Nat.one_dvd _)
  rw [Nat.div_one] at hwhole
  refine ⟨g.transferRows_bytes, Geometry.transfer_refused, fun hhost => ?_⟩
  have hrows : host.size = rows.count * rows.width := hhost.trans hwhole
  have houtcome (operation : String) : g.outcome operation buffer.size =
      if enough then .ok () else .error (.transferSize operation g.dataSize buffer.size) := by
    rw [Geometry.outcome, hg.allFit_transferRows]
    simp only [decide_eq_true_eq]
    rfl
  have huploaded : uploaded = (rows.scatter host buffer, g.outcome "upload" buffer.size) :=
    Geometry.scatter_eq_outcome hhost
  have hdownloaded : downloaded = (rows.gather buffer host, g.outcome "download" buffer.size) :=
    Geometry.gather_eq_outcome hhost
  have hscattered := Rows.copied_scatter hwidth hrows buffer
  have hgathered := Rows.copied_gather hrows buffer
  rw [huploaded, hdownloaded, Rows.copy_eq_scatter hwidth hrows, Rows.copy_eq_gather hrows]
  refine ⟨fun henough => ?_, fun hshort => ?_, hscattered, hgathered, ?_, ?_, fun hnarrow => ?_⟩
  · rw [houtcome, houtcome, if_pos henough, if_pos henough]
    exact ⟨rfl, rfl⟩
  · rw [houtcome, houtcome, if_neg hshort, if_neg hshort]
    exact ⟨rfl, rfl⟩
  · rw [Geometry.isOk_outcome]
  · rw [Geometry.isOk_outcome]
  · -- a buffer that is shorter than a row has room for none
    have hnone (row : ℕ) : ¬rows.Fitting buffer.size row := by
      rintro ⟨-, hfits⟩
      omega
    exact ⟨hscattered.eq_of_none hnone, hgathered.eq_of_none hnone⟩

/-- Of two rows the buffer has room for the first only: it ends within the second. -/
theorem Configuration.transfer_any_length_firstRow :
    let g := Geometry.twoByThree
    let host : Array UInt8 := Array.replicate 24 1
    let buffer : Array UInt8 := Array.replicate 20 7
    g.configuration.geometry = .ok g ∧
      (g.scatter 1 host buffer).2 = .error (.transferSize "upload" 32 20) ∧
      (g.scatter 1 host buffer).1[11]? = some 1 ∧ (g.scatter 1 host buffer).1[16]? = some 7 := by
  intro g host buffer
  have hgeometry : g.configuration.geometry = .ok g := by cbv
  have hrows : g.transferRows 1 = ⟨2, 12, 16⟩ := by decide
  obtain ⟨-, -, hany⟩ := transfer_any_length hgeometry host buffer
  rw [hrows] at hany
  obtain ⟨-, hshort, hcopied, -⟩ := hany rfl
  have hfirst : Rows.Fitting ⟨2, 12, 16⟩ buffer.size 0 := ⟨by decide, by decide⟩
  have hlast (row : ℕ) (hrow : Rows.Fitting ⟨2, 12, 16⟩ buffer.size row) : row = 0 := by
    have hfits : row * 16 + 12 ≤ 20 := hrow.2
    omega
  refine ⟨hgeometry, (hshort (by decide)).1, ?_, ?_⟩
  · have htaken : (g.scatter 1 host buffer).1[11]? = host[11]? :=
      hcopied.taken 0 hfirst 11 (by decide)
    rw [htaken]
    rfl
  · rw [hcopied.spared 16]
    · rfl
    · rintro row hrow ⟨-, hend⟩
      have hbehind : 16 < row * 16 + 12 := hend
      have hzero := hlast row hrow
      omega

end SpectralBench
