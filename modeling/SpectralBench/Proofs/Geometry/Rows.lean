import SpectralBench.Geometry.Rows

/-!
# What rows hold

The rows of a buffer hold the elements of a host when each of them does, in the order of the host.
An upload makes them hold what it was given, and a download of what they hold gives that back,
whatever the host held before. What lies outside of the rows is neither read nor written, so that an
upload of what was downloaded from a buffer changes nothing in it.

Main statements:

* `Rows.holds_scatter`, `Rows.Holds.gather_eq` — what is written into the rows is read back.
* `Rows.getElem?_scatter_of_not_covers` — what is outside of the rows is left alone.
* `Rows.holds_gather`, `Rows.Holds.scatter_eq` — what is read is written back without a change.
-/

namespace SpectralBench

namespace Rows

variable {α β : Type} {rows : Rows} {buffer host : Array α}

/-- Whether the rows of a buffer hold the elements of a host. -/
structure Holds (rows : Rows) (buffer host : Array α) : Prop where
  size_eq : host.size = rows.count * rows.width
  fits : ∀ row < rows.count, row * rows.pitch + rows.width ≤ buffer.size
  getElem?_eq : ∀ row < rows.count, ∀ column < rows.width,
    buffer[row * rows.pitch + column]? = host[row * rows.width + column]?

/-! ## Places in rows -/

theorem place_div {wide row column : Nat} (hcolumn : column < wide) :
    (row * wide + column) / wide = row := by
  rw [Nat.mul_comm, Nat.mul_add_div (Nat.zero_lt_of_lt hcolumn), Nat.div_eq_of_lt hcolumn,
    Nat.add_zero]

theorem place_mod {wide row column : Nat} (hcolumn : column < wide) :
    (row * wide + column) % wide = column := by
  rw [Nat.mul_comm, Nat.mul_add_mod, Nat.mod_eq_of_lt hcolumn]

/-- The elements of a row lie before those of the next. -/
theorem place_lt {wide count row column : Nat} (hrow : row < count) (hcolumn : column < wide) :
    row * wide + column < count * wide := by
  have hnext := Nat.mul_le_mul_right wide (Nat.succ_le_of_lt hrow)
  rw [Nat.succ_mul] at hnext
  omega

/-! ## Writing and reading -/

theorem getElem?_scatter (hwidth : rows.width ≤ rows.pitch)
    (hhost : host.size = rows.count * rows.width) {row column : Nat} (hrow : row < rows.count)
    (hcolumn : column < rows.width) (hfit : row * rows.pitch + rows.width ≤ buffer.size) :
    (rows.scatter host buffer)[row * rows.pitch + column]? =
      host[row * rows.width + column]? := by
  have hwithin : column < rows.pitch := Nat.lt_of_lt_of_le hcolumn hwidth
  -- the place in the buffer is within a row, so it has a source in the host
  have hsource : rows.source? buffer.size (row * rows.pitch + column) =
      some (row * rows.width + column) := by
    rw [source?, place_div hwithin, place_mod hwithin]
    exact if_pos ⟨hrow, hcolumn, decide_eq_true hfit⟩
  have hplace : row * rows.width + column < host.size := by
    rw [hhost]
    exact place_lt hrow hcolumn
  rw [scatter, Array.getElem?_mapIdx, Array.getElem?_eq_getElem (by omega), Option.map_some,
    hsource, Option.bind_some, Array.getElem?_eq_getElem hplace, Option.getD_some]

/-- Rows that fit hold what was written to them. -/
theorem holds_scatter (hwidth : rows.width ≤ rows.pitch)
    (hhost : host.size = rows.count * rows.width)
    (hfits : ∀ row < rows.count, row * rows.pitch + rows.width ≤ buffer.size) :
    rows.Holds (rows.scatter host buffer) host where
  size_eq := hhost
  fits row hrow := by
    rw [size_scatter]
    exact hfits row hrow
  getElem?_eq _ hrow _ hcolumn := getElem?_scatter hwidth hhost hrow hcolumn (hfits _ hrow)

namespace Holds

theorem allFit (h : rows.Holds buffer host) : rows.allFit buffer.size = true := by
  rw [Rows.allFit, Bool.or_eq_true]
  obtain hcount | hcount := Nat.eq_zero_or_pos rows.count
  · exact Or.inl (decide_eq_true hcount)
  · exact Or.inr (decide_eq_true (h.fits _ (Nat.sub_lt hcount Nat.one_pos)))

/-- What the rows hold is read back, whatever the host held before. -/
theorem gather_eq (h : rows.Holds buffer host) {before : Array α} (hsize : before.size = host.size) :
    rows.gather buffer before = host := by
  apply Array.ext_getElem?
  intro i
  obtain hi | hi := Nat.lt_or_ge i host.size
  · have hbound := hi
    rw [h.size_eq] at hbound
    have hwidth : 0 < rows.width := Nat.pos_of_mul_pos_left (Nat.zero_lt_of_lt hbound)
    have hrow : i / rows.width < rows.count := Nat.div_lt_of_lt_mul (by rwa [Nat.mul_comm])
    have hspot := h.getElem?_eq _ hrow _ (Nat.mod_lt i hwidth)
    rw [Nat.div_add_mod', Array.getElem?_eq_getElem hi] at hspot
    have hfit : rows.fits buffer.size (i / rows.width) = true := decide_eq_true (h.fits _ hrow)
    rw [gather, Array.getElem?_mapIdx, Array.getElem?_eq_getElem (by omega), Option.map_some]
    dsimp only
    rw [if_pos hfit, Array.getD_eq_getD_getElem?, hspot, Option.getD_some,
      Array.getElem?_eq_getElem hi]
  · rw [Array.getElem?_eq_none (by rw [size_gather]; omega), Array.getElem?_eq_none hi]

theorem map (h : rows.Holds buffer host) (f : α → β) : rows.Holds (buffer.map f) (host.map f) where
  size_eq := (Array.size_map ..).trans h.size_eq
  fits row hrow := by
    rw [Array.size_map]
    exact h.fits row hrow
  getElem?_eq row hrow column hcolumn := by
    rw [Array.getElem?_map, Array.getElem?_map, h.getElem?_eq row hrow column hcolumn]

end Holds

/-! ## Outside of the rows -/

/-- Whether a place of a buffer belongs to one of the rows. -/
def Covers (rows : Rows) (place : Nat) : Prop :=
  ∃ row < rows.count, row * rows.pitch ≤ place ∧ place < row * rows.pitch + rows.width

theorem source?_of_not_covers {length place : Nat} (h : ¬rows.Covers place) :
    rows.source? length place = none := by
  rw [source?, if_neg]
  rintro ⟨hrow, hcolumn, -⟩
  -- the quotient and the remainder of a place are its row and its column
  have hplace := Nat.div_add_mod' place rows.pitch
  exact h ⟨_, hrow, by omega, by omega⟩

theorem getElem?_scatter_of_not_covers {place : Nat} (h : ¬rows.Covers place) :
    (rows.scatter host buffer)[place]? = buffer[place]? := by
  rw [scatter, Array.getElem?_mapIdx, source?_of_not_covers h]
  cases buffer[place]? <;> rfl

/-! ## Back into the same buffer -/

/-- A host holds what was read from rows that fit. -/
theorem holds_gather (hhost : host.size = rows.count * rows.width)
    (hfits : ∀ row < rows.count, row * rows.pitch + rows.width ≤ buffer.size) :
    rows.Holds buffer (rows.gather buffer host) where
  size_eq := (size_gather ..).trans hhost
  fits := hfits
  getElem?_eq row hrow column hcolumn := by
    have hfit := hfits row hrow
    have hplace : row * rows.width + column < host.size := by
      rw [hhost]
      exact place_lt hrow hcolumn
    rw [gather, Array.getElem?_mapIdx, Array.getElem?_eq_getElem hplace, Option.map_some]
    dsimp only
    rw [place_div hcolumn, place_mod hcolumn, fits, if_pos (decide_eq_true hfit),
      Array.getD_eq_getD_getElem?, Array.getElem?_eq_getElem (by omega), Option.getD_some]

/-- Writing what the rows hold already changes nothing, inside of them or outside. -/
theorem Holds.scatter_eq (h : rows.Holds buffer host) (hwidth : rows.width ≤ rows.pitch) :
    rows.scatter host buffer = buffer := by
  apply Array.ext_getElem?
  intro place
  by_cases hcovers : rows.Covers place
  · obtain ⟨row, hrow, hstart, hend⟩ := hcovers
    obtain ⟨column, rfl⟩ := Nat.exists_eq_add_of_le hstart
    have hcolumn : column < rows.width := by omega
    rw [getElem?_scatter hwidth h.size_eq hrow hcolumn (h.fits row hrow),
      h.getElem?_eq row hrow column hcolumn]
  · exact getElem?_scatter_of_not_covers hcovers

end Rows

end SpectralBench
