import SpectralBench.Cpu.Complex
import SpectralBench.Cpu.Rows
import Mathlib.Data.List.Basic

/-!
# Arrays of rows

An array of whole rows is its list of rows, and mapping the rows to rows of another width gives an
array of those. A buffer of scalars and its complex view have the same rows, twice as wide the one
as the other.

A loop over rows has done some of them and has others before it. Those before it are as they were,
since a row that is written is no other row (`AgreeBut`).

Main statements:

* `ext_rows` — arrays with the same rows are the same.
* `rowAt_flatMap`, `rowAt_mapRows` — a row of mapped rows is a mapped row.
* `extract_rowAt_putRow`, `rowAt_putRow_of_ne` — of the rows of an array one is written.
* `rowAt_flat` — rows of scalars and rows of complex numbers.
-/

namespace SpectralBench.Cpu

variable {α β : Type}

/-- A row of an array of whole rows is as long as it should be. -/
theorem size_rowAt {width count row : ℕ} {data : Array α} (hsize : data.size = count * width)
    (hrow : row < count) : (rowAt width data row).size = width := by
  have hlast : (row + 1) * width ≤ count * width := Nat.mul_le_mul_right _ hrow
  rw [rowAt, Array.size_extract, hsize, Nat.min_eq_left hlast, Nat.succ_mul, Nat.add_sub_cancel_left]

/-- Of any array, a row is cut off at the end of the array. -/
theorem size_rowAt_le (width : ℕ) (data : Array α) (row : ℕ) :
    (rowAt width data row).size ≤ width := by
  have hend : (row + 1) * width = row * width + width := Nat.succ_mul row width
  rw [rowAt, Array.size_extract]
  omega

theorem size_flatMap_eq {width : ℕ} {f : α → Array β} (rows : List α)
    (h : ∀ row ∈ rows, (f row).size = width) :
    (rows.flatMap fun row => (f row).toList).length = rows.length * width := by
  induction rows with
  | nil => simp
  | cons row rest ih =>
    have hrest := ih fun other hother => h other (List.mem_cons_of_mem row hother)
    have hrow := h row List.mem_cons_self
    rw [List.flatMap_cons, List.length_append, hrest, Array.length_toList, hrow, List.length_cons,
      Nat.succ_mul, Nat.add_comm]

/-- Rows of one width, put one after another, are found again. -/
theorem take_drop_flatMap {width : ℕ} {f : α → Array β} (rows : List α)
    (h : ∀ row ∈ rows, (f row).size = width) (n : ℕ) (hn : n < rows.length) :
    ((rows.flatMap fun row => (f row).toList).drop (n * width)).take width = (f rows[n]).toList := by
  induction rows generalizing n with
  | nil => cases hn
  | cons row rest ih =>
    have hrow : (f row).toList.length = width := h row List.mem_cons_self
    rw [List.flatMap_cons]
    cases n with
    | zero =>
      rw [Nat.zero_mul, List.drop_zero, List.take_append_of_le_length (Nat.le_of_eq hrow.symm),
        List.take_of_length_le (Nat.le_of_eq hrow)]
      rfl
    | succ n =>
      rw [Nat.succ_mul, Nat.add_comm, ← List.drop_drop, List.drop_left' hrow]
      exact ih (fun other hother => h other (List.mem_cons_of_mem row hother)) n
        (Nat.lt_of_succ_lt_succ hn)

theorem size_flatMap {width : ℕ} {f : α → Array β} {rows : Array α}
    (h : ∀ row ∈ rows.toList, (f row).size = width) : (rows.flatMap f).size = rows.size * width := by
  rw [← Array.length_toList, Array.toList_flatMap, size_flatMap_eq _ h, Array.length_toList]

/-- What is put together from rows of one width has them as its rows. -/
theorem rowAt_flatMap {width : ℕ} {f : α → Array β} {rows : Array α}
    (h : ∀ row ∈ rows.toList, (f row).size = width) {n : ℕ} (hn : n < rows.size) :
    rowAt width (rows.flatMap f) n = f rows[n] := by
  apply Array.toList_inj.1
  rw [rowAt, Array.toList_extract, Array.toList_flatMap, List.extract_eq_take_drop, Nat.succ_mul,
    Nat.add_sub_cancel_left, take_drop_flatMap _ h n hn, Array.getElem_toList]

/-- An index in a row is a position in the array. -/
theorem getElem?_rowAt {width index : ℕ} (data : Array α) (row : ℕ) (hindex : index < width) :
    (rowAt width data row)[index]? = data[row * width + index]? := by
  have hend : (row + 1) * width = row * width + width := Nat.succ_mul row width
  rw [rowAt, Array.getElem?_extract]
  split
  · rfl
  · rw [Array.getElem?_eq_none (by omega)]

/-- Arrays with the same rows are the same. -/
theorem ext_rows {width count : ℕ} {left right : Array α} (hwidth : 0 < width)
    (hleft : left.size = count * width) (hright : right.size = count * width)
    (h : ∀ row < count, rowAt width left row = rowAt width right row) : left = right := by
  apply Array.ext_getElem?
  intro i
  -- every position is an index in some row
  obtain hi | hi := Nat.lt_or_ge i (count * width)
  · have hrow : i / width < count := Nat.div_lt_of_lt_mul (by rwa [Nat.mul_comm])
    have hindex : i % width < width := Nat.mod_lt i hwidth
    rw [← Nat.div_add_mod' i width, ← getElem?_rowAt left _ hindex, ← getElem?_rowAt right _ hindex,
      h _ hrow]
  · rw [Array.getElem?_eq_none (hleft ▸ hi), Array.getElem?_eq_none (hright ▸ hi)]

theorem rowAt_map (width : ℕ) (data : Array α) (row : ℕ) (f : α → β) :
    rowAt width (data.map f) row = (rowAt width data row).map f := by
  rw [rowAt, rowAt, Array.map_extract]

theorem extract_append_front {length : ℕ} {front back : Array α} (hfront : front.size = length) :
    (front ++ back).extract 0 length = front := by
  rw [← hfront, Array.extract_append_left, Array.extract_size]

section Mapping

variable {width wide count : ℕ} {data : Array α} {f : Array α → Array β}

theorem size_rowsOf (hwidth : 0 < width) (hsize : data.size = count * width) :
    (rowsOf width data).size = count := by
  rw [rowsOf, Array.size_ofFn, hsize, Nat.mul_div_cancel _ hwidth]

/-- Among the rows of an array of whole rows none is too short. -/
theorem size_of_mem_rowsOf (hwidth : 0 < width) (hsize : data.size = count * width) {line : Array α}
    (hline : line ∈ (rowsOf width data).toList) : line.size = width := by
  obtain ⟨row, rfl⟩ := Array.mem_ofFn.1 (Array.mem_toList_iff.1 hline)
  -- the array is made of whole rows
  have hcount : data.size / width = count := by rw [hsize, Nat.mul_div_cancel _ hwidth]
  exact size_rowAt hsize (Nat.lt_of_lt_of_eq row.isLt hcount)

/-- Mapped rows are as many as before, of the other width. -/
theorem size_mapRows (hwidth : 0 < width) (hsize : data.size = count * width)
    (hf : ∀ line, line.size = width → (f line).size = wide) :
    (mapRows width f data).size = count * wide := by
  rw [mapRows, size_flatMap fun line hline => hf line (size_of_mem_rowsOf hwidth hsize hline),
    size_rowsOf hwidth hsize]

/-- A row of mapped rows is a mapped row. -/
theorem rowAt_mapRows (hwidth : 0 < width) (hsize : data.size = count * width)
    (hf : ∀ line, line.size = width → (f line).size = wide) {row : ℕ} (hrow : row < count) :
    rowAt wide (mapRows width f data) row = f (rowAt width data row) := by
  have hrows : row < (rowsOf width data).size := by
    rw [size_rowsOf hwidth hsize]
    exact hrow
  rw [mapRows,
    rowAt_flatMap (fun line hline => hf line (size_of_mem_rowsOf hwidth hsize hline)) hrows]
  simp [rowsOf]

end Mapping

/-! ## Writing rows -/

section Writing

variable {width row other : ℕ} {values data : Array α}

/-- Values that are put down from a start on stand from there on, and the rest is as it was. -/
theorem getElem?_putFrom (start : ℕ) (values : List α) (data : Array α) {i : ℕ}
    (hi : i < data.size) :
    (putFrom start values data)[i]? =
      if start ≤ i then values[i - start]?.or data[i]? else data[i]? := by
  induction values generalizing start data with
  | nil => simp [putFrom]
  | cons value rest ih =>
    rw [putFrom, ih (start + 1) _ (by rwa [Array.size_setIfInBounds])]
    obtain hlt | rfl | hlt := Nat.lt_trichotomy start i
    · obtain ⟨k, rfl⟩ := Nat.exists_eq_add_of_lt hlt
      have hnext : start + k + 1 - (start + 1) = k := by omega
      have hindex : start + k + 1 - start = k + 1 := by omega
      rw [if_pos (by omega), if_pos (Nat.le_of_lt hlt),
        Array.getElem?_setIfInBounds_ne (Nat.ne_of_lt hlt), hnext, hindex, List.getElem?_cons_succ]
    · rw [if_neg (by omega), if_pos (Nat.le_refl _), Nat.sub_self,
        Array.getElem?_setIfInBounds_self_of_lt hi]
      rfl
    · rw [if_neg (by omega), if_neg (by omega),
        Array.getElem?_setIfInBounds_ne (Nat.ne_of_gt hlt)]

/-- A row that is written begins with what was written. -/
theorem extract_rowAt_putRow {count : ℕ} (hvalues : values.size = count) (hcount : count ≤ width)
    (hrow : (row + 1) * width ≤ data.size) :
    (rowAt width (putRow width row values data) row).extract 0 count = values := by
  have hsize : (rowAt width (putRow width row values data) row).size = width := by
    rw [rowAt, Array.size_extract, size_putRow, Nat.min_eq_left hrow, Nat.succ_mul,
      Nat.add_sub_cancel_left]
  apply Array.ext_getElem?
  intro i
  obtain hi | hi := Nat.lt_or_ge i count
  · rw [Nat.succ_mul] at hrow
    have hvalue : i < values.size := hvalues ▸ hi
    rw [Array.getElem?_extract, if_pos (by omega), Nat.zero_add, getElem?_rowAt _ row (by omega),
      putRow, getElem?_putFrom _ _ _ (by omega), if_pos (Nat.le_add_right ..),
      Nat.add_sub_cancel_left, Array.getElem?_toList, Array.getElem?_eq_getElem hvalue]
    rfl
  · rw [Array.getElem?_eq_none (by rw [Array.size_extract]; omega),
      Array.getElem?_eq_none (by omega)]

/-- A row that is written in full is what was written. -/
theorem rowAt_putRow_self (hvalues : values.size = width) (hrow : (row + 1) * width ≤ data.size) :
    rowAt width (putRow width row values data) row = values := by
  have hfront := extract_rowAt_putRow hvalues (Nat.le_refl width) hrow
  rwa [Array.extract_eq_self_of_le (size_rowAt_le ..)] at hfront

/-- A row that is written is no other row. -/
theorem rowAt_putRow_of_ne (hvalues : values.size ≤ width) (hother : other ≠ row) :
    rowAt width (putRow width row values data) other = rowAt width data other := by
  apply Array.ext_getElem?
  intro i
  obtain hi | hi := Nat.lt_or_ge i width
  · rw [getElem?_rowAt _ other hi, getElem?_rowAt _ other hi, putRow]
    obtain hplace | hplace := Nat.lt_or_ge (other * width + i) data.size
    · rw [getElem?_putFrom _ _ _ hplace]
      split
      · rename_i hstart
        -- a place behind the start of another row is behind all that is written
        have hbehind : (row + 1) * width ≤ other * width := by
          obtain hlt | hlt := Nat.lt_or_gt_of_ne hother
          · have hend := Nat.mul_le_mul_right width (Nat.succ_le_of_lt hlt)
            rw [Nat.succ_mul] at hend
            omega
          · exact Nat.mul_le_mul_right width hlt
        rw [Nat.succ_mul] at hbehind
        rw [List.getElem?_eq_none (by rw [Array.length_toList]; omega), Option.none_or]
      · rfl
    · rw [Array.getElem?_eq_none (by rwa [size_putFrom]), Array.getElem?_eq_none hplace]
  · have hleft := size_rowAt_le width (putRow width row values data) other
    have hright := size_rowAt_le width data other
    rw [Array.getElem?_eq_none (by omega), Array.getElem?_eq_none (by omega)]

/-- Whether two arrays have the same rows but for one. -/
def AgreeBut (width row : ℕ) (before after : Array α) : Prop :=
  ∀ other, other ≠ row → rowAt width after other = rowAt width before other

theorem AgreeBut.putRow (hvalues : values.size ≤ width) :
    AgreeBut width row data (putRow width row values data) :=
  fun _ hother => rowAt_putRow_of_ne hvalues hother

theorem AgreeBut.trans {before mid after : Array α} (h : AgreeBut width row before mid)
    (hnext : AgreeBut width row mid after) : AgreeBut width row before after :=
  fun other hother => (hnext other hother).trans (h other hother)

end Writing

/-! ## Scalars and complex numbers -/

/-- Real parts stand at the even positions, imaginary parts at the odd ones. -/
theorem getElem?_flat (data : Array (Complex α)) (i : ℕ) :
    (flat data)[i]? = (data[i / 2]?).map fun c => if i % 2 = 0 then c.re else c.im := by
  obtain hi | hi := Nat.lt_or_ge i (2 * data.size)
  · have hhalf : i / 2 < data.size := by omega
    rw [flat, Array.getElem?_ofFn, dif_pos hi, Array.getElem?_eq_getElem hhalf]
    rfl
  · rw [Array.getElem?_eq_none (by rw [size_flat]; exact hi), Array.getElem?_eq_none (by omega)]
    rfl

/-- The rows of scalars are those of complex numbers, flattened. -/
theorem rowAt_flat (width : ℕ) (data : Array (Complex α)) (row : ℕ) :
    rowAt (2 * width) (flat data) row = flat (rowAt width data row) := by
  apply Array.ext_getElem?
  intro i
  obtain hi | hi := Nat.lt_or_ge i (2 * width)
  · -- a row of scalars begins at twice the position of its row of complex numbers
    have hstart : row * (2 * width) = 2 * (row * width) := Nat.mul_left_comm row 2 width
    have hdiv : (row * (2 * width) + i) / 2 = row * width + i / 2 := by omega
    have hmod : (row * (2 * width) + i) % 2 = i % 2 := by omega
    rw [getElem?_rowAt _ row hi, getElem?_flat, getElem?_flat, hdiv, hmod,
      getElem?_rowAt data row (by omega)]
  · have hleft := size_rowAt_le (2 * width) (flat data) row
    have hright := size_rowAt_le width data row
    rw [Array.getElem?_eq_none (by omega), Array.getElem?_eq_none (by rw [size_flat]; omega)]

end SpectralBench.Cpu
