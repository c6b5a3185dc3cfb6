import SpectralBench.Cpu.Work

/-!
# Rows of a buffer

A buffer of several axes is made of rows, one after another. What is left behind the last whole row
belongs to none. Rows are read as slices, and written over those that are there.

Main statements:

* `size_putRow` — writing a row keeps the size of the buffer.
-/

namespace SpectralBench.Cpu

variable {α β : Type}

/-- A row of a buffer. -/
def rowAt (width : Nat) (data : Array α) (row : Nat) : Array α :=
  data.extract (row * width) ((row + 1) * width)

/-- The whole rows of a buffer. -/
def rowsOf (width : Nat) (data : Array α) : Array (Array α) :=
  Array.ofFn fun row : Fin (data.size / width) => rowAt width data row

/-- Maps the whole rows of a buffer and puts the results one after another. -/
def mapRows (width : Nat) (f : Array α → Array β) (data : Array α) : Array β :=
  (rowsOf width data).flatMap f

/-- Writes elements over those from a position on; what would be behind the end is dropped. -/
def putFrom (start : Nat) : List α → Array α → Array α
  | [], data => data
  | value :: rest, data => putFrom (start + 1) rest (data.setIfInBounds start value)

/-- Writes elements over those of a row. -/
def putRow (width row : Nat) (values data : Array α) : Array α :=
  putFrom (row * width) values.toList data

theorem size_putFrom (start : Nat) (values : List α) (data : Array α) :
    (putFrom start values data).size = data.size := by
  induction values generalizing start data with
  | nil => rfl
  | cons value rest ih => rw [putFrom, ih, Array.size_setIfInBounds]

theorem size_putRow (width row : Nat) (values data : Array α) :
    (putRow width row values data).size = data.size :=
  size_putFrom ..

end SpectralBench.Cpu
