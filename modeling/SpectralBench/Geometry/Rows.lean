import SpectralBench.Geometry

/-!
# Rows in a padded buffer

A transfer moves whole rows. The host holds them one after another; in the buffer each row starts a
pitch after the one before it, and what lies between the rows is padding that no transfer touches.
A geometry without padding is one row. Sizes are in elements of `unit` bytes each, so that the same
rows describe a buffer of bytes and a buffer of numbers.

A buffer may be too short. Then the rows that fit are moved, and the failure names the sizes in
bytes.

Main statements:

* `Rows.size_scatter`, `Rows.size_gather` — transfers keep the length of what they write to.
-/

namespace SpectralBench

/-- Rows of `width` elements, `pitch` elements apart. -/
structure Rows where
  count : Nat
  width : Nat
  pitch : Nat
  deriving DecidableEq, Repr

namespace Rows

/-- Whether the row lies inside a buffer of the given length. -/
def fits (rows : Rows) (length row : Nat) : Bool :=
  row * rows.pitch + rows.width ≤ length

/-- Whether every row lies inside a buffer of the given length; the last one reaches furthest. -/
def allFit (rows : Rows) (length : Nat) : Bool :=
  rows.count = 0 || rows.fits length (rows.count - 1)

/-- The place in the host of the element that belongs to a place of the buffer, unless that place
is padding or part of a row that does not fit. -/
def source? (rows : Rows) (length place : Nat) : Option Nat :=
  let row := place / rows.pitch
  let column := place % rows.pitch
  if row < rows.count ∧ column < rows.width ∧ rows.fits length row then
    some (row * rows.width + column)
  else none

/-- Writes the host's rows into a buffer, as far as they fit. -/
def scatter {α : Type} (rows : Rows) (host buffer : Array α) : Array α :=
  buffer.mapIdx fun place old =>
    ((rows.source? buffer.size place).bind (host[·]?)).getD old

/-- Reads the rows of a buffer into the host, as far as they fit. -/
def gather {α : Type} (rows : Rows) (buffer host : Array α) : Array α :=
  host.mapIdx fun place old =>
    let row := place / rows.width
    if rows.fits buffer.size row then
      buffer.getD (row * rows.pitch + place % rows.width) old
    else old

theorem size_scatter {α : Type} (rows : Rows) (host buffer : Array α) :
    (rows.scatter host buffer).size = buffer.size := by
  simp [scatter]

theorem size_gather {α : Type} (rows : Rows) (buffer host : Array α) :
    (rows.gather buffer host).size = host.size := by
  simp [gather]

end Rows

namespace Geometry

/-- The padded rows of a real transform in place with more than one axis, in bytes. With one axis
the padding lies behind the only row, and the transfer is contiguous. -/
def padding? (g : Geometry) : Option Rows :=
  if g.isPadded ∧ 2 ≤ g.extent.rank then
    some {
      count := g.rows
      width := g.extent.last * g.precision.realSize
      pitch := halfLength g.extent.last * g.precision.complexSize }
  else none

/-- The rows of a transfer, in elements of `unit` bytes. -/
def transferRows (g : Geometry) (unit : Nat) : Rows :=
  match g.padding? with
  | some rows => { rows with width := rows.width / unit, pitch := rows.pitch / unit }
  | none => { count := 1, width := g.transferSize / unit, pitch := g.transferSize / unit }

/-- Refuses a transfer of a length other than the geometry's. -/
def checkTransfer (g : Geometry) (operation : String) (actual : Nat) : Except Failure Unit :=
  if actual = g.transferSize then .ok ()
  else .error (.transferSize operation g.transferSize actual)

/-- Uploads a host's elements into a buffer: the buffer afterwards, and whether every row fitted. -/
def scatter {α : Type} (g : Geometry) (unit : Nat) (host buffer : Array α) :
    Array α × Except Failure Unit :=
  match g.checkTransfer "upload" (host.size * unit) with
  | .error failure => (buffer, .error failure)
  | .ok () =>
    let rows := g.transferRows unit
    (rows.scatter host buffer,
      if rows.allFit buffer.size then .ok ()
      else .error (.transferSize "upload" g.dataSize (buffer.size * unit)))

/-- Downloads a buffer's elements into a host: the host afterwards, and whether every row fitted. -/
def gather {α : Type} (g : Geometry) (unit : Nat) (buffer host : Array α) :
    Array α × Except Failure Unit :=
  match g.checkTransfer "download" (host.size * unit) with
  | .error failure => (host, .error failure)
  | .ok () =>
    let rows := g.transferRows unit
    (rows.gather buffer host,
      if rows.allFit buffer.size then .ok ()
      else .error (.transferSize "download" g.dataSize (buffer.size * unit)))

end Geometry

end SpectralBench
