import SpectralBench.Failure

/-!
# Work on buffers

An engine works on buffers that it keeps, one step after another, and a step may fail. What the steps
before it did is not undone then: the buffers stay as it found them.

An index outside of a buffer, and a copy between slices of different lengths, stop the program.
-/

namespace SpectralBench.Cpu

variable {σ β : Type}

/-- A computation on a state that may fail; the state is then what the failure left. -/
abbrev Work (σ β : Type) : Type :=
  ExceptT Failure (StateM σ) β

/-- One step, by its answer and the state that it leaves. -/
def act (f : σ → Except Failure β × σ) : Work σ β :=
  ExceptT.mk (modifyGet f)

/-- A result that the state has no part in. -/
def settle (result : Except Failure β) : Work σ β :=
  ExceptT.mk (pure result)

/-- Runs a body for so many numbers, from the given one on. -/
def countFrom (body : Nat → Work σ Unit) (first : Nat) : Nat → Work σ Unit
  | 0 => return ()
  | count + 1 => do
    body first
    countFrom body (first + 1) count

/-- Runs a body for every number below a bound, from zero on. -/
def countUp (count : Nat) (body : Nat → Work σ Unit) : Work σ Unit :=
  countFrom body 0 count

/-! ## Slices -/

/-- What an index that is not below the size comes to. -/
def outOfRange (index size : Nat) : Failure :=
  .panic s!"index out of bounds: the len is {size} but the index is {index}"

/-- What a slice holds after another one was copied over it. -/
def copied (target source : Array β) : Except Failure (Array β) :=
  if target.size = source.size then .ok source
  else .error (.panic (s!"copy_from_slice: source slice length ({source.size}) " ++
    s!"does not match destination slice length ({target.size})"))

/-- The first elements of a buffer, as far as there are so many. -/
def front (count : Nat) (buffer : Array β) : Vector β (min count buffer.size) :=
  buffer.toVector.take count

/-- Puts other elements in place of the first ones. -/
def putFront {n : Nat} (first : Vector β n) (buffer : Array β) : Array β :=
  first.toArray ++ buffer.extract n

theorem toArray_front (count : Nat) (buffer : Array β) :
    (front count buffer).toArray = buffer.extract 0 count := by
  rw [front, Vector.toArray_take, Array.take_eq_extract]

theorem size_putFront {count : Nat} (buffer : Array β) (first : Vector β (min count buffer.size)) :
    (putFront first buffer).size = buffer.size := by
  rw [putFront, Array.size_append, Vector.size_toArray, Array.size_extract]
  omega

end SpectralBench.Cpu
