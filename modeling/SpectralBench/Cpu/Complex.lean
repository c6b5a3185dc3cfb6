/-!
# Complex numbers in buffers of scalars

A complex number takes two neighbouring places of a buffer, the real part first. A buffer can be
seen as one of complex numbers and back.

Main statements:

* `size_pairs`, `size_flat` — two scalars make one complex number.
* `pairs_flat` — the complex view of a flattened buffer is the buffer.
-/

namespace SpectralBench.Cpu

structure Complex (α : Type) where
  re : α
  im : α
  deriving DecidableEq, Repr

instance {α : Type} [Zero α] : Inhabited (Complex α) := ⟨⟨0, 0⟩⟩

variable {α : Type}

/-- The complex view of a buffer; an odd scalar at the end belongs to none. -/
def pairs (buffer : Array α) : Array (Complex α) :=
  Array.ofFn fun i : Fin (buffer.size / 2) =>
    have hre : 2 * i.val < buffer.size := by omega
    have him : 2 * i.val + 1 < buffer.size := by omega
    ⟨buffer[2 * i.val], buffer[2 * i.val + 1]⟩

/-- The scalars of a complex buffer. -/
def flat (buffer : Array (Complex α)) : Array α :=
  Array.ofFn fun i : Fin (2 * buffer.size) =>
    have h : i.val / 2 < buffer.size := by omega
    if i.val % 2 = 0 then buffer[i.val / 2].re else buffer[i.val / 2].im

theorem size_pairs (buffer : Array α) : (pairs buffer).size = buffer.size / 2 := by
  simp [pairs]

theorem size_flat (buffer : Array (Complex α)) : (flat buffer).size = 2 * buffer.size := by
  simp [flat]

theorem pairs_flat (buffer : Array (Complex α)) : pairs (flat buffer) = buffer := by
  apply Array.ext
  · simp [size_pairs, size_flat]
  · intro i h1 h2
    have hodd : (2 * i + 1) / 2 = i := by omega
    simp [pairs, flat, hodd]

end SpectralBench.Cpu
