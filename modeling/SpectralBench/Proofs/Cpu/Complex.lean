import SpectralBench.Cpu.Complex
import Mathlib.Algebra.Ring.Basic
import Mathlib.Data.Nat.Cast.Basic
import Mathlib.Tactic.Ring

/-!
# Exact complex numbers

Where scalars are exact, pairs of them are complex numbers: they form a commutative ring, and a
transform of lines can be linear over it. A buffer of scalars is then scaled by a count exactly when
its complex view is.

Main statements:

* `Complex.instCommRing` — exact complex numbers form a commutative ring.
* `flat_pairs` — a buffer of even size is made of its complex view.
* `flat_scaled` — scaling the complex view scales the scalars.
-/

namespace SpectralBench.Cpu

namespace Complex

@[ext]
theorem ext {α : Type} {a b : Complex α} (hre : a.re = b.re) (him : a.im = b.im) : a = b := by
  cases a
  cases b
  simp_all

variable {K : Type} [CommRing K]

instance : Zero (Complex K) := ⟨⟨0, 0⟩⟩

instance : One (Complex K) := ⟨⟨1, 0⟩⟩

instance : NatCast (Complex K) := ⟨fun n => ⟨n, 0⟩⟩

instance : Add (Complex K) := ⟨fun a b => ⟨a.re + b.re, a.im + b.im⟩⟩

instance : Neg (Complex K) := ⟨fun a => ⟨-a.re, -a.im⟩⟩

instance : Mul (Complex K) :=
  ⟨fun a b => ⟨a.re * b.re - a.im * b.im, a.re * b.im + a.im * b.re⟩⟩

@[simp] theorem zero_re : (0 : Complex K).re = 0 := rfl
@[simp] theorem zero_im : (0 : Complex K).im = 0 := rfl
@[simp] theorem one_re : (1 : Complex K).re = 1 := rfl
@[simp] theorem one_im : (1 : Complex K).im = 0 := rfl
@[simp] theorem natCast_re (n : ℕ) : (n : Complex K).re = n := rfl
@[simp] theorem natCast_im (n : ℕ) : (n : Complex K).im = 0 := rfl
@[simp] theorem add_re (a b : Complex K) : (a + b).re = a.re + b.re := rfl
@[simp] theorem add_im (a b : Complex K) : (a + b).im = a.im + b.im := rfl
@[simp] theorem neg_re (a : Complex K) : (-a).re = -a.re := rfl
@[simp] theorem neg_im (a : Complex K) : (-a).im = -a.im := rfl
@[simp] theorem mul_re (a b : Complex K) : (a * b).re = a.re * b.re - a.im * b.im := rfl
@[simp] theorem mul_im (a b : Complex K) : (a * b).im = a.re * b.im + a.im * b.re := rfl

instance instCommRing : CommRing (Complex K) where
  add_assoc a b c := by ext <;> simp <;> ring
  zero_add a := by ext <;> simp
  add_zero a := by ext <;> simp
  add_comm a b := by ext <;> simp <;> ring
  neg_add_cancel a := by ext <;> simp
  mul_assoc a b c := by ext <;> simp <;> ring
  one_mul a := by ext <;> simp
  mul_one a := by ext <;> simp
  left_distrib a b c := by ext <;> simp <;> ring
  right_distrib a b c := by ext <;> simp <;> ring
  zero_mul a := by ext <;> simp
  mul_zero a := by ext <;> simp
  mul_comm a b := by ext <;> simp <;> ring
  natCast_zero := by ext <;> simp
  natCast_succ n := by ext <;> simp
  nsmul := nsmulRec
  zsmul := zsmulRec

/-- A multiple of a complex number by a count. -/
theorem natCast_mul (n : ℕ) (a : Complex K) : (n : Complex K) * a = ⟨n * a.re, n * a.im⟩ := by
  ext <;> simp

end Complex

/-- A buffer of even size is made of its complex view. -/
theorem flat_pairs {α : Type} {buffer : Array α} {count : ℕ} (hsize : buffer.size = 2 * count) :
    flat (pairs buffer) = buffer := by
  apply Array.ext
  · rw [size_flat, size_pairs]
    omega
  · intro i hi hi'
    have heven : i % 2 = 0 → 2 * (i / 2) = i := by omega
    have hodd : ¬i % 2 = 0 → 2 * (i / 2) + 1 = i := by omega
    simp only [flat, pairs, Array.getElem_ofFn]
    split <;> rename_i hparity
    · simp only [heven hparity]
    · simp only [hodd hparity]

/-- Scaling the complex view of a buffer by a count scales its scalars. -/
theorem flat_scaled {K : Type} [CommRing K] (n : ℕ) (data : Array (Complex K)) :
    flat (data.map ((n : Complex K) * ·)) = (flat data).map ((n : K) * ·) := by
  apply Array.ext
  · simp [size_flat]
  · intro i hi hi'
    simp only [flat, Array.getElem_ofFn, Array.getElem_map, Complex.natCast_mul]
    split <;> rfl

end SpectralBench.Cpu
