import SpectralBench.Cpu.Plan

/-!
# Fourier transforms of lines

The discrete Fourier transform of a line, computed in hardware double precision: a line of even
length is split into its even and its odd elements, and a line of odd length is summed directly.
Tables of roots of unity are computed when they are first used. Neither direction is scaled.

For another scalar type a line is transformed in double precision, and each element is rounded once.
-/

namespace SpectralBench.Cpu.Fourier

abbrev Line := Array (Complex Float)

instance : Inhabited (Complex Float) := ⟨⟨0, 0⟩⟩

def add (a b : Complex Float) : Complex Float := ⟨a.re + b.re, a.im + b.im⟩

def sub (a b : Complex Float) : Complex Float := ⟨a.re - b.re, a.im - b.im⟩

def mul (a b : Complex Float) : Complex Float :=
  ⟨a.re * b.re - a.im * b.im, a.re * b.im + a.im * b.re⟩

def conj (a : Complex Float) : Complex Float := ⟨a.re, -a.im⟩

/-- The powers of a root of unity of the given order; `sign` is that of the exponent. -/
def roots (sign : Float) (order : Nat) : Line :=
  Array.ofFn fun k : Fin order =>
    let angle := sign * 2 * 3.141592653589793 * k.val.toFloat / order.toFloat
    ⟨angle.cos, angle.sin⟩

/-- The transform of a line whose roots are every `step`-th of a table. -/
def transform (table : Line) (step : Nat) (line : Line) : Line :=
  let n := line.size
  if _ : 1 < n ∧ n % 2 = 0 then
    let even := transform table (2 * step)
      (Array.ofFn fun i : Fin (n / 2) => line.getD (2 * i) default)
    let odd := transform table (2 * step)
      (Array.ofFn fun i : Fin (n / 2) => line.getD (2 * i + 1) default)
    Array.ofFn fun k : Fin n =>
      let j := k % (n / 2)
      let turned := mul (table.getD (j * step) default) (odd.getD j default)
      if k < n / 2 then add (even.getD j default) turned else sub (even.getD j default) turned
  else
    Array.ofFn fun k : Fin n =>
      (Array.range n).foldl (fun sum j =>
        add sum (mul (line.getD j default) (table.getD (j * k % n * step) default))) default
termination_by line.size
decreasing_by all_goals simp only [Array.size_ofFn]; omega

section Plans

variable {α : Type} (widen : α → Float) (narrow : Float → α)

def widenLine (line : Array (Complex α)) : Line :=
  line.map fun c => ⟨widen c.re, widen c.im⟩

def narrowLine (line : Line) : Array (Complex α) :=
  line.map fun c => ⟨narrow c.re, narrow c.im⟩

/-- A complex plan in either direction. -/
def linePlan (sign : Float) (length : Nat) : LinePlan α :=
  let table : Thunk Line := ⟨fun _ => roots sign length⟩
  .ofLines length length 0 fun line => narrowLine narrow (transform table.get 1 (widenLine widen line))

/-- The bins that the spectrum of real numbers does not determine by symmetry. The bins without an
imaginary part have exactly none. -/
def spectrumPlan (length : Nat) : SpectrumPlan α :=
  let table : Thunk Line := ⟨fun _ => roots (-1) length⟩
  .ofLines length length fun line =>
    let full := transform table.get 1 (line.map (⟨widen ·, 0⟩))
    narrowLine narrow (Array.ofFn fun k : Fin (halfLength length) =>
      let bin := full.getD k default
      if k.val = 0 ∨ 2 * k.val = length then ⟨bin.re, 0⟩ else bin)

/-- The real numbers whose spectrum continues a half spectrum by symmetry. -/
def signalPlan [Zero α] [BEq α] (length : Nat) : SignalPlan α :=
  let table : Thunk Line := ⟨fun _ => roots 1 length⟩
  .ofLines length length fun line =>
    let half := widenLine widen line
    let full : Line := Array.ofFn fun k : Fin length =>
      if k.val < half.size then half.getD k default else conj (half.getD (length - k) default)
    (transform table.get 1 full).map (narrow ·.re)

/-- The library for scalars that are widened to double precision and narrowed again. -/
def library [Zero α] [BEq α] : Library α where
  forward := linePlan widen narrow (-1)
  inverse := linePlan widen narrow 1
  spectrum := spectrumPlan widen narrow
  signal := signalPlan widen narrow

end Plans

/-- The library for double precision. -/
def doubleLibrary : Library Float :=
  library id id

/-- The library for single precision. -/
def singleLibrary : Library Float32 :=
  library Float32.toFloat Float.toFloat32

end SpectralBench.Cpu.Fourier
