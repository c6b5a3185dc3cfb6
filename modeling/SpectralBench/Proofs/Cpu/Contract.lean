import SpectralBench.Cpu.Estimate
import SpectralBench.Cpu.Scalar
import SpectralBench.Cpu.State
import SpectralBench.Proofs.Cpu.Complex
import SpectralBench.Proofs.Cpu.Rows
import SpectralBench.Proofs.Geometry

/-!
# What is relied on of a library

Of the plans of a library this is relied on, and nothing else: lent buffers of the sizes that a plan
asks for, a call succeeds, and the elements that it was asked for are a function of those that it was
given, line by line. What scratch and the output held before makes no difference, and what is left in
scratch and in the input is anything. A half spectrum has to be one of real numbers: where it has an
imaginary part at its edges, nothing is relied on.

That lines keep to the sizes that a plan asks for need not be said: a slice keeps its length.

Main statements:

* `LinePlan.Transforms`, `SpectrumPlan.Transforms`, `SignalPlan.Transforms` — a plan does something to
  lines, whatever work buffers hold.
* `edgesClear_clearEdges` — a cleared half spectrum is one that the way back takes.
* `Fourier.library_realizes` — the libraries of both precisions are relied on rightly.
-/

namespace SpectralBench.Cpu

variable {α : Type}

/-! ## Complex plans -/

/-- Whether a plan does `f` to each of the lines that a buffer is made of. -/
structure LinePlan.Transforms (plan : LinePlan α) (f : Array (Complex α) → Array (Complex α)) :
    Prop where
  inPlace : ∀ {n s : ℕ} (data : Vector (Complex α) n) (scratch : Vector (Complex α) s),
    plan.length ∣ n → 0 < n → plan.scratchInPlace ≤ s →
    ∃ data' scratch', plan.inPlace data scratch = (.ok (), data', scratch') ∧
      data'.toArray = mapRows plan.length f data.toArray
  outOfPlace : ∀ {n k s : ℕ} (input : Vector (Complex α) n) (output : Vector (Complex α) k)
    (scratch : Vector (Complex α) s),
    plan.length ∣ n → 0 < n → n = k → plan.scratchOutOfPlace ≤ s →
    ∃ input' output' scratch',
      plan.outOfPlace input output scratch = (.ok (), input', output', scratch') ∧
        output'.toArray = mapRows plan.length f input.toArray

/-- A single line is the only row. -/
theorem mapRows_line {β : Type} {width : ℕ} {line : Array α} (hwidth : 0 < width)
    (hline : line.size = width) (f : Array α → Array β) : mapRows width f line = f line := by
  have hcount : line.size = 1 * width := by rw [hline, Nat.one_mul]
  have hrows : rowsOf width line = #[line] := by
    refine Array.ext (size_rowsOf hwidth hcount) fun i hi _ => ?_
    rw [size_rowsOf hwidth hcount, Nat.lt_one_iff] at hi
    subst hi
    simp [rowsOf, rowAt, ← hline]
  rw [mapRows, hrows]
  simp

/-- What a plan does keeps the length of a line. -/
theorem LinePlan.Transforms.size_eq {plan : LinePlan α} {f : Array (Complex α) → Array (Complex α)}
    [Zero α] (h : plan.Transforms f) (hpos : 0 < plan.length) {line : Array (Complex α)}
    (hline : line.size = plan.length) : (f line).size = plan.length := by
  obtain ⟨_, _, -, hresult⟩ := h.inPlace line.toVector (.replicate plan.scratchInPlace default)
    (hline ▸ Nat.dvd_refl _) (hline ▸ hpos) (Nat.le_refl _)
  have hsize := congrArg Array.size hresult
  rw [Vector.size_toArray] at hsize
  exact (congrArg Array.size (mapRows_line hpos hline f)).symm.trans (hsize.symm.trans hline)

/-! ## Real plans -/

/-- Whether a plan makes the half spectrum `f` of a line. -/
structure SpectrumPlan.Transforms (plan : SpectrumPlan α) (f : Array α → Array (Complex α)) :
    Prop where
  process : ∀ {n k s : ℕ} (input : Vector α n) (output : Vector (Complex α) k)
    (scratch : Vector (Complex α) s),
    n = plan.length → k = halfLength plan.length → plan.scratch ≤ s →
    ∃ input' output' scratch',
      plan.process input output scratch = (.ok (), input', output', scratch') ∧
        output'.toArray = f input.toArray

/-- Whether a half spectrum has no imaginary part where that of real numbers has none. -/
def EdgesClear [Zero α] (length : ℕ) (half : Array (Complex α)) : Prop :=
  ∀ (i : ℕ) (hi : i < half.size), i = 0 ∨ 2 * i = length → half[i].im = 0

/-- Whether a plan makes the line `f` of a half spectrum of real numbers. -/
structure SignalPlan.Transforms [Zero α] (plan : SignalPlan α) (f : Array (Complex α) → Array α) :
    Prop where
  process : ∀ {n k s : ℕ} (input : Vector (Complex α) n) (output : Vector α k)
    (scratch : Vector (Complex α) s),
    n = halfLength plan.length → k = plan.length → plan.scratch ≤ s →
    EdgesClear plan.length input.toArray →
    ∃ input' output' scratch',
      plan.process input output scratch = (.ok (), input', output', scratch') ∧
        output'.toArray = f input.toArray

theorem SpectrumPlan.Transforms.size_eq [Zero α] {plan : SpectrumPlan α}
    {f : Array α → Array (Complex α)} (h : plan.Transforms f) {line : Array α}
    (hline : line.size = plan.length) : (f line).size = halfLength plan.length := by
  obtain ⟨_, _, _, -, hresult⟩ := h.process line.toVector
    (.replicate (halfLength plan.length) default : Vector (Complex α) _)
    (.replicate plan.scratch default : Vector (Complex α) _) hline rfl (Nat.le_refl _)
  exact (congrArg Array.size hresult).symm.trans (Vector.size_toArray _)

theorem SignalPlan.Transforms.size_eq [Zero α] {plan : SignalPlan α}
    {f : Array (Complex α) → Array α} (h : plan.Transforms f) {half : Array (Complex α)}
    (hhalf : half.size = halfLength plan.length) (hclear : EdgesClear plan.length half) :
    (f half).size = plan.length := by
  obtain ⟨_, _, _, -, hresult⟩ := h.process half.toVector (.replicate plan.length 0 : Vector α _)
    (.replicate plan.scratch default : Vector (Complex α) _) hhalf rfl (Nat.le_refl _) hclear
  exact (congrArg Array.size hresult).symm.trans (Vector.size_toArray _)

section Edges

open Rig (clearEdges)

variable [Zero α] {length : ℕ} {half : Array (Complex α)}

theorem size_clearEdges (length : ℕ) (half : Array (Complex α)) :
    (clearEdges length half).size = half.size := by
  rw [clearEdges, Array.size_mapIdx]

/-- In a half spectrum, the last bin is an edge exactly for an even length. -/
theorem edgesClear_clearEdges (hhalf : half.size = halfLength length) :
    EdgesClear length (clearEdges length half) := by
  intro i hi hedge
  rw [size_clearEdges] at hi
  have hcleared : i = 0 ∨ (length % 2 = 0 ∧ i + 1 = half.size) := by
    rw [hhalf, halfLength] at *
    omega
  simp only [clearEdges, Array.getElem_mapIdx]
  rw [if_pos hcleared]

/-- There is nothing to clear in a spectrum without imaginary parts at its edges. -/
theorem clearEdges_eq_self (hhalf : half.size = halfLength length) (hclear : EdgesClear length half) :
    clearEdges length half = half := by
  refine Array.ext (size_clearEdges ..) fun i hi hi' => ?_
  simp only [clearEdges, Array.getElem_mapIdx]
  split
  · rename_i hedge
    -- where the length is odd, the last bin is no edge
    have hbin : i = 0 ∨ 2 * i = length := by
      rw [hhalf, halfLength] at hedge
      omega
    exact Complex.ext rfl (hclear i hi' hbin).symm
  · rfl

end Edges

/-! ## Libraries -/

/-- What the plans of a library do to single lines, by their length. -/
structure Lines (α : Type) where
  forward : ℕ → Array (Complex α) → Array (Complex α)
  inverse : ℕ → Array (Complex α) → Array (Complex α)
  spectrum : ℕ → Array α → Array (Complex α)
  signal : ℕ → Array (Complex α) → Array α

/-- Whether the complex plan for a length takes lines of that length, and does `f` to them. -/
structure Provides (plan : ℕ → LinePlan α) (f : ℕ → Array (Complex α) → Array (Complex α)) (d : ℕ) :
    Prop where
  length_eq : (plan d).length = d
  transforms : (plan d).Transforms (f d)

/-- Whether the real plan for a length takes lines of that length, and makes these half spectra. -/
structure Library.ProvidesSpectra (library : Library α) (lines : Lines α) (d : ℕ) : Prop where
  length_eq : (library.spectrum d).length = d
  transforms : (library.spectrum d).Transforms (lines.spectrum d)

theorem Library.ProvidesSpectra.size_eq [Zero α] {library : Library α} {lines : Lines α} {d : ℕ}
    (h : library.ProvidesSpectra lines d) {line : Array α} (hline : line.size = d) :
    (lines.spectrum d line).size = halfLength d := by
  have hlength := h.length_eq
  rw [h.transforms.size_eq (hline.trans hlength.symm), hlength]

/-- Whether the real plan for a length takes half spectra of that length, and makes these lines. -/
structure Library.ProvidesSignals [Zero α] (library : Library α) (lines : Lines α) (d : ℕ) :
    Prop where
  length_eq : (library.signal d).length = d
  transforms : (library.signal d).Transforms (lines.signal d)

/-- Whether all plans for a length do to lines of that length what is said. -/
structure Library.Realizes [Zero α] (library : Library α) (lines : Lines α) (d : ℕ) : Prop where
  forward : Provides library.forward lines.forward d
  inverse : Provides library.inverse lines.inverse d
  spectrum : library.ProvidesSpectra lines d
  signal : library.ProvidesSignals lines d

/-- A scalar type with bytes of one size, and with a library whose plans do this to lines. -/
structure Scalar.Realizes [Zero α] (scalar : Scalar α) (lines : Lines α) : Prop where
  length_toBytes : ∀ x, (scalar.toBytes x).length = scalar.precision.realSize
  library : ∀ d, 0 < d → scalar.library.Realizes lines d

/-! ## Plans from transforms of lines -/

theorem toArray_refill {β : Type} {n : ℕ} {values : Array β} (hvalues : values.size = n)
    (buffer : Vector β n) : (refill buffer values).toArray = values := by
  rw [refill, dif_pos hvalues]

/-- A plan that is made of a function on lines transforms as the function does, in place and
across. -/
theorem LinePlan.ofLines_transforms {length : ℕ} (hpos : 0 < length)
    {scratchInPlace scratchOutOfPlace : ℕ} {f : Array (Complex α) → Array (Complex α)}
    (hf : ∀ line, line.size = length → (f line).size = length) :
    (LinePlan.ofLines length scratchInPlace scratchOutOfPlace f).Transforms f := by
  have hsize : ∀ {n : ℕ} (data : Vector (Complex α) n), length ∣ n →
      (mapRows length f data.toArray).size = n := by
    rintro n data ⟨count, rfl⟩
    have hdata : data.toArray.size = count * length :=
      (Vector.size_toArray _).trans (Nat.mul_comm ..)
    rw [size_mapRows hpos hdata hf, Nat.mul_comm]
  constructor
  · intro n s data scratch hdvd _ hscratch
    simp only [ofLines] at hdvd hscratch ⊢
    rw [if_pos ⟨Nat.mod_eq_zero_of_dvd hdvd, hscratch⟩]
    exact ⟨_, _, rfl, toArray_refill (hsize data hdvd) data⟩
  · intro n k s input output scratch hdvd _ hsame hscratch
    subst hsame
    simp only [ofLines] at hdvd hscratch ⊢
    rw [if_pos ⟨Nat.mod_eq_zero_of_dvd hdvd, trivial, hscratch⟩]
    exact ⟨_, _, _, rfl, toArray_refill (hsize input hdvd) output⟩

/-- A plan from reals to half spectra that is made of a function. -/
theorem SpectrumPlan.ofLines_transforms {length scratch : ℕ} {f : Array α → Array (Complex α)}
    (hf : ∀ line, line.size = length → (f line).size = halfLength length) :
    (SpectrumPlan.ofLines length scratch f).Transforms f := by
  constructor
  intro n k s input output work hn hk hscratch
  simp only [ofLines] at hn hk hscratch ⊢
  subst hn hk
  rw [if_pos ⟨rfl, rfl, hscratch⟩]
  exact ⟨_, _, _, rfl, toArray_refill (hf _ (Vector.size_toArray _)) output⟩

/-- Edges without imaginary parts pass the check of a plan that asks for them. -/
theorem clearAtEdges_of_edgesClear [Zero α] [BEq α] (hzero : ((0 : α) == 0) = true) {length : ℕ}
    {half : Array (Complex α)} (hhalf : half.size = halfLength length)
    (hclear : EdgesClear length half) : clearAtEdges length half = true := by
  have hpos : 0 < half.size := hhalf ▸ halfLength_pos length
  have hfirst : half[0]?.all (·.im == 0) = true := by
    rw [Array.getElem?_eq_getElem hpos]
    simp [hclear 0 hpos (.inl rfl), hzero]
  simp only [clearAtEdges, hfirst, Bool.true_and, Bool.or_eq_true, beq_iff_eq]
  obtain heven | hodd := Nat.mod_two_eq_zero_or_one length
  · -- the last bin of an even length is the one in the middle
    have hlast : half.size - 1 < half.size := Nat.sub_lt hpos Nat.one_pos
    have hmiddle : 2 * (half.size - 1) = length := by
      rw [hhalf, halfLength]
      omega
    rw [Array.back?_eq_getElem?, Array.getElem?_eq_getElem hlast]
    simp [hclear _ hlast (.inr hmiddle), hzero]
  · exact .inl hodd

/-- A plan from half spectra to reals that is made of a function; it fails where the edges are not
clear, so it is relied on only where they are. -/
theorem SignalPlan.ofLines_transforms [Zero α] [BEq α] (hzero : ((0 : α) == 0) = true)
    {length scratch : ℕ} {f : Array (Complex α) → Array α}
    (hf : ∀ half, half.size = halfLength length → (f half).size = length) :
    (SignalPlan.ofLines length scratch f).Transforms f := by
  constructor
  intro n k s input output work hn hk hscratch hclear
  simp only [ofLines] at hn hk hscratch hclear ⊢
  subst hn hk
  have hinput := Vector.size_toArray input
  rw [if_pos ⟨rfl, rfl, hscratch⟩, if_pos (clearAtEdges_of_edgesClear hzero hinput hclear)]
  exact ⟨_, _, _, rfl, toArray_refill (hf _ hinput) output⟩

/-! ## The libraries of the two precisions -/

namespace Fourier

/-- What the library does to lines of scalars that are widened and narrowed. -/
def lines (widen : α → Float) (narrow : Float → α) : Lines α where
  forward length line :=
    narrowLine narrow (transform (roots (-1) length) 1 (widenLine widen line))
  inverse length line := narrowLine narrow (transform (roots 1 length) 1 (widenLine widen line))
  spectrum length line :=
    let full := transform (roots (-1) length) 1 (line.map (⟨widen ·, 0⟩))
    narrowLine narrow (Array.ofFn fun k : Fin (halfLength length) =>
      let bin := full.getD k default
      if k.val = 0 ∨ 2 * k.val = length then ⟨bin.re, 0⟩ else bin)
  signal length line :=
    let half := widenLine widen line
    let full : Line := Array.ofFn fun k : Fin length =>
      if k.val < half.size then half.getD k default else conj (half.getD (length - k) default)
    (transform (roots 1 length) 1 full).map (narrow ·.re)

theorem size_transform (table : Line) (step : ℕ) (line : Line) :
    (transform table step line).size = line.size := by
  rw [transform]
  split <;> exact Array.size_ofFn

theorem size_narrowed (narrow : Float → α) (widen : α → Float) (table : Line)
    {line : Array (Complex α)} {d : ℕ} (hline : line.size = d) :
    (narrowLine narrow (transform table 1 (widenLine widen line))).size = d := by
  rw [narrowLine, Array.size_map, size_transform, widenLine, Array.size_map, hline]

/-- The library for a scalar type realizes the transforms that it is made of. -/
theorem library_realizes [Zero α] [BEq α] (hzero : ((0 : α) == 0) = true) (widen : α → Float)
    (narrow : Float → α) {d : ℕ} (hd : 0 < d) :
    (library widen narrow).Realizes (lines widen narrow) d where
  forward := ⟨rfl, LinePlan.ofLines_transforms hd fun _ => size_narrowed narrow widen _⟩
  inverse := ⟨rfl, LinePlan.ofLines_transforms hd fun _ => size_narrowed narrow widen _⟩
  spectrum := by
    refine ⟨rfl, SpectrumPlan.ofLines_transforms (f := (lines widen narrow).spectrum d) ?_⟩
    exact fun _ _ => (Array.size_map ..).trans Array.size_ofFn
  signal := by
    refine ⟨rfl, SignalPlan.ofLines_transforms (f := (lines widen narrow).signal d) hzero ?_⟩
    exact fun _ _ => (Array.size_map ..).trans ((size_transform ..).trans Array.size_ofFn)

end Fourier

/-- Double precision computes in doubles. -/
theorem Scalar.double_realizes : Scalar.double.Realizes (Fourier.lines id id) where
  length_toBytes _ := length_littleEndian ..
  library _ := Fourier.library_realizes (by decide) id id

/-- Single precision computes in doubles as well, between a conversion from singles and one to
them. -/
theorem Scalar.single_realizes :
    Scalar.single.Realizes (Fourier.lines Float32.toFloat Float.toFloat32) where
  length_toBytes _ := length_littleEndian ..
  library _ := Fourier.library_realizes (by decide) Float32.toFloat Float.toFloat32

end SpectralBench.Cpu
