import SpectralBench.Proofs.Cpu.RoundTrip
import SpectralBench.Proofs.Cpu.Separation
import SpectralBench.Proofs.Geometry.Transfers
import Mathlib.Analysis.SpecialFunctions.Trigonometric.Basic

/-!
# Spectra

What a forward transform leaves in the buffer of the transform domain is the discrete Fourier
transform of what was uploaded, along all axes and without a factor. Scalars are real numbers here,
and the library is relied on to transform single lines exactly: complex lines, and real ones up to
the middle of their spectrum. Of the other direction nothing is assumed.

It does not matter whether there are two buffers, nor what lies between padded rows: one array is
the spectrum in every case.

Main statements:

* `weight_wave` — the waves along all axes make one rotation.
* `fourier_forward_acts`, `entries_halfSums` — exact transforms of lines, as sums.
* `getElem?_spectrumOf` — the passes of a transform are Fourier sums.
* `Rig.executeForward_spectrum` — a forward transform leaves the spectrum of what the rows hold.
* `engine_spectrum` — the spectrum of what an engine was given, with and without a second buffer.
-/

namespace SpectralBench

/-- The calls of a new engine up to a forward transform. -/
def Engine.forward {m : Type → Type} [Monad m] (engine : Engine m) (input : Array UInt8) :
    ExceptT Failure m Unit := do
  engine.allocate
  engine.planForward
  engine.upload input
  engine.executeForward

namespace Cpu

/-! ## Fourier sums -/

/-- One, turned clockwise by so many full turns. -/
noncomputable def rotation (turns : ℝ) : Complex ℝ :=
  ⟨Real.cos (2 * Real.pi * turns), -Real.sin (2 * Real.pi * turns)⟩

theorem rotation_zero : rotation 0 = 1 := by
  ext <;> simp [rotation]

theorem rotation_add (a b : ℝ) : rotation (a + b) = rotation a * rotation b := by
  ext
  · simp only [rotation, mul_add, Real.cos_add, Complex.mul_re]
    ring
  · simp only [rotation, mul_add, Real.sin_add, Complex.mul_im]
    ring

/-- The turns by which a bin of a spectrum turns an element of the array, over all axes. -/
noncomputable def turns : List ℕ → List ℕ → List ℕ → ℝ
  | d :: inner, k :: bin, i :: index => k * i / d + turns inner bin index
  | _, _, _ => 0

/-- The discrete Fourier transform of an array of the given lengths, at one bin. -/
noncomputable def fourierSum (lengths : List ℕ) (x : ℕ → Complex ℝ) (bin : List ℕ) : Complex ℝ :=
  sumOver lengths fun index => rotation (turns lengths bin index) * x (rowMajor lengths index)

/-- The kernel of the transform of a line. -/
noncomputable def wave (d k i : ℕ) : Complex ℝ :=
  rotation (k * i / d)

/-- The waves along all axes make one rotation. -/
theorem weight_wave (lengths bin index : List ℕ) :
    weight wave lengths bin index = rotation (turns lengths bin index) := by
  induction lengths generalizing bin index with
  | nil => exact rotation_zero.symm
  | cons d inner ih =>
    obtain _ | ⟨k, bin⟩ := bin
    · exact rotation_zero.symm
    obtain _ | ⟨i, index⟩ := index
    · exact rotation_zero.symm
    rw [weight, turns, rotation_add, ih, wave]

/-! ## Exact libraries -/

/-- The Fourier sums of a line. -/
noncomputable def lineSums (d : ℕ) (v : Fin d → Complex ℝ) (k : Fin d) : Complex ℝ :=
  ∑ i : Fin d, rotation (k * i / d) * v i

/-- Those of a line of real numbers, up to the middle. -/
noncomputable def halfSums (length : ℕ) (x : Fin length → ℝ) (k : Fin (halfLength length)) :
    Complex ℝ :=
  ∑ i : Fin length, rotation (k * i / length) * ⟨x i, 0⟩

/-- What is relied on of the complex plan of a length: it computes the transform of a line. -/
structure Library.TransformsLines (library : Library ℝ) (d : ℕ) : Prop where
  length_eq : (library.forward d).length = d
  transforms : (library.forward d).Transforms (onLines (lineSums d))

/-- What is relied on of the real plan of a length: it computes the transform of a line of real
numbers up to the middle. -/
structure Library.TransformsReals (library : Library ℝ) (length : ℕ) : Prop where
  length_eq : (library.spectrum length).length = length
  transforms : (library.spectrum length).Transforms (onLines (halfSums length))

/-- The exact transforms of lines, back without a factor as well. -/
noncomputable def Lines.fourier : Lines ℝ where
  forward d := onLines (lineSums d)
  inverse d := onLines fun v (k : Fin d) => ∑ i : Fin d, rotation (-(k * i / d)) * v i
  spectrum length := onLines (halfSums length)
  signal length half := Array.ofFn fun k : Fin length =>
    (∑ i : Fin length, rotation (-(k * i / length)) *
      -- the bins behind the middle mirror those before it
      if i < half.size then half.getD i 0
      else ⟨(half.getD (length - i) 0).re, -(half.getD (length - i) 0).im⟩).re

theorem fourier_forward_acts (d : ℕ) : ActsBy d (wave d) (Lines.fourier.forward d) := by
  intro values hvalues
  obtain ⟨v, rfl⟩ := exists_ofFn hvalues
  have hsums : Lines.fourier.forward d (Array.ofFn v) = Array.ofFn (lineSums d v) := onLines_ofFn ..
  rw [hsums]
  refine ⟨Array.size_ofFn, fun k hk => ?_⟩
  rw [entries_ofFn _ ⟨k, hk⟩, lineSums, Finset.sum_range]
  refine Finset.sum_congr rfl fun i _ => ?_
  rw [entries_ofFn, wave]

/-- The elements of the half spectra of rows. -/
theorem entries_halfSums {length count : ℕ} (hlength : 0 < length) {host : Array ℝ}
    (hhost : host.size = count * length) {row k : ℕ} (hrow : row < count)
    (hk : k < halfLength length) :
    entries (mapRows length (Lines.fourier.spectrum length) host) (row * halfLength length + k) =
      ∑ i ∈ Finset.range length, wave length k i * ⟨host.getD (row * length + i) 0, 0⟩ := by
  -- the row, as the numbers that it is made of
  have hvalues : rowAt length host row =
      Array.ofFn fun i : Fin length => host.getD (row * length + i) 0 := by
    refine Array.ext ((size_rowAt hhost hrow).trans Array.size_ofFn.symm) fun i hi hi' => ?_
    have hplace : row * length + i < host.size := by
      rw [hhost]
      exact Rows.place_lt hrow (by rwa [size_rowAt hhost hrow] at hi)
    rw [Array.getElem_ofFn, Array.getD_eq_getD_getElem?, Array.getElem?_eq_getElem hplace]
    simp [rowAt]
  have hspectrum : rowAt (halfLength length)
      (mapRows length (Lines.fourier.spectrum length) host) row =
      Array.ofFn (halfSums length fun i => host.getD (row * length + i) 0) := by
    have hwidth : ∀ values : Array ℝ, values.size = length →
        (Lines.fourier.spectrum length values).size = halfLength length :=
      fun values _ => size_onLines _ values
    rw [rowAt_mapRows hlength hhost hwidth hrow, hvalues]
    exact onLines_ofFn ..
  rw [entries, Array.getD_eq_getD_getElem?, ← getElem?_rowAt _ row hk, hspectrum,
    Array.getElem?_ofFn, dif_pos hk, Option.getD_some, halfSums, Finset.sum_range]
  rfl

/-! ## The spectrum of a host -/

/-- The elements of a host that has a buffer's scalars; real numbers have no imaginary part. -/
def elements (kind : Kind) (host : Array ℝ) (place : ℕ) : Complex ℝ :=
  match kind with
  | .complex => entries (pairs host) place
  | .real => ⟨host.getD place 0, 0⟩

/-- The width of transformed rows. -/
def rowWidth (kind : Kind) (extent : Extent) : ℕ :=
  if kind.isReal then halfLength extent.last else extent.last

section Spectrum

variable {kind : Kind} {extent : Extent} {host : Array ℝ}

theorem complexSizes_eq_concat (kind : Kind) (extent : Extent) :
    extent.complexSizes kind = extent.outer ++ [rowWidth kind extent] :=
  extent.complexSizes_eq kind

theorem rowWidth_pos (kind : Kind) (extent : Extent) : 0 < rowWidth kind extent := by
  rw [rowWidth]
  split
  · exact halfLength_pos _
  · exact extent.last_pos

variable (hhost : host.size = Word.product extent.sizes * if kind.isReal then 1 else 2)

include hhost

/-- The rows of a host are transformed to rows of the spectrum. -/
theorem size_rowSpectra : (Lines.fourier.rowSpectra kind extent host).size =
    Word.product (extent.complexSizes kind) := by
  rw [← extent.outer_append_last, Word.product_concat] at hhost
  rw [complexSizes_eq_concat, Word.product_concat]
  cases kind with
  | complex =>
    have hpairs : (pairs host).size = Word.product extent.outer * extent.last :=
      (size_pairs host).trans (hhost ▸ Nat.mul_div_cancel _ Nat.two_pos)
    exact size_mapRows extent.last_pos hpairs fun values _ => size_onLines _ values
  | real =>
    exact size_mapRows extent.last_pos (hhost.trans (Nat.mul_one _)) fun values _ =>
      size_onLines _ values

/-- Transformed rows are Fourier sums of the rows of the host. -/
theorem entries_rowSpectra {row k : ℕ} (hrow : row < Word.product extent.outer)
    (hk : k < rowWidth kind extent) :
    entries (Lines.fourier.rowSpectra kind extent host) (row * rowWidth kind extent + k) =
      ∑ i ∈ Finset.range extent.last,
        wave extent.last k i * elements kind host (row * extent.last + i) := by
  rw [← extent.outer_append_last, Word.product_concat] at hhost
  cases kind with
  | complex =>
    have hpairs : (pairs host).size = Word.product extent.outer * extent.last :=
      (size_pairs host).trans (hhost ▸ Nat.mul_div_cancel _ Nat.two_pos)
    exact (congrFun
      (entries_mapRows extent.last_pos (fourier_forward_acts extent.last) hpairs) _).trans (pass_row hk (wave extent.last) (entries (pairs host)) row)
  | real => exact entries_halfSums extent.last_pos (hhost.trans (Nat.mul_one _)) hrow hk

theorem size_spectrumOf : (Lines.fourier.spectrumOf kind extent host).size =
    Word.product (extent.complexSizes kind) :=
  (size_alongAxes ..).trans (size_rowSpectra hhost)

/-- The passes of a transform are Fourier sums, of which a real transform keeps those up to the
middle of the contiguous axis. -/
theorem getElem?_spectrumOf {bin : List ℕ} (hbin : Within (extent.complexSizes kind) bin) :
    (Lines.fourier.spectrumOf kind extent host)[rowMajor (extent.complexSizes kind) bin]? =
      some (fourierSum extent.sizes (elements kind host) bin) := by
  have hplace : rowMajor (extent.complexSizes kind) bin <
      (Lines.fourier.spectrumOf kind extent host).size :=
    size_spectrumOf hhost ▸ rowMajor_lt hbin
  have hsize := size_rowSpectra hhost
  have hentry : (Lines.fourier.spectrumOf kind extent host)[rowMajor (extent.complexSizes kind) bin]? =
      some (entries (Lines.fourier.spectrumOf kind extent host)
        (rowMajor (extent.complexSizes kind) bin)) := by
    rw [entries, Array.getD_eq_getD_getElem?, Array.getElem?_eq_getElem hplace]
    rfl
  rw [hentry, Lines.spectrumOf]
  rw [complexSizes_eq_concat] at hbin hsize ⊢
  rw [entries_alongAxes 1 (rowWidth_pos kind extent) extent.outer_pos
      (fun d _ => fourier_forward_acts d) (hsize.trans (Nat.one_mul _).symm),
    passes_rows (fun row hrow k hk => entries_rowSpectra hhost hrow hk) hbin,
    extent.outer_append_last, fourierSum]
  simp only [weight_wave]

end Spectrum

/-! ## Engines -/

/-- A forward transform leaves the spectrum of what the rows hold, wherever they are held and
whatever lies between them. -/
theorem Rig.executeForward_spectrum {rig : Rig ℝ} {before : State ℝ} {host : Array ℝ}
    (hg : rig.geometry.IsExact)
    (hlines : ∀ d ∈ rig.geometry.extent.sizes, rig.library.TransformsLines d)
    (hreals : rig.geometry.kind = .real → rig.library.TransformsReals rig.geometry.extent.last)
    (hready : rig.Ready false before) (hholds : rig.geometry.scalarRows.Holds before.primary host) :
    ∃ after, Gives rig.executeForward before () after ∧ rig.spectra after =
      flat (Lines.fourier.spectrumOf rig.geometry.kind rig.geometry.extent host) := by
  have hforward : rig.GoesForward .fourier :=
    ⟨fun d hd => ⟨(hlines d hd).length_eq, (hlines d hd).transforms⟩,
      fun hkind => ⟨(hreals hkind).length_eq, (hreals hkind).transforms⟩⟩
  obtain ⟨after, hgives, -, hspectra⟩ := executeForward_gives hg hforward hready hholds
  exact ⟨after, hgives, hspectra⟩

section Engine

variable {σ : Type} (env : Environment (StateM σ)) {scalar : Scalar ℝ} {rig : Rig ℝ}

/-- The calls up to a forward transform, each on the state that the one before it left. -/
theorem Yields.forward {engine : Engine (StateT (State ℝ) (StateM σ))} {input : Array UInt8}
    {before allocated planned uploaded after : State ℝ}
    (hallocate : Yields engine.allocate before () allocated)
    (hplan : Yields engine.planForward allocated () planned)
    (hupload : Yields (engine.upload input) planned () uploaded)
    (hforward : Yields engine.executeForward uploaded () after) :
    Yields (engine.forward input) before () after :=
  hallocate.bind (hplan.bind (hupload.bind hforward))

/-- A new engine is ready for a forward transform once it was given an input. -/
theorem engine_forward (hg : rig.geometry.IsExact)
    (hdata : rig.geometry.dataSize ≤ rig.maxBuffer)
    (hsecondary : rig.geometry.complexBufferSize ≤ rig.maxBuffer)
    (haffords : rig.Affords (rig.workspace false))
    {input : Array UInt8} (hinput : input.size = rig.geometry.transferSize)
    (hhost : (scalar.readAll input).size = rig.geometry.scalarCount) {spectrum : Array ℝ}
    (hforward : ∀ uploaded, rig.Ready false uploaded →
      rig.geometry.scalarRows.Holds uploaded.primary (scalar.readAll input) →
      ∃ after, Gives rig.executeForward uploaded () after ∧ rig.spectra after = spectrum)
    (before : State ℝ) (hbefore : before.realLine.size ≤ rig.geometry.extent.last) :
    ∃ after, Yields ((engine (env.beside _) scalar rig .own).forward input) before () after ∧
      rig.spectra after = spectrum := by
  obtain ⟨allocated, hallocate, hallocated, -, hspace⟩ :=
    Rig.allocate_gives hdata hsecondary before
  have hrow : allocated.realLine.size ≤ rig.geometry.extent.last :=
    (congrArg Workspace.realLine hspace).trans_le hbefore
  have hplan := Rig.install_gives haffords allocated
  have hplanned := hallocated.ready_installed hrow false
  obtain ⟨uploaded, hupload, hkeeps, hholds⟩ :=
    Rig.upload_gives hg hplanned.allocated.size_primary hhost
  obtain ⟨after, hexecute, hspectra⟩ := hforward uploaded (hplanned.keeps hkeeps) hholds
  exact ⟨after, Yields.forward ((Yields.of_gives hallocate).bind (Yields.of_log _ _ _))
    (engine_planForward env hplan)
    ((checkBytes_yields hinput _ _).bind (Yields.of_gives hupload)) (Yields.of_gives hexecute),
    hspectra⟩

/-- **Spectra.** With a library that transforms lines exactly, every input has one spectrum: its
Fourier sums, row by row in the shape of the transform domain. Whether there is a second buffer or
not, a forward transform of a new engine leaves that spectrum and nothing else in the buffer of the
transform domain, where there is room for its buffers. So does one of any planned engine whose rows
hold the input, whatever their padding and the work buffers hold. -/
theorem engine_spectrum {kind : Kind} {extent : Extent}
    (hlines : ∀ d ∈ extent.sizes, scalar.library.TransformsLines d)
    (hreals : kind = .real → scalar.library.TransformsReals extent.last) {input : Array UInt8}
    (hinput : input.size = Word.product extent.sizes * scalar.precision.valueSize kind) :
    ∃ spectrum : Array (Complex ℝ),
      spectrum.size = Word.product (extent.complexSizes kind) ∧
      (∀ bin, Within (extent.complexSizes kind) bin →
        spectrum[rowMajor (extent.complexSizes kind) bin]? =
          some (fourierSum extent.sizes (elements kind (scalar.readAll input)) bin)) ∧
      ∀ options placement rig,
        rigOf scalar options ⟨kind, placement, scalar.precision, extent⟩ = .ok rig →
        (rig.geometry.dataSize ≤ options.maxBuffer →
          rig.geometry.complexBufferSize ≤ options.maxBuffer → rig.Affords (rig.workspace false) →
          ∀ before, before.realLine.size ≤ extent.last → ∃ after,
            Yields ((engine (env.beside _) scalar rig .own).forward input) before () after ∧
            rig.spectra after = flat spectrum) ∧
        ∀ uploaded, rig.Ready false uploaded →
          rig.geometry.scalarRows.Holds uploaded.primary (scalar.readAll input) →
          ∃ after,
            Yields (engine (env.beside _) scalar rig .own).executeForward uploaded () after ∧
            rig.spectra after = flat spectrum := by
  have hhost : (scalar.readAll input).size =
      Word.product extent.sizes * if kind.isReal then 1 else 2 := by
    refine Scalar.size_readAll (hinput.trans ?_)
    cases kind with
    | real => exact congrArg (· * _) (Nat.mul_one _).symm
    | complex => exact (Nat.mul_assoc _ 2 _).symm
  refine ⟨Lines.fourier.spectrumOf kind extent (scalar.readAll input), size_spectrumOf hhost,
    fun bin hbin => getElem?_spectrumOf hhost hbin, fun options placement rig hrig => ?_⟩
  obtain ⟨-, hgeometry, hlibrary, hmax, -⟩ := of_rigOf hrig
  obtain ⟨hconfiguration, hg⟩ := Configuration.isExact_of_geometry hgeometry
  have hkind : rig.geometry.kind = kind := congrArg Configuration.kind hconfiguration
  have hextent : rig.geometry.extent = extent := congrArg Configuration.extent hconfiguration
  have hprecision : rig.geometry.precision = scalar.precision :=
    congrArg Configuration.precision hconfiguration
  subst hkind hextent
  rw [← hlibrary] at hlines hreals
  have hforward : ∀ uploaded, rig.Ready false uploaded →
      rig.geometry.scalarRows.Holds uploaded.primary (scalar.readAll input) →
      ∃ after, Gives rig.executeForward uploaded () after ∧ rig.spectra after =
        flat (Lines.fourier.spectrumOf rig.geometry.kind rig.geometry.extent
          (scalar.readAll input)) :=
    fun uploaded hready hholds => Rig.executeForward_spectrum hg hlines hreals hready hholds
  constructor
  · intro hdata hsecondary haffords before hbefore
    have htransfer : input.size = rig.geometry.transferSize := by
      rw [hinput, hg.transferSize_eq, hg.count_eq, Geometry.valueSize, hprecision]
    have hbytes : input.size = rig.geometry.scalarCount * scalar.precision.realSize := by
      rw [htransfer, ← hg.scalarCount_mul, hprecision]
    exact engine_forward env hg (hmax ▸ hdata) (hmax ▸ hsecondary) haffords htransfer
      (Scalar.size_readAll hbytes) hforward before hbefore
  · intro uploaded hready hholds
    obtain ⟨after, hexecute, hspectra⟩ := hforward uploaded hready hholds
    exact ⟨after, Yields.of_gives hexecute, hspectra⟩

end Engine

/-! ## Transforms of real lines -/

/-- A library that transforms lines of every length exactly, in both directions. -/
noncomputable def Library.exact : Library ℝ where
  forward length := .ofLines length length 0 (Lines.fourier.forward length)
  inverse length := .ofLines length length 0 (Lines.fourier.inverse length)
  spectrum length := .ofLines length length (Lines.fourier.spectrum length)
  signal length := .ofLines length length (Lines.fourier.signal length)

theorem Library.exact_transformsLines {d : ℕ} (hd : 0 < d) : exact.TransformsLines d :=
  ⟨rfl, LinePlan.ofLines_transforms hd fun values _ => size_onLines _ values⟩

theorem Library.exact_transformsReals (length : ℕ) : exact.TransformsReals length :=
  ⟨rfl, SpectrumPlan.ofLines_transforms fun values _ => size_onLines _ values⟩

/-- The real number that a double stands for; there is none for infinities. -/
noncomputable def realOf : Binary.Double → ℝ
  | .finite negative units => Binary.Double.signedUnits negative units / 2 ^ 1074
  | _ => 0

/-- Real numbers, of which those that a single holds have bytes of their own. -/
noncomputable def Scalar.real : Scalar ℝ where
  precision := .single
  ofBytes bytes := realOf (Precision.single.ofBytes bytes)
  toBytes x := littleEndian 4 (Binary.Format.single.encode (.round (x < 0) ⌊|x| * 2 ^ 1074⌋₊ 1))
  reciprocal n := (n : ℝ)⁻¹
  library := .exact

/-- A rig for two padded rows of three real numbers. -/
noncomputable def Rig.twoByThree : Rig ℝ where
  geometry := .twoByThree
  library := .exact
  scale := none
  maxBuffer := 32

theorem engine_spectrum_twoByThree :
    let env : Environment (StateM Unit) :=
      { log := fun _ => pure (), clock := pure 0, date := pure "" }
    let input : Array UInt8 := Array.ofFn fun i : Fin 24 => UInt8.ofNat i
    ∃ spectrum after,
      Yields ((engine (env.beside _) Scalar.real .twoByThree .own).forward input) State.empty ()
        after ∧
      after.primary = flat spectrum ∧ spectrum.size = 4 ∧
      spectrum[3]? = some (fourierSum [2, 3] (elements .real (Scalar.real.readAll input)) [1, 1]) := by
  intro env input
  have hinput : input.size =
      Word.product Geometry.twoByThree.extent.sizes * Scalar.real.precision.valueSize .real :=
    Array.size_ofFn
  have hgeometry : Geometry.twoByThree.configuration.geometry = .ok .twoByThree := by cbv
  have hprecision : Geometry.twoByThree.configuration.precision = Scalar.real.precision := rfl
  have hrig : rigOf Scalar.real ⟨false, 32⟩ Geometry.twoByThree.configuration = .ok .twoByThree := by
    rw [rigOf, if_neg (not_not.2 hprecision), hgeometry]
    rfl
  have hbin : Within [2, 2] [1, 1] := .cons (by decide) (.cons (by decide) .nil)
  obtain ⟨spectrum, hsize, hfourier, hengine⟩ := engine_spectrum env
    (fun d hd => Library.exact_transformsLines (Geometry.twoByThree.extent.sizes_pos d hd))
    (fun _ => Library.exact_transformsReals Geometry.twoByThree.extent.last) hinput
  have haffords : Rig.twoByThree.Affords (Rig.twoByThree.workspace false) :=
    ⟨by decide, by decide, by decide⟩
  obtain ⟨after, hyields, hspectra⟩ := (hengine _ _ _ hrig).1 (Nat.le_refl 32) (Nat.zero_le 32)
    haffords State.empty (Nat.zero_le 3)
  exact ⟨spectrum, after, hyields, hspectra, hsize, hfourier _ hbin⟩

end Cpu

end SpectralBench
