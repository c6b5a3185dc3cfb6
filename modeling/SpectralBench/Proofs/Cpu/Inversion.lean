import SpectralBench.Proofs.Cpu.Totality

/-!
# Inversion

What is relied on of an exact library, and what follows for whole arrays. Of its line transforms
nothing is known but that an inverse one undoes a forward one up to the length: complex ones are
linear maps, real ones need only respect counts, because that is all that the outer axes do to a half
spectrum that went forward and back.

On the way back the axes are not taken in the reverse order: rows come first where there is one
buffer, and last where there are two. Neither matters, since passes along different axes commute.

Main statements:

* `transform_eq_rows_last`, `transform_transform` — whether rows come first or last, the passes back
  undo those forward.
* `signal_spectrum` — the numbers of a half spectrum that was scaled by a count, with
  its edges cleared, are those of the row.
* `signalFrom_spectrumOf` — what a spectrum leads back to is a multiple of what it came from.
-/

namespace SpectralBench.Cpu

/-! ## Maps of lines -/

section Maps

variable {β γ : Type} {d e : ℕ}

theorem getD_ofFn (v : Fin d → β) (i : Fin d) (fallback : β) :
    (Array.ofFn v).getD i fallback = v i := by
  rw [Array.getD_eq_getD_getElem?, Array.getElem?_ofFn, dif_pos i.isLt]
  rfl

theorem exists_ofFn {data : Array γ} (h : data.size = d) : ∃ v : Fin d → γ, data = Array.ofFn v := by
  subst h
  refine ⟨fun i => data[i], Array.ext Array.size_ofFn.symm fun i _ _ => ?_⟩
  rw [Array.getElem_ofFn]
  rfl

variable [Zero β]

/-- What a map of vectors makes of lines. -/
def onLines (F : (Fin d → β) → Fin e → γ) (data : Array β) : Array γ :=
  Array.ofFn (F fun i => data.getD i 0)

theorem size_onLines (F : (Fin d → β) → Fin e → γ) (data : Array β) :
    (onLines F data).size = e :=
  Array.size_ofFn

theorem onLines_ofFn (F : (Fin d → β) → Fin e → γ) (v : Fin d → β) :
    onLines F (Array.ofFn v) = Array.ofFn (F v) := by
  simp only [onLines, getD_ofFn]

end Maps

section Library

variable {K : Type} [CommRing K]

/-- What is relied on of the complex plans of a length: they act on lines of that length as linear
maps, and the inverse one undoes the forward one up to the length. -/
structure Library.Inverts (library : Library K) (d : ℕ) : Prop where
  forward_length : (library.forward d).length = d
  inverse_length : (library.inverse d).length = d
  linear : ∃ F B : (Fin d → Complex K) →ₗ[Complex K] (Fin d → Complex K),
    (library.forward d).Transforms (onLines F) ∧ (library.inverse d).Transforms (onLines B) ∧
    ∀ v, B (F v) = (d : Complex K) • v

/-- What is relied on of the real plans of a length: going to the half spectrum and back multiplies
by the length, the way back respects multiples by positive counts, and the bins that real numbers
leave no imaginary part have none. -/
structure Library.Recovers (library : Library K) (length : ℕ) : Prop where
  spectrum_length : (library.spectrum length).length = length
  signal_length : (library.signal length).length = length
  maps : ∃ (R : (Fin length → K) → Fin (halfLength length) → Complex K)
      (C : (Fin (halfLength length) → Complex K) → Fin length → K),
    (library.spectrum length).Transforms (onLines R) ∧
    (library.signal length).Transforms (onLines C) ∧
    (∀ x, C (R x) = (length : K) • x) ∧
    (∀ (c : ℕ) (X), 0 < c → C ((c : Complex K) • X) = (c : K) • C X) ∧
    ∀ x k, k.val = 0 ∨ 2 * k.val = length → (R x k).im = 0

/-! ## Lines that undo each other -/

namespace Lines

/-- Whether the complex transforms of a length act by kernels that undo each other. -/
structure Inverts (lines : Lines K) (kernels others : ℕ → ℕ → ℕ → Complex K) (d : ℕ) : Prop where
  forward_acts : ActsBy d (kernels d) (lines.forward d)
  inverse_acts : ActsBy d (others d) (lines.inverse d)
  undoes : Undoes d (d : Complex K) (others d) (kernels d)

/-- Whether the real transforms of a length lead back to a multiple, also of half spectra that were
scaled by a count. -/
structure Recovers (lines : Lines K) (length : ℕ) : Prop where
  size_spectrum : ∀ values, values.size = length →
    (lines.spectrum length values).size = halfLength length
  size_signal : ∀ half, (lines.signal length half).size = length
  signal_spectrum : ∀ c : ℕ, 0 < c → ∀ values, values.size = length →
    lines.signal length (Rig.clearEdges length
        ((lines.spectrum length values).map ((c : Complex K) * ·))) =
      values.map (((c * length : ℕ) : K) * ·)

end Lines

/-- The numbers of a half spectrum that was scaled by a count are those of the row. -/
theorem signal_spectrum {length : ℕ} {R : (Fin length → K) → Fin (halfLength length) → Complex K}
    {C : (Fin (halfLength length) → Complex K) → Fin length → K}
    (hinverts : ∀ x, C (R x) = (length : K) • x)
    (hscales : ∀ (c : ℕ) (X), 0 < c → C ((c : Complex K) • X) = (c : K) • C X)
    (hedges : ∀ x k, k.val = 0 ∨ 2 * k.val = length → (R x k).im = 0) {c : ℕ} (hc : 0 < c)
    {values : Array K} (hvalues : values.size = length) :
    onLines C (Rig.clearEdges length ((onLines R values).map ((c : Complex K) * ·))) =
      values.map (((c * length : ℕ) : K) * ·) := by
  obtain ⟨x, rfl⟩ := exists_ofFn hvalues
  have hscaled : (onLines R (Array.ofFn x)).map ((c : Complex K) * ·) =
      Array.ofFn ((c : Complex K) • R x) := by
    rw [onLines_ofFn, Array.map_ofFn]
    rfl
  -- scaling keeps the edges free of imaginary parts, so clearing them changes nothing
  have hclear : EdgesClear length (Array.ofFn ((c : Complex K) • R x)) := by
    intro i hi hedge
    rw [Array.getElem_ofFn, Pi.smul_apply, smul_eq_mul, Complex.natCast_mul, hedges _ _ hedge,
      mul_zero]
  rw [hscaled, clearEdges_eq_self Array.size_ofFn hclear, onLines_ofFn, hscales c _ hc, hinverts,
    smul_smul, ← Nat.cast_mul, Array.map_ofFn]
  rfl

/-- Plans for several lengths are put together into one family of transforms of lines. -/
theorem Library.exists_lines {library : Library K} {lengths : List ℕ} {last : ℕ} {isReal : Prop}
    (hinverts : ∀ d ∈ lengths, library.Inverts d) (hrecovers : isReal → library.Recovers last) :
    ∃ (lines : Lines K) (kernels others : ℕ → ℕ → ℕ → Complex K),
      (∀ d ∈ lengths, Provides library.forward lines.forward d ∧
        Provides library.inverse lines.inverse d ∧ lines.Inverts kernels others d) ∧
      (isReal → library.ProvidesSpectra lines last ∧ library.ProvidesSignals lines last ∧
        lines.Recovers last) := by
  -- of lengths that do not occur nothing is known, and nothing has to be
  have hcomplex : ∀ d, ∃ F B : (Fin d → Complex K) →ₗ[Complex K] (Fin d → Complex K), d ∈ lengths →
      (library.forward d).Transforms (onLines F) ∧ (library.inverse d).Transforms (onLines B) ∧
        ∀ v, B (F v) = (d : Complex K) • v := by
    intro d
    by_cases hd : d ∈ lengths
    · obtain ⟨F, B, hlinear⟩ := (hinverts d hd).linear
      exact ⟨F, B, fun _ => hlinear⟩
    · exact ⟨0, 0, fun hmem => absurd hmem hd⟩
  have hreal : ∃ (R : (Fin last → K) → Fin (halfLength last) → Complex K)
      (C : (Fin (halfLength last) → Complex K) → Fin last → K), isReal →
      (library.spectrum last).Transforms (onLines R) ∧
      (library.signal last).Transforms (onLines C) ∧
      (∀ x, C (R x) = (last : K) • x) ∧
      (∀ (c : ℕ) (X), 0 < c → C ((c : Complex K) • X) = (c : K) • C X) ∧
      ∀ x k, k.val = 0 ∨ 2 * k.val = last → (R x k).im = 0 := by
    by_cases hkind : isReal
    · obtain ⟨R, C, hmaps⟩ := (hrecovers hkind).maps
      exact ⟨R, C, fun _ => hmaps⟩
    · exact ⟨0, 0, fun hother => absurd hother hkind⟩
  choose F B hlinear using hcomplex
  obtain ⟨R, C, hmaps⟩ := hreal
  refine ⟨⟨fun d => onLines (F d), fun d => onLines (B d), fun _ => onLines R, fun _ => onLines C⟩,
    fun d => kernelOf (F d), fun d => kernelOf (B d), fun d hd => ?_, fun hkind => ?_⟩
  · obtain ⟨hforward, hinverse, hundo⟩ := hlinear d hd
    exact ⟨⟨(hinverts d hd).forward_length, hforward⟩, ⟨(hinverts d hd).inverse_length, hinverse⟩,
      actsBy_kernelOf fun v => onLines_ofFn (F d) v, actsBy_kernelOf fun v => onLines_ofFn (B d) v,
      undoes_kernelOf hundo⟩
  · obtain ⟨hspectrum, hsignal, hback, hscales, hedges⟩ := hmaps hkind
    exact ⟨⟨(hrecovers hkind).spectrum_length, hspectrum⟩,
      ⟨(hrecovers hkind).signal_length, hsignal⟩, fun values _ => size_onLines R values,
      fun half => size_onLines C half,
      fun c hc values hvalues => signal_spectrum hback hscales hedges hc hvalues⟩

/-! ## Complex arrays -/

section Passes

variable {R : Type} [CommRing R] {kernels others : ℕ → ℕ → ℕ → R} {lengths : List ℕ} {last : ℕ}

/-- The passes of a whole complex transform. -/
def transform (kernels : ℕ → ℕ → ℕ → R) (lengths : List ℕ) (last : ℕ) (x : ℕ → R) : ℕ → R :=
  passes kernels last lengths (pass last 1 (kernels last) x)

/-- Rows may as well come last. -/
theorem transform_eq_rows_last (hpos : ∀ d ∈ lengths, 0 < d) (hlast : 0 < last) (x : ℕ → R) :
    transform kernels lengths last x = pass last 1 (kernels last) (passes kernels last lengths x) :=
  (pass_passes Nat.one_pos hpos hlast (dvd_of_eq (Nat.mul_one last)) x).symm

theorem transform_transform (hpos : ∀ d ∈ lengths, 0 < d) (hlast : 0 < last)
    (hundo : ∀ d ∈ lengths ++ [last], Undoes d (d : R) (others d) (kernels d)) (x : ℕ → R) :
    transform others lengths last (transform kernels lengths last x) =
      (Word.product (lengths ++ [last]) : R) • x := by
  have hrow := hundo last (List.mem_append_right _ List.mem_cons_self)
  have houter : ∀ d ∈ lengths, Undoes d (d : R) (others d) (kernels d) :=
    fun d hd => hundo d (List.mem_append_left _ hd)
  -- the rows of the way back move inside, where they meet those of the way forward
  rw [transform, transform, pass_passes Nat.one_pos hpos hlast (dvd_of_eq (Nat.mul_one last)),
    pass_pass hlast Nat.one_pos hrow, passes_passes hpos hlast houter, smul_smul, Word.product_concat,
    Nat.cast_mul]

end Passes

section Complex

variable {f : ℕ → Array (Complex K) → Array (Complex K)} {kernels : ℕ → ℕ → ℕ → Complex K}
  {extent : Extent} {data : Array (Complex K)}
  (hf : ∀ d ∈ extent.sizes, ActsBy d (kernels d) (f d))
  (hsize : data.size = Word.product extent.outer * extent.last)

include hf hsize

theorem size_rows_acts : (mapRows extent.last (f extent.last) data).size =
    Word.product extent.outer * extent.last :=
  size_mapRows extent.last_pos hsize fun line hline => (hf _ extent.last_mem line hline).1

/-- Rows and then the outer axes are the passes of a whole transform. -/
theorem entries_rows_first :
    entries (alongAxes (extent.complexSizes .complex) (extent.outer.map f)
      (mapRows extent.last (f extent.last) data)) =
      transform kernels extent.outer extent.last (entries data) := by
  have houter : ∀ d ∈ extent.outer, ActsBy d (kernels d) (f d) :=
    fun d hd => hf d (extent.outer_subset hd)
  rw [extent.complexSizes_eq, transform,
    ← entries_mapRows extent.last_pos (hf _ extent.last_mem) hsize]
  refine entries_alongAxes 1 extent.last_pos extent.outer_pos houter ?_
  rw [size_rows_acts hf hsize, Nat.one_mul, Word.product_concat]
  rfl

/-- So are the outer axes and then the rows. -/
theorem entries_rows_last :
    entries (mapRows extent.last (f extent.last)
      (alongAxes (extent.complexSizes .complex) (extent.outer.map f) data)) =
      transform kernels extent.outer extent.last (entries data) := by
  have houter : ∀ d ∈ extent.outer, ActsBy d (kernels d) (f d) :=
    fun d hd => hf d (extent.outer_subset hd)
  have hrows : (alongAxes (extent.complexSizes .complex) (extent.outer.map f) data).size =
      Word.product extent.outer * extent.last := (size_alongAxes ..).trans hsize
  rw [entries_mapRows extent.last_pos (hf _ extent.last_mem) hrows, extent.complexSizes_eq,
    transform_eq_rows_last extent.outer_pos extent.last_pos]
  refine congrArg _ (entries_alongAxes 1 extent.last_pos extent.outer_pos houter ?_)
  rw [hsize, Nat.one_mul, Word.product_concat]
  rfl

end Complex

/-! ## Rows of real numbers -/

/-- Half spectra that were scaled by a count become rows of numbers. -/
theorem Lines.Recovers.signalRows {lines : Lines K} {length count c : ℕ} {host : Array K}
    (h : lines.Recovers length) (hlength : 0 < length) (hc : 0 < c)
    (hhost : host.size = count * length) :
    mapRows (halfLength length) (fun half => lines.signal length (Rig.clearEdges length half))
        ((mapRows length (lines.spectrum length) host).map ((c : Complex K) * ·)) =
      host.map (((c * length : ℕ) : K) * ·) := by
  have hspectra := size_mapRows hlength hhost h.size_spectrum
  have hscaled : ((mapRows length (lines.spectrum length) host).map ((c : Complex K) * ·)).size =
      count * halfLength length := (Array.size_map ..).trans hspectra
  have hsize : ∀ half : Array (Complex K), half.size = halfLength length →
      (lines.signal length (Rig.clearEdges length half)).size = length := fun _ _ => h.size_signal _
  refine ext_rows hlength (size_mapRows (halfLength_pos length) hscaled hsize)
    ((Array.size_map ..).trans hhost) fun row hrow => ?_
  rw [rowAt_mapRows (halfLength_pos length) hscaled hsize hrow, rowAt_map,
    rowAt_mapRows hlength hhost h.size_spectrum hrow,
    h.signal_spectrum c hc _ (size_rowAt hhost hrow), rowAt_map]

/-! ## There and back -/

namespace Lines

variable {lines : Lines K} {kernels others : ℕ → ℕ → ℕ → Complex K} {kind : Kind} {extent : Extent}
  {host : Array K} (hinverts : ∀ d ∈ extent.sizes, lines.Inverts kernels others d)

include hinverts

theorem undoes_outer : ∀ d ∈ extent.outer, Undoes d (d : Complex K) (others d) (kernels d) :=
  fun d hd => (hinverts d (extent.outer_subset hd)).undoes

theorem signalFrom_complex (hhost : host.size = 2 * Word.product extent.sizes)
    (placement : Placement) :
    lines.signalFrom .complex placement extent (lines.spectrumOf .complex extent host) =
      host.map ((Word.product extent.sizes : K) * ·) := by
  have hsizes : Word.product extent.sizes = Word.product extent.outer * extent.last := by
    rw [← Word.product_concat, extent.outer_append_last]
  have hpairs : (pairs host).size = Word.product extent.outer * extent.last := by
    rw [size_pairs, hhost, Nat.mul_div_cancel_left _ Nat.two_pos, hsizes]
  have hforward : ∀ d ∈ extent.sizes, ActsBy d (kernels d) (lines.forward d) :=
    fun d hd => (hinverts d hd).forward_acts
  have hback : ∀ d ∈ extent.sizes, ActsBy d (others d) (lines.inverse d) :=
    fun d hd => (hinverts d hd).inverse_acts
  have hundo : ∀ d ∈ extent.outer ++ [extent.last],
      Undoes d (d : Complex K) (others d) (kernels d) := by
    rw [extent.outer_append_last]
    exact fun d hd => (hinverts d hd).undoes
  have hspectrum : (lines.spectrumOf .complex extent host).size =
      Word.product extent.outer * extent.last :=
    (size_alongAxes ..).trans (size_rows_acts hforward hpairs)
  -- in both directions every pass meets its inverse, so the entries are multiplied by the count
  have hscaled {result : Array (Complex K)} (hresult : result.size = (pairs host).size)
      (hentries : entries result = transform others extent.outer extent.last
        (entries (lines.spectrumOf .complex extent host))) :
      flat result = host.map ((Word.product extent.sizes : K) * ·) := by
    have heq : result = (pairs host).map ((Word.product extent.sizes : Complex K) * ·) := by
      refine ext_entries (hresult.trans (Array.size_map ..).symm) ?_
      rw [hentries, spectrumOf, rowSpectra, entries_rows_first hforward hpairs,
        transform_transform extent.outer_pos extent.last_pos hundo, extent.outer_append_last,
        entries_map]
    rw [heq, flat_scaled, flat_pairs hhost]
  cases placement with
  | inPlace =>
    exact hscaled ((size_alongAxes ..).trans ((size_rows_acts hback hspectrum).trans hpairs.symm))
      (entries_rows_first hback hspectrum)
  | outOfPlace =>
    have hrows := (size_alongAxes (extent.complexSizes .complex) (extent.outer.map lines.inverse)
      (lines.spectrumOf .complex extent host)).trans hspectrum
    exact hscaled ((size_rows_acts hback hrows).trans hpairs.symm) (entries_rows_last hback hspectrum)

theorem signalFrom_real (hrecovers : lines.Recovers extent.last)
    (hhost : host.size = Word.product extent.sizes) (placement : Placement) :
    lines.signalFrom .real placement extent (lines.spectrumOf .real extent host) =
      host.map ((Word.product extent.sizes : K) * ·) := by
  have hsizes : Word.product extent.sizes = Word.product extent.outer * extent.last := by
    rw [← Word.product_concat, extent.outer_append_last]
  rw [hsizes] at hhost ⊢
  have hrows : (mapRows extent.last (lines.spectrum extent.last) host).size =
      1 * Word.product (extent.outer ++ [halfLength extent.last]) := by
    rw [size_mapRows extent.last_pos hhost hrecovers.size_spectrum, Nat.one_mul, Word.product_concat]
  have hforward : ∀ d ∈ extent.outer, ActsBy d (kernels d) (lines.forward d) :=
    fun d hd => (hinverts d (extent.outer_subset hd)).forward_acts
  have hback : ∀ d ∈ extent.outer, ActsBy d (others d) (lines.inverse d) :=
    fun d hd => (hinverts d (extent.outer_subset hd)).inverse_acts
  have hhalf := halfLength_pos extent.last
  -- the outer axes are undone on the half spectra, the last one is undone on the rows
  have houter : lines.outerBack .real extent (lines.spectrumOf .real extent host) =
      (mapRows extent.last (lines.spectrum extent.last) host).map
        ((Word.product extent.outer : Complex K) * ·) := by
    refine ext_entries ?_ ?_
    · rw [outerBack, spectrumOf, size_alongAxes, size_alongAxes, Array.size_map]
      rfl
    · have hspectrum := (size_alongAxes (extent.complexSizes .real)
        (extent.outer.map lines.forward) _).trans hrows
      rw [outerBack, spectrumOf, rowSpectra, Extent.complexSizes] at *
      rw [entries_alongAxes 1 hhalf extent.outer_pos hback hspectrum,
        entries_alongAxes 1 hhalf extent.outer_pos hforward hrows,
        passes_passes extent.outer_pos hhalf (undoes_outer hinverts), entries_map]
  rw [signalFrom, houter]
  exact hrecovers.signalRows extent.last_pos (Word.product_pos extent.outer_pos) hhost

end Lines

/-- Forward and back, a host gets the multiple of what it gave by the number of its elements. -/
theorem signalFrom_spectrumOf {g : Geometry} (hg : g.IsExact) {lines : Lines K}
    {kernels others : ℕ → ℕ → ℕ → Complex K} {host : Array K}
    (hinverts : ∀ d ∈ g.extent.sizes, lines.Inverts kernels others d)
    (hrecovers : g.kind = .real → lines.Recovers g.extent.last)
    (hhost : host.size = g.scalarCount) :
    lines.signalFrom g.kind g.placement g.extent (lines.spectrumOf g.kind g.extent host) =
      host.map ((g.count : K) * ·) := by
  rw [hg.scalarCount_eq] at hhost
  rw [hg.count_eq] at hhost ⊢
  cases hkind : g.kind with
  | complex =>
    rw [hkind, Nat.mul_comm] at hhost
    exact Lines.signalFrom_complex hinverts hhost g.placement
  | real =>
    rw [hkind] at hhost
    exact Lines.signalFrom_real hinverts (hrecovers hkind) (hhost.trans (Nat.mul_one _)) g.placement

end Library

end SpectralBench.Cpu
