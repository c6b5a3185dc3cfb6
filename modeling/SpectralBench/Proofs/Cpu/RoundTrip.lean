import SpectralBench.Cpu.Engine
import SpectralBench.Proofs.Cpu.Inversion
import Mathlib.Algebra.CharZero.Defs
import Mathlib.Algebra.Field.Basic
import Mathlib.Algebra.Field.Rat
import Mathlib.Algebra.Order.Ring.Rat
import Mathlib.Data.Fin.VecNotation
import Mathlib.Data.Nat.Cast.Basic
import Mathlib.Data.Rat.Cast.CharZero
import Mathlib.Tactic.FinCases

/-!
# Round trips

Whatever is uploaded to a processor engine comes back after a forward transform and an inverse one:
as it was where the inverse is scaled, and multiplied by the number of elements where it is not.
Scalars are exact here, so nothing is said of rounding; of the library only `Library.Inverts` and
`Library.Recovers` are relied on.

The engine owns its state, and everything else that its calls do goes to an arbitrary world.

Main statements:

* `Scalar.IsExact.writeAll_readAll` — the bytes of the scalars that bytes hold are those bytes.
* `engine_roundTrip` — a whole round trip succeeds, and what comes back.
-/

namespace SpectralBench

/-- The cell of the state that actions own. -/
def Cell.own {m : Type → Type} [Monad m] {τ : Type} : Cell (StateT τ m) τ where
  get := StateT.get
  set := StateT.set

/-- The environment of actions that own a state which it does not know. -/
def Environment.beside {m : Type → Type} [Monad m] (τ : Type) (env : Environment m) :
    Environment (StateT τ m) where
  arithmetic := env.arithmetic
  toHalf := env.toHalf
  log entry := StateT.lift (env.log entry)
  clock := StateT.lift env.clock
  date := StateT.lift env.date

/-- The calls of a round trip: up, forward and back, and down over what the host holds. Only a real
transform has an inverse plan of its own. -/
def Engine.roundTrip {m : Type → Type} [Monad m] (engine : Engine m) (input : Array UInt8) {size : ℕ}
    (host : Vector UInt8 size) : ExceptT Failure m (Vector UInt8 size) := do
  engine.allocate
  engine.planForward
  engine.upload input
  engine.executeForward
  if engine.geometry.kind.isReal then engine.planInverse
  engine.executeInverse
  engine.download host

namespace Cpu

/-! ## Calls -/

/-- Whether a call succeeds from a state, with a result and a state afterwards, whatever the world
is. -/
def Yields {σ τ β : Type} (call : ExceptT Failure (StateT τ (StateM σ)) β) (before : τ) (b : β)
    (after : τ) : Prop :=
  ∀ world, ((call.run.run before).run world).1 = (.ok b, after)

namespace Yields

variable {σ τ α β : Type} {before mid after : τ}

theorem bind {first : ExceptT Failure (StateT τ (StateM σ)) α}
    {next : α → ExceptT Failure (StateT τ (StateM σ)) β} {a : α} {b : β}
    (h : Yields first before a mid) (hnext : Yields (next a) mid b after) :
    Yields (first >>= next) before b after := by
  intro world
  have hresult := h world
  rw [ExceptT.run_bind, StateT.run_bind, StateT.run_bind]
  -- the second call starts from the state and from the world that the first one left
  generalize (first.run.run before).run world = finished at hresult
  obtain ⟨⟨outcome, state⟩, later⟩ := finished
  cases hresult
  exact hnext later

theorem of_pure (state : τ) (b : β) :
    Yields (pure b : ExceptT Failure (StateT τ (StateM σ)) β) state b state :=
  fun _ => rfl

theorem of_log (env : Environment (StateM σ)) (entry : Log.Entry) (state : τ) :
    Yields (liftM ((env.beside τ).log entry) : ExceptT Failure (StateT τ (StateM σ)) Unit) state ()
      state :=
  fun _ => rfl

theorem of_gives {K : Type} {action : Action K β} {b : β} {before after : State K}
    (h : Gives action before b after) :
    Yields (runIn (.own : Cell (StateT (State K) (StateM σ)) (State K)) action) before b after := by
  intro world
  change ((action.run.run before).1, (action.run.run before).2) = _
  rw [h]

end Yields

variable {α σ τ : Type} {rig : Rig α}

theorem checkBytes_yields {size : ℕ} (h : size = rig.geometry.transferSize) (operation : String)
    (state : τ) :
    Yields (checkBytes rig operation size : ExceptT Failure (StateT τ (StateM σ)) Unit) state ()
      state := by
  intro world
  rw [checkBytes, Geometry.checkTransfer, if_pos h]
  rfl

/-- What is known of the rig of a configuration. -/
theorem of_rigOf {scalar : Scalar α} {options : Options} {c : Configuration}
    (h : rigOf scalar options c = .ok rig) :
    c.precision = scalar.precision ∧ c.geometry = .ok rig.geometry ∧
      rig.library = scalar.library ∧ rig.maxBuffer = options.maxBuffer ∧
      rig.scale =
        if options.normalize then some (scalar.reciprocal rig.geometry.count) else none := by
  unfold rigOf at h
  by_cases hprecision : c.precision = scalar.precision
  · rw [if_neg (not_not.2 hprecision)] at h
    obtain ⟨geometry, hgeometry, h⟩ := Configuration.bind_eq_ok h
    cases h
    exact ⟨hprecision, hgeometry, rfl, rfl, rfl⟩
  · rw [if_pos hprecision] at h
    cases h

theorem overwrite_eq {size : ℕ} (host : Vector UInt8 size) {bytes : Array UInt8}
    (hbytes : bytes.size = size) : (host.mapIdx fun i old => bytes.getD i old) = ⟨bytes, hbytes⟩ := by
  refine Vector.ext fun i hi => ?_
  have hbyte : i < bytes.size := by omega
  rw [Vector.getElem_mapIdx, Array.getD_eq_getD_getElem?, Array.getElem?_eq_getElem hbyte]
  rfl

/-- Scalars with bytes of one size are written to as many bytes as they need. -/
theorem Scalar.size_writeAll {scalar : Scalar α}
    (hlength : ∀ x, (scalar.toBytes x).length = scalar.precision.realSize) (scalars : Array α) :
    (scalar.writeAll scalars).size = scalars.size * scalar.precision.realSize :=
  size_flatMap fun x _ => hlength x

/-- The calls of a round trip, each on the state that the one before it left. -/
theorem Yields.roundTrip {engine : Engine (StateT τ (StateM σ))} {input : Array UInt8} {size : ℕ}
    {host output : Vector UInt8 size} {before allocated planned uploaded mid turned back after : τ}
    (hallocate : Yields engine.allocate before () allocated)
    (hplan : Yields engine.planForward allocated () planned)
    (hupload : Yields (engine.upload input) planned () uploaded)
    (hforward : Yields engine.executeForward uploaded () mid)
    (hreal : Yields engine.planInverse mid () turned)
    (hcomplex : engine.geometry.kind.isReal = false → turned = mid)
    (hinverse : Yields engine.executeInverse turned () back)
    (hdownload : Yields (engine.download host) back output after) :
    Yields (engine.roundTrip input host) before output after := by
  -- a complex transform skips a call, but one that would have changed nothing
  have hback : Yields (engine.executeInverse >>= fun _ => engine.download host) turned output after :=
    hinverse.bind hdownload
  refine hallocate.bind (hplan.bind (hupload.bind (hforward.bind ?_)))
  dsimp only
  split
  · exact hreal.bind hback
  · rename_i hkind
    rw [← hcomplex (Bool.eq_false_iff.2 hkind)]
    exact hback

section Exact

variable {K : Type} [Field K] {scalar : Scalar K}

/-- What it is for scalars to be exact: bytes are read without loss, and the reciprocal of a count is
its inverse. Only so many scalars have bytes of their own, so nothing is said of the bytes of
others. -/
structure Scalar.IsExact (scalar : Scalar K) : Prop where
  length_toBytes : ∀ x, (scalar.toBytes x).length = scalar.precision.realSize
  toBytes_ofBytes : ∀ bytes, bytes.length = scalar.precision.realSize →
    scalar.toBytes (scalar.ofBytes bytes) = bytes
  reciprocal_eq : ∀ n : ℕ, 0 < n → scalar.reciprocal n = (n : K)⁻¹

namespace Scalar

omit [Field K] in
theorem size_readAll {input : Array UInt8} {count : ℕ}
    (hinput : input.size = count * scalar.precision.realSize) :
    (scalar.readAll input).size = count := by
  rw [readAll, Array.size_ofFn, hinput, Nat.mul_div_cancel _ (Precision.realSize_pos _)]

theorem IsExact.size_bytes (h : scalar.IsExact) (x : K) :
    (scalar.toBytes x).toArray.size = scalar.precision.realSize :=
  h.length_toBytes x

theorem IsExact.size_writeAll (h : scalar.IsExact) (scalars : Array K) :
    (scalar.writeAll scalars).size = scalars.size * scalar.precision.realSize :=
  Scalar.size_writeAll h.length_toBytes scalars

/-- The bytes of the scalars that bytes hold are those bytes. -/
theorem IsExact.writeAll_readAll (h : scalar.IsExact) {input : Array UInt8} {count : ℕ}
    (hinput : input.size = count * scalar.precision.realSize) :
    scalar.writeAll (scalar.readAll input) = input := by
  have hcount : (scalar.readAll input).size = count := size_readAll hinput
  refine ext_rows (Precision.realSize_pos scalar.precision)
    ((h.size_writeAll _).trans (by rw [hcount])) hinput fun row hrow => ?_
  -- each scalar is read from a row of its own and written back to it
  have hbytes : (rowAt scalar.precision.realSize input row).toList.length =
      scalar.precision.realSize := size_rowAt hinput hrow
  rw [writeAll, rowAt_flatMap (fun x _ => h.size_bytes x) (hcount ▸ hrow)]
  simp only [readAll, Array.getElem_ofFn]
  rw [← rowAt, h.toBytes_ofBytes _ hbytes]

end Scalar

/-! ## The round trip -/

/-- What is scaled by the number of elements is as it was before it was multiplied by that number. -/
theorem Scalar.IsExact.rescaled_eq [CharZero K] (h : scalar.IsExact) {rig : Rig K} {options : Options}
    (hscale : rig.scale =
      if options.normalize then some (scalar.reciprocal rig.geometry.count) else none)
    (hcount : 0 < rig.geometry.count) (host : Array K) :
    rig.rescaled (host.map ((rig.geometry.count : K) * ·)) =
      if options.normalize then host else host.map ((rig.geometry.count : K) * ·) := by
  have hnonzero : (rig.geometry.count : K) ≠ 0 := Nat.cast_ne_zero.2 hcount.ne'
  rw [Rig.rescaled, hscale]
  cases options.normalize with
  | false => rfl
  | true =>
    -- the reciprocal is exact, so multiplying there and back is the identity
    have hback :
        (· * scalar.reciprocal rig.geometry.count) ∘ ((rig.geometry.count : K) * ·) = id := by
      funext x
      change (rig.geometry.count : K) * x * scalar.reciprocal rig.geometry.count = x
      rw [h.reciprocal_eq _ hcount, mul_comm (rig.geometry.count : K) x, mul_assoc,
        mul_inv_cancel₀ hnonzero, mul_one]
    change (host.map ((rig.geometry.count : K) * ·)).map (· * scalar.reciprocal rig.geometry.count) =
      host
    rw [Array.map_map, hback, Array.map_id]

section Engine

variable (env : Environment (StateM σ)) {rig : Rig K} {before after : State K}

theorem engine_planForward (h : Gives rig.planForward before () after) :
    Yields (engine (env.beside _) scalar rig .own).planForward before () after := by
  dsimp only [engine]
  split
  · exact (Yields.of_log _ _ _).bind (Yields.of_gives h)
  · exact Yields.of_gives h

/-- What the rows of the primary buffer hold is what comes down. -/
theorem engine_download (hscalar : scalar.IsExact) (hg : rig.geometry.IsExact)
    (hprecision : rig.geometry.precision = scalar.precision) {returned : Array K}
    (hholds : rig.geometry.scalarRows.Holds before.primary returned)
    (host : Vector UInt8 rig.geometry.transferSize) :
    ∃ output, Yields ((engine (env.beside _) scalar rig .own).download host) before output before ∧
      output.toArray = scalar.writeAll returned := by
  have hfilled : (Array.replicate (rig.geometry.transferSize / rig.unit) (0 : K)).size =
      rig.geometry.scalarCount := Array.size_replicate
  -- the bytes of the elements are as many as the host has, so all of it is overwritten
  have hbytes : (scalar.writeAll returned).size = rig.geometry.transferSize := by
    rw [hscalar.size_writeAll, hg.size_of_holds hholds, ← hg.scalarCount_mul, hprecision]
  refine ⟨⟨scalar.writeAll returned, hbytes⟩, ?_, rfl⟩
  rw [← overwrite_eq host hbytes]
  exact (checkBytes_yields rfl _ _).bind
    ((Yields.of_gives (Rig.download_gives hg hholds hfilled)).bind (Yields.of_pure _ _))

end Engine

/-- A round trip succeeds, whatever buffers and world were before, and gives back the input where the
inverse is scaled, and its multiple by the number of elements where it is not. All that is asked of the
engine is that its line of reals was never made for longer rows, and that there is room for its
buffers. -/
theorem engine_roundTrip [CharZero K] {options : Options} {c : Configuration} {rig : Rig K}
    (hscalar : scalar.IsExact) (hinverts : ∀ d ∈ c.extent.sizes, scalar.library.Inverts d)
    (hrecovers : c.kind = .real → scalar.library.Recovers c.extent.last)
    (hrig : rigOf scalar options c = .ok rig) (hdata : rig.geometry.dataSize ≤ options.maxBuffer)
    (hsecondary : rig.geometry.complexBufferSize ≤ options.maxBuffer)
    (haffords : ∀ inverse, rig.Affords (rig.workspace inverse)) (env : Environment (StateM σ))
    {input : Array UInt8} (hinput : input.size = rig.geometry.transferSize)
    (host : Vector UInt8 rig.geometry.transferSize) (before : State K)
    (hbefore : before.realLine.size ≤ c.extent.last) :
    ∃ output after,
      Yields ((engine (env.beside _) scalar rig .own).roundTrip input host) before output after ∧
      output.toArray = if options.normalize then input else
        scalar.writeAll ((scalar.readAll input).map ((rig.geometry.count : K) * ·)) := by
  obtain ⟨hprecision, hgeometry, hlibrary, hmax, hscale⟩ := of_rigOf hrig
  obtain ⟨hconfiguration, hg⟩ := Configuration.isExact_of_geometry hgeometry
  subst hconfiguration
  rw [← hlibrary] at hinverts hrecovers
  obtain ⟨lines, kernels, others, hcomplex, hreal⟩ := Library.exists_lines hinverts hrecovers
  have hforward : rig.GoesForward lines :=
    ⟨fun d hd => (hcomplex d hd).1, fun hkind => (hreal hkind).1⟩
  have hback : rig.GoesBack lines :=
    ⟨fun d hd => (hcomplex d hd).2.1, fun hkind => (hreal hkind).2.1⟩
  have hbytes : input.size = rig.geometry.scalarCount * scalar.precision.realSize := by
    rw [hinput, ← hg.scalarCount_mul]
    exact congrArg _ (congrArg Precision.realSize hprecision)
  have hhost : (scalar.readAll input).size = rig.geometry.scalarCount := Scalar.size_readAll hbytes
  have hcount : 0 < rig.geometry.count := hg.count_pos
  -- the states of the engine, one after the other
  obtain ⟨allocated, hallocate, hallocated, -, hspace⟩ :=
    Rig.allocate_gives (hmax ▸ hdata) (hmax ▸ hsecondary) before
  have hline : allocated.realLine.size ≤ rig.geometry.extent.last :=
    (congrArg Workspace.realLine hspace).trans_le hbefore
  have hplan := Rig.install_gives (haffords false) allocated
  have hplanned := hallocated.ready_installed hline false
  obtain ⟨uploaded, hupload, hkept, hholds⟩ :=
    Rig.upload_gives hg hplanned.allocated.size_primary hhost
  obtain ⟨mid, hexecute, hmid, hspectra⟩ :=
    Rig.executeForward_gives hg hforward (hplanned.keeps hkept) hholds
  obtain ⟨turned, hturn, hsame, hturned, hfirst, hsecond⟩ :=
    Rig.planInverse_gives (fun _ => haffords true) ((hplanned.keeps hkept).keeps hmid)
  have hkeptSpectra : rig.spectra turned = rig.spectra mid := rig.spectra_congr hfirst hsecond
  obtain ⟨after, hinverse, -, hresult⟩ := Rig.executeInverse_gives hg hback hturned
  rw [hkeptSpectra, hspectra, pairs_flat,
    signalFrom_spectrumOf hg (fun d hd => (hcomplex d hd).2.2) (fun hkind => (hreal hkind).2.2) hhost]
    at hresult
  obtain ⟨output, hdownload, houtput⟩ := engine_download env hscalar hg hprecision hresult host
  refine ⟨output, after, Yields.roundTrip ((Yields.of_gives hallocate).bind (Yields.of_log _ _ _))
    (engine_planForward env hplan) ((checkBytes_yields hinput _ _).bind (Yields.of_gives hupload))
    (Yields.of_gives hexecute) (Yields.of_gives hturn) hsame (Yields.of_gives hinverse) hdownload, ?_⟩
  -- what the host gets are the bytes of what the rows hold at the end
  rw [houtput, hscalar.rescaled_eq hscale hcount]
  cases options.normalize with
  | true => exact hscalar.writeAll_readAll hbytes
  | false => rfl

end Exact

/-! ## Lines of two elements -/

/-- The exact transform of a line of two complex numbers, in either direction. -/
def butterfly : (Fin 2 → Complex ℚ) →ₗ[Complex ℚ] (Fin 2 → Complex ℚ) where
  toFun v := ![v 0 + v 1, v 0 + -v 1]
  map_add' v w := by
    funext k
    fin_cases k <;> simp <;> ring
  map_smul' c v := by
    funext k
    fin_cases k <;> simp <;> ring

/-- The half spectrum of two numbers, which is whole. -/
def halfButterfly (x : Fin 2 → ℚ) : Fin 2 → Complex ℚ :=
  ![⟨x 0 + x 1, 0⟩, ⟨x 0 + -x 1, 0⟩]

def halfButterflyBack (X : Fin 2 → Complex ℚ) : Fin 2 → ℚ :=
  ![(X 0).re + (X 1).re, (X 0).re + -(X 1).re]

/-- A library that transforms lines of two elements exactly. -/
def butterflies : Library ℚ where
  forward length := .ofLines length length 0 (onLines butterfly)
  inverse length := .ofLines length length 0 (onLines butterfly)
  spectrum length := .ofLines length length (onLines halfButterfly)
  signal length := .ofLines length length (onLines halfButterflyBack)

/-- Rational numbers, of which the naturals below the number of words have bytes. -/
def Scalar.rational : Scalar ℚ where
  precision := .double
  ofBytes bytes := ofLittleEndian bytes
  toBytes x := littleEndian 8 x.num.toNat
  reciprocal n := (n : ℚ)⁻¹
  library := butterflies

theorem butterflies_inverts : butterflies.Inverts 2 := by
  have htransforms : (LinePlan.ofLines 2 2 0 (onLines butterfly)).Transforms (onLines butterfly) :=
    LinePlan.ofLines_transforms Nat.two_pos fun _ _ => size_onLines ..
  -- on two elements the transform is its own inverse up to the length
  refine ⟨rfl, rfl, butterfly, butterfly, htransforms, htransforms, fun v => ?_⟩
  funext k
  fin_cases k <;> simp [butterfly] <;> ring

theorem butterflies_recovers : butterflies.Recovers 2 := by
  have hinverts : ∀ x, halfButterflyBack (halfButterfly x) = ((2 : ℕ) : ℚ) • x := by
    intro x
    funext k
    fin_cases k <;> simp [halfButterfly, halfButterflyBack] <;> ring
  have hscales : ∀ (c : ℕ) X,
      halfButterflyBack ((c : Complex ℚ) • X) = (c : ℚ) • halfButterflyBack X := by
    intro c X
    funext k
    fin_cases k <;> simp [halfButterflyBack] <;> ring
  have hedges : ∀ x k, (halfButterfly x k).im = 0 := by
    intro x k
    fin_cases k <;> rfl
  exact ⟨rfl, rfl, halfButterfly, halfButterflyBack,
    SpectrumPlan.ofLines_transforms fun _ _ => size_onLines ..,
    SignalPlan.ofLines_transforms (by decide) fun _ _ => size_onLines .., hinverts,
    fun c X _ => hscales c X, fun x k _ => hedges x k⟩

theorem littleEndian_ofLittleEndian (bytes : List UInt8) :
    littleEndian bytes.length (ofLittleEndian bytes) = bytes := by
  induction bytes with
  | nil => rfl
  | cons byte rest ih =>
    have hbyte : byte.toNat < 256 := byte.toNat_lt
    -- the first byte is the remainder, and the others are the quotient
    have hlow : UInt8.ofNat (byte.toNat + 256 * ofLittleEndian rest) = byte := by
      apply UInt8.toNat_inj.1
      rw [UInt8.toNat_ofNat']
      omega
    have hhigh : (byte.toNat + 256 * ofLittleEndian rest) / 256 = ofLittleEndian rest := by omega
    rw [List.length_cons, littleEndian, ofLittleEndian, hlow, hhigh, ih]

theorem Scalar.rational_isExact : Scalar.rational.IsExact where
  length_toBytes _ := length_littleEndian _ _
  toBytes_ofBytes bytes hbytes := by
    have hlength : bytes.length = 8 := hbytes
    change littleEndian 8 ((ofLittleEndian bytes : ℚ).num.toNat) = bytes
    rw [Rat.num_natCast, Int.toNat_natCast, ← hlength, littleEndian_ofLittleEndian]
  reciprocal_eq _ _ := rfl

/-- A rig for two padded rows of two real numbers, with a scaled inverse. -/
def Rig.square : Rig ℚ where
  geometry :=
    { configuration :=
        { kind := .real, placement := .inPlace, precision := .double
          extent := ⟨[2, 2], by decide, by decide, by simp⟩ }
      count := 4, complexCount := 4, dataSize := 64, complexBufferSize := 0, transferSize := 32 }
  library := butterflies
  scale := some (Scalar.rational.reciprocal 4)
  maxBuffer := 64

theorem engine_roundTrip_square :
    let env : Environment (StateM Unit) :=
      { log := fun _ => pure (), clock := pure 0, date := pure "" }
    let input : Array UInt8 := Array.ofFn fun i : Fin 32 => UInt8.ofNat i
    ∃ output after,
      Yields ((engine (env.beside _) Scalar.rational .square .own).roundTrip input
        (Vector.replicate 32 0)) State.empty output after ∧
      output.toArray = input := by
  intro env input
  have hsizes : ∀ d ∈ Rig.square.geometry.extent.sizes, d = 2 := by decide
  have hinverts : ∀ d ∈ Rig.square.geometry.extent.sizes, butterflies.Inverts d := by
    intro d hd
    rw [hsizes d hd]
    exact butterflies_inverts
  have hprecision : Rig.square.geometry.configuration.precision = Scalar.rational.precision := rfl
  have hgeometry : Rig.square.geometry.configuration.geometry = .ok Rig.square.geometry := rfl
  have hrig : rigOf Scalar.rational ⟨true, 64⟩ Rig.square.geometry.configuration = .ok .square := by
    rw [rigOf, if_neg (not_not.2 hprecision), hgeometry]
    rfl
  have haffords : ∀ inverse, Rig.square.Affords (Rig.square.workspace inverse)
    | false => ⟨by decide, by decide, by decide⟩
    | true => ⟨by decide, by decide, by decide⟩
  have hinput : input.size = Rig.square.geometry.transferSize := Array.size_ofFn
  exact engine_roundTrip Scalar.rational_isExact hinverts (fun _ => butterflies_recovers) hrig
    (Nat.le_refl 64) (Nat.zero_le 64) haffords env hinput (Vector.replicate 32 0) State.empty
    (Nat.zero_le 2)

end Cpu

end SpectralBench
