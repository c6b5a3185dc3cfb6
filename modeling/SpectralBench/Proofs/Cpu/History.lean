import SpectralBench.Proofs.Cpu.Invariant

/-!
# Results do not depend on history

An engine is used again and again: buffers keep what earlier transforms left in them, padding keeps
what was never overwritten, work buffers keep what passed through them and only grow, and a destroyed
engine can be allocated again. None of this shows in what comes down. Two engines of one configuration
whose buffers are there, with whatever in them, give the same bytes for the same input.

The argument follows the data. An upload fills the rows of the primary buffer, a forward transform
leaves the spectrum of those rows whatever else the state held, and an inverse one leaves rows that
hold what the spectrum leads back to (`Rig.executeForward_gives`, `Rig.executeInverse_gives`). Planning
may fail for want of room, and then it does so after any history: what the work buffers grew to before
was never too large.

Main statements:

* `Rig.thereAndBack_run` — what a forward transform and an inverse one make of an input.
* `passage_independent_of_history` — the same calls give the same answer after any two histories.
-/

namespace SpectralBench

/-- The calls of a trial between `allocate` and `destroy`. Only a real transform has an inverse plan
of its own. -/
def Engine.passage {m : Type → Type} [Monad m] (engine : Engine m) (input : Array UInt8) {size : ℕ}
    (host : Vector UInt8 size) : ExceptT Failure m (Vector UInt8 size) := do
  engine.planForward
  engine.upload input
  engine.executeForward
  if engine.geometry.kind.isReal then engine.planInverse
  engine.executeInverse
  engine.download host

namespace Cpu

variable {α σ : Type}

namespace Rig

variable [Zero α] [Mul α] {rig : Rig α} {scalar : Scalar α} {before : State α}
  {input : Array UInt8}

/-- Uploads an input and transforms it forward and back. -/
def thereAndBack (rig : Rig α) (scalar : Scalar α) (input : Array UInt8) : Action α Unit := do
  rig.planForward
  rig.uploadBytes scalar input
  rig.executeForward
  rig.planInverse
  rig.executeInverse

/-- A trial between `allocate` and `destroy`. -/
def passage (rig : Rig α) (scalar : Scalar α) (input : Array UInt8) {size : ℕ}
    (host : Vector UInt8 size) : Action α (Vector UInt8 size) := do
  rig.thereAndBack scalar input
  rig.downloadBytes scalar host

/-- An engine whose buffers are there, and whose work buffers never grew too large. -/
structure Usable (rig : Rig α) (state : State α) : Prop where
  allocated : rig.Allocated state
  realLine_le : state.realLine.size ≤ rig.geometry.extent.last
  affords : rig.Affords state.space

omit [Zero α] [Mul α] in
theorem Consistent.usable {direction : Option Bool} {state : State α}
    (h : rig.Consistent direction state) (hallocated : rig.Allocated state) : rig.Usable state :=
  ⟨hallocated, h.realLine_le, h.affords⟩

/-- What the calls of a trial come to before anything comes down: plannings may get no room, and an
upload may have the wrong number of bytes. -/
def admitted (rig : Rig α) (size : ℕ) : Except Failure Unit := do
  rig.reserved false
  rig.geometry.checkTransfer "upload" size
  if rig.geometry.kind.isReal then rig.reserved true

/-- What comes back of the elements of a host. -/
def returned (rig : Rig α) (lines : Lines α) (host : Array α) : Array α :=
  rig.rescaled (lines.signalFrom rig.geometry.kind rig.geometry.placement rig.geometry.extent
    (lines.spectrumOf rig.geometry.kind rig.geometry.extent host))

omit [Mul α] in
/-- The planning of the way back, where there is one, keeps what the buffers hold. -/
theorem planInverse_run (hready : rig.Ready false before) (haffords : rig.Affords before.space) :
    ∃ outcome after, rig.planInverse.run.run before = (outcome, after) ∧
      (outcome = if rig.geometry.kind.isReal then rig.reserved true else .ok ()) ∧
      (outcome = .ok () → rig.Ready true after ∧ after.primary = before.primary ∧
        after.secondary = before.secondary) := by
  cases hkind : rig.geometry.kind with
  | complex =>
    obtain ⟨after, hgives, -, hafter⟩ :=
      planInverse_gives (fun hreal => nomatch hkind.symm.trans hreal) hready
    exact ⟨_, after, hgives, rfl, fun _ => hafter⟩
  | real =>
    -- the plan that is given up first has no part in this
    have hspace : rig.Affords ({ before with plan := none } : State α).space := haffords
    obtain hroom | ⟨failure, after, hreserved, hrun, -⟩ := install_cases true hspace
    · obtain ⟨after, hgives, -, hafter⟩ := planInverse_gives (fun _ => hroom) hready
      exact ⟨_, after, hgives, (reserved_of_affords hroom).symm, fun _ => hafter⟩
    · refine ⟨_, after, ?_, hreserved.symm, fun hok => nomatch hok⟩
      rw [planInverse, hkind]
      exact (Gives.of_modify _ _).bind_eq.trans hrun

section Trials

variable {lines : Lines α} (hg : rig.geometry.IsExact) (hforward : rig.GoesForward lines)
  (hback : rig.GoesBack lines) (hprecision : rig.geometry.precision = scalar.precision)

include hg hforward hback hprecision

/-- What a forward transform and an inverse one make of an input, from buffers with anything in
them. -/
theorem thereAndBack_run (hbefore : rig.Usable before) (input : Array UInt8) :
    ∃ after, (rig.thereAndBack scalar input).run.run before = (rig.admitted input.size, after) ∧
      (rig.admitted input.size = .ok () → rig.Allocated after ∧
        rig.geometry.scalarRows.Holds after.primary (rig.returned lines (scalar.readAll input))) := by
  rw [thereAndBack, admitted]
  obtain hroom | ⟨failure, after, hreserved, hrun, -⟩ := install_cases false hbefore.affords
  case inr =>
    rw [hreserved]
    exact ⟨after, run_bind_of_error hrun _, fun hok => nomatch hok⟩
  -- there is room for the plan, so the engine is ready, and stays so through the upload
  have hready := hbefore.allocated.ready_installed hbefore.realLine_le false
  rw [show rig.planForward = rig.install false from rfl, (install_gives hroom before).bind_eq,
    reserved_of_affords hroom]
  by_cases hinput : input.size = rig.geometry.transferSize
  case neg =>
    have hcheck : rig.geometry.checkTransfer "upload" input.size =
      .error (.transferSize "upload" rig.geometry.transferSize input.size) := if_neg hinput
    rw [hcheck, uploadBytes, hcheck]
    exact ⟨_, run_bind_of_error rfl _, fun hok => nomatch hok⟩
  have hcheck : rig.geometry.checkTransfer "upload" input.size = .ok () := if_pos hinput
  have hbytes : input.size = rig.geometry.scalarCount * scalar.precision.realSize := by
    rw [hinput, ← hg.scalarCount_mul, hprecision]
  obtain ⟨uploaded, hupload, hkeeps, hholds⟩ :=
    upload_gives hg hready.allocated.size_primary (Scalar.size_readAll hbytes)
  obtain ⟨mid, hexecute, hmid, hspectra⟩ :=
    executeForward_gives hg hforward (hready.keeps hkeeps) hholds
  have haffords : rig.Affords mid.space := by
    rw [hmid.space_eq, hkeeps.space_eq]
    exact affords_installed hbefore.affords hroom
  obtain ⟨outcome, turned, hturn, houtcome, hturned⟩ :=
    planInverse_run ((hready.keeps hkeeps).keeps hmid) haffords
  have huploads : Gives (rig.uploadBytes scalar input) _ () uploaded :=
    (Gives.settle hcheck _).bind hupload
  rw [hcheck, huploads.bind_eq, hexecute.bind_eq, Configuration.bind_ok, Configuration.bind_ok]
  have hplanned : (if rig.geometry.kind.isReal then rig.reserved true else pure PUnit.unit) =
    outcome := houtcome.symm
  rw [hplanned]
  cases outcome with
  | error failure => exact ⟨turned, run_bind_of_error hturn _, fun hok => nomatch hok⟩
  | ok =>
    obtain ⟨hready, hprimary, hsecondary⟩ := hturned rfl
    have hsame : rig.spectra turned = rig.spectra mid := rig.spectra_congr hprimary hsecondary
    obtain ⟨after, hinverse, hafter, hresult⟩ := executeInverse_gives hg hback hready
    rw [hsame, hspectra, pairs_flat] at hresult
    have hrest : Gives (rig.planInverse >>= fun _ => rig.executeInverse) mid () after :=
      Gives.bind hturn hinverse
    exact ⟨after, hrest, fun _ => ⟨hready.allocated.keeps hafter, hresult⟩⟩

end Trials

/-- What a download makes of the elements that rows hold. -/
def brought (rig : Rig α) (scalar : Scalar α) (values : Array α) (size : ℕ) :
    Except Failure (Vector UInt8 size) := do
  rig.geometry.checkTransfer "download" size
  return Vector.ofFn fun i => (scalar.writeAll values).getD i 0

omit [Mul α] in
/-- A download gives what the rows hold, whatever the host held. -/
theorem downloadBytes_run (hg : rig.geometry.IsExact)
    (hlength : ∀ x, (scalar.toBytes x).length = scalar.precision.realSize)
    (hprecision : rig.geometry.precision = scalar.precision) {values : Array α}
    (hholds : rig.geometry.scalarRows.Holds before.primary values) {size : ℕ}
    (host : Vector UInt8 size) :
    (rig.downloadBytes scalar host).run.run before = (rig.brought scalar values size, before) := by
  rw [brought, downloadBytes]
  by_cases hsize : size = rig.geometry.transferSize
  · have hcheck : rig.geometry.checkTransfer "download" size = .ok () := if_pos hsize
    have hfilled : (Array.replicate (size / rig.unit) (0 : α)).size = rig.geometry.scalarCount := by
      rw [Array.size_replicate, hsize]
      rfl
    -- the bytes are as many as the host has, so all of it is overwritten
    have hbytes : (scalar.writeAll values).size = size := by
      rw [Scalar.size_writeAll hlength, hg.size_of_holds hholds, ← hprecision, hg.scalarCount_mul,
        hsize]
    have hwritten : (host.mapIdx fun i old => (scalar.writeAll values).getD i old) =
        Vector.ofFn fun i => (scalar.writeAll values).getD i 0 := by
      refine Vector.ext fun i hi => ?_
      rw [Vector.getElem_mapIdx, Vector.getElem_ofFn, Array.getD_eq_getD_getElem?,
        Array.getD_eq_getD_getElem?, Array.getElem?_eq_getElem (hbytes.symm ▸ hi)]
      rfl
    rw [hcheck, ← hwritten]
    exact (Gives.settle rfl before).bind
      ((download_gives hg hholds hfilled).bind (Gives.of_pure _ _))
  · rw [Geometry.checkTransfer, if_neg hsize]
    rfl

/-- What a trial of an input gives. -/
def outcome (rig : Rig α) (scalar : Scalar α) (lines : Lines α) (input : Array UInt8) (size : ℕ) :
    Except Failure (Vector UInt8 size) := do
  rig.admitted input.size
  rig.brought scalar (rig.returned lines (scalar.readAll input)) size

/-- Neither the state nor the host has a part in what a trial gives. -/
theorem passage_answer {lines : Lines α} (hg : rig.geometry.IsExact)
    (hforward : rig.GoesForward lines) (hback : rig.GoesBack lines)
    (hlength : ∀ x, (scalar.toBytes x).length = scalar.precision.realSize)
    (hprecision : rig.geometry.precision = scalar.precision) (hbefore : rig.Usable before)
    (input : Array UInt8) {size : ℕ} (host : Vector UInt8 size) :
    ((rig.passage scalar input host).run.run before).1 = rig.outcome scalar lines input size := by
  obtain ⟨after, hrun, hresult⟩ :=
    thereAndBack_run hg hforward hback hprecision hbefore input
  rw [passage, outcome]
  cases hadmitted : rig.admitted input.size with
  | error failure =>
    rw [hadmitted] at hrun
    exact congrArg Prod.fst (run_bind_of_error hrun _)
  | ok =>
    rw [hadmitted] at hrun
    rw [Gives.bind_eq hrun, downloadBytes_run hg hlength hprecision (hresult hadmitted).2 host,
      Configuration.bind_ok]

omit [Zero α] [Mul α] in
/-- With room for the plans, whole transfers are not refused. -/
theorem admitted_eq_ok (haffords : ∀ inverse, rig.Affords (rig.workspace inverse))
    (hinput : input.size = rig.geometry.transferSize) : rig.admitted input.size = .ok () := by
  have hcheck : rig.geometry.checkTransfer "upload" input.size = .ok () := if_pos hinput
  rw [admitted, reserved_of_affords (haffords false), hcheck, reserved_of_affords (haffords true),
    Configuration.bind_ok, Configuration.bind_ok]
  exact ite_self _

end Rig

/-! ## Histories -/

section Histories

variable [Zero α] [Mul α] {scalar : Scalar α} {rig : Rig α}

/-- The calls of a trial are actions on the state, like each of them. -/
theorem performs_passage (env : Environment (StateM σ)) (input : Array UInt8) {size : ℕ}
    (host : Vector UInt8 size) :
    Performs ((engine (env.beside _) scalar rig .own).passage input host)
      (rig.passage scalar input host) := by
  have hrest : Performs _ (rig.executeInverse >>= fun _ => rig.downloadBytes scalar host) :=
    (Performs.of_runIn (σ := σ) rig.executeInverse).bind fun _ => performs_download env host
  simp only [Rig.passage, Rig.thereAndBack, bind_assoc]
  refine (performs_planForward env).bind fun _ => (performs_upload env input).bind fun _ =>
    (Performs.of_runIn _).bind fun _ => ?_
  dsimp only
  split
  · exact (Performs.of_runIn _).bind fun _ => hrest
  · rename_i hcomplex
    -- a complex transform skips a call, but one that does nothing
    have hnothing : rig.planInverse = pure () := by
      cases hkind : rig.geometry.kind with
      | real => exact absurd (congrArg Kind.isReal hkind) hcomplex
      | complex => rw [Rig.planInverse, hkind]
    rw [hnothing, pure_bind]
    exact hrest

/-- **Results do not depend on history.** Whatever an engine has been called for, in whatever order
and with whatever answers, once its buffers are there a trial gives the same, whatever the host held:
what any other history leads to. That is bytes, as many as the host has, where the transfers have
their sizes and there is room for the plans. Of the library only the sizes of its lines are relied on,
and that what a plan makes of lines is a function of these lines. -/
theorem passage_independent_of_history {lines : Lines α} {options : Options} {c : Configuration}
    (hscalar : scalar.Realizes lines) (hrig : rigOf scalar options c = .ok rig)
    (env : Environment (StateM σ)) (left right : List Call) (leftWorld rightWorld : σ)
    (input : Array UInt8) {size : ℕ} (leftHost rightHost : Vector UInt8 size) :
    let engine := engine (env.beside (State α)) scalar rig .own
    let leftState := (engine.serveFrom .empty left leftWorld).2
    let rightState := (engine.serveFrom .empty right rightWorld).2
    rig.Allocated leftState → rig.Allocated rightState →
      ∃ outcome, Answers (engine.passage input leftHost) leftState outcome ∧
        Answers (engine.passage input rightHost) rightState outcome ∧
        (input.size = rig.geometry.transferSize → size = rig.geometry.transferSize →
          (∀ inverse, rig.Affords (rig.workspace inverse)) → ∃ output, outcome = .ok output) := by
  intro engine leftState rightState hleft hright
  obtain ⟨hg, hforward, hback, hprecision⟩ := realized_of_rigOf hscalar hrig
  -- after any history the trial gives what it gives after none
  have hanswers (calls : List Call) (world : σ) (host : Vector UInt8 size)
      (hallocated : rig.Allocated (engine.serveFrom .empty calls world).2) :
      Answers (engine.passage input host) (engine.serveFrom .empty calls world).2
        (rig.outcome scalar lines input size) := by
    rw [serveFrom_eq] at hallocated ⊢
    have husable := (rig.consistent_empty.serve scalar calls).usable hallocated
    rw [← Rig.passage_answer hg hforward hback hscalar.length_toBytes hprecision husable input host]
    exact (performs_passage env input host).answers _
  refine ⟨rig.outcome scalar lines input size, hanswers left leftWorld leftHost hleft,
    hanswers right rightWorld rightHost hright, fun hinput hsize haffords => ?_⟩
  have hcheck : rig.geometry.checkTransfer "download" size = .ok () := if_pos hsize
  rw [Rig.outcome, Rig.admitted_eq_ok haffords hinput, Rig.brought, hcheck]
  exact ⟨_, rfl⟩

end Histories

/-- A rig for two padded rows of two double numbers, with a scaled inverse. -/
def Rig.doubleSquare : Rig Float where
  geometry := Rig.square.geometry
  library := Scalar.double.library
  scale := some (Scalar.double.reciprocal 4)
  maxBuffer := 64

theorem rigOf_doubleSquare : rigOf Scalar.double ⟨true, 64⟩ Rig.square.geometry.configuration =
    .ok .doubleSquare :=
  rfl

theorem allocated_doubleSquare (state : State Float) :
    Rig.doubleSquare.Allocated (Rig.doubleSquare.allocate.run.run state).2 :=
  (Rig.allocate_refills _ state).2.2 rfl

theorem affords_doubleSquare (inverse : Bool) :
    Rig.doubleSquare.Affords (Rig.doubleSquare.workspace inverse) := by
  cases inverse <;> exact ⟨by decide, by decide, by decide⟩

/-- After a transform of other data, and after an upload that came too early. -/
theorem passage_independent_of_history_square :
    let env : Environment (StateM Unit) :=
      { log := fun _ => pure (), clock := pure 0, date := pure "" }
    let engine := engine (env.beside _) Scalar.double .doubleSquare .own
    let input : Array UInt8 := Array.ofFn fun i : Fin 32 => UInt8.ofNat i
    let other : Array UInt8 := Array.replicate 32 64
    let used : List Call := [.step .allocate #[] #[], .step .planForward #[] #[],
      .step .upload other #[], .step .executeForward #[] #[], .step .planInverse #[] #[]]
    let fresh : List Call := [.step .upload other #[], .step .allocate #[] #[]]
    ∃ output, Answers (engine.passage input (Vector.replicate 32 0))
        (engine.serveFrom .empty used ()).2 (.ok output) ∧
      Answers (engine.passage input (Vector.replicate 32 255))
        (engine.serveFrom .empty fresh ()).2 (.ok output) := by
  intro env engine input other used fresh
  have hused : Rig.doubleSquare.Allocated (engine.serveFrom .empty used ()).2 := by
    rw [serveFrom_eq]
    refine (allocated_doubleSquare .empty).serve Scalar.double used.tail ?_
    simp [used]
  have hfresh : Rig.doubleSquare.Allocated (engine.serveFrom .empty fresh ()).2 := by
    rw [serveFrom_eq]
    exact allocated_doubleSquare _
  obtain ⟨outcome, hleft, hright, hok⟩ :=
    passage_independent_of_history Scalar.double_realizes rigOf_doubleSquare env used fresh () ()
      input (Vector.replicate 32 0) (Vector.replicate 32 255) hused hfresh
  obtain ⟨output, rfl⟩ := hok Array.size_ofFn rfl affords_doubleSquare
  exact ⟨output, hleft, hright⟩

end Cpu

end SpectralBench
