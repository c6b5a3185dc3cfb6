import SpectralBench.Proofs.Cpu.Attendance
import SpectralBench.Proofs.Cpu.History

/-!
# No execution fails

A session lets an execution through only after buffers were allocated and the plan of its direction
was made, so the state of the engine goes with the stage of the session (`Rig.Staged`). At these
stages executions find all that they rely on: a plan of their direction, work buffers with room for
it, and buffers of the sizes of the geometry. So they succeed, and what succeeds has found no odd
complex view, no array of another shape and no index out of range, all of which are failures.
Allocations and plannings fail only for want of room, and transfers only where the host has the wrong
number of bytes.

Main statements:

* `Rig.Staged.attend` — every request keeps state and stage together.
* `Rig.Staged.answer` — what due steps answer.
* `engine_upholds_invariant` — the invariant under any calls, and sessions over any engine.
-/

namespace SpectralBench

namespace Stage

/-- The direction whose plan an engine has at a stage, if it has one for certain: while a real
transform waits for the plan of the way back, it may have given up that of the way forward. -/
def direction (kind : Kind) : Stage → Option Bool
  | .constructed | .allocated | .destroyed => none
  | .forwardPlanned | .uploaded => some false
  | .forwardExecuted => if kind.isReal then none else some false
  | .inversePlanned => some true
  -- a complex transform keeps the plan of the way forward
  | .inverseExecuted | .downloaded => some kind.isReal

/-- Whether an engine has buffers at a stage. -/
def hasBuffers : Stage → Bool
  | .constructed | .destroyed => false
  | _ => true

variable {kind : Kind} {stage : Stage} {step : Step}

/-- A step that succeeds leaves the plan that its stage asks for. -/
theorem direction_reaches (hdue : step.isDue kind stage) {direction : Option Bool}
    (hplanned : ∀ inverse ∈ stage.direction kind, inverse ∈ direction) (input output : Array UInt8) :
    ∀ inverse ∈ step.reaches.direction kind,
      inverse ∈ (Call.step step input output).planned kind direction (.ok ()) := by
  intro inverse h
  -- most steps ask for the plan that the stage before them asked for; plannings make their own
  cases kind <;> cases stage <;> cases step <;>
    first
    | exact hplanned inverse h
    | exact h
    | exact absurd h (Option.not_mem_none inverse)
    | cases hdue

/-- A step that fails leaves the plan that the stage before it asks for. -/
theorem direction_kept (hdue : step.isDue kind stage) {direction : Option Bool}
    (hplanned : ∀ inverse ∈ stage.direction kind, inverse ∈ direction) (input output : Array UInt8)
    (failure : Failure) :
    ∀ inverse ∈ stage.direction kind,
      inverse ∈ (Call.step step input output).planned kind direction (.error failure) := by
  intro inverse h
  -- only the planning of the way back takes a plan away, and only where none is asked for
  cases kind <;> cases stage <;> cases step <;>
    first
    | exact hplanned inverse h
    | exact absurd h (Option.not_mem_none inverse)
    | cases hdue

/-- All steps between allocation and release come after the allocation. -/
theorem hasBuffers_of_isDue (hdue : step.isDue kind stage) (hallocate : step ≠ .allocate)
    (hdestroy : step ≠ .destroy) : stage.hasBuffers := by
  cases kind <;> cases stage <;> cases step <;>
    first | rfl | exact absurd rfl hallocate | exact absurd rfl hdestroy | cases hdue

end Stage

namespace Cpu

variable {α : Type}

namespace Rig

variable {rig : Rig α} {stage : Stage} {direction : Option Bool} {state : State α}

/-- Whether the state of an engine, with the direction that was planned last, goes with the stage of
a session. An engine may have been planned before the session began. -/
structure Staged (rig : Rig α) (stage : Stage) (direction : Option Bool) (state : State α) :
    Prop where
  consistent : rig.Consistent direction state
  planned : ∀ inverse ∈ stage.direction rig.geometry.kind, inverse ∈ direction
  allocated : stage.hasBuffers → rig.Allocated state

theorem Consistent.staged_constructed (h : rig.Consistent direction state) :
    rig.Staged .constructed direction state where
  consistent := h
  planned _ hplanned := nomatch hplanned
  allocated hbuffers := nomatch hbuffers

/-! ## Executions that are due -/

/-- An execution that is due finds buffers and the plan of its direction. -/
theorem Staged.ready_forward (h : rig.Staged stage direction state)
    (hdue : Step.executeForward.isDue rig.geometry.kind stage) : rig.Ready false state := by
  obtain rfl : stage = .uploaded := (Option.some.inj (of_decide_eq_true hdue)).symm
  obtain rfl : direction = some false := h.planned false rfl
  exact h.consistent.ready (h.allocated rfl)

theorem Staged.ready_inverse (h : rig.Staged stage direction state)
    (hdue : Step.executeInverse.isDue rig.geometry.kind stage) : rig.Ready true state := by
  have hstage := (Option.some.inj (of_decide_eq_true hdue)).symm
  have hplanned := h.planned
  cases hkind : rig.geometry.kind with
  | real =>
    rw [hkind] at hstage hplanned
    obtain rfl : stage = .inversePlanned := hstage
    obtain rfl : direction = some true := hplanned true rfl
    exact h.consistent.ready (h.allocated rfl)
  | complex =>
    -- the plan of the way forward serves the way back
    rw [hkind] at hstage hplanned
    obtain rfl : stage = .forwardExecuted := hstage
    obtain rfl : direction = some false := hplanned false rfl
    exact (h.consistent.ready (h.allocated rfl)).of_complex hkind true

/-! ## Steps -/

section Steps

variable [Zero α] [Mul α] {step : Step} (h : rig.Staged stage direction state)

include h

/-- Buffers that are there stay, and an allocation that succeeds leaves some. -/
theorem Staged.allocated_respond (scalar : Scalar α) (hdue : step.isDue rig.geometry.kind stage)
    (input output : Array UInt8) (hdestroy : step ≠ .destroy)
    (hbuffers : step = .allocate →
      stage.hasBuffers ∨ ((rig.respond scalar (.step step input output)).run.run state).1 = .ok ()) :
    rig.Allocated ((rig.respond scalar (.step step input output)).run.run state).2 := by
  have hkept (hstage : stage.hasBuffers) :
      rig.Allocated ((rig.respond scalar (.step step input output)).run.run state).2 := by
    refine (h.allocated hstage).respond scalar fun _ _ heq => hdestroy ?_
    cases heq
    rfl
  by_cases hallocate : step = .allocate
  · -- only here there may have been no buffers before
    subst hallocate
    exact (hbuffers rfl).elim hkept (rig.allocate_refills state).2.2
  · exact hkept (Stage.hasBuffers_of_isDue hdue hallocate hdestroy)

/-- A due step leaves a state that goes with the next stage if it succeeds, and with the same stage if
it fails. -/
theorem Staged.respond (scalar : Scalar α) (hdue : step.isDue rig.geometry.kind stage)
    (input output : Array UInt8) :
    ∃ later, rig.Staged
      (if ((rig.respond scalar (.step step input output)).run.run state).1.isOk then step.reaches
        else stage)
      later ((rig.respond scalar (.step step input output)).run.run state).2 := by
  have hconsistent := h.consistent.respond scalar (.step step input output)
  have hallocated := h.allocated_respond scalar hdue input output
  cases hanswer : ((rig.respond scalar (.step step input output)).run.run state).1 with
  | ok =>
    rw [hanswer] at hconsistent
    refine ⟨_, hconsistent, Stage.direction_reaches hdue h.planned input output, fun hstage =>
      hallocated ?_ fun _ => .inr hanswer⟩
    rintro rfl
    cases hstage
  | error failure =>
    rw [hanswer] at hconsistent
    refine ⟨_, hconsistent, Stage.direction_kept hdue h.planned input output failure, fun hstage =>
      hallocated ?_ fun _ => .inl hstage⟩
    -- a release does not fail
    rintro rfl
    cases hanswer

/-- Every request keeps stage and state together. -/
theorem Staged.attend (scalar : Scalar α) (request : Request) :
    ∃ later, rig.Staged (rig.attend scalar stage state request).2.1 later
      (rig.attend scalar stage state request).2.2 := by
  cases request with
  | planEstimate =>
    rw [Rig.attend]
    split <;> exact ⟨_, h⟩
  | step taken input output =>
    rw [Rig.attend, Rig.take]
    split
    · rename_i hdue
      exact h.respond scalar hdue input output
    · split <;> exact ⟨_, h⟩
  | rearm =>
    rw [Rig.attend]
    split
    · exact ⟨_, h.consistent.staged_constructed⟩
    · exact ⟨_, h⟩

omit h in
/-- So does every list of them, by induction. -/
theorem exists_staged_attendAll (scalar : Scalar α) (requests : List Request) {stage : Stage}
    {direction : Option Bool} {state : State α} (h : rig.Staged stage direction state) :
    ∃ later, rig.Staged (rig.attendAll scalar stage state requests).1 later
      (rig.attendAll scalar stage state requests).2 := by
  induction requests generalizing stage direction state with
  | nil => exact ⟨_, h⟩
  | cons request rest ih =>
    obtain ⟨later, hlater⟩ := h.attend scalar request
    exact ih hlater

end Steps

/-! ## Answers -/

/-- What a due step answers: allocations and plannings may get no room, and transfers may have the
wrong number of bytes. Nothing else fails. -/
def verdict (rig : Rig α) (input output : Array UInt8) : Step → Except Failure Unit
  | .allocate => rig.allotted
  | .planForward => rig.reserved false
  | .planInverse => rig.reserved true
  | .upload => rig.geometry.checkTransfer "upload" input.size
  | .download => rig.geometry.checkTransfer "download" output.size
  | _ => .ok ()

section Answers

variable [Zero α] {scalar : Scalar α} (hg : rig.geometry.IsExact)
  (hprecision : rig.geometry.precision = scalar.precision) (hallocated : rig.Allocated state)

/-- Work buffers that are not too large are no obstacle to a planning; the room for the plan is all
that matters. -/
theorem answer_install (haffords : rig.Affords state.space) (inverse : Bool) :
    ((rig.install inverse).run.run state).1 = rig.reserved inverse := by
  obtain hroom | ⟨failure, after, hreserved, hrun, -⟩ := install_cases inverse haffords
  · rw [reserved_of_affords hroom]
    exact congrArg Prod.fst (install_gives hroom state)
  · rw [hrun, hreserved]

include hg hprecision hallocated

omit [Zero α] in
/-- An upload into buffers that are there fails only for the number of bytes. -/
theorem answer_uploadBytes (input : Array UInt8) :
    ((rig.uploadBytes scalar input).run.run state).1 =
      rig.geometry.checkTransfer "upload" input.size := by
  by_cases hinput : input.size = rig.geometry.transferSize
  · have hcheck : rig.geometry.checkTransfer "upload" input.size = .ok () := if_pos hinput
    have hbytes : input.size = rig.geometry.scalarCount * scalar.precision.realSize := by
      rw [hinput, ← hg.scalarCount_mul, hprecision]
    obtain ⟨after, hgives, -, -⟩ :=
      upload_gives hg hallocated.size_primary (Scalar.size_readAll hbytes)
    rw [hcheck]
    exact congrArg Prod.fst ((Gives.settle hcheck state).bind hgives)
  · rw [uploadBytes, Geometry.checkTransfer, if_neg hinput]
    rfl

/-- So does a download. -/
theorem answer_downloadBytes (hlength : ∀ x, (scalar.toBytes x).length = scalar.precision.realSize)
    {size : ℕ} (host : Vector UInt8 size) :
    ((rig.downloadBytes scalar host).run.run state).1.map (fun _ => ()) =
      rig.geometry.checkTransfer "download" size := by
  -- what comes down does not matter here
  obtain ⟨values, hholds⟩ := hg.exists_holds hallocated.size_primary
  rw [downloadBytes_run hg hlength hprecision hholds host, brought]
  cases rig.geometry.checkTransfer "download" size <;> rfl

end Answers

section Engines

variable [Zero α] [Mul α] {scalar : Scalar α} {lines : Lines α} {step : Step}
  (hg : rig.geometry.IsExact) (hforward : rig.GoesForward lines) (hback : rig.GoesBack lines)
  (hlength : ∀ x, (scalar.toBytes x).length = scalar.precision.realSize)
  (hprecision : rig.geometry.precision = scalar.precision) (h : rig.Staged stage direction state)

include hg hforward hback hlength hprecision h

/-- What a due step answers. -/
theorem Staged.answer (hdue : step.isDue rig.geometry.kind stage) (input output : Array UInt8) :
    ((rig.respond scalar (.step step input output)).run.run state).1 =
      rig.verdict input output step := by
  have hallocated (hallocate : step ≠ .allocate) (hdestroy : step ≠ .destroy) :
      rig.Allocated state :=
    h.allocated (Stage.hasBuffers_of_isDue hdue hallocate hdestroy)
  cases step with
  | allocate => exact (rig.allocate_refills state).2.1
  | planForward => exact answer_install h.consistent.affords false
  | upload => exact answer_uploadBytes hg hprecision (hallocated (by decide) (by decide)) input
  | executeForward =>
    obtain ⟨values, hholds⟩ := hg.exists_holds (h.ready_forward hdue).allocated.size_primary
    obtain ⟨after, hgives, -⟩ := executeForward_gives hg hforward (h.ready_forward hdue) hholds
    exact congrArg Prod.fst hgives
  | planInverse =>
    rw [Rig.respond, planInverse]
    cases hkind : rig.geometry.kind with
    | complex =>
      rw [hkind] at hdue
      cases stage <;> cases hdue
    | real =>
      rw [(Gives.of_modify _ state).bind_eq]
      exact answer_install h.consistent.unplanned.affords true
  | executeInverse =>
    obtain ⟨after, hgives, -⟩ := executeInverse_gives hg hback (h.ready_inverse hdue)
    exact congrArg Prod.fst hgives
  | download =>
    rw [Rig.respond, ExceptT.run_map, StateT.run_map]
    exact answer_downloadBytes hg hprecision (hallocated (by decide) (by decide)) hlength
      output.toVector
  | destroy => rfl

/-- How a session answers a step at any stage: what comes at the wrong time is refused, and what is
due fails only for want of room and for the number of bytes. -/
theorem Staged.answer_attend (step : Step) (input output : Array UInt8) :
    (rig.attend scalar stage state (.step step input output)).1 =
      if step.isDue rig.geometry.kind stage then rig.verdict input output step
      else if step = .destroy then .ok ()
      else .error (step.refusal rig.geometry.kind stage) := by
  rw [Rig.attend, Rig.take]
  by_cases hdue : step.isDue rig.geometry.kind stage
  · rw [if_pos hdue, if_pos hdue]
    exact h.answer hg hforward hback hlength hprecision hdue input output
  · rw [if_neg hdue, if_neg hdue]
    split <;> rfl

end Engines

/-- A plan that is there is the latest one, and has the form of the geometry. -/
theorem Consistent.plan_suits [Zero α] {lines : Lines α} (hforward : rig.GoesForward lines)
    (hback : rig.GoesBack lines) (h : rig.Consistent direction state) :
    ∀ plan ∈ state.plan, ∃ inverse ∈ direction, plan.Suits rig.geometry inverse state.space := by
  intro plan hplan
  rw [h.plan_eq] at hplan
  obtain ⟨inverse, hinverse, rfl⟩ := Option.mem_map.1 hplan
  cases hinverse
  exact ⟨inverse, rfl, h.suits hforward hback⟩

end Rig

/-- **No execution fails.** Let an engine be called in any order. Then its buffers are empty or whole,
its plan is the one of the latest planning that succeeded, unless a later one gave it up and failed,
and its work buffers are as the plan needs them. Let then a session over this engine be asked for
anything in any order, however often it is armed again. Then a step that comes in its turn answers as
`Rig.verdict` says: an allocation and a planning may get no room, a transfer may have the wrong number
of bytes, and a transform succeeds, so that no index is out of range and no plan, work buffer or view
is amiss. -/
theorem engine_upholds_invariant {σ : Type} [Zero α] [Mul α] {scalar : Scalar α} {lines : Lines α}
    {rig : Rig α} {options : Options} {c : Configuration} (hscalar : scalar.Realizes lines)
    (hrig : rigOf scalar options c = .ok rig) (env : Environment (StateM σ)) (calls : List Call)
    (world : σ) :
    let engine := engine (env.beside (State α)) scalar rig .own
    let kind := rig.geometry.kind
    let served := engine.serveFrom .empty calls world
    let latest := Call.latest kind none calls served.1
    rig.Consistent latest served.2 ∧
    (∀ plan ∈ served.2.plan, ∃ inverse ∈ latest,
      plan.Suits rig.geometry inverse served.2.space) ∧
    ∀ (requests : List Request) (world : σ),
      let attended := Session.attendFrom (env.beside _) (.new engine) served.2 requests world
      let stage := attended.1.stage
      ∀ (step : Step) (input output : Array UInt8) (world : σ),
        Session.answerTo (env.beside _) attended.1 attended.2 (.step step input output) world =
          if step.isDue kind stage then rig.verdict input output step
          else if step = .destroy then .ok ()
          else .error (step.refusal kind stage) := by
  intro engine kind
  obtain ⟨hg, hforward, hback, hprecision⟩ := realized_of_rigOf hscalar hrig
  simp only [engine, serveFrom_eq]
  have hconsistent := rig.consistent_empty.serve scalar calls
  refine ⟨hconsistent, hconsistent.plan_suits hforward hback, fun requests later => ?_⟩
  -- a new session begins where the calls left the engine
  rw [Session.new, attendFrom_eq]
  obtain ⟨direction, hstaged⟩ := Rig.exists_staged_attendAll scalar requests
    hconsistent.staged_constructed
  intro step input output last
  rw [answerTo_eq]
  exact hstaged.answer_attend hg hforward hback hscalar.length_toBytes hprecision step input output

/-- An engine that was planned the other way round before the session, after an execution that came too
early; the session is first asked for a download. -/
theorem engine_upholds_invariant_square :
    let env : Environment (StateM Unit) :=
      { log := fun _ => pure (), clock := pure 0, date := pure "" }
    let engine := engine (env.beside _) Scalar.double .doubleSquare .own
    let input : Array UInt8 := Array.replicate 32 64
    let used : List Call := [.step .allocate #[] #[], .step .executeInverse #[] #[],
      .step .planInverse #[] #[]]
    let requests : List Request := [.step .download #[] #[], .step .allocate #[] #[],
      .step .planForward #[] #[], .step .upload input #[]]
    let served := engine.serveFrom .empty used ()
    let attended := Session.attendFrom (env.beside _) (.new engine) served.2 requests ()
    Rig.doubleSquare.Consistent (some true) served.2 ∧
      Session.answerTo (env.beside _) attended.1 attended.2 (.step .executeForward #[] #[]) () =
        .ok () := by
  intro env engine input used requests served attended
  obtain ⟨hg, -, -, -⟩ := realized_of_rigOf Scalar.double_realizes rigOf_doubleSquare
  obtain ⟨hconsistent, -, hsession⟩ :=
    engine_upholds_invariant Scalar.double_realizes rigOf_doubleSquare env used ()
  have hanswer := hsession requests () .executeForward #[] #[] ()
  -- the download is refused, and the other requests are granted
  have hstage : attended.1.stage = .uploaded := by
    have hallocated := allocated_doubleSquare served.2
    have hplanned : Rig.doubleSquare.Allocated
        (Rig.doubleSquare.planForward.run.run (Rig.doubleSquare.allocate.run.run served.2).2).2 :=
      Rig.install_maintains_allocated _ false _ hallocated
    have hupload : ((Rig.doubleSquare.uploadBytes Scalar.double input).run.run _).1 = _ :=
      Rig.answer_uploadBytes hg rfl hplanned input
    have hgranted : Except.isOk _ = true := congrArg Except.isOk hupload
    have hattended : attended = _ := attendFrom_eq env requests .constructed served.2 ()
    rw [hattended]
    exact if_pos hgranted
  have hdue : Step.executeForward.isDue Rig.doubleSquare.geometry.kind attended.1.stage := by
    rw [hstage]
    rfl
  exact ⟨hconsistent, hanswer.trans (if_pos hdue)⟩

end Cpu

end SpectralBench
