import SpectralBench.Proofs.Cpu.Transforms

/-!
# What executions keep

An execution can stop anywhere: where there is no plan, where scratch is too short, at an index out of
range, or because a plan gives up. Wherever it stops, and whatever its plans write, it has kept the
plan and the size of every buffer, since slices keep their lengths. Nothing is relied on here, neither
of the library nor of the buffers.

Main statements:

* `transformOuter_maintains` — loops along axes keep the sizes of what they work on.
* `Rig.executeForward_maintains`, `Rig.executeInverse_maintains` — so do executions.
-/

namespace SpectralBench.Cpu

variable {α : Type}

/-! ## Loops along axes -/

/-- Whether a desk has an array and work buffers of the same sizes as another one. -/
structure Desk.Keeps (before after : Desk α) : Prop where
  size_data : after.data.size = before.data.size
  size_line : after.line.size = before.line.size
  size_scratch : after.scratch.size = before.scratch.size

section Loops

variable (desk : Desk α) (plan : LinePlan α) (length stride : ℕ)

/-- One element is copied into the line, or nothing is: the line is as long as before. -/
theorem gatherElement_maintains (place : Place) (i : ℕ) :
    Maintains desk.Keeps (gatherElement length stride place i) := by
  refine Maintains.of_act fun current h => ?_
  dsimp only
  split
  · exact ⟨h.size_data, (Array.size_setIfInBounds ..).trans h.size_line, h.size_scratch⟩
  · exact h

/-- One element is copied out of the line, or nothing is: the array is as long as before. -/
theorem scatterElement_maintains (place : Place) (i : ℕ) :
    Maintains desk.Keeps (scatterElement length stride place i) := by
  refine Maintains.of_act fun current h => ?_
  dsimp only
  split
  · split
    · exact ⟨(Array.size_setIfInBounds ..).trans h.size_data, h.size_line, h.size_scratch⟩
    · exact h
  · exact h

/-- A plan is lent the front of the line and of scratch, and what it gives back is as long. -/
theorem runLine_maintains : Maintains desk.Keeps (runLine plan length) :=
  Maintains.of_act fun _ h =>
    ⟨h.size_data, (size_putFront ..).trans h.size_line, (size_putFront ..).trans h.size_scratch⟩

theorem transformLine_maintains (place : Place) :
    Maintains desk.Keeps (transformLine plan length stride place) :=
  (Maintains.countUp (gatherElement_maintains desk length stride place) length).bind fun _ =>
    (runLine_maintains desk plan length).bind fun _ =>
      Maintains.countUp (scatterElement_maintains desk length stride place) length

/-- Of each place of an axis one line is transformed, and each of them keeps the sizes. -/
theorem transformAxis_maintains (blocks : ℕ) :
    Maintains desk.Keeps (transformAxis plan blocks length stride) :=
  Maintains.countUp (fun _ => Maintains.countUp
    (fun _ => transformLine_maintains desk plan length stride _) stride) blocks

/-- A list of axes stops at the first that cannot be swept, with the sizes that the ones before it
have kept. -/
theorem transformAxes_maintains (operation : String) (shape : List ℕ) (axis : ℕ)
    (plans : List (LinePlan α)) :
    Maintains desk.Keeps (transformAxes operation shape axis plans) := by
  induction plans generalizing axis with
  | nil => exact Maintains.of_pure ()
  | cons plan plans ih =>
    rw [transformAxes]
    split
    · exact Maintains.of_throw _
    · exact Maintains.of_get.bind fun _ => (Maintains.of_settle _).bind fun _ =>
        (Maintains.of_settle _).bind fun _ =>
          (transformAxis_maintains desk plan _ _ _).bind fun _ => ih (axis + 1)

/-- A loop along the outer axes keeps the sizes of array, line and scratch, even where the array
does not have the shape. -/
theorem transformOuter_maintains (operation : String) (shape : List ℕ) (plans : List (LinePlan α)) :
    Maintains desk.Keeps (transformOuter operation shape plans) := by
  rw [transformOuter]
  split
  · exact Maintains.of_pure ()
  · refine Maintains.of_get.bind fun _ => ?_
    dsimp only
    split
    -- the array does not have the shape
    · exact (Maintains.of_throw _).bind fun _ => transformAxes_maintains desk operation shape 0 plans
    · exact transformAxes_maintains desk operation shape 0 plans

end Loops

namespace Rig

/-! ## Parts of a transform -/

section Parts

variable (rig : Rig α) (state : State α) (operation : String)

/-- The complex view of a slice has two scalars for each of its elements. -/
theorem size_of_complexView {slice : Array α} {view : Array (Complex α)}
    (h : complexView operation slice = .ok view) : 2 * view.size = slice.size := by
  rw [complexView] at h
  split at h
  · cases h
    rw [size_pairs]
    omega
  · cases h

/-- Work on a desk keeps the state if it keeps the desk: the array of the desk is a view of a
buffer, and it comes back with as many scalars. -/
theorem lend_maintains (side : Side) {work : Work (Desk α) Unit}
    (hwork : ∀ desk : Desk α, Maintains desk.Keeps work) :
    Maintains state.Keeps (lend operation side work) := by
  refine Maintains.of_act fun current h => ?_
  dsimp only
  split
  -- without a view the work is not begun
  · exact h
  · rename_i view hview
    have hkept := hwork ⟨view, current.line, current.scratch⟩ _ ⟨rfl, rfl, rfl⟩
    generalize work.run.run ⟨view, current.line, current.scratch⟩ = finished at hkept
    obtain ⟨outcome, desk⟩ := finished
    have hflat : (flat desk.data).size = (current.buffer side).size := by
      rw [size_flat, hkept.size_data, size_of_complexView operation hview]
    refine (h.put side hflat).work ?_ ?_ rfl
    · exact hkept.size_scratch.trans (by cases side <;> rfl)
    · exact hkept.size_line.trans (by cases side <;> rfl)

theorem runRows_maintains (desk : Desk α) (plan : LinePlan α) :
    Maintains desk.Keeps (runRows operation plan) := by
  refine Maintains.of_act fun current h => ?_
  dsimp only
  split
  · exact h
  · exact ⟨(Vector.size_toArray _).trans h.size_data, h.size_line,
      (size_putFront ..).trans h.size_scratch⟩

/-- Rows across two buffers overwrite both, the one that they are read from included. -/
theorem runRowsAcross_maintains (plan : LinePlan α) (source target : Side) :
    Maintains state.Keeps (runRowsAcross operation plan source target) := by
  refine Maintains.of_act fun current h => ?_
  dsimp only
  split
  · exact h
  · rename_i input output hviews
    obtain ⟨_, hinput, hviews⟩ := Configuration.bind_eq_ok hviews
    obtain ⟨_, houtput, hviews⟩ := Configuration.bind_eq_ok hviews
    obtain ⟨_, -, hviews⟩ := Configuration.bind_eq_ok hviews
    cases hviews
    -- both buffers get as many scalars as their views have
    have hsource (data : Vector (Complex α) input.size) :
        (flat data.toArray).size = (current.buffer source).size := by
      rw [size_flat, Vector.size_toArray, size_of_complexView operation hinput]
    have htarget (data : Vector (Complex α) output.size) :
        (flat data.toArray).size = (current.buffer target).size := by
      rw [size_flat, Vector.size_toArray, size_of_complexView operation houtput]
    refine ((h.put source (hsource _)).put target ?_).work ?_ ?_ ?_
    · exact (htarget _).trans (State.size_buffer_put (hsource _) target).symm
    · exact (size_putFront ..).trans (by cases source <;> cases target <;> rfl)
    · cases source <;> cases target <;> rfl
    · cases source <;> cases target <;> rfl

theorem size_of_copied {β : Type} {target source result : Array β}
    (h : copied target source = .ok result) : result.size = target.size := by
  rw [copied] at h
  split at h
  · rename_i hsize
    cases h
    exact hsize.symm
  · cases h

theorem rowToLine_maintains (row : ℕ) : Maintains state.Keeps (rig.rowToLine row) := by
  refine Maintains.of_act fun current h => ?_
  dsimp only
  split
  · exact h
  · rename_i realLine hcopied
    exact h.work rfl rfl (size_of_copied hcopied)

theorem lineToRow_maintains (row : ℕ) : Maintains state.Keeps (rig.lineToRow row) := by
  refine Maintains.of_act fun current h => ?_
  dsimp only
  split
  · exact h
  · exact h.put .primary (size_putRow ..)

/-- The half spectrum of a row takes the place of the row, and the plan may have spoiled the line of
reals. -/
theorem spectrumInPlace_maintains (plan : SpectrumPlan α) (row : ℕ) :
    Maintains state.Keeps (rig.spectrumInPlace operation plan row) := by
  refine (rowToLine_maintains rig state row).bind fun _ => Maintains.of_act fun current h => ?_
  dsimp only
  split
  · exact h
  · exact (h.put .primary (size_putRow ..)).work (size_putFront ..) rfl
      (Vector.size_toArray _)

/-- A row is given up for its half spectrum in the other buffer. -/
theorem spectrumAcross_maintains (plan : SpectrumPlan α) (row : ℕ) :
    Maintains state.Keeps (rig.spectrumAcross operation plan row) :=
  Maintains.of_act fun _ h =>
    ((h.put .primary (size_putRow ..)).put .secondary (size_putRow ..)).work (size_putFront ..) rfl rfl

theorem signalInPlace_maintains [Zero α] (plan : SignalPlan α) (row : ℕ) :
    Maintains state.Keeps (rig.signalInPlace operation plan row) := by
  refine (Maintains.of_act fun current h => ?_).bind fun _ => lineToRow_maintains rig state row
  dsimp only
  split
  · exact h
  · exact (h.put .primary (size_putRow ..)).work (size_putFront ..) rfl
      (Vector.size_toArray _)

theorem signalAcross_maintains [Zero α] (plan : SignalPlan α) (row : ℕ) :
    Maintains state.Keeps (rig.signalAcross operation plan row) :=
  Maintains.of_act fun _ h =>
    ((h.put .primary (size_putRow ..)).put .secondary (size_putRow ..)).work (size_putFront ..) rfl rfl

end Parts

/-! ## Executions -/

section Executions

variable (rig : Rig α) (state : State α)

theorem outer_maintains (operation : String) (side : Side) (shape : List ℕ)
    (plans : List (LinePlan α)) :
    Maintains state.Keeps (lend operation side (transformOuter operation shape plans)) :=
  lend_maintains state operation side fun desk => transformOuter_maintains desk operation shape plans

/-- Complex transforms keep plan and sizes, in place and out of place, and in both directions. -/
theorem runComplex_maintains (operation : String) (inverse : Bool) (plans : List (LinePlan α)) :
    Maintains state.Keeps (rig.runComplex operation inverse plans) := by
  rw [runComplex]
  refine (Maintains.of_settle _).bind fun split => ?_
  cases rig.geometry.placement with
  | inPlace =>
    exact lend_maintains state operation .primary fun desk =>
      (runRows_maintains operation desk _).bind fun _ => transformOuter_maintains desk operation _ _
  | outOfPlace =>
    cases inverse with
    | false =>
      exact (runRowsAcross_maintains state operation _ _ _).bind fun _ =>
        outer_maintains state operation _ _ _
    | true =>
      exact Maintains.of_get.bind fun _ => (Maintains.of_settle _).bind fun _ =>
        (outer_maintains state operation _ _ _).bind fun _ =>
          runRowsAcross_maintains state operation _ _ _

theorem runRealForward_maintains (outer : List (LinePlan α)) (plan : SpectrumPlan α) :
    Maintains state.Keeps (rig.runRealForward outer plan) := by
  rw [runRealForward]
  refine Maintains.of_get.bind fun _ => (Maintains.of_settle _).bind fun _ => ?_
  cases rig.geometry.placement with
  | inPlace =>
    exact (Maintains.countUp (spectrumInPlace_maintains rig state _ plan) _).bind fun _ =>
      outer_maintains state _ _ _ _
  | outOfPlace =>
    exact (Maintains.of_settle _).bind fun _ =>
      (Maintains.countUp (spectrumAcross_maintains rig state _ plan) _).bind fun _ =>
        outer_maintains state _ _ _ _

theorem runRealInverse_maintains [Zero α] (outer : List (LinePlan α)) (plan : SignalPlan α) :
    Maintains state.Keeps (rig.runRealInverse outer plan) := by
  rw [runRealInverse]
  cases rig.geometry.placement with
  | inPlace =>
    exact (outer_maintains state _ _ _ _).bind fun _ => Maintains.of_get.bind fun _ =>
      (Maintains.of_settle _).bind fun _ =>
        Maintains.countUp (signalInPlace_maintains rig state _ plan) _
  | outOfPlace =>
    exact (outer_maintains state _ _ _ _).bind fun _ => Maintains.of_get.bind fun _ =>
      (Maintains.of_settle _).bind fun _ => (Maintains.of_settle _).bind fun _ =>
        Maintains.countUp (signalAcross_maintains rig state _ plan) _

theorem fail_maintains (operation reason : String) :
    Maintains state.Keeps (fail operation reason : Action α Unit) :=
  Maintains.of_throw _

/-- A forward transform keeps plan and sizes, whatever comes of it. -/
theorem executeForward_maintains : Maintains state.Keeps rig.executeForward := by
  refine Maintains.of_get.bind fun current => ?_
  split
  · exact fail_maintains state _ _
  · split
    · exact runComplex_maintains rig state _ _ _
    · split
      · exact fail_maintains state _ _
      · exact runRealForward_maintains rig state _ _

theorem rescale_maintains [Mul α] : Maintains state.Keeps rig.rescale := by
  rw [rescale]
  split
  · exact Maintains.of_pure ()
  · exact Maintains.of_modify fun _ h =>
      h.put .primary (Array.size_map ..)

/-- So does an inverse one. -/
theorem executeInverse_maintains [Zero α] [Mul α] : Maintains state.Keeps rig.executeInverse := by
  -- every way through the execution is followed by the same scaling
  have hrescale (_ : Unit) : Maintains state.Keeps rig.rescale := rescale_maintains rig state
  refine Maintains.of_get.bind fun current => ?_
  dsimp only
  split
  · exact (fail_maintains state _ _).bind hrescale
  · split
    · exact (runComplex_maintains rig state _ _ _).bind hrescale
    · split
      · exact (fail_maintains state _ _).bind hrescale
      · exact (runRealInverse_maintains rig state _ _).bind hrescale

end Executions

end Rig

end SpectralBench.Cpu
