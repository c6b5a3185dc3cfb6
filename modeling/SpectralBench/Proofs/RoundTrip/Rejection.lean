import SpectralBench.Proofs.RoundTrip

/-!
# Outputs that are not finite

A scalar that is infinite or no number spoils whatever it goes into: a product or a sum with anything
is not finite either, and neither are a quotient by anything and a square root. So once such a scalar
has been added to the sum of squares, no later one brings the sum back, and the deviation is refused
by every bound. The largest difference does not show it: what is no number loses against any other.

Main statements:

* `Deviation.squares_foldl` — a sum of squares stays infinite or undefined, by induction on what
  follows.
* `Deviation.maxAbs_ofDifferences` — the largest difference is that of the numbers among them.
* `Configuration.spoiled_rejected` — an output with a single scalar that is not finite is refused.
-/

namespace SpectralBench

namespace Binary.Double

/-! ## Arithmetic that is not finite -/

/-- Whether a value is infinite or no number. -/
def IsSpoiled (x : Double) : Prop :=
  x.isFinite = false

variable {x : Double}

theorem IsSpoiled.add_left (h : x.IsSpoiled) (y : Double) : (x.add y).IsSpoiled := by
  cases x with
  | nan => rfl
  | infinite negative =>
    cases y with
    | nan => rfl
    | infinite other =>
      -- infinities of opposite signs leave no number
      rw [add]
      split <;> rfl
    | finite => rfl
  | finite => cases h

theorem IsSpoiled.add_right (h : x.IsSpoiled) (y : Double) : (y.add x).IsSpoiled := by
  cases y with
  | nan => rfl
  | infinite negative =>
    have hinfinite : (infinite negative).IsSpoiled := rfl
    exact hinfinite.add_left x
  | finite =>
    cases x with
    | nan => rfl
    | infinite => rfl
    | finite => cases h

theorem IsSpoiled.sub (h : x.IsSpoiled) (y : Double) : (x.sub y).IsSpoiled :=
  h.add_left y.neg

theorem IsSpoiled.mul (h : x.IsSpoiled) (y : Double) : (x.mul y).IsSpoiled := by
  cases x with
  | nan => rfl
  | infinite negative =>
    cases y with
    | nan => rfl
    | infinite => rfl
    | finite other units =>
      -- times zero there is no number left
      rw [mul]
      split <;> rfl
  | finite => cases h

theorem IsSpoiled.div (h : x.IsSpoiled) (y : Double) : (x.div y).IsSpoiled := by
  cases x with
  | nan => rfl
  | infinite negative => cases y <;> rfl
  | finite => cases h

theorem IsSpoiled.sqrt (h : x.IsSpoiled) : x.sqrt.IsSpoiled := by
  cases x with
  | nan => rfl
  | infinite negative => cases negative <;> rfl
  | finite => cases h

/-- A maximum is a number if one side is, and what is none does not count. -/
theorem max_abs_of_isNaN {y : Double} (hx : x.isNaN = false) (hy : y.isNaN = true) :
    x.max y.abs = x := by
  cases y with
  | nan =>
    rw [max, hx]
    rfl
  | infinite => cases hy
  | finite => cases hy

theorem isNaN_max {y : Double} (hx : x.isNaN = false) : (x.max y).isNaN = false := by
  unfold max
  rw [hx]
  cases hy : y.isNaN with
  | true => simp [hx]
  | false =>
    simp only [Bool.false_eq_true, if_false]
    split
    · exact hy
    · exact hx

end Binary.Double

namespace Deviation

open Binary

/-! ## Sums that are not finite -/

/-- A sum of squares is spoiled by what has been added, and by what is added next. -/
theorem Sums.squares_add {sums : Sums} {difference : Double}
    (h : sums.squares.IsSpoiled ∨ difference.IsSpoiled) :
    (sums.add difference).squares.IsSpoiled := by
  rcases h with hsums | hdifference
  · exact hsums.add_left _
  · exact (hdifference.mul difference).add_right _

/-- It stays so to the end, by induction on the differences that follow. -/
theorem squares_foldl (differences : List Double) (sums : Sums)
    (h : sums.squares.IsSpoiled ∨ ∃ difference ∈ differences, difference.IsSpoiled) :
    (differences.foldl Sums.add sums).squares.IsSpoiled := by
  induction differences generalizing sums with
  | nil =>
    rcases h with hsums | ⟨difference, hmem, -⟩
    · exact hsums
    · cases hmem
  | cons first rest ih =>
    rw [List.foldl_cons]
    apply ih
    rcases h with hsums | ⟨difference, hmem, hspoiled⟩
    · exact .inl (Sums.squares_add (.inl hsums))
    · rcases List.mem_cons.1 hmem with rfl | hlater
      · exact .inl (Sums.squares_add (.inr hspoiled))
      · exact .inr ⟨difference, hlater, hspoiled⟩

theorem rms_ofDifferences {differences : List Double}
    (h : ∃ difference ∈ differences, difference.IsSpoiled) :
    (ofDifferences differences).rms.IsSpoiled :=
  ((squares_foldl differences ⟨.zero, .zero⟩ (.inr h)).div _).sqrt

/-- The largest difference does not depend on what is no number, nor on the sum of squares. -/
theorem maxAbs_foldl (differences : List Double) (sums other : Sums)
    (hsame : sums.maxAbs = other.maxAbs) (hnumber : sums.maxAbs.isNaN = false) :
    (differences.foldl Sums.add sums).maxAbs =
      ((differences.filter (!·.isNaN)).foldl Sums.add other).maxAbs := by
  induction differences generalizing sums other with
  | nil => exact hsame
  | cons first rest ih =>
    rw [List.foldl_cons, List.filter_cons]
    have hmax : (sums.add first).maxAbs = sums.maxAbs.max first.abs := rfl
    cases hfirst : first.isNaN with
    | true =>
      rw [Double.max_abs_of_isNaN hnumber hfirst] at hmax
      exact ih _ _ (hmax.trans hsame) (hmax ▸ hnumber)
    | false =>
      refine ih _ _ ?_ (hmax ▸ Double.isNaN_max hnumber)
      rw [hmax, hsame]
      rfl

theorem maxAbs_ofDifferences (differences : List Double) :
    (ofDifferences differences).maxAbs =
      (ofDifferences (differences.filter (!·.isNaN))).maxAbs :=
  maxAbs_foldl differences _ _ rfl rfl

end Deviation

/-- **What is not finite is never accepted.** If a scalar of the output is infinite or no number, at
any position and at any precision, the deviation is measured all the same, but its root mean square is
not finite, and every tolerance refuses it, whatever the input was and whatever its own bounds are.
The largest difference gives no sign of it: it is that of the differences that are numbers. -/
theorem Configuration.spoiled_rejected {c : Configuration} {g : Geometry}
    (hgeometry : c.geometry = .ok g) {input output : Array UInt8}
    (hinput : input.size = g.transferSize) (houtput : output.size = g.transferSize)
    {position : Nat} (hposition : position < g.scalarCount)
    (hspoiled : (g.precision.scalarAt output position).isFinite = false) (normalized : Bool) :
    ∃ deviation, g.deviation input output normalized = .ok deviation ∧
      deviation.rms.isFinite = false ∧
      (∀ (tolerance : Tolerance) (precision : Precision),
        tolerance.accepts precision deviation = false) ∧
      deviation.maxAbs = (Deviation.ofDifferences
        (((List.range g.scalarCount).map (g.difference input output normalized)).filter
          (!·.isNaN))).maxAbs := by
  obtain ⟨-, hg⟩ := isExact_of_geometry hgeometry
  have hscalar : (g.precision.scalarAt output position).IsSpoiled := hspoiled
  have hdifference : (g.difference input output normalized position).IsSpoiled :=
    (hscalar.mul _).sub _
  have hrms := Deviation.rms_ofDifferences
    ⟨_, List.mem_map_of_mem (List.mem_range.2 hposition), hdifference⟩
  refine ⟨_, hg.deviation_eq hinput houtput normalized, hrms, fun tolerance precision => ?_,
    Deviation.maxAbs_ofDifferences _⟩
  exact tolerance.accepts_eq_false_of_not_finite precision hrms

/-- One scalar of twelve bytes that is no number, between two zeros. -/
theorem Configuration.spoiled_rejected_threeNumbers :
    let g : Geometry :=
      { configuration :=
          { kind := .real, placement := .outOfPlace, precision := .single
            extent := ⟨[3], by decide, by decide, by simp⟩ }
        count := 3, complexCount := 2, dataSize := 12, complexBufferSize := 16, transferSize := 12 }
    let input : Array UInt8 := Array.replicate 12 0
    let output : Array UInt8 := #[0, 0, 0, 0, 0, 0, 192, 127, 0, 0, 0, 0]
    (g.precision.scalarAt output 1).isNaN = true ∧
      ∃ deviation, g.deviation input output true = .ok deviation ∧
        deviation.rms.isFinite = false ∧ Tolerance.standard.accepts .single deviation = false := by
  intro g input output
  have hgeometry : g.configuration.geometry = .ok g := by cbv
  have hnan : (g.precision.scalarAt output 1).isNaN = true := by decide +kernel
  have hspoiled : (g.precision.scalarAt output 1).isFinite = false := by decide +kernel
  obtain ⟨deviation, hdeviation, hrms, hrefused, -⟩ :=
    spoiled_rejected hgeometry (show input.size = 12 by rfl) (show output.size = 12 by rfl)
      (show 1 < g.scalarCount by decide) hspoiled true
  exact ⟨hnan, deviation, hdeviation, hrms, hrefused .standard .single⟩

end SpectralBench
