/-!
# Counts in 64-bit words

Byte counts and element counts are natural numbers below `2 ^ 64`. A product that would leave that
range is refused (`mul?`) where a size is derived, and clipped to the largest word (`addSat`,
`mulSat`) where a requirement is weighed against a budget. A plain sum that would leave it (`add?`)
is what the build makes of it.

Main statements:

* `add?_eq_some_iff`, `add?_eq_none_iff` — the sum of a build, and when there is none.
* `mul?_eq_some_iff` — the product is given exactly when it fits.
* `product?_eq_some_iff` — a product of positive counts is refused exactly when it does not fit,
  whatever the order of its factors.
* `addSat_addSat`, `addSat_mono`, `mulSat_mono` — clipping once at the end is as good as clipping at
  every step, and keeps the order.
-/

namespace SpectralBench.Word

/-- The number of words, `2 ^ 64`. -/
def count : Nat := 18446744073709551616

/-- The largest word. -/
def top : Nat := count - 1

/-- What a build makes of a sum that is no word. -/
inductive Arithmetic where
  /-- There is no such sum, and the program stops. -/
  | checked
  /-- The sum starts again at zero. -/
  | wrapping
  deriving DecidableEq, Repr

/-- The sum of two words, if there is one. -/
def add? (arithmetic : Arithmetic) (a b : Nat) : Option Nat :=
  if a + b < count then some (a + b)
  else
    match arithmetic with
    | .checked => none
    | .wrapping => some (a + b - count)

/-- The product, if it is a word. -/
def mul? (a b : Nat) : Option Nat :=
  if a * b < count then some (a * b) else none

/-- The product of a list of counts. -/
def product (counts : List Nat) : Nat :=
  counts.foldr (fun d p => d * p) 1

/-- The product of a list of counts, multiplied from the front, if every step fits in a word. -/
def product? (counts : List Nat) : Option Nat :=
  counts.foldlM mul? 1

/-- The sum, clipped to the largest word. -/
def addSat (a b : Nat) : Nat :=
  min (a + b) top

/-- The product, clipped to the largest word. -/
def mulSat (a b : Nat) : Nat :=
  min (a * b) top

theorem add?_eq_some_iff {arithmetic : Arithmetic} {a b c : Nat} :
    add? arithmetic a b = some c ↔
      a + b < count ∧ c = a + b ∨ arithmetic = .wrapping ∧ count ≤ a + b ∧ c = a + b - count := by
  unfold add?
  split
  · rename_i h
    simp only [Option.some.injEq]
    omega
  · rename_i h
    cases arithmetic with
    | checked =>
      simp only [reduceCtorEq, false_and, or_false, false_iff, not_and]
      exact fun hlt => absurd hlt h
    | wrapping =>
      simp only [Option.some.injEq, true_and]
      omega

theorem add?_eq_none_iff {arithmetic : Arithmetic} {a b : Nat} :
    add? arithmetic a b = none ↔ arithmetic = .checked ∧ count ≤ a + b := by
  unfold add?
  split
  · rename_i h
    simp only [reduceCtorEq, false_iff, not_and, Nat.not_le]
    exact fun _ => h
  · rename_i h
    cases arithmetic with
    | checked => simpa using h
    | wrapping => simp

theorem mul?_eq_some_iff {a b c : Nat} : mul? a b = some c ↔ a * b < count ∧ c = a * b := by
  unfold mul?
  split
  · rename_i h; simp [h, eq_comm]
  · rename_i h; simp [h]

theorem mul?_eq_none_iff {a b : Nat} : mul? a b = none ↔ count ≤ a * b := by
  unfold mul?
  split <;> simp_all

@[simp]
theorem product_nil : product [] = 1 :=
  rfl

@[simp]
theorem product_cons (d : Nat) (rest : List Nat) : product (d :: rest) = d * product rest :=
  rfl

theorem product_pos {counts : List Nat} (hp : ∀ d ∈ counts, 0 < d) : 0 < product counts := by
  induction counts with
  | nil => decide
  | cons d rest ih =>
    exact Nat.mul_pos (hp d (by simp)) (ih fun e he => hp e (by simp [he]))

theorem foldlM_mul?_eq_some_iff {counts : List Nat} (hp : ∀ d ∈ counts, 0 < d) {a p : Nat}
    (ha : a < count) :
    counts.foldlM mul? a = some p ↔ a * product counts < count ∧ p = a * product counts := by
  induction counts generalizing a with
  | nil => simp [ha, eq_comm]
  | cons d rest ih =>
    have hrest : ∀ e ∈ rest, 0 < e := fun e he => hp e (by simp [he])
    rw [List.foldlM_cons, product_cons, ← Nat.mul_assoc]
    by_cases h : a * d < count
    · rw [(mul?_eq_some_iff (c := a * d)).2 ⟨h, rfl⟩]
      exact ih hrest h
    · have hnone : mul? a d = none := mul?_eq_none_iff.2 (by omega)
      have hbig : count ≤ a * d * product rest :=
        Nat.le_trans (by omega) (Nat.le_mul_of_pos_right _ (product_pos hrest))
      simp only [hnone, Option.bind_eq_bind, Option.bind_none]
      constructor
      · intro h0; cases h0
      · intro h0; omega

theorem product?_eq_some_iff {counts : List Nat} (hp : ∀ d ∈ counts, 0 < d) {p : Nat} :
    product? counts = some p ↔ product counts < count ∧ p = product counts := by
  have h := foldlM_mul?_eq_some_iff hp (a := 1) (p := p) (by decide)
  simpa [product?] using h

theorem addSat_addSat (a b c : Nat) : addSat (addSat a b) c = min (a + b + c) top := by
  unfold addSat; omega

theorem addSat_mono {a a' b b' : Nat} (ha : a ≤ a') (hb : b ≤ b') : addSat a b ≤ addSat a' b' := by
  unfold addSat; omega

theorem mulSat_mono {a a' b b' : Nat} (ha : a ≤ a') (hb : b ≤ b') : mulSat a b ≤ mulSat a' b' := by
  have := Nat.mul_le_mul ha hb
  unfold mulSat; omega

end SpectralBench.Word
