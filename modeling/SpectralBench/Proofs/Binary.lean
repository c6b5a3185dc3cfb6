import SpectralBench.Binary.Double
import SpectralBench.Word
import Mathlib.Algebra.Order.Ring.Nat
import Mathlib.Data.Nat.Log

/-!
# Rounding keeps the order

A larger number is never rounded to a smaller one. Among numbers with the same excess of digits this
is so because the rounded wholes keep the order. Where the larger number has the larger excess, a
power of two lies between the two results: the smaller number is rounded to at most
`2 ^ (digits + excess)`, the larger one to at least half of the same power for its own excess.

Main statements:

* `nearest_mono` — rounding to a number of significant digits keeps the order.
* `Double.toCount_round_mono` — so does rounding to a double and counting its whole part, through
  infinities and for either sign.
* `Double.ofNat_word` — a word becomes a finite double.
* `Double.units_le_belowOne` — between the largest double below one and one there is none.
-/

namespace SpectralBench.Binary

/-! ## Whole numbers -/

/-- Rounding to whole numbers keeps the order. -/
theorem roundHalfEven_mono {den m n : Nat} (h : m ≤ n) :
    roundHalfEven m den ≤ roundHalfEven n den := by
  have hwhole : m / den ≤ n / den := Nat.div_le_div_right h
  unfold roundHalfEven
  dsimp only
  obtain hlt | heq := Nat.lt_or_eq_of_le hwhole
  · -- at most one is added to the smaller whole part
    split <;> split <;> omega
  · -- of two numbers with the same whole part, the larger has the larger rest
    have hrest : m % den ≤ n % den := by
      have hm := Nat.div_add_mod m den
      have hn := Nat.div_add_mod n den
      rw [heq] at hm
      omega
    rw [heq]
    split <;> split <;> omega

/-- A whole number is its own rounding. -/
theorem roundHalfEven_mul (a : Nat) {den : Nat} (hden : 0 < den) :
    roundHalfEven (a * den) den = a := by
  have hwhole : a * den / den = a := Nat.mul_div_cancel a hden
  have hrest : a * den % den = 0 := Nat.mul_mod_left a den
  unfold roundHalfEven
  dsimp only
  rw [hwhole, hrest, if_neg (by omega)]

theorem roundHalfEven_le {a den n : Nat} (hden : 0 < den) (h : n ≤ a * den) :
    roundHalfEven n den ≤ a := by
  rw [← roundHalfEven_mul a hden]
  exact roundHalfEven_mono h

theorem le_roundHalfEven {a den n : Nat} (hden : 0 < den) (h : a * den ≤ n) :
    a ≤ roundHalfEven n den := by
  rw [← roundHalfEven_mul a hden]
  exact roundHalfEven_mono h

theorem shiftLeft_mono {a b m n : Nat} (hab : a ≤ b) (hmn : m ≤ n) : a <<< m ≤ b <<< n := by
  rw [Nat.shiftLeft_eq, Nat.shiftLeft_eq]
  exact Nat.mul_le_mul hab (Nat.pow_le_pow_right (by decide) hmn)

/-! ## Significant digits -/

theorem log2_mono {m n : Nat} (h : m ≤ n) : Nat.log2 m ≤ Nat.log2 n := by
  rw [Nat.log2_eq_log_two, Nat.log2_eq_log_two]
  exact Nat.log_mono_right h

/-- The larger of two numbers has at least as many digits to drop. -/
theorem excess_mono (digits : Nat) {den m n : Nat} (h : m ≤ n) :
    excess digits m den ≤ excess digits n den := by
  have hlog := log2_mono (Nat.div_le_div_right (c := den) h)
  unfold excess
  omega

/-- The excess is large enough: without it, at most the wanted digits are left. -/
theorem lt_two_pow_excess (digits num : Nat) {den : Nat} (hden : 0 < den) :
    num < 2 ^ digits * (den <<< excess digits num den) := by
  have hdiv : num / den < 2 ^ (digits + excess digits num den) := by
    refine Nat.lt_of_lt_of_le Nat.lt_log2_self (Nat.pow_le_pow_right (by decide) ?_)
    unfold excess
    omega
  rw [Nat.shiftLeft_eq, Nat.mul_comm den, ← Nat.mul_assoc, ← Nat.pow_add]
  exact (Nat.div_lt_iff_lt_mul hden).1 hdiv

/-- The excess is no larger than it has to be: all the wanted digits are left. -/
theorem two_pow_excess_le {digits num den : Nat} (hdigits : 0 < digits) (hden : 0 < den)
    (h : 0 < excess digits num den) :
    2 ^ (digits - 1) * (den <<< excess digits num den) ≤ num := by
  have hne : num / den ≠ 0 := by
    intro hzero
    rw [excess, hzero, Nat.log2_zero] at h
    omega
  have hlog : digits - 1 + excess digits num den = Nat.log2 (num / den) := by
    unfold excess at *
    omega
  have hdiv : 2 ^ (digits - 1 + excess digits num den) ≤ num / den := by
    rw [hlog]
    exact Nat.log2_self_le hne
  rw [Nat.shiftLeft_eq, Nat.mul_comm den, ← Nat.mul_assoc, ← Nat.pow_add]
  exact (Nat.le_div_iff_mul_le hden).1 hdiv

/-- Rounding to a number of digits keeps the order, also where the two numbers drop different
numbers of digits. -/
theorem nearest_mono {digits den m n : Nat} (hdigits : 0 < digits) (hden : 0 < den) (h : m ≤ n) :
    nearest digits m den ≤ nearest digits n den := by
  have hpos (shift : Nat) : 0 < den <<< shift := by
    rw [Nat.shiftLeft_eq]
    exact Nat.mul_pos hden (Nat.two_pow_pos shift)
  unfold nearest
  dsimp only
  have hexcess : excess digits m den ≤ excess digits n den := excess_mono digits h
  obtain hlt | heq := Nat.lt_or_eq_of_le hexcess
  · rw [Nat.shiftLeft_eq _ (excess digits m den), Nat.shiftLeft_eq _ (excess digits n den)]
    calc roundHalfEven m (den <<< excess digits m den) * 2 ^ excess digits m den
        ≤ 2 ^ digits * 2 ^ excess digits m den :=
          Nat.mul_le_mul_right _ (roundHalfEven_le (hpos _) (lt_two_pow_excess digits m hden).le)
      _ = 2 ^ (digits - 1) * 2 ^ (excess digits m den + 1) := by
          rw [← Nat.pow_add, ← Nat.pow_add]
          congr 1
          omega
      _ ≤ 2 ^ (digits - 1) * 2 ^ excess digits n den :=
          Nat.mul_le_mul_left _ (Nat.pow_le_pow_right (by decide) hlt)
      _ ≤ roundHalfEven n (den <<< excess digits n den) * 2 ^ excess digits n den :=
          Nat.mul_le_mul_right _
            (le_roundHalfEven (hpos _) (two_pow_excess_le hdigits hden (by omega)))
  · rw [heq, Nat.shiftLeft_eq, Nat.shiftLeft_eq (roundHalfEven n _)]
    exact Nat.mul_le_mul_right _ (roundHalfEven_mono h)

namespace Double

/-! ## Doubles -/

theorem one_pos : 0 < one := by
  decide +kernel

theorem toCount_round_negative (top num den : Nat) : toCount top (round true num den) = 0 := by
  unfold round
  dsimp only
  split <;> rfl

/-- Rounded beyond the largest double or not, more units count for more. -/
theorem toCount_round_mono (top : Nat) (negative : Bool) {den m n : Nat} (hden : 0 < den)
    (h : m ≤ n) : toCount top (round negative m den) ≤ toCount top (round negative n den) := by
  cases negative with
  | true =>
    rw [toCount_round_negative]
    exact Nat.zero_le _
  | false =>
    have hnearest : nearest 53 m den ≤ nearest 53 n den := nearest_mono (by decide) hden h
    unfold round
    dsimp only
    split
    · split
      · have hwhole := Nat.div_le_div_right (c := one) hnearest
        exact Nat.le_min.2
          ⟨Nat.le_trans (Nat.min_le_left _ _) hwhole, Nat.min_le_right _ _⟩
      · exact Nat.min_le_right _ _
    · -- what exceeds the largest double still does when it grows
      rw [if_neg (by omega)]

theorem le_finite_iff {m n : Nat} : le (.finite false m) (.finite false n) = true ↔ m ≤ n := by
  have hle : le (.finite false m) (.finite false n) = decide ((m : Int) ≤ n) := rfl
  rw [hle, decide_eq_true_iff, Int.ofNat_le]

/-- No word is too large for a double. -/
theorem ofNat_word {n : Nat} (h : n ≤ Word.top) :
    ofNat n = .finite false (nearest 53 (n * one) 1) := by
  have hlargest : nearest 53 (Word.top * one) 1 < ceiling := by decide +kernel
  have hfits : nearest 53 (n * one) 1 < ceiling :=
    Nat.lt_of_le_of_lt
      (nearest_mono (by decide) (by decide) (Nat.mul_le_mul_right one h)) hlargest
  unfold ofNat ofRatio round
  dsimp only
  rw [if_pos hfits]

/-- What a positive double bounds from both sides is that double. -/
theorem eq_of_le_of_le {x : Double} {n : Nat} (hn : 0 < n) (hlow : le (.finite false n) x = true)
    (hhigh : le x (.finite false n) = true) : x = .finite false n := by
  cases x with
  | nan => cases hlow
  | infinite negative => cases negative <;> contradiction
  | finite negative units =>
    have hlow : (n : Int) ≤ signedUnits negative units := of_decide_eq_true hlow
    have hhigh : signedUnits negative units ≤ n := of_decide_eq_true hhigh
    cases negative with
    | true =>
      rw [signedUnits, if_pos rfl] at hlow
      omega
    | false =>
      rw [signedUnits, if_neg Bool.false_ne_true] at hlow hhigh
      rw [show units = n by omega]

theorem ofNat_one : ofNat 1 = .finite false one := by
  decide +kernel

theorem eq_one_of_le {x : Double} (hlow : le (.ofNat 1) x = true) (hhigh : le x (.ofNat 1) = true) :
    x = .ofNat 1 := by
  rw [ofNat_one] at hlow hhigh ⊢
  exact eq_of_le_of_le one_pos hlow hhigh

theorem max_eq_or (x y : Double) : x.max y = x ∨ x.max y = y := by
  unfold max
  split
  · exact .inr rfl
  · split
    · exact .inl rfl
    · split
      · exact .inr rfl
      · exact .inl rfl

/-! ## The doubles below one -/

/-- The units of the largest double below one: 53 digits, each of them set. -/
def belowOne : Nat := (Nat.pow 2 53 - 1) <<< 1021

/-- There is no double between the largest double below one and one. -/
theorem units_le_belowOne {bits : UInt64} {negative : Bool} {units : Nat}
    (hbits : ofBits bits = .finite negative units) (hlt : units < one) : units ≤ belowOne := by
  have hfield : Format.double.fieldUnit = Nat.pow 2 52 := rfl
  have hfiner : 1074 - Format.double.unitExponent = 0 := rfl
  have hfraction : bits.toNat % Nat.pow 2 52 < Nat.pow 2 52 := Nat.mod_lt _ (by decide)
  unfold ofBits Format.decode at hbits
  simp only [hfield, hfiner, Nat.shiftLeft_zero] at hbits
  split at hbits
  · -- an infinity, or no number
    split at hbits <;> cases hbits
  · split at hbits
    · -- no leading digit, and far below one
      cases hbits
      have hsmall : Nat.pow 2 52 ≤ belowOne := by decide +kernel
      exact Nat.le_trans hfraction.le hsmall
    · -- with all of its digits, the exponent decides
      cases hbits
      have hlow : Nat.pow 2 52 ≤ Nat.pow 2 52 + bits.toNat % Nat.pow 2 52 := Nat.le_add_right _ _
      have hhigh : Nat.pow 2 52 + bits.toNat % Nat.pow 2 52 ≤ Nat.pow 2 53 - 1 := by
        have hdouble : Nat.pow 2 53 = Nat.pow 2 52 + Nat.pow 2 52 := rfl
        omega
      refine shiftLeft_mono hhigh (Nat.le_of_lt_succ (Nat.lt_of_not_le fun hexponent => ?_))
      have hone : one = Nat.pow 2 52 <<< 1022 := by decide +kernel
      have hle := shiftLeft_mono hlow hexponent
      rw [← hone] at hle
      exact Nat.not_lt.2 hle hlt

end Double

end SpectralBench.Binary
