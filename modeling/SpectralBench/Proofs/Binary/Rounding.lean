import SpectralBench.Proofs.Binary
import Mathlib.Data.Nat.Dist
import Mathlib.Tactic.Ring

/-!
# Rounding goes to the nearest

What rounding is for is said without a word on how it is done: the result is a value of the format,
no value of the format is nearer, and of two equally near ones it is that with the even bit pattern.
Encoding a number keeps to this.

With enough digits a number is cut to multiples of a power of two, and among these the nearest is
found by its rest. Values of the format that are no such multiples are all below the power of two
that the number begins with, which is a multiple itself, so none of them is as near.

Main statements:

* `dist_roundHalfEven_le`, `even_of_dist_roundHalfEven` — a quotient is rounded to the nearest whole,
  a tie to an even one.
* `nearest_exact` — a number of few digits is its own rounding.
* `Format.IsProper.decode_encode` — what a rounded number reads as.
* `Format.IsProper.isRounded_encode` — numbers up to one are rounded to the nearest value of a
  format.
* `Format.IsProper.settled_of_isRounded` — and there is only one.
* `Double.roundsToHalf_toHalf` — a conversion that rounds to the nearest half.
-/

namespace SpectralBench.Binary

/-! ## Quotients -/

/-- No multiple is nearer than that of the rounded quotient. -/
theorem dist_roundHalfEven_le (n whole : ℕ) {den : ℕ} (hden : 0 < den) :
    Nat.dist n (roundHalfEven n den * den) ≤ Nat.dist n (whole * den) := by
  have hn := Nat.div_add_mod' n den
  have hrest := Nat.mod_lt n hden
  have hnext : (n / den + 1) * den = n / den * den + den := Nat.succ_mul _ _
  unfold roundHalfEven Nat.dist
  dsimp only
  -- a multiple lies below the quotient, or beyond it
  rcases Nat.lt_or_ge (n / den) whole with habove | hbelow
  · have hmultiple : (n / den + 1) * den ≤ whole * den := Nat.mul_le_mul_right den habove
    split <;> omega
  · have hmultiple : whole * den ≤ n / den * den := Nat.mul_le_mul_right den hbelow
    split <;> omega

/-- If another multiple is as near, the rounded quotient is even. -/
theorem even_of_dist_roundHalfEven {n whole den : ℕ} (hden : 0 < den)
    (hother : whole ≠ roundHalfEven n den)
    (htie : Nat.dist n (whole * den) = Nat.dist n (roundHalfEven n den * den)) :
    roundHalfEven n den % 2 = 0 := by
  have hn := Nat.div_add_mod' n den
  have hrest := Nat.mod_lt n hden
  have hnext : (n / den + 1) * den = n / den * den + den := Nat.succ_mul _ _
  unfold roundHalfEven Nat.dist at *
  dsimp only at *
  rcases Nat.lt_or_ge (n / den) whole with habove | hbelow
  · have hmultiple : (n / den + 1) * den ≤ whole * den := Nat.mul_le_mul_right den habove
    split at hother
    · -- rounded up, so the other multiple is a whole step beyond
      have hbeyond : (n / den + 1 + 1) * den ≤ whole * den :=
        Nat.mul_le_mul_right den (by omega)
      rw [Nat.succ_mul] at hbeyond
      rw [if_pos (by assumption)] at htie
      omega
    · rw [if_neg (by assumption)] at htie ⊢
      omega
  · have hmultiple : whole * den ≤ n / den * den := Nat.mul_le_mul_right den hbelow
    split at hother
    · rw [if_pos (by assumption)] at htie ⊢
      omega
    · have hbeyond : (whole + 1) * den ≤ n / den * den :=
        Nat.mul_le_mul_right den (by omega)
      rw [Nat.succ_mul] at hbeyond
      rw [if_neg (by assumption)] at htie
      omega

/-- The rounded quotient is at most half a step away. -/
theorem two_mul_dist_roundHalfEven_le (n : ℕ) {den : ℕ} (hden : 0 < den) :
    2 * Nat.dist n (roundHalfEven n den * den) ≤ den := by
  have hn := Nat.div_add_mod' n den
  have hrest := Nat.mod_lt n hden
  have hnext : (n / den + 1) * den = n / den * den + den := Nat.succ_mul _ _
  unfold roundHalfEven Nat.dist
  dsimp only
  split <;> omega

/-- The other multiple that is as near is the next one, which is odd. -/
theorem odd_of_dist_roundHalfEven {n whole den : ℕ} (hden : 0 < den)
    (hother : whole ≠ roundHalfEven n den)
    (htie : Nat.dist n (whole * den) = Nat.dist n (roundHalfEven n den * den)) :
    whole % 2 = 1 := by
  have heven := even_of_dist_roundHalfEven hden hother htie
  have hhalf := two_mul_dist_roundHalfEven_le n hden
  unfold Nat.dist at htie hhalf
  -- two multiples that are both within half a step have no room for a third one between them
  have hbelow : whole < roundHalfEven n den + 2 := by
    refine Nat.lt_of_not_le fun hle => ?_
    have hmultiple := Nat.mul_le_mul_right den hle
    rw [Nat.add_mul] at hmultiple
    omega
  have habove : roundHalfEven n den < whole + 2 := by
    refine Nat.lt_of_not_le fun hle => ?_
    have hmultiple := Nat.mul_le_mul_right den hle
    rw [Nat.add_mul] at hmultiple
    omega
  omega

/-! ## Significant digits -/

theorem log2_mul_pow {n : ℕ} (hn : n ≠ 0) (shift : ℕ) :
    Nat.log2 (n * 2 ^ shift) = Nat.log2 n + shift := by
  induction shift with
  | zero => rw [Nat.pow_zero, Nat.mul_one, Nat.add_zero]
  | succ shift ih =>
    have hne : n * 2 ^ shift ≠ 0 := Nat.mul_ne_zero hn (Nat.two_pow_pos shift).ne'
    rw [Nat.pow_succ, ← Nat.mul_assoc, Nat.mul_comm, Nat.log2_two_mul hne, ih, Nat.add_assoc]

variable {digits mantissa shift : ℕ}

/-- A number of few digits has no more of them in excess than it ends with zeros. -/
theorem excess_mul_pow_le (hdigits : 0 < digits) (hmantissa : mantissa < 2 ^ digits) :
    excess digits (mantissa * 2 ^ shift) 1 ≤ shift := by
  rw [excess, Nat.div_one]
  rcases Nat.eq_zero_or_pos mantissa with rfl | hpos
  · rw [Nat.zero_mul, Nat.log2_zero]
    omega
  · have hlog := (Nat.log2_lt hpos.ne').2 hmantissa
    rw [log2_mul_pow hpos.ne']
    omega

/-- With all digits set free to be significant, these are as many as there are zeros. -/
theorem excess_mul_pow (hmantissa : mantissa < 2 ^ digits) (hdigits : 0 < digits)
    (hfull : shift = 0 ∨ 2 ^ (digits - 1) ≤ mantissa) :
    excess digits (mantissa * 2 ^ shift) 1 = shift := by
  have hle : excess digits (mantissa * 2 ^ shift) 1 ≤ shift := excess_mul_pow_le hdigits hmantissa
  rcases hfull with rfl | hfull
  · omega
  · have hne : mantissa ≠ 0 := by
      have hpos := Nat.two_pow_pos (digits - 1)
      omega
    have hlog := (Nat.le_log2 hne).2 hfull
    rw [excess, Nat.div_one, log2_mul_pow hne] at hle ⊢
    omega

/-- A number of few digits is its own rounding. -/
theorem nearest_exact (hdigits : 0 < digits) (hmantissa : mantissa < 2 ^ digits) (shift : ℕ)
    {den : ℕ} (hden : 0 < den) :
    nearest digits (mantissa * 2 ^ shift * den) den = mantissa * 2 ^ shift := by
  have hexcess : excess digits (mantissa * 2 ^ shift * den) den =
      excess digits (mantissa * 2 ^ shift) 1 := by
    rw [excess, excess, Nat.mul_div_cancel _ hden, Nat.div_one]
  have hle : excess digits (mantissa * 2 ^ shift) 1 ≤ shift := excess_mul_pow_le hdigits hmantissa
  unfold nearest
  dsimp only
  rw [hexcess]
  generalize excess digits (mantissa * 2 ^ shift) 1 = cut at hle
  obtain ⟨kept, rfl⟩ := Nat.exists_eq_add_of_le hle
  -- what is cut off are zeros
  have hsplit : mantissa * 2 ^ (cut + kept) * den = mantissa * 2 ^ kept * (den <<< cut) := by
    rw [Nat.shiftLeft_eq, Nat.pow_add]
    ring
  have hpos : 0 < den <<< cut := by
    rw [Nat.shiftLeft_eq]
    exact Nat.mul_pos hden (Nat.two_pow_pos cut)
  rw [hsplit, roundHalfEven_mul _ hpos, Nat.shiftLeft_eq, Nat.pow_add]
  ring

theorem Double.one_eq : ∃ exponent, Double.one = 2 ^ exponent := by
  unfold Double.one
  generalize 1074 = exponent
  exact ⟨exponent, rfl⟩

/-- A number of few digits that is no infinity is its own double. -/
theorem Double.round_exact {den : ℕ} (hmantissa : mantissa < 2 ^ 53)
    (hfinite : mantissa * 2 ^ shift < Double.ceiling) (hden : 0 < den) (negative : Bool) :
    Double.round negative (mantissa * 2 ^ shift * den) den =
      .finite negative (mantissa * 2 ^ shift) := by
  unfold Double.round
  dsimp only
  rw [nearest_exact (by decide) hmantissa shift hden, if_pos hfinite]

namespace Format

/-- What rounding asks of a format: two digits or more, no unit below that of doubles, and room for
the number one. -/
structure IsProper (f : Format) : Prop where
  two_le_digits : 2 ≤ f.digits
  unitExponent_le : f.unitExponent ≤ 1074
  two_le_topExponent : 2 ≤ f.topExponent
  range : f.unitExponent + 3 ≤ f.digits + f.topExponent

theorem half_isProper : half.IsProper :=
  ⟨by decide, by decide, by decide, by decide⟩

theorem single_isProper : single.IsProper :=
  ⟨by decide, by decide, by decide, by decide⟩

theorem double_isProper : double.IsProper :=
  ⟨by decide, by decide, by decide, by decide⟩

/-- How many times the unit of doubles is halved from that of the format. -/
def finer (f : Format) : ℕ :=
  1074 - f.unitExponent

theorem finerUnits_pos (f : Format) : 0 < 1 <<< f.finer := by
  rw [Nat.shiftLeft_eq, Nat.one_mul]
  exact Nat.two_pow_pos _

variable {f : Format} {units bits : ℕ}

theorem IsProper.digits_pos (hf : f.IsProper) : 0 < f.digits :=
  Nat.lt_of_lt_of_le Nat.two_pos hf.two_le_digits

theorem fieldUnit_eq (f : Format) : f.fieldUnit = 2 ^ (f.digits - 1) :=
  rfl

theorem IsProper.two_mul_fieldUnit (hf : f.IsProper) : 2 * f.fieldUnit = 2 ^ f.digits := by
  rw [fieldUnit_eq, ← Nat.pow_succ', Nat.succ_eq_add_one, Nat.sub_add_cancel hf.digits_pos]

theorem fieldUnit_pos (f : Format) : 0 < f.fieldUnit :=
  Nat.two_pow_pos _

theorem signUnit_eq (f : Format) : f.signUnit = f.fieldUnit * (f.topExponent + 1) := by
  have htop : f.topExponent + 1 = 2 ^ f.exponentWidth :=
    Nat.sub_add_cancel (Nat.two_pow_pos f.exponentWidth)
  rw [htop, fieldUnit_eq, ← Nat.pow_add]
  rfl

theorem IsProper.even_fieldUnit (hf : f.IsProper) : f.fieldUnit % 2 = 0 := by
  obtain ⟨digits, hdigits⟩ := Nat.exists_eq_add_of_le hf.two_le_digits
  rw [fieldUnit_eq, hdigits, show 2 + digits - 1 = digits + 1 by omega, Nat.pow_succ]
  exact Nat.mul_mod_left _ _

/-! ## Bit patterns -/

/-- Every finite value has few digits, of which the pattern ends with the last. -/
theorem IsProper.of_decode (hf : f.IsProper) {negative : Bool}
    (h : f.decode bits = .finite negative units) :
    ∃ mantissa shift, mantissa < 2 ^ f.digits ∧ units = mantissa * 2 ^ shift * 2 ^ f.finer ∧
      mantissa % 2 = bits % 2 := by
  have hfraction : bits % f.fieldUnit < f.fieldUnit := Nat.mod_lt _ f.fieldUnit_pos
  have hdigits := hf.two_mul_fieldUnit
  have heven := hf.even_fieldUnit
  have hlast : bits % f.fieldUnit % 2 = bits % 2 :=
    Nat.mod_mod_of_dvd bits (Nat.dvd_of_mod_eq_zero heven)
  unfold decode at h
  dsimp only at h
  split at h
  · -- infinities, and what is no number
    split at h <;> cases h
  · split at h
    · -- the leading digit is not one
      cases h
      refine ⟨bits % f.fieldUnit, 0, by omega, ?_, hlast⟩
      rw [Nat.shiftLeft_eq, Nat.pow_zero, Nat.mul_one]
      rfl
    · cases h
      refine ⟨f.fieldUnit + bits % f.fieldUnit, bits / f.fieldUnit % (f.topExponent + 1) - 1,
        by omega, ?_, by omega⟩
      rw [Nat.shiftLeft_eq, Nat.shiftLeft_eq]
      rfl

/-- A pattern that begins with an exponent is read as it is meant. -/
theorem IsProper.decode_pattern (hf : f.IsProper) (hmantissa : mantissa < 2 ^ f.digits)
    (hfull : shift = 0 ∨ 2 ^ (f.digits - 1) ≤ mantissa) (hrange : shift + 2 ≤ f.topExponent) :
    f.decode (shift * f.fieldUnit + mantissa) =
      .finite false (mantissa * 2 ^ shift * 2 ^ f.finer) := by
  have hpos := f.fieldUnit_pos
  have hdigits := hf.two_mul_fieldUnit
  have hbelow : shift * f.fieldUnit + mantissa < f.fieldUnit * (f.topExponent + 1) := by
    have hle := Nat.mul_le_mul_left f.fieldUnit (show shift + 2 ≤ f.topExponent + 1 by omega)
    rw [Nat.mul_add, Nat.mul_comm f.fieldUnit shift] at hle
    omega
  rw [← fieldUnit_eq] at hfull
  unfold decode
  dsimp only
  rw [signUnit_eq, Nat.div_eq_of_lt hbelow]
  rcases Nat.lt_or_ge mantissa f.fieldUnit with hsmall | hlarge
  · -- too few digits for an exponent
    have hzero : shift = 0 := by omega
    subst hzero
    rw [Nat.zero_mul, Nat.zero_add, Nat.div_eq_of_lt hsmall, Nat.zero_mod, if_neg (by omega),
      if_pos rfl, Nat.mod_eq_of_lt hsmall, Nat.shiftLeft_eq, Nat.pow_zero, Nat.mul_one]
    rfl
  · -- the leading digit counts as one more in the field of the exponent
    obtain ⟨fraction, rfl⟩ := Nat.exists_eq_add_of_le hlarge
    have hfraction : fraction < f.fieldUnit := by omega
    have hfield : shift * f.fieldUnit + (f.fieldUnit + fraction) =
        f.fieldUnit * (shift + 1) + fraction := by ring
    rw [hfield, Nat.mul_add_div hpos, Nat.div_eq_of_lt hfraction, Nat.add_zero,
      Nat.mod_eq_of_lt (by omega : shift + 1 < f.topExponent + 1), if_neg (by omega),
      if_neg (by omega), Nat.mul_add_mod, Nat.mod_eq_of_lt hfraction, Nat.shiftLeft_eq,
      Nat.shiftLeft_eq, Nat.add_sub_cancel]
    rfl

/-! ## Encoding -/

/-- A number of units, rounded to the units and the digits of the format. -/
def coarse (f : Format) (units : ℕ) : ℕ :=
  nearest f.digits units (1 <<< f.finer)

/-- The step between the multiples that a number is rounded to. -/
def step (f : Format) (units : ℕ) : ℕ :=
  1 <<< f.finer <<< excess f.digits units (1 <<< f.finer)

theorem step_pos (f : Format) (units : ℕ) : 0 < f.step units := by
  rw [step, Nat.shiftLeft_eq, Nat.shiftLeft_eq, Nat.one_mul]
  exact Nat.mul_pos (Nat.two_pow_pos _) (Nat.two_pow_pos _)

/-- The units of the number that a number of units is rounded to. -/
def settled (f : Format) (units : ℕ) : ℕ :=
  f.coarse units * 2 ^ f.finer

theorem settled_eq (f : Format) (units : ℕ) :
    f.settled units = roundHalfEven units (f.step units) * f.step units := by
  rw [settled, coarse, nearest, step, Nat.shiftLeft_eq (roundHalfEven _ _), Nat.shiftLeft_eq (1 <<< _),
    Nat.shiftLeft_eq 1, Nat.one_mul]
  ring

/-- Rounding leaves few digits, and all of them unless the number is below the finest step. It
carries over to one more digit at most, and then only zeros are left. -/
theorem IsProper.coarse_eq (hf : f.IsProper) (units : ℕ) :
    ∃ mantissa shift, f.coarse units = mantissa * 2 ^ shift ∧ mantissa < 2 ^ f.digits ∧
      (shift = 0 ∨ 2 ^ (f.digits - 1) ≤ mantissa) ∧
      (roundHalfEven units (f.step units) % 2 = 0 → mantissa % 2 = 0) := by
  have hden : 0 < 1 <<< f.finer := f.finerUnits_pos
  have hle : roundHalfEven units (f.step units) ≤ 2 ^ f.digits :=
    roundHalfEven_le (f.step_pos units) (lt_two_pow_excess f.digits units hden).le
  have hcoarse : f.coarse units =
      roundHalfEven units (f.step units) * 2 ^ excess f.digits units (1 <<< f.finer) := by
    rw [coarse, nearest, step, Nat.shiftLeft_eq (roundHalfEven _ _)]
  have hpower : 2 ^ (f.digits - 1) * 2 = 2 ^ f.digits := by
    rw [← hf.two_mul_fieldUnit, fieldUnit_eq, Nat.mul_comm]
  -- the last step up may have carried into a digit too many
  rcases Nat.lt_or_eq_of_le hle with hlt | hcarry
  · refine ⟨_, _, hcoarse, hlt, ?_, id⟩
    rcases Nat.eq_zero_or_pos (excess f.digits units (1 <<< f.finer)) with hzero | hpos
    · exact .inl hzero
    · exact .inr (le_roundHalfEven (f.step_pos units) (two_pow_excess_le hf.digits_pos hden hpos))
  · refine ⟨2 ^ (f.digits - 1), excess f.digits units (1 <<< f.finer) + 1, ?_, ?_,
      .inr (Nat.le_refl _), fun _ => hf.even_fieldUnit⟩
    · rw [hcoarse, hcarry, ← hpower, Nat.pow_succ]
      ring
    · exact Nat.pow_lt_pow_right (by decide) (by have hdigits := hf.two_le_digits; omega)

theorem IsProper.encode_eq (hf : f.IsProper) (hcoarse : f.coarse units = mantissa * 2 ^ shift)
    (hmantissa : mantissa < 2 ^ f.digits) (hfull : shift = 0 ∨ 2 ^ (f.digits - 1) ≤ mantissa)
    (hrange : shift + 2 ≤ f.topExponent) :
    f.encode (.finite false units) = shift * f.fieldUnit + mantissa := by
  have hexcess : excess f.digits (f.coarse units) 1 = shift := by
    rw [hcoarse]
    exact excess_mul_pow hmantissa hf.digits_pos hfull
  have hcut : f.coarse units >>> shift = mantissa := by
    rw [hcoarse, Nat.shiftRight_eq_div_pow, Nat.mul_div_cancel _ (Nat.two_pow_pos shift)]
  have hfinite : shift * f.fieldUnit + mantissa ≤ f.topExponent * f.fieldUnit := by
    have hle := Nat.mul_le_mul_right f.fieldUnit hrange
    have hdigits := hf.two_mul_fieldUnit
    rw [Nat.add_mul] at hle
    omega
  change 0 + min (excess f.digits (f.coarse units) 1 * f.fieldUnit +
    f.coarse units >>> excess f.digits (f.coarse units) 1) (f.topExponent * f.fieldUnit) = _
  rw [hexcess, hcut, Nat.zero_add, Nat.min_eq_left hfinite]

/-- What a rounded number reads as. -/
theorem IsProper.decode_encode (hf : f.IsProper)
    (hrange : excess f.digits (f.coarse units) 1 + 2 ≤ f.topExponent) :
    f.decode (f.encode (.finite false units)) = .finite false (f.settled units) ∧
      (roundHalfEven units (f.step units) % 2 = 0 → f.encode (.finite false units) % 2 = 0) := by
  obtain ⟨mantissa, shift, hcoarse, hmantissa, hfull, heven⟩ := hf.coarse_eq units
  rw [hcoarse, excess_mul_pow hmantissa hf.digits_pos hfull] at hrange
  rw [hf.encode_eq hcoarse hmantissa hfull hrange, settled, hcoarse,
    hf.decode_pattern hmantissa hfull hrange]
  refine ⟨rfl, fun htie => ?_⟩
  have hfield : shift * f.fieldUnit % 2 = 0 := by
    rw [Nat.mul_mod, hf.even_fieldUnit, Nat.mul_zero]
  have hmantissa := heven htie
  omega

theorem IsProper.one_eq (hf : f.IsProper) : Double.one = 2 ^ f.unitExponent * 2 ^ f.finer := by
  have hexponent : f.unitExponent + f.finer = 1074 := Nat.add_sub_cancel' hf.unitExponent_le
  rw [← Nat.pow_add]
  unfold Double.one
  rw [← hexponent, Nat.pow_eq]

/-- One is a value of every format, so nothing up to one is rounded beyond it. -/
theorem IsProper.settled_le_one (hf : f.IsProper) (hunits : units ≤ Double.one) :
    f.settled units ≤ Double.one := by
  have hden : 0 < 1 <<< f.finer := f.finerUnits_pos
  have hwhole : 1 * 2 ^ f.unitExponent * (1 <<< f.finer) = Double.one := by
    rw [hf.one_eq, Nat.one_mul, Nat.shiftLeft_eq, Nat.one_mul]
  have hone : nearest f.digits (1 * 2 ^ f.unitExponent * (1 <<< f.finer)) (1 <<< f.finer) =
      1 * 2 ^ f.unitExponent :=
    nearest_exact hf.digits_pos (Nat.one_lt_two_pow hf.digits_pos.ne') _ hden
  have hmono := nearest_mono hf.digits_pos hden hunits
  rw [← hwhole, hone] at hmono
  calc f.settled units
      ≤ 1 * 2 ^ f.unitExponent * 2 ^ f.finer := Nat.mul_le_mul_right _ hmono
    _ = Double.one := by rw [← hwhole, Nat.shiftLeft_eq, Nat.one_mul (2 ^ f.finer)]

/-- The numbers up to one are in the range of a format. -/
theorem IsProper.range_of_le_one (hf : f.IsProper) (hunits : units ≤ Double.one) :
    excess f.digits (f.coarse units) 1 + 2 ≤ f.topExponent := by
  have hrange := hf.range
  have htop := hf.two_le_topExponent
  have hcoarse : f.coarse units ≤ 2 ^ f.unitExponent := by
    have hle := hf.settled_le_one hunits
    rw [hf.one_eq] at hle
    exact Nat.le_of_mul_le_mul_right hle (Nat.two_pow_pos _)
  have hlog := log2_mono hcoarse
  rw [Nat.log2_two_pow] at hlog
  rw [excess, Nat.div_one]
  omega

/-- Without a sign, a pattern is below the sign bit. -/
theorem encode_lt (f : Format) (units : ℕ) : f.encode (.finite false units) < f.signUnit := by
  have hlargest := Nat.min_le_right (excess f.digits (f.coarse units) 1 * f.fieldUnit +
    f.coarse units >>> excess f.digits (f.coarse units) 1) (f.topExponent * f.fieldUnit)
  have hpos := f.fieldUnit_pos
  rw [signUnit_eq, Nat.mul_succ, Nat.mul_comm f.fieldUnit]
  change 0 + min _ _ < _
  rw [Nat.zero_add]
  exact Nat.lt_of_le_of_lt hlargest (Nat.lt_add_of_pos_right hpos)

/-! ## The nearest value -/

/-- Whether a bit pattern stands for the value of the format nearest to a number of units: no other
one is nearer, and if another one is as near, the pattern is even. -/
structure IsRounded (f : Format) (units bits value : ℕ) : Prop where
  stands : f.decode bits = .finite false value
  nearest : ∀ other found, f.decode other = .finite false found →
    Nat.dist units value ≤ Nat.dist units found
  even_of_tie : ∀ other found, f.decode other = .finite false found → found ≠ value →
    Nat.dist units found = Nat.dist units value → bits % 2 = 0

/-- A value of the format is a multiple of the step, and an even one if the pattern is even, or it is
below the power of two that the number begins with. -/
theorem IsProper.multiple_or_below (hf : f.IsProper) (units : ℕ) {value : ℕ} {negative : Bool}
    (h : f.decode bits = .finite negative value) :
    (∃ whole, value = whole * f.step units ∧ (bits % 2 = 0 → whole % 2 = 0)) ∨
      value < 2 ^ (f.digits - 1) * f.step units ∧ 2 ^ (f.digits - 1) * f.step units ≤ units := by
  obtain ⟨mantissa, shift, hmantissa, rfl, hlast⟩ := hf.of_decode h
  have hden : 0 < 1 <<< f.finer := f.finerUnits_pos
  have hstep : f.step units = 2 ^ excess f.digits units (1 <<< f.finer) * 2 ^ f.finer := by
    rw [step, Nat.shiftLeft_eq, Nat.shiftLeft_eq, Nat.one_mul, Nat.mul_comm]
  have hleast := @two_pow_excess_le f.digits units (1 <<< f.finer) hf.digits_pos hden
  -- either its last digit is finer than the step, or it is a multiple
  rcases Nat.lt_or_ge shift (excess f.digits units (1 <<< f.finer)) with hlt | hge
  · refine .inr ⟨?_, hleast (Nat.zero_lt_of_lt hlt)⟩
    rw [hstep, ← Nat.mul_assoc]
    refine Nat.mul_lt_mul_of_pos_right ?_ (Nat.two_pow_pos _)
    calc mantissa * 2 ^ shift
        < 2 ^ f.digits * 2 ^ shift := Nat.mul_lt_mul_of_pos_right hmantissa (Nat.two_pow_pos _)
      _ = 2 ^ (f.digits - 1) * 2 ^ (shift + 1) := by
          rw [← hf.two_mul_fieldUnit, fieldUnit_eq, Nat.pow_succ]
          ring
      _ ≤ 2 ^ (f.digits - 1) * 2 ^ excess f.digits units (1 <<< f.finer) :=
          Nat.mul_le_mul_left _ (Nat.pow_le_pow_right (by decide) hlt)
  · obtain ⟨more, rfl⟩ := Nat.exists_eq_add_of_le hge
    refine .inl ⟨mantissa * 2 ^ more, ?_, fun heven => ?_⟩
    · rw [hstep, Nat.pow_add]
      ring
    · rw [Nat.mul_mod, hlast, heven, Nat.zero_mul]

/-- What is below the power of two that a number begins with is farther away than the nearest
multiple of the step. -/
theorem dist_lt_of_below {found : ℕ}
    (hbelow : found < 2 ^ (f.digits - 1) * f.step units)
    (hpower : 2 ^ (f.digits - 1) * f.step units ≤ units) :
    Nat.dist units (f.settled units) < Nat.dist units found := by
  have hle := dist_roundHalfEven_le units (2 ^ (f.digits - 1)) (f.step_pos units)
  rw [settled_eq]
  unfold Nat.dist at *
  omega

/-- **Rounding goes to the nearest.** A number of units up to one is encoded as the nearest value of
a format, and of two that are equally near as the even one. -/
theorem IsProper.isRounded_encode (hf : f.IsProper) (hunits : units ≤ Double.one) :
    f.IsRounded units (f.encode (.finite false units)) (f.settled units) := by
  obtain ⟨hstands, heven⟩ := hf.decode_encode (hf.range_of_le_one hunits)
  have hpos := f.step_pos units
  refine ⟨hstands, fun other found hfound => ?_, fun other found hfound hother htie => ?_⟩
  · rcases hf.multiple_or_below units hfound with ⟨whole, rfl, -⟩ | ⟨hbelow, hpower⟩
    · rw [settled_eq]
      exact dist_roundHalfEven_le units whole hpos
    · exact (dist_lt_of_below hbelow hpower).le
  · rcases hf.multiple_or_below units hfound with ⟨whole, rfl, -⟩ | ⟨hbelow, hpower⟩
    · rw [settled_eq] at hother htie
      refine heven (even_of_dist_roundHalfEven hpos (fun hsame => hother ?_) htie)
      rw [hsame]
    · exact absurd htie (dist_lt_of_below hbelow hpower).ne'

/-- **There is one nearest value.** Whatever pattern a number up to one is rounded to, by a rule that
prefers the even one of two that are equally near, it stands for the same value. -/
theorem IsProper.settled_of_isRounded (hf : f.IsProper) (hunits : units ≤ Double.one) {value : ℕ}
    (h : f.IsRounded units bits value) : value = f.settled units := by
  have hencoded := hf.isRounded_encode hunits
  have htie : Nat.dist units value = Nat.dist units (f.settled units) :=
    Nat.le_antisymm (h.nearest _ _ hencoded.stands) (hencoded.nearest _ _ h.stands)
  by_contra hother
  have heven := h.even_of_tie _ _ hencoded.stands (Ne.symm hother) htie.symm
  rcases hf.multiple_or_below units h.stands with ⟨whole, rfl, hwhole⟩ | ⟨hbelow, hpower⟩
  · rw [settled_eq] at hother htie
    have hdifferent : whole ≠ roundHalfEven units (f.step units) := fun hsame =>
      hother (by rw [hsame])
    -- two patterns that both give way to the other one would both be even
    have hodd := odd_of_dist_roundHalfEven (f.step_pos units) hdifferent htie
    rw [hwhole heven] at hodd
    cases hodd
  · exact (dist_lt_of_below hbelow hpower).ne' htie

end Format

/-! ## Halves -/

/-- What is asked of a conversion to halves: that it rounds the numbers up to one to the nearest, and
of two that are equally near to the even one. -/
def RoundsToHalf (toHalf : Double → UInt16) : Prop :=
  ∀ units ≤ Double.one,
    ∃ value, Format.half.IsRounded units (toHalf (.finite false units)).toNat value

theorem Double.roundsToHalf_toHalf : RoundsToHalf Double.toHalf := by
  intro units hunits
  have hfits : Format.half.encode (.finite false units) < 2 ^ 16 :=
    Nat.lt_of_lt_of_le (Format.half.encode_lt units) (by decide)
  refine ⟨Format.half.settled units, ?_⟩
  rw [toHalf, UInt16.toNat_ofNat_of_lt' hfits]
  exact Format.half_isProper.isRounded_encode hunits

end SpectralBench.Binary
