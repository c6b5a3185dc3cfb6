import SpectralBench.Admission
import SpectralBench.Proofs.Binary
import Mathlib.Order.MinMax

/-!
# What an admission promises

More memory never turns an admission into a refusal, and neither does a smaller requirement: every
step of a budget keeps the order of the available bytes, and every requirement keeps the order of
its parts.

An admission is also sound over all natural numbers, although requirements are clipped at the
largest word. A share below the whole has a budget below the largest word (`budget_lt_top`), because
the largest double below one still leaves `2 ^ 11` of the `2 ^ 64` bytes out. So a clipped
requirement passes only where the largest word is claimed as a whole. That is how memory of unknown
size is reported, and there everything passes.

Main statements:

* `Geometry.weigh_monotone` — budgets keep the order, and so does admission.
* `Geometry.weigh_sound` — what is admitted fits, unless memory is unlimited and claimed whole.
-/

namespace SpectralBench

open Binary

/-! ## Shares -/

namespace Binary.Double

/-- What is left of a fraction below one when everything below zero is left out. -/
theorem max_zero_of_not_le {fraction : Double} (h : le (.ofNat 1) fraction = false) :
    ∃ negative units, fraction.max .zero = .finite negative units := by
  rw [ofNat_one] at h
  obtain hmax | hmax := max_eq_or fraction .zero
  · cases fraction with
    | finite negative units => exact ⟨negative, units, hmax⟩
    | nan => exact ⟨false, 0, rfl⟩
    | infinite negative =>
      cases negative with
      | false => cases h
      | true => exact ⟨false, 0, rfl⟩
  · exact ⟨false, 0, hmax⟩

/-- Of a share below the whole, no more than the largest double below one is counted. -/
theorem units_le_of_not_le {bits : UInt64} (hbelow : le (.ofNat 1) (ofBits bits) = false)
    {units : Nat} (hmax : (ofBits bits).max .zero = .finite false units) : units ≤ belowOne := by
  obtain hself | hzero := max_eq_or (ofBits bits) .zero
  · have hbits : ofBits bits = .finite false units := hself.symm.trans hmax
    rw [ofNat_one, hbits] at hbelow
    have hlt : units < one :=
      Nat.lt_of_not_le fun hle => ne_true_of_eq_false hbelow (le_finite_iff.2 hle)
    exact units_le_belowOne hbits hlt
  · rw [hzero] at hmax
    cases hmax
    exact Nat.zero_le belowOne

end Binary.Double

/-! ## Budgets -/

theorem Word.toNat_le_top (n : UInt64) : n.toNat ≤ top :=
  Nat.le_of_lt_succ n.toNat_lt

/-- Below one, a budget is rounded twice: the available bytes to a double, and their product with
the fraction. -/
theorem budget_of_not_le {available : Nat} (havailable : available ≤ Word.top) {fraction : Double}
    (hbelow : Double.le (.ofNat 1) fraction = false) {negative : Bool} {units : Nat}
    (hmax : fraction.max .zero = .finite negative units) :
    budget available fraction =
      min ((Double.round (false != negative) (nearest 53 (available * Double.one) 1 * units)
        Double.one).toCount Word.top) available := by
  unfold budget
  rw [if_neg (ne_true_of_eq_false hbelow), hmax, Double.ofNat_word havailable]
  rfl

/-- Both roundings keep the order, and so does counting. -/
theorem scaled_mono (negative : Bool) {a b m n : Nat} (hab : a ≤ b) (hmn : m ≤ n) :
    (Double.round negative (nearest 53 (a * Double.one) 1 * m) Double.one).toCount Word.top ≤
      (Double.round negative (nearest 53 (b * Double.one) 1 * n) Double.one).toCount Word.top := by
  have hrounded : nearest 53 (a * Double.one) 1 ≤ nearest 53 (b * Double.one) 1 :=
    nearest_mono (by decide) (by decide) (Nat.mul_le_mul_right Double.one hab)
  exact Double.toCount_round_mono Word.top negative Double.one_pos (Nat.mul_le_mul hrounded hmn)

theorem budget_one (available : Nat) : budget available (.ofNat 1) = available := by
  have hle : Double.le (.ofNat 1) (.ofNat 1) = true := by decide +kernel
  unfold budget
  rw [if_pos hle]

theorem budget_mono {a b : Nat} (hb : b ≤ Word.top) (h : a ≤ b) (fraction : Double) :
    budget a fraction ≤ budget b fraction := by
  cases hbelow : Double.le (.ofNat 1) fraction with
  | true =>
    unfold budget
    rw [if_pos hbelow, if_pos hbelow]
    exact h
  | false =>
    obtain ⟨negative, units, hmax⟩ := Double.max_zero_of_not_le hbelow
    rw [budget_of_not_le hb hbelow hmax, budget_of_not_le (Nat.le_trans h hb) hbelow hmax]
    exact min_le_min (scaled_mono _ h (Nat.le_refl units)) h

/-- A share below the whole leaves some of the largest word out. -/
theorem budget_lt_top {available : Nat} (havailable : available ≤ Word.top) {bits : UInt64}
    (hbelow : Double.le (.ofNat 1) (.ofBits bits) = false) :
    budget available (.ofBits bits) < Word.top := by
  obtain ⟨negative, units, hmax⟩ := Double.max_zero_of_not_le hbelow
  rw [budget_of_not_le havailable hbelow hmax]
  refine Nat.lt_of_le_of_lt (Nat.min_le_left _ _) ?_
  cases negative with
  | true =>
    rw [Bool.false_bne, Double.toCount_round_negative]
    decide
  | false =>
    -- the largest word times the largest double below one bounds every such product
    have hlargest : (Double.round false (nearest 53 (Word.top * Double.one) 1 * Double.belowOne)
        Double.one).toCount Word.top < Word.top := by decide +kernel
    have hunits : units ≤ Double.belowOne := Double.units_le_of_not_le hbelow hmax
    exact Nat.lt_of_le_of_lt (scaled_mono false havailable hunits) hlargest

/-- Memory of the largest word, which stands for memory of unknown size, claimed as a whole. -/
def Unlimited (available : UInt64) (fraction : Double) : Prop :=
  available.toNat = Word.top ∧ fraction = .ofNat 1

/-- Clipping a requirement matters only where memory is unlimited. -/
theorem clipped_le_budget_iff {bits : UInt64} (hshare : Limits.isShare (.ofBits bits) = true)
    (required : Nat) (available : UInt64) :
    min required Word.top ≤ budget available.toNat (.ofBits bits) ↔
      required ≤ budget available.toNat (.ofBits bits) ∨ Unlimited available (.ofBits bits) := by
  have hbudget := budget_le available.toNat (.ofBits bits)
  have hword := Word.toNat_le_top available
  constructor
  · intro hclipped
    obtain hgt | hle := Nat.lt_or_ge Word.top required
    · rw [Nat.min_eq_right hgt.le] at hclipped
      refine .inr ⟨by omega, ?_⟩
      cases hbelow : Double.le (.ofNat 1) (.ofBits bits) with
      | true => exact Double.eq_one_of_le hbelow (Bool.and_eq_true _ _ ▸ hshare).2
      | false => exact absurd (budget_lt_top hword hbelow) (by omega)
    · rw [Nat.min_eq_left hle] at hclipped
      exact .inl hclipped
  · rintro (hle | ⟨havailable, hfraction⟩)
    · exact Nat.le_trans (Nat.min_le_left _ _) hle
    · rw [hfraction, budget_one, havailable]
      exact Nat.min_le_right _ _

/-! ## Requirements -/

/-- The first geometry needs no more than the second, in any of its sizes. -/
structure Geometry.Within (small large : Geometry) : Prop where
  data : small.dataSize ≤ large.dataSize
  complexBuffer : small.complexBufferSize ≤ large.complexBufferSize
  transfer : small.transferSize ≤ large.transferSize

/-- The first limits claim the same shares, for no more transfer buffers. -/
structure Limits.Within (small large : Limits) : Prop where
  deviceFraction : small.deviceFraction = large.deviceFraction
  hostFraction : small.hostFraction = large.hostFraction
  hostBuffers : small.hostBuffers ≤ large.hostBuffers

theorem Limits.isShare_of_validate {limits : Limits} (h : limits.validate = .ok ()) :
    isShare limits.deviceFraction = true ∧ isShare limits.hostFraction = true := by
  unfold validate at h
  split at h
  · cases h
  · split at h
    · cases h
    · rename_i hdevice hhost
      exact ⟨by simpa using hdevice, by simpa using hhost⟩

namespace Geometry

theorem deviceRequirement_mono {small large : Geometry} (h : small.Within large) {plan plan' : Nat}
    (hplan : plan ≤ plan') : small.deviceRequirement plan ≤ large.deviceRequirement plan' :=
  Word.addSat_mono (Word.addSat_mono hplan h.data) h.complexBuffer

theorem hostRequirement_mono {small large : Geometry} (h : small.Within large)
    {limits limits' : Limits} (hlimits : limits.Within limits') :
    small.hostRequirement limits ≤ large.hostRequirement limits' :=
  Word.mulSat_mono (UInt64.le_iff_toNat_le.1 hlimits.hostBuffers) h.transfer

theorem deviceRequirement_eq (g : Geometry) (plan : Nat) :
    g.deviceRequirement plan = min (plan + g.dataSize + g.complexBufferSize) Word.top :=
  Word.addSat_addSat _ _ _

/-! ## Admission -/

/-- **Monotone admission.** For any fraction at all, the budget of more bytes is no smaller, and
stays within them. So what is admitted is admitted with more memory too, and with a smaller plan,
smaller buffers or fewer of them. -/
theorem weigh_monotone :
    (∀ (a b : UInt64) (fraction : Double), a ≤ b →
      budget a.toNat fraction ≤ budget b.toNat fraction ∧ budget b.toNat fraction ≤ b.toNat) ∧
    (∀ (g g' : Geometry) (limits limits' : Limits) (plan plan' device device' host host' : UInt64),
      g'.Within g → limits'.Within limits → plan' ≤ plan → device ≤ device' → host ≤ host' →
      g.weigh plan device host limits = .ok () →
      g'.weigh plan' device' host' limits' = .ok ()) := by
  constructor
  · intro a b fraction h
    exact ⟨budget_mono (Word.toNat_le_top b) (UInt64.le_iff_toNat_le.1 h) fraction, budget_le _ _⟩
  · intro g g' limits limits' plan plan' device device' host host' hg hlimits hplan hdevice hhost h
    obtain ⟨hdeviceFits, hhostFits⟩ := (weigh_eq_ok_iff g plan device host limits).1 h
    refine (weigh_eq_ok_iff g' plan' device' host' limits').2 ⟨?_, ?_⟩
    · calc g'.deviceRequirement plan'.toNat
          ≤ g.deviceRequirement plan.toNat :=
            deviceRequirement_mono hg (UInt64.le_iff_toNat_le.1 hplan)
        _ ≤ budget device.toNat limits.deviceFraction := hdeviceFits
        _ ≤ budget device'.toNat limits.deviceFraction :=
            budget_mono (Word.toNat_le_top _) (UInt64.le_iff_toNat_le.1 hdevice) _
        _ = budget device'.toNat limits'.deviceFraction := by rw [hlimits.deviceFraction]
    · calc g'.hostRequirement limits'
          ≤ g.hostRequirement limits := hostRequirement_mono hg hlimits
        _ ≤ budget host.toNat limits.hostFraction := hhostFits
        _ ≤ budget host'.toNat limits.hostFraction :=
            budget_mono (Word.toNat_le_top _) (UInt64.le_iff_toNat_le.1 hhost) _
        _ = budget host'.toNat limits'.hostFraction := by rw [hlimits.hostFraction]

/-- Eight real numbers out of place: 32 bytes of data, and 40 bytes of spectrum. -/
def lineOfEight : Geometry where
  configuration :=
    { kind := .real, placement := .outOfPlace, precision := .single
      extent := ⟨[8], by decide, by decide, by simp⟩ }
  count := 8
  complexCount := 5
  dataSize := 32
  complexBufferSize := 40
  transferSize := 32

/-- Limits that claim half of each memory, for three transfer buffers. -/
def halved : Limits := ⟨.ofBits 4602678819172646912, .ofBits 4602678819172646912, 3⟩

theorem weigh_monotone_lineOfEight :
    lineOfEight.weigh 28 200 192 halved = .ok () ∧
      lineOfEight.weigh 27 201 192 { halved with hostBuffers := 2 } = .ok () := by
  have hok : lineOfEight.weigh 28 200 192 halved = .ok () := by decide +kernel
  have hsame : lineOfEight.Within lineOfEight := ⟨Nat.le_refl _, Nat.le_refl _, Nat.le_refl _⟩
  have hfewer : Limits.Within { halved with hostBuffers := 2 } halved := ⟨rfl, rfl, by decide⟩
  exact ⟨hok, weigh_monotone.2 _ _ _ _ 28 27 200 201 192 192 hsame hfewer (by decide) (by decide)
    (by decide) hok⟩

/-- Admission over all natural numbers. -/
theorem weigh_eq_ok_iff_unclipped {limits : Limits} {deviceBits hostBits : UInt64}
    (hdevice : limits.deviceFraction = .ofBits deviceBits)
    (hhost : limits.hostFraction = .ofBits hostBits) (hvalid : limits.validate = .ok ())
    (g : Geometry) (plan device host : UInt64) :
    g.weigh plan device host limits = .ok () ↔
      (plan.toNat + g.dataSize + g.complexBufferSize ≤
            budget device.toNat limits.deviceFraction ∨
          Unlimited device limits.deviceFraction) ∧
        (limits.hostBuffers.toNat * g.transferSize ≤ budget host.toNat limits.hostFraction ∨
          Unlimited host limits.hostFraction) := by
  obtain ⟨hdeviceShare, hhostShare⟩ := Limits.isShare_of_validate hvalid
  rw [hdevice] at hdeviceShare
  rw [hhost] at hhostShare
  rw [weigh_eq_ok_iff, deviceRequirement_eq, hdevice, hhost]
  exact and_congr (clipped_le_budget_iff hdeviceShare _ device)
    (clipped_le_budget_iff hhostShare _ host)

/-- **Sound admission.** With limits that are valid, and shares given by their bit patterns, a
configuration is admitted exactly when its requirements, which are not clipped here, are within
their budgets or the memory is unlimited. So what is admitted fits into the available bytes, unless
these are the largest word and claimed as a whole. -/
theorem weigh_sound (g : Geometry) (plan device host : UInt64)
    {deviceBits hostBits buffers : UInt64} :
    let limits : Limits := ⟨.ofBits deviceBits, .ofBits hostBits, buffers⟩
    let claimed := plan.toNat + g.dataSize + g.complexBufferSize
    let buffered := buffers.toNat * g.transferSize
    limits.validate = .ok () →
    (g.weigh plan device host limits = .ok () ↔
      (claimed ≤ budget device.toNat limits.deviceFraction ∨
          Unlimited device limits.deviceFraction) ∧
        (buffered ≤ budget host.toNat limits.hostFraction ∨ Unlimited host limits.hostFraction)) ∧
    (g.weigh plan device host limits = .ok () →
      (claimed ≤ device.toNat ∨ Unlimited device limits.deviceFraction) ∧
        (buffered ≤ host.toNat ∨ Unlimited host limits.hostFraction)) := by
  intro limits claimed buffered hvalid
  have hexact := @weigh_eq_ok_iff_unclipped limits deviceBits hostBits rfl rfl hvalid g plan device
    host
  refine ⟨hexact, fun hok => ?_⟩
  -- no budget is larger than what is available
  obtain ⟨hclaimed, hbuffered⟩ := hexact.1 hok
  exact ⟨hclaimed.imp_left fun h => Nat.le_trans h (budget_le _ _),
    hbuffered.imp_left fun h => Nat.le_trans h (budget_le _ _)⟩

theorem weigh_sound_lineOfEight :
    lineOfEight.weigh 28 200 192 halved = .ok () ∧ 28 + lineOfEight.dataSize +
      lineOfEight.complexBufferSize ≤ 200 ∧ 3 * lineOfEight.transferSize ≤ 192 := by
  have hok : lineOfEight.weigh 28 200 192 halved = .ok () := by decide +kernel
  obtain ⟨hclaimed, hbuffered⟩ :=
    (weigh_sound lineOfEight 28 200 192 (by decide +kernel : halved.validate = .ok ())).2 hok
  have hlimited {available : UInt64} (h : available ≠ 18446744073709551615) (fraction : Double) :
      ¬Unlimited available fraction := fun hunlimited => h (UInt64.toNat_inj.1 hunlimited.1)
  exact ⟨hok, hclaimed.resolve_right (hlimited (by decide) _),
    hbuffered.resolve_right (hlimited (by decide) _)⟩

/-- A requirement beyond the largest word passes where memory is unlimited: both shares are one, and
the plan alone takes the largest word. -/
theorem weigh_unlimited_lineOfEight :
    let top : UInt64 := 18446744073709551615
    let whole : Limits := ⟨.ofBits 4607182418800017408, .ofBits 4607182418800017408, 3⟩
    lineOfEight.configuration.geometry = .ok lineOfEight ∧ whole.validate = .ok () ∧
      lineOfEight.weigh top top top whole = .ok () ∧
      top.toNat < top.toNat + lineOfEight.dataSize + lineOfEight.complexBufferSize := by
  refine ⟨by cbv, ?_, ?_, ?_⟩ <;> decide +kernel

end Geometry

end SpectralBench
