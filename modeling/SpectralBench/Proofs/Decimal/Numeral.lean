import SpectralBench.Proofs.Decimal

/-!
# What a numeral is

A numeral is a run of one or more ASCII digits, after one plus sign or none, and it stands for the
number that the digits spell to the base ten. The reader accepts exactly the numerals of 64-bit
words: it gives up as soon as what it has read is no word any more, and no further digit would make
it smaller.

Main statements:

* `readDigits_eq_ok_iff` — which runs are read, and as what.
* `readNatural_eq_ok_iff`, `readNatural_eq_none_iff` — which texts are numerals of words.
-/

namespace SpectralBench.Decimal

/-- The value of a digit by its place among the ASCII characters. -/
def digitValue (c : Char) : Nat :=
  c.toNat - '0'.toNat

/-- A run of ASCII digits, and the number that it spells. -/
structure IsRun (run : List Char) (value : Nat) : Prop where
  ne_nil : run ≠ []
  digits : ∀ c ∈ run, '0' ≤ c ∧ c ≤ '9'
  value_eq : value = ofDigits (run.map digitValue)

/-- A run of digits after one plus sign or none, and the number that it stands for. -/
def IsNumeral (text : List Char) (value : Nat) : Prop :=
  ∃ run, (text = run ∨ text = '+' :: run) ∧ IsRun run value

/-! ## Digits -/

theorem digit?_of_digit {c : Char} (h : '0' ≤ c ∧ c ≤ '9') : digit? c = some (digitValue c) :=
  if_pos h

theorem digit?_of_not_digit {c : Char} (h : ¬('0' ≤ c ∧ c ≤ '9')) : digit? c = none :=
  if_neg h

/-- More digits make a number no smaller. -/
theorem le_foldl_digits (value : Nat) (digits : List Nat) :
    value ≤ digits.foldl (fun value d => value * 10 + d) value := by
  induction digits generalizing value with
  | nil => exact Nat.le_refl _
  | cons d digits ih => exact Nat.le_trans (by omega) (ih (value * 10 + d))

/-- The runs that are read onto a value: those whose number is still a word. -/
theorem readDigits_eq_ok_iff {value n : Nat} (hvalue : value < Word.count) (run : List Char) :
    readDigits value run = .ok n ↔ (∀ c ∈ run, '0' ≤ c ∧ c ≤ '9') ∧
      n = (run.map digitValue).foldl (fun value d => value * 10 + d) value ∧ n < Word.count := by
  induction run generalizing value with
  | nil =>
    constructor
    · intro h
      cases h
      exact ⟨List.forall_mem_nil _, rfl, hvalue⟩
    · rintro ⟨-, rfl, -⟩
      rfl
  | cons c run ih =>
    rw [List.forall_mem_cons, List.map_cons, List.foldl_cons, readDigits]
    by_cases hdigit : '0' ≤ c ∧ c ≤ '9'
    · rw [digit?_of_digit hdigit]
      by_cases hword : value * 10 + digitValue c < Word.count
      · simp only [if_pos hword, ih hword, hdigit, true_and]
      · -- whatever follows, the number is no word any more
        simp only [if_neg hword]
        constructor
        · intro h
          cases h
        · rintro ⟨-, rfl, hfits⟩
          exact absurd (Nat.lt_of_le_of_lt (le_foldl_digits _ _) hfits) hword
    · rw [digit?_of_not_digit hdigit]
      constructor
      · intro h
        cases h
      · rintro ⟨⟨hc, -⟩, -⟩
        exact absurd hc hdigit

/-! ## Numerals -/

theorem map_readDigits_eq_ok_iff {run : List Char} (hrun : run ≠ []) {word : UInt64} :
    (readDigits 0 run).map UInt64.ofNat = .ok word ↔ IsRun run word.toNat := by
  constructor
  · intro h
    cases hread : readDigits 0 run with
    | error fault =>
      rw [hread] at h
      cases h
    | ok n =>
      rw [hread] at h
      cases h
      obtain ⟨hdigits, hn, hword⟩ := (readDigits_eq_ok_iff (by decide) run).1 hread
      have hvalue : (UInt64.ofNat n).toNat = n := UInt64.toNat_ofNat_of_lt' hword
      exact ⟨hrun, hdigits, hvalue.trans hn⟩
  · intro h
    rw [(readDigits_eq_ok_iff (by decide) run).2 ⟨h.digits, h.value_eq, word.toNat_lt⟩]
    exact congrArg Except.ok (UInt64.ofNat_toNat (x := word))

theorem not_isRun_plus {run : List Char} {value : Nat} : ¬IsRun ('+' :: run) value :=
  fun h => absurd (h.digits '+' List.mem_cons_self) (by decide)

/-- The reader accepts exactly the numerals of words. -/
theorem readNatural_eq_ok_iff {text : List Char} {word : UInt64} :
    readNatural text = .ok word ↔ IsNumeral text word.toNat := by
  have hempty (value : Nat) : ¬IsRun [] value := fun h => h.ne_nil rfl
  unfold readNatural
  split
  · -- neither form of a numeral is empty
    constructor
    · intro h
      cases h
    · rintro ⟨run, rfl | h, hrun⟩
      · exact absurd hrun (hempty _)
      · cases h
  · -- a sign alone
    constructor
    · intro h
      cases h
    · rintro ⟨run, rfl | h, hrun⟩
      · exact absurd hrun not_isRun_plus
      · cases h
        exact absurd hrun (hempty _)
  · -- what follows the sign is not empty
    rename_i digits hdigits
    have hne : digits ≠ [] := by
      rintro rfl
      exact hdigits rfl
    rw [map_readDigits_eq_ok_iff hne]
    constructor
    · exact fun h => ⟨digits, .inr rfl, h⟩
    · rintro ⟨run, rfl | h, hrun⟩
      · exact absurd hrun not_isRun_plus
      · cases h
        exact hrun
  · rename_i hne hsign hplus
    rw [map_readDigits_eq_ok_iff fun h => hne h]
    constructor
    · exact fun h => ⟨text, .inl rfl, h⟩
    · rintro ⟨run, rfl | rfl, hrun⟩
      · exact hrun
      · exact absurd rfl (hplus run)

/-- The reader gives up exactly where no word has that numeral. -/
theorem readNatural_eq_none_iff {text : List Char} :
    (readNatural text).toOption = none ↔ ∀ value < Word.count, ¬IsNumeral text value := by
  constructor
  · intro h value hvalue hnumeral
    have hword : (UInt64.ofNat value).toNat = value := UInt64.toNat_ofNat_of_lt' hvalue
    rw [← hword] at hnumeral
    rw [readNatural_eq_ok_iff.2 hnumeral] at h
    cases h
  · intro h
    cases hread : readNatural text with
    | error fault => rfl
    | ok word => exact absurd (readNatural_eq_ok_iff.1 hread) (h _ word.toNat_lt)

end SpectralBench.Decimal
