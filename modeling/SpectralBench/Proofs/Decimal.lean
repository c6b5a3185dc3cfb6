import SpectralBench.Decimal.Real

/-!
# Numerals read back

A number is written without leading zeros, digit by digit from the front. Every reader of numerals
takes the digits from the front as well, so each of the lemmas below is an induction that adds the
last digit: a number below ten is its digit, and any other number is the tenth of it with one digit
more (`digit_induction`).

Main statements:

* `readNatural_decimalDigits` — the numeral of a word reads as that word.
* `spanDigits_decimalDigits` — a numeral ends where its digits end.
* `places_head_ne_zero` — a numeral has no leading zero.
-/

namespace SpectralBench.Decimal

/-! ## Digits -/

theorem digit?_digitChar {d : Nat} (h : d < 10) : digit? d.digitChar = some d := by
  have : ∀ d : Fin 10, digit? (Nat.digitChar d) = some d.val := by decide
  exact this ⟨d, h⟩

theorem decimalDigits_of_lt {n : Nat} (h : n < 10) : decimalDigits n = [n.digitChar] :=
  Nat.toDigits_of_lt_base h

/-- The last digit is the remainder, and the ones before it show the quotient. -/
theorem decimalDigits_of_le {n : Nat} (h : 10 ≤ n) :
    decimalDigits n = decimalDigits (n / 10) ++ [(n % 10).digitChar] :=
  Nat.toDigits_of_base_le (by decide) h

/-- Numbers one digit at a time. -/
@[elab_as_elim]
theorem digit_induction {P : Nat → Prop} (n : Nat) (single : ∀ d, d < 10 → P d)
    (more : ∀ n, 10 ≤ n → P (n / 10) → P n) : P n := by
  induction n using Nat.strongRecOn with
  | ind n ih =>
    by_cases h : n < 10
    · exact single n h
    · exact more n (by omega) (ih (n / 10) (by omega))

theorem decimalDigits_ne_nil (n : Nat) : decimalDigits n ≠ [] :=
  Nat.toDigits_ne_nil

theorem exists_digit_of_mem {n : Nat} {c : Char} (h : c ∈ decimalDigits n) :
    ∃ d < 10, c = d.digitChar := by
  induction n using digit_induction with
  | single d hd =>
    rw [decimalDigits_of_lt hd, List.mem_singleton] at h
    exact ⟨d, hd, h⟩
  | more n hn ih =>
    rw [decimalDigits_of_le hn, List.mem_append, List.mem_singleton] at h
    obtain h | h := h
    · exact ih h
    · exact ⟨n % 10, Nat.mod_lt _ (by decide), h⟩

/-- What holds of the ten digits holds of every character of a numeral. -/
theorem forall_mem_decimalDigits {P : Char → Prop} (h : ∀ d : Fin 10, P (Nat.digitChar d)) (n : Nat) :
    ∀ c ∈ decimalDigits n, P c := by
  intro c hc
  obtain ⟨d, hd, rfl⟩ := exists_digit_of_mem hc
  exact h ⟨d, hd⟩

/-! ## Reading -/

/-- Digits are read onto the value of those before them, and the first fault ends the reading. -/
theorem readDigits_append (value : Nat) (first rest : List Char) :
    readDigits value (first ++ rest) =
      (readDigits value first).bind fun before => readDigits before rest := by
  induction first generalizing value with
  | nil => rfl
  | cons c first ih =>
    simp only [List.cons_append, readDigits]
    split
    · rfl
    · split
      · exact ih _
      · rfl

/-- A digit is taken in as long as the value stays a word. -/
theorem readDigits_digit {value d : Nat} (hd : d < 10) (h : value * 10 + d < Word.count) :
    readDigits value [d.digitChar] = .ok (value * 10 + d) := by
  simp only [readDigits, digit?_digitChar hd, if_pos h]

/-- The digits of a word are read as the word: no value on the way is larger. -/
theorem readDigits_decimalDigits {n : Nat} (h : n < Word.count) :
    readDigits 0 (decimalDigits n) = .ok n := by
  induction n using digit_induction with
  | single d hd =>
    rw [decimalDigits_of_lt hd, readDigits_digit hd (by omega), Nat.zero_mul, Nat.zero_add]
  | more n hn ih =>
    have hsum : n / 10 * 10 + n % 10 = n := by omega
    rw [decimalDigits_of_le hn, readDigits_append, ih (by omega), Except.bind,
      readDigits_digit (Nat.mod_lt _ (by decide)) (by omega), hsum]

/-- A word is read back from its digits. -/
theorem readNatural_decimalDigits {n : Nat} (h : n < Word.count) :
    readNatural (decimalDigits n) = .ok (.ofNat n) := by
  have hsign : ∀ c ∈ decimalDigits n, c ≠ '+' := forall_mem_decimalDigits (by decide) n
  have hread : (readDigits 0 (decimalDigits n)).map UInt64.ofNat = .ok (.ofNat n) := by
    rw [readDigits_decimalDigits h, Except.map]
  rw [← hread]
  unfold readNatural
  -- The digits are neither empty nor do they start with a sign, so the last row applies.
  split
  · exact absurd ‹decimalDigits n = []› (decimalDigits_ne_nil n)
  · exact absurd rfl (hsign '+' (by simp_all))
  · exact absurd rfl (hsign '+' (by simp_all))
  · rfl

theorem readNatural_toString {n : Nat} (h : n < Word.count) :
    readNatural (toString n).toList = .ok (.ofNat n) := by
  rw [Nat.toString_eq_repr, Nat.toList_repr]
  exact readNatural_decimalDigits h

/-! ## Places -/

/-- The decimal places of a number, from the front. -/
def places (n : Nat) : List Nat :=
  (decimalDigits n).filterMap digit?

theorem places_of_lt {n : Nat} (h : n < 10) : places n = [n] := by
  rw [places, decimalDigits_of_lt h]
  simp [digit?_digitChar h]

/-- The places of a number are those of the quotient and the remainder. -/
theorem places_of_le {n : Nat} (h : 10 ≤ n) : places n = places (n / 10) ++ [n % 10] := by
  rw [places, decimalDigits_of_le h, List.filterMap_append]
  simp [places, digit?_digitChar (Nat.mod_lt n (show 0 < 10 by decide))]

theorem places_ne_nil (n : Nat) : places n ≠ [] := by
  by_cases h : n < 10
  · simp [places_of_lt h]
  · simp [places_of_le (Nat.le_of_not_lt h)]

/-- A positive number has no leading zero. -/
theorem places_head_ne_zero {n : Nat} (h : 0 < n) : (places n).head? ≠ some 0 := by
  induction n using digit_induction with
  | single d hd =>
    rw [places_of_lt hd]
    simpa using Nat.ne_of_gt h
  | more n hn ih =>
    rw [places_of_le hn, List.head?_append, Option.or_of_isSome (by simp [places_ne_nil])]
    exact ih (by omega)

/-- A numeral that starts with a zero is the zero. -/
theorem places_of_zero_head {n : Nat} {rest : List Nat} (h : places n = 0 :: rest) : rest = [] := by
  obtain rfl | hn := Nat.eq_zero_or_pos n
  · rw [places_of_lt (by decide)] at h
    exact (List.cons.inj h).2.symm
  · exact absurd (by rw [h]; rfl) (places_head_ne_zero hn)

/-- The digits of a number end where something other than a digit follows. -/
theorem spanDigits_decimalDigits (n : Nat) {rest : List Char}
    (h : ∀ c ∈ rest.head?, digit? c = none) :
    spanDigits (decimalDigits n ++ rest) = (decimalDigits n, rest) := by
  have hdigits : ∀ c ∈ decimalDigits n, (digit? c).isSome = true :=
    forall_mem_decimalDigits (by decide) n
  have hrest : rest.takeWhile (digit? · |>.isSome) = [] ∧
      rest.dropWhile (digit? · |>.isSome) = rest := by
    cases rest with
    | nil => exact ⟨rfl, rfl⟩
    | cons c rest => simp [h c (by simp)]
  rw [spanDigits, List.takeWhile_append_of_pos hdigits, List.dropWhile_append_of_pos hdigits,
    hrest.1, hrest.2, List.append_nil]

end SpectralBench.Decimal
