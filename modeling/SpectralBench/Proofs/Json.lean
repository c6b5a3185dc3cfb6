import SpectralBench.Proofs.Decimal
import SpectralBench.Proofs.Json.Library
import Mathlib.Data.List.Basic

/-!
# Written values read back

A value is written without blanks, and every written form says where it ends: a string by its quote,
an array or object by its bracket, a word by its last letter. Only a numeral ends because of what
stands behind it, so what is read back is a value with something behind it that ends values
(`Ended`). The readers recurse over fuel and the writers over the value; the induction is on the
value, with twice the length of the written form as the bound that the fuel keeps.

Main statements:

* `readText_escape` — a string is read back from its escaped characters.
* `readNode_write` — a written value is read as its node.
* `not_control_of_mem_write` — a written value has no control characters, and so is one line.
* `Library.standard_faithful` — the standard library escapes control characters and reads what it
  wrote.
-/

namespace SpectralBench.Json

open Decimal

/-! ## Numerals -/

/-- Digits that are all taken in leave what follows them to be taken in. -/
theorem absorb_append {significand v : Nat} {digits : List Nat}
    (h : absorb significand digits = (v, [])) (rest : List Nat) : absorb significand (digits ++ rest) = absorb v rest := by
  induction digits generalizing significand with
  | nil =>
    simp only [absorb, Prod.mk.injEq, and_true] at h
    rw [h, List.nil_append]
  | cons d digits ih =>
    rw [List.cons_append, absorb]
    rw [absorb] at h
    split at h
    · rename_i hd
      rw [if_pos hd, ih h]
    · simp at h

/-- The decimal places of a word give the word, and none of them is left over. -/
theorem absorb_places {n : Nat} (h : n < Word.count) : absorb 0 (places n) = (n, []) := by
  induction n using digit_induction with
  | single d hd => simp [places_of_lt hd, absorb, h]
  | more n hn ih =>
    have hsum : n / 10 * 10 + n % 10 = n := by omega
    rw [places_of_le hn, absorb_append (ih (by omega))]
    simp [absorb, hsum, h]

/-- A text that starts with something that ends a value. -/
def Ended (text : List Char) : Prop :=
  ∀ c ∈ text.head?, c = ',' ∨ c = ']' ∨ c = '\x7d'

/-- No exponent begins with what ends a value. -/
theorem Ended.readPower {rest : List Char} (h : Ended rest) (numeral : Numeral) :
    Json.readPower numeral rest = (.number numeral.value, rest) := by
  cases rest with
  | nil => rfl
  | cons c rest => obtain rfl | rfl | rfl := h c rfl <;> rfl

/-- And no fraction does. -/
theorem Ended.readFraction {rest : List Char} (h : Ended rest) (numeral : Numeral) :
    Json.readFraction numeral rest = (.number numeral.value, rest) := by
  rw [← h.readPower numeral]
  cases rest with
  | nil => rfl
  | cons c rest => obtain rfl | rfl | rfl := h c rfl <;> rfl

/-- The numeral of a word is read as the word, as far as the word ends. -/
theorem readNumber_decimalDigits {n : Nat} {rest : List Char} (hn : n < Word.count)
    (hrest : Ended rest) :
    readNumber false (decimalDigits n ++ rest) = (.number (.ok (.natural n)), rest) := by
  have hdigit : ∀ c ∈ rest.head?, digit? c = none := fun c hc => by
    obtain rfl | rfl | rfl := hrest c hc <;> decide
  have htake : takeDigits (decimalDigits n ++ rest) = (places n, rest) := by
    rw [takeDigits, spanDigits_decimalDigits n hdigit]
    rfl
  have hvalue : (⟨false, places n, none, none⟩ : Numeral).value = .ok (.natural n) := by
    simp [Numeral.value, absorb_places hn, wholeNumber]
  rw [readNumber, htake]
  -- there is a digit, and no digit behind a leading zero, so the last row applies
  split
  · exact absurd (Prod.mk.inj ‹_›).1 (places_ne_nil n)
  · exact absurd (Prod.mk.inj ‹_›).1 (places_ne_nil n)
  · have := places_of_zero_head (Prod.mk.inj ‹_›).1
    simp at this
  · rename_i whole rest' _ _ _ heq
    obtain ⟨rfl, rfl⟩ := Prod.mk.inj heq
    rw [hrest.readFraction, hvalue]

/-! ## Strings -/

theorem readText_short {letter c : Char} (hu : letter ≠ 'u') (h : unescape? letter = some c)
    (rest : List Char) : readText ('\\' :: letter :: rest) = (readText rest).cons c := by
  rw [readText]
  · simp [h]
  all_goals simp_all

/-- A short escape is undone by its letter, which is not that of a long one. -/
theorem unescape?_shortEscape? {c letter : Char} (h : shortEscape? c = some letter) :
    letter ≠ 'u' ∧ unescape? letter = some c ∧ 0x20 ≤ letter.toNat := by
  unfold shortEscape? at h
  split at h
  case h_8 => cases h
  all_goals
    rw [Option.some.injEq] at h
    subst h
    decide

/-- The escape of a control character names it. -/
theorem readText_control {c : Char} (h : c.toNat < 0x20) (rest : List Char) :
    readText ('\\' :: 'u' :: '0' :: '0' :: hexDigit (c.toNat / 16) :: hexDigit c.toNat :: rest) =
      (readText rest).cons c := by
  have hdigits : ∀ n : Fin 0x20, Text.hexValue? (hexDigit (n / 16)) = some (n.val / 16) ∧
      Text.hexValue? (hexDigit n) = some (n.val % 16) := by decide
  obtain ⟨hhigh, hlow⟩ := hdigits ⟨c.toNat, h⟩
  have hzero : Text.hexValue? '0' = some 0 := by decide
  have hvalue : ((0 * 16 + 0) * 16 + c.toNat / 16) * 16 + c.toNat % 16 = c.toNat := by omega
  have hplane : isLowSurrogate c.toNat = false ∧ isHighSurrogate c.toNat = false := by
    simp only [isLowSurrogate, isHighSurrogate, Bool.and_eq_false_iff, decide_eq_false_iff_not]
    omega
  rw [readText]
  simp only [hexEscape, hhigh, hlow, hzero, hvalue, hplane, Char.ofNat_toNat]
  rfl

/-- A character that needs no escape stands for itself. -/
theorem readText_bare {c : Char} (hc : shortEscape? c = none) (h : ¬ c.toNat < 0x20)
    (rest : List Char) : readText (c :: rest) = (readText rest).cons c := by
  have hquote : c ≠ '"' := by rintro rfl; cases hc
  have hslash : c ≠ '\\' := by rintro rfl; cases hc
  rw [readText]
  · exact if_neg h
  all_goals simp_all

/-- **A string is read back from its escaped characters**, up to its quote. -/
theorem readText_escape (text rest : List Char) :
    readText (text.flatMap escape ++ '"' :: rest) = ⟨.ok text, .ok rest⟩ := by
  -- character by character, as each of the three kinds of escape is read back
  induction text with
  | nil =>
    rw [List.flatMap_nil, List.nil_append, readText]
  | cons c text ih =>
    have hstep : readText (escape c ++ (text.flatMap escape ++ '"' :: rest)) =
        (readText (text.flatMap escape ++ '"' :: rest)).cons c := by
      unfold escape
      split
      · rename_i letter hletter
        obtain ⟨hu, hread, -⟩ := unescape?_shortEscape? hletter
        exact readText_short hu hread _
      · rename_i hnone
        split
        · exact readText_control ‹_› _
        · exact readText_bare hnone ‹_› _
    rw [List.flatMap_cons, List.append_assoc, hstep, ih]
    rfl

theorem readTextNode_escape (text : String) (rest : List Char) :
    readTextNode (text.toList.flatMap escape ++ '"' :: rest) = (.text (.ok text), rest) := by
  simp only [readTextNode, readText_escape, Except.map, String.ofList_toList]

/-! ## Starts of values -/

/-- A character that starts a value: not a blank, and nothing that stands between or behind values. -/
def Opens (c : Char) : Prop :=
  isGap c = false ∧ c ≠ ',' ∧ c ≠ ']' ∧ c ≠ '\x7d'

instance (c : Char) : Decidable (Opens c) :=
  inferInstanceAs (Decidable (_ ∧ _))

theorem skipGaps_of_opens {c : Char} (h : Opens c) (rest : List Char) :
    skipGaps (c :: rest) = c :: rest := by
  simp [skipGaps, h.1]

/-- A numeral begins with a digit. -/
theorem opens_decimalDigits (n : Nat) :
    ∃ c rest, decimalDigits n = c :: rest ∧ Opens c ∧ (digit? c).isSome = true := by
  obtain ⟨c, rest, heq⟩ := List.exists_cons_of_ne_nil (decimalDigits_ne_nil n)
  have hc : Opens c ∧ (digit? c).isSome = true :=
    forall_mem_decimalDigits (P := fun c => Opens c ∧ (digit? c).isSome = true) (by decide) n c
      (by simp [heq])
  exact ⟨c, rest, heq, hc⟩

/-- Every written value begins with a character that says what kind of value it is. -/
theorem opens_write {depth : Nat} {v : Value} (h : v.Plain depth) :
    ∃ c rest, v.write = c :: rest ∧ Opens c := by
  cases v with
  | null => exact ⟨'n', _, rfl, by decide⟩
  | bool value => cases value <;> exact ⟨_, _, rfl, by decide⟩
  | number value =>
    obtain ⟨n, -, rfl⟩ := h
    obtain ⟨c, rest, heq, hc, -⟩ := opens_decimalDigits n
    exact ⟨c, rest, heq, hc⟩
  | text value => exact ⟨'"', _, rfl, by decide⟩
  | array items => exact ⟨'[', _, rfl, by decide⟩
  | object fields => exact ⟨'\x7b', _, rfl, by decide⟩

/-! ## Steps of the readers -/

/-- A value that begins with a digit is a numeral. -/
theorem readNode_digits (fuel n : Nat) (rest : List Char) :
    readNode (fuel + 1) (decimalDigits n ++ rest) = readNumber false (decimalDigits n ++ rest) := by
  obtain ⟨c, digits, heq, hopens, hdigit⟩ := opens_decimalDigits n
  rw [heq, List.cons_append, readNode, skipGaps_of_opens hopens]
  -- no row that is chosen by a single character is the row of a digit
  split
  case h_9 =>
    rename_i hcons
    obtain ⟨rfl, rfl⟩ := List.cons.inj hcons
    exact if_pos hdigit
  all_goals simp_all +decide

/-- What stands in front of an item or a field: nothing in front of the first, else a comma. -/
def separator (first : Bool) : List Char :=
  if first then [] else [',']

variable {fuel : Nat} {first : Bool} {c : Char} {text rest behind : List Char}

/-- An item is read, and then the rest of its array. -/
theorem readItems_item {node : Node} {items : List Node} {ending : ArrayEnd} (hc : Opens c)
    (hnode : readNode fuel (c :: text) = (node, rest))
    (hitems : readItems fuel false rest = (items, ending, behind)) :
    readItems (fuel + 1) first (separator first ++ c :: text) = (node :: items, ending, behind) := by
  have hbracket : c ≠ ']' := hc.2.2.1
  unfold readItems
  cases first with
  | true =>
    simp only [separator, if_true, List.nil_append, skipGaps_of_opens hc]
    split <;> simp_all
  | false =>
    have hcomma : skipGaps (separator false ++ c :: text) = ',' :: c :: text := rfl
    simp only [hcomma, skipGaps_of_opens hc]
    split <;> simp_all

theorem readItems_end : readItems (fuel + 1) first (']' :: rest) = ([], .closed, rest) := by
  unfold readItems
  cases first <;> rfl

/-- A field is read, its name first, and then the rest of its object. -/
theorem readEntries_entry {name : String} {node : Node}
    {entries : List (Except Fault String × Node)} {ending : ObjectEnd Node}
    (hnode : readNode fuel text = (node, rest))
    (hentries : readEntries fuel false rest = (entries, ending, behind)) :
    readEntries (fuel + 1) first (separator first ++ (writeText name ++ ':' :: text)) =
      ((.ok name, node) :: entries, ending, behind) := by
  have hwritten : writeText name ++ ':' :: text =
      '"' :: (name.toList.flatMap escape ++ '"' :: ':' :: text) := by
    simp [writeText]
  have hquote (rest : List Char) : skipGaps ('"' :: rest) = '"' :: rest := rfl
  have hcolon : skipGaps (':' :: text) = ':' :: text := rfl
  unfold readEntries
  cases first with
  | true =>
    simp only [separator, if_true, List.nil_append, hwritten, hquote]
    split <;> simp_all [readTextNode_escape]
  | false =>
    have hcomma (rest : List Char) : skipGaps (separator false ++ rest) = ',' :: rest := rfl
    simp only [hcomma, hwritten, hquote]
    split <;> simp_all [readTextNode_escape]

theorem readEntries_end :
    readEntries (fuel + 1) first ('\x7d' :: rest) = ([], .closed, rest) := by
  unfold readEntries
  cases first <;> rfl

/-! ## Written values -/

theorem ended_writeItems (items : List Value) (rest : List Char) :
    Ended (writeItems false items ++ rest) := by
  cases items <;> simp [Ended, writeItems]

theorem ended_writeFields (fields : List (String × Value)) (rest : List Char) :
    Ended (writeFields false fields ++ rest) := by
  cases fields with
  | nil => simp [Ended, writeFields]
  | cons field fields =>
    obtain ⟨name, value⟩ := field
    simp [Ended, writeFields]

theorem write_length_pos {depth : Nat} {v : Value} (h : v.Plain depth) : 0 < v.write.length := by
  obtain ⟨c, rest, heq, -⟩ := opens_write h
  simp [heq]

/-- Fuel that is kept for a bound and more has a step to take. -/
theorem exists_step {bound fuel : Nat} (h : bound < fuel) :
    ∃ left, fuel = left + 1 ∧ bound ≤ left :=
  ⟨fuel - 1, by omega, by omega⟩

mutual

/-- **A written value is read as its node**, and what stands behind it is left. -/
theorem readNode_write {depth fuel : Nat} {rest : List Char} : (v : Value) → v.Plain depth →
    2 * v.write.length ≤ fuel → Ended rest → readNode fuel (v.write ++ rest) = (v.node, rest)
  | .null, h, hfuel, _ => by
    have := write_length_pos h
    obtain ⟨fuel, rfl, -⟩ := exists_step (show 0 < fuel by omega)
    rfl
  | .bool value, h, hfuel, _ => by
    have := write_length_pos h
    obtain ⟨fuel, rfl, -⟩ := exists_step (show 0 < fuel by omega)
    cases value <;> rfl
  | .number value, h, hfuel, hrest => by
    have := write_length_pos h
    obtain ⟨fuel, rfl, -⟩ := exists_step (show 0 < fuel by omega)
    obtain ⟨n, hn, rfl⟩ := h
    -- only a numeral does not say by itself where it ends
    exact (readNode_digits fuel n rest).trans (readNumber_decimalDigits hn hrest)
  | .text value, h, hfuel, _ => by
    have := write_length_pos h
    obtain ⟨fuel, rfl, -⟩ := exists_step (show 0 < fuel by omega)
    have hwrite : (Value.text value).write ++ rest =
        '"' :: (value.toList.flatMap escape ++ '"' :: rest) := by
      simp [Value.write, writeText]
    have hquote : readNode (fuel + 1) ('"' :: (value.toList.flatMap escape ++ '"' :: rest)) =
        readTextNode (value.toList.flatMap escape ++ '"' :: rest) := rfl
    rw [hwrite, hquote, readTextNode_escape]
    rfl
  | .array items, h, hfuel, _ => by
    rw [Value.write, List.length_cons] at hfuel
    obtain ⟨fuel, rfl, hleft⟩ := exists_step
      (show 2 * (writeItems true items).length < fuel by omega)
    have hopen : readNode (fuel + 1) ('[' :: (writeItems true items ++ rest)) =
        let (items, ending, rest) := readItems fuel true (writeItems true items ++ rest)
        (.array items ending, rest) := rfl
    rw [Value.write, List.cons_append, hopen, readItems_write items h.2 hleft]
    rfl
  | .object fields, h, hfuel, _ => by
    rw [Value.write, List.length_cons] at hfuel
    obtain ⟨fuel, rfl, hleft⟩ := exists_step
      (show 2 * (writeFields true fields).length < fuel by omega)
    have hopen : readNode (fuel + 1) ('\x7b' :: (writeFields true fields ++ rest)) =
        let (entries, ending, rest) := readEntries fuel true (writeFields true fields ++ rest)
        (.object entries ending, rest) := rfl
    rw [Value.write, List.cons_append, hopen, readEntries_write fields h.2 hleft]
    rfl

theorem readItems_write {depth fuel : Nat} {first : Bool} {rest : List Char} :
    (items : List Value) → ItemsPlain depth items → 2 * (writeItems first items).length ≤ fuel →
    readItems fuel first (writeItems first items ++ rest) = (itemNodes items, .closed, rest)
  | [], _, hfuel => by
    obtain ⟨fuel, rfl, -⟩ := exists_step (show 1 < fuel from hfuel)
    exact readItems_end
  | item :: items, h, hfuel => by
    -- the item and the rest share the fuel: either is shorter than the array
    obtain ⟨c, text, heq, hc⟩ := opens_write h.1
    have hitem := write_length_pos h.1
    have hitems : 0 < (writeItems false items).length := by cases items <;> simp [writeItems]
    have hlength : (writeItems first (item :: items)).length =
        (separator first).length + (item.write.length + (writeItems false items).length) := by
      simp [writeItems, separator]
    obtain ⟨fuel, rfl, hleft⟩ := exists_step
      (show 2 * (item.write.length + (writeItems false items).length) - 1 < fuel by omega)
    have hnode : readNode fuel (item.write ++ (writeItems false items ++ rest)) =
        (item.node, writeItems false items ++ rest) :=
      readNode_write item h.1 (by omega) (ended_writeItems items rest)
    have hrest : readItems fuel false (writeItems false items ++ rest) =
        (itemNodes items, .closed, rest) :=
      readItems_write items h.2 (by omega)
    have htext : writeItems first (item :: items) ++ rest =
        separator first ++ c :: (text ++ (writeItems false items ++ rest)) := by
      simp [writeItems, separator, heq]
    rw [heq, List.cons_append] at hnode
    rw [htext, readItems_item hc hnode hrest]
    rfl

theorem readEntries_write {depth fuel : Nat} {first : Bool} {rest : List Char} :
    (fields : List (String × Value)) → FieldsPlain depth fields →
    2 * (writeFields first fields).length ≤ fuel →
    readEntries fuel first (writeFields first fields ++ rest) = (entryNodes fields, .closed, rest)
  | [], _, hfuel => by
    obtain ⟨fuel, rfl, -⟩ := exists_step (show 1 < fuel from hfuel)
    exact readEntries_end
  | (name, value) :: fields, h, hfuel => by
    have hlength : (writeFields first ((name, value) :: fields)).length =
        (separator first).length + ((writeText name).length + (value.write.length + 1 +
          (writeFields false fields).length)) := by
      simp [writeFields, separator]
      omega
    obtain ⟨fuel, rfl, hleft⟩ := exists_step
      (show 2 * (value.write.length + (writeFields false fields).length) < fuel by omega)
    have hnode : readNode fuel (value.write ++ (writeFields false fields ++ rest)) =
        (value.node, writeFields false fields ++ rest) :=
      readNode_write value h.1 (by omega) (ended_writeFields fields rest)
    have hrest : readEntries fuel false (writeFields false fields ++ rest) =
        (entryNodes fields, .closed, rest) :=
      readEntries_write fields h.2 (by omega)
    have htext : writeFields first ((name, value) :: fields) ++ rest =
        separator first ++
          (writeText name ++ ':' :: (value.write ++ (writeFields false fields ++ rest))) := by
      simp [writeFields, separator]
    rw [htext, readEntries_entry hnode hrest]
    rfl

end

/-! ## Lines -/

/-- No escape has a control character in it. -/
theorem not_control_of_mem_escape (c : Char) : ∀ d ∈ escape c, 0x20 ≤ d.toNat := by
  unfold escape
  split
  · rename_i letter h
    obtain ⟨-, -, hletter⟩ := unescape?_shortEscape? h
    simpa +decide using hletter
  · split
    · have hdigit : ∀ n : Fin 0x20, 0x20 ≤ (hexDigit (n / 16)).toNat ∧ 0x20 ≤ (hexDigit n).toNat := by
        decide
      have := hdigit ⟨c.toNat, ‹_›⟩
      simp_all +decide
    · simp only [List.mem_singleton, forall_eq]
      omega

theorem not_control_of_mem_writeText (text : String) : ∀ c ∈ writeText text, 0x20 ≤ c.toNat := by
  simp only [writeText, List.cons_append, List.forall_mem_cons, List.forall_mem_append,
    List.mem_flatMap]
  refine ⟨by decide, ?_, by decide, List.forall_mem_nil _⟩
  rintro c ⟨d, -, hc⟩
  exact not_control_of_mem_escape d c hc

mutual

/-- A written value has no control characters: those of its strings are escaped. -/
theorem not_control_of_mem_write {depth : Nat} : (v : Value) → v.Plain depth →
    ∀ c ∈ v.write, 0x20 ≤ c.toNat
  | .null, _ => List.forall_iff_forall_mem.1 (by decide)
  | .bool value, _ => List.forall_iff_forall_mem.1 (by cases value <;> decide)
  | .number value, h => by
    obtain ⟨n, -, rfl⟩ := h
    exact forall_mem_decimalDigits (by decide) n
  | .text value, _ => not_control_of_mem_writeText value
  | .array items, h => by
    rw [Value.write, List.forall_mem_cons]
    exact ⟨by decide, not_control_of_mem_writeItems items h.2⟩
  | .object fields, h => by
    rw [Value.write, List.forall_mem_cons]
    exact ⟨by decide, not_control_of_mem_writeFields fields h.2⟩

theorem not_control_of_mem_writeItems {depth : Nat} {first : Bool} : (items : List Value) →
    ItemsPlain depth items → ∀ c ∈ writeItems first items, 0x20 ≤ c.toNat
  | [], _ => List.forall_mem_singleton.2 (by decide)
  | item :: items, h => by
    simp only [writeItems, List.forall_mem_append]
    exact ⟨⟨List.forall_iff_forall_mem.1 (by cases first <;> decide),
      not_control_of_mem_write item h.1⟩,
      not_control_of_mem_writeItems items h.2⟩

theorem not_control_of_mem_writeFields {depth : Nat} {first : Bool} :
    (fields : List (String × Value)) → FieldsPlain depth fields →
    ∀ c ∈ writeFields first fields, 0x20 ≤ c.toNat
  | [], _ => List.forall_mem_singleton.2 (by decide)
  | (name, value) :: fields, h => by
    simp only [writeFields, List.forall_mem_append, List.forall_mem_cons]
    exact ⟨⟨⟨List.forall_iff_forall_mem.1 (by cases first <;> decide),
      not_control_of_mem_writeText name⟩, by decide,
      not_control_of_mem_write value h.1⟩, not_control_of_mem_writeFields fields h.2⟩

end

/-! ## The standard library -/

/-- The whole text of a value is read, and there is fuel enough for it. -/
theorem readDocument_written {depth : Nat} {v : Value} (h : v.Plain depth) :
    readDocument v.written = (v.node, false) := by
  have hread : readNode (2 * v.write.length + 2) (v.write ++ []) = (v.node, []) :=
    readNode_write v h (by omega) (by simp [Ended])
  rw [List.append_nil] at hread
  simp only [readDocument, Value.written, String.toList_ofList, hread]
  rfl

/-- **The standard library is faithful.** -/
theorem Library.standard_faithful : Library.standard.Faithful := by
  refine ⟨fun {levels v} h c hc => ?_, fun {levels v} h _ => ?_⟩
  · change c ∈ v.written.toList at hc
    rw [Value.written, String.toList_ofList] at hc
    exact not_control_of_mem_write v h c hc
  · change readDocument v.written = (v.node, false)
    exact readDocument_written h

end SpectralBench.Json
