import SpectralBench.Proofs.Configuration
import SpectralBench.Proofs.Decimal.Numeral
import SpectralBench.Proofs.Geometry
import SpectralBench.Proofs.Text
import Mathlib.Data.List.Forall2

/-!
# Which texts spell an extent

A text spells an extent if, without the blanks around it and cut at its separators, each of its
pieces is a numeral with blanks around it, and the lengths are one to three positive words. The
reader accepts exactly these texts. Of the others, those with a piece that is no numeral of a word
are called unreadable, whatever the number of pieces, and those whose lengths make up no extent are
refused for that reason.

Main statements:

* `isPiecewise_iff`, `isLength_iff` — the grammar, and what the reader computes.
* `lengths?_eq_some_iff` — the lengths that a text spells.
* `read_follows_grammar` — what is read, what is refused and why, and that what was read is written
  so that it reads the same.
-/

namespace SpectralBench.Extent

open Decimal

variable {piece text : List Char} {pieces : List (List Char)}

/-! ## The grammar -/

/-- Whether a piece is a numeral of a word, with blanks around it. -/
def IsLength (piece : List Char) (value : ℕ) : Prop :=
  ∃ numeral, Text.TrimsTo piece numeral ∧ IsNumeral numeral value ∧ value < Word.count

/-- The pieces of a text between separators, without the blanks around the text. -/
def IsPiecewise (text : List Char) (pieces : List (List Char)) : Prop :=
  ∃ core, Text.TrimsTo text core ∧ Text.Cut isSeparator core pieces

theorem isPiecewise_iff :
    IsPiecewise text pieces ↔ Text.split isSeparator (Text.trim text) = pieces := by
  constructor
  · rintro ⟨core, hcore, hcut⟩
    rw [Text.trim_eq_iff.2 hcore, Text.split_eq_iff.2 hcut]
  · intro h
    exact ⟨_, Text.trim_eq_iff.1 rfl, Text.split_eq_iff.1 h⟩

theorem isLength_iff {word : UInt64} :
    IsLength piece word.toNat ↔ (readNatural (Text.trim piece)).toOption = some word := by
  constructor
  · rintro ⟨numeral, hnumeral, hword, -⟩
    rw [hnumeral.trim_eq, readNatural_eq_ok_iff.2 hword]
    rfl
  · intro h
    cases hread : readNatural (Text.trim piece) with
    | error fault =>
      rw [hread] at h
      cases h
    | ok found =>
      rw [hread] at h
      cases h
      exact ⟨_, Text.trimsTo_trim piece, readNatural_eq_ok_iff.1 hread, word.toNat_lt⟩

theorem IsLength.eq_toNat {value : ℕ} (h : IsLength piece value) :
    (UInt64.ofNat value).toNat = value := by
  obtain ⟨-, -, -, hvalue⟩ := h
  exact UInt64.toNat_ofNat_of_lt' hvalue

theorem not_isLength_iff :
    (∀ value, ¬IsLength piece value) ↔ (readNatural (Text.trim piece)).toOption = none := by
  rw [readNatural_eq_none_iff]
  constructor
  · intro h value hvalue hnumeral
    exact h value ⟨_, Text.trimsTo_trim piece, hnumeral, hvalue⟩
  · rintro h value ⟨numeral, hnumeral, hvalue, hword⟩
    rw [hnumeral.trim_eq] at h
    exact h value hword hvalue

/-! ## Lengths -/

/-- Reading pieces one by one succeeds with what each of them is read as. -/
theorem mapM_eq_some_iff {α β : Type} {f : α → Option β} {items : List α} {results : List β} :
    items.mapM f = some results ↔ List.Forall₂ (fun item result => f item = some result) items
      results := by
  induction items generalizing results with
  | nil =>
    rw [List.mapM_nil, List.forall₂_nil_left_iff]
    exact ⟨fun h => (Option.some.inj h).symm, fun h => congrArg some h.symm⟩
  | cons item items ih =>
    rw [List.mapM_cons, List.forall₂_cons_left_iff]
    constructor
    · intro h
      obtain ⟨result, hresult, h⟩ := Option.bind_eq_some_iff.1 h
      obtain ⟨others, hothers, h⟩ := Option.bind_eq_some_iff.1 h
      exact ⟨result, others, hresult, ih.1 hothers, (Option.some.inj h).symm⟩
    · rintro ⟨result, others, hresult, hothers, rfl⟩
      rw [hresult, ih.2 hothers]
      rfl

/-- The lengths that a text spells are those of its pieces. -/
theorem lengths?_eq_some_iff (hpieces : IsPiecewise text pieces) {dims : List UInt64} :
    lengths? text = some dims ↔ List.Forall₂ IsLength pieces (dims.map (·.toNat)) := by
  rw [lengths?, isPiecewise_iff.1 hpieces, mapM_eq_some_iff, List.forall₂_map_right_iff]
  simp only [isLength_iff]

/-- A piece that is no length makes the text unreadable. -/
theorem lengths?_eq_none (hpieces : IsPiecewise text pieces) {piece : List Char}
    (hmem : piece ∈ pieces) (hpiece : ∀ value, ¬IsLength piece value) : lengths? text = none := by
  cases hread : lengths? text with
  | none => rfl
  | some dims =>
    obtain ⟨before, after, rfl⟩ := List.append_of_mem hmem
    have hall := (lengths?_eq_some_iff hpieces).1 hread
    have hrest := List.forall₂_drop before.length hall
    rw [List.drop_left] at hrest
    obtain ⟨value, -, hlength, -⟩ := List.forall₂_cons_left_iff.1 hrest
    exact absurd hlength (hpiece value)

/-- Lengths of pieces are words. -/
theorem map_toNat_ofNat {lengths : List ℕ} (h : List.Forall₂ IsLength pieces lengths) :
    (lengths.map UInt64.ofNat).map (·.toNat) = lengths := by
  induction h with
  | nil => rfl
  | cons hlength _ ih => rw [List.map_cons, List.map_cons, ih, hlength.eq_toNat]

/-! ## Reading -/

/-- If each piece is a length, the lengths decide. -/
theorem read_of_lengths {text : String} (hpieces : IsPiecewise text.toList pieces)
    {lengths : List ℕ} (hlengths : List.Forall₂ IsLength pieces lengths) :
    read text = ofList (lengths.map .ofNat) := by
  have hwords : List.Forall₂ IsLength pieces ((lengths.map UInt64.ofNat).map (·.toNat)) := by
    rwa [map_toNat_ofNat hlengths]
  rw [read, (lengths?_eq_some_iff hpieces).2 hwords]

theorem read_of_not_isLength {text : String} (hpieces : IsPiecewise text.toList pieces)
    {piece : List Char} (hmem : piece ∈ pieces) (hpiece : ∀ value, ¬IsLength piece value) :
    read text = .error (.invalidExtent [] ("cannot parse " ++ Text.quoted text)) := by
  rw [read, lengths?_eq_none hpieces hmem hpiece]
  rfl

/-- Whether a text spells some lengths: one for each of its pieces, in order. -/
def Spells (text : List Char) (lengths : List ℕ) : Prop :=
  ∃ pieces, IsPiecewise text pieces ∧ List.Forall₂ IsLength pieces lengths

theorem read_eq_ok_iff {text : String} {e : Extent} :
    read text = .ok e ↔ Spells text.toList e.sizes := by
  constructor
  · intro h
    rw [read] at h
    split at h
    · rename_i dims hdims
      refine ⟨_, isPiecewise_iff.2 rfl, ?_⟩
      rw [sizes, dims_of_ofList h]
      exact (lengths?_eq_some_iff (isPiecewise_iff.2 rfl)).1 hdims
    · cases h
  · rintro ⟨pieces, hpieces, hlengths⟩
    rw [read, (lengths?_eq_some_iff hpieces).2 hlengths]
    exact ofList_dims e

theorem exists_read_iff {text : String} :
    (∃ e, read text = .ok e) ↔ ∃ lengths, Spells text.toList lengths ∧
      1 ≤ lengths.length ∧ lengths.length ≤ 3 ∧ ∀ d ∈ lengths, 1 ≤ d := by
  constructor
  · rintro ⟨e, h⟩
    have hrank : e.sizes.length = e.rank := List.length_map ..
    refine ⟨e.sizes, read_eq_ok_iff.1 h, ?_, ?_, e.sizes_pos⟩
    · rw [hrank]
      exact e.rank_pos
    · rw [hrank]
      exact e.rank_le
  · rintro ⟨lengths, ⟨pieces, hpieces, hlengths⟩, hsome, hfew, hpos⟩
    have hwords := map_toNat_ofNat hlengths
    have hwordsPos : ∀ d ∈ lengths.map UInt64.ofNat, 0 < d := by
      intro d hd
      have hmem : d.toNat ∈ (lengths.map UInt64.ofNat).map (·.toNat) := List.mem_map_of_mem hd
      rw [hwords] at hmem
      exact UInt64.lt_iff_toNat_lt.2 (hpos _ hmem)
    have hne : lengths.map UInt64.ofNat ≠ [] := by
      rw [ne_eq, List.map_eq_nil_iff]
      exact List.ne_nil_of_length_pos hsome
    have hle : (lengths.map UInt64.ofNat).length ≤ 3 := by rwa [List.length_map]
    rw [read_of_lengths hpieces hlengths]
    exact ⟨_, ofList_dims ⟨_, hne, hle, hwordsPos⟩⟩

/-- **Reading follows the grammar.** For every text:

* It is in pieces in exactly one way. It is read exactly if these spell one to three positive words,
  and it is read as the extent whose lengths they spell, in order.
* With a piece that is no numeral of a word it is unreadable, and the failure quotes the whole text.
  Otherwise it is read as the list of its lengths is.
* Every extent is written so that it reads as itself, so what was read and is written reads the
  same. -/
theorem read_follows_grammar (text : String) :
    (∃! pieces, IsPiecewise text.toList pieces) ∧
      (∀ e, read text = .ok e ↔ Spells text.toList e.sizes) ∧
      ((∃ e, read text = .ok e) ↔ ∃ lengths, Spells text.toList lengths ∧
        1 ≤ lengths.length ∧ lengths.length ≤ 3 ∧ ∀ d ∈ lengths, 1 ≤ d) ∧
      (∀ pieces, IsPiecewise text.toList pieces →
        ((∃ piece ∈ pieces, ∀ value, ¬IsLength piece value) →
          read text = .error (.invalidExtent [] ("cannot parse " ++ Text.quoted text))) ∧
        ∀ lengths, List.Forall₂ IsLength pieces lengths →
          read text = ofList (lengths.map .ofNat)) ∧
      (∀ e : Extent, read e.text = .ok e) ∧
      ∀ e, read text = .ok e → read e.text = read text := by
  refine ⟨⟨_, isPiecewise_iff.2 rfl, fun pieces h => (isPiecewise_iff.1 h).symm⟩,
    fun e => read_eq_ok_iff, exists_read_iff, fun pieces hpieces => ⟨?_, ?_⟩, read_text, ?_⟩
  · rintro ⟨piece, hmem, hpiece⟩
    exact read_of_not_isLength hpieces hmem hpiece
  · exact fun lengths hlengths => read_of_lengths hpieces hlengths
  · intro e h
    rw [read_text, h]

/-- Of two separators side by side, the piece between them is no length. -/
theorem read_follows_grammar_doubled :
    read " 4xX2" = .error (.invalidExtent [] "cannot parse \" 4xX2\"") := by
  have hpieces : IsPiecewise " 4xX2".toList [['4'], [], ['2']] :=
    isPiecewise_iff.2 (by decide)
  have hempty : ∀ value, ¬IsLength [] value := not_isLength_iff.2 (by decide)
  obtain ⟨-, -, -, hcases, -, -⟩ := read_follows_grammar " 4xX2"
  exact (hcases _ hpieces).1 ⟨[], by decide, hempty⟩

end SpectralBench.Extent
