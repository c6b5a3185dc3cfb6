import SpectralBench.Configuration
import SpectralBench.Proofs.Decimal
import Mathlib.Data.List.Basic

/-!
# Parameters read back

Every parameter has a written form, and a reader that was made for what people type. The reader
gives back whatever was written: titles and labels differ from the names of their values in case
alone, and the lengths of an extent are numerals between letters that no numeral contains.

Main statements:

* `Kind.read_title`, `Placement.read_title`, `Precision.read_label` — a title or label reads as its
  value.
* `Extent.read_text` — the written form of an extent reads as that extent.
-/

namespace SpectralBench

/-- A label is read in any case that folds to a name. -/
theorem readLabel_of_folded {α : Type} (expected : Labelled) {named? : String → Option α}
    {text name : String} {value : α} (hfolded : Text.folded text = name)
    (hnamed : named? name = some value) : readLabel expected named? text = .ok value := by
  simp only [readLabel, hfolded, hnamed]

theorem Kind.read_title (kind : Kind) : Kind.read kind.title = .ok kind :=
  readLabel_of_folded .kind (by cases kind <;> decide +kernel) (named?_label kind)

theorem Placement.read_title (placement : Placement) :
    Placement.read placement.title = .ok placement :=
  readLabel_of_folded .placement (by cases placement <;> decide +kernel) (named?_label placement)

theorem Precision.read_label (precision : Precision) :
    Precision.read precision.label = .ok precision :=
  readLabel_of_folded .precision (by cases precision <;> decide +kernel) (named?_label precision)

namespace Extent

open Decimal

/-! ## Numerals between separators -/

/-- The numerals of an extent's lengths. -/
def numerals (e : Extent) : List (List Char) :=
  e.dims.map fun d => decimalDigits d.toNat

/-- An extent is shown as its numerals with a cross between any two. -/
theorem toList_text (e : Extent) : e.text.toList = ['x'].intercalate e.numerals := by
  have hnumeral : (String.toList ∘ toString) ∘ UInt64.toNat = fun d => decimalDigits d.toNat := by
    funext d
    exact Nat.toList_repr
  rw [text, String.toList_intercalate, sizes, List.map_map, List.map_map]
  exact congrArg (fun f => ['x'].intercalate (e.dims.map f)) hnumeral

theorem numerals_ne_nil (e : Extent) : e.numerals ≠ [] := by
  simpa [numerals] using e.dims_ne_nil

/-- What holds of the ten digits holds of every character of the numerals. -/
theorem forall_mem_numerals {P : Char → Prop} (h : ∀ d : Fin 10, P (Nat.digitChar d)) (e : Extent) :
    ∀ numeral ∈ e.numerals, ∀ c ∈ numeral, P c := by
  intro numeral hn
  obtain ⟨d, -, rfl⟩ := List.mem_map.1 hn
  exact forall_mem_decimalDigits h d.toNat

theorem not_isBlank_of_mem_text (e : Extent) : ∀ c ∈ e.text.toList, Text.isBlank c = false := by
  rw [toList_text]
  exact Text.forall_mem_intercalate (List.forall_iff_forall_mem.1 (by decide))
    (forall_mem_numerals (by decide) e)

/-- What is shown of an extent falls into its numerals again: none of them has a separator in it. -/
theorem pieces_text (e : Extent) :
    Text.split isSeparator (Text.trim e.text.toList) = e.numerals := by
  rw [Text.trim_of_forall_not e.not_isBlank_of_mem_text, toList_text]
  exact Text.split_intercalate e.numerals_ne_nil (forall_mem_numerals (by decide) e) (by decide)

/-! ## Reading -/

/-- The numerals are read back as the lengths that they stand for. -/
theorem lengths?_text (e : Extent) : lengths? e.text.toList = some e.dims := by
  have hnumeral (d : UInt64) :
      (readNatural (Text.trim (decimalDigits d.toNat))).toOption = some d := by
    rw [Text.trim_of_forall_not (forall_mem_decimalDigits (by decide) d.toNat),
      readNatural_decimalDigits d.toNat_lt, UInt64.ofNat_toNat]
    rfl
  rw [lengths?, pieces_text, numerals, List.mapM_map]
  simp only [Function.comp_def, hnumeral]
  exact (List.mapM_pure (f := id)).trans (congrArg some (List.map_id _))

/-- An extent is read back from what is shown of it. -/
theorem read_text (e : Extent) : read e.text = .ok e := by
  simp only [read, lengths?_text, ofList_dims]

end Extent

end SpectralBench
