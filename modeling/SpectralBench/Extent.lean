import SpectralBench.Decimal.Natural
import SpectralBench.Failure
import SpectralBench.Text.Blank

/-!
# Extents

The extents of a transform are one to three positive lengths, the last of them contiguous in
memory. They are written with `x` between the lengths; a comma separates as well.

Main statements:

* `ofList_dims` — the lengths of an extent make up that extent.
-/

namespace SpectralBench

/-- The lengths of a transform's axes, outermost first. -/
structure Extent where
  dims : List UInt64
  dims_ne_nil : dims ≠ []
  rank_le : dims.length ≤ 3
  dims_pos : ∀ d ∈ dims, 0 < d
  deriving DecidableEq

namespace Extent

/-- The largest number of axes. -/
def maxRank : Nat := 3

/-- Why a list of lengths, or a text, is no extent. -/
inductive Defect where
  | rank (given : Nat)
  | zero
  | unreadable (text : String)
  | overflow (quantity : String)
  deriving DecidableEq, Repr

def Defect.message : Defect → String
  | .rank given => s!"rank must be 1..={maxRank}, got {given}"
  | .zero => "every extent must be positive"
  | .unreadable text => s!"cannot parse {Text.quoted text}"
  | .overflow quantity => s!"{quantity} overflows 64 bits"

/-- The extent with the given lengths. The number of axes is checked first. -/
def ofList (dims : List UInt64) : Except Failure Extent :=
  if hr : dims ≠ [] ∧ dims.length ≤ 3 then
    if hp : dims.all (0 < ·) then
      .ok ⟨dims, hr.1, hr.2, fun d hd => of_decide_eq_true (List.all_eq_true.1 hp d hd)⟩
    else .error (.invalidExtent (dims.map (·.toNat)) Defect.zero.message)
  else .error (.invalidExtent (dims.map (·.toNat)) (Defect.rank dims.length).message)

theorem ofList_dims (e : Extent) : ofList e.dims = .ok e := by
  have hr : e.dims ≠ [] ∧ e.dims.length ≤ 3 := ⟨e.dims_ne_nil, e.rank_le⟩
  rw [ofList, dif_pos hr, dif_pos (List.all_eq_true.2 fun d hd => decide_eq_true (e.dims_pos d hd))]

theorem dims_of_ofList {dims : List UInt64} {e : Extent} (h : ofList dims = .ok e) :
    e.dims = dims := by
  unfold ofList at h
  split at h
  · split at h
    · simp only [Except.ok.injEq] at h; rw [← h]
    · simp at h
  · simp at h

/-- The lengths as natural numbers. -/
def sizes (e : Extent) : List Nat :=
  e.dims.map (·.toNat)

def rank (e : Extent) : Nat :=
  e.dims.length

/-- The length of the contiguous axis. -/
def last (e : Extent) : Nat :=
  (e.dims.getLast e.dims_ne_nil).toNat

/-- The lengths of the other axes. -/
def outer (e : Extent) : List Nat :=
  e.sizes.dropLast

theorem rank_pos (e : Extent) : 0 < e.rank :=
  List.length_pos_iff.2 e.dims_ne_nil

theorem last_pos (e : Extent) : 0 < e.last := by
  have := e.dims_pos _ (List.getLast_mem e.dims_ne_nil)
  simpa [last, UInt64.lt_iff_toNat_lt] using this

theorem sizes_ne_nil (e : Extent) : e.sizes ≠ [] := by
  simpa [sizes] using e.dims_ne_nil

theorem outer_append_last (e : Extent) : e.outer ++ [e.last] = e.sizes := by
  have h := List.dropLast_concat_getLast e.sizes_ne_nil
  simpa [outer, last, sizes, List.getLast_map] using h

/-- The written form: the lengths with `x` between them. -/
def text (e : Extent) : String :=
  "x".intercalate (e.sizes.map toString)

/-- The characters that separate lengths. -/
def isSeparator (c : Char) : Bool :=
  c = 'x' || c = 'X' || c = ','

/-- The lengths that a text spells, if each of its pieces is a numeral. -/
def lengths? (text : List Char) : Option (List UInt64) :=
  (Text.split isSeparator (Text.trim text)).mapM fun piece =>
    (Decimal.readNatural (Text.trim piece)).toOption

/-- Reads an extent. A piece that is no numeral makes the whole text unreadable. -/
def read (text : String) : Except Failure Extent :=
  match lengths? text.toList with
  | some dims => ofList dims
  | none => .error (.invalidExtent [] (Defect.unreadable text).message)

end Extent

end SpectralBench
