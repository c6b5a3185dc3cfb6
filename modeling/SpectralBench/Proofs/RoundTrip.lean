import SpectralBench.Proofs.Geometry
import SpectralBench.RoundTrip.Deviation

/-!
# The scalars of a round trip

Bytes are read scalar by scalar, and so many bytes hold as many scalars as fit into them. A transfer
is a whole number of scalars and at least one, so the input and any output of its size hold equally
many, nothing is left over at the end, and their deviation can always be measured.

Main statements:

* `chunks_eq` — the chunks of a list in closed form, by recursion on what is left.
* `Geometry.IsExact.size_stimulus` — a stimulus is one transfer.
* `Geometry.IsExact.deviation_eq` — the deviation of buffers of one transfer is that of the
  differences of their scalars.
-/

namespace SpectralBench

/-! ## Chunks -/

theorem chunks_eq {α : Type} {size : Nat} (hsize : 0 < size) (items : List α) :
    chunks size items =
      (List.range (items.length / size)).map fun k => (items.drop (k * size)).take size := by
  fun_induction chunks size items with
  | case1 items h ih =>
    have hcount : items.length / size = (items.drop size).length / size + 1 := by
      rw [List.length_drop, Nat.div_eq_sub_div hsize h.2]
    -- the first chunk is split off, and every other one begins a chunk later
    rw [ih, hcount, List.range_succ_eq_map, List.map_cons, List.map_map, Nat.zero_mul, List.drop_zero]
    refine congrArg _ (List.map_congr_left fun k _ => ?_)
    rw [Function.comp_apply, List.drop_drop, Nat.succ_mul, Nat.add_comm]
  | case2 items h =>
    have hshort : items.length < size := by omega
    rw [Nat.div_eq_of_lt hshort]
    rfl

namespace Precision

/-- The scalar at a position of a buffer. -/
def scalarAt (precision : Precision) (bytes : Array UInt8) (position : Nat) : Binary.Double :=
  precision.ofBytes ((bytes.toList.drop (position * precision.realSize)).take precision.realSize)

theorem numbers_eq (precision : Precision) (bytes : Array UInt8) :
    precision.numbers bytes.toList =
      (List.range (bytes.size / precision.realSize)).map (precision.scalarAt bytes) := by
  rw [numbers, chunks_eq precision.realSize_pos, List.map_map, Array.length_toList]
  rfl

end Precision

namespace Geometry

variable {g : Geometry}

/-! ## How many there are -/

theorem IsExact.scalarCount_eq (hg : g.IsExact) :
    g.scalarCount = g.count * if g.kind.isReal then 1 else 2 := by
  rw [scalarCount, hg.transferSize_eq, valueSize_eq, ← Nat.mul_assoc,
    Nat.mul_div_cancel _ (Precision.realSize_pos _)]

theorem IsExact.scalarCount_of_real (hg : g.IsExact) (hreal : g.kind = .real) :
    g.scalarCount = Word.product g.extent.outer * g.extent.last := by
  rw [hg.scalarCount_eq, hg.count_eq_mul, hreal]
  exact Nat.mul_one _

theorem IsExact.scalarCount_mul (hg : g.IsExact) :
    g.scalarCount * g.precision.realSize = g.transferSize := by
  rw [hg.scalarCount_eq, hg.transferSize_eq, valueSize_eq, Nat.mul_assoc]

theorem IsExact.scalarCount_pos (hg : g.IsExact) : 0 < g.scalarCount := by
  rw [hg.scalarCount_eq]
  refine Nat.mul_pos hg.count_pos ?_
  split <;> decide

/-- The stimulus of a seed, scalar after scalar. -/
theorem toList_stimulus (toHalf : Binary.Double → UInt16) (g : Geometry) (seed : UInt64) :
    (g.stimulus toHalf seed).toList = (List.range g.scalarCount).flatMap fun position =>
      g.precision.toBytes toHalf (Random.fraction (Random.numerator seed position)) := by
  have hdraws : (Random.numerators seed g.scalarCount).toList =
      (List.range g.scalarCount).map (Random.numerator seed) := by
    refine List.ext_getElem ?_ fun position hposition _ => ?_
    · rw [Array.length_toList, Random.size_numerators, List.length_map, List.length_range]
    · rw [Array.getElem_toList, Random.numerators_getElem, List.getElem_map, List.getElem_range]
  rw [stimulus, Array.toList_flatMap, hdraws, List.flatMap_map]

/-- A stimulus is one transfer. -/
theorem IsExact.size_stimulus (hg : g.IsExact) (toHalf : Binary.Double → UInt16) (seed : UInt64) :
    (g.stimulus toHalf seed).size = g.transferSize := by
  rw [← Array.length_toList, toList_stimulus, List.length_flatMap]
  simp only [Precision.length_toBytes, List.map_const', List.sum_replicate_nat, List.length_range]
  exact hg.scalarCount_mul

/-! ## How far they are apart -/

variable {input output : Array UInt8}

/-- The difference of an output from the input at a position, the output scaled back. -/
def difference (g : Geometry) (input output : Array UInt8) (normalized : Bool) (position : Nat) :
    Binary.Double :=
  ((g.precision.scalarAt output position).mul (g.outputScale normalized)).sub
    (g.precision.scalarAt input position)

/-- Buffers of one transfer have a deviation, which is that of the differences at all positions. -/
theorem IsExact.deviation_eq (hg : g.IsExact) (hinput : input.size = g.transferSize)
    (houtput : output.size = g.transferSize) (normalized : Bool) :
    g.deviation input output normalized = .ok (.ofDifferences
      ((List.range g.scalarCount).map (g.difference input output normalized))) := by
  have hscalars (bytes : Array UInt8) (hbytes : bytes.size = g.transferSize) :
      g.precision.numbers bytes.toList =
        (List.range g.scalarCount).map (g.precision.scalarAt bytes) := by
    rw [Precision.numbers_eq, hbytes]
    rfl
  have hsome : (g.precision.numbers input.toList).isEmpty = false := by
    rw [hscalars input hinput, List.isEmpty_eq_false_iff_exists_mem]
    exact ⟨_, List.mem_map_of_mem (List.mem_range.2 hg.scalarCount_pos)⟩
  have hcheck (bytes : Array UInt8) (hbytes : bytes.size = g.transferSize) :
      g.checkTransfer "validate" bytes.size = .ok () := by
    rw [checkTransfer, if_pos hbytes]
  unfold deviation
  rw [hcheck input hinput, hcheck output houtput]
  dsimp only [bind, Except.bind]
  rw [if_neg (by rw [hsome]; exact Bool.false_ne_true), hscalars input hinput,
    hscalars output houtput, List.zipWith_map, List.zipWith_self]
  rfl

end Geometry

end SpectralBench
