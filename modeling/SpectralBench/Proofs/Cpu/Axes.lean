import SpectralBench.Proofs.Cpu.Complex
import SpectralBench.Proofs.Cpu.Loops
import SpectralBench.Proofs.Cpu.Passes
import SpectralBench.Proofs.Cpu.Rows
import SpectralBench.Proofs.Geometry
import Mathlib.Algebra.BigOperators.Fin
import Mathlib.LinearAlgebra.Pi

/-!
# Linear transforms along axes

The transforms of an array are passes over its entries: that of every line along an outer axis, and
that of every row, whose lines are the ones of stride one. What a pass mixes by is the kernel of the
line transform, which is read off a linear map. What the loops over several axes leave is one such
transform after another, from the outermost axis on.

Main statements:

* `getElem?_alongAxis` — an element of an array that was transformed along an axis, whatever the
  transform of a line is.
* `sweep_eq_alongAxis` — it makes no difference whether lines are mapped at once or one by one.
* `entries_alongAxis`, `entries_mapRows` — transforms that act by a kernel are passes.
* `actsBy_kernelOf`, `undoes_kernelOf` — linear maps act by their kernels, and undo each other when
  their kernels do.
* `transformOuter_leaves` — the loops along leading axes succeed, and transform along one axis after
  another.
* `entries_alongAxes` — linear transforms along several axes are passes along them.
-/

namespace SpectralBench.Cpu

/-- Maps every line along an axis of the given length and stride at once. The lines are numbered block
by block, and by offset inside a block. -/
def alongAxis {α : Type} [Inhabited α] (length stride : ℕ) (f : Array α → Array α) (data : Array α) :
    Array α :=
  let lines := Array.ofFn fun line : Fin (data.size / length) =>
    f (lineThrough length stride data ⟨line / stride, 0, line % stride⟩)
  data.mapIdx fun position old =>
    let place := Place.ofPosition length stride position
    ((lines[place.block * stride + place.offset]?).bind (·[place.index]?)).getD old

theorem size_alongAxis {α : Type} [Inhabited α] (length stride : ℕ) (f : Array α → Array α)
    (data : Array α) : (alongAxis length stride f data).size = data.size := by
  simp [alongAxis]

/-- The line of an array through a position. -/
def lineAt {α : Type} [Inhabited α] (length stride : ℕ) (data : Array α) (position : ℕ) : Array α :=
  Array.ofFn fun i : Fin length => data.getD (onLine length stride position i) default

theorem size_lineAt {α : Type} [Inhabited α] (length stride : ℕ) (data : Array α) (position : ℕ) :
    (lineAt length stride data position).size = length :=
  Array.size_ofFn

/-- The line that the loop takes up for a position is the line through it. -/
theorem lineThrough_ofPosition {α : Type} [Inhabited α] (length stride : ℕ) (data : Array α)
    (position : ℕ) :
    lineThrough length stride data (.ofPosition length stride position) =
      lineAt length stride data position := by
  rw [lineThrough, lineAt]
  congr 1
  funext i
  congr 1
  rw [Place.position, Place.ofPosition, onLine, Nat.div_div_eq_div_mul, Nat.mul_comm stride]
  ring

/-- The place that the loop computes for a position is on the line through it. -/
theorem lineThrough_eq {α : Type} [Inhabited α] {length stride : ℕ} (hstride : 0 < stride)
    (data : Array α) (position : ℕ) :
    lineThrough length stride data
        ⟨(position / (length * stride) * stride + position % stride) / stride, 0,
          (position / (length * stride) * stride + position % stride) % stride⟩ =
      lineAt length stride data position := by
  -- the number of a line counts blocks in its quotient, and places within them in its remainder
  have hoffset := Nat.mod_lt position hstride
  rw [Rows.place_div hoffset, Rows.place_mod hoffset]
  exact lineThrough_ofPosition ..

/-- Every element comes from the transform of its own line. -/
theorem getElem?_alongAxis {α : Type} [Inhabited α] {length stride position : ℕ}
    (hlength : 0 < length) (hstride : 0 < stride) {data : Array α}
    (hsize : length * stride ∣ data.size) (hposition : position < data.size)
    (f : Array α → Array α) :
    (alongAxis length stride f data)[position]? =
      some (((f (lineAt length stride data position))[position / stride % length]?).getD
        data[position]) := by
  -- the number of the line, among those that the axis has
  have hline : position / (length * stride) * stride + position % stride < data.size / length := by
    obtain ⟨count, hcount⟩ := hsize
    have hblock : position / (length * stride) < count :=
      Nat.div_lt_of_lt_mul (by rwa [← hcount])
    rw [hcount, Nat.mul_assoc, Nat.mul_div_cancel_left _ hlength]
    calc position / (length * stride) * stride + position % stride
        < position / (length * stride) * stride + stride :=
          Nat.add_lt_add_left (Nat.mod_lt _ hstride) _
      _ = (position / (length * stride) + 1) * stride := by ring
      _ ≤ count * stride := Nat.mul_le_mul_right _ hblock
      _ = stride * count := Nat.mul_comm _ _
  rw [alongAxis]
  dsimp only
  rw [Array.getElem?_mapIdx, Array.getElem?_eq_getElem hposition, Option.map_some]
  dsimp only [Place.ofPosition]
  rw [Array.getElem?_ofFn, dif_pos hline, Option.bind_some, lineThrough_eq hstride]

/-- It makes no difference that a sweep maps one line after another. -/
theorem sweep_eq_alongAxis {α : Type} [Inhabited α] {blocks length stride : ℕ} {data : Array α}
    (hsize : data.size = blocks * (length * stride)) (f : Array α → Array α) :
    sweep blocks length stride f data = alongAxis length stride f data := by
  apply Array.ext_getElem?
  intro i
  obtain hi | hi := Nat.lt_or_ge i data.size
  · have hinside := Place.inside_ofPosition (hsize ▸ hi)
    have hspot := getElem?_sweep f hsize hinside
    rw [Place.position_ofPosition, lineThrough_ofPosition] at hspot
    rw [hspot, getElem?_alongAxis (Nat.zero_lt_of_lt hinside.index_lt)
      (Nat.zero_lt_of_lt hinside.offset_lt) (hsize ▸ Nat.dvd_mul_left ..) hi,
      Array.getElem?_eq_getElem hi, Option.or_some]
    rfl
  · rw [Array.getElem?_eq_none (by rwa [size_sweep]),
      Array.getElem?_eq_none (by rwa [size_alongAxis])]

/-- The rows of an array are its lines along the contiguous axis. -/
theorem mapRows_eq_alongAxis {α : Type} [Inhabited α] {length count : ℕ} (hlength : 0 < length)
    {data : Array α} (hsize : data.size = count * length) {f : Array α → Array α}
    (hf : ∀ line, line.size = length → (f line).size = length) :
    mapRows length f data = alongAxis length 1 f data := by
  have hmapped := size_mapRows hlength hsize hf
  have hwhole : length * 1 ∣ data.size := by
    rw [hsize, Nat.mul_one]
    exact Nat.dvd_mul_left length count
  apply Array.ext_getElem?
  intro i
  obtain hi | hi := Nat.lt_or_ge i (count * length)
  · have hrow : i / length < count := Nat.div_lt_of_lt_mul (by rwa [Nat.mul_comm])
    have hindex : i % length < length := Nat.mod_lt i hlength
    -- with stride one, the line through a position is the row that it is in
    have hline : rowAt length data (i / length) = lineAt length 1 data i := by
      apply Array.ext_getElem?
      intro k
      obtain hk | hk := Nat.lt_or_ge k length
      · have hplace : i / length * length + k < data.size := by
          have hnext := Nat.mul_le_mul_right length (Nat.succ_le_of_lt hrow)
          rw [Nat.succ_mul] at hnext
          omega
        rw [getElem?_rowAt data _ hk, lineAt, Array.getElem?_ofFn, dif_pos hk, onLine, Nat.div_one,
          Nat.mul_one, Nat.mod_one, Nat.add_zero, Array.getD_eq_getD_getElem?,
          Array.getElem?_eq_getElem hplace]
        rfl
      · rw [Array.getElem?_eq_none (by rw [size_rowAt hsize hrow]; exact hk),
          Array.getElem?_eq_none (by rw [size_lineAt]; exact hk)]
    -- a transform that keeps the length leaves no place to fill from the old data
    have hfull : i % length < (f (lineAt length 1 data i)).size := by
      rw [hf _ (size_lineAt ..)]
      exact hindex
    have hspot : (mapRows length f data)[i]? = (f (rowAt length data (i / length)))[i % length]? := by
      rw [← rowAt_mapRows hlength hsize hf hrow, getElem?_rowAt _ _ hindex, Nat.div_add_mod']
    rw [hspot, hline, getElem?_alongAxis hlength Nat.one_pos hwhole (by rw [hsize]; exact hi),
      Nat.div_one, Array.getElem?_eq_getElem hfull]
    rfl
  · rw [Array.getElem?_eq_none (hmapped ▸ hi),
      Array.getElem?_eq_none (by rw [size_alongAxis, hsize]; exact hi)]

/-! ## Along several axes -/

section Several

variable {α : Type} [Zero α] {lengths : List ℕ} {plans : List (LinePlan α)}
  {fs : List (Array (Complex α) → Array (Complex α))}

/-- Transforms along leading axes, one function of lines for each. -/
def alongAxes : List ℕ → List (Array (Complex α) → Array (Complex α)) → Array (Complex α) →
    Array (Complex α)
  | length :: inner, f :: fs, data =>
    alongAxes inner fs (alongAxis length (Word.product inner) f data)
  | _, _, data => data

theorem size_alongAxes (lengths : List ℕ) (fs : List (Array (Complex α) → Array (Complex α)))
    (data : Array (Complex α)) : (alongAxes lengths fs data).size = data.size := by
  fun_induction alongAxes lengths fs data with
  | case1 length inner f fs data ih => rw [ih, size_alongAxis]
  | case2 => rfl

/-- By induction on the plans: what the axes before have left is transformed along the next one. -/
theorem transformAxes_leaves {line scratch : ℕ} (operation : String)
    (h : Suited line scratch lengths plans fs) (outer : List ℕ) {desk : Desk α}
    (hline : desk.line.size = line) (hscratch : desk.scratch.size = scratch)
    (hsize : desk.data.size = Word.product (outer ++ lengths)) :
    Leaves (transformAxes operation (outer ++ lengths) outer.length plans) desk
      (alongAxes lengths fs desk.data) := by
  induction h generalizing outer desk with
  | @nil shape =>
    refine ⟨desk, rfl, ?_, rfl, rfl⟩
    cases shape <;> rfl
  | @cons d plan f inner plans fs head tail ih =>
    subst hline hscratch
    obtain ⟨mid, -, hmid, hrest⟩ := transformAxes_cons operation plans head hsize
    have hshape : outer ++ [d] ++ inner = outer ++ d :: inner := by simp
    obtain ⟨after, hgives, hafter⟩ := ih (outer ++ [d]) hmid.size_line hmid.size_scratch
      (by rw [hmid.data_eq, size_sweep, hsize, hshape])
    rw [hshape, List.length_append] at hgives
    refine ⟨after, hrest.trans hgives, ?_⟩
    rw [Word.product_append, Word.product_cons] at hsize
    rw [hmid.data_eq, sweep_eq_alongAxis hsize] at hafter
    exact hmid.trans hafter

/-- A transform along the leading axes of an array of the shape succeeds. -/
theorem transformOuter_leaves (operation : String) {desk : Desk α}
    (h : Suited desk.line.size desk.scratch.size lengths plans fs)
    (hsize : desk.data.size = Word.product lengths) :
    Leaves (transformOuter operation lengths plans) desk (alongAxes lengths fs desk.data) := by
  obtain ⟨after, hgives, hafter⟩ := transformAxes_leaves operation h [] rfl rfl hsize
  exact ⟨after, (transformOuter_of_size operation hsize).trans hgives, hafter⟩

end Several

/-! ## Entries -/

section Entries

variable {K : Type} [CommRing K]

/-- The elements of an array as a function of the position, zero behind the end. -/
def entries (data : Array (Complex K)) (position : ℕ) : Complex K :=
  data.getD position 0

/-- Behind the end of an array there is nothing. -/
theorem entries_behind {data : Array (Complex K)} {position : ℕ} (h : data.size ≤ position) :
    entries data position = 0 := by
  rw [entries, Array.getD_eq_getD_getElem?, Array.getElem?_eq_none h]
  rfl

theorem entries_ofFn {d : ℕ} (v : Fin d → Complex K) (i : Fin d) :
    entries (Array.ofFn v) i = v i := by
  rw [entries, Array.getD_eq_getD_getElem?, Array.getElem?_ofFn, dif_pos i.isLt]
  rfl

/-- Arrays of one size with the same entries are the same. -/
theorem ext_entries {left right : Array (Complex K)} (hsize : left.size = right.size)
    (h : entries left = entries right) : left = right := by
  refine Array.ext hsize fun i hleft hright => ?_
  have hi := congrFun h i
  rw [entries, entries, Array.getD_eq_getD_getElem?, Array.getD_eq_getD_getElem?,
    Array.getElem?_eq_getElem hleft, Array.getElem?_eq_getElem hright] at hi
  exact hi

theorem entries_map (c : Complex K) (data : Array (Complex K)) :
    entries (data.map (c * ·)) = c • entries data := by
  funext position
  change (data.map (c * ·)).getD position 0 = c * data.getD position 0
  rw [Array.getD_eq_getD_getElem?, Array.getD_eq_getD_getElem?, Array.getElem?_map]
  cases data[position]? with
  | none => exact (mul_zero c).symm
  | some _ => rfl

/-- Whether a transform of lines mixes their elements by a kernel. -/
def ActsBy (length : ℕ) (kernel : ℕ → ℕ → Complex K)
    (f : Array (Complex K) → Array (Complex K)) : Prop :=
  ∀ line, line.size = length → (f line).size = length ∧
    ∀ k < length, entries (f line) k = ∑ i ∈ Finset.range length, kernel k i * entries line i

variable {length stride : ℕ} {kernel : ℕ → ℕ → Complex K} {f : Array (Complex K) → Array (Complex K)}
  {data : Array (Complex K)}

/-- A transform that acts by a kernel acts along an axis by a pass with that kernel. -/
theorem entries_alongAxis (hlength : 0 < length) (hstride : 0 < stride)
    (hf : ActsBy length kernel f) (hsize : length * stride ∣ data.size) :
    entries (alongAxis length stride f data) = pass length stride kernel (entries data) := by
  funext position
  obtain hposition | hposition := Nat.lt_or_ge position data.size
  · have hindex : position / stride % length < length := Nat.mod_lt _ hlength
    obtain ⟨hfull, hline⟩ := hf (lineAt length stride data position) (size_lineAt ..)
    have hspot := hline _ hindex
    rw [entries, Array.getD_eq_getD_getElem?,
      Array.getElem?_eq_getElem (by rw [hfull]; exact hindex)] at hspot
    rw [entries, Array.getD_eq_getD_getElem?,
      getElem?_alongAxis hlength hstride hsize hposition,
      Array.getElem?_eq_getElem (by rw [hfull]; exact hindex)]
    refine hspot.trans (Finset.sum_congr rfl fun i hi => ?_)
    rw [lineAt,
      entries_ofFn (fun i : Fin length => data.getD (onLine length stride position i) default)
        ⟨i, Finset.mem_range.1 hi⟩]
    rfl
  · -- behind the end a line stays behind the end
    obtain ⟨beyond, rfl⟩ := Nat.exists_eq_add_of_le hposition
    rw [entries_behind (by rw [size_alongAxis]; exact hposition), pass]
    refine (Finset.sum_eq_zero fun i _ => ?_).symm
    rw [onLine_add hlength hstride hsize, entries_behind (Nat.le_add_right ..), mul_zero]

/-- The rows are the lines of the last axis, whose stride is one. -/
theorem entries_mapRows {count : ℕ} (hlength : 0 < length) (hf : ActsBy length kernel f)
    (hsize : data.size = count * length) :
    entries (mapRows length f data) = pass length 1 kernel (entries data) := by
  rw [mapRows_eq_alongAxis hlength hsize fun line hline => (hf line hline).1]
  refine entries_alongAxis hlength Nat.one_pos hf ?_
  rw [hsize, Nat.mul_one]
  exact Nat.dvd_mul_left length count

/-! ## Linear maps -/

/-- What a linear map makes of the unit lines. -/
def kernelOf {d : ℕ} (F : (Fin d → Complex K) →ₗ[Complex K] (Fin d → Complex K)) (k i : ℕ) :
    Complex K :=
  if h : k < d ∧ i < d then F (fun j => if ⟨i, h.2⟩ = j then 1 else 0) ⟨k, h.1⟩ else 0

theorem sum_kernelOf {d : ℕ} (F : (Fin d → Complex K) →ₗ[Complex K] (Fin d → Complex K))
    (y : ℕ → Complex K) (k : Fin d) :
    ∑ i ∈ Finset.range d, kernelOf F k i * y i = F (fun i => y i) k := by
  rw [LinearMap.pi_apply_eq_sum_univ F, Finset.sum_apply, Finset.sum_range]
  refine Finset.sum_congr rfl fun i _ => ?_
  rw [kernelOf, dif_pos ⟨k.isLt, i.isLt⟩, Pi.smul_apply, smul_eq_mul, mul_comm]

/-- A linear transform of lines acts by its matrix. -/
theorem actsBy_kernelOf {d : ℕ} {F : (Fin d → Complex K) →ₗ[Complex K] (Fin d → Complex K)}
    (hF : ∀ v, f (Array.ofFn v) = Array.ofFn (F v)) : ActsBy d (kernelOf F) f := by
  rintro line rfl
  -- every line is a vector of its own length
  have hline : line = Array.ofFn fun i : Fin line.size => entries line i := by
    refine Array.ext Array.size_ofFn.symm fun i hi _ => ?_
    rw [Array.getElem_ofFn, entries, Array.getD_eq_getD_getElem?, Array.getElem?_eq_getElem hi]
    rfl
  have happly := hF fun i => entries line i
  rw [← hline] at happly
  refine ⟨happly ▸ Array.size_ofFn, fun k hk => ?_⟩
  rw [happly, sum_kernelOf F (entries line) ⟨k, hk⟩]
  exact entries_ofFn _ ⟨k, hk⟩

/-- If one linear transform undoes another up to a factor, so do their matrices. -/
theorem undoes_kernelOf {d : ℕ} {F B : (Fin d → Complex K) →ₗ[Complex K] (Fin d → Complex K)}
    {c : Complex K} (h : ∀ v, B (F v) = c • v) : Undoes d c (kernelOf B) (kernelOf F) := by
  intro k hk i hi
  -- a column of the kernel is what the map makes of a unit line
  have hcolumn : (fun j : Fin d => kernelOf F j i) = F fun j => if ⟨i, hi⟩ = j then 1 else 0 := by
    funext j
    rw [kernelOf, dif_pos ⟨j.isLt, hi⟩]
  rw [sum_kernelOf B (fun j => kernelOf F j i) ⟨k, hk⟩, hcolumn, h, Pi.smul_apply, smul_eq_mul,
    mul_ite, mul_one, mul_zero]
  simp only [Fin.mk.injEq, eq_comm]

/-! ## Several axes -/

variable {f : ℕ → Array (Complex K) → Array (Complex K)} {kernels : ℕ → ℕ → ℕ → Complex K}
  {width : ℕ} {lengths : List ℕ}

/-- Transforms along several axes are the passes along them, from the outermost one on. -/
theorem entries_alongAxes (blocks : ℕ) (hwidth : 0 < width) (hpos : ∀ d ∈ lengths, 0 < d)
    (hf : ∀ d ∈ lengths, ActsBy d (kernels d) (f d))
    (hsize : data.size = blocks * Word.product (lengths ++ [width])) :
    entries (alongAxes (lengths ++ [width]) (lengths.map f) data) =
      passes kernels width lengths (entries data) := by
  induction lengths generalizing blocks data with
  | nil => rfl
  | cons d inner ih =>
    have hd := hpos d List.mem_cons_self
    have hinner : ∀ e ∈ inner, 0 < e := fun e he => hpos e (List.mem_cons_of_mem d he)
    have hstride : Word.product (inner ++ [width]) = Word.product inner * width :=
      Word.product_concat inner width
    have hstridePos : 0 < Word.product inner * width := Nat.mul_pos (Word.product_pos hinner) hwidth
    rw [List.cons_append, Word.product_cons] at hsize
    -- the pass keeps the size, and makes smaller blocks of it
    have hnext : (alongAxis d (Word.product (inner ++ [width])) (f d) data).size =
        blocks * d * Word.product (inner ++ [width]) := by
      rw [size_alongAxis, hsize, Nat.mul_assoc]
    rw [List.cons_append, List.map_cons, alongAxes,
      ih _ hinner (fun e he => hf e (List.mem_cons_of_mem d he)) hnext]
    rw [hstride] at hsize ⊢
    rw [entries_alongAxis hd hstridePos (hf d List.mem_cons_self) (hsize ▸ Nat.dvd_mul_left ..)]
    rfl

end Entries

end SpectralBench.Cpu
