import SpectralBench.Cpu.Axis
import SpectralBench.Proofs.Geometry.Rows
import Mathlib.Logic.ExistsUnique
import Mathlib.Tactic.Ring

/-!
# Sweeps along an axis

A sweep maps the lines of an axis in place, one after another, so a line is gathered from an array in
which other lines are mapped already. The places of an axis are the positions of the array, each of
them once. So what was written belongs to other lines, and every line is gathered as it was when the
sweep began.

Main statements:

* `Place.existsUnique_inside` — every position is one element of one line.
* `SweptUpTo.next` — what mapping one line keeps to, and `sweptUpTo_sweep` what a whole sweep does.
* `lineThrough_swept` — every line is gathered as it was when the sweep began.
* `getElem?_sweep` — every element comes from what its own line is mapped to.
-/

namespace SpectralBench.Cpu

/-! ## Places of an axis -/

/-- The place of a position. -/
def Place.ofPosition (length stride position : Nat) : Place :=
  ⟨position / (length * stride), position / stride % length, position % stride⟩

theorem Place.position_ofPosition (length stride position : Nat) :
    (ofPosition length stride position).position length stride = position := by
  unfold ofPosition Place.position
  have h1 := Nat.div_add_mod position stride
  have h2 := Nat.div_add_mod (position / stride) length
  have h3 : position / stride / length = position / (length * stride) := by
    rw [Nat.div_div_eq_div_mul, Nat.mul_comm]
  rw [h3] at h2
  dsimp only
  generalize position / (length * stride) = a at *
  generalize position / stride % length = b at *
  have h4 : a * (length * stride) = stride * (length * a) := by
    rw [Nat.mul_comm length stride, ← Nat.mul_assoc, Nat.mul_comm a stride, Nat.mul_assoc,
      Nat.mul_comm a length]
  have h5 : stride * (position / stride) = stride * (length * a) + stride * b := by
    rw [← h2, Nat.mul_add]
  rw [h4, Nat.mul_comm b stride]
  omega

namespace Place

variable {blocks length stride position : ℕ} {place other : Place}

/-- Whether a place is one of an axis of the given length and stride, in so many blocks. -/
structure Inside (blocks length stride : ℕ) (place : Place) : Prop where
  block_lt : place.block < blocks
  index_lt : place.index < length
  offset_lt : place.offset < stride

/-- The elements of the blocks of an axis lie one after another. -/
theorem position_lt {blocks length stride : ℕ} (place : Place) (hblock : place.block < blocks)
    (hindex : place.index < length) (hoffset : place.offset < stride) :
    place.position length stride < blocks * (length * stride) := by
  calc place.position length stride
      < place.block * (length * stride) + place.index * stride + stride :=
        Nat.add_lt_add_left hoffset _
    _ = place.block * (length * stride) + (place.index + 1) * stride := by ring
    _ ≤ place.block * (length * stride) + length * stride :=
        Nat.add_le_add_left (Nat.mul_le_mul_right _ hindex) _
    _ = (place.block + 1) * (length * stride) := by ring
    _ ≤ blocks * (length * stride) := Nat.mul_le_mul_right _ hblock

theorem Inside.position_lt (h : place.Inside blocks length stride) :
    place.position length stride < blocks * (length * stride) :=
  Place.position_lt place h.block_lt h.index_lt h.offset_lt

/-- The position of a place leads back to that place. -/
theorem ofPosition_position (place : Place) (hindex : place.index < length)
    (hoffset : place.offset < stride) :
    ofPosition length stride (place.position length stride) = place := by
  have hposition : place.position length stride =
      (place.block * length + place.index) * stride + place.offset := by
    rw [Place.position]
    ring
  have hrow : place.position length stride / stride = place.block * length + place.index := by
    rw [hposition, Rows.place_div hoffset]
  rw [ofPosition, Nat.mul_comm length, ← Nat.div_div_eq_div_mul, hrow, hposition,
    Rows.place_div hindex, Rows.place_mod hindex, Rows.place_mod hoffset]

theorem Inside.eq_of_position_eq (h : place.Inside blocks length stride)
    (hother : other.Inside blocks length stride)
    (heq : place.position length stride = other.position length stride) : place = other := by
  rw [← ofPosition_position place h.index_lt h.offset_lt, heq,
    ofPosition_position other hother.index_lt hother.offset_lt]

theorem inside_ofPosition (h : position < blocks * (length * stride)) :
    (ofPosition length stride position).Inside blocks length stride := by
  have hpos : 0 < length * stride := Nat.pos_of_mul_pos_left (Nat.zero_lt_of_lt h)
  exact ⟨Nat.div_lt_of_lt_mul (by rwa [Nat.mul_comm]), Nat.mod_lt _ (Nat.pos_of_mul_pos_right hpos),
    Nat.mod_lt _ (Nat.pos_of_mul_pos_left hpos)⟩

/-- The places of an axis are the positions of an array, each of them once. -/
theorem existsUnique_inside (h : position < blocks * (length * stride)) :
    ∃! place : Place, place.Inside blocks length stride ∧
      place.position length stride = position := by
  refine ⟨ofPosition length stride position, ⟨inside_ofPosition h, position_ofPosition ..⟩, ?_⟩
  rintro place ⟨hinside, rfl⟩
  exact (ofPosition_position place hinside.index_lt hinside.offset_lt).symm

/-- Whether a sweep comes to the line of a place before it comes to another line. -/
def IsBefore (place : Place) (block offset : ℕ) : Prop :=
  place.block < block ∨ place.block = block ∧ place.offset < offset

theorem not_isBefore_self (place : Place) : ¬ place.IsBefore place.block place.offset := by
  unfold IsBefore
  omega

theorem isBefore_succ {block offset : ℕ} : place.IsBefore block (offset + 1) ↔
    place.IsBefore block offset ∨ block = place.block ∧ offset = place.offset := by
  unfold IsBefore
  omega

/-- Behind the last line of a block comes the first one of the next. -/
theorem isBefore_next {block : ℕ} (hoffset : place.offset < stride) :
    place.IsBefore (block + 1) 0 ↔ place.IsBefore block stride := by
  unfold IsBefore
  omega

end Place

/-! ## Sweeps as functions -/

section Definitions

variable {α : Type}

/-- The line through a place. -/
def lineThrough [Inhabited α] (length stride : Nat) (data : Array α) (place : Place) : Array α :=
  Array.ofFn fun i : Fin length =>
    data.getD ({ place with index := i }.position length stride) default

/-- Writes the first elements of a line back to where they were gathered. What the line is too short
for stays. -/
def putLine (length stride : Nat) (place : Place) (values : Array α) (count : Nat) (data : Array α) :
    Array α :=
  count.fold (fun i _ data =>
    match values[i]? with
    | some value => data.setIfInBounds ({ place with index := i }.position length stride) value
    | none => data) data

/-- Maps the line through a place, in place. -/
def mapLine [Inhabited α] (length stride : Nat) (f : Array α → Array α) (place : Place)
    (data : Array α) : Array α :=
  putLine length stride place (f (lineThrough length stride data place)) length data

/-- Maps the first lines of a block, by their offsets. -/
def sweepBlock [Inhabited α] (length stride : Nat) (f : Array α → Array α) (block offsets : Nat)
    (data : Array α) : Array α :=
  offsets.fold (fun offset _ => mapLine length stride f ⟨block, 0, offset⟩) data

/-- Maps every line along an axis of the given length and stride, block by block. -/
def sweep [Inhabited α] (blocks length stride : Nat) (f : Array α → Array α) (data : Array α) :
    Array α :=
  blocks.fold (fun block _ => sweepBlock length stride f block stride) data

theorem size_lineThrough [Inhabited α] (length stride : Nat) (data : Array α) (place : Place) :
    (lineThrough length stride data place).size = length :=
  Array.size_ofFn

theorem putLine_succ (length stride : Nat) (place : Place) (values : Array α) (n : Nat)
    (data : Array α) :
    putLine length stride place values (n + 1) data =
      match values[n]? with
      | some value => (putLine length stride place values n data).setIfInBounds
          ({ place with index := n }.position length stride) value
      | none => putLine length stride place values n data :=
  rfl

theorem size_putLine (length stride : Nat) (place : Place) (values : Array α) (count : Nat)
    (data : Array α) : (putLine length stride place values count data).size = data.size := by
  induction count with
  | zero => rfl
  | succ n ih =>
    rw [putLine_succ]
    split
    · rw [Array.size_setIfInBounds, ih]
    · exact ih

theorem size_sweepBlock [Inhabited α] (length stride : Nat) (f : Array α → Array α)
    (block offsets : Nat) (data : Array α) :
    (sweepBlock length stride f block offsets data).size = data.size := by
  unfold sweepBlock
  induction offsets with
  | zero => rfl
  | succ n ih =>
    rw [Nat.fold_succ, mapLine, size_putLine]
    exact ih

theorem size_sweep [Inhabited α] (blocks length stride : Nat) (f : Array α → Array α)
    (data : Array α) : (sweep blocks length stride f data).size = data.size := by
  unfold sweep
  induction blocks with
  | zero => rfl
  | succ n ih =>
    rw [Nat.fold_succ, size_sweepBlock]
    exact ih

end Definitions

variable {α : Type} {blocks length stride : ℕ} {place : Place}

/-! ## Writing a line back -/

section Line

variable {values data : Array α}

/-- Other lines are left alone. -/
theorem getElem?_putLine_of_ne {block offset count : ℕ} (hblock : block < blocks)
    (hoffset : offset < stride) (hinside : place.Inside blocks length stride)
    (hne : ¬ (block = place.block ∧ offset = place.offset)) (hcount : count ≤ length) :
    (putLine length stride ⟨block, 0, offset⟩ values count data)[place.position length stride]? =
      data[place.position length stride]? := by
  induction count with
  | zero => rfl
  | succ n ih =>
    have hrest := ih (Nat.le_of_succ_le hcount)
    have hother : Place.position length stride ⟨block, n, offset⟩ ≠ place.position length stride := by
      intro heq
      have hwritten : (⟨block, n, offset⟩ : Place).Inside blocks length stride :=
        ⟨hblock, hcount, hoffset⟩
      obtain rfl := hwritten.eq_of_position_eq hinside heq
      exact hne ⟨rfl, rfl⟩
    rw [putLine_succ]
    split
    · rw [Array.getElem?_setIfInBounds_ne hother, hrest]
    · exact hrest

/-- An element is written when its index is reached, and stays then. -/
theorem getElem?_putLine (hinside : place.Inside blocks length stride)
    (hsize : data.size = blocks * (length * stride)) {count : ℕ} (hcount : count ≤ length) :
    (putLine length stride place values count data)[place.position length stride]? =
      if place.index < count then values[place.index]?.or data[place.position length stride]?
      else data[place.position length stride]? := by
  induction count with
  | zero => exact (if_neg (Nat.not_lt_zero _)).symm
  | succ n ih =>
    have hrest := ih (Nat.le_of_succ_le hcount)
    rw [putLine_succ]
    obtain rfl | hne := eq_or_ne n place.index
    · -- the element is due, and was not written before
      rw [if_neg (Nat.lt_irrefl _)] at hrest
      rw [if_pos (Nat.lt_succ_self _)]
      cases values[place.index]? with
      | none => exact hrest
      | some value =>
        have hbound : place.position length stride <
            (putLine length stride place values place.index data).size := by
          rw [size_putLine, hsize]
          exact hinside.position_lt
        exact Array.getElem?_setIfInBounds_self_of_lt hbound
    · have hother : ({ place with index := n } : Place).position length stride ≠
          place.position length stride := by
        intro heq
        have hwritten : ({ place with index := n } : Place).Inside blocks length stride :=
          ⟨hinside.block_lt, hcount, hinside.offset_lt⟩
        exact hne (congrArg Place.index (hwritten.eq_of_position_eq hinside heq))
      have hreached : place.index < n + 1 ↔ place.index < n := by omega
      rw [if_congr hreached rfl rfl, ← hrest]
      cases values[n]? with
      | none => rfl
      | some value => exact Array.getElem?_setIfInBounds_ne hother

end Line

/-! ## Sweeps -/

section Sweep

variable [Inhabited α] {f : Array α → Array α} {block offset : ℕ} {before mid after : Array α}

/-- Whether the lines that come before one of them are mapped, and all others are as they were. -/
structure SweptUpTo (blocks length stride : ℕ) (f : Array α → Array α) (block offset : ℕ)
    (before after : Array α) : Prop where
  size_eq : after.size = before.size
  mapped : ∀ place : Place, place.Inside blocks length stride → place.IsBefore block offset →
    after[place.position length stride]? =
      (f (lineThrough length stride before place))[place.index]?.or
        before[place.position length stride]?
  spared : ∀ place : Place, place.Inside blocks length stride → ¬ place.IsBefore block offset →
    after[place.position length stride]? = before[place.position length stride]?

namespace SweptUpTo

/-- A line that is not mapped yet is gathered as it was. -/
theorem lineThrough_eq (h : SweptUpTo blocks length stride f block offset before after)
    (hblock : place.block < blocks) (hoffset : place.offset < stride)
    (hbefore : ¬ place.IsBefore block offset) :
    lineThrough length stride after place = lineThrough length stride before place := by
  rw [lineThrough, lineThrough]
  congr 1
  funext i
  rw [Array.getD_eq_getD_getElem?, Array.getD_eq_getD_getElem?,
    h.spared { place with index := i } ⟨hblock, i.isLt, hoffset⟩ hbefore]

theorem refl (f : Array α → Array α) (before : Array α) :
    SweptUpTo blocks length stride f 0 0 before before where
  size_eq := rfl
  mapped place _ hbefore := by
    obtain hbefore | ⟨-, hbefore⟩ := hbefore <;> exact absurd hbefore (Nat.not_lt_zero _)
  spared _ _ _ := rfl

/-- The next line of a sweep. -/
theorem next (h : SweptUpTo blocks length stride f block offset before mid)
    (hsize : before.size = blocks * (length * stride)) (hblock : block < blocks)
    (hoffset : offset < stride) :
    SweptUpTo blocks length stride f block (offset + 1) before
      (mapLine length stride f ⟨block, 0, offset⟩ mid) where
  size_eq := (size_putLine ..).trans h.size_eq
  mapped place hinside hbefore := by
    by_cases hdue : block = place.block ∧ offset = place.offset
    · obtain ⟨rfl, rfl⟩ := hdue
      -- the line that is due was not written to, and is gathered as it was
      rw [← h.lineThrough_eq hblock hoffset place.not_isBefore_self,
        ← h.spared place hinside place.not_isBefore_self]
      exact (getElem?_putLine hinside (h.size_eq.trans hsize) le_rfl).trans
        (if_pos hinside.index_lt)
    · rw [mapLine, getElem?_putLine_of_ne hblock hoffset hinside hdue le_rfl]
      exact h.mapped place hinside ((Place.isBefore_succ.1 hbefore).resolve_right hdue)
  spared place hinside hbefore := by
    rw [Place.isBefore_succ, not_or] at hbefore
    rw [mapLine, getElem?_putLine_of_ne hblock hoffset hinside hbefore.2 le_rfl]
    exact h.spared place hinside hbefore.1

/-- The lines of a block, by induction on how many of them are mapped. -/
theorem sweepBlock (h : SweptUpTo blocks length stride f block 0 before mid)
    (hsize : before.size = blocks * (length * stride)) (hblock : block < blocks)
    (hoffset : offset ≤ stride) :
    SweptUpTo blocks length stride f block offset before
      (sweepBlock length stride f block offset mid) := by
  induction offset with
  | zero => exact h
  | succ n ih => exact (ih (Nat.le_of_succ_le hoffset)).next hsize hblock hoffset

/-- A block whose lines are all mapped is behind a sweep. -/
theorem nextBlock (h : SweptUpTo blocks length stride f block stride before after) :
    SweptUpTo blocks length stride f (block + 1) 0 before after where
  size_eq := h.size_eq
  mapped place hinside hbefore :=
    h.mapped place hinside ((Place.isBefore_next hinside.offset_lt).1 hbefore)
  spared place hinside hbefore :=
    h.spared place hinside fun hstride =>
      hbefore ((Place.isBefore_next hinside.offset_lt).2 hstride)

end SweptUpTo

section Run

variable (f) (hsize : before.size = blocks * (length * stride))

include hsize

/-- The whole blocks of a sweep, by induction on how many there are. -/
theorem sweptUpTo_sweep (hblock : block ≤ blocks) :
    SweptUpTo blocks length stride f block 0 before (sweep block length stride f before) := by
  induction block with
  | zero => exact .refl f before
  | succ n ih =>
    exact ((ih (Nat.le_of_succ_le hblock)).sweepBlock hsize hblock le_rfl).nextBlock

/-- What a sweep has done when it comes to a line. -/
theorem sweptUpTo_sweepBlock (hblock : block < blocks) (hoffset : offset ≤ stride) :
    SweptUpTo blocks length stride f block offset before
      (sweepBlock length stride f block offset (sweep block length stride f before)) :=
  (sweptUpTo_sweep f hsize hblock.le).sweepBlock hsize hblock hoffset

/-- Every line is gathered as it was when the sweep began. -/
theorem lineThrough_swept (place : Place) (hblock : place.block < blocks)
    (hoffset : place.offset < stride) :
    lineThrough length stride
        (sweepBlock length stride f place.block place.offset
          (sweep place.block length stride f before)) place =
      lineThrough length stride before place :=
  (sweptUpTo_sweepBlock f hsize hblock hoffset.le).lineThrough_eq hblock hoffset
    place.not_isBefore_self

/-- Every element comes from what its own line is mapped to. -/
theorem getElem?_sweep (hinside : place.Inside blocks length stride) :
    (sweep blocks length stride f before)[place.position length stride]? =
      (f (lineThrough length stride before place))[place.index]?.or
        before[place.position length stride]? :=
  (sweptUpTo_sweep f hsize le_rfl).mapped place hinside (.inl hinside.block_lt)

end Run

/-- Two blocks, in which lines of three elements lie side by side. -/
example : sweep 2 3 2 Array.reverse #[0, 1, 2, 3, 4, 5, 6, 7, 8, 9, 10, 11] =
    #[4, 5, 2, 3, 0, 1, 10, 11, 8, 9, 6, 7] := by
  decide +kernel

end Sweep

end SpectralBench.Cpu
