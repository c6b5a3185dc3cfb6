import SpectralBench.Journal.Csv
import SpectralBench.Proofs.Configuration
import SpectralBench.Proofs.Journal

/-!
# Comma separated records read back

The reader below knows nothing of the writer. It follows the common format of comma separated
files: fields are separated by commas, a line feed ends a row, and a field may stand between quotes,
where a quote is written twice and everything else is data. It is strict: a quote inside a bare
field, a carriage return outside quotes and text behind a closing quote are no rows at all, so what
it reads is read alike by every laxer reader.

The written form of a field, with a comma or a line feed behind it, always ends in the same spot as
a closed quotation (`readFrom_field`), whether it was quoted or not. From there a row is an
induction over its fields, and a text one over its rows.

Main statements:

* `read_rows` — rows of any fields read back, whatever their characters.
* `ofFields?_plainFields` — the fields of a record decode to the record.
* `records_read_back` — what a list of records leaves in a report decodes to these records.
-/

namespace SpectralBench.Journal.Csv

open Decimal

/-! ## The reader -/

/-- Where a reader stands inside a field. -/
inductive Spot where
  | start
  | bare
  | quoted
  /-- Behind a quote inside a quoted field: its end, or the first half of a doubled one. -/
  | closed
  deriving DecidableEq, Repr

/-- Reads on from a spot, with the characters of the field and the fields of the row so far. -/
def readFrom (spot : Spot) (cell : List Char) (row : List String) :
    List Char → Option (List (List String))
  | [] =>
    match spot with
    | .quoted => none
    | .start => if row.isEmpty then some [] else some [row ++ [.ofList cell]]
    | .bare | .closed => some [row ++ [.ofList cell]]
  | c :: rest =>
    match spot with
    | .quoted =>
      if c = '"' then readFrom .closed cell row rest else readFrom .quoted (cell ++ [c]) row rest
    | spot =>
      if c = ',' then readFrom .start [] (row ++ [.ofList cell]) rest
      else if c = '\n' then (readFrom .start [] [] rest).map ((row ++ [.ofList cell]) :: ·)
      else if c = '\r' then none
      else
        match spot with
        | .start =>
          if c = '"' then readFrom .quoted [] row rest else readFrom .bare (cell ++ [c]) row rest
        | .closed => if c = '"' then readFrom .quoted (cell ++ [c]) row rest else none
        | _ => if c = '"' then none else readFrom .bare (cell ++ [c]) row rest

/-- The rows of a text. -/
def read (text : String) : Option (List (List String)) :=
  readFrom .start [] [] text.toList

/-! ## Fields -/

variable {cell : List Char} {cells : List String} {rest : List Char}

theorem readFrom_bare {text : List Char} (h : text.any isSpecial = false) :
    readFrom .bare cell cells (text ++ rest) = readFrom .bare (cell ++ text) cells rest := by
  induction text generalizing cell with
  | nil => simp
  | cons c text ih =>
    simp only [List.any_cons, Bool.or_eq_false_iff, isSpecial, decide_eq_false_iff_not] at h
    obtain ⟨⟨⟨⟨hcomma, hquote⟩, hfeed⟩, hreturn⟩, htext⟩ := h
    simp only [List.cons_append, readFrom, hcomma, hquote, hfeed, hreturn, if_false]
    rw [ih htext, List.append_assoc, List.singleton_append]

theorem readFrom_quoted {text : List Char} :
    readFrom .quoted cell cells (doubled text ++ rest) =
      readFrom .quoted (cell ++ text) cells rest := by
  induction text generalizing cell with
  | nil => simp [doubled]
  | cons c text ih =>
    have hcons : doubled (c :: text) = (if c = '"' then ['"', '"'] else [c]) ++ doubled text := rfl
    have htext : cell ++ c :: text = cell ++ [c] ++ text := by simp
    rw [hcons, htext, ← ih]
    by_cases hc : c = '"'
    · subst hc
      rfl
    · simp [hc, readFrom]

/-- Whether a character ends a field outside quotes. -/
def EndsField (c : Char) : Prop :=
  c = ',' ∨ c = '\n'

/-- Outside quotes the character that ends a field ends it at every spot. -/
theorem readFrom_end {spot : Spot} {c : Char} (hspot : spot ≠ .quoted) (h : EndsField c) :
    readFrom spot cell cells (c :: rest) = readFrom .closed cell cells (c :: rest) := by
  obtain rfl | rfl := h <;> cases spot <;> first | exact absurd rfl hspot | rfl

/-- The written form of a field is read as the field, quoted or not. -/
theorem readFrom_field (text : String) {c : Char} (h : EndsField c) :
    readFrom .start [] cells ((field text).toList ++ c :: rest) =
      readFrom .closed text.toList cells (c :: rest) := by
  by_cases hs : text.toList.any isSpecial = true
  · rw [field, if_pos hs, String.toList_ofList]
    have hopen : readFrom .start [] cells ('"' :: (doubled text.toList ++ '"' :: c :: rest)) =
        readFrom .quoted [] cells (doubled text.toList ++ '"' :: c :: rest) := rfl
    simp only [List.cons_append, List.append_assoc, List.nil_append]
    rw [hopen, readFrom_quoted, List.nil_append]
    rfl
  · rw [Bool.not_eq_true] at hs
    rw [field_of_plain hs]
    cases htext : text.toList with
    | nil => exact readFrom_end (by decide) h
    | cons d text =>
      rw [htext] at hs
      -- The first character of a bare field takes the reader from the start of the field into it.
      have hfirst : readFrom .start [] cells (d :: text ++ c :: rest) =
          readFrom .bare [] cells (d :: text ++ c :: rest) := by
        simp only [List.any_cons, Bool.or_eq_false_iff, isSpecial, decide_eq_false_iff_not] at hs
        simp [readFrom, hs.1]
      rw [hfirst, readFrom_bare hs, List.nil_append]
      exact readFrom_end (by decide) h

/-! ## Rows -/

/-- The line of a row. -/
def line (cells : List String) : String :=
  ",".intercalate (cells.map field) ++ "\n"

theorem readFrom_line (first : String) (others : List String) :
    readFrom .start [] cells ((line (first :: others)).toList ++ rest) =
      (readFrom .start [] [] rest).map ((cells ++ first :: others) :: ·) := by
  induction others generalizing first cells with
  | nil =>
    have hline : (line [first]).toList ++ rest = (field first).toList ++ '\n' :: rest := by
      simp [line]
    rw [hline, readFrom_field first (.inr rfl)]
    simp [readFrom]
  | cons second others ih =>
    have hline : (line (first :: second :: others)).toList ++ rest =
        (field first).toList ++ ',' :: ((line (second :: others)).toList ++ rest) := by
      simp [line, String.intercalate_cons_cons]
    have hcomma : readFrom .closed first.toList cells
        (',' :: ((line (second :: others)).toList ++ rest)) =
        readFrom .start [] (cells ++ [first]) ((line (second :: others)).toList ++ rest) := by
      simp [readFrom]
    rw [hline, readFrom_field first (.inl rfl), hcomma, ih]
    simp

/-- Rows with at least one field each are read back from their lines. -/
theorem read_rows {rows : List (List String)} (h : ∀ row ∈ rows, row ≠ []) :
    read (String.join (rows.map line)) = some rows := by
  induction rows with
  | nil => rfl
  | cons row rows ih =>
    obtain ⟨first, cells, rfl⟩ := List.exists_cons_of_ne_nil (h row (by simp))
    have hrest : readFrom .start [] [] (String.join (rows.map line)).toList = some rows :=
      ih fun row hr => h row (by simp [hr])
    rw [read, List.map_cons, String.join_cons, String.toList_append, readFrom_line, hrest]
    rfl

/-! ## Records -/

/-- The fields of a record as they are meant, before any of them is quoted. -/
def plainFields (r : Record) : List String :=
  [r.backend, r.configuration.kind.title, r.configuration.placement.title,
    r.configuration.precision.label, r.configuration.extent.text,
    toString r.configuration.extent.rank, toString r.trial.run.toNat,
    if r.trial.warmup then "true" else "false", r.phase.label, toString r.durationNs.toNat,
    r.status.label, r.message.getD ""]

theorem field_of_forall {text : String} (h : ∀ c ∈ text.toList, isSpecial c = false) :
    field text = text :=
  field_of_plain (List.any_eq_false.2 fun c hc => by simp [h c hc])

theorem field_toString (n : Nat) : field (toString n) = toString n :=
  field_of_forall (by
    rw [Nat.toString_eq_repr, Nat.toList_repr]
    exact forall_mem_decimalDigits (by decide) n)

theorem field_extent (e : Extent) : field e.text = e.text := by
  refine field_of_forall ?_
  rw [Extent.toList_text]
  exact Text.forall_mem_intercalate (List.forall_iff_forall_mem.1 (by decide))
    (e.forall_mem_numerals (by decide))

/-- Only the backend and the message can need quotes; every other field is written as it is. -/
theorem map_field_plainFields (r : Record) : (plainFields r).map field = fields r := by
  have hkind : field r.configuration.kind.title = r.configuration.kind.title :=
    field_of_plain (by cases r.configuration.kind <;> decide)
  have hplacement : field r.configuration.placement.title = r.configuration.placement.title :=
    field_of_plain (by cases r.configuration.placement <;> decide)
  have hprecision : field r.configuration.precision.label = r.configuration.precision.label :=
    field_of_plain (by cases r.configuration.precision <;> decide)
  have hwarmup : field (if r.trial.warmup then "true" else "false") =
      if r.trial.warmup then "true" else "false" :=
    field_of_plain (by cases r.trial.warmup <;> decide)
  have hphase : field r.phase.label = r.phase.label := by
    have : ∀ phase ∈ Phase.all, phase.label.toList.any isSpecial = false := by decide
    exact field_of_plain (this r.phase r.phase.mem_all)
  have hstatus : field r.status.label = r.status.label :=
    field_of_plain (by cases r.status <;> decide)
  simp only [plainFields, fields, List.map_cons, List.map_nil, hkind, hplacement, hprecision,
    hwarmup, hphase, hstatus, field_toString, field_extent]

theorem row_eq_line (r : Record) : row r = line (plainFields r) := by
  rw [line, map_field_plainFields, row]

/-- The word that a field spells. -/
def word? (text : String) : Option UInt64 :=
  (Decimal.readNatural text.toList).toOption

/-- The truth value that a field spells. -/
def truth? : String → Option Bool
  | "true" => some true
  | "false" => some false
  | _ => none

/-- The status with a given label. -/
def status? (text : String) : Option Status :=
  Status.all.find? (·.label = text)

/-- The record that the fields of a row spell. The parameters are read as the command line reads
them, and the rank has to be that of the extents. -/
def ofFields? : List String → Option Record
  | [backend, kind, placement, precision, extents, rank, run, warmup, phase, durationNs, status,
      message] => do
    let kind ← (Kind.read kind).toOption
    let placement ← (Placement.read placement).toOption
    let precision ← (Precision.read precision).toOption
    let extent ← (Extent.read extents).toOption
    let rank ← word? rank
    let run ← word? run
    let warmup ← truth? warmup
    let phase ← Phase.named? phase
    let durationNs ← word? durationNs
    let status ← status? status
    if rank.toNat = extent.rank then
      return ⟨backend, ⟨kind, placement, precision, extent⟩, ⟨run, warmup⟩, phase, durationNs,
        status, some message⟩
    else none
  | _ => none

/-- A record as a row can tell it: an empty message stands for none. -/
def told (r : Record) : Record :=
  { r with message := some (r.message.getD "") }

theorem word?_toString (w : UInt64) : word? (toString w.toNat) = some w := by
  rw [word?, Decimal.readNatural_toString w.toNat_lt, UInt64.ofNat_toNat]
  rfl

theorem word?_rank (e : Extent) :
    ∃ rank, word? (toString e.rank) = some rank ∧ rank.toNat = e.rank := by
  have hrank : e.rank < Word.count := Nat.lt_of_le_of_lt e.rank_le (by decide)
  refine ⟨.ofNat e.rank, ?_, UInt64.toNat_ofNat_of_lt hrank⟩
  rw [word?, Decimal.readNatural_toString hrank]
  rfl

theorem ofFields?_plainFields (r : Record) : ofFields? (plainFields r) = some (told r) := by
  obtain ⟨rank, hrank, heq⟩ := word?_rank r.configuration.extent
  have hwarmup : truth? (if r.trial.warmup then "true" else "false") = some r.trial.warmup := by
    cases r.trial.warmup <;> rfl
  have hphase : Phase.named? r.phase.label = some r.phase := by
    have : ∀ phase ∈ Phase.all, Phase.named? phase.label = some phase := by decide
    exact this r.phase r.phase.mem_all
  have hstatus : status? r.status.label = some r.status := by
    cases r.status <;> rfl
  simp only [plainFields, ofFields?, Kind.read_title, Placement.read_title, Precision.read_label,
    Extent.read_text, word?_toString, hrank, hwarmup, hphase, hstatus, Except.toOption,
    Option.bind_eq_bind, Option.bind_some, heq, if_true]
  rfl

/-! ## Reports -/

theorem journal_writes : (journal Writer.appending).Writes row :=
  fun r before => Writer.appending_put (row r) before

/-- What a list of records leaves in a report, whatever was there before, is read as one row of
twelve fields for each record, in order, and each row decodes to its record. So lists of records
that leave the same text tell the same. -/
theorem records_read_back (before : String) (records : List Record) :
    ∃ text rows,
      (records.forM (journal .appending).record).run.run before = (.ok (), before ++ text) ∧
      read text = some rows ∧ (∀ row ∈ rows, row.length = 12) ∧
      rows.mapM ofFields? = some (records.map told) ∧
      ∀ others : List Record,
        (others.forM (journal .appending).record).run.run before = (.ok (), before ++ text) →
        others.map told = records.map told := by
  have hline : line ∘ plainFields = row := funext fun r => (row_eq_line r).symm
  have hleave (list : List Record) :
      (list.forM (journal .appending).record).run.run before =
        (.ok (), before ++ String.join ((list.map plainFields).map line)) := by
    rw [records_leave journal_writes, List.map_map, hline]
  have hread (list : List Record) :
      read (String.join ((list.map plainFields).map line)) = some (list.map plainFields) :=
    read_rows (by simp [plainFields])
  have hdecode (list : List Record) :
      (list.map plainFields).mapM ofFields? = some (list.map told) := by
    rw [List.mapM_map]
    simp only [Function.comp_def, ofFields?_plainFields]
    exact List.mapM_pure
  refine ⟨_, records.map plainFields, hleave records, hread records, ?_, hdecode records, ?_⟩
  · simp [plainFields]
  · intro others hothers
    -- The two lists leave the same text, which has only one reading.
    have htext : String.join ((others.map plainFields).map line) =
        String.join ((records.map plainFields).map line) := by
      have := (hleave others).symm.trans hothers
      exact String.append_right_inj _ |>.1 (Prod.mk.inj this).2
    have hrows : others.map plainFields = records.map plainFields :=
      Option.some.inj ((hread others).symm.trans ((congrArg read htext).trans (hread records)))
    exact Option.some.inj ((hdecode others).symm.trans (hrows ▸ hdecode records))

end SpectralBench.Journal.Csv
