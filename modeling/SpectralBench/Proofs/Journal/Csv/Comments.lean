import SpectralBench.Proofs.Journal.Csv
import SpectralBench.Proofs.Text
import Mathlib.Algebra.BigOperators.Group.List.Basic
import Mathlib.Algebra.Order.Ring.Nat

/-!
# Comments and rows of a comma separated report

A report starts with four comments, and whoever reads it drops the lines that start with a `#`
before the rows are read. Comments and rows share the lines of the text, so they stay apart only as
far as the free texts let them: a line feed in a text of the header ends its comment, and a text of
a record may bring a `#` to the beginning of a line, as the first field of its row or behind a line
feed between quotes.

Whether a text has a comment among its lines is decided by its first character and by what stands
behind its line feeds (`hasComment_iff`). Along the fields of a row this gives exactly the records
whose rows are kept (`not_hasComment_row_iff`). A reader that lost a line cannot make up for it,
since the line feeds of a text are counted by what is read from it (`countP_of_read`).

Main statements:

* `lines_report_iff` — when a report starts with four comments and the names of the columns.
* `read_report_iff` — when a reader that drops the comments is left with the records.
* `report_comments_apart` — what a report holds whose texts let comments and rows stay apart.
-/

namespace SpectralBench.Journal

/-- Writes a whole report. -/
def report {m : Type → Type} [Monad m] (journal : Journal m) (header : Header)
    (records : List Record) : ExceptT Failure m Unit := do
  journal.start header
  records.forM journal.record
  journal.finish

namespace Csv

def isFeed (c : Char) : Bool :=
  c = '\n'

/-- The lines of a text, each without its line feed; behind the last line feed stands a last line,
which may be empty. -/
def lines (text : String) : List (List Char) :=
  Text.split isFeed text.toList

/-- A line that a reader of rows passes over. -/
def isComment (line : List Char) : Bool :=
  line.head? = some '#'

/-- A text without its comments. -/
def withoutComments (text : String) : String :=
  .ofList (['\n'].intercalate ((lines text).filter (!isComment ·)))

/-- The comments of a header. -/
def comments (header : Header) : List String :=
  ["# " ++ header.title, "# " ++ header.device, "# timer: " ++ header.timer,
    "# started: " ++ header.started]

/-- The free texts of a header stay on their lines. -/
def IsPlain (header : Header) : Prop :=
  ∀ text ∈ [header.title, header.device, header.timer, header.started], '\n' ∉ text.toList

/-- A line of the text starts with a `#` behind a line feed. -/
def HidesComment (text : List Char) : Prop :=
  ['\n', '#'] <:+: text

/-- The free texts of a record bring no `#` to the beginning of a line. -/
structure IsUncommented (r : Record) : Prop where
  /-- A backend that is written between quotes starts with a quote. -/
  bare : r.backend.toList.head? = some '#' → r.backend.toList.any isSpecial = true
  backend : ¬HidesComment r.backend.toList
  message : ¬HidesComment (r.message.getD "").toList

instance (header : Header) : Decidable (IsPlain header) :=
  inferInstanceAs (Decidable (∀ text ∈ [header.title, header.device, header.timer, header.started],
    '\n' ∉ text.toList))

instance : DecidablePred HidesComment :=
  fun text => inferInstanceAs (Decidable (['\n', '#'] <:+: text))

instance (r : Record) : Decidable (IsUncommented r) :=
  decidable_of_iff ((r.backend.toList.head? = some '#' → r.backend.toList.any isSpecial = true) ∧
      ¬HidesComment r.backend.toList ∧ ¬HidesComment (r.message.getD "").toList)
    ⟨fun h => ⟨h.1, h.2.1, h.2.2⟩, fun h => ⟨h.bare, h.backend, h.message⟩⟩

/-! ## Where comments come from -/

theorem hidesComment_cons {c : Char} {text : List Char} :
    HidesComment (c :: text) ↔ (c = '\n' ∧ text.head? = some '#') ∨ HidesComment text := by
  rw [HidesComment, List.infix_cons_iff, List.cons_prefix_cons]
  cases text <;> simp [HidesComment, List.cons_prefix_cons, eq_comm (a := '\n'), eq_comm (a := '#')]

@[simp]
theorem not_hidesComment_nil : ¬HidesComment [] := by
  simp [HidesComment]

/-- A character that is neither keeps what is before it from what is behind it. -/
theorem hidesComment_append_cons {text rest : List Char} {c : Char} (hfeed : c ≠ '\n')
    (hmark : c ≠ '#') :
    HidesComment (text ++ c :: rest) ↔ HidesComment text ∨ HidesComment rest := by
  induction text with
  | nil => simp [hidesComment_cons, hfeed]
  | cons d text ih =>
    have hhead : (text ++ c :: rest).head? = some '#' ↔ text.head? = some '#' := by
      cases text <;> simp [hmark]
    rw [List.cons_append, hidesComment_cons, hidesComment_cons, ih, hhead, or_assoc]

theorem not_hidesComment_of_plain {text : List Char} (h : '\n' ∉ text) : ¬HidesComment text :=
  fun hhides => h (hhides.subset List.mem_cons_self)

/-- Whether a text has a comment among its lines. -/
def HasComment (text : List Char) : Prop :=
  ∃ line ∈ Text.split isFeed text, isComment line = true

@[simp]
theorem not_hasComment_nil : ¬HasComment [] := by
  simp [HasComment, Text.split, isComment]

theorem hasComment_append_feed {text rest : List Char} :
    HasComment (text ++ '\n' :: rest) ↔ HasComment text ∨ HasComment rest := by
  have hfeed : isFeed '\n' = true := rfl
  simp only [HasComment, Text.split_append_cons_separator text rest hfeed, List.mem_append,
    or_and_right, exists_or]

/-- The first line starts as the text does, and the others start behind its line feeds. -/
theorem exists_split (text : List Char) :
    ∃ first later, Text.split isFeed text = first :: later ∧
      (isComment first = true ↔ text.head? = some '#') ∧
      ((∃ line ∈ later, isComment line = true) ↔ HidesComment text) := by
  induction text with
  | nil => exact ⟨[], [], rfl, by simp [isComment], by simp⟩
  | cons c text ih =>
    obtain ⟨first, later, hlines, hfirst, hlater⟩ := ih
    rw [Text.split, hlines, hidesComment_cons]
    by_cases hfeed : c = '\n'
    · -- the first line is empty, and the line behind the line feed is another one
      refine ⟨[], first :: later, by rw [isFeed, decide_eq_true hfeed], ?_, ?_⟩
      · simp [isComment, hfeed]
      · rw [List.exists_mem_cons_iff, hfirst, hlater]
        simp [hfeed]
    · refine ⟨c :: first, later, by rw [isFeed, decide_eq_false hfeed], ?_, ?_⟩
      · simp [isComment]
      · rw [hlater]
        simp [hfeed]

/-- A comment is at the beginning of a text or behind one of its line feeds. -/
theorem hasComment_iff {text : List Char} :
    HasComment text ↔ text.head? = some '#' ∨ HidesComment text := by
  obtain ⟨first, later, hlines, hfirst, hlater⟩ := exists_split text
  rw [HasComment, hlines, List.exists_mem_cons_iff, hfirst, hlater]

/-! ## Rows -/

theorem head?_doubled (text : List Char) : (doubled text).head? = text.head? := by
  cases text with
  | nil => rfl
  | cons c text =>
    rw [show doubled (c :: text) = (if c = '"' then ['"', '"'] else [c]) ++ doubled text from rfl]
    split <;> simp [*]

theorem hidesComment_doubled (text : List Char) :
    HidesComment (doubled text) ↔ HidesComment text := by
  induction text with
  | nil => rfl
  | cons c text ih =>
    rw [show doubled (c :: text) = (if c = '"' then ['"', '"'] else [c]) ++ doubled text from rfl]
    by_cases hquote : c = '"'
    · simp [hquote, hidesComment_cons, ih]
    · rw [if_neg hquote, List.singleton_append, hidesComment_cons, hidesComment_cons, ih,
        head?_doubled]

/-- Quotes keep the line feeds of a field as they are. -/
theorem hidesComment_field (text : String) :
    HidesComment (field text).toList ↔ HidesComment text.toList := by
  by_cases hs : text.toList.any isSpecial = true
  · rw [field, if_pos hs, String.toList_ofList, List.cons_append, hidesComment_cons,
      hidesComment_append_cons (by decide) (by decide), hidesComment_doubled]
    simp
  · rw [field, if_neg hs]

theorem head?_field (text : String) :
    (field text).toList.head? = some '#' ↔
      text.toList.head? = some '#' ∧ text.toList.any isSpecial = false := by
  by_cases hs : text.toList.any isSpecial = true
  · simp [field, hs]
  · rw [Bool.not_eq_true] at hs
    rw [field_of_plain hs, and_iff_left hs]

theorem hidesComment_intercalate (texts : List String) :
    HidesComment (",".intercalate texts).toList ↔ ∃ text ∈ texts, HidesComment text.toList := by
  induction texts with
  | nil => simp
  | cons text texts ih =>
    cases texts with
    | nil => simp
    | cons next texts =>
      have hcomma : (",".intercalate (text :: next :: texts)).toList =
          text.toList ++ ',' :: (",".intercalate (next :: texts)).toList := by
        simp [String.intercalate_cons_cons]
      rw [hcomma, hidesComment_append_cons (by decide) (by decide), ih,
        List.exists_mem_cons_iff (l := next :: texts)]

theorem length_le_doubled (text : List Char) : text.length ≤ (doubled text).length := by
  induction text with
  | nil => exact Nat.le_refl 0
  | cons c text ih =>
    rw [show doubled (c :: text) = (if c = '"' then ['"', '"'] else [c]) ++ doubled text from rfl,
      List.length_append, List.length_cons]
    split <;> simp <;> omega

/-- A field that is written as it is has no special characters: quotes make it longer. -/
theorem plain_of_field {text : String} (h : field text = text) :
    text.toList.any isSpecial = false := by
  by_contra hs
  rw [Bool.not_eq_false] at hs
  have hlength := congrArg (·.toList.length) h
  have hdoubled := length_le_doubled text.toList
  simp only [field, if_pos hs, String.toList_ofList, List.length_append, List.length_cons]
    at hlength
  omega

/-- The fields between the backend and the message have no line feeds. -/
theorem not_hidesComment_middle (r : Record) {cell : String}
    (h : cell ∈ (plainFields r).tail.dropLast) : ¬HidesComment cell.toList := by
  have hfields : (plainFields r).tail.dropLast.map field = (plainFields r).tail.dropLast := by
    have hmap := map_field_plainFields r
    rw [List.map_dropLast, List.map_tail, hmap]
    rfl
  have hplain := plain_of_field
    (List.map_inj_left.1 (hfields.trans (List.map_id _).symm) cell h)
  refine not_hidesComment_of_plain fun hfeed => ?_
  have hspecial := List.any_eq_false.1 hplain '\n' hfeed
  exact hspecial (by decide)

/-- Of the fields of a record only the free texts can bring a `#` behind a line feed. -/
theorem hidesComment_fields (r : Record) :
    HidesComment (",".intercalate (fields r)).toList ↔
      HidesComment r.backend.toList ∨ HidesComment (r.message.getD "").toList := by
  have hcells : plainFields r =
      r.backend :: ((plainFields r).tail.dropLast ++ [r.message.getD ""]) := rfl
  rw [← map_field_plainFields, hidesComment_intercalate]
  simp only [List.mem_map, exists_exists_and_eq_and, hidesComment_field]
  constructor
  · rintro ⟨cell, hcell, hhides⟩
    rw [hcells, List.mem_cons, List.mem_append, List.mem_singleton] at hcell
    rcases hcell with rfl | hmiddle | rfl
    · exact .inl hhides
    · exact absurd hhides (not_hidesComment_middle r hmiddle)
    · exact .inr hhides
  · rintro (hhides | hhides)
    · exact ⟨r.backend, by simp [plainFields], hhides⟩
    · exact ⟨r.message.getD "", by simp [plainFields], hhides⟩

/-- A row starts with its first field. -/
theorem head?_fields (r : Record) :
    (",".intercalate (fields r)).toList.head? = some '#' ↔
      r.backend.toList.head? = some '#' ∧ r.backend.toList.any isSpecial = false := by
  obtain ⟨others, hothers⟩ : ∃ others, (",".intercalate (fields r)).toList =
      (field r.backend).toList ++ ',' :: others := by
    refine ⟨(",".intercalate (fields r).tail).toList, ?_⟩
    simp [fields, String.intercalate_cons_cons]
  rw [hothers, ← head?_field]
  cases (field r.backend).toList <;> simp

theorem toList_row (r : Record) :
    (row r).toList = (",".intercalate (fields r)).toList ++ ['\n'] := by
  rw [row, String.toList_append]
  rfl

/-- A row has no comment among its lines exactly when no free text of its record brings one. -/
theorem not_hasComment_row_iff (r : Record) : ¬HasComment (row r).toList ↔ IsUncommented r := by
  rw [toList_row, hasComment_append_feed, or_iff_left not_hasComment_nil, hasComment_iff,
    head?_fields, hidesComment_fields]
  constructor
  · intro h
    rw [not_or, not_or] at h
    refine ⟨fun hhead => ?_, h.2.1, h.2.2⟩
    by_contra hplain
    exact h.1 ⟨hhead, eq_false_of_ne_true hplain⟩
  · rintro ⟨hbare, hbackend, hmessage⟩ (⟨hhead, hplain⟩ | hhides | hhides)
    · rw [hbare hhead] at hplain
      cases hplain
    · exact hbackend hhides
    · exact hmessage hhides

/-- The rows of records have no comment among their lines exactly when none of them has. -/
theorem not_hasComment_rows_iff (records : List Record) :
    ¬HasComment (String.join (records.map row)).toList ↔ ∀ r ∈ records, IsUncommented r := by
  induction records with
  | nil => simp
  | cons r records ih =>
    have hrows : HasComment (String.join ((r :: records).map row)).toList ↔
        HasComment (row r).toList ∨ HasComment (String.join (records.map row)).toList := by
      rw [List.map_cons, String.join_cons, String.toList_append, toList_row, List.append_assoc,
        List.singleton_append, hasComment_append_feed, hasComment_append_feed,
        or_iff_left not_hasComment_nil]
    rw [hrows, not_or, not_hasComment_row_iff, ih, List.forall_mem_cons]

/-! ## What a reader counts -/

/-- The line feeds of the fields of a row. -/
def feedsWithin (row : List String) : Nat :=
  (row.map fun cell => cell.toList.countP isFeed).sum

/-- How many line feeds it takes to write rows: one behind each, and those in their fields. -/
def feeds (rows : List (List String)) : Nat :=
  (rows.map fun row => feedsWithin row + 1).sum

theorem feedsWithin_concat (row : List String) (cell : List Char) :
    feedsWithin (row ++ [.ofList cell]) = feedsWithin row + cell.countP isFeed := by
  simp [feedsWithin]

/-- What a reader can make of one character: data of the field, a quote around it, the end of the
field, or the end of the row. -/
theorem readFrom_cons {spot : Spot} {cell rest : List Char} {row : List String} {c : Char}
    {rows : List (List String)} (hspot : spot = .start → cell = [])
    (h : readFrom spot cell row (c :: rest) = some rows) :
    (∃ spot', spot' ≠ .start ∧ readFrom spot' (cell ++ [c]) row rest = some rows) ∨
      (∃ spot', spot' ≠ .start ∧ isFeed c = false ∧ readFrom spot' cell row rest = some rows) ∨
      (isFeed c = false ∧ readFrom .start [] (row ++ [.ofList cell]) rest = some rows) ∨
      (isFeed c = true ∧ ∃ later, rows = (row ++ [.ofList cell]) :: later ∧
        readFrom .start [] [] rest = some later) := by
  have hdata {spot' : Spot} (hne : spot' ≠ .start)
      (h : readFrom spot' (cell ++ [c]) row rest = some rows) :
      ∃ spot', spot' ≠ .start ∧ readFrom spot' (cell ++ [c]) row rest = some rows := ⟨spot', hne, h⟩
  -- outside quotes a comma and a line feed mean the same everywhere, and a carriage return nothing
  by_cases hquoted : spot = .quoted
  · subst hquoted
    rw [readFrom] at h
    split at h
    · next hquote => exact .inr (.inl ⟨.closed, by decide, by rw [hquote]; rfl, h⟩)
    · exact .inl (hdata (by decide) h)
  · by_cases hcomma : c = ','
    · subst hcomma
      rw [readFrom_end hquoted (.inl rfl)] at h
      exact .inr (.inr (.inl ⟨rfl, h⟩))
    · by_cases hfeed : c = '\n'
      · subst hfeed
        rw [readFrom_end hquoted (.inr rfl)] at h
        obtain ⟨later, hlater, rfl⟩ := Option.map_eq_some_iff.1 h
        exact .inr (.inr (.inr ⟨rfl, later, rfl, hlater⟩))
      · by_cases hreturn : c = '\r'
        · cases spot <;> simp_all [readFrom]
        · cases spot with
          | quoted => exact absurd rfl hquoted
          | start =>
            simp only [readFrom, hcomma, hfeed, hreturn, if_false] at h
            split at h
            · rw [← hspot rfl] at h
              exact .inr (.inl ⟨.quoted, by decide, decide_eq_false hfeed, h⟩)
            · exact .inl (hdata (by decide) h)
          | bare =>
            simp only [readFrom, hcomma, hfeed, hreturn, if_false] at h
            split at h
            · cases h
            · exact .inl (hdata (by decide) h)
          | closed =>
            simp only [readFrom, hcomma, hfeed, hreturn, if_false] at h
            split at h
            · exact .inl (hdata (by decide) h)
            · cases h

/-- Whatever is read from a text accounts for all of its line feeds: by induction on the text, with
those of the field and of the row at hand. -/
theorem countP_readFrom {spot : Spot} {cell text : List Char} {row : List String}
    {rows : List (List String)} (hspot : spot = .start → cell = [])
    (h : readFrom spot cell row (text ++ ['\n']) = some rows) :
    text.countP isFeed + 1 + cell.countP isFeed + feedsWithin row = feeds rows := by
  induction text generalizing spot cell row rows with
  | nil =>
    cases spot with
    | quoted => cases h
    | _ =>
      obtain rfl := Option.some.inj h
      simp only [feeds, List.map_cons, List.map_nil, List.sum_cons, List.sum_nil,
        feedsWithin_concat, List.countP_nil]
      omega
  | cons c text ih =>
    rw [List.countP_cons]
    rcases readFrom_cons hspot h with ⟨spot', hne, hread⟩ | ⟨spot', hne, hc, hread⟩ | ⟨hc, hread⟩ |
      ⟨hc, later, rfl, hread⟩
    · have hrest := ih (fun heq => absurd heq hne) hread
      rw [List.countP_append, List.countP_singleton] at hrest
      omega
    · have hrest := ih (fun heq => absurd heq hne) hread
      rw [hc, if_neg Bool.false_ne_true]
      omega
    · have hrest := ih (fun _ => rfl) hread
      rw [feedsWithin_concat, List.countP_nil] at hrest
      rw [hc, if_neg Bool.false_ne_true]
      omega
    · have hrest := ih (fun _ => rfl) hread
      have hrows : feeds ((row ++ [.ofList cell]) :: later) =
          feedsWithin row + cell.countP isFeed + 1 + feeds later := by
        simp only [feeds, List.map_cons, List.sum_cons, feedsWithin_concat]
      rw [hrows, hc, if_pos rfl]
      simp only [List.countP_nil, feedsWithin, List.map_nil, List.sum_nil] at hrest ⊢
      omega

/-- A text that ends with a line feed has as many as its rows take. -/
theorem countP_of_read {text : String} {rows : List (List String)}
    (h : read (text ++ "\n") = some rows) :
    (text ++ "\n").toList.countP isFeed = feeds rows := by
  rw [read, String.toList_append] at h
  have hcount := countP_readFrom (fun _ => rfl) h
  rw [String.toList_append, List.countP_append]
  exact hcount

/-! ## Reading without comments -/

/-- A text without comments is read as it is. -/
theorem withoutComments_of_none {text : String} (h : ¬HasComment text.toList) :
    withoutComments text = text := by
  have hkeep : (lines text).filter (!isComment ·) = lines text := by
    refine List.filter_eq_self.2 fun line hline => ?_
    rw [Bool.not_eq_true']
    exact eq_false_of_ne_true fun hcomment => h ⟨line, hline, hcomment⟩
  have hjoin : ['\n'].intercalate (lines text) = text.toList := Text.intercalate_split '\n' _
  rw [withoutComments, hkeep, hjoin, String.ofList_toList]

/-- Of a text that ends with a line feed, the lines that are no comments are left. -/
theorem toList_withoutComments (text : String) :
    (withoutComments (text ++ "\n")).toList =
      ((lines text).filter (!isComment ·)).flatMap (· ++ ['\n']) := by
  have hlines : lines (text ++ "\n") = lines text ++ [[]] := by
    rw [lines, String.toList_append]
    exact Text.split_append_cons_separator text.toList [] (by decide)
  have hjoin (pieces : List (List Char)) :
      ['\n'].intercalate (pieces ++ [[]]) = pieces.flatMap (· ++ ['\n']) := by
    induction pieces with
    | nil => rfl
    | cons piece pieces ih =>
      rw [List.flatMap_cons, ← ih]
      cases pieces <;> simp [List.intercalate_cons_cons]
  rw [withoutComments, String.toList_ofList, hlines, List.filter_append, ← hjoin]
  rfl

/-- A reader that drops the comments is left with the rows of a text exactly when it had none: with
every comment a line feed is lost, and what is read accounts for all of them. -/
theorem read_withoutComments_iff {text : String} {rows : List (List String)}
    (h : read (text ++ "\n") = some rows) :
    read (withoutComments (text ++ "\n")) = some rows ↔ ¬HasComment (text ++ "\n").toList := by
  refine ⟨fun hread => ?_, fun hnone => by rw [withoutComments_of_none hnone, h]⟩
  have hkept := toList_withoutComments text
  have hfeeds : (withoutComments (text ++ "\n")).toList.countP isFeed =
      ((lines text).filter (!isComment ·)).length := by
    have hkeptFeeds : ∀ line ∈ (lines text).filter (!isComment ·), ∀ c ∈ line, isFeed c = false :=
      fun line hline => Text.not_separator_of_mem_split (List.mem_of_mem_filter hline)
    have hsplit := Text.split_flatMap hkeptFeeds (show isFeed '\n' = true from rfl)
    rw [← hkept] at hsplit
    have hlength := Text.length_split isFeed (withoutComments (text ++ "\n")).toList
    rw [hsplit, List.length_append, List.length_singleton] at hlength
    omega
  have hall : (text ++ "\n").toList.countP isFeed = (lines text).length := by
    rw [String.toList_append, List.countP_append, lines, Text.length_split]
    rfl
  have hlines : lines text ≠ [] := Text.split_ne_nil isFeed text.toList
  have hrows := countP_of_read h
  rw [hall] at hrows
  rcases List.eq_nil_or_concat ((lines text).filter (!isComment ·)) with hnone | ⟨init, last, hkeep⟩
  · -- nothing was left to read
    rw [hnone, List.flatMap_nil] at hkept
    rw [show withoutComments (text ++ "\n") = "" from String.toList_inj.1 hkept] at hread
    obtain rfl := Option.some.inj hread
    exact absurd (List.length_eq_zero_iff.1 hrows) hlines
  · have hends : withoutComments (text ++ "\n") =
        .ofList (init.flatMap (· ++ ['\n']) ++ last) ++ "\n" := by
      refine String.toList_inj.1 (hkept.trans ?_)
      rw [hkeep, String.toList_append, String.toList_ofList]
      simp
    rw [hends] at hread hfeeds
    have hsame : ((lines text).filter (!isComment ·)).length = (lines text).length := by
      rw [← hfeeds, countP_of_read hread, hrows]
    have hnone := List.length_filter_eq_length_iff.1 hsame
    rw [String.toList_append, show "\n".toList = ['\n'] from rfl, hasComment_append_feed,
      or_iff_left not_hasComment_nil]
    rintro ⟨line, hline, hcomment⟩
    have hkeeps := hnone line hline
    rw [hcomment] at hkeeps
    cases hkeeps

/-! ## Whole reports -/

/-- The text of a report. -/
def written (header : Header) (records : List Record) : String :=
  preamble header ++ String.join (records.map row)

/-- A whole report is written by the journal, and leaves its text. -/
theorem report_leaves (header : Header) (records : List Record) (before : String) :
    (report (journal .appending) header records).run.run before =
      (.ok (), before ++ written header records) := by
  have hrecords := records_leave journal_writes records (before ++ preamble header)
  calc (report (journal .appending) header records).run.run before
      = (do records.forM (journal .appending).record
            (journal .appending).finish : ExceptT Failure (StateM String) Unit).run.run
          (before ++ preamble header) := run_bind_of_ok rfl
    _ = ((journal .appending).finish).run.run _ := run_bind_of_ok hrecords
    _ = (.ok (), before ++ written header records) := by
        rw [written, ← String.append_assoc]
        rfl

def columnLine : List Char :=
  (",".intercalate columns).toList

/-- The preamble, line by line. -/
theorem toList_preamble (header : Header) :
    (preamble header).toList =
      ((comments header).map (·.toList) ++ [columnLine]).flatMap (· ++ ['\n']) := by
  simp [preamble, comments, columnLine, toString]

theorem not_feed_of_all {text : List Char} (h : text.all (!isFeed ·) = true) :
    ∀ c ∈ text, isFeed c = false := by
  intro c hc
  have hnot : (!isFeed c) = true := List.all_eq_true.1 h c hc
  rwa [Bool.not_eq_true'] at hnot

theorem not_feed_columnLine : ∀ c ∈ columnLine, isFeed c = false :=
  not_feed_of_all (by decide)

theorem countP_flatMap_feed (pieces : List (List Char)) :
    (pieces.flatMap (· ++ ['\n'])).countP isFeed =
      pieces.length + (pieces.map (·.countP isFeed)).sum := by
  induction pieces with
  | nil => rfl
  | cons piece pieces ih =>
    rw [List.flatMap_cons, List.countP_append, List.countP_append, ih, List.length_cons,
      List.map_cons, List.sum_cons, show ['\n'].countP isFeed = 1 from rfl]
    omega

/-- The texts of a header stay on their lines exactly when its comments do. -/
theorem isPlain_iff {header : Header} :
    IsPlain header ↔ ∀ line ∈ (comments header).map (·.toList), ∀ c ∈ line, isFeed c = false := by
  have hcomment {mark text : String} (hmark : ∀ c ∈ mark.toList, isFeed c = false) :
      (∀ c ∈ (mark ++ text).toList, isFeed c = false) ↔ '\n' ∉ text.toList := by
    rw [String.toList_append, List.forall_mem_append, and_iff_right hmark]
    refine ⟨fun h hfeed => absurd (h _ hfeed) (by decide), fun h c hc => decide_eq_false ?_⟩
    rintro rfl
    exact h hc
  simp only [IsPlain, comments, List.map_cons, List.map_nil, List.forall_mem_cons]
  rw [hcomment (not_feed_of_all (by decide)), hcomment (not_feed_of_all (by decide)),
    hcomment (not_feed_of_all (by decide)), hcomment (not_feed_of_all (by decide))]
  simp

/-- A header whose texts stay on their lines has a line for each of its comments, and one for the
names of the columns. -/
theorem lines_preamble {header : Header} (h : IsPlain header) (rest : String) :
    lines (preamble header ++ rest) =
      (comments header).map (·.toList) ++ columnLine :: lines rest := by
  have hlines : ∀ line ∈ (comments header).map (·.toList) ++ [columnLine],
      ∀ c ∈ line, isFeed c = false :=
    List.forall_mem_append.2 ⟨isPlain_iff.1 h, List.forall_mem_singleton.2 not_feed_columnLine⟩
  rw [lines, String.toList_append, toList_preamble,
    Text.split_flatMap_append (by decide) hlines, List.append_assoc]
  rfl

/-- Every comment of a header starts as comments do. -/
theorem prefix_comments (header : Header) :
    ∀ line ∈ (comments header).map (·.toList), ['#', ' '] <+: line := by
  simp [comments]

/-- A report starts with four comments and the names of the columns, and goes on with its rows,
exactly when the texts of its header stay on their lines. -/
theorem lines_report_iff (header : Header) (records : List Record) :
    (∃ four : List (List Char), four.length = 4 ∧ (∀ line ∈ four, ['#', ' '] <+: line) ∧
        lines (written header records) =
          four ++ columnLine :: lines (String.join (records.map row))) ↔
      IsPlain header := by
  constructor
  · rintro ⟨four, hfour, -, hlines⟩
    -- the preamble has five line feeds of its own, so its texts have none
    have hlength := congrArg List.length hlines
    rw [lines, lines, written, String.toList_append, List.length_append, List.length_cons,
      Text.length_split, Text.length_split, List.countP_append, hfour, toList_preamble,
      countP_flatMap_feed, List.map_append, List.sum_append, List.length_append, List.length_map,
      show (comments header).length = 4 from rfl] at hlength
    have hnone : (((comments header).map (·.toList)).map (·.countP isFeed)).sum = 0 := by
      rw [List.length_singleton] at hlength
      omega
    refine isPlain_iff.2 fun line hline c hc => ?_
    have hcount := List.sum_eq_zero_iff_forall_eq_nat.1 hnone _ (List.mem_map_of_mem hline)
    exact eq_false_of_ne_true (List.countP_eq_zero.1 hcount c hc)
  · intro h
    exact ⟨_, rfl, prefix_comments header, lines_preamble h _⟩

/-- The rows of a report, the names of the columns among them. -/
def rowsOf (records : List Record) : List (List String) :=
  columns :: records.map plainFields

/-- The part of a report that is read. -/
theorem join_rowsOf (records : List Record) :
    String.join ((rowsOf records).map line) =
      .ofList columnLine ++ "\n" ++ String.join (records.map row) := by
  have hline : line ∘ plainFields = row := funext fun r => (row_eq_line r).symm
  have hcolumns : line columns = .ofList columnLine ++ "\n" := by decide
  rw [rowsOf, List.map_cons, String.join_cons, List.map_map, hline, hcolumns]

theorem read_rowsOf (records : List Record) :
    read (String.join ((rowsOf records).map line)) = some (rowsOf records) :=
  read_rows (by simp [rowsOf, columns, plainFields])

/-- Rows end with a line feed. -/
theorem exists_join_lines (row : List String) (rows : List (List String)) :
    ∃ text, String.join ((row :: rows).map line) = text ++ "\n" := by
  induction rows generalizing row with
  | nil => exact ⟨",".intercalate (row.map field), by simp [line]⟩
  | cons next rows ih =>
    obtain ⟨text, htext⟩ := ih next
    exact ⟨line row ++ text, by rw [List.map_cons, String.join_cons, htext, String.append_assoc]⟩

/-- Where the header stays on its lines, dropping the comments of a report is dropping those that
its rows bring along. -/
theorem withoutComments_written {header : Header} (h : IsPlain header) (records : List Record) :
    withoutComments (written header records) =
      withoutComments (String.join ((rowsOf records).map line)) := by
  have hdropped : ((comments header).map (·.toList)).filter (!isComment ·) = [] := by
    refine List.filter_eq_nil_iff.2 fun line hline hkept => ?_
    obtain ⟨rest, rfl⟩ := prefix_comments header line hline
    cases hkept
  have hrows : lines (String.join ((rowsOf records).map line)) =
      columnLine :: lines (String.join (records.map row)) := by
    rw [join_rowsOf, lines, String.toList_append, String.toList_append, String.toList_ofList,
      List.append_assoc]
    exact Text.split_append_cons _ not_feed_columnLine rfl
  rw [withoutComments, written, lines_preamble h, List.filter_append, hdropped, List.nil_append,
    ← hrows]
  rfl

/-- Where the header stays on its lines, a reader that drops the comments is left with the names of
the columns and the records exactly when the texts of the records bring no `#` to the beginning of a
line. -/
theorem read_report_iff {header : Header} (h : IsPlain header) (records : List Record) :
    read (withoutComments (written header records)) = some (rowsOf records) ↔
      ∀ r ∈ records, IsUncommented r := by
  obtain ⟨text, htext⟩ := exists_join_lines columns (records.map plainFields)
  have hread := read_rowsOf records
  have hcomments : HasComment (String.join ((rowsOf records).map line)).toList ↔
      HasComment (String.join (records.map row)).toList := by
    have hcolumns : ¬HasComment columnLine := by
      rw [hasComment_iff, not_or]
      exact ⟨by decide, not_hidesComment_of_plain (by decide)⟩
    rw [join_rowsOf, String.toList_append, String.toList_append, String.toList_ofList,
      List.append_assoc]
    exact hasComment_append_feed.trans (or_iff_right hcolumns)
  rw [withoutComments_written h, ← not_hasComment_rows_iff, ← hcomments]
  rw [rowsOf, htext] at hread ⊢
  exact read_withoutComments_iff hread

/-- **Comments stay apart.** A report whose header texts stay on their lines and whose records bring
no `#` to the beginning of a line starts with exactly four comments. The fifth line names the
columns, no line of a row is a comment, and a reader that drops the lines that start with a `#` is
left with the names of the columns and one row for each record, in order, each of which decodes to
its record. -/
theorem report_comments_apart (header : Header) (records : List Record) (hheader : IsPlain header)
    (hrecords : ∀ r ∈ records, IsUncommented r) :
    ∃ text four rows,
      (report (journal .appending) header records).run.run "" = (.ok (), text) ∧
      lines text = four ++ columnLine :: rows ∧
      four.length = 4 ∧ (∀ line ∈ four, ['#', ' '] <+: line) ∧
      (∀ line ∈ rows, isComment line = false) ∧
      (∀ r ∈ records, (row r).toList.head? ≠ some '#') ∧
      read (withoutComments text) = some (columns :: records.map plainFields) ∧
      (records.map plainFields).mapM ofFields? = some (records.map told) := by
  obtain ⟨four, hfour, hmarks, hlines⟩ := (lines_report_iff header records).2 hheader
  refine ⟨written header records, four, _, ?_, hlines, hfour, hmarks, ?_, ?_,
    (read_report_iff hheader records).2 hrecords, ?_⟩
  · rw [report_leaves, String.empty_append]
  · have hnone := (not_hasComment_rows_iff records).2 hrecords
    exact fun line hline => eq_false_of_ne_true fun hcomment => hnone ⟨line, hline, hcomment⟩
  · intro r hr hhead
    exact (not_hasComment_row_iff r).2 (hrecords r hr) (hasComment_iff.2 (.inl hhead))
  · rw [List.mapM_map]
    simp only [Function.comp_def, ofFields?_plainFields]
    exact List.mapM_pure

/-- The header of a report about a device. -/
def headerOf (device : String) : Header :=
  { title := "host", device, timer := "wall", started := "T" }

/-- The record of a failed preparation. -/
def failedRecord (backend message : String) : Record where
  backend
  configuration := ⟨.complex, .inPlace, .single, ⟨[4], by decide, by decide, by simp⟩⟩
  trial := ⟨0, false⟩
  phase := .setup
  durationNs := 0
  status := .failed
  message := some message

/-- A message may be of several lines, and a `#` may stand anywhere but at the beginning of one. -/
theorem report_comments_apart_quoted :
    IsPlain (headerOf "GPU #0") ∧
      (∀ r ∈ [failedRecord "host #1" "no plan:\n out of # memory"], IsUncommented r) ∧
      ∃ text four rows,
        (report (journal .appending) (headerOf "GPU #0")
          [failedRecord "host #1" "no plan:\n out of # memory"]).run.run "" = (.ok (), text) ∧
        lines text = four ++ columnLine :: rows ∧ four.length = 4 ∧
        (∀ line ∈ rows, isComment line = false) ∧
        read (withoutComments text) =
          some [columns, plainFields (failedRecord "host #1" "no plan:\n out of # memory")] := by
  have hheader : IsPlain (headerOf "GPU #0") := by decide
  have hrecords : ∀ r ∈ [failedRecord "host #1" "no plan:\n out of # memory"], IsUncommented r := by
    decide +kernel
  obtain ⟨text, four, rows, hrun, hlines, hfour, -, hrows, -, hread, -⟩ :=
    report_comments_apart _ _ hheader hrecords
  exact ⟨hheader, hrecords, text, four, rows, hrun, hlines, hfour, hrows, hread⟩

/-- A device whose description has two lines leaves a line among the comments that is none, so that
a reader finds a row that nobody wrote. A record whose backend starts with a `#`, or whose message
has one at the beginning of a line, is not read as it was written. -/
theorem report_comments_leak :
    (∃ text, (report (journal .appending) (headerOf "A\nB") []).run.run "" = (.ok (), text) ∧
      (¬∃ four : List (List Char), four.length = 4 ∧ (∀ line ∈ four, ['#', ' '] <+: line) ∧
        lines text = four ++ columnLine :: lines "") ∧
      read (withoutComments text) = some [["B"], columns]) ∧
    (∃ text, (report (journal .appending) (headerOf "A") [failedRecord "#1" ""]).run.run "" =
        (.ok (), text) ∧
      (row (failedRecord "#1" "")).toList.head? = some '#' ∧
      read (withoutComments text) ≠ some [columns, plainFields (failedRecord "#1" "")]) ∧
    ∃ text, (report (journal .appending) (headerOf "A") [failedRecord "host" "B\n#C"]).run.run "" =
        (.ok (), text) ∧
      read (withoutComments text) ≠ some [columns, plainFields (failedRecord "host" "B\n#C")] := by
  have hleaves (header : Header) (records : List Record) :
      (report (journal .appending) header records).run.run "" =
        (.ok (), written header records) := by
    rw [report_leaves, String.empty_append]
  have hplain : IsPlain (headerOf "A") := by decide
  have hlost {r : Record} (h : ¬IsUncommented r) :
      read (withoutComments (written (headerOf "A") [r])) ≠ some (rowsOf [r]) :=
    fun hread => h ((read_report_iff hplain [r]).1 hread r List.mem_cons_self)
  refine ⟨⟨_, hleaves _ _, ?_, ?_⟩, ⟨_, hleaves _ _, ?_, hlost ?_⟩, ⟨_, hleaves _ _, hlost ?_⟩⟩
  · exact fun hlayout => absurd ((lines_report_iff _ []).1 hlayout) (by decide)
  · decide +kernel
  · decide +kernel
  · decide +kernel
  · decide +kernel

end Csv

end SpectralBench.Journal
