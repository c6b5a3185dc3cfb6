import SpectralBench.Extent.Listing
import SpectralBench.Proofs.Text
import Mathlib.Data.List.Forall2

/-!
# What a list of extents says

A list of extents is cut at its line feeds. Whether there is a carriage return before one, and
whether the last line has one, does not matter, since blanks at the end of a line do not. So each
line stands for itself: it holds no extent or one, or it offends. A text is read if none of its
lines offends, and otherwise the first one that does is named by its number, which counts the line
feeds before it.

Texts are therefore read one behind the other, if a line feed stands between them: what is read from
the second one only depends on the first by the numbers of its lines. What stands behind a number
sign up to the end of the line is not read.

Main statements:

* `readLine_eq_ok_iff`, `readLine_eq_error_iff` — what is read from one line.
* `readFrom_eq_ok_iff`, `readFrom_eq_error_iff` — what is read from many.
* `read_append_feed` — two texts with a line feed between them.
* `read_comment` — what stands behind a number sign is not read.
* `read_line_by_line` — all of this about whole texts.
-/

namespace SpectralBench.Extent.Listing

variable {number : ℕ} {line : List Char} {lines : List (List Char)} {extents : List Extent}
  {fault : Fault}

/-! ## One line -/

/-- What a line says: without a carriage return at its end, up to its first number sign, and without
the blanks around that. -/
def content (line : List Char) : List Char :=
  meaning (Text.dropCarriageReturn line)

/-- The extents that a line holds: none, if it says nothing, or the one that it spells. -/
inductive Holds (line : List Char) : List Extent → Prop where
  | blank (h : content line = []) : Holds line []
  | extent {e : Extent} (h : Extent.read (.ofList (content line)) = .ok e) : Holds line [e]

/-- A line that says something, which is no extent. -/
def Offends (line : List Char) (failure : Failure) : Prop :=
  content line ≠ [] ∧ Extent.read (.ofList (content line)) = .error failure

theorem meaning_append_blanks {blanks : List Char} (h : ∀ c ∈ blanks, Text.isBlank c = true)
    (line : List Char) : meaning (line ++ blanks) = meaning line := by
  rw [meaning, meaning, List.takeWhile_append]
  split
  · rename_i hall
    rw [Text.trim_append fun c hc => h c (List.takeWhile_subset _ hc),
      (List.takeWhile_prefix _).eq_of_length hall]
  · rfl

/-- A carriage return is a blank. -/
theorem content_eq_meaning (line : List Char) : content line = meaning line := by
  rw [content, Text.dropCarriageReturn]
  split
  · rename_i hreturn
    conv_rhs => rw [← List.dropLast_append_getLast? '\r' hreturn]
    exact (meaning_append_blanks (List.forall_mem_singleton.2 rfl) _).symm
  · rfl

/-- A line is read for what it says. -/
theorem readLine_congr {other : List Char} (h : meaning line = meaning other) :
    readLine number line = readLine number other := by
  rw [readLine, readLine, h]

/-- An empty text is no extent. -/
theorem read_empty_ne_ok (e : Extent) : Extent.read (.ofList []) ≠ .ok e := by
  intro h
  cases h

theorem readLine_eq_ok_iff : readLine number line = .ok extents ↔ Holds line extents := by
  rw [readLine, ← content_eq_meaning]
  constructor
  · intro h
    split at h
    · rename_i hblank
      cases h
      exact .blank (List.isEmpty_iff.1 hblank)
    · split at h
      · rename_i e hread
        cases h
        exact .extent hread
      · cases h
  · rintro (hblank | hread)
    · rw [hblank]
      rfl
    · rename_i e
      rw [if_neg, hread]
      intro hblank
      rw [List.isEmpty_iff.1 hblank] at hread
      exact read_empty_ne_ok e hread

theorem readLine_eq_error_iff :
    readLine number line = .error fault ↔ Offends line fault.failure ∧ fault.line = number := by
  rw [readLine, ← content_eq_meaning, Offends]
  constructor
  · intro h
    split at h
    · cases h
    · rename_i hne
      split at h
      · cases h
      · rename_i failure hread
        cases h
        exact ⟨⟨fun hblank => hne (List.isEmpty_iff.2 hblank), hread⟩, rfl⟩
  · rintro ⟨⟨hne, hread⟩, rfl⟩
    rw [if_neg fun hblank => hne (List.isEmpty_iff.1 hblank), hread]

/-! ## Many lines -/

theorem readFrom_cons_eq_ok_iff :
    readFrom number (line :: lines) = .ok extents ↔
      ∃ here others, readLine number line = .ok here ∧
        readFrom (number + 1) lines = .ok others ∧ extents = here ++ others := by
  rw [readFrom]
  cases hline : readLine number line with
  | error found => simp
  | ok here =>
    cases hothers : readFrom (number + 1) lines with
    | error found => simp [Except.map]
    | ok others => simp [Except.map, eq_comm]

theorem readFrom_cons_eq_error_iff :
    readFrom number (line :: lines) = .error fault ↔
      readLine number line = .error fault ∨
        (∃ here, readLine number line = .ok here) ∧ readFrom (number + 1) lines = .error fault := by
  rw [readFrom]
  cases hline : readLine number line with
  | error found => simp
  | ok here =>
    cases hothers : readFrom (number + 1) lines with
    | error found => simp [Except.map]
    | ok others => simp [Except.map]

/-- A list is read if each of its lines holds something, and this is what is read. -/
theorem readFrom_eq_ok_iff :
    readFrom number lines = .ok extents ↔
      ∃ found, List.Forall₂ Holds lines found ∧ extents = found.flatten := by
  induction lines generalizing number extents with
  | nil =>
    constructor
    · intro h
      cases h
      exact ⟨[], .nil, rfl⟩
    · rintro ⟨found, hfound, rfl⟩
      cases hfound
      rfl
  | cons line lines ih =>
    rw [readFrom_cons_eq_ok_iff]
    constructor
    · rintro ⟨here, others, hline, hothers, rfl⟩
      obtain ⟨found, hfound, rfl⟩ := ih.1 hothers
      exact ⟨here :: found, .cons (readLine_eq_ok_iff.1 hline) hfound, rfl⟩
    · rintro ⟨found, hfound, rfl⟩
      obtain ⟨here, others, hhere, hothers, rfl⟩ := List.forall₂_cons_left_iff.1 hfound
      exact ⟨here, _, readLine_eq_ok_iff.2 hhere, ih.2 ⟨others, hothers, rfl⟩, rfl⟩

/-- The first line that offends stops the reader. -/
theorem readFrom_eq_error_iff :
    readFrom number lines = .error fault ↔
      ∃ earlier line later, lines = earlier ++ line :: later ∧
        (∀ other ∈ earlier, ∃ found, Holds other found) ∧ Offends line fault.failure ∧
        fault.line = number + earlier.length := by
  induction lines generalizing number with
  | nil =>
    constructor
    · intro h
      cases h
    · rintro ⟨earlier, line, later, hlines, -⟩
      exact absurd hlines.symm (by simp)
  | cons first lines ih =>
    rw [readFrom_cons_eq_error_iff, readLine_eq_error_iff, ih]
    simp only [readLine_eq_ok_iff]
    constructor
    · rintro (⟨hoffends, hnumber⟩ | ⟨hfirst, earlier, line, later, rfl, hearlier, hoffends, hnumber⟩)
      · exact ⟨[], first, lines, rfl, List.forall_mem_nil _, hoffends, hnumber⟩
      · refine ⟨first :: earlier, line, later, rfl, List.forall_mem_cons.2 ⟨hfirst, hearlier⟩,
          hoffends, ?_⟩
        rw [hnumber, List.length_cons]
        omega
    · rintro ⟨earlier, line, later, hlines, hearlier, hoffends, hnumber⟩
      cases earlier with
      | nil =>
        obtain ⟨rfl, -⟩ := List.cons.inj hlines
        exact .inl ⟨hoffends, hnumber⟩
      | cons other earlier =>
        obtain ⟨rfl, rfl⟩ := List.cons.inj hlines
        obtain ⟨hfirst, hearlier⟩ := List.forall_mem_cons.1 hearlier
        refine .inr ⟨hfirst, earlier, line, later, rfl, hearlier, hoffends, ?_⟩
        rw [hnumber, List.length_cons]
        omega

/-- A line that offends is the last one to be looked at. -/
theorem readFrom_append_error (rest : List (List Char)) (h : readFrom number lines = .error fault) :
    readFrom number (lines ++ rest) = .error fault := by
  obtain ⟨earlier, line, later, rfl, hline⟩ := readFrom_eq_error_iff.1 h
  refine readFrom_eq_error_iff.2 ⟨earlier, line, later ++ rest, ?_, hline⟩
  rw [List.append_assoc, List.cons_append]

/-! ## Numbers of lines -/

/-- A fault in a text that stands below some other lines. -/
def Fault.below (fault : Fault) (above : ℕ) : Fault :=
  { fault with line := fault.line + above }

theorem readLine_add (number above : ℕ) (line : List Char) :
    readLine (number + above) line = (readLine number line).mapError (·.below above) := by
  rw [readLine, readLine]
  split
  · rfl
  · split <;> rfl

theorem readFrom_add (number above : ℕ) (lines : List (List Char)) :
    readFrom (number + above) lines = (readFrom number lines).mapError (·.below above) := by
  induction lines generalizing number with
  | nil => rfl
  | cons line lines ih =>
    rw [readFrom, readFrom, readLine_add, Nat.add_right_comm, ih]
    cases readLine number line with
    | error found => rfl
    | ok here => cases readFrom (number + 1) lines <;> rfl

/-! ## Whole texts -/

/-- Carriage returns before line feeds do not matter, nor does a line feed at the end. -/
theorem readFrom_ofPieces (number : ℕ) (pieces : List (List Char)) :
    readFrom number (Text.ofPieces pieces) = readFrom number pieces := by
  induction pieces generalizing number with
  | nil => rfl
  | cons piece pieces ih =>
    cases pieces with
    | nil =>
      rw [Text.ofPieces]
      split
      · rename_i hempty
        rw [List.isEmpty_iff.1 hempty]
        rfl
      · rfl
    | cons next pieces =>
      rw [Text.ofPieces, readFrom, readFrom, readLine_congr (content_eq_meaning piece), ih]
      exact List.cons_ne_nil _ _

theorem read_eq_readFrom (text : String) :
    read text = readFrom 1 (Text.split (· = '\n') text.toList) :=
  readFrom_ofPieces 1 _

/-- Two texts with a line feed between them are read one behind the other. -/
theorem read_append_feed (s t : String) :
    read (s ++ "\n" ++ t) = do
      let first ← read s
      let rest ← (read t).mapError (·.below (s.toList.count '\n' + 1))
      return first ++ rest := by
  have hpieces : Text.split (· = '\n') (s ++ "\n" ++ t).toList =
      Text.split (· = '\n') s.toList ++ Text.split (· = '\n') t.toList := by
    rw [String.toList_append, String.toList_append, show "\n".toList = ['\n'] from rfl,
      List.append_assoc, List.singleton_append]
    exact Text.split_append_cons_separator _ _ (by decide)
  rw [read_eq_readFrom, hpieces, read_eq_readFrom s]
  cases hfirst : readFrom 1 (Text.split (· = '\n') s.toList) with
  | error fault =>
    rw [readFrom_append_error _ hfirst]
    rfl
  | ok first =>
    rw [readFrom_append _ hfirst, readFrom_add, Text.length_split_feed, read_eq_readFrom t]
    cases readFrom 1 (Text.split (· = '\n') t.toList) <;> rfl

theorem readFrom_congr {others : List (List Char)} (h : lines.map meaning = others.map meaning) :
    readFrom number lines = readFrom number others := by
  induction lines generalizing number others with
  | nil => rw [List.map_eq_nil_iff.1 h.symm]
  | cons line lines ih =>
    obtain ⟨other, others, rfl, hline, hlines⟩ := List.map_eq_cons_iff.1 h.symm
    rw [readFrom, readFrom, readLine_congr hline.symm, ih hlines.symm]

/-- What stands behind a number sign, up to the end of the line, is not read. -/
theorem read_comment (before after : String) {comment other : String}
    (hcomment : '\n' ∉ comment.toList) (hother : '\n' ∉ other.toList) :
    read (before ++ "#" ++ comment ++ after) = read (before ++ "#" ++ other ++ after) := by
  obtain ⟨earlier, line, hbefore⟩ : ∃ earlier line,
      Text.split (· = '\n') before.toList = earlier ++ [line] :=
    ⟨_, _, (List.dropLast_concat_getLast (Text.split_ne_nil _ _)).symm⟩
  obtain ⟨rest, later, hafter⟩ :=
    List.exists_cons_of_ne_nil (Text.split_ne_nil (· = '\n') after.toList)
  -- the comment belongs to the line of its number sign, with what follows it there
  have hpieces {comment : String} (h : '\n' ∉ comment.toList) :
      Text.split (· = '\n') (before ++ "#" ++ comment ++ after).toList =
        earlier ++ (line ++ '#' :: (comment.toList ++ rest)) :: later := by
    have hfree : Text.split (· = '\n') ('#' :: comment.toList) = [] ++ ['#' :: comment.toList] :=
      Text.split_of_forall_not (List.forall_mem_cons.2 ⟨by decide, Text.not_feed_iff.2 h⟩)
    have htail := Text.split_append hfree hafter
    have htext : (before ++ "#" ++ comment ++ after).toList =
        before.toList ++ ('#' :: comment.toList ++ after.toList) := by
      simp only [String.toList_append, List.append_assoc, show "#".toList = ['#'] from rfl,
        List.cons_append, List.nil_append]
    rw [htext, Text.split_append hbefore htail]
    rfl
  rw [read_eq_readFrom, read_eq_readFrom, hpieces hcomment, hpieces hother]
  apply readFrom_congr
  rw [List.map_append, List.map_append, List.map_cons, List.map_cons, meaning_append_comment,
    meaning_append_comment]

/-- **A list is read line by line.** For every text:

* It is read exactly if each of its lines holds none or one extent, and it is read as these, in
  order.
* It is refused exactly if one of its lines offends and all before it hold something. The failure is
  that of this line, and its label is one more than the number of line feeds before it.
* With a line feed and another text behind it, it is read as the extents of both, unless it is
  refused itself; a fault of the other text counts its line from the beginning of this one.
* What stands behind a number sign of it, up to the end of the line, can be replaced. -/
theorem read_line_by_line (s : String) :
    (∀ extents, read s = .ok extents ↔
      ∃ lines found, Text.Cut (· = '\n') s.toList lines ∧ List.Forall₂ Holds lines found ∧
        extents = found.flatten) ∧
      (∀ fault, (read s = .error fault ↔
        ∃ earlier line, Text.StandsBehind earlier line s.toList ∧
          (∀ other ∈ earlier, ∃ found, Holds other found) ∧ Offends line fault.failure ∧
          fault.line = 1 + (earlier.flatMap (· ++ ['\n'])).count '\n') ∧
        fault.message = "line " ++ toString fault.line ++ ": " ++ fault.failure.message) ∧
      (∀ t : String, read (s ++ "\n" ++ t) = do
        let first ← read s
        let rest ← (read t).mapError (·.below (s.toList.count '\n' + 1))
        return first ++ rest) ∧
      ∀ before comment other after : String, s = before ++ "#" ++ comment ++ after →
        '\n' ∉ comment.toList → '\n' ∉ other.toList →
        read s = read (before ++ "#" ++ other ++ after) := by
  refine ⟨fun extents => ?_, fun fault => ⟨?_, rfl⟩, read_append_feed s, ?_⟩
  · rw [read_eq_readFrom, readFrom_eq_ok_iff]
    constructor
    · rintro ⟨found, hfound, rfl⟩
      exact ⟨_, found, Text.cut_split _ _, hfound, rfl⟩
    · rintro ⟨lines, found, hlines, hfound, rfl⟩
      rw [hlines.split_eq]
      exact ⟨found, hfound, rfl⟩
  · rw [read_eq_readFrom, readFrom_eq_error_iff]
    constructor
    · rintro ⟨earlier, line, later, hlines, hearlier, hoffends, hnumber⟩
      have hstands := Text.split_eq_append_cons_iff.1 ⟨later, hlines⟩
      refine ⟨earlier, line, hstands, hearlier, hoffends, ?_⟩
      rw [Text.count_feed_flatMap hstands.1, hnumber]
    · rintro ⟨earlier, line, hstands, hearlier, hoffends, hnumber⟩
      obtain ⟨later, hlines⟩ := Text.split_eq_append_cons_iff.2 hstands
      refine ⟨earlier, line, later, hlines, hearlier, hoffends, ?_⟩
      rw [hnumber, Text.count_feed_flatMap hstands.1]
  · rintro before comment other after rfl hcomment hother
    exact read_comment before after hcomment hother

/-- The second line offends, whatever the comment of the first one says. -/
theorem read_line_by_line_zero :
    read "8#a\n0x4" = .error ⟨2, .invalidExtent [0, 4] "every extent must be positive"⟩ ∧
      read "8#\n0x4" = read "8#a\n0x4" := by
  obtain ⟨-, hfaults, -, hcomments⟩ := read_line_by_line "8#a\n0x4"
  have hstands : Text.StandsBehind ["8#a".toList] "0x4".toList "8#a\n0x4".toList :=
    ⟨by decide, by decide, [], rfl, nofun⟩
  have hholds : Holds "8#a".toList [⟨[8], by decide, by decide, by simp⟩] := .extent rfl
  have hoffends : Offends "0x4".toList (.invalidExtent [0, 4] "every extent must be positive") :=
    ⟨by decide, rfl⟩
  constructor
  · exact (hfaults _).1.2 ⟨_, _, hstands, List.forall_mem_singleton.2 ⟨_, hholds⟩, hoffends, rfl⟩
  · exact (hcomments "8" "a" "" "\n0x4" rfl (by decide) (by decide)).symm

end SpectralBench.Extent.Listing
