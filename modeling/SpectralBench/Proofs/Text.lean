import SpectralBench.Text.Blank
import Mathlib.Data.List.DropRight

/-!
# Cutting and trimming, described

What it means to cut a text at separators, and to trim it, is said here without a word on how it is
done: a cut is a way to put the text together again from pieces that have no separator in them, and a
text is trimmed to what is left of it between blanks. Both are unique, so they are what `split` and
`trim` compute.

Texts that are put together are cut in their parts: only the last piece of the first text and the
first piece of the second one come together.

Main statements:

* `split_eq_iff`, `trim_eq_iff` — what `split` and `trim` compute.
* `split_append`, `split_append_cons_separator` — cutting two texts that are put together.
* `split_eq_append_cons_iff` — where a line stands in its text.
* `mem_words_iff`, `words_intercalate` — what `words` computes, and that it undoes a join with spaces.
-/

namespace SpectralBench.Text

variable {p : Char → Bool} {text rest line : List Char} {pieces : List (List Char)}

/-! ## Cuts -/

/-- A text that is put together from pieces without separators, with a separator between any two
neighbours. -/
inductive Cut (p : Char → Bool) : List Char → List (List Char) → Prop where
  | last {piece : List Char} (free : ∀ c ∈ piece, p c = false) : Cut p piece [piece]
  | more {piece rest : List Char} {separator : Char} {pieces : List (List Char)}
      (free : ∀ c ∈ piece, p c = false) (separates : p separator = true) (cut : Cut p rest pieces) :
      Cut p (piece ++ separator :: rest) (piece :: pieces)

theorem Cut.split_eq (h : Cut p text pieces) : split p text = pieces := by
  induction h with
  | last free => exact split_of_forall_not free
  | more free separates _ ih => rw [split_append_cons _ free separates, ih]

theorem Cut.cons (h : Cut p text (line :: pieces)) {c : Char} (hc : p c = false) :
    Cut p (c :: text) ((c :: line) :: pieces) := by
  cases h with
  | last free => exact .last (List.forall_mem_cons.2 ⟨hc, free⟩)
  | more free separates cut => exact .more (List.forall_mem_cons.2 ⟨hc, free⟩) separates cut

theorem cut_split (p : Char → Bool) (text : List Char) : Cut p text (split p text) := by
  induction text with
  | nil => exact .last (List.forall_mem_nil _)
  | cons c text ih =>
    obtain ⟨piece, later, hpieces⟩ := List.exists_cons_of_ne_nil (split_ne_nil p text)
    rw [hpieces] at ih
    rw [split, hpieces]
    cases hc : p c with
    | true => exact .more (List.forall_mem_nil _) hc ih
    | false => exact ih.cons hc

/-- There is one cut of a text, and `split` finds it. -/
theorem split_eq_iff : split p text = pieces ↔ Cut p text pieces :=
  ⟨fun h => h ▸ cut_split p text, Cut.split_eq⟩

/-- A text is put together again from its pieces, if there is one separator. -/
theorem intercalate_split (separator : Char) (text : List Char) :
    [separator].intercalate (split (· = separator) text) = text := by
  have hcut := cut_split (· = separator) text
  generalize split (· = separator) text = pieces at hcut
  induction hcut with
  | last _ => rw [List.intercalate_singleton]
  | more _ separates cut ih =>
    obtain rfl := of_decide_eq_true separates
    cases cut <;> rw [List.intercalate_cons_cons, ih, List.append_assoc, List.singleton_append]

theorem not_separator_of_mem_split {piece : List Char} (h : piece ∈ split p text) :
    ∀ c ∈ piece, p c = false := by
  have hcut := cut_split p text
  generalize split p text = pieces at h hcut
  induction hcut with
  | last free =>
    rw [List.mem_singleton.1 h]
    exact free
  | more free _ _ ih =>
    rcases List.mem_cons.1 h with rfl | h
    · exact free
    · exact ih h

/-! ## Texts that are put together -/

/-- The last piece of the first text goes on with the first piece of the second. -/
theorem split_append {before later : List (List Char)} {first : List Char}
    (htext : split p text = before ++ [line]) (hrest : split p rest = first :: later) :
    split p (text ++ rest) = before ++ (line ++ first) :: later := by
  induction text generalizing before line with
  | nil =>
    -- the empty text is its own piece, and no other comes before it
    obtain ⟨rfl, rfl⟩ : before = [] ∧ line = [] := by
      cases before with
      | nil => exact ⟨rfl, (List.cons.inj htext).1.symm⟩
      | cons _ before => exact absurd (List.cons.inj htext).2.symm (by simp)
    exact hrest
  | cons c text ih =>
    obtain ⟨piece, others, hpieces⟩ := List.exists_cons_of_ne_nil (split_ne_nil p text)
    rw [split, hpieces] at htext
    rw [List.cons_append, split]
    cases hc : p c with
    | true =>
      rw [hc] at htext
      cases before with
      | nil => cases htext
      | cons _ before =>
        obtain ⟨rfl, htail⟩ := List.cons.inj htext
        rw [ih (hpieces.trans htail)]
        rfl
    | false =>
      rw [hc] at htext
      cases before with
      | nil =>
        obtain ⟨rfl, rfl⟩ := List.cons.inj htext
        have hpieces : split p text = [] ++ [piece] := hpieces
        rw [ih hpieces]
        rfl
      | cons _ before =>
        obtain ⟨rfl, htail⟩ := List.cons.inj htext
        have hpieces : split p text = (piece :: before) ++ [line] := by rw [hpieces, htail]; rfl
        rw [ih hpieces]
        rfl

/-- A separator cuts a text in two. -/
theorem split_append_cons_separator (text rest : List Char) {separator : Char}
    (h : p separator = true) :
    split p (text ++ separator :: rest) = split p text ++ split p rest := by
  obtain ⟨before, line, hline⟩ : ∃ before line, split p text = before ++ [line] :=
    ⟨_, _, (List.dropLast_concat_getLast (split_ne_nil p text)).symm⟩
  have hrest : split p (separator :: rest) = [] :: split p rest := by rw [split, h]
  rw [split_append hline hrest, hline, List.append_assoc, List.append_nil]
  rfl

theorem split_flatMap_append {separator : Char} (hseparator : p separator = true)
    (h : ∀ piece ∈ pieces, ∀ c ∈ piece, p c = false) (rest : List Char) :
    split p (pieces.flatMap (· ++ [separator]) ++ rest) = pieces ++ split p rest := by
  induction pieces with
  | nil => rfl
  | cons piece pieces ih =>
    obtain ⟨hpiece, hpieces⟩ := List.forall_mem_cons.1 h
    rw [List.flatMap_cons, List.append_assoc, List.append_assoc, List.singleton_append,
      split_append_cons _ hpiece hseparator, ih hpieces, List.cons_append]

/-! ## Lines -/

/-- Whether a line stands in a text behind some others, each of them ended by a line feed: it has no
line feed itself, and the text ends behind it or goes on with one. -/
def StandsBehind (earlier : List (List Char)) (line text : List Char) : Prop :=
  (∀ other ∈ earlier, '\n' ∉ other) ∧ '\n' ∉ line ∧
    ∃ after, text = earlier.flatMap (· ++ ['\n']) ++ line ++ after ∧
      ∀ c ∈ after.head?, c = '\n'

theorem not_feed_iff : (∀ c ∈ line, (decide (c = '\n')) = false) ↔ '\n' ∉ line :=
  ⟨fun h hfeed => absurd (h '\n' hfeed) (by decide),
    fun h c hc => decide_eq_false fun heq => h (heq ▸ hc)⟩

theorem Cut.standsBehind {earlier later : List (List Char)}
    (h : Cut (· = '\n') text (earlier ++ line :: later)) : StandsBehind earlier line text := by
  induction earlier generalizing text with
  | nil =>
    refine ⟨List.forall_mem_nil _, ?_⟩
    cases h with
    | last free => exact ⟨not_feed_iff.1 free, [], (List.append_nil _).symm, by simp⟩
    | more free separates _ =>
      refine ⟨not_feed_iff.1 free, _, rfl, fun c hc => ?_⟩
      rw [← Option.some.inj hc]
      exact of_decide_eq_true separates
  | cons piece earlier ih =>
    rw [List.cons_append] at h
    generalize hrest : earlier ++ line :: later = pieces at h
    cases h with
    | last => exact absurd hrest (by simp)
    | more free separates cut =>
      subst hrest
      obtain ⟨hearlier, hline, after, rfl, hafter⟩ := ih cut
      obtain rfl := of_decide_eq_true separates
      refine ⟨List.forall_mem_cons.2 ⟨not_feed_iff.1 free, hearlier⟩, hline, after, ?_, hafter⟩
      simp

/-- The pieces between line feeds are the lines of a text, each behind the ones before it. -/
theorem split_eq_append_cons_iff {earlier : List (List Char)} :
    (∃ later, split (· = '\n') text = earlier ++ line :: later) ↔ StandsBehind earlier line text := by
  constructor
  · rintro ⟨later, h⟩
    exact (split_eq_iff.1 h).standsBehind
  · rintro ⟨hearlier, hline, after, rfl, hafter⟩
    have hfree := not_feed_iff.2 hline
    rw [List.append_assoc, split_flatMap_append (by decide) fun other hother =>
      not_feed_iff.2 (hearlier other hother)]
    cases after with
    | nil =>
      rw [List.append_nil, split_of_forall_not hfree]
      exact ⟨[], rfl⟩
    | cons c after =>
      obtain rfl := hafter c rfl
      rw [split_append_cons after hfree (by decide)]
      exact ⟨_, rfl⟩

/-- There are as many lines before a line as there are line feeds before it. -/
theorem count_feed_flatMap {earlier : List (List Char)} (h : ∀ other ∈ earlier, '\n' ∉ other) :
    (earlier.flatMap (· ++ ['\n'])).count '\n' = earlier.length := by
  induction earlier with
  | nil => rfl
  | cons other earlier ih =>
    obtain ⟨hother, hearlier⟩ := List.forall_mem_cons.1 h
    rw [List.flatMap_cons, List.count_append, List.count_append, List.count_eq_zero_of_not_mem hother,
      ih hearlier, List.length_cons, List.count_singleton_self]
    omega

theorem length_split_feed (text : List Char) :
    (split (· = '\n') text).length = text.count '\n' + 1 :=
  length_split _ text

/-! ## Trimming -/

/-- A text that is a core between blanks, where the core neither starts nor ends with one. -/
def TrimsTo (text core : List Char) : Prop :=
  EndsPlain core ∧ ∃ before after, text = before ++ core ++ after ∧
    (∀ c ∈ before, isBlank c = true) ∧ ∀ c ∈ after, isBlank c = true

/-- Blanks at the end of a text are trimmed away, whatever stands before them. -/
theorem trim_append {blanks : List Char} (h : ∀ c ∈ blanks, isBlank c = true) (text : List Char) :
    trim (text ++ blanks) = trim text := by
  have hreversed : ∀ c ∈ blanks.reverse, isBlank c = true := fun c hc => h c (List.mem_reverse.1 hc)
  have hend (start : List Char) : trimEnd (start ++ blanks) = trimEnd start := by
    rw [trimEnd, trimEnd, List.reverse_append, List.dropWhile_append_of_pos hreversed]
  have hblanks : trimStart blanks = [] := List.dropWhile_eq_nil_iff.2 h
  rw [trim, trim, trimStart, List.dropWhile_append]
  split
  · -- nothing is left of either
    rename_i hnone
    rw [trimStart, List.isEmpty_iff.1 hnone]
    exact congrArg trimEnd hblanks
  · exact hend _

theorem TrimsTo.trim_eq {core : List Char} (h : TrimsTo text core) : trim text = core := by
  obtain ⟨hends, before, after, rfl, hbefore, hafter⟩ := h
  rw [trim_append hafter, trim, trimStart, List.dropWhile_append_of_pos hbefore]
  exact trim_of_ends hends

/-- What is trimmed at the end is a beginning of the text. -/
theorem exists_blanks_trimEnd (text : List Char) :
    ∃ blanks, trimEnd text ++ blanks = text ∧ ∀ c ∈ blanks, isBlank c = true :=
  ⟨text.rtakeWhile isBlank, List.rdropWhile_append_rtakeWhile,
    fun _ hc => List.mem_rtakeWhile_imp hc⟩

theorem endsPlain_trim (text : List Char) : EndsPlain (trim text) := by
  constructor
  · intro c hc
    obtain ⟨blanks, hblanks, -⟩ := exists_blanks_trimEnd (trimStart text)
    have hhead : (trimStart text).head? = some c := by
      rw [← hblanks, List.head?_append, show (trimEnd (trimStart text)).head? = some c from hc]
      rfl
    have hfirst := List.head?_dropWhile_not isBlank text
    rwa [show (text.dropWhile isBlank).head? = some c from hhead] at hfirst
  · intro c hc
    obtain ⟨hne, rfl⟩ := List.mem_getLast?_eq_getLast hc
    exact eq_false_of_ne_true (List.rdropWhile_last_not isBlank (trimStart text) hne)

theorem trimsTo_trim (text : List Char) : TrimsTo text (trim text) := by
  obtain ⟨after, hafter, hallAfter⟩ := exists_blanks_trimEnd (trimStart text)
  refine ⟨endsPlain_trim text, text.takeWhile isBlank, after, ?_,
    fun c hc => List.mem_takeWhile_imp hc, hallAfter⟩
  rw [List.append_assoc, trim, hafter, trimStart, List.takeWhile_append_dropWhile]

/-- There is one core of a text, and `trim` finds it. -/
theorem trim_eq_iff {core : List Char} : trim text = core ↔ TrimsTo text core :=
  ⟨fun h => h ▸ trimsTo_trim text, TrimsTo.trim_eq⟩

/-! ## Words -/

/-- A run of characters that are not blank, with a blank or an end of the text on either side. -/
def IsWord (word text : List Char) : Prop :=
  word ≠ [] ∧ (∀ c ∈ word, isBlank c = false) ∧ ∃ before after, text = before ++ word ++ after ∧
    (∀ c ∈ before.getLast?, isBlank c = true) ∧ ∀ c ∈ after.head?, isBlank c = true

/-- A piece stands between separators, or at an end of the text. -/
theorem exists_around_of_mem_split {piece : List Char} (h : piece ∈ split p text) :
    ∃ before after, text = before ++ piece ++ after ∧
      (∀ c ∈ before.getLast?, p c = true) ∧ ∀ c ∈ after.head?, p c = true := by
  have hcut := cut_split p text
  generalize split p text = pieces at h hcut
  induction hcut with
  | last _ =>
    obtain rfl := List.mem_singleton.1 h
    exact ⟨[], [], by simp, by simp, by simp⟩
  | @more first rest separator _ _ separates _ ih =>
    rcases List.mem_cons.1 h with rfl | h
    · exact ⟨[], separator :: rest, by simp, by simp, by simpa using separates⟩
    · obtain ⟨before, after, rfl, hbefore, hafter⟩ := ih h
      refine ⟨first ++ separator :: before, after, by simp, fun c hc => ?_, hafter⟩
      rw [List.getLast?_append_cons] at hc
      cases before with
      | nil => rwa [← Option.some.inj hc]
      | cons d before => exact hbefore c (by rwa [List.getLast?_cons_cons] at hc)

/-- What has separators or an end on either side, and none inside, is a piece. -/
theorem mem_split_of_around {before piece after : List Char} (hfree : ∀ c ∈ piece, p c = false)
    (hbefore : ∀ c ∈ before.getLast?, p c = true) (hafter : ∀ c ∈ after.head?, p c = true) :
    piece ∈ split p (before ++ piece ++ after) := by
  have hfirst : piece ∈ split p (piece ++ after) := by
    cases after with
    | nil => rw [List.append_nil, split_of_forall_not hfree]; exact List.mem_singleton_self piece
    | cons separator after =>
      rw [split_append_cons after hfree (hafter separator rfl)]
      exact List.mem_cons_self
  rw [List.append_assoc]
  rcases List.eq_nil_or_concat before with rfl | ⟨others, separator, rfl⟩
  · exact hfirst
  · have hseparates : p separator = true := hbefore separator (by simp)
    rw [List.concat_eq_append, List.append_assoc, List.singleton_append,
      split_append_cons_separator _ _ hseparates]
    exact List.mem_append_right _ hfirst

theorem mem_words_iff {word : List Char} : word ∈ words text ↔ IsWord word text := by
  rw [words, List.mem_filter, Bool.not_eq_true', List.isEmpty_eq_false_iff]
  constructor
  · rintro ⟨hmem, hne⟩
    exact ⟨hne, not_separator_of_mem_split hmem, exists_around_of_mem_split hmem⟩
  · rintro ⟨hne, hfree, before, after, rfl, hbefore, hafter⟩
    exact ⟨mem_split_of_around hfree hbefore hafter, hne⟩

/-- Words with a space between neighbours are the words of the text that they make. -/
theorem words_intercalate (h : ∀ word ∈ pieces, word ≠ [] ∧ ∀ c ∈ word, isBlank c = false) :
    words ([' '].intercalate pieces) = pieces := by
  cases pieces with
  | nil => rfl
  | cons first later =>
    rw [words, split_intercalate (by simp) (fun word hword => (h word hword).2) (by decide)]
    refine List.filter_eq_self.2 fun word hword => ?_
    rw [Bool.not_eq_true', List.isEmpty_eq_false_iff]
    exact (h word hword).1

end SpectralBench.Text
