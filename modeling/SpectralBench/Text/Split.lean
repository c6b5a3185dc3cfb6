/-!
# Pieces and lines of a text

Texts are read as lists of characters. `split` cuts at every character of a class and keeps the
empty pieces, so the number of pieces is one more than the number of separators; `lines` cuts at
line feeds, where a last line needs no line feed of its own.

Main statements:

* `split_ne_nil` — there is always a first piece.
* `length_split` — one piece more than there are separators.
* `split_of_forall_not` — a text without separators is its only piece.
* `split_intercalate`, `split_flatMap` — what was put together from pieces, with separators between
  them or behind each of them, comes apart into those pieces.
-/

namespace SpectralBench.Text

/-- The pieces of a text between the characters that satisfy `isSeparator`. -/
def split (isSeparator : Char → Bool) : List Char → List (List Char)
  | [] => [[]]
  | c :: rest =>
    match isSeparator c, split isSeparator rest with
    | true, pieces => [] :: pieces
    | false, [] => [[c]]
    | false, piece :: pieces => (c :: piece) :: pieces

theorem split_ne_nil (p : Char → Bool) (text : List Char) : split p text ≠ [] := by
  cases text with
  | nil => simp [split]
  | cons c rest => rw [split]; split <;> simp

theorem length_split (p : Char → Bool) (text : List Char) :
    (split p text).length = text.countP p + 1 := by
  induction text with
  | nil => rfl
  | cons c rest ih =>
    rw [split]
    split
    · rename_i h; simp [h, ih]
    · rename_i h; exact absurd h (split_ne_nil p rest)
    · rename_i hc h; simp_all

theorem split_of_forall_not {p : Char → Bool} {text : List Char}
    (h : ∀ c ∈ text, p c = false) : split p text = [text] := by
  induction text with
  | nil => rfl
  | cons c rest ih =>
    have hc : p c = false := h c (by simp)
    have hr : split p rest = [rest] := ih fun d hd => h d (by simp [hd])
    simp [split, hc, hr]

/-- A piece that is ended by a separator comes off the front. -/
theorem split_append_cons {p : Char → Bool} {piece : List Char} {s : Char} (rest : List Char)
    (h : ∀ c ∈ piece, p c = false) (hs : p s = true) :
    split p (piece ++ s :: rest) = piece :: split p rest := by
  induction piece with
  | nil => simp [split, hs]
  | cons c piece ih =>
    have hc : p c = false := h c (by simp)
    rw [List.cons_append, split, hc, ih fun d hd => h d (by simp [hd])]

theorem split_intercalate {p : Char → Bool} {s : Char} {pieces : List (List Char)}
    (hne : pieces ≠ []) (h : ∀ piece ∈ pieces, ∀ c ∈ piece, p c = false) (hs : p s = true) :
    split p ([s].intercalate pieces) = pieces := by
  induction pieces with
  | nil => exact absurd rfl hne
  | cons piece pieces ih =>
    have hpiece : ∀ c ∈ piece, p c = false := h piece (by simp)
    cases pieces with
    | nil => rw [List.intercalate_singleton, split_of_forall_not hpiece]
    | cons next pieces =>
      rw [List.intercalate_cons_cons, List.append_assoc, List.singleton_append,
        split_append_cons _ hpiece hs, ih (by simp) fun q hq => h q (by simp [hq])]

theorem forall_mem_intercalate {P : Char → Prop} {glue : List Char} {pieces : List (List Char)}
    (hglue : ∀ c ∈ glue, P c) (h : ∀ piece ∈ pieces, ∀ c ∈ piece, P c) :
    ∀ c ∈ glue.intercalate pieces, P c := by
  induction pieces with
  | nil => simp
  | cons piece pieces ih =>
    have hpiece : ∀ c ∈ piece, P c := h piece (by simp)
    cases pieces with
    | nil => rwa [List.intercalate_singleton]
    | cons next pieces =>
      rw [List.intercalate_cons_cons, List.append_assoc]
      simp only [List.mem_append]
      rintro c (hc | hc | hc)
      · exact hpiece c hc
      · exact hglue c hc
      · exact ih (fun q hq => h q (by simp [hq])) c hc

theorem split_flatMap {p : Char → Bool} {s : Char} {pieces : List (List Char)}
    (h : ∀ piece ∈ pieces, ∀ c ∈ piece, p c = false) (hs : p s = true) :
    split p (pieces.flatMap (· ++ [s])) = pieces ++ [[]] := by
  induction pieces with
  | nil => rfl
  | cons piece pieces ih =>
    rw [List.flatMap_cons, List.append_assoc, List.singleton_append,
      split_append_cons _ (h piece (by simp)) hs, ih fun q hq => h q (by simp [hq]),
      List.cons_append]

/-- Drops one carriage return at the end, if there is one. -/
def dropCarriageReturn (line : List Char) : List Char :=
  if line.getLast? = some '\r' then line.dropLast else line

/-- The lines among the pieces between line feeds: every piece but the last was ended by a line
feed, and the last is a line only when it is not empty. -/
def ofPieces : List (List Char) → List (List Char)
  | [] => []
  | [last] => if last.isEmpty then [] else [last]
  | piece :: rest => dropCarriageReturn piece :: ofPieces rest

/-- The lines of a text, each without its line feed and the carriage return before it. -/
def lines (text : List Char) : List (List Char) :=
  ofPieces (split (· = '\n') text)

/-- `glue` between neighbouring pieces. -/
def joinWith (glue : String) (pieces : List String) : String :=
  glue.intercalate pieces

end SpectralBench.Text
