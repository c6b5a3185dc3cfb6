import SpectralBench.Extent

/-!
# Lists of extents

A list of extents has one extent on each line. What follows a number sign is a comment, and a line
that is blank without its comment is passed over. The first line that is no extent stops the reader,
which names it by its number.

Main statements:

* `meaning_append_comment` — what stands behind a number sign does not matter.
* `readFrom_append` — a list is read piece by piece.
-/

namespace SpectralBench.Extent.Listing

/-- The line that stopped the reader, counted from one, and why. -/
structure Fault where
  line : Nat
  failure : Failure
  deriving DecidableEq

def Fault.message (fault : Fault) : String :=
  s!"line {fault.line}: {fault.failure.message}"

/-- A line without its comment and the blanks around it. -/
def meaning (line : List Char) : List Char :=
  Text.trim (line.takeWhile (· ≠ '#'))

/-- What stands behind a number sign does not matter, be it the first one or not. -/
theorem meaning_append_comment (line comment : List Char) :
    meaning (line ++ '#' :: comment) = meaning line := by
  have hcut : (line ++ '#' :: comment).takeWhile (· ≠ '#') = line.takeWhile (· ≠ '#') := by
    rw [List.takeWhile_append]
    split
    · rename_i hall
      rw [List.takeWhile_cons_of_neg (by decide), List.append_nil]
      exact ((List.takeWhile_prefix _).eq_of_length hall).symm
    · rfl
  rw [meaning, meaning, hcut]

/-- The extents of one line: none or one. -/
def readLine (number : Nat) (line : List Char) : Except Fault (List Extent) :=
  if (meaning line).isEmpty then .ok []
  else
    match Extent.read (.ofList (meaning line)) with
    | .ok extent => .ok [extent]
    | .error failure => .error ⟨number, failure⟩

/-- Reads lines, the first of which has the given number. -/
def readFrom (number : Nat) : List (List Char) → Except Fault (List Extent)
  | [] => .ok []
  | line :: rest =>
    match readLine number line with
    | .error fault => .error fault
    | .ok here => (readFrom (number + 1) rest).map (here ++ ·)

theorem readFrom_append {number : Nat} {first : List (List Char)} {extents : List Extent}
    (rest : List (List Char)) (h : readFrom number first = .ok extents) :
    readFrom number (first ++ rest) =
      (readFrom (number + first.length) rest).map (extents ++ ·) := by
  induction first generalizing number extents with
  | nil =>
    simp only [readFrom, Except.ok.injEq] at h
    subst h
    cases hr : readFrom number rest <;> simp [hr, Except.map]
  | cons line first ih =>
    rw [readFrom] at h
    rw [List.cons_append, readFrom]
    cases hl : readLine number line with
    | error fault => simp [hl] at h
    | ok here =>
      simp only [hl] at h ⊢
      cases hf : readFrom (number + 1) first with
      | error fault => simp [hf, Except.map] at h
      | ok others =>
        simp only [hf, Except.map, Except.ok.injEq] at h
        subst h
        rw [ih hf, List.length_cons, Nat.add_right_comm, Nat.add_assoc]
        cases hr : readFrom (number + (first.length + 1)) rest <;>
          simp [Except.map]

/-- Reads a list of extents. -/
def read (text : String) : Except Fault (List Extent) :=
  readFrom 1 (Text.lines text.toList)

end SpectralBench.Extent.Listing
