import SpectralBench.Text.Blank
import SpectralBench.Text.CharSet

/-!
# Modes of search patterns

How the characters of a pattern are read depends on a mode, which flags in the pattern change. In
the spaced mode blanks and remarks are passed over between its tokens; a remark goes from a number
sign to the end of its line. Which letters are the cases of one is known of ASCII alone, so that a
mode that is caseless has to be one of bytes; and a byte has to be of ASCII to be a part of a text.

Main statements:

* `length_skip_le` — nothing is added by passing over.
-/

namespace SpectralBench.Text.Pattern

structure Mode where
  /-- The case of letters does not count. -/
  caseless : Bool
  /-- The two anchors stand for the ends of lines. -/
  multiline : Bool
  /-- The dot takes the ends of lines, too. -/
  dotAll : Bool
  /-- Characters are those of Unicode; otherwise they are bytes. -/
  unicode : Bool
  /-- Carriage returns end lines, too. -/
  returns : Bool
  /-- Blanks and remarks are passed over. -/
  spaced : Bool
  deriving DecidableEq, Repr

namespace Mode

/-- The mode at the start of a pattern. -/
def usual : Mode :=
  ⟨false, false, false, true, false, false⟩

/-! ## Passing over blanks -/

/-- Drops blanks and remarks; `remark` says whether the text begins inside of one. -/
def dropSpace (remark : Bool) : List Char → List Char
  | [] => []
  | c :: rest =>
    if remark then dropSpace (c != '\n') rest
    else if isBlank c then dropSpace false rest
    else if c = '#' then dropSpace true rest
    else c :: rest

def skip (mode : Mode) (text : List Char) : List Char :=
  if mode.spaced then dropSpace false text else text

theorem length_dropSpace_le (remark : Bool) (text : List Char) :
    (dropSpace remark text).length ≤ text.length := by
  induction text generalizing remark with
  | nil => exact Nat.le_refl _
  | cons c rest ih =>
    have hr := ih (c != '\n')
    have hf := ih false
    have ht := ih true
    rw [dropSpace]
    split <;> (try split) <;> (try split) <;> simp only [List.length_cons] <;> omega

theorem length_skip_le (mode : Mode) (text : List Char) :
    (mode.skip text).length ≤ text.length := by
  rw [skip]
  split
  · exact length_dropSpace_le false text
  · exact Nat.le_refl _

/-- The character that comes first in what follows. Here a remark ends at the first character of it
that is not blank. -/
def peek? (mode : Mode) (text : List Char) : Option Char :=
  if mode.spaced then
    let ahead := text.dropWhile isBlank
    let ahead := if ahead.head? = some '#' then ahead.tail.dropWhile isBlank else ahead
    ahead.head?.or text.head?
  else text.head?

/-- Collects characters from the start of a text, as long as they satisfy `isMember`, and passes
over what is to be passed over behind each. -/
def collect (mode : Mode) (isMember : Char → Bool) (text : List Char) : List Char × List Char :=
  match text with
  | [] => ([], [])
  | c :: rest =>
    if isMember c then
      let (taken, left) := mode.collect isMember (mode.skip rest)
      (c :: taken, left)
    else ([], c :: rest)
termination_by text.length
decreasing_by
  have := mode.length_skip_le rest
  simp only [List.length_cons]
  omega

/-! ## Flags -/

/-- The mode with one flag set or cleared. Which of several matches is preferred makes no difference
to a search, so the flag for that changes nothing. -/
def put? (mode : Mode) (on : Bool) (flag : Char) : Option Mode :=
  match flag with
  | 'i' => some { mode with caseless := on }
  | 'm' => some { mode with multiline := on }
  | 's' => some { mode with dotAll := on }
  | 'u' => some { mode with unicode := on }
  | 'R' => some { mode with returns := on }
  | 'x' => some { mode with spaced := on }
  | 'U' => some mode
  | _ => none

/-- The mode under flags: those behind a minus sign are cleared. None may be written twice. -/
def under? (mode : Mode) (flags : List Char) : Option Mode := do
  guard (flags.eraseDups = flags && flags.getLast? != some '-')
  let mode ← (flags.takeWhile (· != '-')).foldlM (put? · true) mode
  (flags.dropWhile (· != '-')).tail.foldlM (put? · false) mode

/-! ## Sets in a mode -/

/-- A set of characters as an item of a bracket. -/
def item? (mode : Mode) (set : CharSet) : Option CharSet :=
  if (if mode.unicode then !mode.caseless else set.isAscii) then some set else none

/-- The set as the case of letters has it. -/
def cased (mode : Mode) (set : CharSet) : CharSet :=
  if mode.caseless then .anyCase set else set

/-- The set, or what is outside of it. -/
def settled? (mode : Mode) (outside : Bool) (set : CharSet) : Option CharSet :=
  if !outside then some (mode.cased set)
  else if mode.unicode then some (.outside (mode.cased set))
  else none

/-- A set that a letter stands for. Those of Unicode are not known. -/
def shorthand? (mode : Mode) (outside : Bool) (set : CharSet) : Option CharSet :=
  if mode.unicode || outside then none else some set

/-- A character that stands for itself. -/
def literal? (mode : Mode) (c : Char) : Option CharSet :=
  if mode.unicode && mode.caseless then none
  else if mode.caseless && c.isAlpha then some (.anyCase (.single c))
  else some (.single c)

/-- Any character, but for the ends of lines. -/
def dot? (mode : Mode) : Option CharSet :=
  if !mode.unicode then none
  else if mode.dotAll then some (.outside .none)
  else if mode.returns then some (.outside (.ofList ['\n', '\r']))
  else some (.outside (.single '\n'))

end Mode

end SpectralBench.Text.Pattern
