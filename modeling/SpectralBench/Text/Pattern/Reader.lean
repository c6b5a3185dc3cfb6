import SpectralBench.Text.Letter
import SpectralBench.Text.Pattern.Bracket
import SpectralBench.Text.Pattern.Weight

/-!
# Reading search patterns

A pattern is read item by item. Groups that are still open wait with what stands in front of them,
and the mode that holds there holds again at their end. A text is no pattern if something in it is
missing or unknown, if it nests too many levels, if the states of a search for it take too much room,
or if the search would have to know the words of all scripts.
-/

namespace SpectralBench.Text.Pattern

/-- A part of a pattern. -/
structure Piece where
  pattern : Pattern
  /-- The number of levels that it nests as it was written. -/
  levels : Nat
  /-- A change of the mode cannot be repeated. -/
  isRepeatable : Bool
  deriving DecidableEq, Repr

namespace Piece

/-- Pieces joined two by two, the last of them first. -/
def join (connect : Pattern → Pattern → Pattern) : List Piece → Piece
  | [] => ⟨.nothing, 0, true⟩
  | [piece] => piece
  | last :: earlier =>
    let add (later piece : Piece) : Piece :=
      ⟨connect piece.pattern later.pattern, max piece.levels later.levels, true⟩
    let whole := earlier.foldl add last
    { whole with levels := whole.levels + 1 }

/-- Pieces one after the other. -/
def sequence (pieces : List Piece) : Piece :=
  join .both pieces

/-- Pieces of which one is there. -/
def choice (pieces : List Piece) : Piece :=
  join .either pieces

/-- The piece in parentheses. -/
def grouped (isMarked : Bool) (piece : Piece) : Piece :=
  ⟨if isMarked then .marked piece.pattern else piece.pattern, piece.levels + 1, true⟩

end Piece

/-- What has been read of a group, or of the whole pattern. -/
structure Draft where
  mode : Mode
  /-- The ends of the group are marked. -/
  isMarked : Bool
  /-- The branches that have been read, the last first. -/
  branches : List Piece
  /-- The pieces of the branch that is being read, the last first. -/
  pieces : List Piece
  deriving DecidableEq, Repr

namespace Draft

def begin (mode : Mode) (isMarked : Bool) : Draft :=
  ⟨mode, isMarked, [], []⟩

def add (piece : Piece) (draft : Draft) : Draft :=
  { draft with pieces := piece :: draft.pieces }

def addSet (set : CharSet) (draft : Draft) : Draft :=
  draft.add ⟨.one set, 0, true⟩

def addSpot (spot : Spot) (draft : Draft) : Draft :=
  draft.add ⟨.spot spot, 0, true⟩

/-- Goes on with another branch. -/
def branch (draft : Draft) : Draft :=
  { draft with branches := Piece.sequence draft.pieces :: draft.branches, pieces := [] }

def piece (draft : Draft) : Piece :=
  Piece.choice (Piece.sequence draft.pieces :: draft.branches)

/-- Repeats the last piece. -/
def repeat? (least : Nat) (most : Option Nat) (draft : Draft) : Option Draft :=
  match draft.pieces with
  | [] => none
  | last :: earlier =>
    if last.isRepeatable then
      let repeated : Piece := ⟨.times last.pattern least most, last.levels + 1, true⟩
      some { draft with pieces := repeated :: earlier }
    else none

/-- Adds what an escape stands for. A byte beyond ASCII is no text. -/
def escape? (draft : Draft) : Escape → Option Draft
  | .literal c => (draft.mode.literal? c).map (draft.addSet ·)
  | .byte c =>
    if !draft.mode.unicode && '\x7f' < c then none
    else (draft.mode.literal? c).map (draft.addSet ·)
  | .shorthand set outside => (draft.mode.shorthand? outside set).map (draft.addSet ·)
  | .start => some (draft.addSpot .start)
  | .finish => some (draft.addSpot .finish)
  | .word edge => some (draft.addSpot (.word edge draft.mode.unicode))

/-- The anchor at the start of texts or lines. -/
def startSpot (mode : Mode) : Spot :=
  if mode.multiline then .lineStart mode.returns else .start

/-- The anchor at the end of texts or lines. -/
def finishSpot (mode : Mode) : Spot :=
  if mode.multiline then .lineFinish mode.returns else .finish

end Draft

/-! ## Counts and names -/

/-- Reads a number, with blanks around it. Its value is a word of 32 bits. -/
def readCount? (mode : Mode) (text : List Char) : Option (Nat × List Char) := do
  let (digits, rest) := mode.collect Char.isDigit (text.dropWhile isBlank)
  let value := digits.foldl (fun value c => value * 10 + (c.toNat - '0'.toNat)) 0
  guard (!digits.isEmpty && value < 4294967296)
  some (value, rest.dropWhile isBlank)

/-- Reads how often a piece is there, behind the opening brace. -/
def readCounts? (mode : Mode) (text : List Char) : Option (Nat × Option Nat × List Char) := do
  let (least, rest) ← readCount? mode (mode.skip text)
  if rest.head? != some ',' then
    guard (rest.head? = some '\x7d')
    some (least, some least, rest.tail)
  else
    let rest := mode.skip rest.tail
    if rest.head? = some '\x7d' then some (least, none, rest.tail)
    else
      let (most, rest) ← readCount? mode rest
      guard (rest.head? = some '\x7d' && least ≤ most)
      some (least, some most, rest.tail)

/-- Drops the sign that prefers fewer repetitions, which makes no difference to a search. -/
def dropPreference (text : List Char) : List Char :=
  if text.head? = some '?' then text.tail else text

/-- Whether a text names a group. -/
def isGroupName : List Char → Bool
  | [] => false
  | first :: rest =>
    (first = '_' || isLetter first) &&
      rest.all fun c => ['_', '.', '[', ']'].contains c || isLetter c || isNumber c

/-! ## Groups -/

/-- A pattern that is being read. -/
structure Unfinished where
  current : Draft
  /-- The drafts around the group that is being read, the innermost first. -/
  around : List Draft
  /-- The names of the groups. -/
  names : List (List Char)
  deriving DecidableEq, Repr

namespace Unfinished

def begin : Unfinished :=
  ⟨.begin .usual false, [], []⟩

/-- Goes on inside of a group. -/
def enter (mode : Mode) (isMarked : Bool) (reading : Unfinished) : Unfinished :=
  { reading with current := .begin mode isMarked, around := reading.current :: reading.around }

/-- Reads the name of a group and enters it. -/
def enterNamed? (reading : Unfinished) (text : List Char) : Option (Unfinished × List Char) := do
  let name := text.takeWhile (· != '>')
  let rest := text.dropWhile (· != '>')
  guard (!rest.isEmpty && isGroupName name && !reading.names.contains name)
  some ({ reading.enter reading.current.mode true with names := name :: reading.names }, rest.tail)

/-- Reads flags, and enters a group if they end at a colon. Without a group they hold to the end of
the group that is being read. -/
def enterUnder? (reading : Unfinished) (text : List Char) : Option (Unfinished × List Char) := do
  let isFlag (c : Char) := c != ':' && c != ')'
  let flags := text.takeWhile isFlag
  let rest := text.dropWhile isFlag
  let mode ← reading.current.mode.under? flags
  guard (!rest.isEmpty)
  if rest.head? = some ':' then some (reading.enter mode false, rest.tail)
  else
    guard (!flags.isEmpty)
    let changed := { reading.current.add ⟨.nothing, 0, false⟩ with mode }
    some ({ reading with current := changed }, rest.tail)

/-- Reads what stands behind an opening parenthesis. -/
def open? (reading : Unfinished) (text : List Char) : Option (Unfinished × List Char) :=
  let text := reading.current.mode.skip text
  if ['?', 'P', '<'].isPrefixOf text then reading.enterNamed? (text.drop 3)
  else if ['?', '<'].isPrefixOf text then reading.enterNamed? (text.drop 2)
  else if ['?'].isPrefixOf text then reading.enterUnder? (text.drop 1)
  else some (reading.enter reading.current.mode true, text)

/-- Leaves the group that is being read. -/
def close? (reading : Unfinished) : Option Unfinished :=
  match reading.around with
  | [] => none
  | outer :: further =>
    let group := reading.current.piece.grouped reading.current.isMarked
    some { reading with current := outer.add group, around := further }

/-- Changes the innermost draft. -/
def map (change : Draft → Draft) (reading : Unfinished) : Unfinished :=
  { reading with current := change reading.current }

/-- Repeats the last piece. -/
def repeat? (least : Nat) (most : Option Nat) (reading : Unfinished) : Option Unfinished :=
  (reading.current.repeat? least most).map fun draft => { reading with current := draft }

/-! ## Items -/

/-- Reads one item, of which `c` is the first character. -/
def readItem? (reading : Unfinished) (c : Char) (rest : List Char) :
    Option (Unfinished × List Char) :=
  let mode := reading.current.mode
  match c with
  | '(' => reading.open? rest
  | ')' => do
    let outer ← reading.close?
    some (outer, rest)
  | '|' => some (reading.map (·.branch), rest)
  | '?' => do
    let repeated ← reading.repeat? 0 (some 1)
    some (repeated, dropPreference rest)
  | '*' => do
    let repeated ← reading.repeat? 0 none
    some (repeated, dropPreference rest)
  | '+' => do
    let repeated ← reading.repeat? 1 none
    some (repeated, dropPreference rest)
  | '\x7b' => do
    let (least, most, rest) ← readCounts? mode rest
    let repeated ← reading.repeat? least most
    some (repeated, dropPreference (mode.skip rest))
  | '[' => do
    let (part, rest) ← readBracket? mode rest
    some (reading.map (·.add ⟨.one part.set, part.levels, true⟩), rest)
  | '\\' => do
    let (escape, rest) ← Escape.read? mode rest
    let draft ← reading.current.escape? escape
    some ({ reading with current := draft }, rest)
  | '.' => do
    let set ← mode.dot?
    some (reading.map (·.addSet set), rest)
  | '^' => some (reading.map (·.addSpot (Draft.startSpot mode)), rest)
  | '$' => some (reading.map (·.addSpot (Draft.finishSpot mode)), rest)
  | c => do
    let set ← mode.literal? c
    some (reading.map (·.addSet set), rest)

/-- The pattern at the end of its text. -/
def finish? (reading : Unfinished) : Option Piece :=
  if reading.around.isEmpty then some reading.current.piece else none

/-- Reads to the end of a text. -/
def finishOn? (reading : Unfinished) (text : List Char) : Option Piece :=
  match reading.current.mode.skip text with
  | [] => reading.finish?
  | c :: behind =>
    match reading.readItem? c behind with
    | none => none
    | some (reading, rest) =>
      if rest.length < text.length then reading.finishOn? rest else none
termination_by text.length

end Unfinished

/-- The number of levels that a pattern may nest. -/
def mostLevels : Nat := 250

/-- The number of bytes that the states of a search may take. -/
def mostWeight : Nat := 10485760

/-- The pattern that a text describes. -/
def read? (text : List Char) : Option Pattern := do
  let piece ← Unfinished.begin.finishOn? text
  guard (piece.levels ≤ mostLevels && piece.pattern.searchWeight ≤ mostWeight &&
    !piece.pattern.needsScripts)
  some piece.pattern

end SpectralBench.Text.Pattern
