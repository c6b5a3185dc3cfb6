import SpectralBench.Text.Pattern.Escape

/-!
# Sets of characters in brackets

Between brackets stand characters, ranges of them, sets that have a letter or a name, and further
brackets. They are united first; then intersections, differences and symmetric differences are taken
from left to right. A bracket that is still open is an `Opened`, and the brackets around it are the
list of those that wait for it.
-/

namespace SpectralBench.Text.Pattern

/-- A set and the number of levels that it nests as it was written. -/
structure SetPart where
  set : CharSet
  levels : Nat
  deriving DecidableEq, Repr

namespace SetPart

/-- The union of parts, of which the last comes first. -/
def sum : List SetPart → SetPart
  | [] => ⟨.none, 0⟩
  | [part] => part
  | last :: earlier =>
    let unite (later part : SetPart) : SetPart :=
      ⟨.union part.set later.set, max part.levels later.levels⟩
    let whole := earlier.foldl unite last
    { whole with levels := whole.levels + 1 }

end SetPart

/-- What is done with two sets. -/
inductive SetOperation where
  | intersection
  | difference
  | symmetricDifference
  deriving DecidableEq, Repr

def SetOperation.apply : SetOperation → CharSet → CharSet → CharSet
  | .intersection => .shared
  | .difference => .without
  | .symmetricDifference => .unshared

/-- A bracket that is still open. -/
structure Opened where
  /-- What is not in the bracket is meant. -/
  outside : Bool
  /-- The first set of an operation that waits for its second. -/
  pending : Option (SetPart × SetOperation)
  /-- What has been read since, the last first. -/
  parts : List SetPart
  deriving DecidableEq, Repr

namespace Opened

def add (part : SetPart) (bracket : Opened) : Opened :=
  { bracket with parts := part :: bracket.parts }

/-- The set that has been read so far. -/
def value (mode : Mode) (bracket : Opened) : SetPart :=
  let second := SetPart.sum bracket.parts
  match bracket.pending with
  | none => second
  | some (first, operation) =>
    ⟨operation.apply (mode.cased first.set) (mode.cased second.set),
      max first.levels second.levels + 1⟩

/-- The bracket behind the sign of an operation. -/
def operate (mode : Mode) (operation : SetOperation) (bracket : Opened) : Opened :=
  { bracket with pending := some (bracket.value mode, operation), parts := [] }

/-- The set of the bracket at its end. -/
def closed? (mode : Mode) (bracket : Opened) : Option SetPart := do
  let whole := bracket.value mode
  let set ← mode.settled? bracket.outside whole.set
  some ⟨set, whole.levels + 1⟩

/-- Reads the start of a bracket. Minus signs stand for themselves there, and so does a closing
bracket that comes first. -/
def read? (mode : Mode) (text : List Char) : Option (Opened × List Char) := do
  let text := mode.skip text
  let outside : Bool := text.head? = some '^'
  let text := if outside then mode.skip text.tail else text
  let (signs, text) := mode.collect (· = '-') text
  let isMember : Bool := signs.isEmpty && text.head? = some ']'
  let text := if isMember then mode.skip text.tail else text
  let sets ← (if isMember then [']'] else signs).mapM (mode.item? <| .single ·)
  some (⟨outside, none, sets.map (⟨·, 0⟩)⟩, text)

end Opened

/-- The character that an escape stands for. -/
def Escape.character : Escape → Option Char
  | .literal c | .byte c => some c
  | _ => none

/-- The escape as an item of a bracket. -/
def Escape.item? (mode : Mode) : Escape → Option CharSet
  | .literal c | .byte c => mode.item? (.single c)
  | .shorthand set outside => mode.shorthand? outside set
  | _ => none

/-- Reads a set that has a name between colons, behind its opening bracket. -/
def namedSet? (text : List Char) : Option (CharSet × Bool × List Char) := do
  if text.head? != some ':' then none
  let outside : Bool := text.tail.head? = some '^'
  let text := if outside then text.tail.tail else text.tail
  let name := text.takeWhile (· != ':')
  let rest := text.dropWhile (· != ':')
  guard ([':', ']'].isPrefixOf rest)
  let set ← CharSet.named? (String.ofList name)
  some (set, outside, rest.drop 2)

/-- Reads a character or an escape. -/
def readAtom? (mode : Mode) (text : List Char) : Option (Escape × List Char) := do
  let c ← text.head?
  if c = '\\' then Escape.read? mode text.tail else some (.literal c, text.tail)

/-- Reads a character, a range or a letter's set. A minus sign makes no range in front of another
one or of the end. -/
def readRange? (mode : Mode) (text : List Char) : Option (CharSet × List Char) := do
  let (first, rest) ← readAtom? mode text
  let rest := mode.skip rest
  let ahead := mode.peek? rest.tail
  if rest.head? != some '-' || ahead = some ']' || ahead = some '-' then
    let set ← first.item? mode
    some (set, rest)
  else
    let (last, rest) ← readAtom? mode (mode.skip rest.tail)
    let low ← first.character
    let high ← last.character
    guard (low ≤ high)
    let set ← mode.item? (.range low high)
    some (set, rest)

/-- What an item leads to. -/
inductive Inside where
  /-- A bracket is open, and others may be around it. -/
  | within (bracket : Opened) (around : List Opened)
  | through (part : SetPart)
  deriving DecidableEq, Repr

/-- The operation with whose sign a text starts. -/
def operation? (text : List Char) : Option SetOperation :=
  if ['&', '&'].isPrefixOf text then some .intersection
  else if ['-', '-'].isPrefixOf text then some .difference
  else if ['~', '~'].isPrefixOf text then some .symmetricDifference
  else none

/-- Reads one item in a bracket. -/
def readItem? (mode : Mode) (bracket : Opened) (around : List Opened) (text : List Char) :
    Option (Inside × List Char) := do
  let c ← text.head?
  if c = ']' then
    let part ← bracket.closed? mode
    match around with
    | [] => some (.through part, text.tail)
    | outer :: further => some (.within (outer.add part) further, text.tail)
  else if c = '[' then
    match namedSet? text.tail with
    | some (named, outside, rest) =>
      let item ← mode.item? named
      let set ← mode.settled? outside item
      some (.within (bracket.add ⟨set, 0⟩) around, rest)
    | none =>
      let (inner, rest) ← Opened.read? mode text.tail
      some (.within inner (bracket :: around), rest)
  else
    match operation? text with
    | some operation => some (.within (bracket.operate mode operation) around, text.drop 2)
    | none =>
      let (set, rest) ← readRange? mode text
      some (.within (bracket.add ⟨set, 0⟩) around, rest)

/-- Reads to the end of the outermost bracket. -/
def readInside? (mode : Mode) (bracket : Opened) (around : List Opened) (text : List Char) :
    Option (SetPart × List Char) :=
  match readItem? mode bracket around (mode.skip text) with
  | some (.within bracket around, rest) =>
    if rest.length < text.length then readInside? mode bracket around rest else none
  | some (.through part, rest) => some (part, rest)
  | none => none
termination_by text.length

/-- Reads a set in brackets, behind the first of them. -/
def readBracket? (mode : Mode) (text : List Char) : Option (SetPart × List Char) := do
  let (bracket, rest) ← Opened.read? mode text
  readInside? mode bracket [] rest

end SpectralBench.Text.Pattern
