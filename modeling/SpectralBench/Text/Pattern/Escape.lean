import SpectralBench.Text.Hexadecimal
import SpectralBench.Text.Pattern
import SpectralBench.Text.Pattern.Mode

/-!
# Escapes of search patterns

A backslash takes its meaning from a character that has one, and gives one to letters that have
none: a control, a code point, a set of characters or a place between them.
-/

namespace SpectralBench.Text.Pattern

/-- What stands behind a backslash. -/
inductive Escape where
  | literal (c : Char)
  /-- A character by two digits, which give its byte. -/
  | byte (c : Char)
  /-- The members of a set of ASCII, or what is outside of it. -/
  | shorthand (set : CharSet) (outside : Bool)
  | start
  | finish
  | word (edge : WordEdge)
  deriving DecidableEq, Repr

namespace Escape

/-- The character with a code point. -/
def character? (n : Nat) : Option Char :=
  if n.isValidChar then some (.ofNat n) else none

/-- Reads a number of digits onto the value of those in front. -/
def fixedCode? (mode : Mode) : (count value : Nat) → List Char → Option (Nat × List Char)
  | 0, value, text => some (value, text)
  | count + 1, value, text => do
    let c ← text.head?
    let digit ← hexValue? c
    fixedCode? mode count (value * 16 + digit) (mode.skip text.tail)

/-- Reads digits and a closing brace. -/
def bracedCode? (mode : Mode) (text : List Char) : Option (Nat × List Char) := do
  let (digits, rest) := mode.collect (hexValue? · |>.isSome) text
  guard (!digits.isEmpty && rest.head? = some '\x7d')
  let value := digits.foldl (fun value c => value * 16 + (hexValue? c).getD 0) 0
  some (value, mode.skip rest.tail)

/-- Reads a code point, in as many digits as there have to be or in braces. -/
def code? (mode : Mode) (count : Nat) (text : List Char) : Option (Escape × List Char) := do
  let text := mode.skip text
  if text.head? = some '\x7b' then
    let (value, rest) ← bracedCode? mode (mode.skip text.tail)
    let c ← character? value
    some (.literal c, rest)
  else
    let (value, rest) ← fixedCode? mode count 0 text
    let c ← character? value
    some (if count = 2 then .byte c else .literal c, rest)

/-- The edge that a name in braces stands for. -/
def edge? (name : String) : Option WordEdge :=
  match name with
  | "start" => some .opening
  | "end" => some .closing
  | "start-half" => some .noneBefore
  | "end-half" => some .noneAfter
  | _ => none

/-- Reads the name of an edge in braces, if one follows. Anything but a letter or a minus sign
behind the brace is a count. -/
def wordEdge? (mode : Mode) (text : List Char) : Option (Escape × List Char) :=
  let isPart (c : Char) := c.isAlpha || c = '-'
  let (name, rest) := mode.collect isPart (mode.skip text.tail)
  if text.head? != some '\x7b' || (name.isEmpty && !rest.isEmpty) then some (.word .boundary, text)
  else do
    guard (rest.head? = some '\x7d')
    let edge ← edge? (String.ofList name)
    some (.word edge, rest.tail)

/-- What one character behind a backslash stands for. -/
def letter? (c : Char) : Option Escape :=
  match c with
  | 'a' => some (.literal '\x07')
  | 'f' => some (.literal '\x0c')
  | 't' => some (.literal '\t')
  | 'n' => some (.literal '\n')
  | 'r' => some (.literal '\r')
  | 'v' => some (.literal '\x0b')
  | 'd' => some (.shorthand .digits false)
  | 's' => some (.shorthand .blanks false)
  | 'w' => some (.shorthand .word false)
  | 'D' => some (.shorthand .digits true)
  | 'S' => some (.shorthand .blanks true)
  | 'W' => some (.shorthand .word true)
  | 'A' => some .start
  | 'z' => some .finish
  | 'B' => some (.word .noBoundary)
  | '<' => some (.word .opening)
  | '>' => some (.word .closing)
  | c => if c ≤ '\x7f' && !c.isAlphanum then some (.literal c) else none

/-- Reads what stands behind a backslash. -/
def read? (mode : Mode) (text : List Char) : Option (Escape × List Char) := do
  let c ← text.head?
  if c = 'x' then code? mode 2 text.tail
  else if c = 'u' then code? mode 4 text.tail
  else if c = 'U' then code? mode 8 text.tail
  else if c = 'b' then wordEdge? mode text.tail
  else
    let escape ← letter? c
    some (escape, text.tail)

end Escape

end SpectralBench.Text.Pattern
