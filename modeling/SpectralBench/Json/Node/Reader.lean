import SpectralBench.Json.Node.Number
import SpectralBench.Json.Node.Text

/-!
# Reading nodes

The node that a text starts with, and the text behind it. Where a value is damaged nothing is left
behind it, because no reader goes on from there. Blanks are the space, the line feed, the carriage
return and the tab.
-/

namespace SpectralBench.Json

/-- The four blanks between the tokens of a document. -/
def isGap (c : Char) : Bool :=
  c = ' ' || c = '\n' || c = '\t' || c = '\r'

def skipGaps (text : List Char) : List Char :=
  text.dropWhile isGap

/-- Reads the letters of a word behind its first one. -/
def readWord (node : Node) : (letters text : List Char) → Node × List Char
  | [], text => (node, text)
  | _ :: _, [] => (.broken .endInValue .endInValue, [])
  | letter :: letters, c :: text =>
    if c = letter then readWord node letters text else (.broken .expectedWord .expectedWord, [])

/-- Reads a string behind its quote, as a value. -/
def readTextNode (text : List Char) : Node × List Char :=
  let shown := readText text
  match shown.read, shown.skipped with
  | read, .ok rest => (.text (read.map .ofList), rest)
  | .error read, .error skipped => (.brokenText read skipped, [])
  | .ok _, .error skipped => (.brokenText skipped skipped, [])

mutual

/-- Reads a value. -/
def readNode : (fuel : Nat) → List Char → Node × List Char
  | 0, _ => (.absent, [])
  | fuel + 1, text =>
    match skipGaps text with
    | [] => (.absent, [])
    | 'n' :: rest => readWord .null ['u', 'l', 'l'] rest
    | 't' :: rest => readWord (.bool true) ['r', 'u', 'e'] rest
    | 'f' :: rest => readWord (.bool false) ['a', 'l', 's', 'e'] rest
    | '-' :: rest => readNumber true rest
    | '"' :: rest => readTextNode rest
    | '[' :: rest =>
      let (items, ending, rest) := readItems fuel true rest
      (.array items ending, rest)
    | '\x7b' :: rest =>
      let (entries, ending, rest) := readEntries fuel true rest
      (.object entries ending, rest)
    | c :: rest =>
      if (Decimal.digit? c).isSome then readNumber false (c :: rest)
      else (.broken .expectedValue .expectedValue, [])

/-- Reads the rest of an array. -/
def readItems : (fuel : Nat) → (first : Bool) → List Char → List Node × ArrayEnd × List Char
  | 0, _, _ => ([], .cut, [])
  | fuel + 1, first, text =>
    let item (text : List Char) : List Node × ArrayEnd × List Char :=
      let (node, rest) := readNode fuel text
      let (items, ending, rest) := readItems fuel false rest
      (node :: items, ending, rest)
    match first, skipGaps text with
    | _, [] => ([], .cut, [])
    | _, ']' :: rest => ([], .closed, rest)
    | true, text => item text
    | false, ',' :: rest =>
      match skipGaps rest with
      | [] => ([], .commaCut, [])
      | ']' :: rest => ([], .comma, rest)
      | text => item text
    | false, _ => ([], .unseparated, [])

/-- Reads the rest of an object. -/
def readEntries : (fuel : Nat) → (first : Bool) → List Char →
    List (Except Fault String × Node) × ObjectEnd Node × List Char
  | 0, _, _ => ([], .cut, [])
  | fuel + 1, first, text =>
    let entry (text : List Char) :
        List (Except Fault String × Node) × ObjectEnd Node × List Char :=
      match text with
      | '"' :: rest =>
        match readTextNode rest with
        | (.text key, rest) =>
          match skipGaps rest with
          | ':' :: rest =>
            let (node, rest) := readNode fuel rest
            let (entries, ending, rest) := readEntries fuel false rest
            ((key, node) :: entries, ending, rest)
          | [] => ([], .keyCut key, [])
          | _ => ([], .noColon key, [])
        | (.brokenText read skipped, _) => ([], .brokenKey read skipped, [])
        | (_, _) => ([], .cut, [])
      | text => ([], .stray (readNode fuel text).1, [])
    match first, skipGaps text with
    | _, [] => ([], .cut, [])
    | _, '\x7d' :: rest => ([], .closed, rest)
    | true, text => entry text
    | false, ',' :: rest =>
      match skipGaps rest with
      | [] => ([], .commaCut, [])
      | '\x7d' :: rest => ([], .comma, rest)
      | text => entry text
    | false, _ => ([], .unseparated, [])

end

/-- The node of a document, and whether something other than blanks is behind it. Every two steps of
the readers take a character off the text, so twice its length is enough for them. -/
def readDocument (text : String) : Node × Bool :=
  let characters := text.toList
  let (node, rest) := readNode (2 * characters.length + 2) characters
  (node, !(skipGaps rest).isEmpty)

end SpectralBench.Json
