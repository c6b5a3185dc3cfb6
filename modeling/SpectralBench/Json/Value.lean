import SpectralBench.Json.Fault

/-!
# Values and their written form

A JSON value, with the fields of an object in the order in which they are written. The written form
has no blanks. Strings escape the quote, the backslash and the control characters below the space,
so that a written value never contains a line feed.
-/

namespace SpectralBench.Json

inductive Value where
  | null
  | bool (value : Bool)
  | number (value : Number)
  | text (value : String)
  | array (items : List Value)
  | object (fields : List (String × Value))

/-- The letter of a character that has a short escape. -/
def shortEscape? (c : Char) : Option Char :=
  match c with
  | '"' => some '"'
  | '\\' => some '\\'
  | '\x08' => some 'b'
  | '\x0c' => some 'f'
  | '\n' => some 'n'
  | '\r' => some 'r'
  | '\t' => some 't'
  | _ => none

/-- A lowercase hexadecimal digit. -/
def hexDigit (n : Nat) : Char :=
  Nat.digitChar (n % 16)

/-- How a character is written inside a string. -/
def escape (c : Char) : List Char :=
  match shortEscape? c with
  | some letter => ['\\', letter]
  | none =>
    if c.toNat < 0x20 then ['\\', 'u', '0', '0', hexDigit (c.toNat / 16), hexDigit c.toNat]
    else [c]

/-- A string between quotes. -/
def writeText (text : String) : List Char :=
  '"' :: text.toList.flatMap escape ++ ['"']

/-- A number; a double that no numeral stands for is written as null. -/
def writeNumber : Number → List Char
  | .natural n => Nat.toDigits 10 n
  | .negative n => '-' :: Nat.toDigits 10 n
  | .real x => if x.isFinite then x.compact.toList else "null".toList

mutual

def Value.write : Value → List Char
  | .null => "null".toList
  | .bool value => if value then "true".toList else "false".toList
  | .number value => writeNumber value
  | .text value => writeText value
  | .array items => '[' :: writeItems true items
  | .object fields => '\x7b' :: writeFields true fields

/-- The rest of an array, from its first item or from a comma on. -/
def writeItems (first : Bool) : List Value → List Char
  | [] => [']']
  | item :: rest => (if first then [] else [',']) ++ item.write ++ writeItems false rest

/-- The rest of an object, from its first field or from a comma on. -/
def writeFields (first : Bool) : List (String × Value) → List Char
  | [] => ['\x7d']
  | (name, value) :: rest =>
    (if first then [] else [',']) ++ writeText name ++ ':' :: value.write ++ writeFields false rest

end

/-- The written form. -/
def Value.written (value : Value) : String :=
  .ofList value.write

end SpectralBench.Json
