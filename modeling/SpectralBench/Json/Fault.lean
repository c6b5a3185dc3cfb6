import SpectralBench.Decimal.Shortest
import SpectralBench.Text.Quoted

/-!
# Faults of a document

What can stop the reading of a JSON document: the text breaks the grammar, or a value is not what
the reader expects at its place. A document is read from left to right, and its first fault ends the
reading.
-/

namespace SpectralBench.Json

open Binary

/-- A number as a document gives it: a natural number below `2 ^ 64`, the negative of a positive one
up to `2 ^ 63`, or a double. -/
inductive Number where
  | natural (value : Nat)
  | negative (value : Nat)
  | real (value : Double)
  deriving DecidableEq, Repr

/-- What a reader found where it expected something else. -/
inductive Found where
  | null
  | bool (value : Bool)
  | number (value : Number)
  | text (value : String)
  | sequence
  | map
  deriving DecidableEq, Repr

/-- Why reading ended. -/
inductive Fault where
  | endInList
  | endInObject
  | endInString
  | endInValue
  | expectedColon
  | expectedListEnd
  | expectedObjectEnd
  | expectedWord
  | expectedValue
  | badEscape
  | cutEscape
  | loneSurrogate
  | controlCharacter
  | badNumber
  | numberOutOfRange
  | keyNotString
  | trailingComma
  | trailingCharacters
  | tooDeep
  | wrongType (found : Found) (expected : String)
  | wrongValue (found : Found) (expected : String)
  | wrongLength (length : Nat) (expected : String)
  | missingField (name : String)
  | duplicateField (name : String)
  | unknownField (name : String) (known : List String)
  | unknownLabel (name : String) (known : List String)
  | refused (reason : String)
  deriving DecidableEq, Repr

/-- A name between backticks. -/
def ticked (name : String) : String :=
  "\x60" ++ name ++ "\x60"

/-- The choice that a list of names leaves. -/
def choice : List String → String
  | [a] => ticked a
  | [a, b] => ticked a ++ " or " ++ ticked b
  | names => "one of " ++ ", ".intercalate (names.map ticked)

def Number.title : Number → String
  | .natural n => "integer " ++ ticked (toString n)
  | .negative n => "integer " ++ ticked ("-" ++ toString n)
  | .real x => "floating point " ++ ticked x.compact

def Found.title : Found → String
  | .null => "null"
  | .bool value => "boolean " ++ ticked (if value then "true" else "false")
  | .number value => value.title
  | .text value => "string " ++ Text.quoted value
  | .sequence => "sequence"
  | .map => "map"

def Fault.message : Fault → String
  | .endInList => "EOF while parsing a list"
  | .endInObject => "EOF while parsing an object"
  | .endInString => "EOF while parsing a string"
  | .endInValue => "EOF while parsing a value"
  | .expectedColon => "expected " ++ ticked ":"
  | .expectedListEnd => "expected " ++ choice [",", "]"]
  | .expectedObjectEnd => "expected " ++ choice [",", "\x7d"]
  | .expectedWord => "expected ident"
  | .expectedValue => "expected value"
  | .badEscape => "invalid escape"
  | .cutEscape => "unexpected end of hex escape"
  | .loneSurrogate => "lone leading surrogate in hex escape"
  | .controlCharacter =>
    "control character (\\u0000-\\u001F) found while parsing a string"
  | .badNumber => "invalid number"
  | .numberOutOfRange => "number out of range"
  | .keyNotString => "key must be a string"
  | .trailingComma => "trailing comma"
  | .trailingCharacters => "trailing characters"
  | .tooDeep => "recursion limit exceeded"
  | .wrongType found expected => s!"invalid type: {found.title}, expected {expected}"
  | .wrongValue found expected => s!"invalid value: {found.title}, expected {expected}"
  | .wrongLength length expected => s!"invalid length {length}, expected {expected}"
  | .missingField name => "missing field " ++ ticked name
  | .duplicateField name => "duplicate field " ++ ticked name
  | .unknownField name known => "unknown field " ++ ticked name ++ ", expected " ++ choice known
  | .unknownLabel name known => "unknown variant " ++ ticked name ++ ", expected " ++ choice known
  | .refused reason => reason

end SpectralBench.Json
