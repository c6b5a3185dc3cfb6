import SpectralBench.Word

/-!
# Unsigned decimal numerals

A numeral is a run of ASCII digits, optionally after one plus sign, whose value is a 64-bit word.
The reader goes from left to right and reports the first character at which the text stops being a
numeral, so a value that has already grown too large hides a bad digit behind it.
-/

namespace SpectralBench.Decimal

/-- Why a text is no numeral. -/
inductive NumeralFault where
  | empty
  | badDigit
  | tooLarge
  deriving DecidableEq, Repr

def NumeralFault.message : NumeralFault → String
  | .empty => "cannot parse integer from empty string"
  | .badDigit => "invalid digit found in string"
  | .tooLarge => "number too large to fit in target type"

/-- The value of an ASCII digit. -/
def digit? (c : Char) : Option Nat :=
  if '0' ≤ c ∧ c ≤ '9' then some (c.toNat - '0'.toNat) else none

/-- Reads digits onto a value that was read before them. -/
def readDigits (value : Nat) : List Char → Except NumeralFault Nat
  | [] => .ok value
  | c :: rest =>
    match digit? c with
    | none => .error .badDigit
    | some d =>
      if value * 10 + d < Word.count then readDigits (value * 10 + d) rest else .error .tooLarge

/-- Reads a numeral. A sign alone is not one. -/
def readNatural : List Char → Except NumeralFault UInt64
  | [] => .error .empty
  | ['+'] => .error .badDigit
  | '+' :: digits => (readDigits 0 digits).map .ofNat
  | digits => (readDigits 0 digits).map .ofNat

/-- The value of a run of digits, read as a number to the base ten. -/
def ofDigits (digits : List Nat) : Nat :=
  digits.foldl (fun value d => value * 10 + d) 0

/-- The decimal digits of a number, without leading zeros; zero has one digit. -/
def decimalDigits (n : Nat) : List Char :=
  Nat.toDigits 10 n

end SpectralBench.Decimal
