import SpectralBench.Binary.Double
import SpectralBench.Decimal.Natural

/-!
# Decimal numerals for doubles

A numeral is an optional sign followed by `inf`, `infinity` or `nan` in any case, or by digits with
at most one point among or around them and an optional power of ten. At least one digit stands
before the power, and at least one in it. The value is the double nearest to the exact decimal.
-/

namespace SpectralBench.Decimal

open SpectralBench.Binary

/-- Splits a text after its leading ASCII digits. -/
def spanDigits (text : List Char) : List Char × List Char :=
  (text.takeWhile (digit? · |>.isSome), text.dropWhile (digit? · |>.isSome))

/-- The value of a run of ASCII digits. -/
def valueOf (run : List Char) : Nat :=
  ofDigits (run.filterMap digit?)

/-- The double nearest to `significand * 10 ^ exponent`. Beyond a thousand decimal places on either
side of the significand the result is known without the power. -/
def ofScientific (negative : Bool) (significand : Nat) (exponent : Int) : Double :=
  let size := (decimalDigits significand).length
  if significand = 0 then .finite negative 0
  else if 1000 < exponent + size then .infinite negative
  else if exponent + size < -1000 then .finite negative 0
  else if 0 ≤ exponent then Double.ofRatio negative (significand * Nat.pow 10 exponent.toNat) 1
  else Double.ofRatio negative significand (Nat.pow 10 exponent.natAbs)

/-- Takes a sign off the front of a text; no sign is a plus. -/
def takeSign : List Char → Bool × List Char
  | '-' :: rest => (true, rest)
  | '+' :: rest => (false, rest)
  | text => (false, text)

/-- The power of ten that ends a numeral; none is the power zero. -/
def readPower : List Char → Option Int
  | [] => some 0
  | mark :: rest =>
    if mark = 'e' ∨ mark = 'E' then
      let (negative, run) := takeSign rest
      if run.isEmpty ∨ ¬ run.all (digit? · |>.isSome) then none
      else some (if negative then -(valueOf run : Int) else valueOf run)
    else none

/-- Reads digits, point and power of ten. -/
def readUnsigned (negative : Bool) (text : List Char) : Option Double :=
  let (whole, afterWhole) := spanDigits text
  let (fraction, afterFraction) :=
    match afterWhole with
    | '.' :: rest => spanDigits rest
    | rest => ([], rest)
  if whole.isEmpty ∧ fraction.isEmpty then none
  else
    (readPower afterFraction).map fun power =>
      ofScientific negative (valueOf (whole ++ fraction)) (power - fraction.length)

/-- Reads a numeral. -/
def readReal (text : List Char) : Option Double :=
  let (negative, rest) := takeSign text
  let name := String.ofList (rest.map Char.toLower)
  if name = "inf" ∨ name = "infinity" then some (.infinite negative)
  else if name = "nan" then some .nan
  else readUnsigned negative rest

end SpectralBench.Decimal
