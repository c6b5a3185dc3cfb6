import SpectralBench.Decimal.Real
import SpectralBench.Json.Node

/-!
# Numerals of a document

The digits of a numeral are collected into a 64-bit significand for as long as they fit; digits that
no longer fit count as powers of ten before the point and as nothing behind it. A significand
without point, power and surplus digits is an integer. Any other numeral is the significand times a
power of ten, with one rounding for each of the steps that apply the power.
-/

namespace SpectralBench.Json

open Binary Decimal

/-- Adds digits to a significand while it stays a word; the digits that are left over. -/
def absorb (significand : Nat) : List Nat → Nat × List Nat
  | [] => (significand, [])
  | d :: rest =>
    if significand * 10 + d < Word.count then absorb (significand * 10 + d) rest
    else (significand, d :: rest)

/-- A power of ten as a double, for exponents up to 308. -/
def tenTo (exponent : Nat) : Double :=
  .ofRatio false (Nat.pow 10 exponent) 1

/-- Applies a power of ten, in steps of at most `10 ^ 308`. -/
def applyPower (x : Double) (exponent : Int) : Except Fault Double :=
  if exponent.natAbs ≤ 308 then
    if 0 ≤ exponent then
      let product := x.mul (tenTo exponent.natAbs)
      if product.isFinite then .ok product else .error .numberOutOfRange
    else .ok (x.div (tenTo exponent.natAbs))
  else if x = .zero then .ok x
  else if 0 ≤ exponent then .error .numberOutOfRange
  else applyPower (x.div (tenTo 308)) (exponent + 308)
termination_by exponent.natAbs
decreasing_by omega

/-- A significand times a power of ten, with a sign. -/
def realNumber (negative : Bool) (significand : Nat) (exponent : Int) : Except Fault Number := do
  let size ← applyPower (.ofNat significand) exponent
  return .real (if negative then size.neg else size)

/-- The largest number whose negative is an integer of 64 bits, `2 ^ 63`. -/
def maxNegative : Nat := 9223372036854775808

/-- A significand that is the whole numeral. -/
def wholeNumber (negative : Bool) (significand : Nat) : Number :=
  if !negative then .natural significand
  else if 0 < significand ∧ significand ≤ maxNegative then .negative significand
  else .real (Double.ofNat significand).neg

/-- The parts of a numeral. A power has a sign and digits. -/
structure Numeral where
  negative : Bool
  whole : List Nat
  fraction : Option (List Nat)
  power : Option (Bool × List Nat)

/-- The largest exponent that is computed with, `2 ^ 31 - 1`. -/
def maxExponent : Nat := 2147483647

/-- The value of a numeral. -/
def Numeral.value (n : Numeral) : Except Fault Number :=
  let (whole, surplus) := absorb 0 n.whole
  let (significand, scale) :=
    match n.fraction with
    | none => (whole, (surplus.length : Int))
    | some fraction =>
      let (significand, unused) := absorb whole fraction
      (significand, (surplus.length : Int) - (fraction.length - unused.length : Nat))
  match n.power with
  | some (negativePower, digits) =>
    let power := ofDigits digits
    if power ≤ maxExponent then
      realNumber n.negative significand (if negativePower then scale - power else scale + power)
    else if 0 < significand ∧ !negativePower then .error .numberOutOfRange
    else .ok (.real (.finite n.negative 0))
  | none =>
    if n.fraction.isNone ∧ surplus.isEmpty then .ok (wholeNumber n.negative significand)
    else realNumber n.negative significand scale

/-- The leading digits of a text, as numbers, and what is behind them. -/
def takeDigits (text : List Char) : List Nat × List Char :=
  let (run, rest) := spanDigits text
  (run.filterMap digit?, rest)

/-- Reads the power of a numeral whose other parts are known. -/
def readPower (numeral : Numeral) : List Char → Node × List Char
  | [] => (.number numeral.value, [])
  | mark :: rest =>
    if mark = 'e' ∨ mark = 'E' then
      let (negative, afterSign) := takeSign rest
      match takeDigits afterSign with
      | ([], []) => (.broken .endInValue .badNumber, [])
      | ([], _ :: _) => (.broken .badNumber .badNumber, [])
      | (digits, afterPower) =>
        (.number { numeral with power := some (negative, digits) }.value, afterPower)
    else (.number numeral.value, mark :: rest)

/-- Reads the fraction and the power of a numeral. -/
def readFraction (numeral : Numeral) : List Char → Node × List Char
  | '.' :: rest =>
    match takeDigits rest with
    | ([], []) => (.broken .endInValue .badNumber, [])
    | ([], _ :: _) => (.broken .badNumber .badNumber, [])
    | (digits, afterFraction) => readPower { numeral with fraction := some digits } afterFraction
  | text => readPower numeral text

/-- Reads a numeral behind its sign. A zero is not followed by further digits. -/
def readNumber (negative : Bool) (text : List Char) : Node × List Char :=
  match takeDigits text with
  | ([], []) => (.broken .endInValue .badNumber, [])
  | ([], _ :: _) => (.broken .badNumber .badNumber, [])
  | (0 :: _ :: _, _) => (.broken .badNumber .badNumber, [])
  | (whole, rest) => readFraction ⟨negative, whole, none, none⟩ rest

end SpectralBench.Json
