import SpectralBench.Binary.Double
import SpectralBench.Decimal.Natural

/-!
# The shortest decimal of a double

A positive double stands for every real number that rounds to it. Its shortest decimal is the
decimal with the fewest significant digits in that interval, the nearest one where there are
several. The search tries one digit, two digits and so on; on each decimal grid only the two
neighbours of the exact value can be nearest, and with 17 digits one of them always lies inside.
Where the value lies halfway between them, a rule for ties decides.

Such digits are shown in two ways. `Double.plain` never uses an exponent, and takes the upper one of
two equally near decimals. `Double.compact` uses an exponent outside a window of small powers of
ten, marks whole numbers by a fractional zero, and takes the decimal whose last digit is even.
-/

namespace SpectralBench.Decimal

open SpectralBench.Binary

/-- Which one of two equally near decimals is taken. -/
inductive Tie where
  | up
  | toEven
  deriving DecidableEq, Repr

/-- Whether the upper one of two equally near points `below` and `below + 1` of a grid is taken. -/
def Tie.takesUpper (below : Nat) : Tie → Bool
  | .up => true
  | .toEven => below % 2 = 1

/-- A positive decimal `0.d₁d₂… × 10 ^ exponent` whose first digit is not zero. -/
structure Scaled where
  digits : List Char
  exponent : Int
  deriving DecidableEq, Repr

/-- The exponent `k` with `10 ^ (k - 1) ≤ num / den < 10 ^ k`, for a positive quotient. -/
def magnitude (num den : Nat) : Int :=
  if den ≤ num then (decimalDigits (num / den)).length
  else 1 - ((decimalDigits ((den - 1) / num)).length : Int)

/-- Drops the zeros at the end of a run of digits. -/
def dropZeros (run : List Char) : List Char :=
  (run.reverse.dropWhile (· = '0')).reverse

/-- `value` on the grid of step `10 ^ step`, without zeros at the end. -/
def Scaled.ofGrid (value : Nat) (step : Int) : Scaled :=
  let run := decimalDigits value
  ⟨dropZeros run, run.length + step⟩

/-- The reals that round to a positive number of units, in quarters of a unit. -/
structure Interval where
  low : Nat
  high : Nat
  closed : Bool

/-- Half of the gap to the neighbour on either side; the gap below a power of two is the smaller
one. The ends round to the value when its last binary digit is zero. -/
def Interval.ofUnits (units : Nat) : Interval :=
  let shift := excess 53 units 1
  let ulp := 1 <<< shift
  let mantissa := units >>> shift
  let below := if mantissa = Format.double.fieldUnit ∧ 0 < shift then ulp else 2 * ulp
  ⟨4 * units - below, 4 * units + 2 * ulp, mantissa % 2 = 0⟩

/-- Whether `num / den` quarters lie in the interval. -/
def Interval.holds (interval : Interval) (num den : Nat) : Bool :=
  if interval.closed then interval.low * den ≤ num && num ≤ interval.high * den
  else interval.low * den < num && num < interval.high * den

/-- The nearest decimal of `count` significant digits in the interval of a positive number of
units, if there is one. -/
def onGrid? (tie : Tie) (units count : Nat) : Option Scaled :=
  let interval := Interval.ofUnits units
  let step := magnitude units Double.one - count
  -- the value is `units / one` wholes, hence `num / den` steps of the grid
  let num := if step < 0 then units * Nat.pow 10 step.natAbs else units
  let den := if step < 0 then Double.one else Double.one * Nat.pow 10 step.natAbs
  let below := num / den
  -- a point of the grid, measured in quarters of a unit
  let scale := if step < 0 then 4 * Double.one else 4 * Double.one * Nat.pow 10 step.natAbs
  let unscale := if step < 0 then Nat.pow 10 step.natAbs else 1
  let hit (point : Nat) := interval.holds (point * scale) unscale
  let rest := 2 * (num % den)
  let upperNearer := den < rest || (rest = den && tie.takesUpper below)
  match hit below, hit (below + 1) with
  | true, true => some (.ofGrid (if upperNearer then below + 1 else below) step)
  | true, false => some (.ofGrid below step)
  | false, true => some (.ofGrid (below + 1) step)
  | false, false => none

/-- The first success among `count`, `count + 1`, … up to 17 digits. -/
def shortestFrom (tie : Tie) (units : Nat) : (attempts count : Nat) → Scaled
  | 0, count => .ofGrid (units * Nat.pow 10 count / Double.one) (-count)
  | attempts + 1, count =>
    (onGrid? tie units count).getD (shortestFrom tie units attempts (count + 1))

/-- The shortest decimal of a positive number of units. -/
def shortest (tie : Tie) (units : Nat) : Scaled :=
  shortestFrom tie units 17 1

end SpectralBench.Decimal

namespace SpectralBench.Binary.Double

open SpectralBench.Decimal

/-- `count` zeros. -/
def zeros (count : Int) : List Char :=
  List.replicate count.toNat '0'

/-- The digits around a decimal point, without an exponent. -/
def positional (d : Scaled) : List Char :=
  if d.exponent ≤ 0 then '0' :: '.' :: zeros (-d.exponent) ++ d.digits
  else
    let whole := d.digits.take d.exponent.toNat
    let fraction := d.digits.drop d.exponent.toNat
    whole ++ zeros (d.exponent - whole.length) ++ if fraction.isEmpty then [] else '.' :: fraction

/-- A number as messages show it: the shortest digits, never with an exponent. -/
def plain (x : Double) : String :=
  match x with
  | .nan => "NaN"
  | .infinite negative => if negative then "-inf" else "inf"
  | .finite negative units =>
    let sign := if negative then "-" else ""
    sign ++ if units = 0 then "0" else .ofList (positional (shortest .up units))

/-- A number as a document shows it: positional between `0.00001` and `10 ^ 16`, with `.0` after a
whole number, and with a signed exponent elsewhere. -/
def compact (x : Double) : String :=
  match x with
  | .nan => "NaN"
  | .infinite negative => if negative then "-inf" else "inf"
  | .finite negative units =>
    let sign := if negative then "-" else ""
    if units = 0 then sign ++ "0.0"
    else
      let d := shortest .toEven units
      if -5 < d.exponent ∧ d.exponent ≤ 16 then
        let mark := if d.exponent < d.digits.length then "" else ".0"
        sign ++ .ofList (positional d) ++ mark
      else
        let head := d.digits.take 1
        let tail := d.digits.drop 1
        let point := if tail.isEmpty then [] else ['.']
        let mark := if 0 < d.exponent then "e+" else "e"
        sign ++ .ofList (head ++ point ++ tail) ++ mark ++ toString (d.exponent - 1)

end SpectralBench.Binary.Double
