import SpectralBench.Decimal.Shortest

/-!
# Scientific notation with a fixed number of digits

A number is shown as one digit, a point, a fixed number of further digits and a power of ten. The
digits are those of the exact value, rounded to nearest with ties to even.
-/

namespace SpectralBench.Binary.Double

open SpectralBench.Decimal

/-- The `places + 1` rounded digits of a positive number of units, and the power of ten of the
first. -/
def leadingDigits (places units : Nat) : List Char × Int :=
  let exponent := magnitude units one
  let step := exponent - 1 - places
  let value :=
    if step < 0 then roundHalfEven (units * Nat.pow 10 step.natAbs) one
    else roundHalfEven units (one * Nat.pow 10 step.natAbs)
  let run := decimalDigits value
  -- rounding up to the next power of ten leaves one digit too many, a zero
  (run.take (places + 1), exponent - 1 + ((run.length : Int) - (places + 1)))

/-- A number with `places` digits after the point and a power of ten. -/
def scientific (places : Nat) (x : Double) : String :=
  match x with
  | .nan => "NaN"
  | .infinite negative => if negative then "-inf" else "inf"
  | .finite negative units =>
    let (run, power) :=
      if units = 0 then (zeros (places + 1), 0) else leadingDigits places units
    let point := if places = 0 then [] else ['.']
    (if negative then "-" else "") ++ .ofList (run.take 1 ++ point ++ run.drop 1) ++ "e" ++
      toString power

end SpectralBench.Binary.Double
