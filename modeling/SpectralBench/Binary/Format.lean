/-!
# Binary floating-point formats

A format has a number of significant binary digits, the leading one included, and a width of its
exponent field. Its finite values are multiples of its `unit`, the smallest positive one, and the
rounding rule is "to nearest, a tie to the even neighbour" on the significant digits of the exact
result.
-/

namespace SpectralBench.Binary

/-- The shape of an interchange format: significant digits, and bits of the exponent field. -/
structure Format where
  digits : Nat
  exponentWidth : Nat
  deriving DecidableEq, Repr

namespace Format

/-- Eleven significant digits in two bytes. -/
def half : Format := ⟨11, 5⟩

/-- Twenty-four significant digits in four bytes. -/
def single : Format := ⟨24, 8⟩

/-- Fifty-three significant digits in eight bytes. -/
def double : Format := ⟨53, 11⟩

/-- The exponent field's value for one, half of its range. -/
def bias (format : Format) : Nat :=
  Nat.pow 2 (format.exponentWidth - 1) - 1

/-- The unit is two to the power of minus this number. -/
def unitExponent (format : Format) : Nat :=
  format.bias + format.digits - 2

/-- The field of infinity and of the values that are no number: all ones. -/
def topExponent (format : Format) : Nat :=
  Nat.pow 2 format.exponentWidth - 1

/-- The weight of the exponent field inside a bit pattern. -/
def fieldUnit (format : Format) : Nat :=
  Nat.pow 2 (format.digits - 1)

/-- The weight of the sign bit inside a bit pattern. -/
def signUnit (format : Format) : Nat :=
  Nat.pow 2 (format.digits - 1 + format.exponentWidth)

end Format

/-- How many binary digits of the whole part of `num / den` lie beyond the first `digits`. -/
def excess (digits num den : Nat) : Nat :=
  Nat.log2 (num / den) + 1 - digits

/-- The whole number nearest to `num / den`, of two equally near ones the even one. -/
def roundHalfEven (num den : Nat) : Nat :=
  let whole := num / den
  let rest := 2 * (num % den)
  if den < rest ∨ (rest = den ∧ whole % 2 = 1) then whole + 1 else whole

/-- `num / den` rounded to `digits` significant binary digits, but never finer than a whole. -/
def nearest (digits num den : Nat) : Nat :=
  let shift := excess digits num den
  roundHalfEven num (den <<< shift) <<< shift

end SpectralBench.Binary
