import SpectralBench.Binary.Format

/-!
# Double-precision numbers

A double is a value that is no number, an infinity, or a sign and a number of units, one unit being
`2 ^ -1074`. Every operation computes the exact result in whole numbers and rounds it once, to
nearest with ties to even, so statements about rounding are statements about natural numbers.

Main statements:

* `isqrt_bounds` — `isqrt` is the integer part of the square root.
-/

namespace SpectralBench.Binary

/-- A double-precision number. The sign of zero is kept. -/
inductive Double where
  | nan
  | infinite (negative : Bool)
  | finite (negative : Bool) (units : Nat)
  deriving DecidableEq, Repr, Inhabited

/-! ## Whole square roots -/

/-- The integer part of the square root, two binary digits of the argument at a time. -/
def isqrt (n : Nat) : Nat :=
  if n = 0 then 0
  else
    let root := 2 * isqrt (n / 4)
    if (root + 1) * (root + 1) ≤ n then root + 1 else root
termination_by n

theorem isqrt_bounds (n : Nat) : isqrt n * isqrt n ≤ n ∧ n < (isqrt n + 1) * (isqrt n + 1) := by
  induction n using Nat.strongRecOn with
  | _ n ih =>
    unfold isqrt
    by_cases hn : n = 0
    · simp [hn]
    · obtain ⟨hlo, hhi⟩ := ih (n / 4) (by omega)
      generalize isqrt (n / 4) = r at hlo hhi
      have e1 : 2 * r * (2 * r) = 4 * (r * r) := by grind
      have e2 : (2 * r + 1 + 1) * (2 * r + 1 + 1) = 4 * ((r + 1) * (r + 1)) := by grind
      simp only [hn, if_false]
      split
      · constructor
        · assumption
        · rw [e2]; omega
      · constructor
        · rw [e1]; omega
        · omega

namespace Double

/-- The units of the number one. -/
def one : Nat := Nat.pow 2 1074

/-- The first number of units beyond the largest finite double. -/
def ceiling : Nat := Nat.pow 2 2098

/-! ## Rounding -/

/-- The double nearest to `num / den` units. -/
def round (negative : Bool) (num den : Nat) : Double :=
  let units := nearest 53 num den
  if units < ceiling then .finite negative units else .infinite negative

/-- The double nearest to a quotient of whole numbers. -/
def ofRatio (negative : Bool) (num den : Nat) : Double :=
  round negative (num * one) den

/-- The double nearest to a whole number. -/
def ofNat (n : Nat) : Double :=
  ofRatio false n 1

def zero : Double := .finite false 0

/-! ## Tests and order -/

def isFinite : Double → Bool
  | .finite .. => true
  | _ => false

def isNaN : Double → Bool
  | .nan => true
  | _ => false

def isNegative : Double → Bool
  | .nan => false
  | .infinite negative => negative
  | .finite negative _ => negative

/-- The signed number of units of a finite double. -/
def signedUnits (negative : Bool) (units : Nat) : Int :=
  if negative then -(units : Int) else units

/-- Strictly smaller, as numbers: the two zeros are equal, and `nan` is unordered. -/
def lt : Double → Double → Bool
  | .nan, _ => false
  | _, .nan => false
  | .infinite a, .infinite b => a && !b
  | .infinite a, .finite .. => a
  | .finite .., .infinite b => !b
  | .finite a m, .finite b n => signedUnits a m < signedUnits b n

/-- Smaller or equal, as numbers. -/
def le : Double → Double → Bool
  | .nan, _ => false
  | _, .nan => false
  | .infinite a, .infinite b => a || !b
  | .infinite a, .finite .. => a
  | .finite .., .infinite b => !b
  | .finite a m, .finite b n => signedUnits a m ≤ signedUnits b n

/-- The larger of two doubles; a value that is no number loses against any other. -/
def max (x y : Double) : Double :=
  if x.isNaN then y else if y.isNaN then x else if lt x y then y else x

/-! ## Arithmetic -/

def neg : Double → Double
  | .nan => .nan
  | .infinite negative => .infinite !negative
  | .finite negative units => .finite (!negative) units

def abs : Double → Double
  | .nan => .nan
  | .infinite _ => .infinite false
  | .finite _ units => .finite false units

/-- The double nearest to a signed number of units; `zeroSign` is the sign of an exact zero. -/
def ofSignedUnits (zeroSign : Bool) (sum : Int) : Double :=
  if sum = 0 then .finite zeroSign 0 else round (sum < 0) sum.natAbs 1

def add : Double → Double → Double
  | .nan, _ => .nan
  | _, .nan => .nan
  | .infinite a, .infinite b => if a = b then .infinite a else .nan
  | .infinite a, .finite .. => .infinite a
  | .finite .., .infinite b => .infinite b
  | .finite a m, .finite b n => ofSignedUnits (a && b) (signedUnits a m + signedUnits b n)

def sub (x y : Double) : Double :=
  add x y.neg

def mul : Double → Double → Double
  | .nan, _ => .nan
  | _, .nan => .nan
  | .infinite a, .infinite b => .infinite (a != b)
  | .infinite a, .finite b n => if n = 0 then .nan else .infinite (a != b)
  | .finite a m, .infinite b => if m = 0 then .nan else .infinite (a != b)
  | .finite a m, .finite b n => round (a != b) (m * n) one

def div : Double → Double → Double
  | .nan, _ => .nan
  | _, .nan => .nan
  | .infinite _, .infinite _ => .nan
  | .infinite a, .finite b _ => .infinite (a != b)
  | .finite a _, .infinite b => .finite (a != b) 0
  | .finite a m, .finite b n =>
    if n = 0 then (if m = 0 then .nan else .infinite (a != b)) else round (a != b) (m * one) n

/-- The square root. The root in units lies between two whole numbers that are far finer than the
rounding, so half a whole stands for whatever lies between them. -/
def sqrt : Double → Double
  | .nan => .nan
  | .infinite negative => if negative then .nan else .infinite false
  | .finite negative units =>
    if units = 0 then .finite negative 0
    else if negative then .nan
    else
      let square := units * one
      let root := isqrt square
      round false (2 * root + if root * root = square then 0 else 1) 2

/-! ## Whole parts -/

/-- The whole part of a double as a count: nothing below zero, and at most `top`. -/
def toCount (top : Nat) : Double → Nat
  | .nan => 0
  | .infinite negative => if negative then 0 else top
  | .finite negative units => if negative then 0 else min (units / one) top

end Double

/-! ## Bit patterns -/

namespace Format

/-- The number that a bit pattern stands for. -/
def decode (format : Format) (bits : Nat) : Double :=
  let negative := bits / format.signUnit % 2 == 1
  let exponent := bits / format.fieldUnit % (format.topExponent + 1)
  let fraction := bits % format.fieldUnit
  let finer := 1074 - format.unitExponent
  if exponent = format.topExponent then
    if fraction = 0 then .infinite negative else .nan
  else if exponent = 0 then
    .finite negative (fraction <<< finer)
  else
    .finite negative ((format.fieldUnit + fraction) <<< (exponent - 1) <<< finer)

/-- The bit pattern of a double, rounded to the format. -/
def encode (format : Format) (x : Double) : Nat :=
  let infinity := format.topExponent * format.fieldUnit
  let sign (negative : Bool) := if negative then format.signUnit else 0
  match x with
  | .nan => infinity + format.fieldUnit / 2
  | .infinite negative => sign negative + infinity
  | .finite negative units =>
    let coarse := nearest format.digits units (1 <<< (1074 - format.unitExponent))
    let shift := excess format.digits coarse 1
    sign negative + min (shift * format.fieldUnit + coarse >>> shift) infinity

end Format

namespace Double

/-- The double with the given bit pattern. -/
def ofBits (bits : UInt64) : Double :=
  Format.double.decode bits.toNat

/-- The bit pattern; a value that is no number has the quiet pattern. -/
def toBits (x : Double) : UInt64 :=
  .ofNat (Format.double.encode x)

/-- The bit pattern of the nearest half. -/
def toHalf (x : Double) : UInt16 :=
  .ofNat (Format.half.encode x)

end Double

end SpectralBench.Binary
