import SpectralBench.Word

/-!
# Durations

A duration is a number of nanoseconds. It is shown in the largest unit that it reaches, with the
decimals that it needs and no more.
-/

namespace SpectralBench

structure Duration where
  nanos : Nat
  deriving DecidableEq, Repr

namespace Duration

def zero : Duration := ⟨0⟩

/-- The nanoseconds, clipped to a word. -/
def toWord (d : Duration) : Nat :=
  min d.nanos Word.top

/-- The decimals of a remainder below `10 ^ places`, without zeros at the end. -/
def decimals (places rest : Nat) : List Char :=
  let run := Nat.toDigits 10 rest
  let padded := List.replicate (places - run.length) '0' ++ run
  (padded.reverse.dropWhile (· = '0')).reverse

/-- A number of nanoseconds in units of `10 ^ places` of them. -/
def inUnits (nanos places : Nat) (unit : String) : String :=
  let fraction := decimals places (nanos % Nat.pow 10 places)
  toString (nanos / Nat.pow 10 places) ++ .ofList (if fraction.isEmpty then [] else '.' :: fraction) ++
    unit

/-- The shown form, such as `100ns`, `1.5µs` or `1.234567ms`. -/
def text (d : Duration) : String :=
  if 1000000000 ≤ d.nanos then inUnits d.nanos 9 "s"
  else if 1000000 ≤ d.nanos then inUnits d.nanos 6 "ms"
  else if 1000 ≤ d.nanos then inUnits d.nanos 3 "µs"
  else inUnits d.nanos 0 "ns"

end Duration

end SpectralBench
