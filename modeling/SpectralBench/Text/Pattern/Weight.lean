import SpectralBench.Text.CharSet.Encoded
import SpectralBench.Text.Pattern

/-!
# The weight of search patterns

A search for a pattern is a machine of states that each take 32 bytes, and some of which take more
for the states they lead to. What is repeated is written out, so that a short pattern may take a lot
of room. There is one machine that reads from the front, which marks the ends of groups, and one
that reads from the back, which does not; the pattern weighs what the heavier of them does.
-/

namespace SpectralBench.Text.Pattern

/-- The set of the characters of which the pattern takes one, if it is such a choice. -/
def asSet? : Pattern → Option CharSet
  | .one set => some set
  | .either a b => do
    let first ← a.asSet?
    let second ← b.asSet?
    some (.union first second)
  | _ => none

/-- Bytes of the states of a repetition of something that weighs `inside`. -/
def repeatedWeight (inside : Nat) (mayBeEmpty : Bool) (least : Nat) : (most : Option Nat) → Nat
  | none =>
    if 0 < least then least * inside + 40
    else if mayBeEmpty then inside + 112
    else inside + 40
  | some most =>
    if most = 0 then 32
    else if least = most then least * inside
    else
      let optional := (most - least) * (inside + 40) + 32
      if 0 < least then least * inside + optional
      else if most = 1 then optional
      else 32 + optional

/-- Bytes of the states in which the pattern is read from the front or from the back. What takes no
character is repeated once at most, and a choice between characters is a set. -/
def weight (fromBack : Bool) : Pattern → Nat
  | .nothing | .spot _ => 32
  | .one set => set.weight fromBack
  | .both a b => a.weight fromBack + b.weight fromBack
  | .either a b =>
    match (Pattern.either a b).asSet? with
    | some set => set.weight fromBack
    | none => a.weight fromBack + b.weight fromBack + (if b matches .either .. then 4 else 72)
  | .times p least most =>
    let inside := p.weight fromBack
    if p.isEmpty then repeatedWeight inside true (min least 1) (some (min (most.getD 1) 1))
    else repeatedWeight inside p.mayBeEmpty least most
  | .marked p => p.weight fromBack + (if fromBack then 0 else 64)

/-- Bytes of the states of the heavier machine; each has some for the start and the end of a
search. -/
def searchWeight (p : Pattern) : Nat :=
  max (p.weight false + 208) (p.weight true + 144)

end SpectralBench.Text.Pattern
