import SpectralBench.Binary.Double
import SpectralBench.Word

/-!
# Budgets

A budget is a share of the available bytes: the whole part of their product with a fraction,
computed in double precision and never more than what is available.

Main statements:

* `budget_le` — a budget stays within what is available.
-/

namespace SpectralBench

open Binary

/-- The bytes that a fraction of the available bytes comes to. A fraction below zero, or one that is
no number, counts as zero. -/
def budget (available : Nat) (fraction : Double) : Nat :=
  if Double.le (.ofNat 1) fraction then available
  else
    let scaled := (Double.ofNat available).mul (fraction.max .zero)
    min (scaled.toCount Word.top) available

theorem budget_le (available : Nat) (fraction : Double) : budget available fraction ≤ available := by
  unfold budget
  split
  · exact Nat.le_refl _
  · exact Nat.min_le_right _ _

end SpectralBench
