import SpectralBench.Failure
import SpectralBench.Measure.Duration
import SpectralBench.Measure.Phase

/-!
# Stopwatches

A stopwatch is started before an operation, stopped after it and then read. Each of this may fail. A
watch that does not start leaves the operation alone; one that fails behind the operation takes the
place of whatever the operation came to. So an operation runs once at most, and exactly once if its
watch is started; one that fails has no duration.
-/

namespace SpectralBench

/-- A clock for single operations. -/
structure Stopwatch (m : Type → Type) where
  name : String
  /-- Starts the watch for a step and gives the mark to read it from. -/
  start : Step → ExceptT Failure m Nat
  /-- Stops the watch, however the operation has ended. -/
  stop : Nat → ExceptT Failure m Unit
  /-- The time from a mark to the stop. -/
  elapsed : Nat → ExceptT Failure m Duration

namespace Stopwatch

variable {m : Type → Type} [Monad m]

/-- Runs the operation of a step and gives its result with the time that it took. -/
def measure {α : Type} (watch : Stopwatch m) (step : Step) (operation : ExceptT Failure m α) :
    ExceptT Failure m (α × Duration) := do
  let mark ← watch.start step
  let outcome ← liftM operation.run
  watch.stop mark
  let result ← ExceptT.mk (pure outcome)
  let time ← watch.elapsed mark
  return (result, time)

end Stopwatch

end SpectralBench
