import SpectralBench.Failure.Misconfiguration
import SpectralBench.Failure.Shortage
import SpectralBench.Parameter

/-!
# Failures

Everything that can go wrong while a benchmark is planned, run or reported, by cause. The severity
of a failure decides what becomes of the configuration that met it.

A panic is no failure that anyone answers for: the program gives up where it stands, and what it
holds is dropped on the way out. It is listed among the failures because it ends an action as they
do.

Main statements:

* `severity_eq_skip_iff` — a configuration is skipped exactly for a capability or memory gap.
-/

namespace SpectralBench

/-- What a failure means for the run: leave the configuration out, count it as failed, or stop. -/
inductive Severity where
  | skip
  | fail
  | abort
  deriving DecidableEq, Repr

/-- A failure, by its cause. -/
inductive Failure where
  | unsupportedPrecision (precision : Precision) (device : String)
  | insufficientMemory (shortage : Shortage)
  | backend (title operation reason : String)
  | allocation (title buffer : String) (bytes : Nat)
  | transferSize (operation : String) (expected actual : Nat)
  | invalidExtent (extents : List Nat) (reason : String)
  | invalidTransition (phase stage : String)
  | unavailable (reason : String)
  | misconfigured (cause : Misconfiguration)
  | report (reason : String)
  | system (reason : String)
  /-- The program stopped itself. -/
  | panic (reason : String)
  deriving DecidableEq, Repr

namespace Failure

def message : Failure → String
  | .unsupportedPrecision precision device =>
    s!"requested {precision.label} precision, but {device} does not support it"
  | .insufficientMemory shortage => shortage.message
  | .backend title operation reason => s!"{title}: {operation} failed: {reason}"
  | .allocation title buffer bytes => s!"{title}: cannot allocate {bytes} bytes for {buffer}"
  | .transferSize operation expected actual =>
    s!"{operation}: host buffer holds {actual} bytes, transfer size is {expected} bytes"
  | .invalidExtent extents reason => s!"invalid extent {Text.bracketed extents}: {reason}"
  | .invalidTransition phase stage =>
    s!"lifecycle violation: cannot run {phase} from state {stage}"
  | .unavailable reason => s!"backend context unavailable: {reason}"
  | .misconfigured cause => s!"invalid configuration: {cause.message}"
  | .report reason => s!"report sink: {reason}"
  | .system reason => reason
  | .panic reason => reason

def severity : Failure → Severity
  | .unsupportedPrecision .. | .insufficientMemory _ => .skip
  | .backend .. | .allocation .. | .transferSize .. => .fail
  | .invalidExtent .. | .invalidTransition .. | .unavailable _ | .misconfigured _ | .report _
  | .system _ | .panic _ => .abort

/-- Whether the program stopped itself. -/
def isPanic : Failure → Bool
  | .panic _ => true
  | _ => false

theorem severity_eq_skip_iff (failure : Failure) :
    failure.severity = .skip ↔
      (∃ p d, failure = .unsupportedPrecision p d) ∨ ∃ s, failure = .insufficientMemory s := by
  cases failure <;> simp [severity]

end Failure

end SpectralBench
