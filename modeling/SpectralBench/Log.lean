/-!
# Log entries

A log entry has a level, the part of the program that it comes from (its target) and a line of
text. Levels are ordered by severity, the most severe first.
-/

namespace SpectralBench.Log

inductive Level where
  | error
  | warn
  | info
  | debug
  | trace
  deriving DecidableEq, Repr

namespace Level

def all : List Level := [.error, .warn, .info, .debug, .trace]

def title : Level → String
  | .error => "ERROR"
  | .warn => "WARN"
  | .info => "INFO"
  | .debug => "DEBUG"
  | .trace => "TRACE"

/-- How chatty a level is. -/
def rank : Level → Nat
  | .error => 1
  | .warn => 2
  | .info => 3
  | .debug => 4
  | .trace => 5

/-- Whether a threshold lets the entries of a level through. -/
def admits (threshold level : Level) : Bool :=
  level.rank ≤ threshold.rank

end Level

structure Entry where
  level : Level
  target : String
  text : String
  deriving DecidableEq, Repr

namespace Target

/-- The entries of a run over a parameter space. -/
def suite : String := "fftbench::suite"

/-- The entries of a guarded engine. -/
def session : String := "fftbench::adapter"

/-- The entries of the processor's own backend. -/
def host : String := "fftbench::backends::host"

/-- The entries about the machine's memory. -/
def memory : String := "fftbench::memory"

/-- The entries of the command line. -/
def program : String := "fftbench"

end Target

end SpectralBench.Log
