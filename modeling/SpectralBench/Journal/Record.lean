import SpectralBench.Campaign
import SpectralBench.Json.Value
import SpectralBench.Measure.Phase

/-!
# Records

A report is a header and a list of records: one for every phase of every trial, for the judgement of
a configuration's result, and for a configuration that was skipped or failed.
-/

namespace SpectralBench

/-- What became of a phase. -/
inductive Status where
  | ok
  | skipped
  | failed
  deriving DecidableEq, Repr

namespace Status

def all : List Status := [.ok, .skipped, .failed]

def label : Status → String
  | .ok => "ok"
  | .skipped => "skipped"
  | .failed => "failed"

end Status

/-- Which trial of a configuration a record belongs to: warm-up trials and runs count separately. -/
structure Trial where
  run : UInt64
  warmup : Bool
  deriving DecidableEq, Repr

/-- One line of a report. -/
structure Record where
  backend : String
  configuration : Configuration
  trial : Trial
  phase : Phase
  durationNs : UInt64
  status : Status
  message : Option String
  deriving DecidableEq

/-- The record of a phase that belongs to no trial and took no time. -/
def Record.new (backend : String) (configuration : Configuration) (phase : Phase)
    (status : Status) : Record where
  backend
  configuration
  trial := ⟨0, false⟩
  phase
  durationNs := 0
  status
  message := none

/-- What a report says before its first record. -/
structure Header where
  title : String
  device : String
  timer : String
  started : String
  deriving DecidableEq, Repr

/-- Where a report goes. -/
structure Journal (m : Type → Type) where
  start : Header → ExceptT Failure m Unit
  record : Record → ExceptT Failure m Unit
  finish : ExceptT Failure m Unit

end SpectralBench
