import SpectralBench.Files.Writer
import SpectralBench.Journal.Record
import SpectralBench.Json.Library

/-!
# Reports of one JSON object per line

The first line is an object that holds the header, and every further line is a record. The message
of a record is left out when there is none.
-/

namespace SpectralBench.Journal.JsonLines

open Json

def headerValue (header : Header) : Value :=
  .object [("header", .object [
    ("title", .text header.title),
    ("device_description", .text header.device),
    ("timer", .text header.timer),
    ("started", .text header.started)])]

def natural (n : Nat) : Value :=
  .number (.natural n)

def recordValue (r : Record) : Value :=
  .object ([
    ("backend", .text r.backend),
    ("kind", .text r.configuration.kind.label),
    ("placement", .text r.configuration.placement.label),
    ("precision", .text r.configuration.precision.label),
    ("extents", .array (r.configuration.extent.sizes.map natural)),
    ("run", natural r.trial.run.toNat),
    ("warmup", .bool r.trial.warmup),
    ("phase", .text r.phase.label),
    ("duration_ns", natural r.durationNs.toNat),
    ("status", .text r.status.label)] ++
    (r.message.map fun text => ("message", .text text)).toList)

/-- Writes a value and ends its line. A value that cannot be written fails the report; a line that
cannot be ended is the system's failure. -/
def putLine {m : Type → Type} [Monad m] (library : Library) (writer : Writer m) (value : Value) :
    ExceptT Failure m Unit := do
  (writer.write (library.write value)).adapt .report
  writer.put "\n"

/-- The journal that writes one object per line. -/
def journal {m : Type → Type} [Monad m] (library : Library) (writer : Writer m) : Journal m where
  start header := putLine library writer (headerValue header)
  record r := putLine library writer (recordValue r)
  finish := writer.settle

end SpectralBench.Journal.JsonLines
