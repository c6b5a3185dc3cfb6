import SpectralBench.Files.Writer
import SpectralBench.Journal.Record

/-!
# Comma separated reports

A report starts with four comment lines and a line of column names, and has one line for each
record. Fields are separated by commas. A field that holds a comma, a quote or a line break stands
between quotes, and a quote inside is written twice.

Main statements:

* `field_of_plain` — a field without special characters is written as it is.
-/

namespace SpectralBench.Journal.Csv

/-- The names of the columns. -/
def columns : List String :=
  ["backend", "kind", "placement", "precision", "extents", "rank", "run", "warmup", "phase",
    "duration_ns", "status", "message"]

/-- Whether a character forces a field between quotes. -/
def isSpecial (c : Char) : Bool :=
  c = ',' || c = '"' || c = '\n' || c = '\r'

/-- The characters of a field between its quotes. -/
def doubled (field : List Char) : List Char :=
  field.flatMap fun c => if c = '"' then ['"', '"'] else [c]

/-- The written form of a field. -/
def field (text : String) : String :=
  if text.toList.any isSpecial then .ofList ('"' :: doubled text.toList ++ ['"']) else text

theorem field_of_plain {text : String} (h : text.toList.any isSpecial = false) :
    field text = text := by
  simp [field, h]

/-- The fields of a record, unwritten: only the first and the last are free text. -/
def fields (r : Record) : List String :=
  [field r.backend, r.configuration.kind.title, r.configuration.placement.title,
    r.configuration.precision.label, r.configuration.extent.text,
    toString r.configuration.extent.rank, toString r.trial.run.toNat,
    if r.trial.warmup then "true" else "false", r.phase.label, toString r.durationNs.toNat,
    r.status.label, field (r.message.getD "")]

/-- The line of a record. -/
def row (r : Record) : String :=
  ",".intercalate (fields r) ++ "\n"

/-- The lines before the first record. -/
def preamble (header : Header) : String :=
  s!"# {header.title}\n# {header.device}\n# timer: {header.timer}\n# started: {header.started}\n"
    ++ ",".intercalate columns ++ "\n"

/-- The journal that writes comma separated lines. -/
def journal {m : Type → Type} [Monad m] (writer : Writer m) : Journal m where
  start header := writer.put (preamble header)
  record r := writer.put (row r)
  finish := writer.settle

end SpectralBench.Journal.Csv
