import SpectralBench.Files
import SpectralBench.Files.Path
import SpectralBench.Journal.Csv
import SpectralBench.Journal.JsonLines

/-!
# Report formats

The extension of a report's file says how the report is written. Without an extension it is comma
separated, and so is a report that goes to no file.
-/

namespace SpectralBench.Journal

inductive Format where
  | csv
  | jsonLines
  deriving DecidableEq, Repr

namespace Format

/-- The format of an extension, whatever its case. -/
def ofExtension (extension : String) : Except Failure Format :=
  let lowered := String.ofList (extension.toList.map Char.toLower)
  if lowered = "csv" ∨ lowered = "" then .ok .csv
  else if lowered = "jsonl" ∨ lowered = "json" then .ok .jsonLines
  else .error (.misconfigured (.unknownReportFormat lowered))

/-- The format of a file. -/
def ofPath (path : String) : Except Failure Format :=
  ofExtension ((Path.extension? path).getD "")

variable {m : Type → Type} [Monad m]

/-- The journal that writes in a format. -/
def journal (library : Json.Library) (format : Format) (writer : Writer m) : Journal m :=
  match format with
  | .csv => Csv.journal writer
  | .jsonLines => JsonLines.journal library writer

end Format

variable {m : Type → Type} [Monad m]

/-- The journal of a report that goes to a file, or to the standard output when none is named. -/
def openFor (library : Json.Library) (files : Files m) (standard : Writer m) :
    Option String → ExceptT Failure m (Journal m)
  | none => return Csv.journal standard
  | some path => do
    let format ← ExceptT.mk (pure (Format.ofPath path))
    let writer ← (files.create path).adapt .system
    return format.journal library writer

end SpectralBench.Journal
