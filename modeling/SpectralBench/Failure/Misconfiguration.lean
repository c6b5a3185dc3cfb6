import SpectralBench.Decimal.Shortest
import SpectralBench.Text.Quoted

/-!
# Misconfigurations

What can be wrong with the settings that a user gives, before a benchmark starts: a name that
nothing has, a number outside its range, or a setting that leaves nothing to run.
-/

namespace SpectralBench

/-- What a label was expected to name. -/
inductive Labelled where
  | kind
  | placement
  | precision
  | backend
  deriving DecidableEq, Repr

def Labelled.noun : Labelled → String
  | .kind => "transform kind"
  | .placement => "placement"
  | .precision => "precision"
  | .backend => "backend"

/-- A setting that cannot be used. -/
inductive Misconfiguration where
  | unknownLabel (expected : Labelled) (given : String)
  | fractionOutOfRange (name : String) (value : Binary.Double)
  | noHostBuffers
  | unreadableVariable (name value : String)
  | unreadableByteCount (name value : String)
  | noExtents
  | emptyParameters
  | noRuns
  | unknownReportFormat (extension : String)
  | stated (text : String)
  deriving DecidableEq, Repr

def Misconfiguration.message : Misconfiguration → String
  | .unknownLabel expected given => s!"unknown {expected.noun} {Text.quoted given}"
  | .fractionOutOfRange name value => s!"{name} must be in (0, 1], got {value.plain}"
  | .noHostBuffers => "host_buffer_multiplier must be at least 1"
  | .unreadableVariable name value => s!"{name}={Text.quoted value} is not a valid value"
  | .unreadableByteCount name value => s!"{name}={Text.quoted value} is not a byte count"
  | .noExtents => "no extents given"
  | .emptyParameters => "kinds, placements and precisions must not be empty"
  | .noRuns => "runs must be at least 1"
  | .unknownReportFormat extension => s!"no report sink for .{extension} files"
  | .stated text => text

end SpectralBench
