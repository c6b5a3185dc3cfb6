import SpectralBench.Failure

/-!
# Writers

A writer takes text piece by piece, and may refuse a piece. What it refuses is a failure of the
system, which ends a run.
-/

namespace SpectralBench

/-- Something that takes text, such as an open file; a failure is given in the system's words. -/
structure Writer (m : Type → Type) where
  write : String → ExceptT String m Unit
  flush : ExceptT String m Unit

namespace Writer

variable {m : Type → Type} [Monad m]

/-- Writes a text; what the system refuses is a failure of the system. -/
def put (writer : Writer m) (text : String) : ExceptT Failure m Unit :=
  (writer.write text).adapt .system

def settle (writer : Writer m) : ExceptT Failure m Unit :=
  writer.flush.adapt .system

end Writer

end SpectralBench
