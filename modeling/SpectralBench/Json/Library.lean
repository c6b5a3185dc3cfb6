import SpectralBench.Json.Decode
import SpectralBench.Json.Node.Reader

/-!
# Libraries for documents

Reports are written, and documents are read, by a library that is not part of the program. All that
is known of it here is what it is used for: a value becomes a text, and a text shows a node, which
the decoders walk. `Library.standard` is one that the program can be run with.
-/

namespace SpectralBench.Json

structure Library where
  /-- The text of a value. -/
  write : Value → String
  /-- The node of a text, and whether something other than blanks is behind it. -/
  read : String → Node × Bool

namespace Library

/-- Writes without blanks, and reads what JSON allows. -/
def standard : Library where
  write := Value.written
  read := readDocument

/-- Reads a document that holds one value and nothing else. -/
def decode {α : Type} (library : Library) (decoder : Node → Except Fault α) (text : String) :
    Except Fault α := do
  let (node, trailing) := library.read text
  let value ← decoder node
  if trailing then throw .trailingCharacters
  return value

/-- The value of a document. -/
def parse (library : Library) (text : String) : Except Fault Value :=
  library.decode (Node.value maxDepth) text

end Library

end SpectralBench.Json
