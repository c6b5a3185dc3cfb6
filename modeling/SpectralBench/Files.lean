import SpectralBench.Files.Writer

/-!
# Files

What a program may do with the files around it: read one, start one anew, and ask what a path names.
A failure is given in the system's words.
-/

namespace SpectralBench

/-- The files that a program can reach. -/
structure Files (m : Type → Type) where
  /-- The whole text of a file. -/
  read : String → ExceptT String m String
  /-- Makes a file, or empties one that is there, and gives what writes to it. -/
  create : String → ExceptT String m (Writer m)
  /-- Whether a path names a file or a directory. -/
  present : String → m Bool
  /-- Whether a path names a directory. -/
  isDirectory : String → m Bool

end SpectralBench
