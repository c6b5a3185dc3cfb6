import SpectralBench.Text.Split

/-!
# Paths

Paths are texts with slashes. The name of a path is its last part that is not empty or a single dot;
its extension is what stands behind the last dot of the name, if something stands before that dot.
-/

namespace SpectralBench.Path

/-- The parts of a path that name something. -/
def parts (path : String) : List (List Char) :=
  (Text.split (· = '/') path.toList).filter fun part => !part.isEmpty && part ≠ ['.']

/-- The last part, unless it leads upwards. -/
def name? (path : String) : Option (List Char) :=
  match (parts path).getLast? with
  | some name => if name = ['.', '.'] then none else some name
  | none => none

/-- The extension of a name. -/
def extensionOf? (name : List Char) : Option (List Char) :=
  match name.reverse.span (· ≠ '.') with
  | (_, []) => none
  | (_, [_]) => none
  | (behind, _ :: _ :: _) => some behind.reverse

/-- The extension of a path. -/
def extension? (path : String) : Option String :=
  ((name? path).bind extensionOf?).map .ofList

def isAbsolute (path : String) : Bool :=
  path.toList.head? = some '/'

/-- A path below another one. -/
def join (base path : String) : String :=
  if isAbsolute path then path
  else if base.isEmpty then path
  else if base.toList.getLast? = some '/' then base ++ path
  else base ++ "/" ++ path

end SpectralBench.Path
