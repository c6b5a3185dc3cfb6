import SpectralBench.Files
import SpectralBench.Files.Path

/-!
# The toolkit of the graphics card

A toolkit is a directory with a folder of libraries, which goes by one of three names. Two variables
may name the toolkit; after them the usual place is tried. A toolkit counts only when one of its
folders holds the transform library. The linker, on the other hand, is pointed to every folder that
is there.
-/

namespace SpectralBench.Workspace

namespace Toolkit

/-- The folders of a toolkit that may hold libraries. -/
def folders : List String := ["lib64", "lib/x64", "lib"]

/-- The names that the transform library may have. -/
def libraries : List String := ["libcufft.so", "cufft.lib"]

/-- The variable that names the toolkit. -/
def pathVariable : String := "CUDA_PATH"

/-- The variable that names it otherwise. -/
def homeVariable : String := "CUDA_HOME"

/-- The usual place of a toolkit. -/
def usual : String := "/usr/local/cuda"

/-- The places that the variables name, and the usual one. -/
def places (lookup : String → Option String) : List String :=
  [pathVariable, homeVariable].filterMap lookup ++ [usual]

/-- The places where a toolkit may be; a variable without text names none. -/
def candidates (lookup : String → Option String) : List String :=
  (places lookup).filter (!·.isEmpty)

/-- The files that would be the transform library of a toolkit. -/
def libraryPaths (root : String) : List String :=
  folders.flatMap fun folder => libraries.map (Path.join (Path.join root folder))

variable {m : Type → Type} [Monad m]

/-- The first of some texts that passes a test. -/
def firstM (test : String → m Bool) : List String → m (Option String)
  | [] => return none
  | text :: rest => do
    if ← test text then return some text else firstM test rest

/-- Whether a toolkit has the transform library. -/
def hasLibrary (files : Files m) (root : String) : m Bool :=
  return (← firstM files.present (libraryPaths root)).isSome

/-- The toolkit of this machine, if it has one. -/
def detect (files : Files m) (lookup : String → Option String) : m (Option String) :=
  firstM (hasLibrary files) (candidates lookup)

end Toolkit

/-! ## Instructions for the build -/

namespace BuildPlan

open Toolkit

/-- The variable that is set when the graphics card's backend is built. -/
def featureVariable : String := "CARGO_FEATURE_CUDA"

/-- What the build has to be run again for. -/
def triggers : List String :=
  ["cargo:rerun-if-changed=build.rs"] ++
    [pathVariable, homeVariable].map ("cargo:rerun-if-env-changed=" ++ ·)

/-- The folders that the linker may search. -/
def searchPaths (lookup : String → Option String) : List String :=
  (places lookup).flatMap fun root => folders.map (Path.join root)

variable {m : Type → Type} [Monad m]

/-- The lines that point the linker to the directories among some paths. -/
def searchLines (files : Files m) : List String → m (List String)
  | [] => return []
  | path :: rest => do
    let found ← files.isDirectory path
    let others ← searchLines files rest
    return if found then s!"cargo:rustc-link-search=native={path}" :: others else others

/-- The lines that instruct the build. -/
def lines (files : Files m) (lookup : String → Option String) : m (List String) := do
  if (lookup featureVariable).isNone then return triggers
  return triggers ++ (← searchLines files (searchPaths lookup))

end BuildPlan

end SpectralBench.Workspace
