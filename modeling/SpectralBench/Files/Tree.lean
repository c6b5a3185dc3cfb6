import SpectralBench.Files
import SpectralBench.Files.Path

/-!
# File trees

A tree of files held in memory. A path is walked name by name from the root of the tree; a single
dot and an empty name stay where they are, two dots lead up, and every step needs a directory to
start from. A directory is what files lie below. Nothing outside of the tree can be reached.

Main statements:

* `text?_put` — a file that was written holds what was written.
* `text?_put_of_ne` — writing a file leaves the others alone.
-/

namespace SpectralBench

/-- The names that lead from the root of a tree to a file. -/
abbrev Place := List (List Char)

/-- A tree of files. -/
structure Tree where
  /-- The path of the root, by which absolute paths reach into the tree. -/
  root : String
  /-- The place and the text of each file. -/
  files : List (Place × String)
  deriving DecidableEq

namespace Tree

/-! ## Reasons -/

def missing : String := "No such file or directory (os error 2)"

def denied : String := "Permission denied (os error 13)"

def notDirectory : String := "Not a directory (os error 20)"

def isDirectoryReason : String := "Is a directory (os error 21)"

def nameTooLong : String := "File name too long (os error 36)"

def holdsNul : String := "file name contained an unexpected NUL byte"

/-- The number of bytes that a name may have. -/
def maxNameBytes : Nat := 255

/-! ## Contents -/

/-- The text of the file at a place. -/
def text? (tree : Tree) (place : Place) : Option String :=
  (tree.files.find? (·.1 = place)).map (·.2)

/-- Whether there is a directory at a place: the root is one, and so is what a file lies below. -/
def isFolder (tree : Tree) (place : Place) : Bool :=
  place.isEmpty ||
    tree.files.any fun file => place.isPrefixOf file.1 && place.length < file.1.length

/-- Gives the file at a place a text. -/
def put (tree : Tree) (place : Place) (text : String) : Tree :=
  { tree with files := (place, text) :: tree.files.filter (·.1 ≠ place) }

/-- Adds a text at the end of the file at a place. -/
def extend (tree : Tree) (place : Place) (text : String) : Tree :=
  tree.put place ((tree.text? place).getD "" ++ text)

@[simp]
theorem text?_put (tree : Tree) (place : Place) (text : String) :
    (tree.put place text).text? place = some text := by
  simp [put, text?]

theorem text?_put_of_ne (tree : Tree) {place other : Place} (text : String) (h : other ≠ place) :
    (tree.put place text).text? other = tree.text? other := by
  have hne : ¬ place = other := fun he => h he.symm
  simp only [put, text?, List.find?_cons, hne, decide_false, List.find?_filter]
  congr 2
  funext file
  by_cases hf : file.1 = other
  · simp [hf, h]
  · simp [hf]

/-! ## Paths -/

/-- The names of a path below the root, if it leads into the tree. -/
def below? (tree : Tree) (path : String) : Option (List (List Char)) :=
  let names := Text.split (· = '/') path.toList
  let rootNames := Text.split (· = '/') tree.root.toList
  if rootNames.isPrefixOf names then some (names.drop rootNames.length)
  else if Path.isAbsolute path then none
  else some names

/-- Follows names from a place. Every name needs a directory to be looked up in. -/
def walk (tree : Tree) : Place → List (List Char) → Except String Place
  | place, [] => .ok place
  | place, name :: rest =>
    if (tree.text? place).isSome then .error notDirectory
    else if !tree.isFolder place then .error missing
    else if name.isEmpty ∨ name = ['.'] then tree.walk place rest
    else if name = ['.', '.'] then
      if place.isEmpty then .error missing else tree.walk place.dropLast rest
    else if maxNameBytes < (String.ofList name).utf8ByteSize then .error nameTooLong
    else tree.walk (place ++ [name]) rest

/-- The names of a path that a system call accepts. -/
def names (tree : Tree) (path : String) : Except String (List (List Char)) :=
  if path.isEmpty then .error missing
  else if path.toList.contains '\x00' then .error holdsNul
  else
    match tree.below? path with
    | some names => .ok names
    | none => .error missing

/-- The place that a path leads to. -/
def locate (tree : Tree) (path : String) : Except String Place := do
  tree.walk [] (← tree.names path)

/-- The text of the file that a path names. -/
def read (tree : Tree) (path : String) : Except String String := do
  let place ← tree.locate path
  match tree.text? place with
  | some text => return text
  | none => throw (if tree.isFolder place then isDirectoryReason else missing)

/-- The place of a file that is to be made. Its directory has to be there, and the path must neither
end in a slash nor lead to a directory. -/
def placeFor (tree : Tree) (path : String) : Except String Place := do
  let names ← tree.names path
  let named := (names.reverse.dropWhile (·.isEmpty)).reverse
  let place ← tree.walk [] named
  if names.length ≠ named.length ∨ tree.isFolder place then throw isDirectoryReason
  return place

/-- Whether a path names a file or a directory. -/
def present (tree : Tree) (path : String) : Bool :=
  match tree.locate path with
  | .ok place => (tree.text? place).isSome || tree.isFolder place
  | .error _ => false

/-- Whether a path names a directory. -/
def isDirectory (tree : Tree) (path : String) : Bool :=
  match tree.locate path with
  | .ok place => tree.isFolder place
  | .error _ => false

/-- Why a path starts no program of the tree: its files are texts that nobody may run, and a bare
name is not looked for in it. -/
def launchRefusal (tree : Tree) (program : String) : String :=
  if !program.toList.contains '/' then missing
  else
    match tree.read program with
    | .ok _ => denied
    | .error reason => if reason = isDirectoryReason then denied else reason

/-- The files of a tree that is kept elsewhere, read and changed from there. -/
def reached {m : Type → Type} [Monad m] (kept : m Tree) (change : (Tree → Tree) → m Unit) :
    Files m where
  read path := do
    ExceptT.mk (pure ((← liftM kept).read path))
  create path := do
    let place ← ExceptT.mk (pure ((← liftM kept).placeFor path))
    liftM (change (·.put place ""))
    return {
      write := fun text => liftM (change (·.extend place text))
      flush := return () }
  present path := return (← kept).present path
  isDirectory path := return (← kept).isDirectory path

end Tree

end SpectralBench
