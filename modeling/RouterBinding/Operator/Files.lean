import RouterBinding.Binding.Store

/-!
# Files

A `FileTree` is what the operator's tool sees of a file system: directories, and files that hold a
text or a binding store. Paths are resolved step by step from the working directory; to pass
through a directory it has to be there, or is made on the way to a store.
-/

namespace RouterBinding

/-- What a file holds. -/
inductive FileContent where
  | text (content : String)
  | store (bindings : Store)
  deriving DecidableEq

/-- The names that lead from the root to a file or directory. -/
abbrev Place := List String

structure FileTree where
  files : List (Place × FileContent)
  directories : List Place
  /-- The working directory. -/
  current : Place

namespace FileTree

/-- An empty working directory. -/
def empty : FileTree := ⟨[], [["home"]], ["home"]⟩

def file? (t : FileTree) (p : Place) : Option FileContent :=
  (t.files.find? (·.1 = p)).map Prod.snd

def isDirectory (t : FileTree) (p : Place) : Bool := p.isEmpty || t.directories.contains p

def write (t : FileTree) (p : Place) (content : FileContent) : FileTree :=
  { t with files := t.files.filter (·.1 ≠ p) ++ [(p, content)] }

/-- The parts of a path between slashes. -/
def parts (path : String) : List String := path.splitOn "/"

/-- Whether a part of a path leads nowhere. -/
def staysPut (part : String) : Bool := part = "" || part = "."

/-- The parts of a path before its last one; parts at the end that lead nowhere do not count. -/
def parentParts (path : String) : List String :=
  (((parts path).reverse.dropWhile staysPut).drop 1).reverse

/-- The path before its last part, up to its own last part that leads somewhere. -/
def parentPath (path : String) : String :=
  "/".intercalate ((parentParts path).reverse.dropWhile staysPut).reverse

/-- Where the resolution of a path begins. -/
def origin (t : FileTree) (path : String) : Place :=
  if path.toList.head? = some '/' then [] else t.current

/-- The longest name of a file in bytes. -/
def maxName : Nat := 255

/-- Whether a name can be that of a file. -/
def isName (name : String) : Bool := name.utf8ByteSize ≤ maxName

/-- The longest path in bytes. -/
def maxPath : Nat := 4095

/-- Whether a text can be a path; it may have no null character. -/
def isPath (path : String) : Bool :=
  path.utf8ByteSize ≤ maxPath && !path.toList.contains '\x00'

/-- Goes into a directory, which is made if it is missing and `make` allows it: the tree, and the
place if there is a way. -/
def enter (make : Bool) (t : FileTree) (p : Place) (part : String) : FileTree × Option Place :=
  if staysPut part then (t, some p)
  else if part = ".." then (t, some p.dropLast)
  else
    let q := p ++ [part]
    if !isName part || (t.file? q).isSome then (t, none)
    else if t.isDirectory q then (t, some q)
    else if make then ({ t with directories := t.directories ++ [q] }, some q)
    else (t, none)

/-- Goes through the directories of a path. -/
def walk (make : Bool) (t : FileTree) (p : Place) : List String → FileTree × Option Place
  | [] => (t, some p)
  | part :: rest =>
    match enter make t p part with
    | (t, some p) => walk make t p rest
    | (t, none) => (t, none)

/-- Goes to the directory of a file; none is made if the way there can be no path. -/
def enterParent (make : Bool) (t : FileTree) (path : String) : FileTree × Option Place :=
  if isPath (parentPath path) then walk make t (t.origin path) (parentParts path) else (t, none)

/-- The place that a path to a file leads to, with the directories made on the way. -/
def locate (make : Bool) (t : FileTree) (path : String) : FileTree × Option Place :=
  let name := (parts path).getLastD ""
  let (t, place) := enterParent make t path
  if !isPath path || staysPut name || name = ".." || !isName name then (t, none)
  else (t, place.map (· ++ [name]))

/-- The text of a file. -/
def readText? (t : FileTree) (path : String) : Option String := do
  match t.file? (← (t.locate false path).2) with
  | some (.text content) => some content
  | _ => none

/-- The bindings of the store at a place. A missing or empty file is a fresh store; a directory or
a file that holds anything else is none. -/
def storeAt? (t : FileTree) (p : Place) : Option Store :=
  if t.isDirectory p then none
  else match t.file? p with
    | none => some ∅
    | some (.text content) => if content = "" then some ∅ else none
    | some (.store s) => some s

/-- A path from the working directory. -/
def relative? (t : FileTree) (p : Place) : Option String :=
  if t.current.isPrefixOf p then
    some ("/".intercalate (p.drop t.current.length))
  else none

/-- The paths of all files below the working directory. -/
def listing (t : FileTree) : List String := t.files.filterMap fun file => t.relative? file.1

end FileTree

end RouterBinding
