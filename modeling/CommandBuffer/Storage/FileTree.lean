import CommandBuffer.Storage.Path

/-! # File trees

A tree of directories and regular files, as a list of what stands at each location.
A location lists the names from the root; the root is always a directory. The
operations follow the rules of a POSIX system without links and permissions.
-/

namespace CommandBuffer.Storage

abbrev Location := List String

inductive Entry where
  | file (content : String)
  | directory
  deriving DecidableEq, Repr

structure FileTree where
  entries : List (Location × Entry) := []
  deriving DecidableEq, Repr

namespace FileTree

def lookup (tree : FileTree) (location : Location) : Option Entry :=
  if location = [] then some .directory
  else (tree.entries.find? fun entry => decide (entry.1 = location)).map Prod.snd

def isDirectory (tree : FileTree) (location : Location) : Bool :=
  tree.lookup location == some .directory

def isFile (tree : FileTree) (location : Location) : Bool :=
  match tree.lookup location with
  | some (.file _) => true
  | _ => false

/-- The first location is the second one or lies above it. -/
def isAtOrAbove (above location : Location) : Bool := above.isPrefixOf location

/-- Nothing stands inside the location. -/
def isBare (tree : FileTree) (location : Location) : Bool :=
  tree.entries.all fun entry => !isAtOrAbove location entry.1 || entry.1 == location

/-- Puts an entry at a location, in place of what stood there. -/
def put (tree : FileTree) (location : Location) (entry : Entry) : FileTree where
  entries := (location, entry) :: tree.entries.filter fun old => decide (old.1 ≠ location)

/-- Removes a location with everything inside. -/
def remove (tree : FileTree) (location : Location) : FileTree where
  entries := tree.entries.filter fun entry => !isAtOrAbove location entry.1

/-- Takes a location with everything inside to another one. -/
def relocate (tree : FileTree) (source target : Location) : FileTree where
  entries := (tree.remove target).entries.map fun entry =>
    if isAtOrAbove source entry.1 then (target ++ entry.1.drop source.length, entry.2) else entry

/-! ## Following paths -/

/-- The location that the components lead to; every place on the way is a directory. -/
def walk (tree : FileTree) (start : Location) : List String → Option Location
  | [] => some start
  | component :: rest =>
    if tree.isDirectory start then
      tree.walk (if component == ".." then start.dropLast else start ++ [component]) rest
    else none

/-- The location of a path, from the root or from a working directory. -/
def locate (tree : FileTree) (home : Location) (path : Path) : Option Location :=
  if path.isAddress && path.components.all Path.isName then
    tree.walk (if path.isAbsolute then [] else home) path.components
  else none

/-- The path names its last component, rather than the inside or the parent of one. -/
def isNamed (path : Path) : Bool :=
  path.ending != .dot && !path.components.isEmpty && path.components.getLast? != some ".."

/-! ## Operations -/

/-- The path leads to a directory. -/
def hasDirectory (tree : FileTree) (home : Location) (path : Path) : Bool :=
  (tree.locate home path).any tree.isDirectory

/-- The path leads to a file or a directory. -/
def contains (tree : FileTree) (home : Location) (path : Path) : Bool :=
  (tree.locate home path).any fun location =>
    tree.isDirectory location || (path.ending == .name && tree.isFile location)

/-- Makes a directory where nothing stands. -/
def makeDirectory? (tree : FileTree) (home : Location) (path : Path) : Option FileTree :=
  match tree.locate home path with
  | some location =>
    if isNamed path ∧ (tree.lookup location).isNone then some (tree.put location .directory)
    else none
  | none => none

/-- Writes a file, new or in place of a file. -/
def writeFile? (tree : FileTree) (home : Location) (path : Path) (content : String) :
    Option FileTree :=
  match tree.locate home path with
  | some location =>
    if isNamed path ∧ path.ending = .name ∧ ¬ tree.isDirectory location then
      some (tree.put location (.file content))
    else none
  | none => none

/-- Removes a file. -/
def removeFile? (tree : FileTree) (home : Location) (path : Path) : Option FileTree :=
  match tree.locate home path with
  | some location =>
    if path.ending = .name ∧ tree.isFile location then some (tree.remove location) else none
  | none => none

/-- Removes a directory with everything inside. -/
def removeTree? (tree : FileTree) (home : Location) (path : Path) : Option FileTree :=
  match tree.locate home path with
  | some location =>
    if isNamed path ∧ tree.isDirectory location then some (tree.remove location) else none
  | none => none

/-- What stands at the source can take the place of what stands at the target: a file that
of a file, and a directory that of an empty directory, if it does not contain it. -/
def canReplace (tree : FileTree) (source target : Location) (targetEnding : PathEnding) : Bool :=
  if tree.isDirectory source then
    !isAtOrAbove source target
      && ((tree.lookup target).isNone || (tree.isDirectory target && tree.isBare target))
  else targetEnding == .name && !tree.isDirectory target

/-- Moves a file or a directory. -/
def rename? (tree : FileTree) (home : Location) (source target : Path) : Option FileTree :=
  if isNamed source ∧ isNamed target ∧ tree.contains home source then
    match tree.locate home source, tree.locate home target with
    | some origin, some goal =>
      if origin = goal then some tree
      else if tree.canReplace origin goal target.ending then some (tree.relocate origin goal)
      else none
    | _, _ => none
  else none

/-! ## Listing -/

/-- One line of a listing: a path, with a slash behind a directory, and the content of a file. -/
structure Listed where
  path : String
  content : Option String
  deriving DecidableEq, Repr

def listed (location : Location) (entry : Entry) : Listed :=
  let path := "/".intercalate location
  match entry with
  | .file content => ⟨path, some content⟩
  | .directory => ⟨path ++ "/", none⟩

/-- What stands inside a location, in the order of the paths. -/
def listing (tree : FileTree) (home : Location) : List Listed :=
  let inside := tree.entries.filterMap fun entry =>
    if isAtOrAbove home entry.1 && entry.1 != home then
      some (listed (entry.1.drop home.length) entry.2)
    else none
  inside.mergeSort fun a b => decide (a.path ≤ b.path)

end FileTree
end CommandBuffer.Storage
