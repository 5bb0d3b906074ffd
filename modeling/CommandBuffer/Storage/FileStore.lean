import CommandBuffer.Storage.FileTree

/-! # File stores

What writing artifacts needs of a file system: each operation says whether it
succeeded. A world is a file tree with a working directory, in which one chosen
operation may fail although the tree would allow it.
-/

namespace CommandBuffer.Storage

class FileStore (m : Type → Type) where
  /-- The path leads to a directory. -/
  isDirectory : Path → m Bool
  /-- The path leads to a file or a directory. -/
  isPresent : Path → m Bool
  makeDirectory : Path → m Bool
  writeFile : Path → String → m Bool
  rename : Path → Path → m Bool
  removeFile : Path → m Bool
  removeTree : Path → m Bool
  /-- A name for a new directory that neither the store nor one of the texts has. -/
  freshName : List String → m String

/-- A file tree that operations change. -/
structure World where
  tree : FileTree := {}
  /-- The directory that relative paths start from. -/
  home : Location := []
  /-- How many operations still succeed before one fails for no reason of the tree. -/
  fault : Option Nat := none
  /-- How many operations have failed. -/
  failures : Nat := 0
  deriving DecidableEq, Repr

namespace World

/-- Whether the next operation fails for no reason of the tree, and what is left to fail. -/
def spend : Option Nat → Bool × Option Nat
  | none => (false, none)
  | some 0 => (true, none)
  | some (count + 1) => (false, some count)

/-- The world after an operation that may be made to fail. -/
def attempt (operation : FileTree → Option FileTree) (world : World) : Bool × World :=
  let (isFaulty, fault) := spend world.fault
  if isFaulty then (false, { world with fault, failures := world.failures + 1 })
  else match operation world.tree with
    | some tree => (true, { world with tree, fault })
    | none => (false, { world with fault, failures := world.failures + 1 })

/-- The world after an operation that fails only for a reason of the tree. -/
def perform (operation : FileTree → Option FileTree) (world : World) : Bool × World :=
  match operation world.tree with
  | some tree => (true, { world with tree })
  | none => (false, { world with failures := world.failures + 1 })

/-- What the name of every staging directory starts with. -/
def stagingPrefix : String := ".cmdbuf-gen-"

/-- The names in the tree and in the texts that staging directories could have. -/
def stagingNames (tree : FileTree) (texts : List String) : List String :=
  let names := tree.entries.flatMap (·.1) ++ texts.flatMap fun text => (Path.ofText text).components
  names.filter fun name => stagingPrefix.toList.isPrefixOf name.toList

/-- A name for a staging directory, longer than every such name of the tree and the texts. -/
def stagingName (tree : FileTree) (texts : List String) : String :=
  let lengths := (stagingNames tree texts).map String.length
  stagingPrefix ++ String.ofList (List.replicate (lengths.foldl max 0) 'x')

instance : FileStore (StateM World) where
  isDirectory path := fun world => (world.tree.hasDirectory world.home path, world)
  isPresent path := fun world => (world.tree.contains world.home path, world)
  makeDirectory path := fun world =>
    world.attempt (·.makeDirectory? world.home path)
  writeFile path content := fun world =>
    world.attempt (·.writeFile? world.home path content)
  rename source target := fun world =>
    world.attempt (·.rename? world.home source target)
  removeFile path := fun world =>
    world.perform (·.removeFile? world.home path)
  removeTree path := fun world =>
    world.perform (·.removeTree? world.home path)
  freshName texts := fun world => (stagingName world.tree texts, world)

end World

section

variable {m : Type → Type} [Monad m] [FileStore m]
open FileStore

/-- Makes a directory unless there is one. -/
def ensureDirectory (path : Path) : m Bool := do
  if ← isDirectory path then return true
  makeDirectory path

/-- Makes the directories of the list that are missing, up to the first failure. -/
def ensureAll : List Path → m Bool
  | [] => return true
  | path :: rest => do
    if ← ensureDirectory path then ensureAll rest else return false

/-- Makes a directory and those above it. A path that the store does not take makes none. -/
def ensureDirectories (path : Path) : m Bool :=
  if path.isAddress then ensureAll (path.ancestors ++ [path]) else return false

end

end CommandBuffer.Storage
