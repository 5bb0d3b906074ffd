import CommandBuffer.Storage.FileStore

/-! # Writing all files or none

The files are first written into a staging directory inside the output directory.
Only when all of them are there are they moved to their targets, one after the
other; what stood at a target is kept aside in the staging directory. If a move
fails, the targets already replaced get back what they had, newest first. In the
end the staging directory is removed with all that is left in it.
-/

namespace CommandBuffer.Storage
open FileStore

/-- A file to write, with its path below the output directory. -/
structure OutputFile where
  path : String
  content : String
  deriving DecidableEq, Repr

/-- A staged file and the target that it is for. -/
structure Staged where
  file : Path
  target : Path
  deriving DecidableEq, Repr

/-- A target that was replaced, and where its earlier content is kept if it had one. -/
structure Replaced where
  target : Path
  backup : Option Path
  deriving DecidableEq, Repr

/-- How writing ended. -/
structure WriteOutcome where
  /-- What could not be written, if something could not. -/
  failure : Option Path := none
  /-- The targets that did not get back what they had. -/
  unrestored : List Path := []
  deriving DecidableEq, Repr

/-- The place in the staging directory of the file with a number. -/
def stagedPath (staging : Path) (number : Nat) : Path := staging.join (.ofText s!"{number}.rs")

/-- Where the earlier content of the target with a number is kept. -/
def backupPath (staging : Path) (number : Nat) : Path := staging.join (.ofText s!"{number}.bak")

section

variable {m : Type → Type} [Monad m] [FileStore m]

/-- Makes the directory that a target stands in. -/
def ensureParent (target : Path) : m (Except Path Unit) := do
  match target.parent? with
  | some parent =>
    if parent.text = "" then return .ok ()
    if ← ensureDirectories parent then return .ok () else return .error parent
  | none => return .ok ()

/-- Writes a file to the staging directory. -/
def stage (output staging : Path) (number : Nat) (file : OutputFile) : m (Except Path Staged) := do
  let target := output.join (.ofText file.path)
  match ← ensureParent target with
  | .error parent => return .error parent
  | .ok () =>
    let staged := stagedPath staging number
    if ← writeFile staged file.content then return .ok ⟨staged, target⟩ else return .error staged

/-- Stages the files, numbered from a number. -/
def stageAll (output staging : Path) (number : Nat) : List OutputFile → m (Except Path (List Staged))
  | [] => return .ok []
  | file :: rest => do
    match ← stage output staging number file with
    | .error path => return .error path
    | .ok staged =>
      match ← stageAll output staging (number + 1) rest with
      | .error path => return .error path
      | .ok others => return .ok (staged :: others)

/-- Moves what stands at a target aside. -/
def moveAside (staging : Path) (number : Nat) (target : Path) : m (Except Path (Option Path)) := do
  if ← isPresent target then
    let backup := backupPath staging number
    if ← rename target backup then return .ok (some backup) else return .error target
  else return .ok none

/-- Moves a staged file to its target. If that fails, the target gets back what it had. -/
def replaceTarget (staging : Path) (number : Nat) (staged : Staged) : m (Except Path Replaced) := do
  match ← moveAside staging number staged.target with
  | .error path => return .error path
  | .ok backup =>
    if ← rename staged.file staged.target then return .ok ⟨staged.target, backup⟩
    else
      match backup with
      | some backup => let _ ← rename backup staged.target
      | none => pure ()
      return .error staged.target

/-- Gives a target back what it had. -/
def restore (replaced : Replaced) : m Bool :=
  match replaced.backup with
  | some backup => rename backup replaced.target
  | none => removeFile replaced.target

/-- Restores targets in order, and gives those for which it failed. -/
def restoreAll : List Replaced → m (List Path)
  | [] => return []
  | replaced :: rest => do
    let isRestored ← restore replaced
    let others ← restoreAll rest
    return if isRestored then others else replaced.target :: others

/-- Moves the staged files to their targets, numbered from a number, given what was
replaced before, newest first. -/
def commit (staging : Path) (number : Nat) (done : List Replaced) :
    List Staged → m WriteOutcome
  | [] => return {}
  | staged :: rest => do
    match ← replaceTarget staging number staged with
    | .ok replaced => commit staging (number + 1) (replaced :: done) rest
    | .error path => return { failure := some path, unrestored := ← restoreAll done }

/-- Stages and commits the files. -/
def writeThrough (output staging : Path) (files : List OutputFile) : m WriteOutcome := do
  match ← stageAll output staging 0 files with
  | .error path => return { failure := some path }
  | .ok staged => commit staging 0 [] staged

/-- Writes all files below the output directory, or none of them. -/
def writeStaged (output : Path) (files : List OutputFile) : m WriteOutcome := do
  if !(← ensureDirectories output) then return { failure := some output }
  let staging := output.join (.ofText (← freshName (files.map OutputFile.path)))
  if !(← makeDirectory staging) then return { failure := some output }
  let outcome ← writeThrough output staging files
  let _ ← removeTree staging
  return outcome

end

end CommandBuffer.Storage
