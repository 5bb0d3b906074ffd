import CommandBuffer.Artifact.Bundle
import CommandBuffer.Pipeline
import CommandBuffer.Storage.Staging

/-! # Generation

A run goes from a protocol to its files. It stops at the first stage that fails, with
every error of that stage, and no file is written unless every stage succeeded.
-/

namespace CommandBuffer
open Storage

/-- Why a run ends without files. -/
inductive RunFailure where
  /-- A name cannot be written. The run breaks off and reports nothing else. -/
  | impossibleName (spelling : String)
  | rejected (errors : List GenerationError)
  deriving DecidableEq, Repr

/-- Turns artifacts into files, or reports every artifact that it refuses. -/
abbrev Formatter := List Artifact → Except (List GenerationError) (List OutputFile)

namespace Artifact

/-- What every generated file starts with. -/
def notice : String :=
  "// This code was automatically generated by cmdbuf-gen. Do not edit manually.\n\n"

/-- The file of the artifact, if its code can be read back. -/
def file (artifact : Artifact) : Except GenerationError OutputFile :=
  if artifact.code.isReadable then .ok { path := artifact.path, content := artifact.code.text }
  else .error (.format artifact.path)

/-- The artifacts as they are. -/
def plainFiles : Formatter := fun artifacts => Outcome.collect (artifacts.map file)

/-- The artifacts below the notice. -/
def noticedFiles : Formatter := fun artifacts =>
  (plainFiles artifacts).map (·.map fun file => { file with content := notice ++ file.content })

end Artifact

/-- What a run produces. -/
structure Generation where
  blueprint : Blueprint
  /-- The files in the order of emission. -/
  files : List OutputFile
  deriving DecidableEq, Repr

namespace Generation

/-- The content of the file at a path. -/
def content? (generation : Generation) (path : String) : Option String :=
  (generation.files.find? fun file =>
    (Path.ofText file.path).isSame (.ofText path)).map OutputFile.content

end Generation

/-- The artifacts of a blueprint. -/
def Blueprint.artifacts (blueprint : Blueprint) : Except RunFailure (List Artifact) :=
  blueprint.bundle.mapError fun
    | .impossibleName spelling => .impossibleName spelling
    | .rejected causes => .rejected (causes.map .emit)

namespace Protocol

/-- All that the artifacts are emitted from. -/
def blueprint (protocol : Protocol) : Except (List GenerationError) Blueprint := do
  let records ← protocol.records
  let commands ← protocol.commands records
  (Blueprint.ofPlan protocol records (protocol.validators records) commands).mapError
    ([.configuration ·])

/-- Generates the files of a protocol. -/
def generate (format : Formatter) (protocol : Protocol) : Except RunFailure Generation := do
  let blueprint ← protocol.blueprint.mapError .rejected
  let artifacts ← blueprint.artifacts
  let files ← (format artifacts).mapError .rejected
  return { blueprint, files }

end Protocol

/-- How a run into a directory ended. -/
structure RunOutcome where
  result : Except RunFailure Generation
  /-- The files that were replaced and did not get back what they had. -/
  unrestored : List Path := []

/-- Writes the files of a run below a directory. -/
def Generation.writeInto {m : Type → Type} [Monad m] [FileStore m] (output : Path)
    (generation : Generation) : m RunOutcome := do
  let outcome ← writeStaged output generation.files
  match outcome.failure with
  | none => return { result := .ok generation }
  | some path =>
    return { result := .error (.rejected [.write path.text]), unrestored := outcome.unrestored }

/-- Generates the files of a protocol below a directory. -/
def Protocol.generateInto {m : Type → Type} [Monad m] [FileStore m] (format : Formatter)
    (output : Path) (protocol : Protocol) : m RunOutcome :=
  match protocol.generate format with
  | .ok generation => generation.writeInto output
  | .error failure => return { result := .error failure }

end CommandBuffer
