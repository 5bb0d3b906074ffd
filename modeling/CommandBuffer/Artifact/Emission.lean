import CommandBuffer.Code.Demand
import CommandBuffer.Layout.Error

/-! # Emission

Emitting an artifact fails with an error of the definition, or because a name that
was asked for is impossible. The second is a failure of the generator itself: it
ends the whole run.
-/

namespace CommandBuffer
open Code

inductive EmissionFailure where
  | impossibleName (spelling : String)
  | rejected (cause : EmitError)
  deriving DecidableEq, Repr

abbrev Emission := Except EmissionFailure

namespace Emission

/-- Fails at the first name that is impossible. -/
def requireNames (names : List Name) : Emission Unit :=
  match names.find? fun name => !name.isPossible with
  | some name => .error (.impossibleName name.spelling)
  | none => .ok ()

/-- Fails at the first demand that keeps a tree from being written. -/
def requireWritable (demands : List Demand) : Emission Unit :=
  match demands.find? fun demand => !demand.isWritable with
  | some (.named _ name) => .error (.impossibleName name.spelling)
  | _ => .ok ()

/-- The file, if the names that it was made with and those that it holds are possible. -/
def finish (names : List Name) (file : SourceFile) : Emission SourceFile := do
  requireNames names
  requireWritable file.demands
  return file

def rejecting {α : Type} (outcome : Except EmitError α) : Emission α :=
  outcome.mapError .rejected

end Emission
end CommandBuffer
