import CommandBuffer.Artifact.CommandTable
import CommandBuffer.Artifact.FormatTests
import CommandBuffer.Artifact.HandlerTests
import CommandBuffer.Artifact.Handlers
import CommandBuffer.Artifact.Kind
import CommandBuffer.Artifact.Marshaling
import CommandBuffer.Artifact.Validators
import CommandBuffer.Outcome

/-! # Bundles

All artifacts of a blueprint are emitted together. Every definition error is
reported; an impossible name ends the run at once.
-/

namespace CommandBuffer
open Code

/-- One emitted file. -/
structure Artifact where
  kind : ArtifactKind
  /-- The path below the output directory. -/
  path : String
  code : SourceFile
  deriving Repr

inductive BundleFailure where
  | impossibleName (spelling : String)
  | rejected (causes : List EmitError)
  deriving DecidableEq, Repr

namespace Blueprint

def emit (blueprint : Blueprint) : ArtifactKind → Emission SourceFile
  | .commandTable => blueprint.commandTable
  | .commandFormat => blueprint.commandFormat
  | .formatTests => blueprint.formatTests
  | .interface => blueprint.interface
  | .implementation => blueprint.implementation
  | .marshaling => blueprint.marshaling
  | .clientTests => blueprint.clientTests
  | .writers => blueprint.writers
  | .handlers => blueprint.handlers
  | .handlerTests => blueprint.handlerTests
  | .validators => blueprint.validatorTypes
  | .validatorBodies => blueprint.validatorBodies

/-- The tests that are left out, in the order of emission. -/
def omissions (blueprint : Blueprint) : List Omission :=
  TestOutcome.omissions blueprint.formatTestOutcomes
    ++ TestOutcome.omissions blueprint.clientTestOutcomes
    ++ TestOutcome.omissions blueprint.handlerTestOutcomes

/-- The artifacts with their outcomes, in the order of emission. -/
def outcomes (blueprint : Blueprint) : List (Emission Artifact) :=
  ArtifactKind.all.map fun kind => do
    let code ← blueprint.emit kind
    return { kind, path := kind.relativePath blueprint.protocol.filePrefix, code }

/-- The first impossible name among the outcomes. -/
def impossibleName? (outcomes : List (Emission Artifact)) : Option String :=
  outcomes.findSome? fun
    | .error (.impossibleName spelling) => some spelling
    | _ => none

/-- The definition error of an outcome, if it is one. -/
def rejection? : Emission Artifact → Option EmitError
  | .error (.rejected cause) => some cause
  | _ => none

/-- All artifacts, or every definition error. -/
def bundle (blueprint : Blueprint) : Except BundleFailure (List Artifact) :=
  let outcomes := blueprint.outcomes
  match impossibleName? outcomes with
  | some spelling => .error (.impossibleName spelling)
  | none =>
    match outcomes.filterMap rejection? with
    | [] => .ok (Outcome.values outcomes)
    | causes => .error (.rejected causes)

end Blueprint
end CommandBuffer
