import CommandBuffer.Artifact.Documentation
import CommandBuffer.Artifact.Emission
import CommandBuffer.Code.ModulePathReader
import CommandBuffer.Diagnostics
import CommandBuffer.Layout.Command
import CommandBuffer.Validator

/-! # Blueprints

A blueprint is all that the artifacts are emitted from: the protocol, its records,
their validators and commands, and the module that every artifact imports.
-/

namespace CommandBuffer
open Code

structure Blueprint where
  protocol : Protocol
  records : List Record
  validators : ValidatorSet
  commands : List Command
  support : ModulePath
  deriving DecidableEq, Repr

namespace Blueprint

/-- The blueprint of a planned protocol whose support path is a path. -/
def ofPlan (protocol : Protocol) (records : List Record) (validators : ValidatorSet)
    (commands : List Command) : Except ConfigurationError Blueprint :=
  match ModulePath.ofText? protocol.supportPath with
  | some support => .ok { protocol, records, validators, commands, support }
  | none => .error (.invalidSupportPath protocol.supportPath)

/-- The import that all but the command table start with. -/
def supportImport (blueprint : Blueprint) : Item :=
  .importAll [.allow ["unused_imports"]] blueprint.support

/-- A type named after the protocol. -/
def protocolType (blueprint : Blueprint) (suffix : String) : Name :=
  .verbatim (blueprint.protocol.name ++ suffix)

/-- The commands of a record, the preferred transfer method first. -/
def commandsFor (blueprint : Blueprint) (record : Record) : List Command :=
  blueprint.commands.filter fun command => command.record.name == record.name

/-- The command of a record that a client uses. -/
def preferredCommand? (blueprint : Blueprint) (record : Record) : Option Command :=
  (blueprint.commandsFor record).head?

/-- A file with documentation, the support import and more items. -/
def file (blueprint : Blueprint) (title : String) (contents : List String)
    (items : List Item) : SourceFile where
  docs := blueprint.protocol.documentation title contents
  items := blueprint.supportImport :: items

end Blueprint
end CommandBuffer
