import CommandBuffer.Artifact.Blueprint
import CommandBuffer.Artifact.TypeMap

/-! # The client interface

One method for each public record, with or without commands. Methods take the
declared parameters, not the arguments on the wire. The implementation forwards
every method to a marshaling function, or to a function written by hand if the
record has no commands.
-/

namespace CommandBuffer
open Code

namespace Record

/-- The name of the client method. -/
def method (record : Record) : Name := .escaped record.methodName

/-- The name of a marshaling function. -/
def marshalName (record : Record) : Name := .verbatim ("marshal_" ++ record.methodName)

/-- The name of the function behind a method without commands. -/
def directName (record : Record) : Name := .verbatim (record.methodName ++ "_direct")

/-- The declared parameters in generated code. -/
def clientParameters (record : Record) : List Parameter :=
  record.declared.map fun param => ⟨.escaped param.name, param.type.clientType⟩

/-- The signature of a client function with a name. -/
def clientSignature (record : Record) (name : Name) : Signature where
  name
  receiver := some .exclusive
  isOpen := true
  parameters := record.clientParameters
  result := record.returnType.resultType?

end Record

namespace Interface

/-- The records that a client can call. -/
def entries (blueprint : Blueprint) : List Record := blueprint.records.filter Record.isPublic

/-- A method of the interface, documented by its declaration. -/
def prototype (record : Record) : Prototype where
  attributes := [.doc s!" `{record.declarationText}`"]
  signature := record.clientSignature record.method

def file (blueprint : Blueprint) : SourceFile :=
  let entries := entries blueprint
  blueprint.file "Client interface" [s!"{entries.length} entry points"]
    [.interface [.doc s!" Client entry points of the {blueprint.protocol.name} protocol."]
      (blueprint.protocolType "Interface") (entries.map prototype)]

/-- The function that a method forwards to. -/
def target (record : Record) : Name :=
  if record.hasCommands then record.marshalName else record.directName

def forwarding (record : Record) : Function where
  signature := record.clientSignature record.method
  body := [.result (.send "self" (target record)
    (record.clientParameters.map fun parameter => (parameter.name : Expr)))]

def implementation (blueprint : Blueprint) : SourceFile :=
  let entries := entries blueprint
  let direct := entries.filter (!·.hasCommands)
  blueprint.file "Client interface implementation"
    [s!"{entries.length - direct.length} marshaled entries", s!"{direct.length} direct entries"]
    [.implement (some (blueprint.protocolType "Interface"))
      (blueprint.protocolType "Implementation") (entries.map fun r => .function (forwarding r))]

end Interface

def Blueprint.interface (blueprint : Blueprint) : Emission SourceFile :=
  Emission.finish [] (Interface.file blueprint)

def Blueprint.implementation (blueprint : Blueprint) : Emission SourceFile :=
  Emission.finish [] (Interface.implementation blueprint)

end CommandBuffer
