import CommandBuffer.Definition.NamedType

/-! # Errors of a protocol definition -/

namespace CommandBuffer

/-- Why a registry or an override table cannot be built, or a lookup in it fails. -/
inductive DefinitionError where
  | unknownType (name : String)
  | duplicateType (name : String)
  | invalidNamedType (name : String) (fault : NamedTypeFault)
  | duplicateOverride (name : String)
  deriving DecidableEq, Repr

def DefinitionError.message : DefinitionError → String
  | .unknownType name => s!"unknown named type '{name}'"
  | .duplicateType name => s!"named type '{name}' is declared more than once"
  | .invalidNamedType name fault => s!"named type '{name}' is invalid: {fault.reason}"
  | .duplicateOverride name => s!"function '{name}' has more than one override"

end CommandBuffer
