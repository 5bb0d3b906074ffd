import CommandBuffer.Definition.Override
import CommandBuffer.Definition.Registry

/-! # Protocol definitions -/

namespace CommandBuffer

/-- Everything that the artifacts of one protocol are generated from. -/
structure Protocol where
  name : String
  /-- What the names of the generated files start with. -/
  filePrefix : String
  description : String
  /-- The first command id; the ids below it belong to the common commands. -/
  commandBase : Nat
  /-- The module whose names every artifact imports. -/
  supportPath : String
  types : Registry
  overrides : OverrideTable
  /-- The text of the signature file. -/
  functions : String
  deriving DecidableEq, Repr

end CommandBuffer
