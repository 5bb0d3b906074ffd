import CommandBuffer.Diagnostics
import CommandBuffer.Layout.Plan
import CommandBuffer.Preset.Raster
import CommandBuffer.Record.Build
import CommandBuffer.Record.CrossCheck
import CommandBuffer.Validator

/-! # The generation pipeline -/

namespace CommandBuffer.Protocol

/-- The protocol with this name. -/
def load (name : String) : Except GenerationError Protocol :=
  if name = "raster" then Raster.protocol.mapError .definition
  else .error (.configuration (.unknownProtocol name))

/-- The declarations of the signature file. -/
def declarations (protocol : Protocol) : Except (List GenerationError) (List Declaration) :=
  (SignatureFile.read protocol.types protocol.functions).mapError (·.map .parse)

/-- The records before they are checked against each other. -/
def uncheckedRecords (protocol : Protocol) : Except (List GenerationError) (List Record) := do
  let declarations ← protocol.declarations
  (Record.buildAll protocol.types protocol.overrides declarations).mapError (·.map .merge)

/-- The records of the protocol. -/
def records (protocol : Protocol) : Except (List GenerationError) (List Record) := do
  let records ← protocol.uncheckedRecords
  (Record.crossCheck records protocol.overrides).mapError (·.map .merge)
  return records

/-- The validators that the records need. -/
def validators (protocol : Protocol) (records : List Record) : ValidatorSet :=
  ValidatorSet.synthesize protocol.types records

/-- The commands of the records. -/
def commands (protocol : Protocol) (records : List Record) :
    Except (List GenerationError) (List Command) :=
  (Command.planAll records protocol.commandBase).mapError (·.map .emit)

end CommandBuffer.Protocol
