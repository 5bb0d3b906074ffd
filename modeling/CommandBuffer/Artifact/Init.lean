import CommandBuffer.Artifact.TypeMap
import CommandBuffer.Layout.Command

/-! # Initialising a command

Every command struct has an `init` function that takes one parameter for each field
and stores it, except that a 64-bit argument fills two fields. Helpers, tests and
handlers are written against these parameters.
-/

namespace CommandBuffer
open Code

/-- Where the value of an `init` parameter comes from. -/
inductive InitSource where
  /-- The scalar argument at a position. -/
  | argument (index : Nat)
  | shmId (index : Nat)
  | shmOffset (index : Nat)
  | bucketId (index : Nat)
  | resultId
  | resultOffset
  /-- The number of data elements. -/
  | count
  | clientId
  deriving DecidableEq, Repr

structure InitParam where
  name : Name
  type : Ty
  source : InitSource
  deriving Repr

namespace InitParam

/-- A parameter that is stored in an unsigned field as it is. -/
def unsigned (name : String) (source : InitSource) : InitParam := ⟨.escaped name, "u32", source⟩

def parameter (param : InitParam) : Parameter := ⟨param.name, param.type⟩

end InitParam

namespace Argument

/-- The name of the argument in generated code. -/
def ident (argument : Argument) : Name := .escaped argument.name

/-- The type of a value of the argument, or of an element of its data. -/
def valueType (argument : Argument) : Ty := CommandBuffer.valueType argument.base

end Argument

namespace Command

/-- The name of the command struct. -/
def structName (command : Command) : Name := .verbatim command.name

/-- The name of a field in generated code. -/
def fieldIdent (command : Command) (index : Nat) : Name := .escaped (command.fieldName index)

/-- The name of an argument in generated code. -/
def argumentIdent (command : Command) (index : Nat) : Name :=
  .escaped (command.argumentName index)

/-- The names of all arguments in generated code. -/
def argumentIdents (command : Command) : List Name := command.arguments.map Argument.ident

/-- The parameters that the layout of an argument asks for. -/
def argumentParams (command : Command) (argument : Argument) (index : Nat) : List InitParam :=
  match argument.layout with
  | .word .. | .split .. => [⟨argument.ident, argument.valueType, .argument index⟩]
  | .shm id offset _ =>
    [.unsigned (command.fieldName id) (.shmId index),
      .unsigned (command.fieldName offset) (.shmOffset index)]
  | .bucket id _ => [.unsigned (command.fieldName id) (.bucketId index)]
  | .result id offset =>
    [.unsigned (command.fieldName id) .resultId, .unsigned (command.fieldName offset) .resultOffset]
  | .immediate _ => []

def countParam : InitParam := .unsigned "count" .count

/-- The parameters of the fields behind those of the arguments, and the count of
immediate data whose size only the handler knows. -/
def trailingParams (command : Command) : List InitParam :=
  (command.count.map fun _ => countParam).toList
    ++ command.result.toList.flatMap (fun r =>
      [.unsigned (command.fieldName r.id) .resultId,
        .unsigned (command.fieldName r.offset) .resultOffset])
    ++ (command.clientId.map fun id => InitParam.unsigned (command.fieldName id) .clientId).toList
    ++ match command.immediate? with
      | some (_, .unsized) => [countParam]
      | _ => []

/-- The parameters of `init`, in the order of the fields. -/
def initParams (command : Command) : List InitParam :=
  command.arguments.zipIdx.flatMap (fun (argument, index) => command.argumentParams argument index)
    ++ command.trailingParams

/-- The number of data elements behind a command, if it varies: the value of the counting
argument times its units, or the count parameter. -/
def dataCount? (command : Command) (value : Option Nat → Expr) : Option Expr :=
  match command.immediate? with
  | some (_, .counted argument units) =>
    let count := Expr.cast (value (some argument)) "u32"
    some (if units = 1 then count else .infixed .mul count (.number units))
  | some (_, .atMost _) | some (_, .unsized) => some (value none)
  | some (_, .fixed _) | none => none

/-- The data count in terms of the parameters of `init`. -/
def paramCount? (command : Command) : Option Expr :=
  command.dataCount? fun
    | some index => command.argumentIdent index
    | none => "count"

/-- The type of the data elements behind a command. -/
def dataType? (command : Command) : Option Ty :=
  command.immediate?.map fun (argument, _) => argument.valueType

end Command

/-- The value of an argument as its field stores it. -/
def encodeWord (value : Expr) (kind : ScalarKind) (storage : StorageType) : Expr :=
  match kind with
  | .enum => value.send "to_wire" []
  | .u32 | .i32 | .f32 | .bool | .u64 => .cast value storage.type

/-- The value of an argument from the field that stores it. A named type with a
representation of its own is not read back by a cast; handlers convert it. -/
def decodeWord (source : Expr) (kind : ScalarKind) (base : String) : Expr :=
  match kind with
  | .bool => .infixed .ne source (.number 0)
  | .u32 | .i32 | .f32 | .u64 | .enum => .cast source (valueType base)

end CommandBuffer
