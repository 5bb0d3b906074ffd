import CommandBuffer.Layout.Scalar
import CommandBuffer.Record.Basic

/-! # Wire commands

A wire command is a header followed by 32-bit fields, with optional data behind
them. Client, service and tests read the layout of every argument from the same
command, so they cannot disagree about a field.
-/

namespace CommandBuffer

/-- One 32-bit field behind the header. -/
structure Field where
  name : String
  type : StorageType
  deriving DecidableEq, Repr

/-- How many elements a pointer argument has. -/
inductive DataSize where
  | fixed (count : Nat)
  /-- The `count` field holds the number. -/
  | atMost (max : Nat)
  /-- So many elements for each unit of the argument at a position. -/
  | counted (argument units : Nat)
  /-- Only the hand-written handler knows. -/
  | unsized
  deriving DecidableEq, Repr

/-- Where an argument lives; fields are given by position. -/
inductive Layout where
  | word (field : Nat) (kind : ScalarKind)
  | split (low high : Nat)
  | shm (id offset : Nat) (size : DataSize)
  | bucket (id : Nat) (size : DataSize)
  /-- The data follows the fields. -/
  | immediate (size : DataSize)
  /-- The service writes the result through shared memory. -/
  | result (id offset : Nat)
  deriving DecidableEq, Repr

namespace Layout

/-- The size of the data that the layout moves to the service. -/
def dataSize? : Layout → Option DataSize
  | shm _ _ size | bucket _ size | immediate size => some size
  | word .. | split .. | result .. => none

/-- The fields of the layout, in order. -/
def fields : Layout → List Nat
  | word field _ => [field]
  | split low high => [low, high]
  | shm id offset _ => [id, offset]
  | bucket id _ => [id]
  | immediate _ => []
  | result id offset => [id, offset]

end Layout

/-- An argument with its layout. -/
structure Argument where
  param : Param
  layout : Layout
  deriving DecidableEq, Repr

namespace Argument

def name (argument : Argument) : String := argument.param.name

def base (argument : Argument) : String := argument.param.type.base

end Argument

/-- The fields that address a result in shared memory. -/
structure ResultFields where
  id : Nat
  offset : Nat
  deriving DecidableEq, Repr

/-- One command with its id and its fields. -/
structure Command where
  record : Record
  transfer : Transfer
  /-- The name of the command struct. -/
  name : String
  id : Nat
  fields : List Field
  arguments : List Argument
  /-- The field of the element count, if it is only known at run time. -/
  count : Option Nat
  result : Option ResultFields
  /-- The field of the id that the client allocated. -/
  clientId : Option Nat
  deriving DecidableEq, Repr

namespace Command

def snakeName (command : Command) : String := Naming.snakeName command.name

/-- The size of header and fields in bytes. -/
def fixedSize (command : Command) : Nat := 4 * (1 + command.fields.length)

/-- The argument whose data follows the fields, and its size. -/
def immediate? (command : Command) : Option (Argument × DataSize) :=
  command.arguments.findSome? fun argument =>
    match argument.layout with
    | .immediate size => some (argument, size)
    | _ => none

def isImmediate (command : Command) : Bool := command.immediate?.isSome

def fieldName (command : Command) (index : Nat) : String :=
  ((command.fields[index]?).map Field.name).getD ""

def fieldType (command : Command) (index : Nat) : StorageType :=
  ((command.fields[index]?).map Field.type).getD .u32

def argumentName (command : Command) (index : Nat) : String :=
  ((command.arguments[index]?).map Argument.name).getD ""

/-- The fields behind those of the arguments. -/
def trailingFields (command : Command) : List Nat :=
  command.count.toList ++ command.result.toList.flatMap (fun r => [r.id, r.offset])
    ++ command.clientId.toList

end Command
end CommandBuffer
