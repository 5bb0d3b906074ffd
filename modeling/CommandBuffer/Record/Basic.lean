import CommandBuffer.Definition.Override
import CommandBuffer.Naming
import CommandBuffer.Signature.CType

/-! # Function records

A record is the merged view of one function: its signature, its directives and
what was inferred for it. Options that make sense for some strategies only live
in the packing; the others belong to every record.
-/

namespace CommandBuffer

/-- How much data accompanies a command of the put family. -/
structure PutSizing where
  /-- Data units, or the most there may be. -/
  count : Option Nat
  /-- The command carries the actual number. -/
  hasRuntimeCount : Bool
  deriving DecidableEq, Repr

/-- A strategy together with the options that only it has. -/
inductive Packing where
  | noCommand
  | direct
  | custom
  | put (sizing : PutSizing)
  | putN (sizing : PutSizing)
  | getN
  | genN (isUnshared : Bool)
  | delN
  | is
  | create (isUnshared : Bool)
  deriving DecidableEq, Repr

namespace Packing

def strategy : Packing → Strategy
  | noCommand => .noCommand
  | direct => .direct
  | custom => .custom
  | put _ => .put
  | putN _ => .putN
  | getN => .getN
  | genN _ => .genN
  | delN => .delN
  | is => .is
  | create _ => .create

def putSizing : Packing → Option PutSizing
  | put sizing | putN sizing => some sizing
  | _ => none

/-- The ids are allocated for this client alone. -/
def isUnshared : Packing → Bool
  | genN isUnshared | create isUnshared => isUnshared
  | _ => false

end Packing

/-- Signature, directives and defaults of one function, merged. -/
structure Record where
  name : String
  line : Nat
  returnType : CType
  /-- The parameters as declared: what a client sees. -/
  declared : List Param
  /-- The arguments that travel on the wire. -/
  arguments : List Param
  packing : Packing
  /-- The transfer methods in the order of preference. -/
  transfers : List Transfer
  hasClientEntry : Bool
  hasGeneratedMarshal : Bool
  isInternal : Bool
  traceLevel : Option Nat
  extension : Option Extension
  hasUnitTest : Bool
  hasClientTest : Bool
  expectsCall : Bool
  hasInvalidTest : Bool
  decoder : Option String
  testValues : List (Nat × String)
  resource : Option String
  expectedCall : Option String
  deriving DecidableEq, Repr

namespace Record

def strategy (record : Record) : Strategy := record.packing.strategy

def hasCommands (record : Record) : Bool := record.strategy.hasCommands

/-- The record is part of the public client interface. -/
def isPublic (record : Record) : Bool := record.hasClientEntry && !record.isInternal

/-- A marshaling function is generated for the record. -/
def isMarshaled (record : Record) : Bool :=
  record.hasCommands && record.hasClientEntry && record.hasGeneratedMarshal

def methodName (record : Record) : String := Naming.methodName record.name

/-- The service handler that the decoder calls. -/
def decoderName (record : Record) : String :=
  record.decoder.getD (Naming.defaultDecoder record.name)

/-- The transfer method that a client uses. -/
def preferredTransfer (record : Record) : Option Transfer := record.transfers.head?

/-- The positions of the pointer arguments. -/
def pointerArguments (record : Record) : List Nat :=
  (record.arguments.zipIdx.filter (·.1.type.isPointer)).map Prod.snd

/-- The level at which calls are traced. -/
def traceLevelOrDefault (record : Record) : Nat := record.traceLevel.getD 3

/-- The feature flag that guards the function. -/
def featureFlag (record : Record) : Option String := record.extension.bind (·.flag)

/-- The declaration as a signature file would write it. -/
def declarationText (record : Record) : String :=
  CommandBuffer.declarationText record.returnType record.name record.declared

end Record
end CommandBuffer
