import CommandBuffer.Layout.Command
import CommandBuffer.Layout.Error
import CommandBuffer.Outcome
import CommandBuffer.Signature.Shape

/-! # Planning wire commands

Every record with commands is planned once for each of its transfer methods, with
consecutive ids. The fields of a command are those of its arguments in order:

| argument | fields |
|---|---|
| 32-bit scalar | `name` |
| 64-bit scalar | `name_0` (low), `name_1` (high) |
| shared-memory pointer | `name_shm_id`, `name_shm_offset` |
| bucket pointer | `name_bucket_id` |
| immediate pointer | none |

A getter turns its last pointer into `result_shm_id` and `result_shm_offset`; a
query appends the same pair, a creation `client_id`, a run-time count `count`.
-/

namespace CommandBuffer

/-- The fields planned so far for a command. -/
structure FieldList where
  command : String
  fields : List Field := []
  deriving DecidableEq, Repr

/-- Appends a field and gives its position; a name is taken once, and never `header`. -/
def FieldList.push (list : FieldList) (name : String) (type : StorageType) :
    Except EmitError (Nat × FieldList) :=
  if name = "header" ∨ list.fields.any (·.name == name) then
    .error (.collision (.repeatedField list.command name))
  else .ok (list.fields.length, { list with fields := list.fields ++ [⟨name, type⟩] })

/-- Appends two unsigned fields. -/
def FieldList.pushPair (list : FieldList) (first second : String) :
    Except EmitError ((Nat × Nat) × FieldList) := do
  let (a, list) ← list.push first .u32
  let (b, list) ← list.push second .u32
  return ((a, b), list)

namespace Record

def missingField (record : Record) (field : RequiredField) : EmitError :=
  .missingField record.name record.strategy field

def noWireRepresentation (record : Record) (param : Param) : EmitError :=
  .noWireRepresentation record.name param.name param.type.text

/-- What a record lacks, whatever its transfer methods. -/
def planningError? (record : Record) : Option EmitError :=
  if record.packing.putSizing.any (·.count.isNone) then some (record.missingField .count)
  else if (record.strategy = .create ∨ record.strategy = .genN) ∧ record.resource.isNone then
    some (record.missingField .resource)
  else match record.decoder with
    | some decoder =>
      if Naming.isIdentifier decoder.toList then none
      else some (.invalidDecoder record.name decoder)
    | none => if record.strategy = .is then some (record.missingField .decoder) else none

/-- The position of the count argument right before a pointer argument. -/
def countedBy? (record : Record) (index : Nat) : Option Nat :=
  match index with
  | 0 => none
  | previous + 1 => if record.arguments[previous]?.any Param.isCount then some previous else none

/-- The data size of the pointer argument at a position. -/
def dataSize (record : Record) (index : Nat) (param : Param) : Except EmitError DataSize :=
  match record.packing with
  | .custom => .ok .unsized
  | .put ⟨some count, hasRuntimeCount⟩ => .ok (if hasRuntimeCount then .atMost count else .fixed count)
  | .putN ⟨some units, _⟩ => counted units
  | .put ⟨none, _⟩ | .putN ⟨none, _⟩ => .error (record.missingField .count)
  | .genN _ | .delN => counted 1
  | .noCommand | .direct | .getN | .is | .create _ => .error (record.noWireRepresentation param)
where
  counted (units : Nat) : Except EmitError DataSize :=
    match record.countedBy? index with
    | some argument => .ok (.counted argument units)
    | none => .error (record.missingField .countArgument)

/-- The layout of a pointer argument that carries data to the service. -/
def planData (transfer : Transfer) (param : Param) (size : DataSize) (list : FieldList) :
    Except EmitError (Layout × FieldList) := do
  match transfer with
  | .immediate => return (.immediate size, list)
  | .shm =>
    let ((id, offset), list) ←
      list.pushPair (param.name ++ "_shm_id") (param.name ++ "_shm_offset")
    return (.shm id offset size, list)
  | .bucket =>
    let (id, list) ← list.push (param.name ++ "_bucket_id") .u32
    return (.bucket id size, list)

/-- The layout of an argument without stars. -/
def planScalar (record : Record) (param : Param) (list : FieldList) :
    Except EmitError (Layout × FieldList) := do
  match ScalarKind.ofType? param.type with
  | none => throw (record.noWireRepresentation param)
  | some .u64 =>
    let ((low, high), list) ← list.pushPair (param.name ++ "_0") (param.name ++ "_1")
    return (.split low high, list)
  | some kind =>
    let (field, list) ← list.push param.name kind.storage
    return (.word field kind, list)

/-- A getter writes its result to its last argument. -/
def isResult (record : Record) (index : Nat) : Bool :=
  record.strategy == .getN && index + 1 == record.arguments.length

def planArgument (record : Record) (transfer : Transfer) (index : Nat) (param : Param)
    (list : FieldList) : Except EmitError (Layout × FieldList) := do
  if !param.type.isPointer then record.planScalar param list
  else if record.isResult index then
    let ((id, offset), list) ← list.pushPair "result_shm_id" "result_shm_offset"
    return (.result id offset, list)
  else if param.type.pointerDepth ≠ 1 then throw (record.noWireRepresentation param)
  else
    let size ← record.dataSize index param
    planData transfer param size list

/-- Plans arguments in order; `index` is the position of the first. -/
def planArguments (record : Record) (transfer : Transfer) (index : Nat) :
    List Param → FieldList → Except EmitError (List Argument × FieldList)
  | [], list => .ok ([], list)
  | param :: rest, list => do
    let (layout, list) ← record.planArgument transfer index param list
    let (arguments, list) ← record.planArguments transfer (index + 1) rest list
    return (⟨param, layout⟩ :: arguments, list)

def planCount (record : Record) (list : FieldList) :
    Except EmitError (Option Nat × FieldList) := do
  if record.packing.putSizing.any (·.hasRuntimeCount) then
    let (count, list) ← list.push "count" .u32
    return (some count, list)
  else return (none, list)

def planResult (record : Record) (list : FieldList) :
    Except EmitError (Option ResultFields × FieldList) := do
  if record.strategy = .is then
    let ((id, offset), list) ← list.pushPair "result_shm_id" "result_shm_offset"
    return (some ⟨id, offset⟩, list)
  else return (none, list)

def planClientId (record : Record) (list : FieldList) :
    Except EmitError (Option Nat × FieldList) := do
  if record.strategy = .create then
    let (clientId, list) ← list.push "client_id" .u32
    return (some clientId, list)
  else return (none, list)

/-- Plans the command of one transfer method. -/
def plan (record : Record) (transfer : Transfer) (id : Nat) : Except EmitError Command := do
  let name := record.name ++ transfer.commandSuffix
  let (arguments, list) ← record.planArguments transfer 0 record.arguments { command := name }
  let (count, list) ← record.planCount list
  let (result, list) ← record.planResult list
  let (clientId, list) ← record.planClientId list
  return { record, transfer, name, id, fields := list.fields, arguments, count, result, clientId }

/-- Plans one command for each transfer method, with consecutive ids. -/
def planTransfers (record : Record) (id : Nat) (transfers : List Transfer) :
    List (Except EmitError Command) :=
  (transfers.zipIdx id).map fun (transfer, id) => record.plan transfer id

end Record

namespace Command

/-- One outcome for each command; a record that lacks something has one outcome in all. -/
def outcomes (id : Nat) : List Record → List (Except EmitError Command)
  | [] => []
  | record :: rest =>
    if !record.hasCommands then outcomes id rest
    else match record.planningError? with
      | some error => .error error :: outcomes id rest
      | none =>
        record.planTransfers id record.transfers ++ outcomes (id + record.transfers.length) rest

/-- Plans the commands of all records, with ids from `base` on. -/
def planAll (records : List Record) (base : Nat) : Except (List EmitError) (List Command) :=
  Outcome.collect (outcomes base records)

end Command
end CommandBuffer
