import CommandBuffer.Dump
import CommandBuffer.Record.Basic

/-! # Dumping records

The dump of a record shows all of its fields, also those without a value.
-/

namespace CommandBuffer

def CType.dump (type : CType) : Dump := .object [
  ("is_const", .truth type.isConst),
  ("base", .text type.base),
  ("pointer_depth", .number type.pointerDepth),
  ("named", .optional (.number ·.index) type.named)]

def Param.dump (param : Param) : Dump := .object [
  ("ty", param.type.dump),
  ("name", .text param.name)]

def PutSizing.dumpMembers (sizing : PutSizing) : List (String × Dump) := [
  ("count", .optional .number sizing.count),
  ("use_count_func", .truth sizing.hasRuntimeCount)]

namespace Packing

/-- The options that only this strategy has. -/
def dumpMembers : Packing → List (String × Dump)
  | put sizing | putN sizing => sizing.dumpMembers
  | genN isUnshared | create isUnshared => [("not_shared", .truth isUnshared)]
  | _ => []

def dump (packing : Packing) : Dump :=
  .object (("kind", .text packing.strategy.dumpName) :: packing.dumpMembers)

end Packing

def Transfer.dump (method : Transfer) : Dump := .text method.text

def Extension.dump (extension : Extension) : Dump := .object [
  ("name", .text extension.name),
  ("flag", .optional .text extension.flag)]

namespace Record

def dumpTestValues (values : List (Nat × String)) : Dump :=
  .object (values.map fun (index, value) => (toString index, .text value))

/-- What the client does with the function. -/
def dumpBase (record : Record) : Dump := .object [
  ("client_entry", .truth record.hasClientEntry),
  ("generated_marshal", .truth record.hasGeneratedMarshal),
  ("internal", .truth record.isInternal),
  ("trace_level", .optional .number record.traceLevel),
  ("extension", .optional Extension.dump record.extension)]

/-- Which tests are written. -/
def dumpTests (record : Record) : Dump := .object [
  ("unit_test", .truth record.hasUnitTest),
  ("client_test", .truth record.hasClientTest),
  ("expectation", .truth record.expectsCall),
  ("invalid_test", .truth record.hasInvalidTest)]

def dump (record : Record) : Dump := .object [
  ("name", .text record.name),
  ("line", .number record.line),
  ("return_type", record.returnType.dump),
  ("declared_args", .list (record.declared.map Param.dump)),
  ("args", .list (record.arguments.map Param.dump)),
  ("strategy", record.packing.dump),
  ("transfer", .list (record.transfers.map Transfer.dump)),
  ("base", record.dumpBase),
  ("tests", record.dumpTests),
  ("decoder", .optional .text record.decoder),
  ("valid_args", dumpTestValues record.testValues),
  ("resource", .optional .text record.resource),
  ("test_func", .optional .text record.expectedCall)]

/-- The text of the dumps of all records. -/
def dumpText (records : List Record) : String := (Dump.list (records.map dump)).render ""

end Record
end CommandBuffer
