import CommandBuffer.Artifact.Init
import CommandBuffer.Code.Reader
import CommandBuffer.Decimal.Single
import CommandBuffer.Layout.Error

/-! # Values for generated tests

A test value is the one that the definition gives for the argument, else the first
legal value of its named type, else a number made from its position. A value of a
named type with a representation of its own cannot be made up.
-/

namespace CommandBuffer
open Code

/-- The number of elements that tests pass where an argument or a count says it. -/
def testCount : Nat := 2

/-- The expression that a definition writes. -/
def literal (function value : String) : Except EmitError Expr :=
  match Reader.readText? value with
  | some expr => .ok expr
  | none => .error (.invalidLiteral function value)

/-- The expression as a value of the argument type. A named type and a truth value are
of their type as they stand; any other expression is cast. -/
def typedLiteral (function value : String) (kind : ScalarKind) (base : String) :
    Except EmitError Expr := do
  let expr ← literal function value
  match kind with
  | .enum | .bool => return expr
  | .u32 | .i32 | .f32 | .u64 => return .cast expr (valueType base)

/-- A value that depends on nothing but the position of the argument. -/
def syntheticValue? (index : Nat) (kind : ScalarKind) (base : String) : Option Expr :=
  let number := index + 11
  match kind with
  | .u32 | .i32 | .u64 => some (.cast (.number number) (valueType base))
  | .f32 => some (.cast (.literal (Decimal.Single.ofNat number).text) (valueType base))
  | .bool => some (.boolean (index % 2 == 0))
  | .enum => none

/-- The value of the scalar argument at a position, if one can be chosen. -/
def Record.testValue? (record : Record) (registry : Registry) (index : Nat) (param : Param) :
    Except EmitError (Option Expr) :=
  match ScalarKind.ofType? param.type with
  | none => .ok none
  | some kind =>
    match record.testValues.lookup index with
    | some value => some <$> typedLiteral record.name value kind param.type.base
    | none =>
      match (param.type.named.bind registry.get?).bind (·.legal.head?) with
      | some value => some <$> typedLiteral record.name value kind param.type.base
      | none => .ok (syntheticValue? index kind param.type.base)

namespace Command

/-- The argument at a position says how many elements another one has. -/
def isCounting (command : Command) (index : Nat) : Bool :=
  command.arguments.any fun argument =>
    match argument.layout.dataSize? with
    | some (.counted counter _) => counter == index
    | _ => false

/-- The test value of an argument; an argument that counts data gets the test count. -/
def testValue? (command : Command) (registry : Registry) (index : Nat) (argument : Argument) :
    Except EmitError (Option Expr) :=
  if command.isCounting index then .ok (some (.cast (.number testCount) argument.valueType))
  else command.record.testValue? registry index argument.param

end Command

/-- The number of elements in the test data of a pointer argument. -/
def DataSize.testLength : DataSize → Nat
  | .fixed count => count
  | .counted _ units => testCount * units
  | .atMost _ | .unsized => testCount

end CommandBuffer
