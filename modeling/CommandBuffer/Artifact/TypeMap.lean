import CommandBuffer.Code.Tree
import CommandBuffer.Layout.Scalar
import CommandBuffer.Text.Pieces

/-! # Types in generated code

Plain C types have counterparts in the generated language; every other base type is
written as it is declared, since the support module provides it. A pointer becomes
a slice, shared if the type is constant.
-/

namespace CommandBuffer
open Code

/-- The counterpart of a plain C type. -/
def primitive? (base : String) : Option String :=
  if base ∈ ["void", "char", "uint8_t"] then some "u8"
  else if base = "int8_t" then some "i8"
  else if base = "uint16_t" then some "u16"
  else if base = "int16_t" then some "i16"
  else if base = "uint32_t" then some "u32"
  else if base = "int32_t" then some "i32"
  else if base = "uint64_t" then some "u64"
  else if base = "int64_t" then some "i64"
  else if base = "float" then some "f32"
  else if base = "double" then some "f64"
  else if base = "bool" then some "bool"
  else none

/-- The path of the type of values with a base type. -/
def valuePath (base : String) : List Name :=
  match primitive? base with
  | some primitive => [primitive]
  | none => (Text.splitOnMarker [':', ':'] base.toList).map (.escaped <| String.ofList ·)

/-- The type of values with a base type. -/
def valueType (base : String) : Ty := .path false (valuePath base)

namespace CType

/-- The base type below so many slices. -/
def sliced (isConst : Bool) (element : Ty) : Nat → Ty
  | 0 => element
  | depth + 1 => .reference none (!isConst) (.slice (sliced isConst element depth))

/-- The type of a parameter that a client passes; a constant character pointer is a text. -/
def clientType (type : CType) : Ty :=
  if type.pointerDepth = 1 ∧ type.isConst ∧ type.base = "char" then .reference none false "str"
  else sliced type.isConst (valueType type.base) type.pointerDepth

/-- The type of what a client gets back, unless it is void. -/
def resultType? (type : CType) : Option Ty := if type.isVoid then none else some type.clientType

end CType

def StorageType.type (storage : StorageType) : Ty := storage.text

end CommandBuffer
