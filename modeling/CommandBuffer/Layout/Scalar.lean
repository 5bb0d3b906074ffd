import CommandBuffer.Signature.CType

/-! # Scalars on the wire

A command is a sequence of 32-bit words. A scalar argument takes one word, or two
if it has 64 bits; its kind says how its value becomes words and is read back.
-/

namespace CommandBuffer

/-- The type of a 32-bit field. -/
inductive StorageType where
  | u32 | i32 | f32
  deriving DecidableEq, Repr

namespace StorageType

def text : StorageType → String
  | u32 => "u32"
  | i32 => "i32"
  | f32 => "f32"

end StorageType

/-- How a scalar argument is carried. -/
inductive ScalarKind where
  | u32
  | i32
  | f32
  /-- Stored as zero or one. -/
  | bool
  /-- A 64-bit integer over two fields. -/
  | u64
  /-- A named type with a representation of its own, converted on both sides. -/
  | enum
  deriving DecidableEq, Repr

namespace ScalarKind

def text : ScalarKind → String
  | u32 => "U32"
  | i32 => "I32"
  | f32 => "F32"
  | bool => "Bool"
  | u64 => "U64"
  | enum => "Enum"

def storage : ScalarKind → StorageType
  | i32 => .i32
  | f32 => .f32
  | u32 | bool | u64 | enum => .u32

def unsignedBases : List String :=
  ["GLenum", "GLuint", "GLbitfield", "GLboolean", "GLubyte", "GLushort", "uint32_t"]

def signedBases : List String :=
  ["GLint", "GLsizei", "GLbyte", "GLshort", "GLfixed", "int32_t"]

def floatBases : List String := ["GLfloat", "GLclampf", "float"]

def wideBases : List String :=
  ["GLuint64", "GLint64", "GLsizeiptr", "GLintptr", "uint64_t", "int64_t"]

/-- The kind of a base type that is known to the wire format. -/
def ofBase? (base : String) : Option ScalarKind :=
  if base ∈ unsignedBases then some .u32
  else if base ∈ signedBases then some .i32
  else if base ∈ floatBases then some .f32
  else if base = "bool" then some .bool
  else if base ∈ wideBases then some .u64
  else none

/-- The kind of a type; a pointer has none, and an unknown base only as a named type. -/
def ofType? (type : CType) : Option ScalarKind :=
  if type.isPointer then none
  else ofBase? type.base <|> type.named.map fun _ => .enum

end ScalarKind
end CommandBuffer
