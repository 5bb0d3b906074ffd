import CommandBuffer.Definition.Strategy
import CommandBuffer.Signature.CType

/-! # Strategies inferred from argument shapes

A function without an explicit strategy gets the one of the first shape that its
arguments match:

| shape | strategy |
|---|---|
| a result, no pointers | `Is` |
| no pointers | `Direct` |
| `(GLsizei n, const T* ids)` | `DELn` |
| `(GLsizei n, T* ids)` | `GENn` |
| `(..., GLenum pname, T* params)` | `GETn` |
| `(..., GLsizei count, const T* values)` | `PUTn` |
| `(..., const T* data)` | `PUT` |

Any other shape has no strategy.
-/

namespace CommandBuffer

/-- A value of the type that counts elements. -/
def Param.isCount (param : Param) : Bool := param.type.base == "GLsizei" && !param.type.isPointer

/-- A value of the type that selects what a getter returns. -/
def Param.isSelector (param : Param) : Bool := param.type.base == "GLenum" && !param.type.isPointer

/-- The strategy of a shape with one trailing pointer, given the arguments before it. -/
def inferTrailing (before : List Param) (last : Param) : Option Strategy :=
  if before.length = 1 ∧ before.any Param.isCount then
    some (if last.type.isConst then .delN else .genN)
  else if !last.type.isConst then
    if before.getLast?.any Param.isSelector then some .getN else none
  else if before.getLast?.any Param.isCount then some .putN
  else some .put

/-- The strategy of the first shape that matches. -/
def inferStrategy (returnType : CType) (arguments : List Param) : Option Strategy :=
  let pointers := arguments.countP (·.type.isPointer)
  if pointers = 0 then some (if returnType.isVoid then .direct else .is)
  else if !returnType.isVoid || pointers ≠ 1 then none
  else match arguments.getLast? with
    | none => none
    | some last =>
      if last.type.pointerDepth ≠ 1 then none else inferTrailing arguments.dropLast last

/-- The shape as error messages show it. -/
def shapeText (returnType : CType) (arguments : List Param) : String :=
  let list := ", ".intercalate (arguments.map (·.type.text))
  s!"{returnType.text} ({list})"

end CommandBuffer
