import CommandBuffer.Definition.Registry

/-! # Types, parameters and declarations

The C types that signatures are written in: a base name or path, an optional
`const`, and any number of stars. A type may refer to a named type of the
registry, either by a qualifier or because its base is a registered name.
-/

namespace CommandBuffer

/-- A parameter or return type. -/
structure CType where
  isConst : Bool := false
  /-- A name, or names joined by `::`. -/
  base : String
  /-- The number of stars. -/
  pointerDepth : Nat := 0
  named : Option TypeId := none
  deriving DecidableEq, Repr

namespace CType

def void : CType := { base := "void" }

def isPointer (type : CType) : Bool := decide (0 < type.pointerDepth)

/-- The bare `void`, without stars. -/
def isVoid (type : CType) : Bool := type.base == "void" && type.pointerDepth == 0

/-- The type as it is written in a declaration; a qualifier is not shown. -/
def text (type : CType) : String :=
  (if type.isConst then "const " else "") ++ type.base
    ++ String.ofList (List.replicate type.pointerDepth '*')

end CType

structure Param where
  type : CType
  name : String
  deriving DecidableEq, Repr

def Param.text (param : Param) : String := s!"{param.type.text} {param.name}"

/-- One function declaration of a signature file. -/
structure Declaration where
  name : String
  returnType : CType
  params : List Param
  /-- The line of the signature file, counted from one. -/
  line : Nat
  deriving DecidableEq, Repr

/-- A declaration as it is written in a signature file, without the semicolon. -/
def declarationText (returnType : CType) (name : String) (params : List Param) : String :=
  let list := ", ".intercalate (params.map Param.text)
  s!"{returnType.text} {name}({list})"

def Declaration.text (declaration : Declaration) : String :=
  declarationText declaration.returnType declaration.name declaration.params

end CommandBuffer
