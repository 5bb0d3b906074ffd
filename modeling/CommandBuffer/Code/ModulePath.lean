import CommandBuffer.Code.Token

/-! # Module paths

The path of the module that an artifact imports. Generic arguments are part of a
path, although no import accepts them.
-/

namespace CommandBuffer.Code

structure PathSegment where
  name : String
  /-- The generic arguments with their brackets, as they are written out. -/
  generics : List Token := []
  deriving DecidableEq, Repr

structure ModulePath where
  /-- The path starts with a separator. -/
  isGlobal : Bool := false
  segments : List PathSegment
  deriving DecidableEq, Repr

/-- The separator of path segments. -/
def pathMark : List Token := operator [':', ':']

/-- The pieces with a separator between any two. -/
def separatedBy (separator : List Token) (pieces : List (List Token)) : List Token :=
  separator.intercalate pieces

namespace ModulePath

def tokens (path : ModulePath) : List Token :=
  (if path.isGlobal then pathMark else [])
    ++ separatedBy pathMark (path.segments.map fun s => .name s.name :: s.generics)

/-- An import accepts the path: it has no generic arguments and names no type. -/
def isImportable (path : ModulePath) : Bool :=
  path.segments.all fun s => s.generics.isEmpty && s.name != "Self"

end ModulePath
end CommandBuffer.Code
