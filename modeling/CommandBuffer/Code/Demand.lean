import CommandBuffer.Code.TreeTokens

/-! # What a tree demands

A tree can be written only if its names are possible, and its tokens are read back
only if no keyword stands where a name must stand and no two comparisons stand in
a row. Both are demands of single nodes; the arguments of a macro are plain tokens
to the language, so nothing but the spelling of their names is demanded of them.
-/

namespace CommandBuffer.Code

/-- Where a name stands. -/
inductive Place where
  /-- A name that is declared or selected. -/
  | plain
  /-- A segment of a path. -/
  | segment
  /-- The first of several segments of a path in an expression. -/
  | front
  /-- Among plain tokens. -/
  | anywhere
  deriving DecidableEq, Repr

namespace Place

/-- The keywords that may be segments of a path. -/
def pathKeywords : List String := ["self", "Self", "super", "crate", "try"]

/-- The keywords that a whole path may follow as their operand. -/
def operandKeywords : List String := ["return", "break", "yield", "become"]

/-- The keywords that are read as intended at the place. -/
def admitted : Place → List String
  | plain => []
  | segment => pathKeywords
  | front => pathKeywords ++ operandKeywords
  | anywhere => "_" :: keywords

end Place

/-- What one node of a tree needs to be written and read back. -/
inductive Demand where
  | named (place : Place) (name : Name)
  /-- Operators that stand in this order with no bracket between them. -/
  | operators (ops : List InfixOp)
  | importable (path : ModulePath)
  deriving DecidableEq, Repr

namespace Demand

/-- Each run of operators between two logical ones has at most one comparison. -/
def groups : List InfixOp → Bool → Bool
  | [], _ => true
  | op :: rest, isCompared =>
    if op.isComparison then !isCompared && groups rest true
    else groups rest (isCompared && op != .both && op != .either)

/-- The demand does not keep the tree from being written. -/
def isWritable : Demand → Bool
  | named _ name => name.isPossible
  | operators _ => true
  | importable _ => true

/-- The demand does not keep the tokens from being read back. -/
def isReadable : Demand → Bool
  | named place name => !name.isBare || place.admitted.contains name.spelling
  | operators ops => groups ops false
  | importable path => path.isImportable

/-- The demand of the same node among plain tokens. -/
def asToken? : Demand → Option Demand
  | named _ name => some (.named .anywhere name)
  | operators _ => none
  | importable path => some (.importable path)

def names (place : Place) (names : List Name) : List Demand := names.map (.named place)

end Demand

/-- The operators of an expression that no bracket encloses. -/
def Expr.exposed : Expr → List InfixOp
  | infixed op left right => left.exposed ++ op :: right.exposed
  | prefixed _ operand => operand.exposed
  | cast value _ => value.exposed
  | upTo bound => bound.exposed
  | closure _ body => body.exposed
  | _ => []

namespace Ty

mutual

def demands : Ty → List Demand
  | path _ segments => Demand.names .segment segments
  | applied head arguments => .named .segment head :: listDemands arguments
  | unit => []
  | reference _ _ target => demands target
  | slice element => demands element
  | array element _ => demands element

def listDemands : List Ty → List Demand
  | [] => []
  | type :: rest => demands type ++ listDemands rest

end

end Ty

def Pattern.demands : Pattern → List Demand
  | wildcard | number _ => []
  | bind _ name => [.named .plain name]
  | path segments => Demand.names .segment segments
  | some inner => inner.demands
  | pair first second => first.demands ++ second.demands

namespace Expr

/-- The demands of a path, whose first segment is special if others follow. -/
def pathDemands (isGlobal : Bool) : List Name → List Demand
  | [] => []
  | first :: rest =>
    .named (if !isGlobal && !rest.isEmpty then .front else .segment) first
      :: Demand.names .segment rest

mutual

def demands : Expr → List Demand
  | path isGlobal segments => pathDemands isGlobal segments
  | generic segments arguments => pathDemands false segments ++ Ty.listDemands arguments
  | literal _ | placeholder => []
  | prefixed _ operand => demands operand
  | infixed op left right =>
    .operators (left.exposed ++ op :: right.exposed) :: demands left ++ demands right
  | cast value type => demands value ++ type.demands
  | paren inner => demands inner
  | tuple items _ => listDemands items
  | array items _ => listDemands items
  | repeated item length => demands item ++ demands length
  | field value name => demands value ++ [.named .plain name]
  | component value _ => demands value
  | element value position => demands value ++ demands position
  | call function arguments _ => demands function ++ listDemands arguments
  | method value name types arguments _ =>
    demands value ++ .named .plain name :: Ty.listDemands types ++ listDemands arguments
  | attempt value => demands value
  | upTo bound => demands bound
  | closure parameter body => .named .plain parameter :: demands body
  | expand macroPath arguments =>
    Demand.names .segment macroPath ++ (listDemands arguments).filterMap Demand.asToken?
  | vector item length => (demands item ++ demands length).filterMap Demand.asToken?
  | construct name fields values =>
    .named .segment name :: Demand.names .plain fields ++ listDemands values

def listDemands : List Expr → List Demand
  | [] => []
  | value :: rest => demands value ++ listDemands rest

end

end Expr

namespace Stmt

mutual

def demands : Stmt → List Demand
  | bind pattern type value =>
    pattern.demands ++ (type.map Ty.demands).getD [] ++ value.demands
  | bindOr pattern value otherwise => pattern.demands ++ value.demands ++ listDemands otherwise
  | when condition body => condition.demands ++ listDemands body
  | whenMatches pattern value body => pattern.demands ++ value.demands ++ listDemands body
  | assign target value => target.demands ++ value.demands
  | run value => value.demands
  | exit value => (value.map Expr.demands).getD []
  | result value => value.demands
  | select subject arms =>
    subject.demands ++ arms.flatMap fun arm => arm.1.demands ++ arm.2.demands

def listDemands : List Stmt → List Demand
  | [] => []
  | stmt :: rest => demands stmt ++ listDemands rest

end

end Stmt

def Parameter.demands (parameter : Parameter) : List Demand :=
  .named .plain parameter.name :: parameter.type.demands

def Signature.demands (signature : Signature) : List Demand :=
  .named .plain signature.name :: signature.parameters.flatMap Parameter.demands
    ++ (signature.result.map Ty.demands).getD []

def Function.demands (function : Function) : List Demand :=
  function.signature.demands ++ Stmt.listDemands function.body

def Constant.demands (constant : Constant) : List Demand :=
  .named .plain constant.name :: constant.type.demands ++ constant.value.demands

def Member.demands : Member → List Demand
  | .constant member => member.demands
  | .function member => member.demands

namespace Item

def demands : Item → List Demand
  | importAll _ path => [.importable path]
  | .constant item => item.demands
  | ensure condition => condition.demands.filterMap Demand.asToken?
  | enumeration _ name variants => .named .plain name :: variants.map (.named .plain ·.name)
  | .struct item => .named .plain item.name :: item.fields.flatMap Parameter.demands
  | unitStruct _ name => [.named .plain name]
  | typeAlias _ name type => .named .plain name :: type.demands
  | implement trait? target members =>
    Demand.names .segment (trait?.toList ++ [target]) ++ members.flatMap Member.demands
  | interface _ name methods => .named .plain name :: methods.flatMap (·.signature.demands)
  | .function item => item.demands

end Item

namespace SourceFile

def demands (file : SourceFile) : List Demand := file.items.flatMap Item.demands

/-- Every name in the file is possible. -/
def isWritable (file : SourceFile) : Bool := file.demands.all Demand.isWritable

/-- The code of the file is read back. -/
def isReadable (file : SourceFile) : Bool := file.demands.all Demand.isReadable

end SourceFile
end CommandBuffer.Code
