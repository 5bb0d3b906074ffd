import CommandBuffer.Code.Tree

/-! # What code reads

The parts of an expression are the expression itself and those of its operands. A
variable is read where a path of one name stands among the parts.
-/

namespace CommandBuffer.Code

namespace Expr

mutual

/-- The expression and all expressions inside it. -/
def parts : Expr → List Expr
  | path isGlobal segments => [path isGlobal segments]
  | generic segments arguments => [generic segments arguments]
  | literal spelling => [literal spelling]
  | placeholder => [placeholder]
  | prefixed op operand => prefixed op operand :: parts operand
  | infixed op left right => infixed op left right :: parts left ++ parts right
  | cast value type => cast value type :: parts value
  | paren inner => paren inner :: parts inner
  | tuple items hasLastComma => tuple items hasLastComma :: listParts items
  | array items hasLastComma => array items hasLastComma :: listParts items
  | repeated item length => repeated item length :: parts item ++ parts length
  | field value name => field value name :: parts value
  | component value position => component value position :: parts value
  | element value position => element value position :: parts value ++ parts position
  | call function arguments hasLastComma =>
    call function arguments hasLastComma :: parts function ++ listParts arguments
  | method value name types arguments hasLastComma =>
    method value name types arguments hasLastComma :: parts value ++ listParts arguments
  | attempt value => attempt value :: parts value
  | upTo bound => upTo bound :: parts bound
  | closure parameter body => closure parameter body :: parts body
  | expand macroPath arguments => expand macroPath arguments :: listParts arguments
  | vector item length => vector item length :: parts item ++ parts length
  | construct name fields values => construct name fields values :: listParts values

def listParts : List Expr → List Expr
  | [] => []
  | value :: rest => parts value ++ listParts rest

end

theorem mem_parts (value : Expr) : value ∈ value.parts := by
  cases value <;> simp [parts]

/-- The variable that the expression is. -/
def readName? : Expr → Option String
  | path false [name] => some name.spelling
  | _ => none

/-- The variables that the expression reads. -/
def reads (value : Expr) : List String := value.parts.filterMap readName?

theorem listParts_eq_flatMap (values : List Expr) : listParts values = values.flatMap parts := by
  induction values with
  | nil => rfl
  | cons value rest ih => rw [listParts, ih, List.flatMap_cons]

/-- The variables that a list of expressions reads. -/
def listReads (values : List Expr) : List String := (listParts values).filterMap readName?

theorem listReads_cons (value : Expr) (rest : List Expr) :
    listReads (value :: rest) = value.reads ++ listReads rest := List.filterMap_append

theorem reads_infixed (op : InfixOp) (left right : Expr) :
    (infixed op left right).reads = left.reads ++ right.reads := List.filterMap_append

/-- The arguments of a call are read, whatever is called. -/
theorem listReads_subset_call (function : Expr) (arguments : List Expr) (hasLastComma : Bool) :
    listReads arguments ⊆ (call function arguments hasLastComma).reads := by
  intro name hname
  obtain ⟨part, hpart, hread⟩ := List.mem_filterMap.mp hname
  exact List.mem_filterMap.mpr
    ⟨part, List.mem_cons_of_mem _ (List.mem_append_right _ hpart), hread⟩

theorem reads_method (value : Expr) (name : Name) (types : List Ty) (arguments : List Expr)
    (hasLastComma : Bool) :
    (method value name types arguments hasLastComma).reads
      = value.reads ++ listReads arguments := List.filterMap_append

end Expr

namespace Stmt

mutual

/-- All expressions inside the statement. -/
def parts : Stmt → List Expr
  | bind _ _ value => value.parts
  | bindOr _ value otherwise => value.parts ++ listParts otherwise
  | when condition body => condition.parts ++ listParts body
  | whenMatches _ value body => value.parts ++ listParts body
  | assign target value => target.parts ++ value.parts
  | run value => value.parts
  | exit value => (value.map Expr.parts).getD []
  | result value => value.parts
  | select subject arms => subject.parts ++ arms.flatMap fun arm => arm.2.parts

def listParts : List Stmt → List Expr
  | [] => []
  | stmt :: rest => parts stmt ++ listParts rest

end

/-- The variables that the statement reads, bound inside it or not. -/
def reads (stmt : Stmt) : List String := stmt.parts.filterMap Expr.readName?

theorem listParts_eq_flatMap (stmts : List Stmt) : listParts stmts = stmts.flatMap parts := by
  induction stmts with
  | nil => rfl
  | cons stmt rest ih => rw [listParts, ih, List.flatMap_cons]

end Stmt
end CommandBuffer.Code
