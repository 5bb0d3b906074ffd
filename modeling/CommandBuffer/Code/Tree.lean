import CommandBuffer.Code.ModulePath
import CommandBuffer.Text.Quoted

/-! # The tree of generated code

Types, patterns, expressions, statements and items of the generated language, as
far as the artifacts use them. Brackets that the code shows are nodes of the tree,
so the tokens of a tree are its leaves in order. Lists of arguments remember a
comma behind the last one.
-/

namespace CommandBuffer.Code

inductive Ty where
  | path (isGlobal : Bool) (segments : List Name)
  /-- A type constructor with its arguments. -/
  | applied (head : Name) (arguments : List Ty)
  | unit
  | reference (lifetime : Option String) (isMutable : Bool) (target : Ty)
  | slice (element : Ty)
  | array (element : Ty) (length : Nat)
  deriving Repr, Inhabited

namespace Ty

instance : Coe Name Ty := ⟨fun name => path false [name]⟩

instance : Coe String Ty := ⟨fun name => path false [name]⟩

end Ty

inductive Pattern where
  | wildcard
  | bind (isMutable : Bool) (name : Name)
  | number (value : Nat)
  | path (segments : List Name)
  | some (inner : Pattern)
  | pair (first second : Pattern)
  deriving DecidableEq, Repr, Inhabited

inductive PrefixOp where
  | negate | complement | deref | borrow | borrowMutably
  deriving DecidableEq, Repr

inductive InfixOp where
  | mul | div | rem
  | add | sub
  | shiftLeft | shiftRight
  | bitAnd
  | bitXor
  | bitOr
  | eq | ne | lt | gt | le | ge
  | both
  | either
  deriving DecidableEq, Repr

namespace InfixOp

def all : List InfixOp :=
  [mul, div, rem, add, sub, shiftLeft, shiftRight, bitAnd, bitXor, bitOr, eq, ne, lt, gt, le, ge,
    both, either]

def text : InfixOp → String
  | mul => "*"
  | div => "/"
  | rem => "%"
  | add => "+"
  | sub => "-"
  | shiftLeft => "<<"
  | shiftRight => ">>"
  | bitAnd => "&"
  | bitXor => "^"
  | bitOr => "|"
  | eq => "=="
  | ne => "!="
  | lt => "<"
  | gt => ">"
  | le => "<="
  | ge => ">="
  | both => "&&"
  | either => "||"

/-- How tightly the operator binds; a cast binds tighter than any. -/
def level : InfixOp → Nat
  | either => 1
  | both => 2
  | eq | ne | lt | gt | le | ge => 3
  | bitOr => 4
  | bitXor => 5
  | bitAnd => 6
  | shiftLeft | shiftRight => 7
  | add | sub => 8
  | mul | div | rem => 9

def isComparison (op : InfixOp) : Bool := op.level == 3

end InfixOp

inductive Expr where
  | path (isGlobal : Bool) (segments : List Name)
  /-- A path with type arguments behind its last segment. -/
  | generic (segments : List Name) (arguments : List Ty)
  | literal (spelling : String)
  /-- The underscore in place of a value. -/
  | placeholder
  | prefixed (op : PrefixOp) (operand : Expr)
  | infixed (op : InfixOp) (left right : Expr)
  | cast (value : Expr) (type : Ty)
  | paren (inner : Expr)
  | tuple (items : List Expr) (hasLastComma : Bool)
  | array (items : List Expr) (hasLastComma : Bool)
  | repeated (item length : Expr)
  | field (value : Expr) (name : Name)
  /-- A component of a tuple, counted from zero. -/
  | component (value : Expr) (position : String)
  /-- An element of a sequence. -/
  | element (value position : Expr)
  | call (function : Expr) (arguments : List Expr) (hasLastComma : Bool)
  | method (value : Expr) (name : Name) (types : List Ty) (arguments : List Expr)
      (hasLastComma : Bool)
  /-- The value, or an early return with its error. -/
  | attempt (value : Expr)
  /-- The range of all numbers below the bound. -/
  | upTo (bound : Expr)
  | closure (parameter : Name) (body : Expr)
  /-- A call of a macro, whose arguments are plain tokens to the language. -/
  | expand (macroPath : List Name) (arguments : List Expr)
  /-- A vector that repeats an item. -/
  | vector (item length : Expr)
  /-- A struct with the values of its fields. -/
  | construct (name : Name) (fields : List Name) (values : List Expr)
  deriving Repr, Inhabited

namespace Expr

instance : Coe Name Expr := ⟨fun name => path false [name]⟩

instance : Coe String Expr := ⟨fun name => path false [name]⟩

def number (value : Nat) : Expr := literal (toString value)

def quoted (text : String) : Expr := literal (Text.quoted text)

def boolean (value : Bool) : Expr := literal (if value then "true" else "false")

/-- A call of the function with a path. -/
def apply (segments : List Name) (arguments : List Expr) : Expr :=
  call (path false segments) arguments false

/-- A method call without type arguments. -/
def send (value : Expr) (name : Name) (arguments : List Expr) : Expr :=
  method value name [] arguments false

end Expr

inductive Stmt where
  | bind (pattern : Pattern) (type : Option Ty) (value : Expr)
  /-- Binds the pattern, or runs the statements, which leave the function. -/
  | bindOr (pattern : Pattern) (value : Expr) (otherwise : List Stmt)
  | when (condition : Expr) (body : List Stmt)
  | whenMatches (pattern : Pattern) (value : Expr) (body : List Stmt)
  | assign (target value : Expr)
  | run (value : Expr)
  | exit (value : Option Expr)
  /-- The value of the enclosing block. -/
  | result (value : Expr)
  /-- The value of the enclosing block, chosen by the first pattern that matches. -/
  | select (subject : Expr) (arms : List (Pattern × Expr))
  deriving Repr, Inhabited

inductive Attribute where
  /-- Documentation with escapes. -/
  | doc (text : String)
  /-- Documentation as a raw text. -/
  | rawDoc (text : String)
  | test
  | repr (layout : Name)
  | derive (traits : List Name)
  | allow (lint : List Name)
  deriving DecidableEq, Repr

inductive Visibility where
  | hidden | withinCrate | everywhere
  deriving DecidableEq, Repr

/-- How a method takes the value that it is called on. -/
inductive Receiver where
  | byValue | shared | exclusive
  deriving DecidableEq, Repr

structure Parameter where
  name : Name
  type : Ty
  deriving Repr, Inhabited

structure Signature where
  name : Name
  receiver : Option Receiver := none
  /-- The receiver is followed by a comma even if no parameter follows. -/
  isOpen : Bool := false
  parameters : List Parameter := []
  result : Option Ty := none
  deriving Repr, Inhabited

structure Function where
  attributes : List Attribute := []
  visibility : Visibility := .hidden
  signature : Signature
  body : List Stmt
  deriving Repr, Inhabited

structure Constant where
  attributes : List Attribute := []
  visibility : Visibility := .hidden
  name : Name
  type : Ty
  value : Expr
  deriving Repr

inductive Member where
  | constant (constant : Constant)
  | function (function : Function)
  deriving Repr

/-- A method of an interface, without a body. -/
structure Prototype where
  attributes : List Attribute := []
  signature : Signature
  deriving Repr

structure Variant where
  name : Name
  value : Nat
  deriving DecidableEq, Repr

structure Struct where
  attributes : List Attribute := []
  name : Name
  fields : List Parameter
  deriving Repr

inductive Item where
  /-- Imports every name of a module. -/
  | importAll (attributes : List Attribute) (path : ModulePath)
  | constant (constant : Constant)
  /-- A condition that is checked at compile time. -/
  | ensure (condition : Expr)
  | enumeration (attributes : List Attribute) (name : Name) (variants : List Variant)
  | struct (struct : Struct)
  | unitStruct (attributes : List Attribute) (name : Name)
  | typeAlias (attributes : List Attribute) (name : Name) (type : Ty)
  | implement (interface : Option Name) (target : Name) (members : List Member)
  | interface (attributes : List Attribute) (name : Name) (methods : List Prototype)
  | function (function : Function)
  deriving Repr

/-- The code of one artifact: its documentation and its items. -/
structure SourceFile where
  docs : List Attribute
  items : List Item
  deriving Repr

end CommandBuffer.Code
