import CommandBuffer.Code.Tree
import CommandBuffer.Proofs.Execution.Integers

/-! # Values of generated code

The values that the statements of the emitters work on. The support module brings
the types with a wire form of their own; the platform brings the width of lengths.
-/

namespace CommandBuffer.Code

/-- What generated code takes from its support module and its platform. -/
structure Support where
  /-- The values of a type with a wire form of its own, by the path of the type. -/
  Carrier : List Name → Type
  toWire {path : List Name} : Carrier path → UInt32
  fromWire (path : List Name) : UInt32 → Option (Carrier path)
  fromWire_toWire {path : List Name} (value : Carrier path) :
    fromWire path (toWire value) = some value
  /-- The width of a length. -/
  lengthWidth : Nat
  lengthWidth_ge : 32 ≤ lengthWidth

/-- The type of lengths. -/
def Support.usize (support : Support) : IntType := ⟨support.lengthWidth, false⟩

/-- A type of plain values. -/
inductive ScalarType where
  | int (type : IntType)
  | float
  | boolean
  deriving DecidableEq, Repr

/-- The plain types by name: those of the language, and the aliases of the support module. -/
def plainTypes : List (String × ScalarType) := [
  ("u8", .int .u8), ("i8", .int .i8), ("u16", .int .u16), ("i16", .int .i16), ("u32", .int .u32),
  ("i32", .int .i32), ("u64", .int .u64), ("i64", .int .i64), ("f32", .float), ("bool", .boolean),
  ("GLenum", .int .u32), ("GLuint", .int .u32), ("GLbitfield", .int .u32), ("GLboolean", .int .u8),
  ("GLubyte", .int .u8), ("GLushort", .int .u16), ("GLint", .int .i32), ("GLsizei", .int .i32),
  ("GLbyte", .int .i8), ("GLshort", .int .i16), ("GLfixed", .int .i32), ("GLfloat", .float),
  ("GLclampf", .float), ("GLuint64", .int .u64), ("GLint64", .int .i64), ("GLsizeiptr", .int .i64),
  ("GLintptr", .int .i64)]

/-- The plain type that a type of the code stands for. -/
def Ty.scalarType? (support : Support) : Ty → Option ScalarType
  | .path false [name] =>
    if name.spelling = "usize" then some (.int support.usize) else plainTypes.lookup name.spelling
  | _ => none

/-- A value at run time. -/
inductive Value (support : Support) where
  | int (type : IntType) (n : Int)
  /-- A literal, which takes the type that its context asks for. -/
  | number (n : Nat)
  | float (bits : UInt32)
  | boolean (value : Bool)
  /-- A value of a type with a wire form of its own. -/
  | foreign (path : List Name) (value : support.Carrier path)
  /-- A sequence of which only the length matters. -/
  | slice (length : Nat)
  /-- The range of all positions below a bound. -/
  | positions (bound : Nat)
  | present (value : Value support)
  | absent
  /-- A struct with the values of its fields by name. -/
  | record (fields : String → Option (Value support))
  /-- The decoder that runs a handler, its validators, and one of them. -/
  | decoder
  | validators
  | validator (field : String)

namespace Value

variable {support : Support}

/-- The plain type of a value. -/
def type? : Value support → Option ScalarType
  | int type _ => some (.int type)
  | float _ => some .float
  | boolean _ => some .boolean
  | _ => none

/-- The value belongs to the plain type. -/
def HasType : Value support → ScalarType → Prop
  | int type n, .int expected => type = expected ∧ expected.Holds n
  | float _, .float => True
  | boolean _, .boolean => True
  | _, _ => False

theorem type?_of_hasType {value : Value support} {type : ScalarType} (h : value.HasType type) :
    value.type? = some type := by
  unfold HasType at h
  split at h
  · rw [h.1]
    rfl
  · rfl
  · rfl
  · exact h.elim

/-- The cast of a value to a plain type. -/
def cast : ScalarType → Value support → Option (Value support)
  | .int type, int _ n => some (int type (type.wrap n))
  | .int type, boolean value => some (int type (if value then 1 else 0))
  | .float, float bits => some (float bits)
  | _, _ => none

/-- The integer that a value stands for where the context asks for a type. -/
def asInt? (type : IntType) : Value support → Option Int
  | int own n => if own = type then some n else none
  | number n => if type.Holds n then some n else none
  | _ => none

/-- A result that overflows is an error. -/
def inRange? (type : IntType) (n : Int) : Option (Value support) :=
  if type.Holds n then some (int type n) else none

/-- The result of an operator; a literal on the right takes the type on the left. -/
def operate (op : InfixOp) : Value support → Value support → Option (Value support)
  | int type a, right => (right.asInt? type).bind fun b =>
    match op with
    | .mul => inRange? type (a * b)
    | .shiftLeft =>
      if 0 ≤ b ∧ b < type.width then some (int type (type.wrap (a * 2 ^ b.toNat))) else none
    | .shiftRight =>
      if 0 ≤ b ∧ b < type.width then some (int type (a / 2 ^ b.toNat)) else none
    | .bitOr =>
      if type.isSigned then none else some (int type (a.toNat ||| b.toNat : Nat))
    | .eq => some (boolean (a == b))
    | .ne => some (boolean (a != b))
    | .lt => some (boolean (a < b))
    | .gt => some (boolean (b < a))
    | .le => some (boolean (a ≤ b))
    | .ge => some (boolean (b ≤ a))
    | _ => none
  | _, _ => none

/-- The bound of a range of positions. -/
def bound? : Value support → Option Nat
  | int type n => if type = support.usize ∧ 0 ≤ n then some n.toNat else none
  | number n => some n
  | _ => none

/-- A field of a value. -/
def field? (name : Name) : Value support → Option (Value support)
  | record fields => fields name.spelling
  | decoder => if name = "validators" then some validators else none
  | validators => some (validator name.spelling)
  | _ => none

end Value

/-- The values of the variables. -/
abbrev Scope (support : Support) := String → Option (Value support)

namespace Scope

variable {support : Support}

/-- Binds a variable, whatever it was before. -/
def set (scope : Scope support) (name : String) (value : Value support) : Scope support :=
  fun other => if other = name then some value else scope other

@[simp] theorem set_self (scope : Scope support) (name : String) (value : Value support) :
    scope.set name value name = some value := if_pos rfl

theorem set_of_ne {scope : Scope support} {name other : String} {value : Value support}
    (h : other ≠ name) : scope.set name value other = scope other := if_neg h

/-- Binds variables from the first to the last. -/
def setAll (scope : Scope support) : List (String × Value support) → Scope support
  | [] => scope
  | (name, value) :: rest => (scope.set name value).setAll rest

theorem setAll_of_not_mem {scope : Scope support} {bindings : List (String × Value support)}
    {name : String} (h : name ∉ bindings.map Prod.fst) :
    scope.setAll bindings name = scope name := by
  induction bindings generalizing scope with
  | nil => rfl
  | cons binding rest ih =>
    rw [List.map_cons, List.mem_cons, not_or] at h
    rw [setAll, ih h.2, set_of_ne h.1]

/-- Different variables keep what they were bound to. -/
theorem setAll_of_mem {scope : Scope support} {bindings : List (String × Value support)}
    {name : String} {value : Value support} (hnodup : (bindings.map Prod.fst).Nodup)
    (h : (name, value) ∈ bindings) : scope.setAll bindings name = some value := by
  induction bindings generalizing scope with
  | nil => cases h
  | cons binding rest ih =>
    rw [List.map_cons, List.nodup_cons] at hnodup
    rcases List.mem_cons.mp h with rfl | hrest
    · rw [setAll, setAll_of_not_mem hnodup.1, set_self]
    · exact ih hnodup.2 hrest

end Scope
end CommandBuffer.Code
