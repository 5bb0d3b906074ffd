import CommandBuffer.Proofs.Execution.Value
import CommandBuffer.Proofs.Reads

/-! # Running generated code

Expressions have values and statements change the scope or leave the function. Only
what the emitters need is defined; everything else is stuck, so a run that succeeds
is well typed, does not overflow and reads bound variables only. Calls whose effect
lies outside the scope go on.
-/

namespace CommandBuffer.Code

variable {support : Support}

/-- What a function can use besides its own variables. -/
structure Host (support : Support) where
  constant : List Name → Option (Value support)
  /-- A method of a struct that takes no arguments. -/
  accessor : (String → Option (Value support)) → String → Option (Value support)
  /-- The answer of the validator in a field. -/
  accepts : String → Value support → Bool

namespace Host

/-- A host without constants, accessors and validators. -/
def bare (support : Support) : Host support where
  constant _ := none
  accessor _ _ := none
  accepts _ _ := false

/-- The value of a type that a word stands for, if any. -/
def convert (path : List Name) (word : UInt32) : Value support :=
  match support.fromWire path word with
  | some value => .present (.foreign path value)
  | none => .absent

theorem convert_toWire {path : List Name} (value : support.Carrier path) :
    convert path (support.toWire value) = .present (.foreign path value) := by
  rw [convert, support.fromWire_toWire]

/-- A call of a function by its path: the conversion from the wire. -/
def call (path : List Name) : List (Value support) → Option (Value support)
  | [.int _ n] =>
    if path.getLast? = some (.verbatim "from_wire") then
      some (convert path.dropLast (UInt32.ofNat n.toNat))
    else none
  | _ => none

/-- A method call. -/
def send (host : Host support) (receiver : Value support) (method : Name)
    (arguments : List (Value support)) : Option (Value support) :=
  match receiver, arguments with
  | .foreign _ value, [] =>
    if method = "to_wire" then some (.int .u32 (support.toWire value).toNat) else none
  | .slice length, [] => if method = "len" then some (.int support.usize length) else none
  | .slice length, [.positions bound] =>
    if method = "get" ∨ method = "get_mut" then
      some (if bound ≤ length then .present (.slice bound) else .absent)
    else none
  | .record fields, [] => host.accessor fields method.spelling
  | .validator field, [value] =>
    if method = "is_valid" then some (.boolean (host.accepts field value)) else none
  | _, _ => none

end Host

/-! ## Expressions -/

namespace Expr

mutual

/-- The value of an expression. -/
def value? (host : Host support) (scope : Scope support) : Expr → Option (Value support)
  | path false [name] => scope name.spelling
  | path false [owner, name] => host.constant [owner, name]
  | literal spelling =>
    if spelling ≠ "" ∧ spelling.toList.all Char.isDigit then
      some (.number (Nat.ofDigitChars 10 spelling.toList 0))
    else none
  | prefixed .complement operand =>
    (operand.value? host scope).bind fun
      | .boolean value => some (.boolean (!value))
      | _ => none
  | infixed op left right =>
    (left.value? host scope).bind fun first =>
      (right.value? host scope).bind fun second => first.operate op second
  | cast value type =>
    (value.value? host scope).bind fun source =>
      (type.scalarType? support).bind fun target => source.cast target
  | paren inner => inner.value? host scope
  | field value name => (value.value? host scope).bind (Value.field? name)
  | call (path false segments) arguments _ =>
    (values? host scope arguments).bind (Host.call segments)
  | method value name [] arguments _ =>
    (value.value? host scope).bind fun receiver =>
      (values? host scope arguments).bind (host.send receiver name)
  | upTo bound => (bound.value? host scope).bind fun value => value.bound?.map .positions
  | _ => none

def values? (host : Host support) (scope : Scope support) :
    List Expr → Option (List (Value support))
  | [] => some []
  | value :: rest =>
    (value.value? host scope).bind fun first =>
      (values? host scope rest).map (first :: ·)

end

variable (host : Host support)

theorem value?_variable (scope : Scope support) (name : Name) :
    (path false [name]).value? host scope = scope name.spelling := rfl

theorem value?_number (scope : Scope support) (n : Nat) :
    (number n).value? host scope = some (.number n) := by
  have hdigits : (toString n).toList = Nat.toDigits 10 n := Nat.toList_repr
  have hne : toString n ≠ "" := by
    intro h
    rw [h] at hdigits
    exact Nat.toDigits_ne_nil hdigits.symm
  have hall : (toString n).toList.all Char.isDigit = true := by
    rw [hdigits, List.all_eq_true]
    intro c hc
    exact Nat.isDigit_of_mem_toDigits (by decide) (by decide) hc
  rw [number, value?, if_pos ⟨hne, hall⟩, hdigits, Nat.ofDigitChars_ten_toDigits]

/-- The value of an expression depends on the variables that it reads only. -/
theorem value?_congr {first second : Scope support} (value : Expr)
    (h : ∀ name ∈ value.reads, first name = second name) :
    value.value? host first = value.value? host second := by
  revert h
  apply value?.induct
    (fun value => (∀ name ∈ value.reads, first name = second name) →
      value.value? host first = value.value? host second)
    (fun values => (∀ name ∈ listReads values, first name = second name) →
      values? host first values = values? host second values)
  case case1 =>
    intro name h
    rw [value?, value?]
    exact h name.spelling (List.mem_singleton.mpr rfl)
  case case2 | case3 | case4 =>
    intros
    rw [value?, value?]
  case case5 =>
    intro operand ih h
    rw [value?, value?, ih h]
  case case6 =>
    intro op left right ihl ihr h
    rw [reads_infixed] at h
    rw [value?, value?, ihl fun name hname => h name (List.mem_append_left _ hname),
      ihr fun name hname => h name (List.mem_append_right _ hname)]
  case case7 =>
    intro value type ih h
    rw [value?, value?, ih h]
  case case8 =>
    intro inner ih h
    rw [value?, value?, ih h]
  case case9 =>
    intro value name ih h
    rw [value?, value?, ih h]
  case case10 =>
    intro segments arguments hasLastComma ih h
    rw [value?, value?, ih fun name hname => h name (listReads_subset_call _ _ _ hname)]
  case case11 =>
    intro value name arguments hasLastComma ihv iha h
    rw [reads_method] at h
    rw [value?, value?, ihv fun name hname => h name (List.mem_append_left _ hname),
      iha fun name hname => h name (List.mem_append_right _ hname)]
  case case12 =>
    intro bound ih h
    rw [value?, value?, ih h]
  case case13 =>
    -- Every other expression is stuck.
    intro value h₁ h₂ h₃ h₄ h₅ h₆ h₇ h₈ h₉ h₁₀ h₁₁ h
    rw [value?, value?] <;> assumption
  case case14 =>
    intro h
    rfl
  case case15 =>
    intro value rest ihv ihr h
    rw [listReads_cons] at h
    rw [values?, values?, ihv fun name hname => h name (List.mem_append_left _ hname),
      ihr fun name hname => h name (List.mem_append_right _ hname)]

end Expr

/-! ## Statements -/

/-- How a statement ends: in a scope, or by leaving the function. -/
inductive Flow (support : Support) where
  | onward (scope : Scope support)
  | left

namespace Stmt

/-- Binds what a refutable pattern matches; the alternative has to leave. -/
def choose (scope : Scope support) (name : Name) (otherwise : Option (Flow support)) :
    Value support → Option (Flow support)
  | .present value => some (.onward (scope.set name.spelling value))
  | .absent => otherwise.bind fun
    | .left => some .left
    | .onward _ => none
  | _ => none

/-- Stores a value in a field that exists and has its type. -/
def store (scope : Scope support) (owner field : String) (value : Value support) :
    Option (Flow support) :=
  match scope owner with
  | some (.record fields) =>
    match fields field with
    | some old =>
      if old.type? = value.type? then
        some (.onward (scope.set owner (.record fun name =>
          if name = field then some value else fields name)))
      else none
    | none => none
  | _ => none

mutual

/-- Runs a statement; the variables of a block end with it. -/
def run? (host : Host support) (scope : Scope support) : Stmt → Option (Flow support)
  | bind (.bind _ name) _ value =>
    (value.value? host scope).map fun bound => .onward (scope.set name.spelling bound)
  | bindOr (.some (.bind _ name)) value otherwise =>
    (value.value? host scope).bind (choose scope name (runAll? host scope otherwise))
  | when condition body =>
    (condition.value? host scope).bind fun
      | .boolean true => (runAll? host scope body).map fun
        | .left => .left
        | .onward _ => .onward scope
      | .boolean false => some (.onward scope)
      | _ => none
  | assign (.field (.path false [owner]) name) value =>
    (value.value? host scope).bind (store scope owner.spelling name.spelling)
  | run _ => some (.onward scope)
  | exit _ | result _ => some .left
  | _ => none

def runAll? (host : Host support) (scope : Scope support) : List Stmt → Option (Flow support)
  | [] => some (.onward scope)
  | stmt :: rest => (run? host scope stmt).bind fun
    | .onward next => runAll? host next rest
    | .left => some .left

end

theorem runAll?_singleton (host : Host support) (scope : Scope support) (stmt : Stmt) :
    runAll? host scope [stmt] = stmt.run? host scope := by
  rw [runAll?]
  cases stmt.run? host scope with
  | none => rfl
  | some flow => cases flow <;> rfl

end Stmt
end CommandBuffer.Code
