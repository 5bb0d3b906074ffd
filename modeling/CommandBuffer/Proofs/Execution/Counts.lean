import CommandBuffer.Artifact.Handlers
import CommandBuffer.Artifact.Marshaling
import CommandBuffer.Proofs.Execution.Scalars
import CommandBuffer.Proofs.Execution.Service
import CommandBuffer.Proofs.Sizing

/-! # Running checks of counts

Every emitter writes the number of data elements in its own way: as a literal, as a
constant, as the length of the data, or as a counting argument times its units, in
32 bits or in the width of a length. Each of them is evaluated once here, together
with the checks that guard it.
-/

namespace CommandBuffer

open Code

variable {support : Support}

/-! ## Unsigned numbers -/

namespace Code.IntType

/-- The type holds every number below `2 ^ 32`. -/
def IsRoomy (type : IntType) : Prop := type.isSigned = false ∧ 32 ≤ type.width

variable {type : IntType} {k : Nat}

theorem isRoomy_u32 : u32.IsRoomy := ⟨rfl, by decide⟩

theorem IsRoomy.holds (h : type.IsRoomy) (hk : k < 2 ^ 32) : type.Holds k := by
  apply holds_of_nonneg h.1 (Int.natCast_nonneg k)
  calc (k : Int) < 2 ^ 32 := by exact_mod_cast hk
    _ ≤ 2 ^ type.width := pow_le_pow_right₀ (by decide) h.2

theorem IsRoomy.wrap (h : type.IsRoomy) (hk : k < 2 ^ 32) : type.wrap k = k :=
  wrap_of_holds (Nat.lt_of_lt_of_le (by decide) h.2) (h.holds hk)

end Code.IntType

theorem Code.Support.isRoomy_usize (support : Support) : support.usize.IsRoomy :=
  ⟨rfl, support.lengthWidth_ge⟩

section Counts

variable (host : Host support) {scope : Scope support} {name : Name} {type : Ty}
  {target : IntType} {n : Int} {units k length : Nat}

/-- A count times its units, in a type. -/
def countedUnits (name : Name) (type : Ty) (units : Nat) : Expr :=
  if units = 1 then .cast name type else .infixed .mul (.cast name type) (.number units)

theorem value?_cast_count (hname : scope name.spelling = some (.int .i32 n)) (hn : 0 ≤ n)
    (hlt : n < 2 ^ 32) (htype : type.scalarType? support = some (.int target))
    (hroomy : target.IsRoomy) :
    (Expr.cast name type).value? host scope = some (.int target n) := by
  obtain ⟨m, rfl⟩ := Int.eq_ofNat_of_zero_le hn
  rw [value?_cast_variable host hname htype, Value.cast, hroomy.wrap (by exact_mod_cast hlt)]

/-- A product that fits is computed without overflow. -/
theorem value?_countedUnits (hname : scope name.spelling = some (.int .i32 n))
    (htype : type.scalarType? support = some (.int target)) (hroomy : target.IsRoomy)
    (hn : n * units = k) (hpos : 0 ≤ n) (hlt : n < 2 ^ 32) (hunits : units < 2 ^ 32)
    (hk : k < 2 ^ 32) :
    (countedUnits name type units).value? host scope = some (.int target k) := by
  have hcount := value?_cast_count host hname hpos hlt htype hroomy
  unfold countedUnits
  by_cases hone : units = 1
  · rw [if_pos hone, hcount, ← hn, hone, Nat.cast_one, mul_one]
  · rw [if_neg hone, value?_infixed host hcount (Expr.value?_number host scope units)]
    rw [Value.operate, Value.asInt?, if_pos (hroomy.holds hunits), Option.bind_some]
    rw [Value.inRange?, hn, if_pos (hroomy.holds hk)]

theorem value?_length (hname : scope name.spelling = some (.slice length)) :
    (Expr.send name "len" []).value? host scope = some (.int support.usize length) := by
  rw [Expr.send, Expr.value?, Expr.value?_variable, hname]
  rfl

/-- A check of a sign. -/
theorem run?_signCheck {body : List Stmt} (hname : scope name.spelling = some (.int .i32 n))
    (hbody : Stmt.runAll? host scope body = some .left) :
    (Stmt.when (.infixed .lt name (.number 0)) body).run? host scope
      = some (if n < 0 then .left else .onward scope) := by
  have hnegative : (Expr.infixed .lt name (.number 0)).value? host scope
      = some (.boolean (n < 0)) :=
    value?_infixed host ((Expr.value?_variable host scope name).trans hname)
      (Expr.value?_number host scope 0)
  rw [Stmt.run?, hnegative, hbody]
  by_cases hn : n < 0
  · rw [decide_eq_true hn, if_pos hn]
    rfl
  · rw [decide_eq_false hn, if_neg hn]
    rfl

/-- A check of an upper bound that is a literal or a constant of the type of the value. -/
theorem run?_boundCheck {value bound : Expr} {limit : Value support} {body : List Stmt} {max : Nat}
    (hvalue : value.value? host scope = some (.int target k))
    (hlimit : bound.value? host scope = some limit) (hmax : limit.asInt? target = some max)
    (hbody : Stmt.runAll? host scope body = some .left) :
    (Stmt.when (.infixed .gt value bound) body).run? host scope
      = some (if k ≤ max then .onward scope else .left) := by
  have hexceeds : (Expr.infixed .gt value bound).value? host scope
      = some (.boolean ((max : Int) < k)) := by
    rw [value?_infixed host hvalue hlimit, Value.operate, hmax]
    rfl
  rw [Stmt.run?, hexceeds, hbody]
  by_cases hk : k ≤ max
  · rw [decide_eq_false (by omega), if_pos hk]
    rfl
  · rw [decide_eq_true (by omega), if_neg hk]
    rfl

end Counts

/-! ## The client -/

namespace Marshaling

variable (host : Host support) {scope : Scope support} {record : Record} {command : Command}
  {argument : Argument} {length k : Nat}

theorem runAll?_refuse (message : String) :
    Stmt.runAll? host scope (refuse record message) = some .left := rfl

/-- So many elements are kept if there are as many. -/
theorem run?_keepFirst {kept : Expr} {bound : Value support}
    (hdata : scope argument.ident.spelling = some (.slice length))
    (hkept : kept.value? host scope = some bound) (hbound : bound.bound? = some k) :
    (keepFirst record argument kept).run? host scope
      = some (if k ≤ length then .onward (scope.set argument.ident.spelling (.slice k))
        else .left) := by
  have hposition : Expr.values? host scope [.upTo kept] = some [.positions k] := by
    rw [Expr.values?, Expr.value?, hkept, Option.bind_some, hbound]
    rfl
  have hgot : ∀ getter : Name, getter = "get" ∨ getter = "get_mut" →
      (Expr.send argument.ident getter [.upTo kept]).value? host scope
        = some (if k ≤ length then .present (.slice k) else .absent) := by
    intro getter hgetter
    rw [Expr.send, Expr.value?, Expr.value?_variable, hdata, Option.bind_some, hposition,
      Option.bind_some, Host.send, if_pos hgetter]
  rw [keepFirst, Stmt.run?, runAll?_refuse, hgot _ (by split <;> simp), Option.bind_some]
  by_cases hk : k ≤ length
  · rw [if_pos hk, if_pos hk]
    rfl
  · rw [if_neg hk, if_neg hk]
    rfl

end Marshaling

/-! ## The service -/

namespace Code.Host

variable {command : Command} {name : Name} {count : Nat} (accepts : String → Value support → Bool)

/-- The constant of a struct is found under its own name and under that of the struct. -/
theorem constant_service
    (hconstant : CommandFormat.unitConstant? command = some (unitsConstant name count))
    (hfits : count < 2 ^ 32) {owner : Name} (howner : owner = "Self" ∨ owner = command.structName) :
    (Host.service command accepts).constant [owner, name] = some (.int support.usize count) := by
  have hvalue : constantValue? support (unitsConstant name count)
      = some (.int support.usize count) := by
    have hnumber := Expr.value?_number (bare support) (fun _ => none) count
    have hholds := support.isRoomy_usize.holds hfits
    simp only [constantValue?, unitsConstant, hnumber, Option.bind_some]
    change ((Value.number count).asInt? support.usize).map (Value.int support.usize) = _
    rw [Value.asInt?, if_pos hholds]
    rfl
  rw [Host.service]
  simp only [if_pos howner, hconstant, Option.filter_some, unitsConstant, decide_true, if_true]
  exact hvalue

end Code.Host

namespace Handler

variable {command : Command} {scope fields : Scope support}

theorem runAll?_report (host : Host support) (message : String) :
    Stmt.runAll? host scope [reportInvalidValue command message, consume] = some .left := rfl

/-- A run-time count is compared with the most there may be. -/
theorem runAll?_countCheck_atMost (accepts : String → Value support → Bool) {max k : Nat}
    (hconstant : CommandFormat.unitConstant? command = some (unitsConstant "MAX_DATA_UNITS" max))
    (hfits : max < 2 ^ 32) (hscope : scope "c" = some (.record fields))
    (hcount : fields "count" = some (.int .u32 k)) :
    Stmt.runAll? (Host.service command accepts) scope (countCheck command (.atMost max))
      = some (if k ≤ max then .onward scope else .left) := by
  have hmax : (Expr.path false [command.structName, "MAX_DATA_UNITS"]).value?
      (Host.service command accepts) scope = some (.int support.usize max) :=
    Host.constant_service accepts hconstant hfits (.inr rfl)
  have hbound : (Expr.cast (.path false [command.structName, "MAX_DATA_UNITS"]) "u32").value?
      (Host.service command accepts) scope = some (.int .u32 max) := by
    rw [value?_cast_int _ hmax rfl, IntType.isRoomy_u32.wrap hfits]
  have hstored : (stored "count").value? (Host.service command accepts) scope
      = some (.int .u32 k) := value?_stored _ hscope hcount
  rw [countCheck, Stmt.runAll?_singleton, run?_boundCheck _ hstored hbound rfl rfl]

end Handler
end CommandBuffer
