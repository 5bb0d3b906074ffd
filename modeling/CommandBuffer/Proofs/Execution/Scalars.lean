import CommandBuffer.Artifact.Handlers
import CommandBuffer.Proofs.Execution.Run

/-! # Scalars between values and words

The plain type of a scalar argument follows from its kind: at most 32 bits in one
word, 64 bits in two. What the field of an argument stores is read back as the value
that was stored.
-/

namespace CommandBuffer

open Code

variable {support : Support}

namespace StorageType

/-- The plain type of a field. -/
def scalarType : StorageType → ScalarType
  | u32 => .int .u32
  | i32 => .int .i32
  | f32 => .float

theorem scalarType?_type (storage : StorageType) :
    storage.type.scalarType? support = some storage.scalarType := by
  cases storage <;> rfl

end StorageType

namespace ScalarKind

/-- The plain types of the values that a kind carries. -/
def Fits : ScalarKind → ScalarType → Prop
  | u32, .int type | i32, .int type => 0 < type.width ∧ type.width ≤ 32
  | f32, .float => True
  | bool, .boolean => True
  | u64, .int type => type.width = 64
  | _, _ => False

/-- The bases of a kind stand for plain types that it carries. -/
theorem fits_of_ofBase? (support : Support) {base : String} {kind : ScalarKind}
    (h : ofBase? base = some kind) :
    ∃ type, (valueType base).scalarType? support = some type ∧ kind.Fits type := by
  unfold ofBase? at h
  split at h
  · rename_i hbase
    cases h
    simp only [unsignedBases, List.mem_cons, List.not_mem_nil, or_false] at hbase
    rcases hbase with rfl | rfl | rfl | rfl | rfl | rfl | rfl
    all_goals exact ⟨_, rfl, by decide, by decide⟩
  · split at h
    · rename_i hbase
      cases h
      simp only [signedBases, List.mem_cons, List.not_mem_nil, or_false] at hbase
      rcases hbase with rfl | rfl | rfl | rfl | rfl | rfl
      all_goals exact ⟨_, rfl, by decide, by decide⟩
    · split at h
      · rename_i hbase
        cases h
        simp only [floatBases, List.mem_cons, List.not_mem_nil, or_false] at hbase
        rcases hbase with rfl | rfl | rfl
        all_goals exact ⟨_, rfl, trivial⟩
      · split at h
        · rename_i hbase
          cases h
          rw [hbase]
          exact ⟨_, rfl, trivial⟩
        · split at h
          · rename_i hbase
            cases h
            simp only [wideBases, List.mem_cons, List.not_mem_nil, or_false] at hbase
            rcases hbase with rfl | rfl | rfl | rfl | rfl | rfl
            all_goals exact ⟨_, rfl, rfl⟩
          · cases h

theorem ofBase?_of_ofType? {type : CType} {kind : ScalarKind} (h : ofType? type = some kind)
    (hkind : kind ≠ .enum) : ofBase? type.base = some kind := by
  unfold ofType? at h
  split at h
  · cases h
  · cases hbase : ofBase? type.base with
    | some found =>
      rw [hbase] at h
      exact h
    | none =>
      rw [hbase] at h
      obtain ⟨named, -, hnamed⟩ := Option.map_eq_some_iff.mp h
      exact absurd hnamed.symm hkind

end ScalarKind

namespace Argument

/-- The value belongs to the declared type of the argument. -/
def Takes (argument : Argument) (value : Value support) : Prop :=
  if ScalarKind.ofType? argument.param.type = some .enum then
    ∃ carried, value = .foreign (valuePath argument.base) carried
  else ∃ type, argument.valueType.scalarType? support = some type ∧ value.HasType type

/-- The forms that a value of the declared type has for each kind. -/
inductive Carries (argument : Argument) : ScalarKind → Value support → Prop where
  | narrow {kind : ScalarKind} {type : IntType} {n : Int} (hkind : kind = .u32 ∨ kind = .i32)
      (htype : argument.valueType.scalarType? support = some (.int type))
      (hpos : 0 < type.width) (hwidth : type.width ≤ 32) (hn : type.Holds n) :
      Carries argument kind (.int type n)
  | float {bits : UInt32} (htype : argument.valueType.scalarType? support = some .float) :
      Carries argument .f32 (.float bits)
  | boolean {b : Bool} : Carries argument .bool (.boolean b)
  | wide {type : IntType} {n : Int}
      (htype : argument.valueType.scalarType? support = some (.int type))
      (hwidth : type.width = 64) (hn : type.Holds n) : Carries argument .u64 (.int type n)
  | enum {carried : support.Carrier (valuePath argument.base)} :
      Carries argument .enum (.foreign (valuePath argument.base) carried)

/-- A value of 64 bits is an integer. -/
theorem Carries.exists_wide {argument : Argument} {value : Value support}
    (h : argument.Carries .u64 value) : ∃ type n, value = .int type n ∧
      argument.valueType.scalarType? support = some (.int type) ∧ type.width = 64 ∧
      type.Holds n := by
  cases h with
  | wide htype hwidth hn => exact ⟨_, _, rfl, htype, hwidth, hn⟩
  | narrow hkind htype hpos hwidth hn => rcases hkind with hkind | hkind <;> cases hkind

theorem Takes.carries {argument : Argument} {value : Value support} (h : argument.Takes value)
    {kind : ScalarKind} (hkind : ScalarKind.ofType? argument.param.type = some kind) :
    argument.Carries kind value := by
  by_cases henum : kind = .enum
  · subst henum
    rw [Takes, if_pos hkind] at h
    rcases h with ⟨carried, rfl⟩
    exact .enum
  · rw [Takes, if_neg (by rw [hkind]; exact fun hsame => henum (Option.some.inj hsame))] at h
    rcases h with ⟨type, htype, hvalue⟩
    obtain ⟨expected, hexpected, hfits⟩ :=
      ScalarKind.fits_of_ofBase? support (ScalarKind.ofBase?_of_ofType? hkind henum)
    obtain rfl : expected = type := Option.some.inj (hexpected.symm.trans htype)
    cases value with
    | int own n =>
      cases expected with
      | int type =>
        rcases hvalue with ⟨rfl, hn⟩
        cases kind with
        | u32 => exact .narrow (.inl rfl) htype hfits.1 hfits.2 hn
        | i32 => exact .narrow (.inr rfl) htype hfits.1 hfits.2 hn
        | u64 => exact .wide htype hfits hn
        | f32 | bool | enum => exact hfits.elim
      | float | boolean => exact hvalue.elim
    | float bits =>
      cases expected with
      | float =>
        cases kind with
        | f32 => exact .float htype
        | u32 | i32 | bool | u64 | enum => exact hfits.elim
      | int | boolean => exact hvalue.elim
    | boolean b =>
      cases expected with
      | boolean =>
        cases kind with
        | bool => exact .boolean
        | u32 | i32 | f32 | u64 | enum => exact hfits.elim
      | int | float => exact hvalue.elim
    | _ => exact hvalue.elim

end Argument

namespace Handler

variable {command : Command} {argument : Argument} {validators : ValidatorSet}

theorem prepare_of_word {field : Nat} {kind : ScalarKind}
    (hlayout : argument.layout = .word field kind) :
    prepare validators command argument = decode command argument kind
      :: ((validators.forType? argument.param.type).map
        (validate command argument kind)).toList := by
  rw [prepare, hlayout]
  rfl

theorem prepare_of_split {low high : Nat} (hlayout : argument.layout = .split low high) :
    prepare validators command argument
      = [.bind (.bind false argument.ident) none (Expr.send "c" argument.ident [])] := by
  rw [prepare, hlayout]

end Handler

/-! ## One word -/

section Word

variable (host : Host support) {scope fields : Scope support} {name : Name}
  {value word : Value support}

theorem value?_cast_variable {type : Ty} {target : ScalarType}
    (hscope : scope name.spelling = some value) (htype : type.scalarType? support = some target) :
    (Expr.cast name type).value? host scope = value.cast target := by
  rw [Expr.value?, Expr.value?, hscope, Option.bind_some, htype, Option.bind_some]

theorem value?_field {owner : Name} (hscope : scope owner.spelling = some (.record fields)) :
    (Expr.field (.path false [owner]) name).value? host scope = fields name.spelling := by
  rw [Expr.value?, Expr.value?_variable, hscope]
  rfl

theorem value?_stored (hscope : scope "c" = some (.record fields))
    (hfield : fields name.spelling = some word) :
    (Handler.stored name).value? host scope = some word :=
  (value?_field host hscope).trans hfield

theorem value?_cast_stored {type : Ty} {target : ScalarType}
    (hscope : scope "c" = some (.record fields)) (hfield : fields name.spelling = some word)
    (htype : type.scalarType? support = some target) :
    (Expr.cast (Handler.stored name) type).value? host scope = word.cast target := by
  rw [Expr.value?, value?_stored host hscope hfield, Option.bind_some, htype, Option.bind_some]

theorem run?_bind {statementName : Name} {isMutable : Bool} {type : Option Ty} {source : Expr}
    (hvalue : source.value? host scope = some value) :
    (Stmt.bind (.bind isMutable statementName) type source).run? host scope
      = some (.onward (scope.set statementName.spelling value)) := by
  rw [Stmt.run?, hvalue]
  rfl

end Word

/-- The conversion from the wire undoes the one to the wire. -/
theorem call_fromWire {path : List Name} (carried : support.Carrier path) :
    Host.call (path ++ [.verbatim "from_wire"])
        [Value.int .u32 (support.toWire carried).toNat]
      = some (.present (.foreign path carried)) := by
  have hlast : (path ++ [Name.verbatim "from_wire"]).getLast? = some (.verbatim "from_wire") :=
    List.getLast?_concat
  have hpath : (path ++ [Name.verbatim "from_wire"]).dropLast = path := List.dropLast_concat
  rw [Host.call, if_pos hlast, hpath, Int.toNat_natCast, UInt32.ofNat_toNat, Host.convert_toWire]

namespace Argument

variable {argument : Argument} {kind : ScalarKind}

/-- The word is what a field stores for a value of the argument, and the handler reads the value
back from it, whoever runs the code. -/
structure IsWordOf (argument : Argument) (kind : ScalarKind) (value word : Value support) :
    Prop where
  type : word.type? = some kind.storage.scalarType
  encode : ∀ (host : Host support) (scope : Scope support),
    scope argument.ident.spelling = some value →
    (encodeWord argument.ident kind kind.storage).value? host scope = some word
  decode : ∀ (host : Host support) (scope fields : Scope support) (command : Command),
    scope "c" = some (.record fields) → fields argument.ident.spelling = some word →
    (Handler.decode command argument kind).run? host scope
      = some (.onward (scope.set argument.ident.spelling value))

/-- An integer of at most 32 bits is wrapped into the storage type, and back. -/
theorem isWordOf_narrow {storage type : IntType} {n : Int} (hkind : kind = .u32 ∨ kind = .i32)
    (hstorage : kind.storage.scalarType = .int storage)
    (htype : argument.valueType.scalarType? support = some (.int type)) (hpos : 0 < type.width)
    (hwidth : type.width ≤ storage.width) (hn : type.Holds n) :
    argument.IsWordOf kind (.int type n : Value support) (.int storage (storage.wrap n)) where
  type := by rw [hstorage]; rfl
  encode host scope hscope := by
    have hencode : encodeWord argument.ident kind kind.storage
        = .cast argument.ident kind.storage.type := by
      rcases hkind with rfl | rfl <;> rfl
    rw [hencode, value?_cast_variable host hscope (StorageType.scalarType?_type _), hstorage]
    rfl
  decode host scope fields command hscope hfield := by
    have hdecode : Handler.decode command argument kind
        = .bind (.bind false argument.ident) none
          (.cast (Handler.stored argument.ident) argument.valueType) := by
      rcases hkind with rfl | rfl <;> rfl
    rw [hdecode]
    refine run?_bind host ?_
    rw [value?_cast_stored host hscope hfield htype, Value.cast, IntType.wrap_wrap hpos hwidth hn]

theorem isWordOf_float {bits : UInt32}
    (htype : argument.valueType.scalarType? support = some .float) :
    argument.IsWordOf .f32 (.float bits : Value support) (.float bits) where
  type := rfl
  encode host _ hscope := value?_cast_variable host hscope (StorageType.scalarType?_type .f32)
  decode host _ _ _ hscope hfield :=
    run?_bind host (value?_cast_stored host hscope hfield htype)

/-- A truth value is compared with zero when it is read. -/
theorem isWordOf_boolean {b : Bool} :
    argument.IsWordOf .bool (.boolean b : Value support) (.int .u32 (if b then 1 else 0)) where
  type := rfl
  encode host _ hscope := value?_cast_variable host hscope (StorageType.scalarType?_type .u32)
  decode host scope fields command hscope hfield := by
    refine run?_bind host ?_
    rw [decodeWord, Expr.value?, value?_stored host hscope hfield, Expr.value?_number]
    cases b <;> rfl

/-- A value with a wire form of its own is converted on both sides. -/
theorem isWordOf_enum {carried : support.Carrier (valuePath argument.base)} :
    argument.IsWordOf .enum (.foreign (valuePath argument.base) carried)
      (.int .u32 (support.toWire carried).toNat) where
  type := rfl
  encode host scope hscope := by
    have hvariable : (Expr.path false [argument.ident]).value? host scope = _ := hscope
    rw [encodeWord, Expr.send, Expr.value?, hvariable]
    rfl
  decode host scope fields command hscope hfield := by
    rw [Handler.decode, Stmt.run?, Expr.apply, Expr.value?, Expr.values?, Expr.values?,
      value?_stored host hscope hfield]
    simp only [Option.bind_some, Option.map_some, call_fromWire]
    rfl

/-- Every value that takes one word is stored in one and read back. -/
theorem Carries.exists_word {value : Value support} (h : argument.Carries kind value)
    (hnarrow : kind ≠ .u64) : ∃ word, argument.IsWordOf kind value word := by
  cases h with
  | narrow hkind htype hpos hwidth hn =>
    -- The storage type is signed or not, and has 32 bits either way.
    rcases hkind with rfl | rfl
    · exact ⟨_, isWordOf_narrow (.inl rfl) rfl htype hpos hwidth hn⟩
    · exact ⟨_, isWordOf_narrow (.inr rfl) rfl htype hpos hwidth hn⟩
  | float htype => exact ⟨_, isWordOf_float htype⟩
  | boolean => exact ⟨_, isWordOf_boolean⟩
  | wide htype hwidth hn => exact absurd rfl hnarrow
  | enum => exact ⟨_, isWordOf_enum⟩

end Argument

/-! ## Two words -/

namespace Code.IntType

theorem wrap_unsigned {type : IntType} (h : type.isSigned = false) (n : Int) :
    type.wrap n = n % 2 ^ type.width := by
  simp [wrap, least, h]

/-- The two halves of 64 bits make them up again. -/
theorem halves_or {n : Int} (hnonneg : 0 ≤ n) :
    ((n / 2 ^ 32 * 2 ^ 32).toNat ||| (n % 2 ^ 32).toNat : Nat) = n.toNat := by
  lift n to Nat using hnonneg
  have hhigh : ((n : Int) / 2 ^ 32 * 2 ^ 32).toNat = n / 2 ^ 32 * 2 ^ 32 := by omega
  have hlow : ((n : Int) % 2 ^ 32).toNat = n % 2 ^ 32 := by omega
  have hlt : n % 2 ^ 32 < 2 ^ 32 := Nat.mod_lt _ (by decide)
  rw [hhigh, hlow, ← Nat.shiftLeft_eq, ← Nat.shiftLeft_add_eq_or_of_lt hlt, Nat.shiftLeft_eq]
  omega

end Code.IntType

/-- The lower half of a 64-bit value. -/
def lowWord (value : Expr) : Expr := .cast (.cast value "u64") "u32"

/-- The upper half of a 64-bit value. -/
def highWord (value : Expr) : Expr :=
  .cast (.paren (.infixed .shiftRight (.paren (.cast value "u64")) (.number 32))) "u32"

/-- The value of a type that two halves make up. -/
def joinedWords (low high : Expr) (type : Ty) : Expr :=
  .cast (.paren (.infixed .bitOr
    (.paren (.infixed .shiftLeft (.paren (.cast high "u64")) (.number 32))) (.cast low "u64"))) type

section Halves

variable (host : Host support) {scope : Scope support} {value : Expr} {type : IntType} {n : Int}

theorem value?_cast_int {target : IntType} {result : Ty}
    (hvalue : value.value? host scope = some (.int type n))
    (hresult : result.scalarType? support = some (.int target)) :
    (Expr.cast value result).value? host scope = some (.int target (target.wrap n)) := by
  rw [Expr.value?, hvalue, Option.bind_some, hresult, Option.bind_some]
  rfl

theorem value?_infixed {op : InfixOp} {left right : Expr} {first second : Value support}
    (hleft : left.value? host scope = some first) (hright : right.value? host scope = some second) :
    (Expr.infixed op left right).value? host scope = first.operate op second := by
  rw [Expr.value?, hleft, hright]
  rfl

theorem value?_paren {result : Value support} (hvalue : value.value? host scope = some result) :
    (Expr.paren value).value? host scope = some result := by
  rw [Expr.value?, hvalue]

theorem value?_lowWord (hvalue : value.value? host scope = some (.int type n)) :
    (lowWord value).value? host scope = some (.int .u32 (IntType.u32.wrap (IntType.u64.wrap n))) :=
  value?_cast_int host (value?_cast_int host hvalue rfl) rfl

theorem value?_highWord (hvalue : value.value? host scope = some (.int type n)) :
    (highWord value).value? host scope
      = some (.int .u32 (IntType.u32.wrap (IntType.u64.wrap n / 2 ^ 32))) := by
  have hwide : (Expr.paren (.cast value "u64")).value? host scope
      = some (.int .u64 (IntType.u64.wrap n)) :=
    value?_paren host (value?_cast_int host hvalue rfl)
  have hshift : (Expr.infixed .shiftRight (.paren (.cast value "u64"))
      (.number 32)).value? host scope = some (.int .u64 (IntType.u64.wrap n / 2 ^ 32)) :=
    value?_infixed host hwide (Expr.value?_number host scope 32)
  exact value?_cast_int host (value?_paren host hshift) rfl

/-- The halves of a value are those of its 64 bits. -/
theorem join_halves (hwidth : type.width = 64) (hn : type.Holds n) :
    type.wrap (((IntType.u64.wrap (IntType.u64.wrap (IntType.u32.wrap (IntType.u64.wrap n / 2 ^ 32))
      * 2 ^ 32)).toNat ||| (IntType.u64.wrap (IntType.u32.wrap (IntType.u64.wrap n))).toNat : Nat))
      = n := by
  have hwide : IntType.u64.Holds (IntType.u64.wrap n) := IntType.holds_wrap (by decide) n
  have hagain : type.wrap (IntType.u64.wrap n) = n :=
    IntType.wrap_wrap (by omega) (by rw [hwidth]; decide) hn
  generalize IntType.u64.wrap n = wide at hwide hagain
  obtain ⟨hnonneg, hbound⟩ : 0 ≤ wide ∧ wide < 2 ^ 64 := hwide
  have h32 : ∀ m, IntType.u32.wrap m = m % 2 ^ 32 := IntType.wrap_unsigned rfl
  have h64 : ∀ m, IntType.u64.wrap m = m % 2 ^ 64 := IntType.wrap_unsigned rfl
  have hlow : IntType.u64.wrap (IntType.u32.wrap wide) = wide % 2 ^ 32 := by
    rw [h32, h64]
    omega
  have hhigh : IntType.u64.wrap (IntType.u64.wrap (IntType.u32.wrap (wide / 2 ^ 32)) * 2 ^ 32)
      = wide / 2 ^ 32 * 2 ^ 32 := by
    rw [h32, h64, h64]
    omega
  rw [hlow, hhigh, IntType.halves_or hnonneg, Int.toNat_of_nonneg hnonneg, hagain]

theorem value?_joinedWords {low high : Expr} {result : Ty}
    (hlow : low.value? host scope
      = some (.int .u32 (IntType.u32.wrap (IntType.u64.wrap n))))
    (hhigh : high.value? host scope
      = some (.int .u32 (IntType.u32.wrap (IntType.u64.wrap n / 2 ^ 32))))
    (hresult : result.scalarType? support = some (.int type)) (hwidth : type.width = 64)
    (hn : type.Holds n) :
    (joinedWords low high result).value? host scope = some (.int type n) := by
  have hlowWide : (Expr.cast low "u64").value? host scope = _ := value?_cast_int host hlow rfl
  have hhighWide : (Expr.paren (.cast high "u64")).value? host scope = _ :=
    value?_paren host (value?_cast_int host hhigh rfl)
  have hshift : (Expr.infixed .shiftLeft (.paren (.cast high "u64")) (.number 32)).value? host scope
      = _ := value?_infixed host hhighWide (Expr.value?_number host scope 32)
  have hjoin : (Expr.infixed .bitOr (.paren (.infixed .shiftLeft (.paren (.cast high "u64"))
      (.number 32))) (.cast low "u64")).value? host scope = _ :=
    value?_infixed host (value?_paren host hshift) hlowWide
  rw [joinedWords, value?_cast_int host (value?_paren host hjoin) hresult]
  exact congrArg (fun m => some (Value.int type m)) (join_halves hwidth hn)

end Halves
end CommandBuffer
