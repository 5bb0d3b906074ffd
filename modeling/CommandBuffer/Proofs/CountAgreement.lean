import CommandBuffer.Artifact.Writers
import CommandBuffer.Proofs.Execution.Counts
import CommandBuffer.Proofs.RoundTrip

/-! # Agreement on the number of data elements

Client and service count the elements of sized data on their own: the marshaling
function keeps or admits them, the writer and `init` compute the size of the command
from them, and the handler reads as many. All of these numbers are the same, except
that no writer binds a run-time count for data that does not follow its command.
-/

namespace CommandBuffer

open Code

variable {support : Support} {command : Command} {index : Nat} {argument : Argument}
  {size : DataSize}

namespace Command

/-! ## Requests -/

/-- The values of the client ask for so many elements. -/
def Requests (command : Command) (size : DataSize) (scope : Scope support) (k : Nat) : Prop :=
  match size with
  | .fixed count => k = count
  | .atMost max => k ≤ max
  | .counted counter units => ∃ n : Int,
      scope (command.argumentIdent counter).spelling = some (.int .i32 n) ∧ IntType.i32.Holds n ∧
        0 ≤ n ∧ n * units = k ∧ k < 2 ^ 32
  | .unsized => False

/-- The parameters of `init` stand for so many elements. -/
def Passes (command : Command) (size : DataSize) (scope : Scope support) (k : Nat) : Prop :=
  command.Requests size scope k ∧
    ∀ max, size = .atMost max → scope countParam.name.spelling = some (.int .u32 k)

/-- The scope of a call of the writer: nothing but its parameters is bound. -/
def IsWriterScope (command : Command) (scope : Scope support) : Prop :=
  ∀ name, (scope name).isSome ↔
    name = "self" ∨ ∃ parameter ∈ command.writerParams, name = parameter.name.spelling

/-- What the writer binds before it computes the size. -/
def countBindings (command : Command) : List Stmt :=
  match command.immediate? with
  | some (argument, size) => countBinding argument size
  | none => []

/-- The size in bytes is that of so many units. -/
def IsBytesOf (bytes units : Expr) : Prop :=
  ∃ type, bytes = .cast (.paren (.infixed .mul (CommandFormat.sizeOf type) units)) "u32" ∨
    bytes = .infixed .mul (.cast (CommandFormat.sizeOf type) "u32") units

/-- The size of the data, called with the count in this scope, is that of `k` elements. -/
def IsSizedBy (command : Command) (host : Host support) (scope : Scope support) (k : Nat) : Prop :=
  ∃ function ∈ CommandFormat.sizeFunctions command,
    function.signature.name = "compute_data_size" ∧
    ∃ values, Expr.values? host scope command.paramCount?.toList = some values ∧
    ∃ bytes units, function.body = [.result bytes] ∧ IsBytesOf bytes units ∧
    ∃ type, units.value? host (Scope.setAll (fun _ => none)
      ((function.signature.parameters.map (·.name.spelling)).zip values)) = some (.int type k)

end Command

/-- The statement by which a handler reads the counter of the data. -/
def Handler.readCounter (command : Command) : DataSize → List Stmt
  | .counted counter _ => (command.arguments[counter]?).toList.map (decode command · .i32)
  | .fixed _ | .atMost _ | .unsized => []

/-- The statements by which a handler knows the number of elements. -/
def Handler.counting (command : Command) (size : DataSize) : List Stmt :=
  readCounter command size ++ countCheck command size

namespace Command

/-- Client and service agree on the number of elements of an argument. -/
structure CountsAgree (command : Command) (argument : Argument) (size : DataSize) : Prop where
  /-- Of data of a fixed or a counted size, the checks keep as many elements as are asked for. -/
  kept : ∀ {support : Support} (host : Host support) (record : Record) {scope : Scope support}
      {k length : Nat}, (∀ max, size ≠ .atMost max) → command.Requests size scope k →
      scope argument.ident.spelling = some (.slice length) →
      Stmt.runAll? host scope (Marshaling.checks record command argument)
        = some (if k ≤ length then .onward (scope.set argument.ident.spelling (.slice k))
          else .left)
  /-- Data of a run-time size is admitted as it is, up to the most there may be. -/
  admitted : ∀ {support : Support} (host : Host support) (record : Record) {scope : Scope support}
      {max length : Nat}, size = .atMost max →
      scope argument.ident.spelling = some (.slice length) →
      Stmt.runAll? host scope (Marshaling.checks record command argument)
        = some (if length ≤ max then .onward scope else .left)
  /-- The writer computes the size from as many, and its call of `init` stands for as many. -/
  written : ∀ {support : Support} (accepts : String → Value support → Bool)
      {writer : Scope support} {k : Nat}, command.IsWriterScope writer →
      command.Requests size writer k →
      (command.immediate? = some (argument, size) →
        writer argument.ident.spelling = some (.slice k)) →
      ∃ bound, Stmt.runAll? (Host.service command accepts) writer command.countBindings
          = some (.onward bound) ∧
        (command.immediate? = some (argument, size) →
          command.IsSizedBy (Host.service command accepts) bound k) ∧
        ∀ scope : Scope support, (∀ param ∈ command.initParams,
          scope param.name.spelling = bound param.name.spelling) → command.Passes size scope k
  /-- `init` sets the header for as many, and the handler reads as many from what it stored. -/
  served : ∀ {support : Support} (accepts : String → Value support → Bool)
      {scope fields : Scope support} {k : Nat}, command.IsCalled scope fields →
      command.Passes size scope k →
      (command.immediate? = some (argument, size) →
        command.IsSizedBy (Host.service command accepts) scope k) ∧
      ∃ stored, Stmt.runAll? (Host.service command accepts) scope
          (CommandFormat.assignments command)
          = some (.onward (scope.set "self" (.record stored))) ∧
        ∀ handler : Scope support, handler "c" = some (.record stored) →
          ∃ next, Stmt.runAll? (Host.service command accepts) handler
              (Handler.counting command size) = some (.onward next) ∧
            (Handler.elementCount command size).value? (Host.service command accepts) next
              = some (.int support.usize k)

/-! ## The client -/

theorem Requests.int_lt {counter units : Nat} {scope : Scope support} {k : Nat}
    (h : command.Requests (.counted counter units) scope k) :
    ∃ n : Int, scope (command.argumentIdent counter).spelling = some (.int .i32 n) ∧
      0 ≤ n ∧ n < 2 ^ 32 ∧ n * units = k ∧ k < 2 ^ 32 := by
  rcases h with ⟨n, hn, ⟨-, hbound⟩, hpos, hk, hlt⟩
  exact ⟨n, hn, hpos, Int.lt_trans hbound (by decide), hk, hlt⟩

theorem bound?_usize (support : Support) (k : Nat) :
    (Value.int support.usize k : Value support).bound? = some k := by
  rw [Value.bound?, if_pos ⟨rfl, Int.natCast_nonneg k⟩, Int.toNat_natCast]

theorem IsSized.runAll?_keeping (hsized : command.IsSized index size)
    (hsize : argument.layout.dataSize? = some size) (hbounded : ∀ max, size ≠ .atMost max)
    (host : Host support) (record : Record) {scope : Scope support} {k length : Nat}
    (hrequest : command.Requests size scope k)
    (hdata : scope argument.ident.spelling = some (.slice length)) :
    Stmt.runAll? host scope (Marshaling.checks record command argument)
      = some (if k ≤ length then .onward (scope.set argument.ident.spelling (.slice k))
        else .left) := by
  rw [Marshaling.checks, hsize]
  cases hsized with
  | @fixed count hconstant hfits =>
    obtain rfl : k = count := hrequest
    simp only [Stmt.runAll?_singleton]
    exact Marshaling.run?_keepFirst host hdata (Expr.value?_number host scope k) rfl
  | @atMost max field hconstant hcount hfits => exact absurd rfl (hbounded max)
  | @counted counter units field counting hindex hcounting hbase hword hfits =>
    obtain ⟨n, hn, hpos, hlt, hk, hkfits⟩ := hrequest.int_lt
    have hkept : (Marshaling.countedLength (command.argumentIdent counter) units).value? host scope
        = some (.int support.usize k) :=
      value?_countedUnits host hn rfl support.isRoomy_usize hk hpos hlt hfits hkfits
    simp only [Stmt.runAll?]
    rw [run?_signCheck host hn (Marshaling.runAll?_refuse host _), if_neg (by omega),
      Option.bind_some]
    simp only
    rw [Marshaling.run?_keepFirst host hdata hkept (bound?_usize support k)]
    by_cases hle : k ≤ length
    · rw [if_pos hle]
      rfl
    · rw [if_neg hle]
      rfl

theorem IsSized.runAll?_admitting {max : Nat} (hsized : command.IsSized index (.atMost max))
    (hsize : argument.layout.dataSize? = some (.atMost max)) (host : Host support)
    (record : Record) {scope : Scope support} {length : Nat}
    (hdata : scope argument.ident.spelling = some (.slice length)) :
    Stmt.runAll? host scope (Marshaling.checks record command argument)
      = some (if length ≤ max then .onward scope else .left) := by
  rw [Marshaling.checks, hsize]
  cases hsized with
  | @atMost max field hconstant hcount hfits =>
    have hmax : (Value.number max : Value support).asInt? support.usize = some (max : Int) :=
      if_pos (support.isRoomy_usize.holds hfits)
    simp only [Stmt.runAll?_singleton]
    rw [run?_boundCheck host (value?_length host hdata) (Expr.value?_number host scope max) hmax
      (Marshaling.runAll?_refuse host _)]

/-! ## The writer and `init` -/

/-- The size of data behind the command is computed from as many elements as `init` gets. -/
theorem IsSized.isSizedBy (hsized : command.IsSized index size)
    (himmediate : command.immediate? = some (argument, size))
    (accepts : String → Value support → Bool) {scope : Scope support} {k : Nat}
    (hpasses : command.Passes size scope k) :
    command.IsSizedBy (Host.service command accepts) scope k := by
  rcases hpasses with ⟨hrequest, hcounted⟩
  -- All sizes but fixed ones are computed from the only parameter.
  have hvariable : ∀ count : Expr, command.paramCount? = some count →
      (∀ count, size ≠ .fixed count) →
      count.value? (Host.service command accepts) scope = some (.int .u32 k) →
      command.IsSizedBy (Host.service command accepts) scope k := by
    intro count hcount hfinal hvalue
    refine ⟨CommandFormat.sizeFunction "compute_data_size" [⟨"count", "u32"⟩]
      (.infixed .mul (.cast (CommandFormat.sizeOf argument.valueType) "u32") "count"), ?_, rfl,
      [.int .u32 k], ?_, _, _, rfl, ⟨_, .inr rfl⟩, .u32, rfl⟩
    · rw [CommandFormat.sizeFunctions, himmediate]
      cases size with
      | fixed count => exact absurd rfl (hfinal count)
      | atMost max | counted counter units | unsized => exact List.mem_cons_self
    · rw [hcount, Option.toList_some, Expr.values?, hvalue]
      rfl
  cases hsized with
  | @fixed count hconstant hfits =>
    obtain rfl : k = count := hrequest
    refine ⟨CommandFormat.sizeFunction "compute_data_size" []
      (.cast (.paren (.infixed .mul (CommandFormat.sizeOf argument.valueType)
        (.path false ["Self", "DATA_UNITS"]))) "u32"), ?_, rfl, [], ?_, _, _, rfl, ⟨_, .inl rfl⟩,
      support.usize, Host.constant_service accepts hconstant hfits (.inl rfl)⟩
    · rw [CommandFormat.sizeFunctions, himmediate]
      exact List.mem_cons_self
    · rw [paramCount?, dataCount?, himmediate]
      rfl
  | @atMost max field hconstant hcount hfits =>
    refine hvariable "count" ?_ (by simp) (hcounted max rfl)
    rw [paramCount?, dataCount?, himmediate]
  | @counted counter units field counting hindex hcounting hbase hword hfits =>
    obtain ⟨n, hn, hpos, hlt, hk, hkfits⟩ := hrequest.int_lt
    refine hvariable (countedUnits (command.argumentIdent counter) "u32" units) ?_
      (by simp)
      (value?_countedUnits _ hn rfl IntType.isRoomy_u32 hk hpos hlt hfits hkfits)
    rw [paramCount?, dataCount?, himmediate]
    rfl

/-- `init` stands for what its parameters are called with. -/
theorem IsSized.passes_of_agree (hsized : command.IsSized index size) (hlaid : command.IsLaidOut)
    {scope bound : Scope support}
    {k : Nat} (hpasses : command.Passes size bound k) (hagree : ∀ param ∈ command.initParams,
      scope param.name.spelling = bound param.name.spelling) : command.Passes size scope k := by
  rcases hpasses with ⟨hrequest, hcounted⟩
  cases hsized with
  | fixed hconstant hfits => exact ⟨hrequest, by simp⟩
  | @atMost max field hconstant hcount hfits =>
    refine ⟨hrequest, fun other hother => ?_⟩
    refine (hagree countParam (List.mem_append_right _ ?_)).trans (hcounted other hother)
    refine List.mem_append_left _ (List.mem_append_left _ (List.mem_append_left _ ?_))
    rw [hcount]
    exact List.mem_cons_self
  | @counted counter units field counting hindex hcounting hbase hword hfits =>
    rcases hrequest with ⟨n, hn, hrest⟩
    refine ⟨⟨n, ?_, hrest⟩, by simp⟩
    rw [argumentIdent_eq hcounting] at hn ⊢
    have hscalar := ScalarKind.isPointer_of_ofType? (hlaid.kind_of_word hcounting hword).1
    exact (hagree _ (hlaid.param_of_scalar hcounting hscalar)).trans hn

/-- A writer of data behind the command binds a run-time count. -/
theorem IsSized.exists_bound (hsized : command.IsSized index size)
    (himmediate : command.immediate? = if command.transfer = .immediate then some (argument, size)
      else none)
    (htransfer : ∀ max, size = .atMost max → command.transfer = .immediate)
    (host : Host support) {writer : Scope support} {k : Nat}
    (hrequest : command.Requests size writer k)
    (hdata : command.immediate? = some (argument, size) →
      writer argument.ident.spelling = some (.slice k)) :
    ∃ bound, Stmt.runAll? host writer command.countBindings = some (.onward bound) ∧
      command.Passes size bound k := by
  have hnone : (∀ max, size ≠ .atMost max) →
      Stmt.runAll? host writer command.countBindings = some (.onward writer) := by
    intro hbounded
    rw [countBindings, himmediate]
    by_cases hsent : command.transfer = .immediate
    · rw [if_pos hsent]
      cases hsized with
      | atMost hconstant hcount hfits => exact absurd rfl (hbounded _)
      | fixed hconstant hfits => rfl
      | counted hindex hcounting hbase hword hfits => rfl
    · rw [if_neg hsent]
      rfl
  cases hsized with
  | fixed hconstant hfits =>
    exact ⟨writer, hnone (by simp), hrequest, by simp⟩
  | counted hindex hcounting hbase hword hfits =>
    exact ⟨writer, hnone (by simp), hrequest, by simp⟩
  | @atMost max field hconstant hcount hfits =>
    rw [if_pos (htransfer max rfl)] at himmediate
    have hlength : (Expr.cast (Expr.send argument.ident "len" []) "u32").value? host writer
        = some (.int .u32 k) := by
      rw [value?_cast_int host (value?_length host (hdata himmediate)) rfl,
        IntType.isRoomy_u32.wrap (Nat.lt_of_le_of_lt hrequest hfits)]
    refine ⟨writer.set "count" (.int .u32 k), ?_, hrequest, fun _ _ => Scope.set_self _ _ _⟩
    rw [countBindings, himmediate]
    simp only [countBinding, Stmt.runAll?_singleton]
    exact run?_bind host hlength

/-! ## The handler -/

/-- A run-time count is stored as it was passed. -/
theorem IsLaidOut.stored_count (hlaid : command.IsLaidOut) {field : Nat}
    (hcount : command.count = some field) {host : Host support} {scope stored : Scope support}
    (hholds : command.Holds host scope stored) :
    stored "count" = scope countParam.name.spelling := by
  have hident := hlaid.fieldIdent_of_count hcount
  refine (hholds (.escaped "count") (.path false [.escaped "count"]) ?_).trans
    (Expr.value?_variable host scope _)
  refine List.mem_append_right _ (List.mem_map.mpr ⟨field, ?_, ?_⟩)
  · refine List.mem_append_left _ (List.mem_append_left _ ?_)
    rw [hcount]
    exact List.mem_cons_self
  · rw [CommandFormat.keep, hident]

/-- The handler knows the number of elements from the struct alone. -/
theorem IsSized.runAll?_counting (hsized : command.IsSized index size) (hlaid : command.IsLaidOut)
    (accepts : String → Value support → Bool) {scope fields stored : Scope support} {k : Nat}
    (hcalled : command.IsCalled scope fields) (hpasses : command.Passes size scope k)
    {host : Host support} (hholds : command.Holds host scope stored) {handler : Scope support}
    (hhandler : handler "c" = some (.record stored)) :
    ∃ next, Stmt.runAll? (Host.service command accepts) handler (Handler.counting command size)
        = some (.onward next) ∧
      (Handler.elementCount command size).value? (Host.service command accepts) next
        = some (.int support.usize k) := by
  rcases hpasses with ⟨hrequest, hcounted⟩
  cases hsized with
  | @fixed count hconstant hfits =>
    obtain rfl : k = count := hrequest
    exact ⟨handler, rfl, Host.constant_service accepts hconstant hfits (.inr rfl)⟩
  | @atMost max field hconstant hcount hfits =>
    have hstored : stored "count" = some (.int .u32 k) :=
      (hlaid.stored_count hcount hholds).trans (hcounted max rfl)
    have hcheck := Handler.runAll?_countCheck_atMost accepts hconstant hfits hhandler hstored
    have hle : k ≤ max := hrequest
    rw [if_pos hle] at hcheck
    refine ⟨handler, hcheck, ?_⟩
    have hread : (Handler.stored "count").value? (Host.service command accepts) handler
        = some (.int .u32 k) := value?_stored _ hhandler hstored
    rw [Handler.elementCount, value?_cast_int _ hread rfl,
      support.isRoomy_usize.wrap (Nat.lt_of_le_of_lt hle hfits)]
  | @counted counter units field counting hindex hcounting hbase hword hfits =>
    obtain ⟨n, hn, hpos, hlt, hk, hkfits⟩ := hrequest.int_lt
    obtain ⟨value, hvalue, hrestores⟩ :=
      restores_word hlaid hcalled hholds hcounting hword
    rw [argumentIdent_eq hcounting] at hn
    obtain rfl : value = .int .i32 n := Option.some.inj (hvalue.symm.trans hn)
    obtain ⟨decode, rest, hprepare, hdecode⟩ := hrestores accepts {} handler hhandler
    rw [Handler.prepare_of_word hword] at hprepare
    obtain rfl := (List.cons.inj hprepare).1
    have hident : command.argumentIdent counter = counting.ident := argumentIdent_eq hcounting
    have hname : (handler.set counting.ident.spelling (.int .i32 n))
        (command.argumentIdent counter).spelling = some (.int .i32 n) := by
      rw [hident, Scope.set_self]
    refine ⟨handler.set counting.ident.spelling (.int .i32 n), ?_,
      value?_countedUnits _ hname rfl support.isRoomy_usize hk hpos hlt hfits hkfits⟩
    rw [Handler.counting, Handler.readCounter, hcounting]
    change Stmt.runAll? _ handler (Handler.decode command counting .i32 :: _) = _
    rw [Stmt.runAll?, hdecode, Option.bind_some]
    change Stmt.runAll? _ _ (Handler.countCheck command _) = _
    rw [Handler.countCheck, Stmt.runAll?_singleton,
      run?_signCheck _ hname (Handler.runAll?_report _ _), if_neg (by omega)]

/-! ## Agreement -/

/-- No writer binds a run-time count unless it sends the data with the command. -/
theorem not_countsAgree {max : Nat} (hnone : command.immediate? = none) :
    ¬ command.CountsAgree argument (.atMost max) := by
  intro h
  -- The parameters of this call are no numbers, so none of them is a count.
  let writer : Scope modeSupport := fun name =>
    if name = "self" ∨ ∃ parameter ∈ command.writerParams, name = parameter.name.spelling then
      some (.boolean false)
    else none
  have hwriter : command.IsWriterScope writer := by
    intro name
    simp only [writer]
    split <;> simp_all
  have hrequest : command.Requests (.atMost max) writer 0 := Nat.zero_le max
  obtain ⟨bound, hrun, -, hpasses⟩ := h.written (fun _ _ => true) hwriter hrequest
    fun himmediate => by rw [hnone] at himmediate; cases himmediate
  rw [countBindings, hnone] at hrun
  cases hrun
  have hbound := (hpasses writer fun _ _ => rfl).2 max rfl
  simp only [writer] at hbound
  split at hbound <;> cases hbound

/-- The numbers agree unless a run-time count is missing from the writer. -/
theorem IsSized.countsAgree_iff (hsized : command.IsSized index size) (hlaid : command.IsLaidOut)
    (hnamed : command.IsNamed) (hsize : argument.layout.dataSize? = some size)
    (himmediate : command.immediate? = if command.transfer = .immediate then some (argument, size)
      else none) :
    command.CountsAgree argument size ↔
      ∀ max, size = .atMost max → command.transfer = .immediate := by
  constructor
  · intro h max hmax
    by_contra hsent
    rw [if_neg hsent] at himmediate
    subst hmax
    exact not_countsAgree himmediate h
  · intro htransfer
    exact {
      kept := by
        intro support host record scope k length hbounded hrequest hdata
        exact hsized.runAll?_keeping hsize hbounded host record hrequest hdata
      admitted := by
        rintro support host record scope max length rfl hdata
        exact hsized.runAll?_admitting hsize host record hdata
      written := by
        intro support accepts writer k hwriter hrequest hdata
        obtain ⟨bound, hrun, hpasses⟩ := hsized.exists_bound himmediate htransfer
          (Host.service command accepts) hrequest hdata
        exact ⟨bound, hrun, fun hsent => hsized.isSizedBy hsent accepts hpasses,
          fun scope hagree => hsized.passes_of_agree hlaid hpasses hagree⟩
      served := by
        intro support accepts scope fields k hcalled hpasses
        obtain ⟨stored, hrun, -, hholds⟩ :=
          hcalled.runAll?_assignments (Host.service command accepts) hlaid hnamed
        exact ⟨fun hsent => hsized.isSizedBy hsent accepts hpasses, stored, hrun,
          fun handler hhandler =>
            hsized.runAll?_counting hlaid accepts hcalled hpasses hholds hhandler⟩ }

end Command
end CommandBuffer
