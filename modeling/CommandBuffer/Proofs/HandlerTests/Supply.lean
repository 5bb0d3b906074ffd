import CommandBuffer.Proofs.CountAgreement
import CommandBuffer.Proofs.HandlerTests.Staging

/-! # What a test hands over

A test with valid arguments calls `init` with the variables that it has bound, with a test count
that is always the same, and with what its fixture gives. What the bound expressions stand for is up
to the support module. Every argument that counts data is handed over as the test count, and so is a
run-time count, so `init` stands for as many elements as the test data has.
-/

namespace CommandBuffer

open Code Success

variable {support : Support}

/-! ## Meanings -/

/-- What the support module makes of the expressions in a test. A cast keeps a number that its type
holds. -/
structure Meaning (support : Support) where
  value? : Expr → Option (Value support)
  value?_cast {type : Ty} {target : IntType} {n : Nat} :
    type.scalarType? support = some (.int target) → target.Holds n →
      value? (.cast (.number n) type) = some (.int target n)

/-- Numbers mean themselves, and other expressions nothing. -/
def Meaning.ofNumbers (support : Support) : Meaning support where
  value?
    | .cast source type =>
      match source.value? (.bare support) (fun _ => none), type.scalarType? support with
      | some (.number n), some (.int target) =>
        if target.Holds n then some (.int target n) else none
      | _, _ => none
    | _ => none
  value?_cast htype hholds := by
    simp only [Expr.value?_number, htype]
    exact if_pos hholds

namespace HandlerTests

/-- Every plain argument is bound to a value of its type. -/
def Setup.IsTyped (setup : Setup) (meaning : Meaning support) (command : Command) : Prop :=
  ∀ (index : Nat) (argument : Argument) (source : Expr),
    command.arguments[index]? = some argument → argument.param.type.isPointer = false →
    setup.Binds command index source →
    ∃ value, meaning.value? source = some value ∧ argument.Takes value

/-- The test calls `init` with the value: with what it has bound, with a number, or with an address
or a bucket that the fixture gives. -/
def Hands (meaning : Meaning support) (command : Command) (setup : Setup) (param : InitParam)
    (value : Value support) : Prop :=
  match param.source with
  | .argument index => ∃ source, setup.Binds command index source ∧
      meaning.value? source = some value
  | .count | .clientId => ∃ n, initArgument param = .number n ∧ value = .int .u32 n
  | .shmId _ | .shmOffset _ | .bucketId _ | .resultId | .resultOffset => value.HasType (.int .u32)

/-! ## The call of `init` -/

theorem number_inj {n m : Nat} (h : Expr.number n = Expr.number m) : n = m := by
  have hvalue := Expr.value?_number (.bare modeSupport) (fun _ => none) n
  rw [h, Expr.value?_number] at hvalue
  exact (Value.number.inj (Option.some.inj hvalue)).symm

theorem exists_forall₂ {α β : Type} {related : α → β → Prop} {items : List α}
    (h : ∀ item ∈ items, ∃ image, related item image) :
    ∃ images, List.Forall₂ related items images := by
  induction items with
  | nil => exact ⟨[], .nil⟩
  | cons first rest ih =>
    obtain ⟨image, himage⟩ := h first List.mem_cons_self
    obtain ⟨images, himages⟩ := ih fun item hitem => h item (List.mem_cons_of_mem _ hitem)
    exact ⟨image :: images, .cons himage himages⟩

/-- The value of a field in a fresh struct. -/
def zero (support : Support) : StorageType → Value support
  | .u32 => .int .u32 0
  | .i32 => .int .i32 0
  | .f32 => .float 0

/-- A fresh struct. -/
theorem exists_struct {command : Command} (hlaid : command.IsLaidOut) (hnamed : command.IsNamed) :
    ∃ fields : Scope support, command.IsStruct fields := by
  refine ⟨Scope.setAll (fun _ => none) (command.fields.map fun field =>
    ((Name.escaped field.name).spelling, zero support field.type)), fun field hfield => ?_⟩
  have hnodup : ((command.fields.map fun field =>
      ((Name.escaped field.name).spelling, zero support field.type)).map Prod.fst).Nodup := by
    rw [List.map_map]
    exact hnamed.nodup_spelling hlaid
  rw [Scope.setAll_of_mem hnodup (List.mem_map.mpr ⟨field, hfield, rfl⟩)]
  cases field.type <;> rfl

section

variable {registry : Registry} {command : Command} {setup : Setup} {index : Nat}
  {argument : Argument} {meaning : Meaning support} {scope stored fields : Scope support}
  {values : List (Value support)} {validators : ValidatorSet}

theorem hands_number {param : InitParam} {n : Nat} {value : Value support}
    (h : Hands meaning command setup param value)
    (hsource : param.source = .count ∨ param.source = .clientId)
    (hargument : initArgument param = .number n) : value = .int .u32 n := by
  unfold Hands at h
  rcases hsource with hsource | hsource <;>
  · simp only [hsource] at h
    obtain ⟨m, hm, rfl⟩ := h
    rw [number_inj (hm.symm.trans hargument)]

/-- What the test calls `init` with is of the types of the parameters. -/
theorem accepts_of_hands (hlaid : command.IsLaidOut) (htyped : setup.IsTyped meaning command)
    {param : InitParam} {value : Value support} (hparam : param ∈ command.initParams)
    (h : Hands meaning command setup param value) : command.Accepts param value := by
  cases hsource : param.source with
  | argument index =>
    simp only [Hands, hsource] at h
    obtain ⟨source, hbinds, hvalue⟩ := h
    obtain ⟨argument, hargument, hscalar, -⟩ := hlaid.exists_argument_of_source hparam hsource
    obtain ⟨typed, hsame, htakes⟩ := htyped index argument source hargument hscalar hbinds
    cases hsame.symm.trans hvalue
    simp only [Command.Accepts, hsource]
    exact ⟨argument, hargument, htakes⟩
  | count =>
    rw [hands_number h (.inl hsource) (by rw [initArgument, hsource]), Command.Accepts, hsource]
    exact ⟨rfl, by decide⟩
  | clientId =>
    rw [hands_number h (.inr hsource) (by rw [initArgument, hsource]), Command.Accepts, hsource]
    exact ⟨rfl, by decide⟩
  | shmId | shmOffset | bucketId | resultId | resultOffset =>
    simp only [Hands, hsource] at h
    simpa only [Command.Accepts, hsource] using h

theorem exists_hands (hlaid : command.IsLaidOut)
    (hstaged : stageAll registry command 0 command.arguments {} = .ok (some setup))
    (htyped : setup.IsTyped meaning command) :
    ∃ values, List.Forall₂ (Hands meaning command setup) command.initParams values := by
  refine exists_forall₂ fun param hparam => ?_
  cases hsource : param.source with
  | argument index =>
    obtain ⟨argument, hargument, hscalar, -⟩ := hlaid.exists_argument_of_source hparam hsource
    obtain ⟨source, -, hbinds⟩ := exists_binds hstaged hlaid hargument hscalar
    obtain ⟨value, hvalue, -⟩ := htyped index argument source hargument hscalar hbinds
    exact ⟨value, by simpa only [Hands, hsource] using ⟨source, hbinds, hvalue⟩⟩
  | count =>
    refine ⟨.int .u32 testCount, ?_⟩
    simp only [Hands, hsource]
    exact ⟨testCount, by rw [initArgument, hsource], rfl⟩
  | clientId =>
    refine ⟨.int .u32 clientId, ?_⟩
    simp only [Hands, hsource]
    exact ⟨clientId, by rw [initArgument, hsource], rfl⟩
  | shmId | shmOffset | bucketId | resultId | resultOffset =>
    refine ⟨.int .u32 0, ?_⟩
    simp only [Hands, hsource]
    exact ⟨rfl, by decide⟩

/-- Every parameter of `init` is bound to what the test calls it with. -/
def Supplied (meaning : Meaning support) (command : Command) (setup : Setup)
    (scope : Scope support) : Prop :=
  ∀ param ∈ command.initParams, ∃ value, scope param.name.spelling = some value ∧
    Hands meaning command setup param value

theorem supplied_initScope (hlaid : command.IsLaidOut) (hnamed : command.IsNamed)
    (hdistinct : (command.initParams.map InitParam.name).Nodup)
    (htyped : setup.IsTyped meaning command) (hstruct : command.IsStruct fields)
    (hvalues : List.Forall₂ (Hands meaning command setup) command.initParams values) :
    command.IsCalled (command.initScope fields values) fields ∧
      Supplied meaning command setup (command.initScope fields values) := by
  obtain ⟨hlength, hhands⟩ := List.forall₂_iff_zip.mp hvalues
  obtain ⟨hcalled, hbound⟩ := Command.isCalled_initScope hlaid hnamed hdistinct hstruct
    (List.forall₂_iff_zip.mpr ⟨hlength, fun hmem =>
      accepts_of_hands hlaid htyped (List.of_mem_zip hmem).1 (hhands hmem)⟩)
  refine ⟨hcalled, fun param hparam => ?_⟩
  obtain ⟨value, hmem, hvalue⟩ := hbound param hparam
  exact ⟨value, hvalue, hhands hmem⟩

/-- A plain argument of `init` is the value that the test has bound for it. -/
theorem Supplied.exists_bound (h : Supplied meaning command setup scope)
    (hlaid : command.IsLaidOut) (hargument : command.arguments[index]? = some argument)
    (hscalar : argument.param.type.isPointer = false) :
    ∃ source value, setup.Binds command index source ∧ meaning.value? source = some value ∧
      scope argument.ident.spelling = some value := by
  obtain ⟨value, hvalue, source, hbinds, hsource⟩ := h _ (hlaid.param_of_scalar hargument hscalar)
  exact ⟨source, value, hbinds, hsource, hvalue⟩

/-- The run-time count is the test count. -/
theorem Supplied.count (h : Supplied meaning command setup scope) {field : Nat}
    (hcount : command.count = some field) :
    scope Command.countParam.name.spelling = some (.int .u32 testCount) := by
  have hparam : Command.countParam ∈ command.initParams := by
    refine List.mem_append_right _ (List.mem_append_left _ (List.mem_append_left _
      (List.mem_append_left _ ?_)))
    rw [hcount]
    exact List.mem_cons_self
  obtain ⟨value, hvalue, hhands⟩ := h Command.countParam hparam
  rw [hvalue, hands_number hhands (.inl rfl) rfl]

/-! ## Counts -/

/-- An argument that counts data is a signed one-word number. -/
theorem exists_counting (hlaid : command.IsLaidOut) (h : command.isCounting index = true) :
    ∃ argument field, command.arguments[index]? = some argument ∧ argument.base = "GLsizei" ∧
      argument.layout = .word field .i32 := by
  obtain ⟨data, hdata, hcounted⟩ := List.any_eq_true.mp h
  split at hcounted
  · rename_i counter units hsize
    obtain ⟨position, hposition⟩ := List.getElem?_of_mem hdata
    rw [← beq_iff_eq.mp hcounted]
    exact hlaid.counter_of_countedBy? (hlaid.countedBy?_of_counted hposition hsize)
  · cases hcounted

theorem isCounting_of_counted {counter units : Nat}
    (hargument : command.arguments[index]? = some argument)
    (hsize : argument.layout.dataSize? = some (.counted counter units)) :
    command.isCounting counter = true := by
  refine List.any_eq_true.mpr ⟨argument, List.mem_of_getElem? hargument, ?_⟩
  rw [hsize]
  exact beq_self_eq_true counter

/-- Whatever counts data is bound to the test count. -/
theorem value?_of_isCounting (hlaid : command.IsLaidOut)
    (hstaged : stageAll registry command 0 command.arguments {} = .ok (some setup))
    (hargument : command.arguments[index]? = some argument)
    (hcounting : command.isCounting index = true) {source : Expr}
    (hbinds : setup.Binds command index source) :
    meaning.value? source = some (.int .i32 testCount) := by
  obtain ⟨found, field, hfound, hbase, hword⟩ := exists_counting hlaid hcounting
  cases hfound.symm.trans hargument
  have hscalar := ScalarKind.isPointer_of_ofType? (hlaid.kind_of_word hargument hword).1
  obtain ⟨value, hvalue, hown⟩ := exists_binds hstaged hlaid hargument hscalar
  rw [testValue?_of_isCounting hcounting] at hvalue
  cases hvalue
  rw [hbinds.eq hown]
  refine meaning.value?_cast ?_ (by decide)
  rw [Argument.valueType, hbase]
  rfl

/-- `init` stands for as many elements as the test has. -/
theorem Supplied.passes {size : DataSize} (h : Supplied meaning command setup scope)
    (hlaid : command.IsLaidOut)
    (hstaged : stageAll registry command 0 command.arguments {} = .ok (some setup))
    (hargument : command.arguments[index]? = some argument)
    (hsize : argument.layout.dataSize? = some size) (hsized : command.IsSized index size)
    (hbounded : ∀ max, size = .atMost max → testCount ≤ max) (hfits : size.testLength < 2 ^ 32) :
    command.Passes size scope size.testLength := by
  cases hsized with
  | fixed hconstant hcount => exact ⟨rfl, by simp⟩
  | @atMost max field hconstant hcount hmax =>
    exact ⟨hbounded max rfl, fun _ _ => h.count hcount⟩
  | @counted counter units field counting hindex hcounting hbase hword hunits =>
    have hscalar := ScalarKind.isPointer_of_ofType? (hlaid.kind_of_word hcounting hword).1
    obtain ⟨source, value, hbinds, hsource, hvalue⟩ := h.exists_bound hlaid hcounting hscalar
    have hcount : meaning.value? source = some (.int .i32 testCount) :=
      value?_of_isCounting hlaid hstaged hcounting (isCounting_of_counted hargument hsize) hbinds
    cases hsource.symm.trans hcount
    rw [← Command.argumentIdent_eq hcounting] at hvalue
    exact ⟨⟨testCount, hvalue, by decide, by decide, by
      rw [DataSize.testLength]; push_cast; rfl, hfits⟩, by simp⟩

end

end HandlerTests
end CommandBuffer
