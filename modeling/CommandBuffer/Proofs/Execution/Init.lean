import CommandBuffer.Proofs.Execution.Assignments
import CommandBuffer.Proofs.Execution.Scalars
import CommandBuffer.Proofs.Partition

/-! # Running `init`

The assignments of `init` are run on a struct with typed fields, with every parameter
bound to a value of its type. They succeed, and every field then holds what its
parameter was turned into.
-/

namespace CommandBuffer

open Code

variable {support : Support} {command : Command}

namespace Command

/-! ## Names -/

/-- No name of an argument can be mistaken for an escaped keyword. -/
def IsNamed (command : Command) : Prop :=
  ∀ argument ∈ command.arguments, Name.IsUnmarked argument.name

theorem IsNamed.mapping (h : command.IsNamed) {argument : Argument}
    (hargument : argument ∈ command.arguments) :
    ∀ field ∈ argument.mapping, Name.IsUnmarked field.name := by
  have hname := h argument hargument
  unfold Argument.mapping
  cases argument.layout with
  | word field kind => simpa using hname
  | split low high => simpa using ⟨hname.append (by decide), hname.append (by decide)⟩
  | shm id offset size => simpa using ⟨hname.append (by decide), hname.append (by decide)⟩
  | bucket id size => simpa using hname.append (by decide)
  | immediate size => simp
  | result id offset =>
    have hresult : ∀ field ∈ resultMapping, Name.IsUnmarked field.name := by decide
    exact hresult

theorem isUnmarked_trailingMapping (command : Command) :
    ∀ field ∈ command.trailingMapping, Name.IsUnmarked field.name := by
  intro field hfield
  simp only [trailingMapping, List.mem_append, List.mem_map, List.mem_flatMap] at hfield
  have hresult : ∀ field ∈ resultMapping, Name.IsUnmarked field.name := by decide
  rcases hfield with (⟨_, -, rfl⟩ | ⟨_, -, hmem⟩) | ⟨_, -, rfl⟩
  · decide
  · exact hresult field hmem
  · decide

theorem IsNamed.fields (h : command.IsNamed) (hlaid : command.IsLaidOut) :
    ∀ field ∈ command.fields, Name.IsUnmarked field.name := by
  intro field hfield
  rw [hlaid.fields] at hfield
  rcases List.mem_append.mp hfield with hmem | hmem
  · obtain ⟨argument, hargument, hmem⟩ := List.mem_flatMap.mp hmem
    exact h.mapping hargument field hmem
  · exact command.isUnmarked_trailingMapping field hmem

theorem IsNamed.fieldName (h : command.IsNamed) (hlaid : command.IsLaidOut) (index : Nat) :
    Name.IsUnmarked (command.fieldName index) := by
  unfold Command.fieldName
  cases hfield : command.fields[index]? with
  | none => decide
  | some field => exact h.fields hlaid field (List.mem_of_getElem? hfield)

/-- The fields are different bindings, not only different texts. -/
theorem IsNamed.nodup_spelling (h : command.IsNamed) (hlaid : command.IsLaidOut) :
    (command.fields.map fun field => (Name.escaped field.name).spelling).Nodup := by
  have hnodup := hlaid.nodup
  rw [List.Nodup, List.pairwise_map] at hnodup ⊢
  apply hnodup.imp_of_mem
  intro first second hfirst hsecond hne hsame
  exact hne (Name.escaped_spelling_inj (h.fields hlaid _ hfirst) (h.fields hlaid _ hsecond) hsame)

/-! ## Calls -/

/-- The value belongs to the type of the parameter. -/
def Accepts (command : Command) (param : InitParam) (value : Value support) : Prop :=
  match param.source with
  | .argument index => ∃ argument, command.arguments[index]? = some argument ∧ argument.Takes value
  | _ => value.HasType (.int .u32)

/-- The struct has the fields of the command, with values of their types. -/
def IsStruct (command : Command) (fields : Scope support) : Prop :=
  ∀ field ∈ command.fields,
    (fields (Name.escaped field.name).spelling).bind Value.type? = some field.type.scalarType

/-- The scope of a call of `init` on a struct. -/
structure IsCalled (command : Command) (scope fields : Scope support) : Prop where
  self : scope "self" = some (.record fields)
  struct : command.IsStruct fields
  params : ∀ param ∈ command.initParams,
    ∃ value, scope param.name.spelling = some value ∧ command.Accepts param value

variable {scope fields : Scope support} (host : Host support)

theorem IsStruct.exists_value (h : command.IsStruct fields) {index : Nat} {field : Field}
    (hfield : command.fields[index]? = some field) :
    ∃ old, fields (command.fieldIdent index).spelling = some old ∧
      old.type? = some field.type.scalarType := by
  have htype := h field (List.mem_of_getElem? hfield)
  rw [fieldIdent, Command.fieldName, hfield]
  obtain ⟨old, hold, hscalar⟩ := Option.bind_eq_some_iff.mp htype
  exact ⟨old, hold, hscalar⟩

/-- A parameter that is not an argument is kept in the field of its name. -/
theorem IsCalled.isStore_keep (h : command.IsCalled scope fields) {field : Nat} {name : String}
    (hfield : command.fields[field]? = some ⟨name, .u32⟩) {param : InitParam}
    (hparam : param ∈ command.initParams) (hname : param.name = command.fieldIdent field)
    (hsource : ∀ index, param.source ≠ .argument index) :
    Stmt.IsStore host scope fields (CommandFormat.keep command field) := by
  obtain ⟨old, hold, htype⟩ := h.struct.exists_value hfield
  obtain ⟨value, hvalue, haccepts⟩ := h.params param hparam
  have hu32 : value.HasType (.int .u32) := by
    unfold Accepts at haccepts
    split at haccepts
    · rename_i index hindex
      exact absurd hindex (hsource index)
    · exact haccepts
  refine .intro hold ((Expr.value?_variable host scope _).trans (hname ▸ hvalue)) ?_ ?_
  · rw [htype, Value.type?_of_hasType hu32]
    rfl
  · intro hself
    exact Name.escaped_spelling_ne_self _ (List.mem_singleton.mp hself).symm

/-- A scalar argument is called with a value that its kind carries. -/
theorem IsCalled.carries (h : command.IsCalled scope fields) (hlaid : command.IsLaidOut)
    {index : Nat} {argument : Argument} (hargument : command.arguments[index]? = some argument)
    {kind : ScalarKind} (hkind : ScalarKind.ofType? argument.param.type = some kind) :
    ∃ value, scope argument.ident.spelling = some value ∧ argument.Carries kind value := by
  have hparam := hlaid.param_of_scalar hargument (ScalarKind.isPointer_of_ofType? hkind)
  obtain ⟨value, hvalue, found, hfound, htakes⟩ := h.params _ hparam
  obtain rfl : argument = found := Option.some.inj (hargument.symm.trans hfound)
  exact ⟨value, hvalue, htakes.carries hkind⟩

/-- The field of a word has the name of its argument and the storage type of its kind. -/
theorem IsLaidOut.field_of_word (hlaid : command.IsLaidOut) {argument : Argument}
    (hmem : argument ∈ command.arguments) {field : Nat} {kind : ScalarKind}
    (hlayout : argument.layout = .word field kind) :
    command.fields[field]? = some ⟨argument.name, kind.storage⟩ := by
  have hblock := hlaid.blocks argument hmem
  rw [Argument.mapping, hlayout] at hblock
  exact (List.cons.inj hblock).1

theorem IsLaidOut.fields_of_split (hlaid : command.IsLaidOut) {argument : Argument}
    (hmem : argument ∈ command.arguments) {low high : Nat}
    (hlayout : argument.layout = .split low high) :
    command.fields[low]? = some ⟨argument.name ++ "_0", .u32⟩ ∧
      command.fields[high]? = some ⟨argument.name ++ "_1", .u32⟩ := by
  have hblock := hlaid.blocks argument hmem
  rw [Argument.mapping, hlayout] at hblock
  obtain ⟨hlow, hrest⟩ := List.cons.inj hblock
  exact ⟨hlow, (List.cons.inj hrest).1⟩

theorem store_of_split {argument : Argument} {low high : Nat}
    (hlayout : argument.layout = .split low high) :
    CommandFormat.store command argument
      = [.assign (CommandFormat.ownField (command.fieldIdent low)) (lowWord argument.ident),
        .assign (CommandFormat.ownField (command.fieldIdent high)) (highWord argument.ident)] := by
  rw [CommandFormat.store, hlayout]
  rfl

theorem store_of_word (hlaid : command.IsLaidOut) {argument : Argument}
    (hmem : argument ∈ command.arguments) {field : Nat} {kind : ScalarKind}
    (hlayout : argument.layout = .word field kind) :
    CommandFormat.store command argument
      = [.assign (CommandFormat.ownField argument.ident)
        (encodeWord argument.ident kind kind.storage)] := by
  have hfield := hlaid.field_of_word hmem hlayout
  have hident : command.fieldIdent field = argument.ident := by
    rw [fieldIdent, Command.fieldName, hfield]
    rfl
  rw [CommandFormat.store, hlayout]
  simp only [hident, fieldType, hfield]
  rfl

variable {index : Nat} {argument : Argument}

theorem IsCalled.isStore_word (h : command.IsCalled scope fields) (hlaid : command.IsLaidOut)
    (hargument : command.arguments[index]? = some argument) {field : Nat} {kind : ScalarKind}
    (hlayout : argument.layout = .word field kind) :
    Stmt.IsStore host scope fields (.assign (CommandFormat.ownField argument.ident)
      (encodeWord argument.ident kind kind.storage)) := by
  have hmem := List.mem_of_getElem? hargument
  have hfield := hlaid.field_of_word hmem hlayout
  obtain ⟨hkind, hnarrow⟩ := hlaid.kind_of_word hargument hlayout
  obtain ⟨value, hvalue, hcarries⟩ := h.carries hlaid hargument hkind
  obtain ⟨word, hword⟩ := hcarries.exists_word hnarrow
  obtain ⟨old, hold, htype⟩ := h.struct.exists_value hfield
  rw [fieldIdent, Command.fieldName, hfield] at hold
  apply Stmt.IsStore.intro hold (hword.encode host scope hvalue) (htype.trans hword.type.symm)
  intro hself
  rw [reads_encodeWord] at hself
  exact Name.escaped_spelling_ne_self _ (List.mem_singleton.mp hself).symm

theorem IsCalled.isStore_split (h : command.IsCalled scope fields) (hlaid : command.IsLaidOut)
    (hargument : command.arguments[index]? = some argument) {low high : Nat}
    (hlayout : argument.layout = .split low high) :
    Stmt.IsStore host scope fields
        (.assign (CommandFormat.ownField (command.fieldIdent low)) (lowWord argument.ident)) ∧
      Stmt.IsStore host scope fields
        (.assign (CommandFormat.ownField (command.fieldIdent high)) (highWord argument.ident)) := by
  obtain ⟨hlow, hhigh⟩ := hlaid.fields_of_split (List.mem_of_getElem? hargument) hlayout
  have hkind := hlaid.kind_of_split hargument hlayout
  obtain ⟨value, hvalue, hcarries⟩ := h.carries hlaid hargument hkind
  obtain ⟨type, n, rfl, htype, hwidth, hn⟩ := hcarries.exists_wide
  obtain ⟨oldLow, holdLow, htypeLow⟩ := h.struct.exists_value hlow
  obtain ⟨oldHigh, holdHigh, htypeHigh⟩ := h.struct.exists_value hhigh
  have hident : (Expr.path false [argument.ident]).value? host scope = some (.int type n) :=
    (Expr.value?_variable host scope _).trans hvalue
  have hself : "self" ∉ [argument.ident.spelling] := by
    intro hself
    exact Name.escaped_spelling_ne_self _ (List.mem_singleton.mp hself).symm
  exact ⟨.intro holdLow (value?_lowWord host hident) htypeLow hself,
    .intro holdHigh (value?_highWord host hident) htypeHigh hself⟩

/-- Two parameters of the same names as their fields are kept. -/
theorem IsCalled.isStore_pair (h : command.IsCalled scope fields) {first second : Nat}
    {firstName secondName : String} {firstSource secondSource : InitSource}
    (hfields : [command.fields[first]?, command.fields[second]?]
      = [some ⟨firstName, .u32⟩, some ⟨secondName, .u32⟩])
    (hparams : [InitParam.unsigned (command.fieldName first) firstSource,
      .unsigned (command.fieldName second) secondSource] ⊆ command.initParams)
    (hfirst : ∀ index, firstSource ≠ .argument index)
    (hsecond : ∀ index, secondSource ≠ .argument index) :
    ∀ stmt ∈ [CommandFormat.keep command first, CommandFormat.keep command second],
      Stmt.IsStore host scope fields stmt := by
  obtain ⟨hfirstField, hrest⟩ := List.cons.inj hfields
  intro stmt hstmt
  rcases List.mem_cons.mp hstmt with rfl | hstmt
  · exact h.isStore_keep host hfirstField (hparams List.mem_cons_self) rfl hfirst
  · rw [List.mem_singleton.mp hstmt]
    exact h.isStore_keep host (List.cons.inj hrest).1
      (hparams (List.mem_cons_of_mem _ List.mem_cons_self)) rfl hsecond

/-- Every statement that stores an argument succeeds. -/
theorem IsCalled.isStore_store (h : command.IsCalled scope fields) (hlaid : command.IsLaidOut)
    (hargument : command.arguments[index]? = some argument) :
    ∀ stmt ∈ CommandFormat.store command argument, Stmt.IsStore host scope fields stmt := by
  have hmem := List.mem_of_getElem? hargument
  have hblock := hlaid.blocks argument hmem
  have hparams := IsLaidOut.argumentParams_subset hargument
  cases hlayout : argument.layout with
  | word field kind =>
    rw [store_of_word hlaid hmem hlayout]
    intro stmt hstmt
    rw [List.mem_singleton.mp hstmt]
    exact h.isStore_word host hlaid hargument hlayout
  | split low high =>
    rw [store_of_split hlayout]
    obtain ⟨hlow, hhigh⟩ := h.isStore_split host hlaid hargument hlayout
    intro stmt hstmt
    rcases List.mem_cons.mp hstmt with rfl | hstmt
    · exact hlow
    · rw [List.mem_singleton.mp hstmt]
      exact hhigh
  | shm id offset size =>
    rw [Argument.mapping, hlayout] at hblock
    rw [argumentParams, hlayout] at hparams
    rw [CommandFormat.store, hlayout]
    exact h.isStore_pair host hblock hparams (by simp) (by simp)
  | result id offset =>
    rw [Argument.mapping, hlayout] at hblock
    rw [argumentParams, hlayout] at hparams
    rw [CommandFormat.store, hlayout]
    exact h.isStore_pair host hblock hparams (by simp) (by simp)
  | bucket id size =>
    rw [Argument.mapping, hlayout] at hblock
    rw [argumentParams, hlayout] at hparams
    rw [CommandFormat.store, hlayout]
    intro stmt hstmt
    rw [List.mem_singleton.mp hstmt]
    exact h.isStore_keep host (List.cons.inj hblock).1 (hparams List.mem_cons_self) rfl
      (by simp [InitParam.unsigned])
  | immediate size =>
    rw [CommandFormat.store, hlayout]
    intro stmt hstmt
    cases hstmt

/-! ## The whole run -/

theorem IsCalled.isStore_trailing (h : command.IsCalled scope fields) (hlaid : command.IsLaidOut) :
    ∀ stmt ∈ command.trailingFields.map (CommandFormat.keep command),
      Stmt.IsStore host scope fields stmt := by
  have hparams : ∀ param, param ∈ (command.count.map fun _ => countParam).toList
      ++ command.result.toList.flatMap (fun r =>
        [InitParam.unsigned (command.fieldName r.id) .resultId,
          .unsigned (command.fieldName r.offset) .resultOffset])
      ++ (command.clientId.map fun id =>
        InitParam.unsigned (command.fieldName id) .clientId).toList →
      param ∈ command.initParams :=
    fun _ hparam => List.mem_append_right _ (List.mem_append_left _ hparam)
  intro stmt hstmt
  obtain ⟨field, hfield, rfl⟩ := List.mem_map.mp hstmt
  rcases List.mem_append.mp hfield with hfield | hclient
  · rcases List.mem_append.mp hfield with hcount | hresult
    · have hsome := Option.mem_toList.mp hcount
      refine h.isStore_keep host (hlaid.field_of_count hsome) (hparams countParam ?_)
        (hlaid.fieldIdent_of_count hsome).symm (by simp [countParam, InitParam.unsigned])
      rw [hsome]
      exact List.mem_append_left _ (List.mem_append_left _ List.mem_cons_self)
    · obtain ⟨result, hmem, hfield⟩ := List.mem_flatMap.mp hresult
      have hsome := Option.mem_toList.mp hmem
      have hpair : [InitParam.unsigned (command.fieldName result.id) .resultId,
          .unsigned (command.fieldName result.offset) .resultOffset] ⊆ command.initParams := by
        intro param hparam
        refine hparams param (List.mem_append_left _ (List.mem_append_right _ ?_))
        exact List.mem_flatMap.mpr ⟨result, hmem, hparam⟩
      exact h.isStore_pair host (hlaid.fields_of_result hsome) hpair (by simp) (by simp) _
        (List.mem_map_of_mem (l := [result.id, result.offset]) hfield)
  · have hsome := Option.mem_toList.mp hclient
    refine h.isStore_keep host (hlaid.field_of_clientId hsome)
      (hparams (.unsigned (command.fieldName field) .clientId) ?_) rfl
      (by simp [InitParam.unsigned])
    rw [hsome]
    exact List.mem_append_right _ List.mem_cons_self

theorem IsCalled.isStore_assignments (h : command.IsCalled scope fields)
    (hlaid : command.IsLaidOut) :
    ∀ stmt ∈ CommandFormat.assignments command, Stmt.IsStore host scope fields stmt := by
  intro stmt hstmt
  rcases List.mem_append.mp hstmt with hargument | htrailing
  · obtain ⟨argument, hmem, hstore⟩ := List.mem_flatMap.mp hargument
    obtain ⟨index, hindex⟩ := List.getElem?_of_mem hmem
    exact h.isStore_store host hlaid hindex stmt hstore
  · exact h.isStore_trailing host hlaid stmt htrailing

/-- The name of the field that is assigned. -/
def targetName? : Option Expr → Option String
  | some (.field _ name) => some name.spelling
  | _ => none

theorem targetName?_assignedTo? (stmt : Stmt) :
    targetName? (assignedTo? stmt) = Stmt.storedName? stmt := by
  unfold Stmt.storedName? assignedTo? storedFrom?
  cases stmt with
  | assign target value => cases target <;> rfl
  | _ => rfl

theorem IsNamed.nodup_storedName? (hnamed : command.IsNamed) (hlaid : command.IsLaidOut) :
    ((CommandFormat.assignments command).map Stmt.storedName?).Nodup := by
  have hstored : (CommandFormat.assignments command).map Stmt.storedName?
      = (command.fields.map fun field => (Name.escaped field.name).spelling).map some := by
    have htargets := congrArg (List.map targetName?) hlaid.targets_assignments
    rw [List.map_map, List.map_map] at htargets
    rw [List.map_map]
    exact (List.map_congr_left fun stmt _ => (targetName?_assignedTo? stmt).symm).trans htargets
  rw [hstored]
  exact (hnamed.nodup_spelling hlaid).map (Option.some_injective _)

/-- The struct holds what the assignments of `init` assign. -/
def Holds (command : Command) (host : Host support) (scope stored : Scope support) : Prop :=
  ∀ name source, .assign (CommandFormat.ownField name) source ∈ CommandFormat.assignments command →
    stored name.spelling = source.value? host scope

/-- `init` stores the value of every assignment, and the struct keeps its types. -/
theorem IsCalled.runAll?_assignments (h : command.IsCalled scope fields)
    (hlaid : command.IsLaidOut) (hnamed : command.IsNamed) :
    ∃ stored, Stmt.runAll? host scope (CommandFormat.assignments command)
        = some (.onward (scope.set "self" (.record stored))) ∧
      command.IsStruct stored ∧ command.Holds host scope stored := by
  obtain ⟨stored, hrun, hstored, -, htypes⟩ := Stmt.runAll?_stores host h.self
    (hnamed.nodup_storedName? hlaid) (h.isStore_assignments host hlaid)
  refine ⟨stored, hrun, ?_, hstored⟩
  intro field hfield
  rw [htypes]
  exact h.struct field hfield

end Command
end CommandBuffer
