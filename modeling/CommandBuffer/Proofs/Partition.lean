import CommandBuffer.Artifact.CommandFormat
import CommandBuffer.Proofs.Planning
import CommandBuffer.Proofs.Reads
import Mathlib.Data.List.Basic

/-! # The partition of the fields

The layouts of a planned command cut its fields into consecutive blocks, and `init`
follows the same order: each of its parameters covers a block, and the assignments
store every field once, from the parameter that covers it.
-/

namespace CommandBuffer

open Code

theorem flatMap_zipIdx {α β : Type} (items : List α) (f : α → List β) :
    items.zipIdx.flatMap (fun item => f item.1) = items.flatMap f := by
  conv_rhs => rw [← List.zipIdx_map_fst 0 items]
  rw [List.flatMap_map]

/-! ## What a parameter covers -/

namespace Command

/-- The fields of the result, whether an argument or the command asks for them. -/
def resultFields? (command : Command) : Option ResultFields :=
  command.result <|> command.arguments.findSome? fun argument =>
    match argument.layout with
    | .result id offset => some ⟨id, offset⟩
    | _ => none

/-- The fields of the argument at a position. -/
def argumentFields (command : Command) (index : Nat) : List Nat :=
  ((command.arguments[index]?).map (·.layout.fields)).getD []

/-- The fields that an `init` parameter with a source is stored in. -/
def covered (command : Command) : InitSource → List Nat
  | .argument index => command.argumentFields index
  | .shmId index | .bucketId index => (command.argumentFields index).take 1
  | .shmOffset index => (command.argumentFields index).drop 1
  | .resultId => command.resultFields?.toList.map (·.id)
  | .resultOffset => command.resultFields?.toList.map (·.offset)
  | .count => command.count.toList
  | .clientId => command.clientId.toList

end Command

/-! ## What an assignment stores -/

/-- The target of an assignment, and the variables of its value. -/
def storedFrom? : Stmt → Option (Expr × List String)
  | .assign target value => some (target, value.reads)
  | _ => none

/-- The target of an assignment. -/
def assignedTo? (stmt : Stmt) : Option Expr := (storedFrom? stmt).map Prod.fst

namespace Command

/-- A field of the command struct, stored from a variable. -/
def storedField (command : Command) (source : Name) (field : Nat) :
    Option (Expr × List String) :=
  some (CommandFormat.ownField (command.fieldIdent field), [source.spelling])

/-- The stores of a parameter into the fields that it covers. -/
def storedParam (command : Command) (param : InitParam) : List (Option (Expr × List String)) :=
  (command.covered param.source).map (command.storedField param.name)

theorem reads_encodeWord (name : Name) (kind : ScalarKind) (storage : StorageType) :
    (encodeWord name kind storage).reads = [name.spelling] := by
  cases kind <;> rfl

theorem storedFrom?_keep (command : Command) (field : Nat) :
    storedFrom? (CommandFormat.keep command field)
      = command.storedField (command.fieldIdent field) field := rfl

theorem argumentIdent_eq {command : Command} {index : Nat} {argument : Argument}
    (hargument : command.arguments[index]? = some argument) :
    command.argumentIdent index = argument.ident := by
  rw [argumentIdent, argumentName, hargument]
  rfl

namespace IsLaidOut

variable {command : Command} {index : Nat} {argument : Argument}

theorem argumentFields_eq (hargument : command.arguments[index]? = some argument) :
    command.argumentFields index = argument.layout.fields := by
  rw [argumentFields, hargument]
  rfl

/-- A getter has one result: that of its last argument. -/
theorem last_of_result (h : command.IsLaidOut) {id offset : Nat}
    (hargument : command.arguments[index]? = some argument)
    (hlayout : argument.layout = .result id offset) :
    command.record.strategy = .getN ∧ index + 1 = command.arguments.length := by
  have hchosen := h.chosen index argument hargument
  rw [hlayout] at hchosen
  cases hchosen with
  | result hpointer hresult =>
    rw [Record.isResult, Bool.and_eq_true, beq_iff_eq, beq_iff_eq] at hresult
    rw [h.length_arguments]
    exact hresult
  | data hpointer hresult hsize hlayout htransfer => cases hlayout

theorem resultFields?_of_argument (h : command.IsLaidOut) {id offset : Nat}
    (hargument : command.arguments[index]? = some argument)
    (hlayout : argument.layout = .result id offset) :
    command.resultFields? = some ⟨id, offset⟩ := by
  obtain ⟨hstrategy, hlast⟩ := h.last_of_result hargument hlayout
  have hnone : command.result = none := by
    have hanswered := h.answered
    rw [hstrategy] at hanswered
    simpa using hanswered.trans (by decide : _ = false)
  rw [resultFields?, hnone]
  change List.findSome? _ command.arguments = _
  cases hfound : command.arguments.findSome? _ with
  | none =>
    have hmissing := List.findSome?_eq_none_iff.mp hfound argument (List.mem_of_getElem? hargument)
    rw [hlayout] at hmissing
    cases hmissing
  | some fields =>
    -- Another argument with a result would be the last one, too.
    obtain ⟨other, hmem, hother⟩ := List.exists_of_findSome?_eq_some hfound
    obtain ⟨position, hposition⟩ := List.getElem?_of_mem hmem
    split at hother
    · rename_i otherId otherOffset hotherLayout
      have hotherLast := (h.last_of_result hposition hotherLayout).2
      have hsame : position = index := by omega
      rw [hsame, hargument] at hposition
      cases hposition
      rw [hlayout] at hotherLayout
      cases hotherLayout
      exact hother.symm
    · cases hother

/-- The parameters of an argument cover the fields of its layout. -/
theorem covered_argumentParams (h : command.IsLaidOut)
    (hargument : command.arguments[index]? = some argument) :
    (command.argumentParams argument index).flatMap (fun param => command.covered param.source)
      = argument.layout.fields := by
  have hfields := argumentFields_eq hargument
  unfold argumentParams
  cases hlayout : argument.layout with
  | word field kind => simp [covered, hfields, hlayout, Layout.fields]
  | split low high => simp [covered, hfields, hlayout, Layout.fields]
  | shm id offset size => simp [covered, hfields, hlayout, Layout.fields, InitParam.unsigned]
  | bucket id size => simp [covered, hfields, hlayout, Layout.fields, InitParam.unsigned]
  | immediate size => rfl
  | result id offset =>
    have hresult := h.resultFields?_of_argument hargument hlayout
    simp [covered, hresult, Layout.fields, InitParam.unsigned]

/-- The stores of an argument are those of its parameters. -/
theorem storedFrom?_store (h : command.IsLaidOut)
    (hargument : command.arguments[index]? = some argument) :
    (CommandFormat.store command argument).map storedFrom?
      = (command.argumentParams argument index).flatMap command.storedParam := by
  have hfields := argumentFields_eq hargument
  unfold argumentParams CommandFormat.store
  cases hlayout : argument.layout with
  | word field kind =>
    simp [storedFrom?, storedParam, storedField, covered, hfields, hlayout, Layout.fields,
      reads_encodeWord]
  | split low high =>
    simp only [List.map_cons, List.map_nil, List.flatMap_cons, List.flatMap_nil, storedParam,
      covered, hfields, hlayout, Layout.fields]
    rfl
  | shm id offset size =>
    simp [storedFrom?_keep, storedParam, covered, hfields, hlayout, Layout.fields,
      InitParam.unsigned, fieldIdent]
  | bucket id size =>
    simp [storedFrom?_keep, storedParam, covered, hfields, hlayout, Layout.fields,
      InitParam.unsigned, fieldIdent]
  | immediate size => rfl
  | result id offset =>
    have hresult := h.resultFields?_of_argument hargument hlayout
    simp [storedFrom?_keep, storedParam, covered, hresult, InitParam.unsigned, fieldIdent]

/-! ## The fields behind the arguments -/

/-- Data without a size is never counted in a field. -/
theorem count_of_unsized (h : command.IsLaidOut)
    (himmediate : command.immediate? = some (argument, .unsized)) : command.count = none := by
  obtain ⟨position, hposition, hlayout⟩ := exists_of_immediate? himmediate
  obtain ⟨-, hsizes, -⟩ := h.sizes_of_dataSize? hposition (by rw [hlayout]; rfl)
  cases hsizes with
  | unsized hpacking =>
    have hcounted := h.counted
    rw [hpacking] at hcounted
    exact Option.isNone_iff_eq_none.mp (by rw [← Option.not_isSome, hcounted]; rfl)

theorem field_of_count (h : command.IsLaidOut) {field : Nat} (hcount : command.count = some field) :
    command.fields[field]? = some ⟨"count", .u32⟩ := by
  have htrailing := h.trailing
  rw [trailingFields, trailingMapping, hcount] at htrailing
  exact (List.cons.inj htrailing).1

/-- The blocks behind the arguments, one by one. -/
theorem trailing_blocks (h : command.IsLaidOut) :
    (command.result.toList.flatMap fun r => [r.id, r.offset]).map (command.fields[·]?)
        = (command.result.toList.flatMap fun _ => resultMapping).map some ∧
      command.clientId.toList.map (command.fields[·]?)
        = command.clientId.toList.map fun _ => some ⟨"client_id", .u32⟩ := by
  have htrailing := h.trailing
  rw [trailingFields, trailingMapping, List.map_append, List.map_append, List.map_append,
    List.map_append, List.map_map, List.map_map] at htrailing
  obtain ⟨hfirst, hclient⟩ := List.append_inj' htrailing (by simp)
  exact ⟨(List.append_inj hfirst (by simp)).2, hclient⟩

theorem fields_of_result (h : command.IsLaidOut) {result : ResultFields}
    (hresult : command.result = some result) :
    [command.fields[result.id]?, command.fields[result.offset]?]
      = [some ⟨"result_shm_id", .u32⟩, some ⟨"result_shm_offset", .u32⟩] := by
  have hblock := h.trailing_blocks.1
  rw [hresult] at hblock
  exact hblock

theorem field_of_clientId (h : command.IsLaidOut) {field : Nat}
    (hclient : command.clientId = some field) :
    command.fields[field]? = some ⟨"client_id", .u32⟩ := by
  have hblock := h.trailing_blocks.2
  rw [hclient] at hblock
  exact (List.cons.inj hblock).1

theorem fieldIdent_of_count (h : command.IsLaidOut) {field : Nat}
    (hcount : command.count = some field) : command.fieldIdent field = .escaped "count" := by
  rw [fieldIdent, fieldName, h.field_of_count hcount]
  rfl

/-- Whatever the parameter of a count that no field holds contributes nothing to. -/
theorem flatMap_trailingParams {α : Type} (h : command.IsLaidOut) {f : InitParam → List α}
    (hf : command.count = none → f countParam = []) :
    command.trailingParams.flatMap f = command.count.toList.flatMap (fun _ => f countParam)
      ++ command.result.toList.flatMap (fun r =>
        f (.unsigned (command.fieldName r.id) .resultId)
          ++ f (.unsigned (command.fieldName r.offset) .resultOffset))
      ++ command.clientId.toList.flatMap fun id =>
        f (.unsigned (command.fieldName id) .clientId) := by
  unfold trailingParams
  rw [List.flatMap_append, List.flatMap_append, List.flatMap_append]
  have hothers : (command.count.map fun _ => countParam).toList.flatMap f
      = command.count.toList.flatMap fun _ => f countParam := by
    cases command.count <;> rfl
  have hresult : (command.result.toList.flatMap fun r =>
      [InitParam.unsigned (command.fieldName r.id) .resultId,
        .unsigned (command.fieldName r.offset) .resultOffset]).flatMap f
      = command.result.toList.flatMap fun r =>
        f (.unsigned (command.fieldName r.id) .resultId)
          ++ f (.unsigned (command.fieldName r.offset) .resultOffset) := by
    cases command.result <;> simp
  have hclient : (command.clientId.map fun id =>
      InitParam.unsigned (command.fieldName id) .clientId).toList.flatMap f
      = command.clientId.toList.flatMap fun id =>
        f (.unsigned (command.fieldName id) .clientId) := by
    cases command.clientId <;> rfl
  rw [hothers, hresult, hclient]
  split
  · rename_i argument himmediate
    rw [List.flatMap_cons, hf (h.count_of_unsized himmediate)]
    simp
  · simp

theorem covered_trailingParams (h : command.IsLaidOut) :
    command.trailingParams.flatMap (fun param => command.covered param.source)
      = command.trailingFields := by
  rw [h.flatMap_trailingParams fun hcount => by
      simp [countParam, InitParam.unsigned, covered, hcount]]
  unfold trailingFields
  congr 1
  · congr 1
    · cases hcount : command.count <;> simp [countParam, InitParam.unsigned, covered, hcount]
    · cases hresult : command.result <;> simp [InitParam.unsigned, covered, resultFields?, hresult]
  · cases hclient : command.clientId <;> simp [InitParam.unsigned, covered, hclient]

theorem storedFrom?_trailing (h : command.IsLaidOut) :
    (command.trailingFields.map (CommandFormat.keep command)).map storedFrom?
      = command.trailingParams.flatMap command.storedParam := by
  rw [h.flatMap_trailingParams fun hcount => by
      simp [storedParam, countParam, InitParam.unsigned, covered, hcount]]
  unfold trailingFields
  rw [List.map_append, List.map_append, List.map_append, List.map_append]
  congr 1
  · congr 1
    · cases hcount : command.count with
      | none => rfl
      | some field =>
        simp [storedFrom?_keep, storedParam, countParam, InitParam.unsigned, covered, hcount,
          h.fieldIdent_of_count hcount]
    · cases hresult : command.result <;>
        simp [storedFrom?_keep, storedParam, InitParam.unsigned, covered, resultFields?, hresult,
          fieldIdent]
  · cases hclient : command.clientId <;>
      simp [storedFrom?_keep, storedParam, InitParam.unsigned, covered, hclient, fieldIdent]

/-! ## All fields -/

/-- A walk over the parameters of `init` is one over the arguments, and then the trailing ones. -/
theorem flatMap_initParams {α : Type} {f : InitParam → List α} {g : Argument → List α}
    (hf : ∀ {index argument}, command.arguments[index]? = some argument →
      (command.argumentParams argument index).flatMap f = g argument) :
    command.initParams.flatMap f
      = command.arguments.flatMap g ++ command.trailingParams.flatMap f := by
  rw [initParams, List.flatMap_append, List.flatMap_assoc, ← flatMap_zipIdx command.arguments]
  refine congrArg (· ++ _) (List.flatMap_congr fun item hitem => ?_)
  exact hf (List.mem_zipIdx_iff_getElem?.mp hitem)

/-- The parameters of `init` cover the fields in order. -/
theorem covered_initParams (h : command.IsLaidOut) :
    command.initParams.flatMap (fun param => command.covered param.source)
      = List.range command.fields.length := by
  rw [flatMap_initParams h.covered_argumentParams, h.covered_trailingParams, h.positions]

/-- The assignments of `init` store the parameters in the fields that they cover, in order. -/
theorem storedFrom?_assignments (h : command.IsLaidOut) :
    (CommandFormat.assignments command).map storedFrom?
      = command.initParams.flatMap command.storedParam := by
  rw [CommandFormat.assignments, List.map_append, List.map_flatMap, h.storedFrom?_trailing]
  exact (flatMap_initParams fun hargument => (h.storedFrom?_store hargument).symm).symm

/-! ## What `init` reads -/

theorem argumentParams_subset (hargument : command.arguments[index]? = some argument) :
    command.argumentParams argument index ⊆ command.initParams := by
  intro param hparam
  exact List.mem_append_left _ (List.mem_flatMap.mpr
    ⟨(argument, index), List.mem_zipIdx_iff_getElem?.mpr hargument, hparam⟩)

/-- A plain argument has a parameter of its own. -/
theorem param_of_scalar (h : command.IsLaidOut)
    (hargument : command.arguments[index]? = some argument)
    (hscalar : argument.param.type.isPointer = false) :
    ⟨argument.ident, argument.valueType, .argument index⟩ ∈ command.initParams := by
  apply argumentParams_subset hargument
  rcases h.layout_of_scalar hargument hscalar with ⟨field, kind, hlayout⟩ | ⟨low, high, hlayout⟩
  · rw [argumentParams, hlayout]
    exact List.mem_cons_self
  · rw [argumentParams, hlayout]
    exact List.mem_cons_self

/-- The fields behind those of the arguments have parameters of their own. -/
theorem source_of_trailingParams {param : InitParam} (hparam : param ∈ command.trailingParams)
    (index : Nat) : param.source ≠ .argument index := by
  intro hsource
  simp only [trailingParams, List.mem_append, Option.mem_toList, Option.map_eq_some_iff,
    List.mem_flatMap, List.mem_pair] at hparam
  rcases hparam with ((⟨_, -, rfl⟩ | ⟨_, -, rfl | rfl⟩) | ⟨_, -, rfl⟩) | hunsized
  · cases hsource
  · cases hsource
  · cases hsource
  · cases hsource
  · split at hunsized
    · rw [List.mem_singleton.mp hunsized] at hsource
      cases hsource
    · cases hunsized

/-- A parameter that takes an argument takes a plain one, under its name and type. -/
theorem exists_argument_of_source (h : command.IsLaidOut) {param : InitParam}
    (hparam : param ∈ command.initParams) (hsource : param.source = .argument index) :
    ∃ argument, command.arguments[index]? = some argument ∧
      argument.param.type.isPointer = false ∧
      param = ⟨argument.ident, argument.valueType, .argument index⟩ := by
  rcases List.mem_append.mp hparam with hown | htrailing
  · obtain ⟨⟨argument, position⟩, hitem, hmem⟩ := List.mem_flatMap.mp hown
    rw [List.mem_zipIdx_iff_getElem?] at hitem
    unfold argumentParams at hmem
    cases hlayout : argument.layout <;>
      simp only [hlayout, List.mem_cons, List.not_mem_nil, or_false] at hmem
    case word =>
      subst hmem
      cases hsource
      have hkind := (h.kind_of_word hitem hlayout).1
      exact ⟨argument, hitem, ScalarKind.isPointer_of_ofType? hkind, rfl⟩
    case split =>
      subst hmem
      cases hsource
      have hkind := h.kind_of_split hitem hlayout
      exact ⟨argument, hitem, ScalarKind.isPointer_of_ofType? hkind, rfl⟩
    case shm | result => rcases hmem with rfl | rfl <;> cases hsource
    case bucket =>
      subst hmem
      cases hsource
  · exact absurd hsource (source_of_trailingParams htrailing index)

/-- Data of a counted size is counted by a scalar argument, which `init` takes. -/
theorem param_of_counted (h : command.IsLaidOut) {counter units : Nat}
    (himmediate : command.immediate? = some (argument, .counted counter units)) :
    ∃ param ∈ command.initParams, param.name = command.argumentIdent counter := by
  obtain ⟨position, hposition, hlayout⟩ := exists_of_immediate? himmediate
  have hcounter := h.countedBy?_of_counted hposition (by rw [hlayout]; rfl)
  obtain ⟨counting, field, hcounting, -, hword⟩ := h.counter_of_countedBy? hcounter
  have hscalar := ScalarKind.isPointer_of_ofType? (h.kind_of_word hcounting hword).1
  exact ⟨⟨counting.ident, counting.valueType, .argument counter⟩,
    h.param_of_scalar hcounting hscalar, (argumentIdent_eq hcounting).symm⟩

/-- Data of a size that is only known at run time is counted by a parameter of its own. -/
theorem countParam_of_immediate? (h : command.IsLaidOut) {size : DataSize}
    (himmediate : command.immediate? = some (argument, size))
    (hsize : size = .unsized ∨ ∃ max, size = .atMost max) : countParam ∈ command.initParams := by
  apply List.mem_append_right
  rcases hsize with rfl | ⟨max, rfl⟩
  · exact List.mem_append_right _ (by rw [himmediate]; exact List.mem_singleton.mpr rfl)
  · obtain ⟨position, hposition, hlayout⟩ := exists_of_immediate? himmediate
    obtain ⟨-, hsizes, -⟩ := h.sizes_of_dataSize? hposition (by rw [hlayout]; rfl)
    cases hsizes with
    | atMost hpacking =>
      have hcounted := h.counted
      rw [hpacking] at hcounted
      obtain ⟨field, hfield⟩ := Option.isSome_iff_exists.mp hcounted
      refine List.mem_append_left _ (List.mem_append_left _ (List.mem_append_left _ ?_))
      rw [hfield]
      exact List.mem_singleton.mpr rfl

theorem spelling_countParam : countParam.name.spelling = "count" := by decide

theorem reads_paramCount? (h : command.IsLaidOut) {count : Expr}
    (hcount : command.paramCount? = some count) :
    ∃ param ∈ command.initParams, count.reads = [param.name.spelling] := by
  unfold paramCount? dataCount? at hcount
  split at hcount
  · rename_i found counter units himmediate
    obtain ⟨param, hparam, hname⟩ := h.param_of_counted himmediate
    refine ⟨param, hparam, ?_⟩
    rw [hname]
    split at hcount <;> cases hcount <;> rfl
  · rename_i himmediate
    cases hcount
    exact ⟨_, h.countParam_of_immediate? himmediate (.inr ⟨_, rfl⟩),
      by rw [spelling_countParam]; rfl⟩
  · rename_i himmediate
    cases hcount
    exact ⟨_, h.countParam_of_immediate? himmediate (.inl rfl),
      by rw [spelling_countParam]; rfl⟩
  · cases hcount
  · cases hcount

theorem exists_of_storedFrom? {stmt : Stmt} {stored : Expr × List String}
    (h : storedFrom? stmt = some stored) :
    ∃ value, stmt = .assign stored.1 value ∧ value.reads = stored.2 := by
  unfold storedFrom? at h
  split at h
  · cases h
    exact ⟨_, rfl, rfl⟩
  · cases h

/-- `init` reads nothing but the struct and its parameters. -/
theorem reads_init (h : command.IsLaidOut) :
    ∀ stmt ∈ (CommandFormat.init command).body, ∀ name ∈ stmt.reads,
      name = "self" ∨ ∃ param ∈ command.initParams, name = param.name.spelling := by
  intro stmt hstmt name hname
  rcases List.mem_cons.mp hstmt with rfl | hassign
  · have hheader : ∀ arguments, (Stmt.run (.send "self" "set_header" arguments)).reads
        = "self" :: (arguments.flatMap Expr.parts).filterMap Expr.readName? := by
      intro arguments
      rw [← Expr.listParts_eq_flatMap]
      rfl
    rw [hheader] at hname
    rcases List.mem_cons.mp hname with rfl | hcounted
    · exact .inl rfl
    · cases hcount : command.paramCount? with
      | none =>
        rw [hcount] at hcounted
        cases hcounted
      | some count =>
        obtain ⟨param, hparam, hreads⟩ := h.reads_paramCount? hcount
        rw [hcount] at hcounted
        rw [Option.toList_some, List.flatMap_singleton] at hcounted
        rw [Expr.reads] at hreads
        rw [hreads] at hcounted
        exact .inr ⟨param, hparam, List.mem_singleton.mp hcounted⟩
  · have hmem := List.mem_map_of_mem (f := storedFrom?) hassign
    change storedFrom? stmt ∈ (CommandFormat.assignments command).map storedFrom? at hmem
    rw [h.storedFrom?_assignments] at hmem
    obtain ⟨param, hparam, hmem⟩ := List.mem_flatMap.mp hmem
    obtain ⟨field, -, hfield⟩ := List.mem_map.mp hmem
    obtain ⟨value, rfl, hvalue⟩ := exists_of_storedFrom? hfield.symm
    have hassigned : (Stmt.assign (CommandFormat.ownField (command.fieldIdent field)) value).reads
        = "self" :: value.reads := rfl
    rw [hassigned, hvalue] at hname
    rcases List.mem_cons.mp hname with rfl | hsource
    · exact .inl rfl
    · exact .inr ⟨param, hparam, List.mem_singleton.mp hsource⟩

end IsLaidOut

/-! ## The partition -/

/-- The layouts cut the fields of a command into blocks, and `init` fills the blocks in order. -/
structure IsPartitioned (command : Command) : Prop where
  /-- Every argument of the record has a layout, in the order of the arguments. -/
  params : command.arguments.map Argument.param = command.record.arguments
  /-- The layouts, the count, the result and the client id list every field once, in order. -/
  positions : command.arguments.flatMap (·.layout.fields)
    ++ (command.count.toList ++ command.result.toList.flatMap (fun r => [r.id, r.offset])
      ++ command.clientId.toList) = List.range command.fields.length
  nodup : (command.fields.map Field.name).Nodup
  header : "header" ∉ command.fields.map Field.name
  /-- The fields of a layout are those of the field mapping. -/
  blocks : ∀ argument ∈ command.arguments,
    argument.layout.fields.map (command.fields[·]?) = argument.mapping.map some
  trailing : command.trailingFields.map (command.fields[·]?) = command.trailingMapping.map some
  /-- The parameters of `init` cover every field once, in order. -/
  covered : command.initParams.flatMap (fun param => command.covered param.source)
    = List.range command.fields.length
  /-- The count of data without a size is the last parameter, and no field holds it. -/
  unsized : ∀ argument, command.immediate? = some (argument, .unsized) →
    command.initParams.getLast? = some countParam ∧ command.covered .count = []
  /-- `init` assigns every field once, in order. -/
  targets : (CommandFormat.assignments command).map assignedTo?
    = command.fields.map fun field => some (CommandFormat.ownField (.escaped field.name))
  /-- Every field is assigned from the parameter that covers it. -/
  stores : (CommandFormat.assignments command).map storedFrom?
    = command.initParams.flatMap command.storedParam
  reads : ∀ stmt ∈ (CommandFormat.init command).body, ∀ name ∈ stmt.reads,
    name = "self" ∨ ∃ param ∈ command.initParams, name = param.name.spelling

namespace IsLaidOut

variable {command : Command}

theorem targets_assignments (h : command.IsLaidOut) :
    (CommandFormat.assignments command).map assignedTo?
      = command.fields.map fun field => some (CommandFormat.ownField (.escaped field.name)) := by
  have htarget : ∀ stmt, assignedTo? stmt = (storedFrom? stmt).map Prod.fst := by
    intro stmt
    cases stmt <;> rfl
  have hfield : ∀ param : InitParam, (command.storedParam param).map (·.map Prod.fst)
      = (command.covered param.source).map fun field =>
        some (CommandFormat.ownField (command.fieldIdent field)) := by
    intro param
    rw [storedParam, List.map_map]
    rfl
  calc (CommandFormat.assignments command).map assignedTo?
      = ((CommandFormat.assignments command).map storedFrom?).map (·.map Prod.fst) := by
        rw [List.map_map]
        exact List.map_congr_left fun stmt _ => htarget stmt
    _ = (command.initParams.flatMap fun param => command.covered param.source).map fun field =>
          some (CommandFormat.ownField (command.fieldIdent field)) := by
        rw [h.storedFrom?_assignments, List.map_flatMap, List.map_flatMap]
        exact List.flatMap_congr fun param _ => hfield param
    _ = command.fields.map fun field => some (CommandFormat.ownField (.escaped field.name)) := by
        rw [h.covered_initParams]
        apply List.ext_getElem
        · simp
        · intro i hi hi'
          simp [fieldIdent, fieldName, List.getElem?_eq_getElem (by simpa using hi')]

theorem getLast?_initParams (h : command.IsLaidOut) {argument : Argument}
    (himmediate : command.immediate? = some (argument, .unsized)) :
    command.initParams.getLast? = some countParam ∧ command.covered .count = [] := by
  constructor
  · rw [initParams, trailingParams, himmediate, ← List.append_assoc]
    exact List.getLast?_concat
  · rw [covered, h.count_of_unsized himmediate]
    rfl

end IsLaidOut
end Command

/-- Whatever the planner accepts is partitioned, whatever the record and the transfer method. -/
theorem Record.isPartitioned_of_plan {record : Record} {transfer : Transfer} {id : Nat}
    {command : Command} (h : record.plan transfer id = .ok command) :
    command.record = record ∧ command.transfer = transfer ∧ command.IsPartitioned := by
  obtain ⟨hrecord, htransfer, -⟩ := Record.record_of_plan h
  have hlaid := Record.isLaidOut_of_plan h
  refine ⟨hrecord, htransfer, ?_⟩
  exact {
    params := hlaid.params
    positions := hlaid.positions
    nodup := hlaid.nodup
    header := hlaid.header
    blocks := hlaid.blocks
    trailing := hlaid.trailing
    covered := hlaid.covered_initParams
    unsized := fun _ himmediate => hlaid.getLast?_initParams himmediate
    targets := hlaid.targets_assignments
    stores := hlaid.storedFrom?_assignments
    reads := hlaid.reads_init }

/-- A wide value, and a mailbox of up to sixteen bytes. -/
def fenceParams : List Param :=
  [⟨{ base := "GLuint64" }, "value"⟩,
    ⟨{ isConst := true, base := "GLbyte", pointerDepth := 1 }, "mailbox"⟩]

def fenceRecord : Record :=
  .merge { name := "SetFence", returnType := .void, params := fenceParams, line := 1 }
    { name := "SetFence", count := some 16, hasRuntimeCount := true } fenceParams .put [.shm]

def fenceCommand : Command where
  record := fenceRecord
  transfer := .shm
  name := "SetFence"
  id := 256
  fields := [⟨"value_0", .u32⟩, ⟨"value_1", .u32⟩, ⟨"mailbox_shm_id", .u32⟩,
    ⟨"mailbox_shm_offset", .u32⟩, ⟨"count", .u32⟩]
  arguments := List.zipWith Argument.mk fenceParams [.split 0 1, .shm 2 3 (.atMost 16)]
  count := some 4
  result := none
  clientId := none

theorem isPartitioned_fence :
    fenceRecord.plan .shm 256 = .ok fenceCommand ∧ fenceCommand.IsPartitioned :=
  have hplan : fenceRecord.plan .shm 256 = .ok fenceCommand := rfl
  ⟨hplan, (Record.isPartitioned_of_plan hplan).2.2⟩

end CommandBuffer
