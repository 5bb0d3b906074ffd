import CommandBuffer.Proofs.Emission
import CommandBuffer.Proofs.Hygiene.Scopes
import CommandBuffer.Proofs.Marshaling.Entries
import CommandBuffer.Proofs.Marshaling.Steps
import CommandBuffer.Proofs.Partition

/-! # What marshaling functions pass on

A marshaling function calls the writer of its command once, with one name for each parameter of the
writer. Scalars and the data behind the command are declared parameters. Locations of data, of the
result and the id of what is created are bound to locals in front of the call, by the statement that
the layout of the command asks for.
-/

namespace CommandBuffer

open Code Success

namespace Marshaling

/-- The locals that are passed on: the location of the result, the id of what is created, and the
locations of data. -/
def localNames (command : Command) : List String :=
  ["result_shm_id", "result_shm_offset", "client_id"]
    ++ command.arguments.flatMap fun argument =>
      ["_shm_id", "_shm_offset", "_bucket_id"].map (argument.name ++ ·)

/-- A call of a writer. -/
def isWriterCall : Expr → Bool
  | .method (.method _ helper _ _ _) _ _ _ _ => decide (helper.spelling = "helper")
  | _ => false

/-- The name is one of the locals that are passed on, and the statements bind it. -/
def IsBound (command : Command) (before : List Stmt) (name : String) : Prop :=
  name ∈ localNames command ∧ name ∈ (Stmt.listBinders before).map Name.spelling

/-- The function calls the writer of the command once, with a name for each of its parameters, and
each of the names is a parameter of the function or bound before the call. -/
structure Writes (function : Function) (command : Command) (before after : List Stmt) : Prop where
  body : function.body = before
    ++ .run (.send (.send "self" "helper" []) command.writer.signature.name
      (command.writer.signature.parameters.map fun parameter => .path false [parameter.name]))
    :: after
  once : ((before ++ after).flatMap Stmt.parts).filter isWriterCall = []
  supplied : ∀ parameter ∈ command.writer.signature.parameters,
    parameter.name.spelling ∈ function.signature.parameters.map (·.name.spelling) ∨
      IsBound command before parameter.name.spelling

variable {record : Record} {command : Command} {argument : Argument}

/-! ## The call of the writer -/

theorem filter_isWriterCall {parts : List Expr} (h : parts.all Expr.isPlain = true) :
    parts.filter isWriterCall = [] := by
  rw [List.filter_eq_nil_iff]
  intro part hpart hcall
  have hplain := List.all_eq_true.mp h part hpart
  unfold isWriterCall at hcall
  split at hcall
  · cases hplain
  · cases hcall

theorem isWriterCall_keeper (record : Record) (resource : String) (change : Name)
    (arguments : List Expr) (hasLastComma : Bool) :
    ((keeper record resource).method change [] arguments hasLastComma |>.parts).filter isWriterCall
      = (Expr.listParts arguments).filter isWriterCall := by
  have hkeeper : ∀ isUnshared : Bool, ((if isUnshared then "id_allocator" else "id_handler" : Name)
      |>.spelling) ≠ "helper" := by decide
  rw [keeper, Expr.send, Expr.parts, List.filter_append, List.filter_cons_of_neg]
  · rfl
  · rw [isWriterCall, decide_eq_true_iff]
    exact hkeeper _

/-- The keeper of the ids writes no command. -/
theorem isWriterCall_bookkeeping (record : Record) (command : Command) :
    ((bookkeeping record command).flatMap Stmt.parts).filter isWriterCall = [] := by
  unfold bookkeeping idArguments
  generalize command.arguments.find? (·.param.type.isPointer) = pointer
  split
  · rw [List.flatMap_singleton]
    exact (isWriterCall_keeper ..).trans (by cases pointer <;> rfl)
  · rw [List.flatMap_singleton]
    exact (isWriterCall_keeper ..).trans (by cases pointer <;> rfl)
  · rw [List.flatMap_singleton]
    exact (isWriterCall_keeper ..).trans (by cases pointer <;> rfl)
  · rw [List.flatMap_singleton]
    exact isWriterCall_keeper ..
  · rw [List.flatMap_singleton]
    exact isWriterCall_keeper ..
  · rfl

/-- The command is written behind the location of the result, if there is one. -/
theorem exists_finish (record : Record) (command : Command) :
    ∃ front back, finish record command = front ++ write command :: back ∧
      (∀ stmt ∈ front ++ back, stmt.IsPlain) ∧
      (record.strategy = .getN ∨ record.strategy = .is → resultLocation ⊆ front) := by
  have hwait : wait.IsPlain := by
    rw [wait, Stmt.IsPlain]
    rfl
  unfold finish
  split
  · refine ⟨_, _, rfl, ?_, fun _ => List.subset_append_right _ _⟩
    simp only [List.forall_mem_append, List.forall_mem_cons, List.not_mem_nil, IsEmpty.forall_iff,
      implies_true, and_true]
    refine ⟨⟨?_, isPlain_resultLocation⟩, hwait, ?_⟩
    · exact rfl
    · cases command.arguments.getLast? <;> exact rfl
  · refine ⟨_, _, rfl, ?_, fun _ => List.Subset.refl _⟩
    simp only [List.forall_mem_append, List.forall_mem_cons, List.not_mem_nil, IsEmpty.forall_iff,
      implies_true, and_true]
    exact ⟨isPlain_resultLocation, hwait, rfl⟩
  · rename_i hstrategy
    refine ⟨[], _, rfl, ?_, by simp [hstrategy]⟩
    rw [List.nil_append, List.forall_mem_singleton]
    exact rfl
  all_goals
    rename_i hstrategy
    exact ⟨[], [], rfl, fun _ h => absurd h List.not_mem_nil, by simp [hstrategy]⟩

/-! ## The parameters of the writer -/

/-- A parameter of the writer is one of `init`, but not its count, or the data. -/
theorem mem_writerParams {parameter : Parameter} (h : parameter ∈ command.writerParams) :
    (∃ param ∈ command.initParams, param.source ≠ .count ∧ param.name = parameter.name) ∨
      ∃ argument ∈ command.arguments, argument.ident = parameter.name := by
  rcases List.mem_append.mp h with hinit | hdata
  · obtain ⟨param, hparam, rfl⟩ := List.mem_map.mp hinit
    obtain ⟨hmem, hsource⟩ := List.mem_filter.mp hparam
    exact .inl ⟨param, hmem, by simpa using hsource, rfl⟩
  · rw [Option.mem_toList, Option.map_eq_some_iff] at hdata
    obtain ⟨⟨argument, size⟩, himmediate, rfl⟩ := hdata
    obtain ⟨index, hindex, -⟩ := Command.IsLaidOut.exists_of_immediate? himmediate
    exact .inr ⟨argument, List.mem_of_getElem? hindex, rfl⟩

theorem spelling_of_underscore {text : String} (h : '_' ∈ text.toList) :
    (Name.escaped text).spelling = text := by
  have hwords : ∀ word ∈ keywords, '_' ∉ word.toList := by decide
  exact Name.escaped_spelling_eq fun hkeyword => hwords text hkeyword h

/-- What the statements in front of a call of the writer bind. -/
structure Binds (command : Command) (before : List Stmt) : Prop where
  transfers : ∀ argument ∈ command.arguments, transfer command.record command argument ⊆ before
  result : command.record.strategy = .getN ∨ command.record.strategy = .is →
    resultLocation ⊆ before
  clientId : command.record.strategy = .create →
    ∃ stmt ∈ before, stmt.binders = [.verbatim "client_id"]

section

variable {before : List Stmt} (hlaid : command.IsLaidOut) (hbinds : Binds command before)

omit hlaid in
theorem isBound_of_mem {stmt : Stmt} (hstmt : stmt ∈ before) {binder : Name}
    (hbinder : binder ∈ stmt.binders) (hlocal : binder.spelling ∈ localNames command) :
    IsBound command before binder.spelling :=
  ⟨hlocal, List.mem_map_of_mem (Stmt.mem_listBinders hstmt hbinder)⟩

include hbinds

omit hlaid in
theorem isBound_result (hresult : command.record.strategy = .getN ∨ command.record.strategy = .is)
    {name : String} (hname : name ∈ ["result_shm_id", "result_shm_offset"]) :
    IsBound command before name := by
  have hstmt : Stmt.bind (.bind false (.verbatim name)) none (.send "self" name []) ∈ before :=
    hbinds.result hresult (List.mem_map_of_mem hname)
  have hbound : IsBound command before (Name.verbatim name).spelling :=
    isBound_of_mem hstmt List.mem_cons_self
      (List.mem_append_left _ (List.mem_append_left ["client_id"] hname))
  exact hbound

theorem isBound_resultField
    (hresult : command.record.strategy = .getN ∨ command.record.strategy = .is)
    {field : Nat} {name : String} (hname : name ∈ ["result_shm_id", "result_shm_offset"])
    (hfield : command.fields[field]? = some ⟨name, .u32⟩) :
    IsBound command before (command.fieldIdent field).spelling := by
  have hspelling : ∀ name ∈ ["result_shm_id", "result_shm_offset"],
      (Name.escaped name).spelling = name := by decide
  rw [Command.fieldIdent, Command.fieldName, hfield, Option.map_some, Option.getD_some,
    hspelling name hname]
  exact isBound_result hbinds hresult hname

/-- The location of data is bound by the statement that moves the data. -/
theorem isBound_location (hargument : argument ∈ command.arguments) {field : Nat} {suffix : String}
    (hsuffix : suffix ∈ ["_shm_id", "_shm_offset", "_bucket_id"])
    (hfield : command.fields[field]? = some ⟨argument.name ++ suffix, .u32⟩)
    (hbound : ∃ stmt ∈ transfer command.record command argument,
      command.fieldIdent field ∈ stmt.binders) :
    IsBound command before (command.fieldIdent field).spelling := by
  obtain ⟨stmt, hstmt, hbinder⟩ := hbound
  refine isBound_of_mem (hbinds.transfers argument hargument hstmt) hbinder ?_
  have hunderscore : ∀ suffix ∈ ["_shm_id", "_shm_offset", "_bucket_id"], '_' ∈ suffix.toList := by
    decide
  have hspelling : (command.fieldIdent field).spelling = argument.name ++ suffix := by
    rw [Command.fieldIdent, Command.fieldName, hfield, Option.map_some, Option.getD_some]
    apply spelling_of_underscore
    rw [String.toList_append]
    exact List.mem_append_right _ (hunderscore suffix hsuffix)
  rw [hspelling]
  exact List.mem_append_right _ (List.mem_flatMap.mpr
    ⟨argument, hargument, List.mem_map_of_mem hsuffix⟩)

include hlaid

/-- The parameters of an argument are its name or bound locations. -/
theorem supplied_of_argumentParams {index : Nat}
    (hargument : command.arguments[index]? = some argument) {param : InitParam}
    (hparam : param ∈ command.argumentParams argument index) :
    param.name = argument.ident ∨ IsBound command before param.name.spelling := by
  have hmem := List.mem_of_getElem? hargument
  have hblock := hlaid.blocks argument hmem
  unfold Command.argumentParams at hparam
  rw [Argument.mapping] at hblock
  cases hlayout : argument.layout with
  | word field kind =>
    rw [hlayout] at hparam
    rw [List.mem_singleton.mp hparam]
    exact .inl rfl
  | split low high =>
    rw [hlayout] at hparam
    rw [List.mem_singleton.mp hparam]
    exact .inl rfl
  | shm id offset size =>
    rw [hlayout] at hparam hblock
    obtain ⟨hid, hoffset⟩ := List.cons.inj hblock
    have hbound : ∀ field ∈ [offset, id], ∃ stmt ∈ transfer command.record command argument,
        command.fieldIdent field ∈ stmt.binders := by
      intro field hfield
      rw [transfer, hlayout]
      exact ⟨_, List.mem_singleton_self _, List.mem_map_of_mem (f := command.fieldIdent) hfield⟩
    rcases List.mem_cons.mp hparam with rfl | hparam
    · exact .inr (isBound_location hbinds hmem (by decide) hid (hbound id (by simp)))
    · rw [List.mem_singleton.mp hparam]
      exact .inr (isBound_location hbinds hmem (by decide) (List.cons.inj hoffset).1
        (hbound offset (by simp)))
  | bucket id size =>
    rw [hlayout] at hparam hblock
    rw [List.mem_singleton.mp hparam]
    refine .inr (isBound_location hbinds hmem (by decide) (List.cons.inj hblock).1 ?_)
    rw [transfer, hlayout]
    exact ⟨_, List.mem_singleton_self _, List.mem_singleton_self _⟩
  | immediate size =>
    rw [hlayout] at hparam
    cases hparam
  | result id offset =>
    rw [hlayout] at hparam hblock
    obtain ⟨hid, hoffset⟩ := List.cons.inj hblock
    have hstrategy := (hlaid.last_of_result hargument hlayout).1
    rcases List.mem_cons.mp hparam with rfl | hparam
    · exact .inr (isBound_resultField hbinds (.inl hstrategy) (by decide) hid)
    · rw [List.mem_singleton.mp hparam]
      exact .inr (isBound_resultField hbinds (.inl hstrategy) (by decide) (List.cons.inj hoffset).1)

/-- The parameters behind those of the arguments are bound, but for a count. -/
theorem isBound_of_trailingParams {param : InitParam} (hparam : param ∈ command.trailingParams)
    (hsource : param.source ≠ .count) : IsBound command before param.name.spelling := by
  simp only [Command.trailingParams, List.mem_append] at hparam
  rcases hparam with ((hcount | hresult) | hclient) | hunsized
  · rw [Option.mem_toList, Option.map_eq_some_iff] at hcount
    obtain ⟨-, -, rfl⟩ := hcount
    exact absurd rfl hsource
  · rw [List.mem_flatMap] at hresult
    obtain ⟨result, hsome, hparam⟩ := hresult
    rw [Option.mem_toList] at hsome
    have hanswered := hlaid.answered
    rw [hsome, Option.isSome_some, eq_comm, beq_iff_eq] at hanswered
    obtain ⟨hid, hoffset⟩ := List.cons.inj (hlaid.fields_of_result hsome)
    rcases List.mem_cons.mp hparam with rfl | hparam
    · exact isBound_resultField hbinds (.inr hanswered) (by decide) hid
    · rw [List.mem_singleton.mp hparam]
      exact isBound_resultField hbinds (.inr hanswered) (by decide) (List.cons.inj hoffset).1
  · rw [Option.mem_toList, Option.map_eq_some_iff] at hclient
    obtain ⟨id, hsome, rfl⟩ := hclient
    have hcreated := hlaid.created
    rw [hsome, Option.isSome_some, eq_comm, beq_iff_eq] at hcreated
    obtain ⟨stmt, hstmt, hbinders⟩ := hbinds.clientId hcreated
    have hspelling : (InitParam.unsigned (command.fieldName id) .clientId).name.spelling
        = (Name.verbatim "client_id").spelling := by
      rw [Command.fieldName, hlaid.field_of_clientId hsome]
      decide
    rw [hspelling]
    refine isBound_of_mem hstmt (hbinders ▸ List.mem_singleton_self _) ?_
    exact List.mem_append_left _ (by decide)
  · split at hunsized
    · rw [List.mem_singleton.mp hunsized] at hsource
      exact absurd rfl hsource
    · cases hunsized

end

/-! ## What stands in front of the call -/

theorem binders_bookkeeping (hstrategy : record.strategy = .create)
    (hresource : record.resource.isSome = true) :
    ∃ stmt ∈ bookkeeping record command, stmt.binders = [.verbatim "client_id"] := by
  obtain ⟨resource, hresource⟩ := Option.isSome_iff_exists.mp hresource
  unfold Record.strategy at hstrategy
  cases hpacking : record.packing with
  | create isUnshared =>
    unfold bookkeeping
    rw [hresource, hpacking]
    cases isUnshared <;> exact ⟨_, List.mem_singleton_self _, rfl⟩
  | _ => rw [hpacking] at hstrategy; cases hstrategy

/-- A record that can be planned and creates something has a resource. -/
theorem resource_of_create (hplannable : record.planningError? = none)
    (hstrategy : record.strategy = .create) : record.resource.isSome = true := by
  by_contra hnone
  rw [Option.not_isSome_iff_eq_none] at hnone
  have hfails : (record.strategy = .create ∨ record.strategy = .genN) ∧ record.resource.isNone :=
    ⟨.inl hstrategy, by rw [hnone]; rfl⟩
  rw [Record.planningError?] at hplannable
  split at hplannable
  · cases hplannable
  · cases hplannable

/-- All that a marshaling function does before it comes to the command. -/
def preparation (implementation : Name) (record : Record) (command : Command) : List Stmt :=
  trace implementation record :: command.arguments.flatMap (checks record command)
    ++ bookkeeping record command ++ command.arguments.flatMap (transfer record command)

theorem isWriterCall_preparation (implementation : Name) (record : Record) (command : Command) :
    ((preparation implementation record command).flatMap Stmt.parts).filter isWriterCall = [] := by
  rw [preparation, List.flatMap_append, List.flatMap_append, List.filter_append, List.filter_append,
    filter_isWriterCall (Stmt.all_parts (isPlain_early implementation record command)),
    isWriterCall_bookkeeping,
    filter_isWriterCall (Stmt.all_parts (isPlain_transfers record command))]
  rfl

/-- What is passed on is bound before the function comes to the command, or right behind. -/
theorem binds_preparation (implementation : Name) {front : List Stmt}
    (hplannable : command.record.planningError? = none)
    (hresult : command.record.strategy = .getN ∨ command.record.strategy = .is →
      resultLocation ⊆ front) :
    Binds command (preparation implementation command.record command ++ front) where
  transfers argument hargument stmt hstmt :=
    List.mem_append_left _ (List.mem_append_right _
      (List.mem_flatMap.mpr ⟨argument, hargument, hstmt⟩))
  result hstrategy stmt hstmt := List.mem_append_right _ (hresult hstrategy hstmt)
  clientId hstrategy := by
    obtain ⟨stmt, hstmt, hbinders⟩ : ∃ stmt ∈ bookkeeping command.record command,
        stmt.binders = [.verbatim "client_id"] :=
      binders_bookkeeping hstrategy (resource_of_create hplannable hstrategy)
    exact ⟨stmt, List.mem_append_left _ (List.mem_append_left _ (List.mem_append_right _ hstmt)),
      hbinders⟩

/-- The function of a marshaled record writes the planned command. -/
theorem exists_writes (implementation : Name) (hlaid : command.IsLaidOut)
    (hplannable : command.record.planningError? = none)
    (hdeclared : command.record.declared = command.record.arguments) :
    ∃ before after,
      Writes (function implementation command.record command) command before after := by
  obtain ⟨front, back, hfinish, hplain, hresult⟩ := exists_finish command.record command
  have hbinds := binds_preparation implementation hplannable hresult
  refine ⟨preparation implementation command.record command ++ front, back, ?_, ?_, ?_⟩
  · rw [List.append_assoc]
    exact congrArg (preparation implementation command.record command ++ ·) hfinish
  · rw [List.append_assoc, List.flatMap_append, List.filter_append, isWriterCall_preparation,
      filter_isWriterCall (Stmt.all_parts hplain)]
    rfl
  · intro parameter hparameter
    have hargument : ∀ argument ∈ command.arguments,
        argument.ident.spelling ∈ command.record.clientParameters.map (·.name.spelling) := by
      intro argument hargument
      have hparam : argument.param ∈ command.record.declared := by
        rw [hdeclared, ← hlaid.params]
        exact List.mem_map_of_mem hargument
      exact List.mem_map.mpr ⟨_, List.mem_map_of_mem hparam, rfl⟩
    rcases mem_writerParams hparameter with ⟨param, hparam, hsource, hname⟩ | ⟨data, hdata, hname⟩
    · rw [← hname]
      rcases List.mem_append.mp hparam with hargumentParam | htrailing
      · obtain ⟨⟨argument, index⟩, hindex, hparam⟩ := List.mem_flatMap.mp hargumentParam
        rw [List.mem_zipIdx_iff_getElem?] at hindex
        rcases supplied_of_argumentParams hlaid hbinds hindex hparam with hown | hbound
        · rw [hown]
          exact .inl (hargument argument (List.mem_of_getElem? hindex))
        · exact .inr hbound
      · exact .inr (isBound_of_trailingParams hlaid hbinds htrailing hsource)
    · rw [← hname]
      exact .inl (hargument data hdata)

end Marshaling

def createDirectives : Override :=
  { name := "CreateShader", strategy := some .create, resource := some "Shaders" }

def shaderProtocol : Protocol where
  name := "Shader"
  filePrefix := "shader"
  description := "Shaders of a type"
  commandBase := 256
  supportPath := "crate::support"
  types := {}
  overrides := ⟨[createDirectives, { name := "Flush", hasClientEntry := false }]⟩
  functions := "GLuint CreateShader(GLenum type);\nvoid Flush();"

def shaderParams : List Param := [⟨{ base := "GLenum" }, "type"⟩]

def createShader : Record :=
  .merge ⟨"CreateShader", { base := "GLuint" }, shaderParams, 1⟩ createDirectives shaderParams
    .create [.shm]

def hiddenFlush : Record :=
  .merge { name := "Flush", returnType := .void, params := [], line := 2 }
    { name := "Flush", hasClientEntry := false } [] .direct [.shm]

def createShaderCommand : Command where
  record := createShader
  transfer := .shm
  name := "CreateShader"
  id := 256
  fields := [⟨"type", .u32⟩, ⟨"client_id", .u32⟩]
  arguments := List.zipWith Argument.mk shaderParams [.word 0 .u32]
  count := none
  result := none
  clientId := some 1

def hiddenFlushCommand : Command where
  record := hiddenFlush
  transfer := .shm
  name := "Flush"
  id := 257
  fields := []
  arguments := []
  count := none
  result := none
  clientId := none

def shaderBlueprint : Blueprint where
  protocol := shaderProtocol
  records := [createShader, hiddenFlush]
  validators := {}
  commands := [createShaderCommand, hiddenFlushCommand]
  support := { segments := [{ name := "crate" }, { name := "support" }] }

theorem records_shader : shaderProtocol.records = .ok shaderBlueprint.records := by decide +kernel

theorem commands_shader :
    shaderProtocol.commands shaderBlueprint.records = .ok shaderBlueprint.commands := rfl

theorem isOk_marshaling_shader : shaderBlueprint.marshaling.isOk = true := by decide +kernel

end CommandBuffer
