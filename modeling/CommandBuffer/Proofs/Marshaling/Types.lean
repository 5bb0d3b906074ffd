import CommandBuffer.Artifact.CommandFormat
import CommandBuffer.Proofs.Marshaling.Entries
import CommandBuffer.Proofs.Partition
import CommandBuffer.Proofs.Sizing

/-! # Types from the client to the command

A marshaling function is typed like its declaration, the writer and `init` like what travels. The
function passes its parameters on as they are, so both have to give them the same types. Plain
arguments have one type everywhere. Data behind the command is a slice to the writer, and to the
function as well, unless it is a constant text.
-/

namespace CommandBuffer

open Code Success

namespace Code

/-- A reference to a slice of such elements, shared or not. -/
def Ty.IsSliceOf (type element : Ty) : Prop :=
  ∃ isMutable, type = .reference none isMutable (.slice element)

end Code

/-! ## Client types -/

namespace CType

variable {type : CType}

/-- A pointer to characters that do not change. -/
def IsText (type : CType) : Prop := type.isConst = true ∧ type.base = "char"

instance : Decidable type.IsText := inferInstanceAs (Decidable (_ ∧ _))

/-- A plain value has the type of its base. -/
theorem clientType_of_scalar (h : type.isPointer = false) :
    type.clientType = valueType type.base := by
  have hdepth : type.pointerDepth = 0 := by simpa [isPointer] using h
  rw [clientType, if_neg (by simp [hdepth]), hdepth, sliced]

/-- A pointer of one star is a slice unless it is a text. -/
theorem clientType_of_pointer (h : type.pointerDepth = 1) :
    type.clientType = if type.IsText then .reference none false "str"
      else .reference none (!type.isConst) (.slice (valueType type.base)) := by
  rw [clientType, h]
  by_cases htext : type.IsText
  · rw [if_pos htext, if_pos ⟨rfl, htext⟩]
  · rw [if_neg htext, if_neg fun hchars => htext hchars.2]
    rfl

theorem isSliceOf_clientType_iff (h : type.pointerDepth = 1) :
    type.clientType.IsSliceOf (valueType type.base) ↔ ¬ type.IsText := by
  rw [clientType_of_pointer h]
  by_cases htext : type.IsText
  · rw [if_pos htext]
    refine iff_of_false ?_ (not_not.mpr htext)
    rintro ⟨isMutable, hslice⟩
    cases hslice
  · rw [if_neg htext]
    exact iff_of_true ⟨_, rfl⟩ htext

end CType

/-! ## Data behind the command -/

namespace Record

variable {record : Record} {transfer : Transfer} {index : Nat} {list after : FieldList}

/-- Data of more than one star is not planned. -/
theorem depth_of_planArgument {param : Param} {layout : Layout} {size : DataSize}
    (h : record.planArgument transfer index param list = .ok (layout, after))
    (hsize : layout.dataSize? = some size) : param.type.pointerDepth = 1 := by
  cases (plans_of_planArgument h).chosen with
  | word | split | result => cases hsize
  | data hpointer hresult =>
    unfold planArgument at h
    rw [if_neg (by simp [hpointer]), if_neg (by simp [hresult])] at h
    split at h
    · exact absurd h throw_ne_ok
    · rename_i hdepth
      exact not_not.mp hdepth

theorem depth_of_planArguments {params : List Param} {arguments : List Argument}
    (h : record.planArguments transfer index params list = .ok (arguments, after)) :
    ∀ argument ∈ arguments, ∀ size, argument.layout.dataSize? = some size →
      argument.param.type.pointerDepth = 1 := by
  induction params generalizing index list arguments with
  | nil =>
    cases h
    exact fun _ hmem => absurd hmem List.not_mem_nil
  | cons param params ih =>
    rw [planArguments] at h
    obtain ⟨⟨layout, middle⟩, hargument, h⟩ := bind_eq_ok.mp h
    obtain ⟨⟨others, last⟩, hothers, h⟩ := bind_eq_ok.mp h
    cases pure_eq_ok.mp h
    rw [List.forall_mem_cons]
    exact ⟨fun size => depth_of_planArgument hargument, ih hothers⟩

theorem depth_of_plan {id : Nat} {command : Command} (h : record.plan transfer id = .ok command) :
    ∀ argument ∈ command.arguments, ∀ size, argument.layout.dataSize? = some size →
      argument.param.type.pointerDepth = 1 := by
  unfold plan at h
  obtain ⟨⟨arguments, list₁⟩, harguments, h⟩ := bind_eq_ok.mp h
  obtain ⟨⟨count, list₂⟩, -, h⟩ := bind_eq_ok.mp h
  obtain ⟨⟨result, list₃⟩, -, h⟩ := bind_eq_ok.mp h
  obtain ⟨⟨clientId, list₄⟩, -, h⟩ := bind_eq_ok.mp h
  cases pure_eq_ok.mp h
  exact depth_of_planArguments harguments

end Record

namespace Marshaling

variable {command : Command} {index : Nat} {argument : Argument}

/-! ## Plain arguments -/

/-- The argument at a position is a parameter of one name and type in the marshaling function, in
`init` and in the writer, whose parameters are those of `init` without a count. -/
structure IsTyped (function : Function) (command : Command) (index : Nat) (name : Name)
    (type : Ty) : Prop where
  marshal : function.signature.parameters[index]? = some ⟨name, type⟩
  only : ∀ param ∈ command.initParams, param.source = .argument index →
    param = ⟨name, type, .argument index⟩
  init : ∃ position : Nat, command.initParams[position]? = some ⟨name, type, .argument index⟩ ∧
    (CommandFormat.init command).signature.parameters[position]? = some ⟨name, type⟩
  writer : ∃ position : Nat,
    (command.initParams.filter (·.source != .count))[position]?
      = some ⟨name, type, .argument index⟩ ∧
    command.writer.signature.parameters[position]? = some ⟨name, type⟩

/-- A marshaling function takes what travels, typed like its declaration. -/
theorem getElem?_parameters (implementation : Name) (hlaid : command.IsLaidOut)
    (hdeclared : command.record.declared = command.record.arguments)
    (hargument : command.arguments[index]? = some argument) :
    (function implementation command.record command).signature.parameters[index]?
      = some ⟨argument.ident, argument.param.type.clientType⟩ := by
  change command.record.clientParameters[index]? = _
  rw [Record.clientParameters, hdeclared, ← hlaid.params, List.map_map, List.getElem?_map,
    hargument]
  rfl

theorem exists_position {params : List InitParam} {param : InitParam} (h : param ∈ params)
    (others : List Parameter) : ∃ position : Nat, params[position]? = some param ∧
      (params.map InitParam.parameter ++ others)[position]? = some param.parameter := by
  obtain ⟨position, hposition⟩ := List.getElem?_of_mem h
  obtain ⟨hlt, -⟩ := List.getElem?_eq_some_iff.mp hposition
  refine ⟨position, hposition, ?_⟩
  rw [List.getElem?_append_left (by rwa [List.length_map]), List.getElem?_map, hposition]
  rfl

/-- A plain argument has the type of its base everywhere. -/
theorem isTyped_of_scalar (implementation : Name) (hlaid : command.IsLaidOut)
    (hdeclared : command.record.declared = command.record.arguments)
    (hargument : command.arguments[index]? = some argument)
    (hscalar : argument.param.type.isPointer = false) :
    IsTyped (function implementation command.record command) command index argument.ident
      argument.valueType where
  marshal := by
    rw [getElem?_parameters implementation hlaid hdeclared hargument,
      CType.clientType_of_scalar hscalar]
    rfl
  only param hparam hsource := by
    obtain ⟨other, hother, -, rfl⟩ := hlaid.exists_argument_of_source hparam hsource
    cases hother.symm.trans hargument
    rfl
  init := by
    obtain ⟨position, hparam, hown⟩ := exists_position (hlaid.param_of_scalar hargument hscalar) []
    rw [List.append_nil] at hown
    exact ⟨position, hparam, hown⟩
  writer := exists_position
    (List.mem_filter.mpr ⟨hlaid.param_of_scalar hargument hscalar, rfl⟩) _

end Marshaling

/-- Every plain argument of a marshaled record has one type in its marshaling function, in `init`
and in the writer of the command. The writer takes the data behind the command as a slice, and so
does the marshaling function unless the data is a text. -/
theorem Protocol.marshaled_types_iff {protocol : Protocol} {blueprint : Blueprint}
    (hrecords : protocol.records = .ok blueprint.records)
    (hcommands : protocol.commands blueprint.records = .ok blueprint.commands) {record : Record}
    (hrecord : record ∈ blueprint.records) (hmarshaled : record.isMarshaled = true) :
    ∃ function command, (Marshaling.functions blueprint).filter
        (·.signature.name = record.marshalName) = [function] ∧
      Marshaling.IsEntry blueprint record command ∧
      (∀ index argument, command.arguments[index]? = some argument →
        argument.param.type.isPointer = false →
        Marshaling.IsTyped function command index argument.ident argument.valueType) ∧
      ∀ (index : Nat) argument size, command.arguments[index]? = some argument →
        argument.layout = .immediate size →
        ∃ type, function.signature.parameters[index]? = some ⟨argument.ident, type⟩ ∧
          command.dataType? = some argument.valueType ∧
          command.writer.signature.parameters.getLast?
            = some ⟨argument.ident, .reference none false (.slice argument.valueType)⟩ ∧
          (type.IsSliceOf argument.valueType ↔ ¬ argument.param.type.IsText) := by
  obtain ⟨command, hentry, hfunction⟩ :=
    Marshaling.exists_function hrecords hcommands hrecord hmarshaled
  have hmem := hentry.command_mem
  have hplanned := Protocol.isPlanned_of_commands hcommands command hmem
  have hlaid := Protocol.isLaidOut_of_commands hcommands command hmem
  obtain ⟨declaration, -, hbuild⟩ := Protocol.exists_build_of_records hrecords record hrecord
  have hdeclared := Record.declared_of_isMarshaled hbuild hmarshaled
  have hbuilt := Protocol.isBuilt_of_records hrecords record hrecord
  obtain rfl := hentry.record_eq
  refine ⟨_, command, hfunction, hentry, ?_, ?_⟩
  · intro index argument
    exact Marshaling.isTyped_of_scalar _ hlaid hdeclared
  · intro index argument size hargument hlayout
    have hsize : argument.layout.dataSize? = some size := by rw [hlayout]; rfl
    have hdepth := Record.depth_of_plan hplanned.plan argument (List.mem_of_getElem? hargument) size
      hsize
    obtain ⟨-, -, htransfer⟩ := hlaid.sizes_of_dataSize? hargument hsize
    have himmediate : command.immediate? = some (argument, size) := by
      rw [hlaid.immediate?_eq (fun hsent => hbuilt.onePointer (hsent ▸ hplanned.transfer)) hargument
        hsize]
      rw [hlayout] at htransfer
      exact if_pos (Option.some.inj htransfer).symm
    refine ⟨_, Marshaling.getElem?_parameters _ hlaid hdeclared hargument, ?_, ?_,
      CType.isSliceOf_clientType_iff hdepth⟩
    · rw [Command.dataType?, himmediate]
      rfl
    · change command.writerParams.getLast? = _
      rw [Command.writerParams, himmediate]
      exact List.getLast?_concat

/-! ## Bytes and a text behind the command -/

def loadDirectives : Override := { name := "LoadBytes", strategy := some .put, count := some 4 }

def labelDirectives : Override := { name := "Label", strategy := some .put, count := some 8 }

def labelsProtocol : Protocol where
  name := "Labels"
  filePrefix := "labels"
  description := "Bytes and texts"
  commandBase := 256
  supportPath := "crate::support"
  types := {}
  overrides := ⟨[loadDirectives, labelDirectives]⟩
  functions := "void LoadBytes(GLuint64 place, bool last, uint8_t* bytes);\n"
    ++ "void Label(const char* text);"

def loadParams : List Param :=
  [⟨{ base := "GLuint64" }, "place"⟩, ⟨{ base := "bool" }, "last"⟩,
    ⟨{ base := "uint8_t", pointerDepth := 1 }, "bytes"⟩]

def labelParams : List Param := [⟨{ isConst := true, base := "char", pointerDepth := 1 }, "text"⟩]

def loadRecord : Record :=
  .merge ⟨"LoadBytes", .void, loadParams, 1⟩ loadDirectives loadParams .put [.immediate]

def labelRecord : Record :=
  .merge ⟨"Label", .void, labelParams, 2⟩ labelDirectives labelParams .put [.immediate]

def loadCommand : Command where
  record := loadRecord
  transfer := .immediate
  name := "LoadBytesImmediate"
  id := 256
  fields := [⟨"place_0", .u32⟩, ⟨"place_1", .u32⟩, ⟨"last", .u32⟩]
  arguments := List.zipWith Argument.mk loadParams
    [.split 0 1, .word 2 .bool, .immediate (.fixed 4)]
  count := none
  result := none
  clientId := none

def labelCommand : Command where
  record := labelRecord
  transfer := .immediate
  name := "LabelImmediate"
  id := 257
  fields := []
  arguments := List.zipWith Argument.mk labelParams [.immediate (.fixed 8)]
  count := none
  result := none
  clientId := none

def labelsBlueprint : Blueprint where
  protocol := labelsProtocol
  records := [loadRecord, labelRecord]
  validators := {}
  commands := [loadCommand, labelCommand]
  support := { segments := [{ name := "crate" }, { name := "support" }] }

theorem records_labels : labelsProtocol.records = .ok labelsBlueprint.records := by decide +kernel

theorem commands_labels :
    labelsProtocol.commands labelsBlueprint.records = .ok labelsBlueprint.commands := by
  decide +kernel

/-- The place has one type everywhere, and the bytes are a slice to the client. -/
theorem marshaled_types_load : ∃ function,
    (Marshaling.functions labelsBlueprint).filter (·.signature.name = loadRecord.marshalName)
      = [function] ∧
    Marshaling.IsTyped function loadCommand 0 (.escaped "place") (valueType "GLuint64") ∧
    ∃ type, function.signature.parameters[2]? = some ⟨.escaped "bytes", type⟩ ∧
      type.IsSliceOf "u8" := by
  have hrecord : loadRecord ∈ labelsBlueprint.records := by decide
  obtain ⟨function, command, hfunction, hentry, hscalars, hdata⟩ :=
    Protocol.marshaled_types_iff records_labels commands_labels hrecord rfl
  obtain rfl : command = loadCommand := by
    rcases List.mem_pair.mp hentry.command_mem with rfl | rfl
    · rfl
    · exact absurd hentry.record_eq (by decide)
  obtain ⟨type, hparameter, -, -, hslice⟩ := hdata 2 _ _ rfl rfl
  exact ⟨function, hfunction, hscalars 0 _ rfl rfl, type, hparameter, hslice.mpr (by decide)⟩

/-- A text is data behind the command like the bytes, but no slice to the client. -/
theorem text_is_no_slice : ∃ function command,
    (Marshaling.functions labelsBlueprint).filter (·.signature.name = labelRecord.marshalName)
      = [function] ∧
    Marshaling.IsEntry labelsBlueprint labelRecord command ∧
    ∃ argument type, command.immediate? = some (argument, .fixed 8) ∧
      command.dataType? = some argument.valueType ∧
      function.signature.parameters = [⟨argument.ident, type⟩] ∧
      ¬ type.IsSliceOf argument.valueType := by
  have hrecord : labelRecord ∈ labelsBlueprint.records := by decide
  obtain ⟨command, hentry, hfunction⟩ :=
    Marshaling.exists_function records_labels commands_labels hrecord rfl
  obtain rfl : command = labelCommand := by
    rcases List.mem_pair.mp hentry.command_mem with rfl | rfl
    · exact absurd hentry.record_eq (by decide)
    · rfl
  refine ⟨_, _, hfunction, hentry, _, _, rfl, rfl, rfl, ?_⟩
  exact (CType.isSliceOf_clientType_iff rfl).not.mpr (by decide)

end CommandBuffer
