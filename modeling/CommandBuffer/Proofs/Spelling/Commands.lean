import CommandBuffer.Proofs.CommandCollisions
import CommandBuffer.Proofs.Emission
import CommandBuffer.Proofs.Partition
import CommandBuffer.Proofs.Spelling.Coverage
import CommandBuffer.Proofs.Spelling.Words
import CommandBuffer.Proofs.Synthesis

/-! # Names of commands and types

Functions and arguments are called by identifiers, so the names made from theirs are names: those of
command structs, and of fields. The names of arguments themselves, and of their types, are supplied.
-/

namespace CommandBuffer

open Code Naming Success

/-! ## Checked names -/

/-- What the stages before emission have checked. -/
structure Blueprint.IsPlanned (blueprint : Blueprint) : Prop where
  records : ∀ record ∈ blueprint.records, isIdentifier record.name.toList = true
  owned : ∀ command ∈ blueprint.commands, command.record ∈ blueprint.records
  commands : ∀ command ∈ blueprint.commands, isIdentifier command.name.toList = true
  arguments : ∀ command ∈ blueprint.commands, ∀ argument ∈ command.arguments,
    isIdentifier argument.name.toList = true
  laid : ∀ command ∈ blueprint.commands, command.IsLaidOut
  validators : ∀ validator ∈ blueprint.validators.validators,
    ∃ start, validator.typeName = start ++ "Validator"

theorem Protocol.isPlanned_of_blueprint {protocol : Protocol} {blueprint : Blueprint}
    (h : protocol.blueprint = .ok blueprint) : blueprint.IsPlanned := by
  obtain ⟨records, hrecords, h⟩ := bind_eq_ok.mp h
  obtain ⟨commands, hcommands, h⟩ := bind_eq_ok.mp h
  rw [mapError_eq_ok, Blueprint.ofPlan] at h
  split at h
  · cases h
    have hplanned := isPlanned_of_commands hcommands
    have hlaid := isLaidOut_of_commands hcommands
    have hnames := isIdentifier_name_of_records hrecords
    refine ⟨hnames, fun command hcommand => (hplanned command hcommand).mem,
      Command.isIdentifier_name hrecords hcommands, ?_, hlaid, ?_⟩
    · intro command hcommand argument hargument
      refine (isBuilt_of_records hrecords _ (hplanned command hcommand).mem).isIdentifier
        argument.param ?_
      rw [← (hlaid command hcommand).params]
      exact List.mem_map_of_mem hargument
    · intro validator hvalidator
      obtain ⟨⟨type, -, -, hmade⟩, -⟩ := ValidatorSet.mem_synthesize.mp hvalidator
      rw [hmade]
      exact ⟨_, rfl⟩
  · cases h

namespace Code.Name

/-- Whatever follows an identifier, the whole is no unusable word if an underscore occurs in it. -/
theorem isPossible_escaped_append {name suffix : String} (hname : isIdentifier name.toList = true)
    (hsuffix : isIdentifier suffix.toList = true) (hmark : '_' ∈ suffix.toList) :
    (escaped (name ++ suffix)).isPossible = true := by
  have hidentifier : isIdentifier (name ++ suffix).toList = true := by
    rw [String.toList_append]
    exact isIdentifier_append hname (isNameChar_of_isIdentifier hsuffix)
  have hunmarked : ∀ word ∈ unescapable, '_' ∉ word.toList := by decide
  rw [isPossible_escaped_iff hidentifier, unusable, List.mem_cons, not_or]
  constructor
  · intro hplaceholder
    have hlength := congrArg (List.length ∘ String.toList) hplaceholder
    rw [Function.comp_apply, String.toList_append, List.length_append] at hlength
    have hfirst := List.length_pos_of_ne_nil (List.ne_nil_of_mem hmark)
    have hsecond : 0 < name.toList.length := by
      refine List.length_pos_of_ne_nil fun hnil => ?_
      rw [hnil] at hname
      cases hname
    change name.toList.length + suffix.toList.length = 1 at hlength
    omega
  · intro hword
    refine hunmarked _ hword ?_
    rw [String.toList_append]
    exact List.mem_append_right _ hmark

end Code.Name

namespace Command.IsLaidOut

variable {command : Command} {index : Nat}

/-- Every position that the layout records is that of a field. -/
theorem exists_field (h : command.IsLaidOut)
    (hindex : index ∈ command.arguments.flatMap (·.layout.fields) ++ command.trailingFields) :
    ∃ field ∈ command.fields, command.fieldName index = field.name := by
  rw [h.positions, List.mem_range] at hindex
  refine ⟨command.fields[index], List.getElem_mem hindex, ?_⟩
  rw [fieldName, List.getElem?_eq_getElem hindex]
  rfl

/-- The fields behind those of the arguments have names of the generator. -/
theorem fieldName_of_trailing (h : command.IsLaidOut) (hindex : index ∈ command.trailingFields) :
    command.fieldName index ∈ ["count", "result_shm_id", "result_shm_offset", "client_id"] := by
  have hfield := List.mem_map_of_mem (f := (command.fields[·]?)) hindex
  rw [h.trailing] at hfield
  obtain ⟨field, hmem, hfield⟩ := List.mem_map.mp hfield
  rw [fieldName, ← hfield, Option.map_some, Option.getD_some]
  simp only [trailingMapping, resultMapping, List.mem_append, List.mem_map, List.mem_flatMap,
    List.mem_cons, List.not_mem_nil, or_false] at hmem
  rcases hmem with (⟨_, -, rfl⟩ | ⟨_, -, rfl | rfl⟩) | ⟨_, -, rfl⟩ <;> decide

end Command.IsLaidOut

/-! ## The names of commands -/

namespace Blueprint.IsCovered

variable {blueprint : Blueprint} {command : Command} {argument : Argument} {index : Nat}
  {place : Place}

theorem ident (hcommand : command ∈ blueprint.commands) (hargument : argument ∈ command.arguments) :
    blueprint.IsCovered (.named place argument.ident) :=
  .supplied (.argument hcommand hargument) rfl

theorem field (hplanned : blueprint.IsPlanned) (hcommand : command ∈ blueprint.commands)
    {field : Field} (hfield : field ∈ command.fields) :
    blueprint.IsCovered (.named place (.escaped field.name)) := by
  rw [(hplanned.laid command hcommand).fields, List.mem_append, List.mem_flatMap] at hfield
  rcases hfield with ⟨argument, hargument, hfield⟩ | htrailing
  · have hname := hplanned.arguments command hcommand argument hargument
    have happended : ∀ suffix : String, isIdentifier suffix.toList = true → '_' ∈ suffix.toList →
        blueprint.IsCovered (.named place (.escaped (argument.name ++ suffix))) :=
      fun suffix hsuffix hmark => .named (Name.isPossible_escaped_append hname hsuffix hmark) rfl
    unfold Argument.mapping at hfield
    cases hlayout : argument.layout with
    | word =>
      rw [hlayout] at hfield
      rw [List.mem_singleton.mp hfield]
      exact ident hcommand hargument
    | split | shm =>
      simp only [hlayout, List.mem_cons, List.not_mem_nil, or_false] at hfield
      rcases hfield with rfl | rfl
      · exact happended _ (by decide) (by decide)
      · exact happended _ (by decide) (by decide)
    | bucket =>
      rw [hlayout] at hfield
      rw [List.mem_singleton.mp hfield]
      exact happended _ (by decide) (by decide)
    | immediate =>
      rw [hlayout] at hfield
      cases hfield
    | result =>
      rw [hlayout] at hfield
      have hresult : ∀ field ∈ resultMapping, (Name.escaped field.name).isPossible = true := by
        decide
      exact .named (hresult field hfield) rfl
  · simp only [Command.trailingMapping, resultMapping, List.mem_append, List.mem_map,
      List.mem_flatMap, List.mem_cons, List.not_mem_nil, or_false] at htrailing
    rcases htrailing with (⟨_, -, rfl⟩ | ⟨_, -, rfl | rfl⟩) | ⟨_, -, rfl⟩ <;>
      exact .named (by decide) rfl

theorem fieldIdent (hplanned : blueprint.IsPlanned) (hcommand : command ∈ blueprint.commands)
    (hindex : index ∈ command.arguments.flatMap (·.layout.fields) ++ command.trailingFields) :
    blueprint.IsCovered (.named place (command.fieldIdent index)) := by
  obtain ⟨field, hfield, hname⟩ := (hplanned.laid command hcommand).exists_field hindex
  rw [Command.fieldIdent, hname]
  exact .field hplanned hcommand hfield

theorem location (hplanned : blueprint.IsPlanned) (hcommand : command ∈ blueprint.commands)
    (hargument : argument ∈ command.arguments) (hindex : index ∈ argument.layout.fields) :
    blueprint.IsCovered (.named place (command.fieldIdent index)) :=
  .fieldIdent hplanned hcommand
    (List.mem_append_left _ (List.mem_flatMap_of_mem hargument hindex))

theorem trailing (hplanned : blueprint.IsPlanned) (hcommand : command ∈ blueprint.commands)
    (hindex : index ∈ command.trailingFields) :
    blueprint.IsCovered (.named place (command.fieldIdent index)) :=
  .fieldIdent hplanned hcommand (List.mem_append_right _ hindex)

/-- Counted data is counted by an argument of the command. -/
theorem counter (hplanned : blueprint.IsPlanned) (hcommand : command ∈ blueprint.commands)
    (hargument : argument ∈ command.arguments) {counter units : Nat}
    (hsize : argument.layout.dataSize? = some (.counted counter units)) :
    blueprint.IsCovered (.named place (command.argumentIdent counter)) := by
  have hlaid := hplanned.laid command hcommand
  obtain ⟨position, hposition⟩ := List.getElem?_of_mem hargument
  obtain ⟨counting, -, hcounting, -⟩ :=
    hlaid.counter_of_countedBy? (hlaid.countedBy?_of_counted hposition hsize)
  rw [Command.argumentIdent_eq hcounting]
  exact ident hcommand (List.mem_of_getElem? hcounting)

end Blueprint.IsCovered

/-! ## Types -/

/-- What holds of the answer of one case and of every answer of the cases behind it. -/
theorem forall_mem_ite_some {α : Type} {property : α → Prop} {condition : Prop}
    [Decidable condition] {answer : α} {rest : Option α} (hanswer : property answer)
    (hrest : ∀ other ∈ rest, property other) :
    ∀ other ∈ if condition then some answer else rest, property other := by
  split
  · rintro other ⟨⟩
    exact hanswer
  · exact hrest

/-- The counterparts of the plain types are no keywords. -/
theorem isPossible_of_primitive? {base primitive : String} (h : primitive? base = some primitive) :
    (Name.verbatim primitive).isPossible = true ∧ (Name.verbatim primitive).isBare = false := by
  revert primitive
  change ∀ primitive ∈ primitive? base, _
  unfold primitive?
  repeat refine forall_mem_ite_some (by decide) ?_
  exact nofun

namespace Blueprint

variable {blueprint : Blueprint} {command : Command} {base : String} {place : Place}

theorem IsCovered.segment (hbase : blueprint.UsesType base) {segment : Name}
    (hsegment : segment ∈ valuePath base) : blueprint.IsCovered (.named place segment) := by
  have hbare : segment.isBare = false := by
    unfold valuePath at hsegment
    split at hsegment
    · rename_i primitive hprimitive
      rw [List.mem_singleton.mp hsegment]
      exact (isPossible_of_primitive? hprimitive).2
    · obtain ⟨text, -, rfl⟩ := List.mem_map.mp hsegment
      rfl
  exact .supplied (.type hbase hsegment) hbare

theorem covers_valueType (hbase : blueprint.UsesType base) :
    blueprint.Covers (valueType base).demands :=
  covers_names.mpr fun _ hsegment => .segment hbase hsegment

/-- The path of a type, possibly with a constant of the type behind it. -/
theorem covers_pathDemands {segments : List Name} {isGlobal : Bool}
    (h : ∀ segment ∈ segments, ∀ place, blueprint.IsCovered (.named place segment)) :
    blueprint.Covers (Expr.pathDemands isGlobal segments) := by
  cases segments with
  | nil => exact covers_nil
  | cons first rest =>
    rw [List.forall_mem_cons] at h
    exact covers_cons.mpr ⟨h.1 _, covers_names.mpr fun segment hsegment => h.2 segment hsegment _⟩

theorem covers_sliced {element : Ty} (h : blueprint.Covers element.demands) (isConst : Bool)
    (depth : Nat) : blueprint.Covers (CType.sliced isConst element depth).demands := by
  induction depth with
  | zero => exact h
  | succ depth ih => exact ih

theorem covers_clientType {type : CType} (hbase : blueprint.UsesType type.base) :
    blueprint.Covers type.clientType.demands := by
  unfold CType.clientType
  split
  · exact covers_cons.mpr ⟨.sound (by decide), covers_nil⟩
  · exact covers_sliced (covers_valueType hbase) _ _

theorem covers_argumentType {argument : Argument} (hcommand : command ∈ blueprint.commands)
    (hargument : argument ∈ command.arguments) : blueprint.Covers argument.valueType.demands :=
  covers_valueType (.argument hcommand hargument)

theorem covers_storageType (storage : StorageType) : blueprint.Covers storage.type.demands :=
  covers_cons.mpr ⟨.sound (by cases storage <;> decide), covers_nil⟩

/-! ## Parameters of `init` -/

/-- A parameter that stores a field as it is. -/
theorem covers_unsigned {name : String} {source : InitSource}
    (h : ∀ place, blueprint.IsCovered (.named place (.escaped name))) :
    (∀ place, blueprint.IsCovered (.named place (InitParam.unsigned name source).name)) ∧
      blueprint.Covers (InitParam.unsigned name source).type.demands :=
  ⟨h, covers_cons.mpr ⟨.sound (by decide), covers_nil⟩⟩

theorem covers_countParam :
    (∀ place, blueprint.IsCovered (.named place Command.countParam.name)) ∧
      blueprint.Covers Command.countParam.type.demands :=
  covers_unsigned fun _ => .named (by decide) rfl

theorem covers_argumentParam (hplanned : blueprint.IsPlanned)
    (hcommand : command ∈ blueprint.commands) {argument : Argument}
    (hargument : argument ∈ command.arguments) {index : Nat} {param : InitParam}
    (hparam : param ∈ command.argumentParams argument index) :
    (∀ place, blueprint.IsCovered (.named place param.name)) ∧
      blueprint.Covers param.type.demands := by
  have hlocation : ∀ index ∈ argument.layout.fields, ∀ place,
      blueprint.IsCovered (.named place (command.fieldIdent index)) :=
    fun _ hindex _ => .location hplanned hcommand hargument hindex
  unfold Command.argumentParams at hparam
  cases hlayout : argument.layout with
  | word | split =>
    rw [hlayout] at hparam
    rw [List.mem_singleton.mp hparam]
    exact ⟨fun _ => .ident hcommand hargument, covers_argumentType hcommand hargument⟩
  | shm | result =>
    simp only [hlayout, Layout.fields, List.mem_cons, List.not_mem_nil, or_false,
      forall_eq_or_imp, forall_eq] at hparam hlocation
    rcases hparam with rfl | rfl
    · exact covers_unsigned hlocation.1
    · exact covers_unsigned hlocation.2
  | bucket =>
    simp only [hlayout, Layout.fields, List.mem_cons, List.not_mem_nil, or_false,
      forall_eq] at hparam hlocation
    rw [hparam]
    exact covers_unsigned hlocation
  | immediate =>
    rw [hlayout] at hparam
    cases hparam

theorem covers_trailingParam (hplanned : blueprint.IsPlanned)
    (hcommand : command ∈ blueprint.commands) {param : InitParam}
    (hparam : param ∈ command.trailingParams) :
    (∀ place, blueprint.IsCovered (.named place param.name)) ∧
      blueprint.Covers param.type.demands := by
  have htrailing : ∀ index ∈ command.trailingFields, ∀ place,
      blueprint.IsCovered (.named place (command.fieldIdent index)) :=
    fun _ hindex _ => .trailing hplanned hcommand hindex
  simp only [Command.trailingFields, List.mem_append, Option.mem_toList, List.mem_flatMap,
    List.mem_cons, List.not_mem_nil, or_false] at htrailing
  simp only [Command.trailingParams, List.mem_append, Option.mem_toList, List.mem_flatMap,
    Option.map_eq_some_iff, List.mem_cons, List.not_mem_nil, or_false] at hparam
  rcases hparam with ((⟨_, -, rfl⟩ | ⟨result, hresult, rfl | rfl⟩) | ⟨id, hid, rfl⟩) | hdata
  · exact covers_countParam
  · exact covers_unsigned (htrailing _ (.inl (.inr ⟨result, hresult, .inl rfl⟩)))
  · exact covers_unsigned (htrailing _ (.inl (.inr ⟨result, hresult, .inr rfl⟩)))
  · exact covers_unsigned (htrailing _ (.inr hid))
  · split at hdata
    · rw [List.mem_singleton.mp hdata]
      exact covers_countParam
    · cases hdata

theorem covers_param (hplanned : blueprint.IsPlanned) (hcommand : command ∈ blueprint.commands)
    {param : InitParam} (hparam : param ∈ command.initParams) :
    (∀ place, blueprint.IsCovered (.named place param.name)) ∧
      blueprint.Covers param.type.demands := by
  rw [Command.initParams, List.mem_append, List.mem_flatMap] at hparam
  rcases hparam with ⟨⟨argument, index⟩, hindexed, hparam⟩ | htrailing
  · have hargument := List.mem_of_getElem? (List.mem_zipIdx_iff_getElem?.mp hindexed)
    exact covers_argumentParam hplanned hcommand hargument hparam
  · exact covers_trailingParam hplanned hcommand htrailing

/-! ## What breaks an emission off -/

/-- An entry is a record of the blueprint with one of its commands. -/
theorem mem_of_preferredCommand? {blueprint : Blueprint} {records : List Record} {record : Record}
    {command : Command} (hrecords : records ⊆ blueprint.records)
    (h : (record, command) ∈ records.filterMap fun record =>
      (blueprint.preferredCommand? record).map (record, ·)) :
    record ∈ records ∧ record ∈ blueprint.records ∧ command ∈ blueprint.commands := by
  obtain ⟨source, hsource, h⟩ := List.mem_filterMap.mp h
  obtain ⟨preferred, hpreferred, h⟩ := Option.map_eq_some_iff.mp h
  cases h
  exact ⟨hsource, hrecords hsource, List.mem_of_mem_filter (List.mem_of_head? hpreferred)⟩

/-- Only a supplied name can be impossible. -/
theorem IsCovered.supplies (hplanned : blueprint.IsPlanned) {demand : Demand}
    (h : blueprint.IsCovered demand) {name : Name} (hdemand : demand = .named place name)
    (hname : name.isPossible = false) : blueprint.Supplies name := by
  induction h generalizing place with
  | sound h =>
    subst hdemand
    rw [Bool.and_eq_true, Demand.isWritable, hname] at h
    cases h.1
  | supplied hsupplied hbare =>
    cases hdemand
    exact hsupplied
  | struct hcommand =>
    cases hdemand
    rw [Command.structName, Name.isPossible_verbatim (hplanned.commands _ hcommand)] at hname
    cases hname
  | resource hentry hkept hresource =>
    cases hdemand
    obtain ⟨hmem, hrecord, -⟩ := mem_of_preferredCommand? (fun _ => List.mem_of_mem_filter) hentry
    exact .resource hrecord (List.mem_filter.mp hmem).2 hresource
  | token hname ih =>
    cases hdemand
    exact ih rfl
  | support => cases hdemand
  | membership => cases hdemand

/-- A supplied name is spelled so, and no spelling makes it a name. -/
def Breaks (blueprint : Blueprint) (spelling : String) : Prop :=
  ∃ name, blueprint.Supplies name ∧ name.isPossible = false ∧ name.spelling = spelling

/-- What is emitted has the property, and only a supplied name breaks the emission off. -/
structure Emits {α : Type} (blueprint : Blueprint) (property : α → Prop) (emission : Emission α) :
    Prop where
  ok : ∀ value, emission = .ok value → property value
  broken : ∀ spelling, emission = .error (.impossibleName spelling) → blueprint.Breaks spelling

variable {α β : Type} {property : α → Prop} {other : β → Prop}

namespace Emits

theorem bind {step : Emission α} {next : α → Emission β} (h : blueprint.Emits property step)
    (hnext : ∀ value, property value → blueprint.Emits other (next value)) :
    blueprint.Emits other (step >>= next) where
  ok := fun result hresult =>
    let ⟨value, hvalue, hresult⟩ := bind_eq_ok.mp hresult
    (hnext value (h.ok value hvalue)).ok result hresult
  broken := fun spelling hbroken =>
    (bind_eq_error.mp hbroken).elim (h.broken spelling) fun ⟨value, hvalue, hbroken⟩ =>
      (hnext value (h.ok value hvalue)).broken spelling hbroken

theorem pure {value : α} (h : property value) : blueprint.Emits property (Pure.pure value) where
  ok := fun _ hvalue => pure_eq_ok.mp hvalue ▸ h
  broken := fun _ hbroken => by cases hbroken

end Emits

/-- A failure is reported with its reason, not broken off. -/
theorem emits_rejecting {outcome : Except EmitError α}
    (h : ∀ value, outcome = .ok value → property value) :
    blueprint.Emits property (Emission.rejecting outcome) where
  ok := fun value hvalue => h value (mapError_eq_ok.mp hvalue)
  broken := fun spelling hbroken => by
    obtain ⟨cause, -, hcause⟩ := mapError_eq_error.mp hbroken
    cases hcause

theorem emits_rejected {cause : EmitError} :
    blueprint.Emits property (.error (.rejected cause)) where
  ok := fun _ hvalue => by cases hvalue
  broken := fun _ hbroken => by cases hbroken

theorem emits_requireNames {names : List Name}
    (h : ∀ name ∈ names, name.isPossible = false → blueprint.Supplies name) :
    blueprint.Emits (fun _ => True) (Emission.requireNames names) where
  ok := fun _ _ => trivial
  broken := by
    intro spelling hbroken
    unfold Emission.requireNames at hbroken
    split at hbroken
    · rename_i name hfound
      cases hbroken
      have himpossible := List.find?_some hfound
      rw [Bool.not_eq_true'] at himpossible
      exact ⟨name, h name (List.mem_of_find?_eq_some hfound) himpossible, himpossible, rfl⟩
    · cases hbroken

theorem emits_requireWritable (hplanned : blueprint.IsPlanned) {demands : List Demand}
    (h : blueprint.Covers demands) :
    blueprint.Emits (fun _ => True) (Emission.requireWritable demands) where
  ok := fun _ _ => trivial
  broken := by
    intro spelling hbroken
    unfold Emission.requireWritable at hbroken
    split at hbroken
    · rename_i place name hfound
      cases hbroken
      have himpossible := List.find?_some hfound
      rw [Bool.not_eq_true'] at himpossible
      exact ⟨name, (h _ (List.mem_of_find?_eq_some hfound)).supplies hplanned rfl himpossible,
        himpossible, rfl⟩
    · cases hbroken

theorem emits_finish (hplanned : blueprint.IsPlanned) {names : List Name} {file : SourceFile}
    (hnames : ∀ name ∈ names, name.isPossible = false → blueprint.Supplies name)
    (hfile : blueprint.Covers file.demands) :
    blueprint.Emits (fun code => blueprint.Covers code.demands) (Emission.finish names file) :=
  (emits_requireNames hnames).bind fun _ _ =>
    (emits_requireWritable hplanned hfile).bind fun _ _ => .pure hfile

theorem emits_mapM {f : α → Emission β} {items : List α}
    (h : ∀ item ∈ items, blueprint.Emits other (f item)) :
    blueprint.Emits (fun values => ∀ value ∈ values, other value) (items.mapM f) := by
  induction items with
  | nil => exact .pure fun _ h => absurd h List.not_mem_nil
  | cons item items ih =>
    rw [List.forall_mem_cons] at h
    rw [List.mapM_cons]
    exact h.1.bind fun value hvalue => (ih h.2).bind fun values hvalues =>
      .pure (List.forall_mem_cons.mpr ⟨hvalue, hvalues⟩)

end Blueprint
end CommandBuffer
