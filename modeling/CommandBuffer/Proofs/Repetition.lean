import CommandBuffer.Artifact.Bundle
import CommandBuffer.Proofs.Bundles
import CommandBuffer.Proofs.ClosedWriters
import CommandBuffer.Proofs.RoundTrip

/-! # Repeated names

Parameters of generated functions and methods of a command struct are called by names of arguments
and by names that the generator makes up. The planner keeps the names of fields apart, but three
kinds of names are no fields: those of arguments of two words, that of data behind a command, and
the count of such data if its size is unknown.
-/

namespace CommandBuffer

open Code

/-- The parameters as they are spelled. -/
def Code.Signature.spelledParameters (signature : Signature) : List String :=
  signature.parameters.map (·.name.spelling)

/-- The functions among the members, as they are spelled. -/
def Code.Member.spelledFunctions (members : List Member) : List String :=
  members.filterMap fun
    | .function member => some member.signature.name.spelling
    | .constant _ => none

variable {command : Command} {argument : Argument}

namespace Argument

/-- The argument takes two words, so that its own name is no field. -/
def isWide (argument : Argument) : Bool :=
  match argument.layout with
  | .split .. => true
  | _ => false

/-- The names of the parameters of `init` that the argument asks for. -/
def paramNames (argument : Argument) : List String :=
  if argument.isWide then [argument.name] else argument.mapping.map Field.name

end Argument

namespace Command

/-- The names of the arguments that take two words. -/
def wideNames (command : Command) : List String :=
  (command.arguments.filter Argument.isWide).map Argument.name

/-- The names of the fields behind the arguments, apart from a count. -/
def answerNames (command : Command) : List String :=
  (command.result.toList.flatMap fun _ => resultMapping.map Field.name)
    ++ command.clientId.toList.map fun _ => "client_id"

/-- The names of the parameters of `init` that are fields themselves, apart from a count. -/
def storedNames (command : Command) : List String :=
  (command.arguments.filter fun argument => !argument.isWide).flatMap (·.mapping.map Field.name)
    ++ command.answerNames

/-- The names of the parameters that `init` and the writer share, in their order. -/
def sharedNames (command : Command) : List String :=
  command.arguments.flatMap Argument.paramNames ++ command.answerNames

/-- The name of the count that `init` takes, for a field or for data of an unknown size. -/
def countNames (command : Command) : List String :=
  command.count.toList.map (fun _ => "count")
    ++ match command.immediate? with
      | some (_, .unsized) => ["count"]
      | _ => []

/-- The name of the data behind the command. -/
def dataNames (command : Command) : List String :=
  command.immediate?.toList.map (·.1.name)

/-! ## The shared parameters -/

theorem perm_sharedNames (command : Command) :
    (command.wideNames ++ command.storedNames).Perm command.sharedNames := by
  have hwide : (command.arguments.filter Argument.isWide).flatMap Argument.paramNames
      = command.wideNames := by
    rw [wideNames, List.map_eq_flatMap]
    refine List.flatMap_congr fun argument hargument => ?_
    rw [Argument.paramNames, if_pos (List.mem_filter.mp hargument).2]
  have hstored : (command.arguments.filter fun argument => !argument.isWide).flatMap
      Argument.paramNames = (command.arguments.filter fun argument => !argument.isWide).flatMap
        (·.mapping.map Field.name) := by
    refine List.flatMap_congr fun argument hargument => ?_
    have hnarrow := (List.mem_filter.mp hargument).2
    rw [Argument.paramNames, if_neg (by simpa using hnarrow)]
  rw [storedNames, ← hwide, ← hstored, ← List.append_assoc, ← List.flatMap_append]
  exact ((List.filter_append_perm _ _).flatMap_right _).append_right _

/-! ## How parameters are called -/

/-- How parameters of `init` are called: those that take a count, and all others. -/
structure AreCalled (params : List InitParam) (counts others : List String) : Prop where
  counts : (params.filter (·.source == .count)).map InitParam.name = counts.map Name.escaped
  others : (params.filter (·.source != .count)).map InitParam.name = others.map Name.escaped

namespace AreCalled

theorem nil : AreCalled [] [] [] := ⟨rfl, rfl⟩

theorem countParam : AreCalled [countParam] ["count"] [] := ⟨rfl, rfl⟩

theorem append {params rest : List InitParam} {counts others moreCounts moreOthers : List String}
    (h : AreCalled params counts others) (hrest : AreCalled rest moreCounts moreOthers) :
    AreCalled (params ++ rest) (counts ++ moreCounts) (others ++ moreOthers) := by
  constructor
  · rw [List.filter_append, List.map_append, List.map_append, h.counts, hrest.counts]
  · rw [List.filter_append, List.map_append, List.map_append, h.others, hrest.others]

/-- No parameter takes a count. -/
theorem of_names {params : List InitParam} {names : List String}
    (hsource : ∀ param ∈ params, param.source ≠ .count)
    (hnames : params.map InitParam.name = names.map Name.escaped) : AreCalled params [] names := by
  constructor
  · rw [List.filter_eq_nil_iff.mpr (by simpa using hsource)]
    rfl
  · rw [List.filter_eq_self.mpr (by simpa using hsource), hnames]

end AreCalled

theorem areCalled_count (command : Command) :
    AreCalled (command.count.map fun _ => countParam).toList
      (command.count.toList.map fun _ => "count") [] := by
  cases command.count with
  | none => exact .nil
  | some => exact .countParam

/-- A count without a field. -/
theorem areCalled_unsized (command : Command) :
    AreCalled
      (match command.immediate? with
        | some (_, .unsized) => [countParam]
        | _ => [])
      (match command.immediate? with
        | some (_, .unsized) => ["count"]
        | _ => [])
      [] := by
  split
  · exact .countParam
  · exact .nil

/-! ## Names of a command that was laid out -/

namespace IsLaidOut

/-- The names of fields, argument by argument. -/
theorem map_name_fields (h : command.IsLaidOut) :
    command.fields.map Field.name = command.arguments.flatMap (·.mapping.map Field.name)
      ++ (command.count.toList.map (fun _ => "count") ++ command.answerNames) := by
  rw [h.fields, List.map_append, List.map_flatMap, trailingMapping, answerNames]
  simp only [List.map_append, List.map_map, List.map_flatMap, List.append_assoc]
  rfl

theorem storedNames_sublist (h : command.IsLaidOut) :
    command.storedNames.Sublist (command.fields.map Field.name) := by
  rw [h.map_name_fields]
  exact (List.filter_sublist.flatMap _).append (List.sublist_append_right _ _)

/-- Names that are fields are taken once. -/
theorem nodup_storedNames (h : command.IsLaidOut) : command.storedNames.Nodup :=
  h.nodup.sublist h.storedNames_sublist

/-- Arguments of two words of one name would share their halves. -/
theorem nodup_wideNames (h : command.IsLaidOut) : command.wideNames.Nodup := by
  apply List.Nodup.of_map (· ++ "_0")
  refine h.nodup.sublist ?_
  rw [h.map_name_fields]
  refine List.Sublist.trans ?_ (List.sublist_append_left _ _)
  refine List.Sublist.trans ?_ ((List.filter_sublist (p := Argument.isWide)).flatMap _)
  rw [wideNames, List.map_map, List.map_eq_flatMap]
  refine List.Sublist.flatMap_right _ fun argument hargument => ?_
  have hwide := (List.mem_filter.mp hargument).2
  unfold Argument.isWide at hwide
  split at hwide
  · rename_i low high hlayout
    rw [Argument.mapping, hlayout]
    exact List.singleton_sublist.mpr List.mem_cons_self
  · cases hwide

/-- The shared parameters repeat no name but one of two words that is a field, too. -/
theorem nodup_sharedNames_iff (h : command.IsLaidOut) :
    command.sharedNames.Nodup ↔ ∀ name ∈ command.wideNames, name ∉ command.storedNames := by
  rw [← command.perm_sharedNames.nodup_iff, List.nodup_append]
  constructor
  · rintro ⟨-, -, hapart⟩ name hname hstored
    exact hapart name hname name hstored rfl
  · intro hapart
    refine ⟨h.nodup_wideNames, h.nodup_storedNames, ?_⟩
    rintro name hname other hother rfl
    exact hapart name hname hother

/-! ## The parameters of `init` and of the writer -/

/-- Fields are called in generated code as they were planned. -/
theorem map_fieldIdent (positions : List Nat) (added : List Field)
    (h : positions.map (command.fields[·]?) = added.map some) :
    positions.map command.fieldIdent = (added.map Field.name).map Name.escaped := by
  have hident : command.fieldIdent = (fun field : Option Field =>
      Name.escaped ((field.map Field.name).getD "")) ∘ (command.fields[·]?) := rfl
  rw [hident, ← List.map_map, h, List.map_map, List.map_map]
  rfl

theorem names_argumentParams (h : command.IsLaidOut) {index : Nat}
    (hargument : command.arguments[index]? = some argument) :
    (command.argumentParams argument index).map InitParam.name
      = argument.paramNames.map Name.escaped := by
  have hmem := List.mem_of_getElem? hargument
  have hfields := map_fieldIdent _ _ (h.blocks argument hmem)
  unfold argumentParams Argument.paramNames Argument.isWide
  cases hlayout : argument.layout with
  | split low high => rfl
  | word field kind => rw [Argument.mapping, hlayout]; rfl
  | shm | bucket | result =>
    rw [hlayout] at hfields
    exact hfields
  | immediate size => rw [Argument.mapping, hlayout]; rfl

theorem areCalled_result (h : command.IsLaidOut) :
    AreCalled
      (command.result.toList.flatMap fun r =>
        [.unsigned (command.fieldName r.id) .resultId,
          .unsigned (command.fieldName r.offset) .resultOffset])
      [] (command.result.toList.flatMap fun _ => resultMapping.map Field.name) := by
  cases hresult : command.result with
  | none => exact .nil
  | some result =>
    refine .of_names (by simp [InitParam.unsigned]) ?_
    exact map_fieldIdent [result.id, result.offset] resultMapping (h.fields_of_result hresult)

theorem areCalled_client (h : command.IsLaidOut) :
    AreCalled
      (command.clientId.map fun id => .unsigned (command.fieldName id) .clientId).toList
      [] (command.clientId.toList.map fun _ => "client_id") := by
  cases hclient : command.clientId with
  | none => exact .nil
  | some field =>
    refine .of_names (by simp [InitParam.unsigned]) ?_
    exact map_fieldIdent [field] [⟨"client_id", .u32⟩]
      (congrArg ([·]) (h.field_of_clientId hclient))

/-- A count without a field stands last. -/
theorem areCalled_trailingParams (h : command.IsLaidOut) :
    AreCalled command.trailingParams command.countNames command.answerNames := by
  have hfields := (command.areCalled_count.append h.areCalled_result).append h.areCalled_client
  rw [List.append_nil, List.append_nil, List.nil_append] at hfields
  have hall := hfields.append command.areCalled_unsized
  rw [List.append_nil] at hall
  exact hall

theorem areCalled_arguments (h : command.IsLaidOut) :
    AreCalled
      (command.arguments.zipIdx.flatMap fun item => command.argumentParams item.1 item.2)
      [] (command.arguments.flatMap Argument.paramNames) := by
  refine .of_names ?_ ?_
  · intro param hparam
    obtain ⟨item, -, hparam⟩ := List.mem_flatMap.mp hparam
    exact source_of_argumentParams hparam
  · rw [List.map_flatMap, List.map_flatMap, ← flatMap_zipIdx command.arguments]
    refine List.flatMap_congr fun item hitem => ?_
    exact h.names_argumentParams (List.mem_zipIdx_iff_getElem?.mp hitem)

/-- The parameters of `init` are the shared ones and a count. -/
theorem areCalled_initParams (h : command.IsLaidOut) :
    AreCalled command.initParams command.countNames command.sharedNames :=
  h.areCalled_arguments.append h.areCalled_trailingParams

theorem eq_of_mem_countNames {name : String} (hname : name ∈ command.countNames) :
    name = "count" := by
  rcases List.mem_append.mp hname with hfield | hunsized
  · obtain ⟨-, -, rfl⟩ := List.mem_map.mp hfield
    rfl
  · split at hunsized
    · exact List.mem_singleton.mp hunsized
    · cases hunsized

/-- There is one count at most. -/
theorem nodup_countNames (h : command.IsLaidOut) : command.countNames.Nodup := by
  unfold countNames
  split
  · rename_i argument himmediate
    rw [h.count_of_unsized himmediate]
    exact List.nodup_singleton _
  · rw [List.append_nil]
    cases command.count
    · exact List.nodup_nil
    · exact List.nodup_singleton _

/-- The names of parameters are not marked as raw. -/
theorem isUnmarked_names (h : command.IsLaidOut) (hnamed : command.IsNamed) :
    ∀ name ∈ command.countNames ++ command.sharedNames ++ command.dataNames,
      Name.IsUnmarked name := by
  intro name hname
  rcases List.mem_append.mp hname with hname | hdata
  · rcases List.mem_append.mp hname with hcount | hshared
    · rw [eq_of_mem_countNames hcount]
      decide
    · rcases List.mem_append.mp (command.perm_sharedNames.mem_iff.mpr hshared) with hwide | hstored
      · obtain ⟨argument, hargument, rfl⟩ := List.mem_map.mp hwide
        exact hnamed argument (List.mem_filter.mp hargument).1
      · obtain ⟨field, hfield, rfl⟩ := List.mem_map.mp (h.storedNames_sublist.subset hstored)
        exact hnamed.fields h field hfield
  · obtain ⟨⟨argument, size⟩, himmediate, rfl⟩ := List.mem_map.mp hdata
    obtain ⟨index, hindex, -⟩ := exists_of_immediate? (Option.mem_toList.mp himmediate)
    exact hnamed argument (List.mem_of_getElem? hindex)

/-- `init` repeats a name exactly if an argument of two words is called like a field, or another
parameter like the count. -/
theorem nodup_init_iff (h : command.IsLaidOut) (hnamed : command.IsNamed) :
    (CommandFormat.init command).signature.spelledParameters.Nodup ↔
      (∀ name ∈ command.wideNames, name ∉ command.storedNames) ∧
        ∀ name ∈ command.countNames, name ∉ command.sharedNames := by
  obtain ⟨hcount, hshared⟩ := h.areCalled_initParams
  have hspelled : (CommandFormat.init command).signature.spelledParameters
      = (command.initParams.map InitParam.name).map Name.spelling := by
    rw [List.map_map]
    exact List.map_map
  have hperm : (command.initParams.map InitParam.name).Perm
      ((command.countNames ++ command.sharedNames).map Name.escaped) := by
    rw [List.map_append, ← hcount, ← hshared, ← List.map_append]
    exact ((List.filter_append_perm _ _).map _).symm
  have hunmarked : ∀ name ∈ command.countNames ++ command.sharedNames, Name.IsUnmarked name :=
    fun name hname => h.isUnmarked_names hnamed name (List.mem_append_left _ hname)
  rw [hspelled, (hperm.map _).nodup_iff, Name.nodup_spelling_iff hunmarked,
    List.nodup_append', h.nodup_sharedNames_iff, List.disjoint_left]
  exact and_iff_right h.nodup_countNames

/-- The writer repeats a name exactly if an argument of two words is called like a field, or the
data like another parameter. -/
theorem nodup_writer_iff (h : command.IsLaidOut) (hnamed : command.IsNamed) :
    command.writer.signature.spelledParameters.Nodup ↔
      (∀ name ∈ command.wideNames, name ∉ command.storedNames) ∧
        ∀ name ∈ command.dataNames, name ∉ command.sharedNames := by
  have hspelled : command.writer.signature.spelledParameters
      = ((command.sharedNames ++ command.dataNames).map Name.escaped).map Name.spelling := by
    rw [List.map_append, ← h.areCalled_initParams.others, dataNames]
    cases himmediate : command.immediate? <;>
      simp [Signature.spelledParameters, writer, writerParams, himmediate, InitParam.parameter,
        Argument.ident]
  have hunmarked : ∀ name ∈ command.sharedNames ++ command.dataNames, Name.IsUnmarked name := by
    intro name hname
    refine h.isUnmarked_names hnamed name ?_
    rw [List.append_assoc]
    exact List.mem_append_right _ hname
  have hdata : command.dataNames.Nodup := by
    unfold dataNames
    cases command.immediate? <;> simp
  rw [hspelled, Name.nodup_spelling_iff hunmarked, List.nodup_append', h.nodup_sharedNames_iff,
    List.disjoint_right]
  exact and_congr_right fun _ => and_iff_right hdata

end IsLaidOut

/-! ## The methods of the command struct -/

/-- The functions of a command struct besides the readers of its arguments. -/
def ownFunctions (command : Command) : List String :=
  (if command.isImmediate then ["compute_data_size", "compute_size"] else [])
    ++ ["set_header", "init"]

theorem spelling_sizeFunctions (command : Command) :
    (CommandFormat.sizeFunctions command ++ [CommandFormat.init command]).map
      (·.signature.name.spelling) = command.ownFunctions := by
  unfold CommandFormat.sizeFunctions ownFunctions isImmediate
  cases command.immediate? with
  | none => rfl
  | some found =>
    rcases found with ⟨argument, size⟩
    cases size <;> rfl

/-- Every argument of two words has a reader of its name. -/
theorem spelling_accessors (command : Command) :
    (CommandFormat.accessors command).map (·.signature.name.spelling)
      = (command.wideNames.map Name.escaped).map Name.spelling := by
  unfold CommandFormat.accessors wideNames
  induction command.arguments with
  | nil => rfl
  | cons argument rest ih =>
    cases hlayout : argument.layout with
    | split low high =>
      rw [List.filterMap_cons_some (accessor?_of_split hlayout),
        List.filter_cons_of_pos (by rw [Argument.isWide, hlayout]), List.map_cons, ih]
      rfl
    | word | shm | bucket | immediate | result =>
      rw [List.filterMap_cons_none (by rw [CommandFormat.accessor?, hlayout]),
        List.filter_cons_of_neg (by rw [Argument.isWide, hlayout]; simp), ih]

/-- The functions in the implementation of the command struct. -/
def methodNames (command : Command) : List String :=
  Member.spelledFunctions (CommandFormat.members command)

theorem methodNames_eq (command : Command) : command.methodNames
    = command.ownFunctions ++ (command.wideNames.map Name.escaped).map Name.spelling := by
  have hfunctions : ∀ functions : List Function,
      Member.spelledFunctions (functions.map .function)
        = functions.map (·.signature.name.spelling) := by
    intro functions
    rw [Member.spelledFunctions, List.filterMap_map, ← List.filterMap_eq_map]
    rfl
  have hconstants : ∀ constants : List Constant,
      Member.spelledFunctions (constants.map .constant) = [] := by
    intro constants
    rw [Member.spelledFunctions, List.filterMap_map]
    exact List.filterMap_eq_nil_iff.mpr fun _ _ => rfl
  have happend : ∀ first second, Member.spelledFunctions (first ++ second)
      = Member.spelledFunctions first ++ Member.spelledFunctions second :=
    fun _ _ => List.filterMap_append
  rw [methodNames, CommandFormat.members, happend, hconstants, List.nil_append, hfunctions,
    List.map_append, spelling_sizeFunctions, spelling_accessors]

/-- Two methods share a name exactly if the reader of an argument of two words is called like
another function of the struct. -/
theorem IsLaidOut.nodup_methodNames_iff (h : command.IsLaidOut) (hnamed : command.IsNamed) :
    command.methodNames.Nodup ↔ ∀ name ∈ command.wideNames, name ∉ command.ownFunctions := by
  have hown : command.ownFunctions.Nodup ∧
      ∀ name ∈ command.ownFunctions, name ∉ keywords ∧ Name.IsUnmarked name := by
    unfold ownFunctions
    split <;> decide
  have hunmarked : ∀ name ∈ command.wideNames, Name.IsUnmarked name := by
    intro name hname
    obtain ⟨argument, hargument, rfl⟩ := List.mem_map.mp hname
    exact hnamed argument (List.mem_filter.mp hargument).1
  rw [methodNames_eq, List.nodup_append', Name.nodup_spelling_iff hunmarked, List.disjoint_right]
  rw [and_iff_right hown.1, and_iff_right h.nodup_wideNames, List.map_map, List.forall_mem_map]
  refine forall₂_congr fun name _ => not_congr ⟨fun hspelled => ?_, fun hname => ?_⟩
  · obtain ⟨hfree, hplain⟩ := hown.2 _ hspelled
    have hsame : name = (Name.escaped name).spelling :=
      (Name.escaped_spelling_eq_iff hfree hplain).mp rfl
    exact hsame ▸ hspelled
  · rwa [Function.comp_apply, Name.escaped_spelling_eq (hown.2 name hname).1]

end Command

namespace Protocol

variable {protocol : Protocol} {records : List Record} {commands : List Command}

/-- A trait method and a marshaling function repeat exactly the names that a declaration repeats. -/
theorem nodup_clientParameters_iff (hrecords : protocol.records = .ok records) {record : Record}
    (hrecord : record ∈ records) (name : Name) :
    (record.clientSignature name).spelledParameters.Nodup ↔
      (record.declared.map Param.name).Nodup := by
  have hspelled : (record.clientSignature name).spelledParameters
      = ((record.declared.map Param.name).map Name.escaped).map Name.spelling := by
    simp [Signature.spelledParameters, Record.clientSignature, Record.clientParameters]
  rw [hspelled]
  refine Name.nodup_spelling_iff fun text htext => ?_
  obtain ⟨param, hparam, rfl⟩ := List.mem_map.mp htext
  exact Name.isUnmarked_of_isIdentifier
    (isIdentifier_of_records hrecords record hrecord param hparam)

/-- The names that are repeated in a list of parameters or among the methods of a struct are those
that a declaration repeats, those of arguments of two words, of data and of a count. -/
theorem repeated_names_iff (hrecords : protocol.records = .ok records)
    (hcommands : protocol.commands records = .ok commands) :
    (∀ record ∈ records,
      ((Interface.prototype record).signature.spelledParameters.Nodup ↔
        (record.declared.map Param.name).Nodup) ∧
      ∀ implementation command,
        ((Marshaling.function implementation record command).signature.spelledParameters.Nodup ↔
          (record.declared.map Param.name).Nodup)) ∧
    ∀ command ∈ commands,
      ((CommandFormat.init command).signature.spelledParameters.Nodup ↔
        (∀ name ∈ command.wideNames, name ∉ command.storedNames) ∧
          ∀ name ∈ command.countNames, name ∉ command.sharedNames) ∧
      (command.writer.signature.spelledParameters.Nodup ↔
        (∀ name ∈ command.wideNames, name ∉ command.storedNames) ∧
          ∀ name ∈ command.dataNames, name ∉ command.sharedNames) ∧
      (command.methodNames.Nodup ↔
        ∀ name ∈ command.wideNames, name ∉ command.ownFunctions) := by
  constructor
  · intro record hrecord
    exact ⟨nodup_clientParameters_iff hrecords hrecord record.method,
      fun _ _ => nodup_clientParameters_iff hrecords hrecord record.marshalName⟩
  · intro command hcommand
    have h := isLaidOut_of_commands hcommands command hcommand
    have hnamed := isNamed_of_commands hrecords hcommands command hcommand
    exact ⟨h.nodup_init_iff hnamed, h.nodup_writer_iff hnamed, h.nodup_methodNames_iff hnamed⟩

end Protocol

/-! ## Names that are apart and names that are not -/

def stampProtocol : Protocol where
  name := "Stamp"
  filePrefix := "stamp"
  description := "Arguments called like parts of the generated code"
  commandBase := 256
  supportPath := "crate::support"
  types := {}
  overrides := ⟨[{ name := "Upload", strategy := some .custom }]⟩
  functions := "void SetStamp(GLuint64 value);
    void Upload(GLsizei count, const GLuint* values);
    void Mark(GLuint64 init);"

def stampParams : List Param := [⟨{ base := "GLuint64" }, "value"⟩]

def stampRecord : Record :=
  .merge { name := "SetStamp", returnType := .void, params := stampParams, line := 1 }
    { name := "SetStamp" } stampParams .direct [.shm]

def stampCommand : Command where
  record := stampRecord
  transfer := .shm
  name := "SetStamp"
  id := 256
  fields := [⟨"value_0", .u32⟩, ⟨"value_1", .u32⟩]
  arguments := List.zipWith Argument.mk stampParams [.split 0 1]
  count := none
  result := none
  clientId := none

def uploadParams : List Param := [
  ⟨{ base := "GLsizei" }, "count"⟩,
  ⟨{ isConst := true, base := "GLuint", pointerDepth := 1 }, "values"⟩]

def uploadRecord : Record :=
  .merge { name := "Upload", returnType := .void, params := uploadParams, line := 2 }
    { name := "Upload" } uploadParams .custom [.immediate]

def uploadCommand : Command where
  record := uploadRecord
  transfer := .immediate
  name := "UploadImmediate"
  id := 257
  fields := [⟨"count", .i32⟩]
  arguments := List.zipWith Argument.mk uploadParams [.word 0 .i32, .immediate .unsized]
  count := none
  result := none
  clientId := none

def markParams : List Param := [⟨{ base := "GLuint64" }, "init"⟩]

def markRecord : Record :=
  .merge { name := "Mark", returnType := .void, params := markParams, line := 3 }
    { name := "Mark" } markParams .direct [.shm]

def markCommand : Command where
  record := markRecord
  transfer := .shm
  name := "Mark"
  id := 258
  fields := [⟨"init_0", .u32⟩, ⟨"init_1", .u32⟩]
  arguments := List.zipWith Argument.mk markParams [.split 0 1]
  count := none
  result := none
  clientId := none

def stampBlueprint : Blueprint where
  protocol := stampProtocol
  records := [stampRecord, uploadRecord, markRecord]
  validators := {}
  commands := [stampCommand, uploadCommand, markCommand]
  support := { segments := [{ name := "crate" }, { name := "support" }] }

theorem records_stamp : stampProtocol.records = .ok stampBlueprint.records := by decide +kernel

theorem commands_stamp :
    stampProtocol.commands stampBlueprint.records = .ok stampBlueprint.commands := rfl

theorem blueprint_stamp : stampProtocol.blueprint = .ok stampBlueprint :=
  Protocol.blueprint_eq_ok records_stamp commands_stamp Protocol.ofText?_support

theorem isOk_bundle_stamp : stampBlueprint.bundle.isOk = true := by decide +kernel

/-- The names of the first function are apart. -/
theorem names_apart_stamp :
    (Interface.prototype stampRecord).signature.spelledParameters.Nodup ∧
      (CommandFormat.init stampCommand).signature.spelledParameters.Nodup ∧
      stampCommand.writer.signature.spelledParameters.Nodup ∧ stampCommand.methodNames.Nodup :=
  have h := Protocol.repeated_names_iff records_stamp commands_stamp
  have hcommand := h.2 stampCommand List.mem_cons_self
  ⟨(h.1 stampRecord List.mem_cons_self).1.mpr (by decide), hcommand.1.mpr (by decide),
    hcommand.2.1.mpr (by decide), hcommand.2.2.mpr (by decide)⟩

/-- All artifacts are emitted, with two parameters `count` of one function and with two methods
`init` of one struct. -/
theorem names_repeated_upload_mark :
    stampProtocol.blueprint = .ok stampBlueprint ∧ stampBlueprint.bundle.isOk = true ∧
    uploadCommand ∈ stampBlueprint.commands ∧ markCommand ∈ stampBlueprint.commands ∧
    (CommandFormat.init uploadCommand).signature.spelledParameters = ["count", "count"] ∧
    ¬ (CommandFormat.init uploadCommand).signature.spelledParameters.Nodup ∧
    markCommand.methodNames = ["set_header", "init", "init"] ∧ ¬ markCommand.methodNames.Nodup :=
  ⟨blueprint_stamp, isOk_bundle_stamp, by decide, by decide, by decide, by decide, by decide,
    by decide⟩

end CommandBuffer
