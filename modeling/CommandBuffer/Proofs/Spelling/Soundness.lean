import CommandBuffer.Proofs.Bundles
import CommandBuffer.Proofs.CommandTable
import CommandBuffer.Proofs.Spelling.Demanded
import CommandBuffer.Proofs.Spelling.Service

/-! # What keeps a bundle from being made, and from being read back

A bundle is broken off only by a name that the definition supplies and that no spelling makes a
name. What is emitted is read back unless the definition puts a keyword where a name must stand, has
a legal value that compares, or imports from a path with generic arguments.
-/

namespace CommandBuffer

open Code Success

namespace Blueprint

variable {blueprint : Blueprint}

/-! ## Every artifact -/

theorem emits_emit (hplanned : blueprint.IsPlanned) (kind : ArtifactKind) :
    blueprint.Emits (fun code => blueprint.Covers code.demands) (blueprint.emit kind) := by
  cases kind with
  | commandTable => exact emits_commandTable hplanned
  | commandFormat => exact emits_commandFormat hplanned
  | formatTests => exact emits_formatTests hplanned
  | interface => exact emits_interface hplanned
  | implementation => exact emits_implementation hplanned
  | marshaling => exact emits_marshaling hplanned
  | clientTests => exact emits_clientTests hplanned
  | writers => exact emits_writers hplanned
  | handlers => exact emits_handlers hplanned
  | handlerTests => exact emits_handlerTests hplanned
  | validators => exact emits_validatorTypes hplanned
  | validatorBodies => exact emits_validatorBodies hplanned

/-- What breaks a bundle off breaks one of its artifacts off. -/
theorem exists_emit_of_impossibleName {spelling : String}
    (h : blueprint.bundle = .error (.impossibleName spelling)) :
    ∃ kind, blueprint.emit kind = .error (.impossibleName spelling) := by
  simp only [bundle] at h
  split at h
  · rename_i found hfound
    cases h
    obtain ⟨outcome, houtcome, hspelling⟩ := List.exists_of_findSome?_eq_some hfound
    obtain ⟨kind, -, rfl⟩ := List.mem_map.mp houtcome
    split at hspelling
    · rename_i hbroken
      cases hspelling
      rcases bind_eq_error.mp hbroken with hemit | ⟨_, _, hdone⟩
      · exact ⟨kind, hemit⟩
      · cases hdone
    · cases hspelling
  · split at h <;> cases h

/-! ## What is read back -/

/-- Nothing in the artifacts keeps them from being read back: the support module can be imported, no
command is called like a keyword, the namespaces of ids can stand in paths, and no legal value of a
final type compares before its first logical operator. -/
structure IsReadable (blueprint : Blueprint) : Prop where
  support : blueprint.support.isImportable = true
  structs : ∀ command ∈ blueprint.commands, command.structName.isBare = false
  resources : ∀ record command, (record, command) ∈ Marshaling.entries blueprint →
    record.packing.keepsIds = true → ∀ resource ∈ record.resource,
      (Demand.named .segment (.verbatim resource)).isReadable = true
  legal : ∀ validator ∈ blueprint.validators.validators, validator.isComplete = true →
    ∀ values, validator.legalValues = .ok values →
      ∀ value ∈ values, Demand.groups value.exposed true = true

/-- Among plain tokens, every name is read back. -/
theorem isReadable_anywhere (name : Name) : (Demand.named .anywhere name).isReadable = true := by
  cases name with
  | verbatim text =>
    rw [Demand.isReadable, Name.isBare, Bool.or_eq_true]
    by_cases hbare : text = "_" ∨ text ∈ keywords
    · refine .inr (List.contains_iff_mem.mpr ?_)
      exact List.mem_cons.mpr hbare
    · rw [not_or] at hbare
      refine .inl ?_
      simp [hbare]
  | escaped text => rfl

end Blueprint

namespace Code.Expr

variable {value left right : Expr} {op : InfixOp}

/-- Nothing in the expression keeps it from being read back. -/
def IsReadBack (value : Expr) : Prop := ∀ demand ∈ value.demands, demand.isReadable = true

theorem isReadBack_infixed : (infixed op left right).IsReadBack ↔
    Demand.groups (left.exposed ++ op :: right.exposed) false = true ∧
      left.IsReadBack ∧ right.IsReadBack := by
  rw [IsReadBack, demands, List.cons_append, List.forall_mem_cons, List.forall_mem_append]
  rfl

/-- A comparison is read back if what is compared does not start with one. -/
theorem isReadBack_comparison (hvalue : value.IsReadBack) :
    (infixed .eq "value" value).IsReadBack ↔ Demand.groups value.exposed true = true := by
  rw [isReadBack_infixed]
  have hname : (path false [.verbatim "value"]).IsReadBack :=
    List.forall_mem_singleton.mpr (by decide)
  exact and_iff_left ⟨hname, hvalue⟩

/-- An alternative is read back if what comes before it is. -/
theorem isReadBack_alternative {found : Expr} (hvalue : value.IsReadBack)
    (hfound : found.IsReadBack → Demand.groups found.exposed false = true) :
    (infixed .either found (infixed .eq "value" value)).IsReadBack ↔
      found.IsReadBack ∧ Demand.groups value.exposed true = true := by
  rw [isReadBack_infixed, isReadBack_comparison hvalue,
    Demand.groups_append_of_logical (by decide), Bool.and_eq_true]
  constructor
  · rintro ⟨-, hread, hgroups⟩
    exact ⟨hread, hgroups⟩
  · rintro ⟨hread, hgroups⟩
    exact ⟨⟨hfound hread, hgroups⟩, hread, hgroups⟩

end Code.Expr

/-- Comparisons with all legal values are read back exactly if no value starts with one. -/
theorem Validator.isReadBack_membership {values : List Expr}
    (hvalues : ∀ value ∈ values, value.IsReadBack) :
    (membership values).IsReadBack ↔ ∀ value ∈ values, Demand.groups value.exposed true = true := by
  cases values with
  | nil =>
    exact iff_of_true (fun _ h => absurd h List.not_mem_nil) fun _ h => absurd h List.not_mem_nil
  | cons first rest =>
    rw [List.forall_mem_cons] at hvalues
    have hfold : ∀ {found : Expr},
        (found.IsReadBack → Demand.groups found.exposed false = true) →
        ((rest.foldl (fun found value =>
            .infixed .either found (.infixed .eq "value" value)) found).IsReadBack ↔
          found.IsReadBack ∧ ∀ value ∈ rest, Demand.groups value.exposed true = true) := by
      have hrest := hvalues.2
      clear hvalues
      intro found hfound
      induction rest generalizing found with
      | nil => simp
      | cons value rest ih =>
        rw [List.forall_mem_cons] at hrest
        rw [List.foldl_cons, ih hrest.2 fun hread => (Expr.isReadBack_infixed.mp hread).1,
          Expr.isReadBack_alternative hrest.1 hfound, List.forall_mem_cons, and_assoc]
    rw [membership, hfold fun hread => (Expr.isReadBack_infixed.mp hread).1,
      Expr.isReadBack_comparison hvalues.1, List.forall_mem_cons]

namespace Blueprint

variable {blueprint : Blueprint}

theorem isReadBack_of_legalValues {validator : Validator} {values : List Expr}
    (hvalues : validator.legalValues = .ok values) : ∀ value ∈ values, value.IsReadBack := by
  intro value hvalue demand hdemand
  obtain ⟨text, -, hliteral⟩ := exists_of_mem_mapM hvalues hvalue
  exact ((isRead_of_literal hliteral).sound demand hdemand).2

/-- Whatever an artifact can demand keeps it readable. -/
theorem IsCovered.isReadable (h : blueprint.IsReadable) {demand : Demand}
    (hdemand : blueprint.IsCovered demand) : demand.isReadable = true := by
  induction hdemand with
  | sound hsound =>
    rw [Bool.and_eq_true] at hsound
    exact hsound.2
  | supplied hname hbare => rw [Demand.isReadable, hbare]; rfl
  | struct hcommand => rw [Demand.isReadable, h.structs _ hcommand]; rfl
  | resource hentry hkept hresource => exact h.resources _ _ hentry hkept _ hresource
  | token => exact isReadable_anywhere _
  | support => exact h.support
  | membership hvalidator hcomplete hvalues hops =>
    exact (Validator.isReadBack_membership (isReadBack_of_legalValues hvalues)).mpr
      (h.legal _ hvalidator hcomplete _ hvalues) _ hops

/-! ## What a bundle establishes -/

/-- The names that all artifacts together take from the definition can be spelled. -/
structure IsSpelled (blueprint : Blueprint) : Prop where
  protocol : (blueprint.protocolType "Interface").isPossible = true
  methods : ∀ record ∈ blueprint.records, record.isPublic = true → record.method.isPossible = true
  writers : ∀ command ∈ blueprint.commands, command.writerName.isPossible = true
  arguments : ∀ command ∈ blueprint.commands, ∀ argument ∈ command.arguments,
    argument.ident.isPossible = true
  decoders : ∀ command ∈ blueprint.commands,
    (Name.escaped command.record.decoderName).isPossible = true
  flags : ∀ command ∈ blueprint.commands, ∀ flag ∈ command.record.featureFlag,
    (Name.escaped flag).isPossible = true
  resources : ∀ record command, (record, command) ∈ Marshaling.entries blueprint →
    ∀ resource ∈ record.resource, (Name.verbatim resource).isPossible = true
  validators : ∀ validator ∈ blueprint.validators.validators,
    validator.fieldName.isPossible = true ∧ validator.type.isPossible = true

theorem isPossible_of_finish {names : List Name} {file code : SourceFile}
    (h : Emission.finish names file = .ok code) {place : Place} {name : Name}
    (hname : .named place name ∈ file.demands) : name.isPossible = true :=
  List.all_eq_true.mp (Emission.finish_eq_ok_iff.mp h).2.2 _ hname

theorem isSpelled_of_bundle {artifacts : List Artifact}
    (hbundle : blueprint.bundle = .ok artifacts) : blueprint.IsSpelled := by
  obtain ⟨code, hcode, -⟩ := exists_code_of_bundle hbundle
  have hhandler : ∀ command ∈ blueprint.commands, ∀ {name},
      .named .plain name ∈ (Handler.function blueprint.validators command).demands →
      name.isPossible = true := fun command hcommand _ hname =>
    isPossible_of_finish (hcode .handlers) (mem_demands_functions
      (List.mem_cons_of_mem _ (List.mem_map_of_mem hcommand)) hname)
  constructor
  case protocol => exact isPossible_of_finish (hcode .interface) interface_mem_demands
  case methods =>
    exact fun record hrecord hpublic =>
      isPossible_of_finish (hcode .interface) (method_mem_demands hrecord hpublic)
  case writers =>
    exact fun command hcommand =>
      isPossible_of_finish (hcode .writers) (writerName_mem_demands hcommand)
  case arguments =>
    exact fun command hcommand argument hargument =>
      (Emission.finish_eq_ok_iff.mp (hcode .handlers)).2.1 _
        (List.mem_flatMap_of_mem hcommand (List.mem_map_of_mem hargument))
  case decoders => exact fun command hcommand => hhandler command hcommand decoder_mem_demands
  case flags =>
    exact fun command hcommand flag hflag => hhandler command hcommand (flag_mem_demands hflag)
  case resources =>
    exact fun record command hentry resource hresource =>
      (Emission.finish_eq_ok_iff.mp (hcode .marshaling)).2.1 _
        (List.mem_filterMap.mpr ⟨_, hentry, Option.map_eq_some_iff.mpr ⟨_, hresource, rfl⟩⟩)
  case validators =>
    exact fun validator hvalidator =>
      ⟨isPossible_of_finish (hcode .validators) (validatorField_mem_demands hvalidator),
        isPossible_of_finish (hcode .validators) (validatorType_mem_demands hvalidator)⟩

/-- Every validator has an entry, with its legal values. -/
theorem mem_of_valued {valued : List (Validator × List Expr)} (h : blueprint.valued = .ok valued)
    {validator : Validator} (hvalidator : validator ∈ blueprint.validators.validators)
    {values : List Expr} (hvalues : validator.legalValues = .ok values) :
    (validator, values) ∈ valued := by
  obtain ⟨entry, hentry, hmade⟩ := exists_value_of_mapM h hvalidator
  obtain ⟨-, -, hmade⟩ := bind_eq_ok.mp hmade
  obtain ⟨found, hfound, hmade⟩ := bind_eq_ok.mp hmade
  rw [Emission.rejecting, mapError_eq_ok, hvalues] at hfound
  cases hfound
  rw [← pure_eq_ok.mp hmade] at hentry
  exact hentry

theorem exists_plainFiles_iff {artifacts : List Artifact} :
    (∃ files, Artifact.plainFiles artifacts = .ok files) ↔
      ∀ artifact ∈ artifacts, artifact.code.isReadable = true := by
  have hfile : ∀ artifact : Artifact, (∃ file, artifact.file = .ok file) ↔
      artifact.code.isReadable = true := by
    intro artifact
    rw [Artifact.file]
    split
    · rename_i hreadable
      exact iff_of_true ⟨_, rfl⟩ hreadable
    · rename_i hunreadable
      exact iff_of_false (fun ⟨_, h⟩ => by cases h) hunreadable
  constructor
  · rintro ⟨files, hfiles⟩ artifact hartifact
    have hmem := List.mem_map_of_mem (f := Artifact.file) hartifact
    rw [Outcome.collect_eq_ok_iff.mp hfiles] at hmem
    obtain ⟨file, -, hmade⟩ := List.mem_map.mp hmem
    exact (hfile artifact).mp ⟨file, hmade.symm⟩
  · intro h
    obtain ⟨files, hfiles⟩ := Outcome.exists_of_forall_ok fun artifact hartifact =>
      (hfile artifact).mpr (h artifact hartifact)
    exact ⟨files, Outcome.collect_eq_ok_iff.mpr hfiles⟩

/-- The artifacts demand what the blueprint must be to be read back, and no more. -/
theorem isReadable_iff (hplanned : blueprint.IsPlanned) {code : ArtifactKind → SourceFile}
    (hcode : ∀ kind, blueprint.emit kind = .ok (code kind)) :
    (∀ kind, ∀ demand ∈ (code kind).demands, demand.isReadable = true) ↔ blueprint.IsReadable := by
  refine ⟨fun h => ?_, fun h kind demand hdemand =>
    ((emits_emit hplanned kind).ok _ (hcode kind) demand hdemand).isReadable h⟩
  constructor
  case support =>
    have hread := h .interface
    rw [(Emission.finish_eq_ok_iff.mp (hcode .interface)).1] at hread
    exact hread _ importable_mem_demands
  case structs =>
    intro command hcommand
    have hread := h .commandTable
    rw [eq_file_of_commandTable (hcode .commandTable)] at hread
    have hname := hread _ (struct_mem_demands hcommand)
    rw [Demand.isReadable, Bool.or_eq_true, Bool.not_eq_true'] at hname
    exact hname.elim id fun hadmitted => by cases hadmitted
  case resources =>
    intro record command hentry hkept resource hresource
    have hread := h .marshaling
    rw [(Emission.finish_eq_ok_iff.mp (hcode .marshaling)).1] at hread
    exact hread _ (resource_mem_demands hentry hkept hresource)
  case legal =>
    intro validator hvalidator hcomplete values hvalues
    obtain ⟨valued, hvalued, hemitted⟩ := bind_eq_ok.mp (hcode .validatorBodies)
    have hread := h .validatorBodies
    rw [(Emission.finish_eq_ok_iff.mp hemitted).1] at hread
    have hentry := mem_of_valued hvalued hvalidator hvalues
    refine (Validator.isReadBack_membership (isReadBack_of_legalValues hvalues)).mp
      fun demand hdemand => hread demand ?_
    refine mem_demands_file (List.mem_append_right _
      (List.mem_map_of_mem (List.mem_filter.mpr ⟨hentry, hcomplete⟩))) ?_
    exact check_mem_demands hdemand

theorem exists_plainFiles_of_bundle_iff (hplanned : blueprint.IsPlanned)
    {artifacts : List Artifact} (hbundle : blueprint.bundle = .ok artifacts) :
    (∃ files, Artifact.plainFiles artifacts = .ok files) ↔ blueprint.IsReadable := by
  obtain ⟨code, hcode, rfl⟩ := exists_code_of_bundle hbundle
  rw [exists_plainFiles_iff, List.forall_mem_map, ← isReadable_iff hplanned hcode]
  constructor
  · exact fun h kind => List.all_eq_true.mp (h kind kind.mem_all)
  · exact fun h kind _ => List.all_eq_true.mpr (h kind)

end Blueprint

/-- The directives for a function that frees ids in shared memory. -/
def freeing (name decoder : String) : Override where
  name := name
  decoder := some decoder
  strategy := some .delN
  resource := some "Textures"
  transfers := some [.shm]

/-- One function, called by a name and served by a decoder. -/
def freeingProtocol (name decoder : String) : Protocol where
  name := "Freeing"
  filePrefix := "freeing"
  description := "A function that frees ids"
  commandBase := 256
  supportPath := "crate::support"
  types := {}
  overrides := ⟨[freeing name decoder]⟩
  functions := "void " ++ name ++ "(GLsizei n, const GLuint* ids);"

def freeingParams : List Param :=
  [⟨{ base := "GLsizei" }, "n"⟩, ⟨{ isConst := true, base := "GLuint", pointerDepth := 1 }, "ids"⟩]

def freeingRecord (name decoder : String) : Record :=
  .merge { name, returnType := .void, params := freeingParams, line := 1 } (freeing name decoder)
    freeingParams .delN [.shm]

def freeingCommand (name decoder : String) : Command where
  record := freeingRecord name decoder
  transfer := .shm
  name := name
  id := 256
  fields := [⟨"n", .i32⟩, ⟨"ids_shm_id", .u32⟩, ⟨"ids_shm_offset", .u32⟩]
  arguments := List.zipWith Argument.mk freeingParams [.word 0 .i32, .shm 1 2 (.counted 0 1)]
  count := none
  result := none
  clientId := none

def freeingBlueprint (name decoder : String) : Blueprint where
  protocol := freeingProtocol name decoder
  records := [freeingRecord name decoder]
  validators := {}
  commands := [freeingCommand name decoder]
  support := { segments := [{ name := "crate" }, { name := "support" }] }

theorem bundles_freeing :
    (freeingBlueprint "Free" "free").bundle.isOk = true ∧
    (freeingBlueprint "match" "free").bundle.isOk = true ∧
    Blueprint.impossibleName? (freeingBlueprint "Free" "super").outcomes = some "r#super" := by
  decide +kernel

theorem blueprints_freeing :
    (freeingProtocol "Free" "free").blueprint = .ok (freeingBlueprint "Free" "free") ∧
    (freeingProtocol "match" "free").blueprint = .ok (freeingBlueprint "match" "free") ∧
    (freeingProtocol "Free" "super").blueprint = .ok (freeingBlueprint "Free" "super") :=
  ⟨Protocol.blueprint_eq_ok (by decide +kernel) rfl Protocol.ofText?_support,
    Protocol.blueprint_eq_ok (by decide +kernel) rfl Protocol.ofText?_support,
    Protocol.blueprint_eq_ok (by decide +kernel) rfl Protocol.ofText?_support⟩

theorem isReadable_freeing : (freeingBlueprint "Free" "free").IsReadable where
  support := by decide
  structs := by decide
  resources := by
    intro record command hentry _ resource hresource
    have hentries : Marshaling.entries (freeingBlueprint "Free" "free") =
        [(freeingRecord "Free" "free", freeingCommand "Free" "free")] := by decide
    rw [hentries, List.mem_singleton] at hentry
    cases hentry
    cases hresource
    decide
  legal := fun validator hvalidator => by cases hvalidator

end CommandBuffer
