import CommandBuffer.Artifact.Bundle
import CommandBuffer.Proofs.Bundles
import CommandBuffer.Proofs.NameWords
import CommandBuffer.Proofs.Names
import CommandBuffer.Proofs.Synthesis

/-! # Names of validators

The registry compares the names of types as they are written. A validator is called by the words of
such a name: they make its field, without regard to case and separators, and its type, in which a
word that begins with a digit does not show either. Nothing compares fields or types after that, so
two types with names of the same words give the container one field twice.
-/

namespace CommandBuffer

open Code Text

/-! ## Fields and types of a file -/

namespace Code

/-- The fields of the structs in a file, as they are spelled. -/
def SourceFile.spelledFields (file : SourceFile) : List String :=
  file.items.flatMap fun
    | .struct struct => struct.fields.map (·.name.spelling)
    | _ => []

/-- The types that a file declares, as they are spelled. -/
def SourceFile.declaredTypes (file : SourceFile) : List String :=
  file.items.filterMap fun
    | .struct struct => some struct.name.spelling
    | .enumeration _ name _ | .unitStruct _ name | .typeAlias _ name _ => some name.spelling
    | _ => none

end Code

namespace Validator

theorem declaration_eq (validator : Validator) : (∃ attributes,
    validator.declaration = .unitStruct attributes validator.type) ∨
      ∃ attributes type, validator.declaration = .typeAlias attributes validator.type type := by
  unfold declaration
  cases validator.isComplete with
  | true => exact .inl ⟨_, rfl⟩
  | false => exact .inr ⟨_, _, rfl⟩

end Validator

namespace Blueprint

variable (blueprint : Blueprint)

theorem spelledFields_validatorFile : blueprint.validatorFile.spelledFields
    = ((blueprint.validators.validators.map Validator.field).map Name.escaped).map Name.spelling := by
  have hdeclarations : (blueprint.validators.validators.map Validator.declaration).flatMap
      (fun
        | .struct struct => struct.fields.map (·.name.spelling)
        | _ => []) = [] := by
    rw [List.flatMap_map, List.flatMap_eq_nil_iff]
    intro validator _
    rcases validator.declaration_eq with ⟨_, h⟩ | ⟨_, _, h⟩ <;> rw [h]
  rw [SourceFile.spelledFields, validatorFile, file, supportImport, List.flatMap_cons,
    List.flatMap_cons, hdeclarations]
  simp [Validator.containerField, Validator.fieldName]

theorem declaredTypes_validatorFile : blueprint.validatorFile.declaredTypes
    = "Validators" :: blueprint.validators.validators.map Validator.typeName := by
  have hdeclarations : (blueprint.validators.validators.map Validator.declaration).filterMap
      (fun
        | .struct struct => some struct.name.spelling
        | .enumeration _ name _ | .unitStruct _ name | .typeAlias _ name _ => some name.spelling
        | _ => none) = blueprint.validators.validators.map Validator.typeName := by
    rw [List.filterMap_map, ← List.filterMap_eq_map]
    refine List.filterMap_congr fun validator _ => ?_
    rcases validator.declaration_eq with ⟨_, h⟩ | ⟨_, _, h⟩ <;> simp only [Function.comp, h] <;> rfl
  rw [SourceFile.declaredTypes, validatorFile, file, supportImport]
  simp only [List.filterMap_cons, hdeclarations]
  rfl

end Blueprint

/-! ## Words of type names -/

namespace Naming

/-- The words by which the validator of a type is called. -/
def validatorWords (typeName : String) : List (List Char) := lowerWords (flattenPath typeName.toList)

theorem validatorField_eq_iff {first second : String} :
    validatorField first = validatorField second ↔ validatorWords first = validatorWords second := by
  rw [validatorField, validatorField, String.ofList_inj, snakeForm_eq_iff]
  rfl

/-- A type is called by the camel form of the field. -/
theorem validatorType_eq_iff {first second : String} :
    validatorType first = validatorType second ↔
      camelForm (validatorField first).toList = camelForm (validatorField second).toList := by
  rw [validatorType, validatorType, String.append_left_inj, String.ofList_inj]

theorem mem_flattenPath {name : List Char} {c : Char} (h : c ∈ flattenPath name) :
    c = '_' ∨ c ∈ name := by
  rcases SignatureFile.mem_intercalate h with hmark | ⟨piece, hpiece, hc⟩
  · exact .inl (List.mem_singleton.mp hmark)
  · right
    rw [← intercalate_splitOnMarker [':', ':'] name]
    exact SignatureFile.mem_intercalate_of_mem hpiece hc

theorem validatorType_eq_iff_joinNumbers {first second : String}
    (hfirst : ∀ c ∈ first.toList, c.toNat < 128) (hsecond : ∀ c ∈ second.toList, c.toNat < 128) :
    validatorType first = validatorType second ↔
      joinNumbers (validatorWords first) = joinNumbers (validatorWords second) := by
  have hflat : ∀ {name : List Char}, (∀ c ∈ name, c.toNat < 128) →
      ∀ c ∈ flattenPath name, c.toNat < 128 := by
    intro name hname c hc
    rcases mem_flattenPath hc with rfl | hmem
    · decide
    · exact hname c hmem
  rw [validatorType_eq_iff, validatorField, validatorField, String.toList_ofList,
    String.toList_ofList, camelForm_snakeForm_eq_iff (hflat hfirst) (hflat hsecond)]
  rfl

theorem isUnmarked_validatorField (typeName : String) : Name.IsUnmarked (validatorField typeName) := by
  rw [Name.IsUnmarked, validatorField, String.toList_ofList]
  exact notMem_snakeForm (by decide) (by decide) (by decide) _

/-- No validator type is called like the container. -/
theorem validatorType_ne_container (typeName : String) : validatorType typeName ≠ "Validators" := by
  intro h
  have hlast := congrArg (fun text => text.toList.getLast?) h
  rw [validatorType, String.toList_append] at hlast
  simp at hlast

end Naming

/-! ## Names in a set -/

namespace ValidatorSet

/-- No two validators have one field. -/
def FieldsApart (set : ValidatorSet) : Prop := (set.validators.map Validator.field).Nodup

/-- No two validators have one type. -/
def TypesApart (set : ValidatorSet) : Prop := (set.validators.map Validator.typeName).Nodup

variable {registry : Registry} {records : List Record}

/-- Field and type are those of the name. -/
theorem named_of_mem {validator : Validator}
    (h : validator ∈ (synthesize registry records).validators) :
    validator.field = Naming.validatorField validator.name ∧
      validator.typeName = Naming.validatorType validator.name := by
  obtain ⟨⟨type, -, -, hmade⟩, -⟩ := mem_synthesize.mp h
  rw [hmade]
  exact ⟨rfl, rfl⟩

theorem nodup_names (hnames : (registry.types.map NamedType.name).Nodup) :
    ((synthesize registry records).validators.map Validator.name).Nodup := by
  rw [List.nodup_iff_pairwise_ne, List.pairwise_map]
  refine (holds_synthesize registry records).ordered.imp_of_mem fun hfirst hsecond hbefore hsame => ?_
  have hname : ∀ {validator}, validator ∈ (synthesize registry records).validators →
      (registry.types.map NamedType.name)[validator.id.index]? = some validator.name := by
    intro validator hmem
    obtain ⟨⟨type, htype, -, hmade⟩, -⟩ := mem_synthesize.mp hmem
    rw [Registry.get?] at htype
    rw [List.getElem?_map, htype, hmade]
    rfl
  have hindex := hname hfirst
  rw [hsame, ← hname hsecond] at hindex
  have hlength := (List.getElem?_eq_some_iff.mp (hname hfirst)).1
  exact absurd ((List.getElem?_inj hlength hnames).mp hindex) (Nat.ne_of_lt hbefore)

/-- Two ways of calling the members of a list repeat at the same places. -/
theorem nodup_map_congr {α β γ : Type} {items : List α} {f : α → β} {g : α → γ}
    (h : ∀ first ∈ items, ∀ second ∈ items, f first = f second ↔ g first = g second) :
    (items.map f).Nodup ↔ (items.map g).Nodup := by
  rw [List.nodup_iff_pairwise_ne, List.nodup_iff_pairwise_ne, List.pairwise_map, List.pairwise_map]
  exact List.Pairwise.iff_of_mem fun hfirst hsecond => not_congr (h _ hfirst _ hsecond)

theorem fieldsApart_iff : (synthesize registry records).FieldsApart ↔
    ((synthesize registry records).validators.map (Naming.validatorWords ·.name)).Nodup := by
  refine nodup_map_congr fun first hfirst second hsecond => ?_
  rw [(named_of_mem hfirst).1, (named_of_mem hsecond).1, Naming.validatorField_eq_iff]

theorem typesApart_iff : (synthesize registry records).TypesApart ↔
    ((synthesize registry records).validators.map fun validator =>
      camelForm validator.field.toList).Nodup := by
  refine nodup_map_congr fun first hfirst second hsecond => ?_
  rw [(named_of_mem hfirst).2, (named_of_mem hsecond).2, (named_of_mem hfirst).1,
    (named_of_mem hsecond).1, Naming.validatorType_eq_iff]

theorem typesApart_iff_joinNumbers
    (hascii : ∀ validator ∈ (synthesize registry records).validators,
      ∀ c ∈ validator.name.toList, c.toNat < 128) :
    (synthesize registry records).TypesApart ↔
      ((synthesize registry records).validators.map fun validator =>
        joinNumbers (Naming.validatorWords validator.name)).Nodup := by
  refine nodup_map_congr fun first hfirst second hsecond => ?_
  rw [(named_of_mem hfirst).2, (named_of_mem hsecond).2,
    Naming.validatorType_eq_iff_joinNumbers (hascii first hfirst) (hascii second hsecond)]

/-- Types of their own need fields of their own. -/
theorem TypesApart.fieldsApart (h : (synthesize registry records).TypesApart) :
    (synthesize registry records).FieldsApart := by
  rw [typesApart_iff] at h
  refine List.Nodup.of_map (fun field => camelForm field.toList) ?_
  rwa [List.map_map]

theorem nodup_spelledFields_iff {blueprint : Blueprint}
    (hblueprint : blueprint.validators = synthesize registry records) :
    blueprint.validatorFile.spelledFields.Nodup ↔ (synthesize registry records).FieldsApart := by
  rw [blueprint.spelledFields_validatorFile, hblueprint, Name.nodup_spelling_iff]
  · rfl
  · intro field hfield
    obtain ⟨validator, hvalidator, rfl⟩ := List.mem_map.mp hfield
    rw [(named_of_mem hvalidator).1]
    exact Naming.isUnmarked_validatorField _

theorem nodup_declaredTypes_iff {blueprint : Blueprint}
    (hblueprint : blueprint.validators = synthesize registry records) :
    blueprint.validatorFile.declaredTypes.Nodup ↔ (synthesize registry records).TypesApart := by
  rw [blueprint.declaredTypes_validatorFile, hblueprint, List.nodup_cons]
  refine and_iff_right fun hmem => ?_
  obtain ⟨validator, hvalidator, hname⟩ := List.mem_map.mp hmem
  rw [(named_of_mem hvalidator).2] at hname
  exact Naming.validatorType_ne_container _ hname

/-- The validators of a registry that was built are for types of different names. Their fields are
apart exactly if no two of these names have the same words but for case and separators; their types
are apart exactly if the camel forms of the fields are, which for ASCII names means that the words
are, once those that begin with a digit are joined to the ones before. Then the fields are apart as
well. The emitted container has a field twice, and the file declares a type twice, exactly if the set
does. -/
theorem names_apart_iff (types : List NamedType) (registry : Registry)
    (hregistry : Registry.ofList types = .ok registry) (records : List Record) :
    ((synthesize registry records).validators.map Validator.name).Nodup ∧
    ((synthesize registry records).FieldsApart ↔
      ((synthesize registry records).validators.map (Naming.validatorWords ·.name)).Nodup) ∧
    ((synthesize registry records).TypesApart ↔
      ((synthesize registry records).validators.map fun validator =>
        camelForm validator.field.toList).Nodup) ∧
    ((∀ validator ∈ (synthesize registry records).validators,
        ∀ c ∈ validator.name.toList, c.toNat < 128) →
      ((synthesize registry records).TypesApart ↔
        ((synthesize registry records).validators.map fun validator =>
          joinNumbers (Naming.validatorWords validator.name)).Nodup)) ∧
    ((synthesize registry records).TypesApart → (synthesize registry records).FieldsApart) ∧
    ∀ blueprint : Blueprint, blueprint.validators = synthesize registry records →
      (blueprint.validatorFile.spelledFields.Nodup ↔
        (synthesize registry records).FieldsApart) ∧
      (blueprint.validatorFile.declaredTypes.Nodup ↔
        (synthesize registry records).TypesApart) :=
  ⟨nodup_names (Registry.nodup_names_of_ofList hregistry), fieldsApart_iff, typesApart_iff,
    typesApart_iff_joinNumbers, TypesApart.fieldsApart, fun _ hblueprint =>
      ⟨nodup_spelledFields_iff hblueprint, nodup_declaredTypes_iff hblueprint⟩⟩

/-! ## Names that differ in an underscore, and in their case -/

/-- The number is a word of its own in the first name, and the end of a word in the second. -/
def levelRegistry : Registry where
  types := [{ modeType with name := "Level_1" }, { modeType with name := "Level1" }]

def levelRecords : List Record :=
  [surfaceRecord "Raise" .direct [valueOf ⟨0⟩ "GLenum" "from", valueOf ⟨1⟩ "GLenum" "to"]]

/-- The fields are `level_1` and `level1`, and both types are called `Level1Validator`. -/
theorem names_apart_level :
    Registry.ofList levelRegistry.types = .ok levelRegistry ∧
    (synthesize levelRegistry levelRecords).FieldsApart ∧
    ¬ (synthesize levelRegistry levelRecords).TypesApart := by
  have hbuilt : Registry.ofList levelRegistry.types = .ok levelRegistry := by decide
  have hset : (synthesize levelRegistry levelRecords).validators.map Validator.name
      = ["Level_1", "Level1"] := by decide
  obtain ⟨-, hfields, -, htypes, -, -⟩ :=
    names_apart_iff levelRegistry.types levelRegistry hbuilt levelRecords
  have hascii : ∀ validator ∈ (synthesize levelRegistry levelRecords).validators,
      ∀ c ∈ validator.name.toList, c.toNat < 128 := by
    intro validator hvalidator
    have hname : validator.name ∈ ["Level_1", "Level1"] := by
      rw [← hset]
      exact List.mem_map_of_mem hvalidator
    rcases List.mem_pair.mp hname with h | h <;> simp [h]
  refine ⟨hbuilt, ?_, ?_⟩
  · rw [hfields, ← Function.comp_def, ← List.map_map, hset]
    decide
  · rw [htypes hascii, ← Function.comp_def (fun name => joinNumbers (Naming.validatorWords name)),
      ← List.map_map, hset]
    decide

end ValidatorSet

/-- Two types whose names differ in their case only. -/
def modesProtocol : Protocol where
  name := "Modes"
  filePrefix := "modes"
  description := "Two types of one word"
  commandBase := 256
  supportPath := "crate::support"
  types := { types := [modeType, { modeType with name := "mode" }] }
  overrides := {}
  functions := "void SetModes(GLenum<Mode> first, GLenum<mode> second);"

def modesParams : List Param := [valueOf ⟨0⟩ "GLenum" "first", valueOf ⟨1⟩ "GLenum" "second"]

def modesRecord : Record :=
  .merge { name := "SetModes", returnType := .void, params := modesParams, line := 1 }
    { name := "SetModes" } modesParams .direct [.shm]

def modesCommand : Command where
  record := modesRecord
  transfer := .shm
  name := "SetModes"
  id := 256
  fields := [⟨"first", .u32⟩, ⟨"second", .u32⟩]
  arguments := List.zipWith Argument.mk modesParams [.word 0 .u32, .word 1 .u32]
  count := none
  result := none
  clientId := none

def modesBlueprint : Blueprint where
  protocol := modesProtocol
  records := [modesRecord]
  validators := ValidatorSet.synthesize modesProtocol.types [modesRecord]
  commands := [modesCommand]
  support := { segments := [{ name := "crate" }, { name := "support" }] }

theorem records_modes : modesProtocol.records = .ok modesBlueprint.records := by decide +kernel

theorem commands_modes :
    modesProtocol.commands modesBlueprint.records = .ok modesBlueprint.commands := rfl

/-- The container is emitted, with one field and one type for the two validators. -/
theorem names_repeated_modes :
    Registry.ofList modesProtocol.types.types = .ok modesProtocol.types ∧
    modesProtocol.blueprint = .ok modesBlueprint ∧
    modesBlueprint.emit .validators = .ok modesBlueprint.validatorFile ∧
    modesBlueprint.validators.validators.map Validator.name = ["Mode", "mode"] ∧
    modesBlueprint.validatorFile.spelledFields = ["mode", "mode"] ∧
    modesBlueprint.validatorFile.declaredTypes = ["Validators", "ModeValidator", "ModeValidator"] :=
  ⟨by decide, Protocol.blueprint_eq_ok records_modes commands_modes Protocol.ofText?_support, rfl,
    by decide, by decide +kernel, by decide +kernel⟩

end CommandBuffer
