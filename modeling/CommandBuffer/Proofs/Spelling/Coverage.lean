import CommandBuffer.Artifact.Bundle
import CommandBuffer.Proofs.Reading.Grouping

/-! # Where names come from

A name in the artifacts is a word of the generator, or is made from a checked name in a way that
keeps it a name, or is supplied by the definition without a check. Demands of the first two kinds
are always met. So only a supplied name keeps an artifact from being written, and only a few demands
can keep it from being read back.
-/

namespace CommandBuffer

open Code

/-- The client keeps ids of its own for the function. -/
def Packing.keepsIds : Packing → Bool
  | genN _ | delN | create _ => true
  | _ => false

/-- A client function is generated for the record. -/
def Record.IsOffered (record : Record) : Prop :=
  record.isPublic = true ∨ record.isMarshaled = true

namespace Blueprint

/-- What the names of the types end in that are called after the protocol. -/
def typeSuffixes : List String :=
  ["Interface", "Implementation", "ImplementationTest", "CmdHelper", "Decoder", "DecoderTest"]

/-- The base types whose counterparts occur in the artifacts. -/
inductive UsesType (blueprint : Blueprint) : String → Prop where
  | argument {command : Command} {argument : Argument} (hcommand : command ∈ blueprint.commands)
      (hargument : argument ∈ command.arguments) : UsesType blueprint argument.base
  | parameter {record : Record} {param : Param} (hrecord : record ∈ blueprint.records)
      (hoffered : record.IsOffered) (hparam : param ∈ record.declared) :
      UsesType blueprint param.type.base
  | result {record : Record} (hrecord : record ∈ blueprint.records) (hoffered : record.IsOffered) :
      UsesType blueprint record.returnType.base
  | underlying {validator : Validator} (hvalidator : validator ∈ blueprint.validators.validators) :
      UsesType blueprint validator.underlying

/-- The names in the artifacts that no stage has checked to be names. -/
inductive Supplies (blueprint : Blueprint) : Name → Prop where
  | protocolType {suffix : String} (hsuffix : suffix ∈ typeSuffixes) :
      Supplies blueprint (blueprint.protocolType suffix)
  /-- A type of the support module, by the segments of its path. -/
  | type {base : String} {segment : Name} (hbase : blueprint.UsesType base)
      (hsegment : segment ∈ valuePath base) : Supplies blueprint segment
  /-- A client method, or the test of a marshaling function. -/
  | method {record : Record} (hrecord : record ∈ blueprint.records)
      (hcalled : record.isPublic = true ∨ record.isMarshaled = true ∧ record.hasClientTest = true) :
      Supplies blueprint record.method
  /-- The function behind a method without commands is called after the method. -/
  | direct {record : Record} (hrecord : record ∈ blueprint.records)
      (hpublic : record.isPublic = true) (hcommands : record.hasCommands = false) :
      Supplies blueprint record.directName
  | parameter {record : Record} {param : Param} (hrecord : record ∈ blueprint.records)
      (hoffered : record.IsOffered) (hparam : param ∈ record.declared) :
      Supplies blueprint (.escaped param.name)
  | argument {command : Command} {argument : Argument} (hcommand : command ∈ blueprint.commands)
      (hargument : argument ∈ command.arguments) : Supplies blueprint argument.ident
  /-- A writer, or the test of a command struct. -/
  | writer {command : Command} (hcommand : command ∈ blueprint.commands) :
      Supplies blueprint command.writerName
  /-- A function of the service. -/
  | decoder {command : Command} (hcommand : command ∈ blueprint.commands) :
      Supplies blueprint (.escaped command.record.decoderName)
  | flag {command : Command} {flag : String} (hcommand : command ∈ blueprint.commands)
      (hflag : command.record.featureFlag = some flag) : Supplies blueprint (.escaped flag)
  /-- The tests of a handler are called after the method. -/
  | validTest {record : Record} (hrecord : record ∈ blueprint.records)
      (htested : record.hasCommands = true ∧ record.hasUnitTest = true) :
      Supplies blueprint (.verbatim (record.methodName ++ "_valid_args"))
  | invalidTest {record : Record} {argument : Argument} {index : Nat}
      {illegal : HandlerTests.IllegalValue} (hrecord : record ∈ blueprint.records)
      (htested : record.hasCommands = true ∧ record.hasUnitTest = true)
      (hillegal : illegal ∈ HandlerTests.illegalValues blueprint.validators argument index) :
      Supplies blueprint (.verbatim s!"{record.methodName}_invalid_args_{illegal.suffix}")
  /-- A namespace of client ids. -/
  | resource {record : Record} {resource : String} (hrecord : record ∈ blueprint.records)
      (hmarshaled : record.isMarshaled = true) (hresource : record.resource = some resource) :
      Supplies blueprint (.verbatim resource)
  | validatorField {validator : Validator}
      (hvalidator : validator ∈ blueprint.validators.validators) :
      Supplies blueprint validator.fieldName
  | validatorType {validator : Validator}
      (hvalidator : validator ∈ blueprint.validators.validators) :
      Supplies blueprint validator.type

/-- The demands that the artifacts can make. -/
inductive IsCovered (blueprint : Blueprint) : Demand → Prop where
  /-- The demand is met whatever the definition is. -/
  | sound {demand : Demand} (h : (demand.isWritable && demand.isReadable) = true) :
      IsCovered blueprint demand
  /-- A supplied name that is no keyword as it stands. -/
  | supplied {place : Place} {name : Name} (hname : blueprint.Supplies name)
      (hbare : name.isBare = false) : IsCovered blueprint (.named place name)
  /-- A command struct, which can be called like a keyword. -/
  | struct {place : Place} {command : Command} (hcommand : command ∈ blueprint.commands) :
      IsCovered blueprint (.named place command.structName)
  /-- The namespace of ids that are allocated or freed. -/
  | resource {record : Record} {command : Command} {resource : String}
      (hentry : (record, command) ∈ Marshaling.entries blueprint)
      (hkept : record.packing.keepsIds = true) (hresource : record.resource = some resource) :
      IsCovered blueprint (.named .segment (.verbatim resource))
  | token {place : Place} {name : Name} (hname : IsCovered blueprint (.named place name)) :
      IsCovered blueprint (.named .anywhere name)
  | support : IsCovered blueprint (.importable blueprint.support)
  /-- Comparisons with the legal values of a final type. -/
  | membership {validator : Validator} {values : List Expr} {ops : List InfixOp}
      (hvalidator : validator ∈ blueprint.validators.validators)
      (hcomplete : validator.isComplete = true) (hvalues : validator.legalValues = .ok values)
      (hops : .operators ops ∈ (Validator.membership values).demands) :
      IsCovered blueprint (.operators ops)

/-- Every one of the demands can be made by the artifacts. -/
def Covers (blueprint : Blueprint) (demands : List Demand) : Prop :=
  ∀ demand ∈ demands, blueprint.IsCovered demand

variable {blueprint : Blueprint} {demand : Demand} {demands more : List Demand}

@[simp] theorem covers_nil : blueprint.Covers [] := fun _ h => absurd h List.not_mem_nil

@[simp] theorem covers_cons :
    blueprint.Covers (demand :: demands) ↔ blueprint.IsCovered demand ∧ blueprint.Covers demands :=
  List.forall_mem_cons

@[simp] theorem covers_append :
    blueprint.Covers (demands ++ more) ↔ blueprint.Covers demands ∧ blueprint.Covers more :=
  List.forall_mem_append

@[simp] theorem covers_flatMap {α : Type} {items : List α} {f : α → List Demand} :
    blueprint.Covers (items.flatMap f) ↔ ∀ item ∈ items, blueprint.Covers (f item) :=
  ⟨fun h _ hitem demand hdemand => h demand (List.mem_flatMap_of_mem hitem hdemand),
    fun h demand hdemand =>
      let ⟨_, hitem, hmem⟩ := List.mem_flatMap.mp hdemand
      h _ hitem demand hmem⟩

/-- Among plain tokens, no more is demanded. -/
theorem Covers.tokens (h : blueprint.Covers demands) :
    blueprint.Covers (demands.filterMap Demand.asToken?) := by
  intro token htoken
  obtain ⟨demand, hdemand, htoken⟩ := List.mem_filterMap.mp htoken
  have hcovered := h demand hdemand
  cases demand with
  | named place name => cases htoken; exact .token hcovered
  | operators ops => cases htoken
  | importable path => cases htoken; exact hcovered

theorem covers_of_isSound (h : ∀ demand ∈ demands, demand.IsSound) : blueprint.Covers demands := by
  intro demand hdemand
  obtain ⟨hwritable, hreadable⟩ := h demand hdemand
  exact .sound (by rw [hwritable, hreadable]; rfl)

/-- A name that is no keyword can stand anywhere. -/
theorem IsCovered.named {place : Place} {name : Name} (hpossible : name.isPossible = true)
    (hbare : name.isBare = false) : blueprint.IsCovered (.named place name) := by
  refine .sound ?_
  rw [Demand.isWritable, Demand.isReadable, hpossible, hbare]
  rfl

theorem covers_names {place : Place} {names : List Name} :
    blueprint.Covers (Demand.names place names) ↔
      ∀ name ∈ names, blueprint.IsCovered (.named place name) := List.forall_mem_map

end Blueprint

/-! ## Trees

The demands of a tree can be made if those of its parts can.
-/

namespace Blueprint

variable {blueprint : Blueprint}

@[simp] theorem IsCovered.fixed {demand : Demand}
    (h : (demand.isWritable && demand.isReadable) = true) : blueprint.IsCovered demand := .sound h

section Types

variable {type : Ty} {types : List Ty} {segments : List Name}

@[simp] theorem covers_types :
    blueprint.Covers (Ty.listDemands types) ↔ ∀ type ∈ types, blueprint.Covers type.demands := by
  induction types with
  | nil => simp [Ty.listDemands]
  | cons type rest ih => rw [Ty.listDemands, covers_append, ih, List.forall_mem_cons]

/-- A type that may be left out. -/
@[simp] theorem covers_type? {type? : Option Ty} :
    blueprint.Covers ((type?.map Ty.demands).getD []) ↔
      ∀ type ∈ type?, blueprint.Covers type.demands := by
  cases type? <;> simp

@[simp] theorem covers_pathType {isGlobal : Bool} :
    blueprint.Covers (Ty.path isGlobal segments).demands ↔
      ∀ name ∈ segments, blueprint.IsCovered (.named .segment name) := by
  rw [Ty.demands, covers_names]

@[simp] theorem covers_applied {head : Name} :
    blueprint.Covers (Ty.applied head types).demands ↔
      blueprint.IsCovered (.named .segment head) ∧
        ∀ type ∈ types, blueprint.Covers type.demands := by
  rw [Ty.demands, covers_cons, covers_types]

@[simp] theorem covers_unit : blueprint.Covers Ty.unit.demands := covers_nil

@[simp] theorem covers_reference {lifetime : Option String} {isMutable : Bool} :
    blueprint.Covers (Ty.reference lifetime isMutable type).demands ↔
      blueprint.Covers type.demands := Iff.rfl

@[simp] theorem covers_slice :
    blueprint.Covers (Ty.slice type).demands ↔ blueprint.Covers type.demands := Iff.rfl

@[simp] theorem covers_arrayType {length : Nat} :
    blueprint.Covers (Ty.array type length).demands ↔ blueprint.Covers type.demands := Iff.rfl

end Types

section Patterns

variable {first second : Pattern}

@[simp] theorem covers_wildcard : blueprint.Covers Pattern.wildcard.demands := covers_nil

@[simp] theorem covers_numberPattern {value : Nat} :
    blueprint.Covers (Pattern.number value).demands := covers_nil

@[simp] theorem covers_bindPattern {isMutable : Bool} {name : Name} :
    blueprint.Covers (Pattern.bind isMutable name).demands ↔
      blueprint.IsCovered (.named .plain name) := by
  simp [Pattern.demands]

@[simp] theorem covers_pathPattern {segments : List Name} :
    blueprint.Covers (Pattern.path segments).demands ↔
      ∀ name ∈ segments, blueprint.IsCovered (.named .segment name) := by
  rw [Pattern.demands, covers_names]

@[simp] theorem covers_somePattern :
    blueprint.Covers (Pattern.some first).demands ↔ blueprint.Covers first.demands := Iff.rfl

@[simp] theorem covers_pair :
    blueprint.Covers (Pattern.pair first second).demands ↔
      blueprint.Covers first.demands ∧ blueprint.Covers second.demands := covers_append

end Patterns

section Expressions

@[simp] theorem exposed_number {value : Nat} : (Expr.number value).exposed = [] := rfl

@[simp] theorem exposed_apply {segments : List Name} {arguments : List Expr} :
    (Expr.apply segments arguments).exposed = [] := rfl

@[simp] theorem exposed_send {value : Expr} {name : Name} {arguments : List Expr} :
    (Expr.send value name arguments).exposed = [] := rfl

variable {value other : Expr} {values : List Expr} {hasLastComma : Bool} {name : Name}
  {segments : List Name} {types : List Ty}

@[simp] theorem covers_values :
    blueprint.Covers (Expr.listDemands values) ↔
      ∀ value ∈ values, blueprint.Covers value.demands := by
  induction values with
  | nil => simp [Expr.listDemands]
  | cons value rest ih => rw [Expr.listDemands, covers_append, ih, List.forall_mem_cons]

/-- The first of several segments stands at a place of its own. -/
@[simp] theorem covers_path {isGlobal : Bool} {first : Name} :
    blueprint.Covers (Expr.path isGlobal (first :: segments)).demands ↔
      blueprint.IsCovered
          (.named (if !isGlobal && !segments.isEmpty then .front else .segment) first) ∧
        ∀ name ∈ segments, blueprint.IsCovered (.named .segment name) := by
  rw [Expr.demands, Expr.pathDemands, covers_cons, covers_names]

@[simp] theorem covers_generic :
    blueprint.Covers (Expr.generic segments types).demands ↔
      blueprint.Covers (Expr.path false segments).demands ∧
        ∀ type ∈ types, blueprint.Covers type.demands :=
  covers_append.trans (and_congr Iff.rfl covers_types)

@[simp] theorem covers_literal {spelling : String} :
    blueprint.Covers (Expr.literal spelling).demands := covers_nil

@[simp] theorem covers_number {value : Nat} : blueprint.Covers (Expr.number value).demands :=
  covers_nil

@[simp] theorem covers_quoted {text : String} : blueprint.Covers (Expr.quoted text).demands :=
  covers_nil

@[simp] theorem covers_boolean {value : Bool} : blueprint.Covers (Expr.boolean value).demands :=
  covers_nil

@[simp] theorem covers_prefixed {op : PrefixOp} :
    blueprint.Covers (Expr.prefixed op value).demands ↔ blueprint.Covers value.demands := Iff.rfl

@[simp] theorem covers_infixed {op : InfixOp} :
    blueprint.Covers (Expr.infixed op value other).demands ↔
      blueprint.IsCovered (.operators (value.exposed ++ op :: other.exposed)) ∧
        blueprint.Covers value.demands ∧ blueprint.Covers other.demands := by
  rw [Expr.demands, List.cons_append, covers_cons, covers_append]

@[simp] theorem covers_cast {type : Ty} :
    blueprint.Covers (Expr.cast value type).demands ↔
      blueprint.Covers value.demands ∧ blueprint.Covers type.demands := covers_append

@[simp] theorem covers_paren :
    blueprint.Covers (Expr.paren value).demands ↔ blueprint.Covers value.demands := Iff.rfl

@[simp] theorem covers_tuple :
    blueprint.Covers (Expr.tuple values hasLastComma).demands ↔
      ∀ value ∈ values, blueprint.Covers value.demands := covers_values

@[simp] theorem covers_array :
    blueprint.Covers (Expr.array values hasLastComma).demands ↔
      ∀ value ∈ values, blueprint.Covers value.demands := covers_values

@[simp] theorem covers_repeated :
    blueprint.Covers (Expr.repeated value other).demands ↔
      blueprint.Covers value.demands ∧ blueprint.Covers other.demands := covers_append

@[simp] theorem covers_field :
    blueprint.Covers (Expr.field value name).demands ↔
      blueprint.Covers value.demands ∧ blueprint.IsCovered (.named .plain name) := by
  simp [Expr.demands]

@[simp] theorem covers_call {function : Expr} :
    blueprint.Covers (Expr.call function values hasLastComma).demands ↔
      blueprint.Covers function.demands ∧ ∀ value ∈ values, blueprint.Covers value.demands := by
  rw [Expr.demands, covers_append, covers_values]

@[simp] theorem covers_apply :
    blueprint.Covers (Expr.apply segments values).demands ↔
      blueprint.Covers (Expr.path false segments).demands ∧
        ∀ value ∈ values, blueprint.Covers value.demands := covers_call

@[simp] theorem covers_method :
    blueprint.Covers (Expr.method value name types values hasLastComma).demands ↔
      blueprint.Covers value.demands ∧ blueprint.IsCovered (.named .plain name) ∧
        (∀ type ∈ types, blueprint.Covers type.demands) ∧
        ∀ value ∈ values, blueprint.Covers value.demands := by
  simp [Expr.demands]

@[simp] theorem covers_send :
    blueprint.Covers (Expr.send value name values).demands ↔
      blueprint.Covers value.demands ∧ blueprint.IsCovered (.named .plain name) ∧
        ∀ value ∈ values, blueprint.Covers value.demands := by
  simp [Expr.send]

@[simp] theorem covers_attempt :
    blueprint.Covers (Expr.attempt value).demands ↔ blueprint.Covers value.demands := Iff.rfl

@[simp] theorem covers_upTo :
    blueprint.Covers (Expr.upTo value).demands ↔ blueprint.Covers value.demands := Iff.rfl

@[simp] theorem covers_closure :
    blueprint.Covers (Expr.closure name value).demands ↔
      blueprint.IsCovered (.named .plain name) ∧ blueprint.Covers value.demands := covers_cons

theorem covers_expand (hpath : ∀ name ∈ segments, blueprint.IsCovered (.named .segment name))
    (hvalues : ∀ value ∈ values, blueprint.Covers value.demands) :
    blueprint.Covers (Expr.expand segments values).demands :=
  covers_append.mpr ⟨covers_names.mpr hpath, (covers_values.mpr hvalues).tokens⟩

theorem covers_vector (hitem : blueprint.Covers value.demands)
    (hlength : blueprint.Covers other.demands) :
    blueprint.Covers (Expr.vector value other).demands :=
  (covers_append.mpr ⟨hitem, hlength⟩).tokens

@[simp] theorem covers_construct {fields : List Name} :
    blueprint.Covers (Expr.construct name fields values).demands ↔
      blueprint.IsCovered (.named .segment name) ∧
        (∀ field ∈ fields, blueprint.IsCovered (.named .plain field)) ∧
        ∀ value ∈ values, blueprint.Covers value.demands := by
  simp [Expr.demands, covers_names]

end Expressions

section Statements

variable {value other : Expr} {pattern : Pattern} {stmts : List Stmt}

@[simp] theorem covers_body :
    blueprint.Covers (Stmt.listDemands stmts) ↔ ∀ stmt ∈ stmts, blueprint.Covers stmt.demands := by
  induction stmts with
  | nil => simp [Stmt.listDemands]
  | cons stmt rest ih => rw [Stmt.listDemands, covers_append, ih, List.forall_mem_cons]

@[simp] theorem covers_bind {type : Option Ty} :
    blueprint.Covers (Stmt.bind pattern type value).demands ↔
      blueprint.Covers pattern.demands ∧ (∀ found ∈ type, blueprint.Covers found.demands) ∧
        blueprint.Covers value.demands := by
  simp [Stmt.demands]

@[simp] theorem covers_bindOr :
    blueprint.Covers (Stmt.bindOr pattern value stmts).demands ↔
      blueprint.Covers pattern.demands ∧ blueprint.Covers value.demands ∧
        ∀ stmt ∈ stmts, blueprint.Covers stmt.demands := by
  simp [Stmt.demands]

@[simp] theorem covers_when :
    blueprint.Covers (Stmt.when value stmts).demands ↔
      blueprint.Covers value.demands ∧ ∀ stmt ∈ stmts, blueprint.Covers stmt.demands := by
  simp [Stmt.demands]

@[simp] theorem covers_whenMatches :
    blueprint.Covers (Stmt.whenMatches pattern value stmts).demands ↔
      blueprint.Covers pattern.demands ∧ blueprint.Covers value.demands ∧
        ∀ stmt ∈ stmts, blueprint.Covers stmt.demands := by
  simp [Stmt.demands]

@[simp] theorem covers_assign :
    blueprint.Covers (Stmt.assign value other).demands ↔
      blueprint.Covers value.demands ∧ blueprint.Covers other.demands := covers_append

@[simp] theorem covers_run :
    blueprint.Covers (Stmt.run value).demands ↔ blueprint.Covers value.demands := Iff.rfl

@[simp] theorem covers_exit {value? : Option Expr} :
    blueprint.Covers (Stmt.exit value?).demands ↔
      ∀ value ∈ value?, blueprint.Covers value.demands := by
  cases value? <;> simp [Stmt.demands]

@[simp] theorem covers_result :
    blueprint.Covers (Stmt.result value).demands ↔ blueprint.Covers value.demands := Iff.rfl

@[simp] theorem covers_select {arms : List (Pattern × Expr)} :
    blueprint.Covers (Stmt.select value arms).demands ↔
      blueprint.Covers value.demands ∧
        ∀ arm ∈ arms, blueprint.Covers arm.1.demands ∧ blueprint.Covers arm.2.demands := by
  simp only [Stmt.demands, covers_append, covers_flatMap]

end Statements

section Items

variable {name : Name} {attributes : List Attribute}

@[simp] theorem covers_parameter {parameter : Parameter} :
    blueprint.Covers parameter.demands ↔
      blueprint.IsCovered (.named .plain parameter.name) ∧
        blueprint.Covers parameter.type.demands := covers_cons

@[simp] theorem covers_signature {signature : Signature} :
    blueprint.Covers signature.demands ↔
      blueprint.IsCovered (.named .plain signature.name) ∧
        (∀ parameter ∈ signature.parameters, blueprint.Covers parameter.demands) ∧
        ∀ type ∈ signature.result, blueprint.Covers type.demands := by
  rw [Signature.demands, List.cons_append, covers_cons, covers_append, covers_flatMap, covers_type?]

@[simp] theorem covers_function {function : Function} :
    blueprint.Covers function.demands ↔
      blueprint.Covers function.signature.demands ∧
        ∀ stmt ∈ function.body, blueprint.Covers stmt.demands := by
  rw [Function.demands, covers_append, covers_body]

@[simp] theorem covers_constant {constant : Constant} :
    blueprint.Covers constant.demands ↔
      blueprint.IsCovered (.named .plain constant.name) ∧
        blueprint.Covers constant.type.demands ∧ blueprint.Covers constant.value.demands := by
  rw [Constant.demands, List.cons_append, covers_cons, covers_append]

@[simp] theorem covers_memberConstant {constant : Constant} :
    blueprint.Covers (Member.constant constant).demands ↔ blueprint.Covers constant.demands :=
  Iff.rfl

@[simp] theorem covers_memberFunction {function : Function} :
    blueprint.Covers (Member.function function).demands ↔ blueprint.Covers function.demands :=
  Iff.rfl

@[simp] theorem covers_itemConstant {constant : Constant} :
    blueprint.Covers (Item.constant constant).demands ↔ blueprint.Covers constant.demands :=
  Iff.rfl

@[simp] theorem covers_itemFunction {function : Function} :
    blueprint.Covers (Item.function function).demands ↔ blueprint.Covers function.demands :=
  Iff.rfl

theorem covers_ensure {condition : Expr} (h : blueprint.Covers condition.demands) :
    blueprint.Covers (Item.ensure condition).demands := h.tokens

@[simp] theorem covers_enumeration {variants : List Variant} :
    blueprint.Covers (Item.enumeration attributes name variants).demands ↔
      blueprint.IsCovered (.named .plain name) ∧
        ∀ variant ∈ variants, blueprint.IsCovered (.named .plain variant.name) := by
  rw [Item.demands, covers_cons, Covers, List.forall_mem_map]

@[simp] theorem covers_struct {struct : Struct} :
    blueprint.Covers (Item.struct struct).demands ↔
      blueprint.IsCovered (.named .plain struct.name) ∧
        ∀ field ∈ struct.fields, blueprint.Covers field.demands := by
  rw [Item.demands, covers_cons, covers_flatMap]

@[simp] theorem covers_unitStruct :
    blueprint.Covers (Item.unitStruct attributes name).demands ↔
      blueprint.IsCovered (.named .plain name) := by
  simp [Item.demands]

@[simp] theorem covers_typeAlias {type : Ty} :
    blueprint.Covers (Item.typeAlias attributes name type).demands ↔
      blueprint.IsCovered (.named .plain name) ∧ blueprint.Covers type.demands := covers_cons

@[simp] theorem covers_implement {interface? : Option Name} {members : List Member} :
    blueprint.Covers (Item.implement interface? name members).demands ↔
      (∀ interface ∈ interface?, blueprint.IsCovered (.named .segment interface)) ∧
        blueprint.IsCovered (.named .segment name) ∧
        ∀ member ∈ members, blueprint.Covers member.demands := by
  cases interface? <;> simp [Item.demands, covers_names, and_assoc]

@[simp] theorem covers_interface {methods : List Prototype} :
    blueprint.Covers (Item.interface attributes name methods).demands ↔
      blueprint.IsCovered (.named .plain name) ∧
        ∀ method ∈ methods, blueprint.Covers method.signature.demands := by
  rw [Item.demands, covers_cons, covers_flatMap]

/-- Every file but the command table imports the support module. -/
theorem covers_file {title : String} {contents : List String} {items : List Item}
    (h : ∀ item ∈ items, blueprint.Covers item.demands) :
    blueprint.Covers (blueprint.file title contents items).demands :=
  covers_flatMap.mpr (List.forall_mem_cons.mpr ⟨covers_cons.mpr ⟨.support, covers_nil⟩, h⟩)

end Items

end Blueprint

end CommandBuffer
