import CommandBuffer.Proofs.Signature.Declarations
import CommandBuffer.Proofs.Synthesis
import CommandBuffer.Proofs.Validation

/-! # Types of validated arguments

A handler binds a plain argument to a value of the type that its base stands for, and the validator
of a named type takes values of the type that the underlying type stands for. A signature that names
the type in brackets has to repeat the underlying type in front of them, so both are the same. Where
the base itself is the name of a type, nothing compares it with the underlying type.
-/

namespace CommandBuffer

open Code SignatureFile Success

/-! ## Types in the emitted code -/

namespace Code

/-- The type that a cast or a comparison has. -/
def Expr.castType? : Expr → Option Ty
  | .cast _ type => some type
  | .infixed op _ _ => if op.isComparison then some "bool" else none
  | _ => none

/-- The type whose conversion from the wire is called. -/
def Expr.wireType? : Expr → Option Ty
  | .call (.path false segments) _ _ =>
    if segments.getLast? = some "from_wire" then some (.path false segments.dropLast) else none
  | _ => none

/-- The name that a statement binds, and the type of its value. -/
def Stmt.binding? : Stmt → Option (Name × Ty)
  | .bind (.bind _ name) none value => value.castType?.map (name, ·)
  | .bindOr (.some (.bind _ name)) value _ => value.wireType?.map (name, ·)
  | _ => none

/-- The type of the values that a validator can be asked about. -/
def Item.checkedType? : Item → Option Ty
  | .typeAlias _ _ (.applied head [type]) => if head = "ValueValidator" then some type else none
  | .implement none _ [.function method] =>
    if method.signature.name = "is_valid" then method.signature.parameters.head?.map Parameter.type
    else none
  | _ => none

end Code

namespace Validator

/-- The type of a validator, and the check of a final one. -/
def items (validator : Validator) (values : List Expr) : List Item :=
  validator.declaration :: if validator.isComplete then [validator.check values] else []

/-- Each validator declares one type of values, that of the underlying type. -/
theorem findSome?_checkedType? (validator : Validator) (values : List Expr) :
    (validator.items values).findSome? Item.checkedType?
      = some (valueType validator.underlying) := by
  cases hcomplete : validator.isComplete with
  | false => simp [items, declaration, hcomplete, Item.checkedType?]
  | true =>
    simp only [items, declaration, hcomplete, if_true]
    rfl

end Validator

/-- Only the type that is called so is carried as a truth value. -/
theorem ScalarKind.eq_bool_of_ofType? {type : CType} (h : ofType? type = some .bool) :
    type.base = "bool" := by
  have hbase := ofBase?_of_ofType? h (by decide)
  unfold ofBase? at hbase
  repeat' split at hbase
  all_goals first | assumption | cases hbase

namespace Handler

variable {validators : ValidatorSet} {command : Command} {argument : Argument}
  {kind : ScalarKind} {validator : Validator}

/-- The argument is bound to a value of one type, and compared next with a validator that takes
values of the other. -/
def ChecksAs (validators : ValidatorSet) (command : Command) (argument : Argument)
    (validator : Validator) (bound declared : Ty) : Prop :=
  ∃ binding check, prepare validators command argument = [binding, check] ∧
    binding.binding? = some (argument.ident, bound) ∧ validator.IsCheck argument check ∧
    ∀ values, (validator.items values).findSome? Item.checkedType? = some declared

theorem binding?_decode (hbool : kind = .bool → argument.base = "bool") :
    (decode command argument kind).binding? = some (argument.ident, valueType argument.base) := by
  cases kind with
  | enum => simp [decode, Stmt.binding?, Expr.apply, Expr.wireType?, valueType]
  | bool =>
    rw [hbool rfl]
    rfl
  | u32 | i32 | f32 | u64 => rfl

theorem checksAs_of_word (hbool : kind = .bool → argument.base = "bool") {field : Nat}
    (hlayout : argument.layout = .word field kind)
    (hvalidator : validators.forType? argument.param.type = some validator) :
    ChecksAs validators command argument validator (valueType argument.base)
      (valueType validator.underlying) := by
  refine ⟨decode command argument kind, validate command argument kind validator, ?_,
    binding?_decode hbool, isCheck_validate, validator.findSome?_checkedType?⟩
  rw [prepare_of_word hlayout, hvalidator]
  rfl

end Handler

/-! ## Types as they are written -/

namespace SignatureFile

variable {registry : Registry} {params : List Param}

/-- Every type of a parameter list was written as the grammar says. -/
theorem exists_written_of_readParams {text : List Char}
    (h : readParams registry text = .ok params) : ∀ param ∈ params, ∃ form piece,
      TypeForm.IsWritten form piece ∧ form.Means registry param.type := by
  intro param hparam
  unfold readParams at h
  simp only at h
  split at h
  · cases h
    cases hparam
  · obtain ⟨piece, -, hpiece⟩ := exists_of_mem_mapM h hparam
    obtain ⟨form, ⟨⟨_, _, _, -, -, ⟨text, _, htype, -⟩, -⟩, -⟩, hmeans, -⟩ :=
      readPiece_eq_ok_iff.mp hpiece
    exact ⟨form.type, text, htype, hmeans⟩

/-- What a type refers to has its base as the underlying type if it was named in brackets, and as
the name otherwise. -/
theorem TypeForm.Means.refers {form : TypeForm} {type : CType} (h : form.Means registry type)
    {id : TypeId} {named : NamedType} (hid : type.named = some id)
    (hnamed : registry.get? id = some named) :
    (form.qualifier.isSome = true → type.base = named.underlying) ∧
      (form.qualifier = none → type.base = named.name) := by
  cases h with
  | plain =>
    obtain ⟨found, hget, hname⟩ := Registry.exists_of_find? hid
    cases hget.symm.trans hnamed
    exact ⟨by simp, fun _ => hname.symm⟩
  | qualified hfind hget hbase =>
    cases hid
    rw [hget] at hnamed
    cases hnamed
    exact ⟨fun _ => hbase.symm, by simp⟩

end SignatureFile

namespace Protocol

variable {protocol : Protocol} {records : List Record}

/-! ## The type of a check -/

/-- A plain argument is bound to a value of its base type, and its validator takes values of the
underlying type. These are one type if the signature names the type of the argument in brackets. The
only other form that it can have is that the base is the name, and then the two are spelled alike
exactly if the name and the underlying type are. -/
theorem validated_types_agree_iff {commands : List Command}
    (hrecords : protocol.records = .ok records)
    (hcommands : protocol.commands records = .ok commands) {command : Command}
    (hcommand : command ∈ commands) {argument : Argument} (hargument : argument ∈ command.arguments)
    {field : Nat} {kind : ScalarKind} (hlayout : argument.layout = .word field kind)
    {validator : Validator}
    (hvalidator : (protocol.validators records).forType? argument.param.type = some validator) :
    Handler.ChecksAs (protocol.validators records) command argument validator
      (valueType argument.base) (valueType validator.underlying) ∧
    (∃ form text, TypeForm.IsWritten form text ∧ form.Means protocol.types argument.param.type) ∧
    (∀ form : TypeForm, form.Means protocol.types argument.param.type →
      (form.qualifier.isSome = true → argument.base = validator.underlying) ∧
      (form.qualifier = none → argument.base = validator.name)) ∧
    ((valueType argument.base).tokens = (valueType validator.underlying).tokens ↔
      (∃ form : TypeForm, form.Means protocol.types argument.param.type ∧
        form.qualifier.isSome = true) ∨
      (valueType validator.name).tokens = (valueType validator.underlying).tokens) := by
  have hplanned := isPlanned_of_commands hcommands command hcommand
  have hlaid := isLaidOut_of_commands hcommands command hcommand
  obtain ⟨index, hindex⟩ := List.getElem?_of_mem hargument
  have hbool : kind = .bool → argument.base = "bool" := by
    rintro rfl
    exact ScalarKind.eq_bool_of_ofType? (hlaid.kind_of_word hindex hlayout).1
  have hparam : argument.param ∈ command.record.arguments := by
    rw [← hlaid.params]
    exact List.mem_map_of_mem hargument
  obtain ⟨id, hid, hget⟩ := Option.bind_eq_some_iff.mp hvalidator
  obtain ⟨⟨named, hnamed, -, hmade⟩, -⟩ := ValidatorSet.get?_synthesize.mp hget
  have hforms : ∀ form : TypeForm, form.Means protocol.types argument.param.type →
      (form.qualifier.isSome = true → argument.base = validator.underlying) ∧
      (form.qualifier = none → argument.base = validator.name) := by
    intro form hmeans
    rw [hmade]
    exact hmeans.refers hid hnamed
  obtain ⟨text, hread⟩ := exists_readParams_of_records hrecords _ hplanned.mem
  obtain ⟨form, piece, hwritten, hmeans⟩ := exists_written_of_readParams hread _ hparam
  refine ⟨Handler.checksAs_of_word hbool hlayout hvalidator, ⟨form, piece, hwritten, hmeans⟩,
    hforms, ?_⟩
  -- The form that was read decides; any other with this meaning leads to the same types.
  cases hqualifier : form.qualifier with
  | some name =>
    have hqualified : form.qualifier.isSome = true := by rw [hqualifier, Option.isSome_some]
    rw [(hforms form hmeans).1 hqualified]
    exact iff_of_true rfl (.inl ⟨form, hmeans, hqualified⟩)
  | none =>
    rw [← (hforms form hmeans).2 hqualifier]
    refine ⟨.inr, fun h => ?_⟩
    rcases h with ⟨other, hother, hqualified⟩ | hsame
    · rw [(hforms other hother).1 hqualified]
    · exact hsame

end Protocol

/-! ## A type in brackets and a bare one -/

/-- The mode of the gate is named in brackets, and its validator is for the type of the argument. -/
theorem validated_types_agree_gate :
    TypeForm.Means gateProtocol.types { base := "GLenum", qualifier := some "Mode" }
      modeArgument.param.type ∧
    Handler.ChecksAs (gateProtocol.validators [gateRecord]) gateCommand modeArgument modeValidator
      (valueType "GLenum") (valueType "GLenum") := by
  have hmeans : TypeForm.Means gateProtocol.types { base := "GLenum", qualifier := some "Mode" }
      modeArgument.param.type := .qualified (by decide) rfl rfl
  obtain ⟨hchecks, -, hforms, -⟩ := Protocol.validated_types_agree_iff records_gate commands_gate
    List.mem_cons_self List.mem_cons_self rfl forType?_mode
  rw [← (hforms _ hmeans).1 rfl] at hchecks
  exact ⟨hmeans, hchecks⟩

/-- The base is the name of a type over `GLenum`. -/
def bareProtocol : Protocol := { gateProtocol with functions := "void SetMode(Mode mode);" }

def bareParams : List Param := [⟨{ base := "Mode", named := some ⟨0⟩ }, "mode"⟩]

def bareRecord : Record :=
  .merge { name := "SetMode", returnType := .void, params := bareParams, line := 1 }
    { name := "SetMode" } bareParams .direct [.shm]

def bareArgument : Argument := ⟨⟨{ base := "Mode", named := some ⟨0⟩ }, "mode"⟩, .word 0 .enum⟩

def bareCommand : Command where
  record := bareRecord
  transfer := .shm
  name := "SetMode"
  id := 256
  fields := [⟨"mode", .u32⟩]
  arguments := [bareArgument]
  count := none
  result := none
  clientId := none

theorem records_bare : bareProtocol.records = .ok [bareRecord] := by decide +kernel

theorem commands_bare : bareProtocol.commands [bareRecord] = .ok [bareCommand] := rfl

theorem forType?_bare : (bareProtocol.validators [bareRecord]).forType? bareArgument.param.type
    = some modeValidator := by decide +kernel

/-- The handler compares a `Mode` with a validator for values of `GLenum`. -/
theorem validated_types_differ_mode :
    bareProtocol.records = .ok [bareRecord] ∧
    bareProtocol.commands [bareRecord] = .ok [bareCommand] ∧
    bareArgument ∈ bareCommand.arguments ∧ bareArgument.layout = .word 0 .enum ∧
    (bareProtocol.validators [bareRecord]).forType? bareArgument.param.type = some modeValidator ∧
    Handler.ChecksAs (bareProtocol.validators [bareRecord]) bareCommand bareArgument modeValidator
      (.path false [.escaped "Mode"]) (.path false [.escaped "GLenum"]) ∧
    (valueType bareArgument.base).tokens ≠ (valueType modeValidator.underlying).tokens :=
  ⟨records_bare, commands_bare, List.mem_cons_self, rfl, forType?_bare,
    Handler.checksAs_of_word (by decide) rfl forType?_bare, by decide⟩

end CommandBuffer
