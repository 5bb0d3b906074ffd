import CommandBuffer.Artifact.Validators
import CommandBuffer.Proofs.Execution.Scalars
import CommandBuffer.Proofs.Planning
import Mathlib

/-! # Validation before dispatch

A handler reads every plain argument before it calls the service function. An
argument of one word whose type has a validator is compared with it right after it
was read, and the handler is left unless the value is accepted. An argument of two
words is read through its accessor and passed on as it is, also if its type has a
validator.
-/

namespace CommandBuffer

open Code

variable {support : Support}

/-- The statement leaves the handler unless the validator accepts the argument. -/
def Validator.IsCheck (validator : Validator) (argument : Argument) (stmt : Stmt) : Prop :=
  ∃ report, stmt = .when
    (.prefixed .complement (.send (.field (.field "self" "validators") validator.fieldName)
      "is_valid" [argument.ident]))
    [.run report, Handler.consume]

namespace Handler

variable {validators : ValidatorSet} {command : Command} {argument : Argument}
  {kind : ScalarKind} {validator : Validator}

/-- The argument is bound and then compared with the validator; no other value goes on. -/
def Checks (validators : ValidatorSet) (command : Command) (argument : Argument)
    (validator : Validator) : Prop :=
  ∃ binding check, prepare validators command argument = [binding, check] ∧
    validator.IsCheck argument check ∧
    ∀ {support : Support} (host : Host support) (scope next : Scope support),
      scope "self" = some .decoder → binding.run? host scope = some (.onward next) →
      ∃ value, next = scope.set argument.ident.spelling value ∧
        check.run? host next = some
          (if host.accepts validator.fieldName.spelling value then .onward next else .left)

/-! ## One word -/

theorem isCheck_validate :
    validator.IsCheck argument (validate command argument kind validator) := by
  unfold validate
  by_cases henum : isEnumLike argument kind
  · exact ⟨_, by rw [if_pos henum]; rfl⟩
  · exact ⟨_, by rw [if_neg henum]; rfl⟩

/-- A scalar that is read is bound to its name, and nothing else changes. -/
theorem set_of_run?_decode {host : Host support} {scope next : Scope support}
    (h : (decode command argument kind).run? host scope = some (.onward next)) :
    ∃ value, next = scope.set argument.ident.spelling value := by
  cases kind with
  | enum =>
    rw [decode, Stmt.run?] at h
    obtain ⟨found, -, h⟩ := Option.bind_eq_some_iff.mp h
    cases found with
    | present value =>
      cases h
      exact ⟨value, rfl⟩
    | absent =>
      -- A word that stands for no value leaves the handler.
      have hleft : Stmt.runAll? host scope [reportInvalidEnum command argument, consume]
          = some .left := rfl
      rw [hleft] at h
      cases h
    | _ => cases h
  | u32 | i32 | f32 | bool | u64 =>
    rw [decode, Stmt.run?] at h
    obtain ⟨value, -, h⟩ := Option.map_eq_some_iff.mp h
    cases h
    exact ⟨value, rfl⟩

/-- The answer of the validator decides. -/
theorem run?_of_isCheck {check : Stmt} (hcheck : validator.IsCheck argument check)
    (host : Host support) {scope : Scope support} {value : Value support}
    (hself : scope "self" = some .decoder)
    (hvalue : scope argument.ident.spelling = some value) :
    check.run? host scope = some
      (if host.accepts validator.fieldName.spelling value then .onward scope else .left) := by
  rcases hcheck with ⟨report, rfl⟩
  have hfield : (Expr.field (.field "self" "validators") validator.fieldName).value? host scope
      = some (.validator validator.fieldName.spelling) := by
    rw [Expr.value?, Expr.value?, Expr.value?_variable, show Name.spelling "self" = "self" from rfl,
      hself]
    rfl
  have hident : Expr.values? host scope [argument.ident] = some [value] := by
    rw [Expr.values?, Expr.value?_variable, hvalue]
    rfl
  have hanswer : (Expr.send (.field (.field "self" "validators") validator.fieldName)
      "is_valid" [argument.ident]).value? host scope
      = some (.boolean (host.accepts validator.fieldName.spelling value)) := by
    rw [Expr.send, Expr.value?, hfield, Option.bind_some, hident]
    rfl
  rw [Stmt.run?, Expr.value?, hanswer]
  cases host.accepts validator.fieldName.spelling value <;> rfl

theorem checks_of_word {field : Nat} (hlayout : argument.layout = .word field kind)
    (hvalidator : validators.forType? argument.param.type = some validator) :
    Checks validators command argument validator := by
  refine ⟨decode command argument kind, validate command argument kind validator, ?_,
    isCheck_validate, ?_⟩
  · rw [prepare_of_word hlayout, hvalidator]
    rfl
  · intro support host scope next hself hrun
    obtain ⟨value, rfl⟩ := set_of_run?_decode hrun
    refine ⟨value, rfl, run?_of_isCheck isCheck_validate host ?_ (Scope.set_self _ _ _)⟩
    exact (Scope.set_of_ne (Name.escaped_spelling_ne_self argument.name).symm).trans hself

/-! ## Two words -/

theorem not_checks_of_split {low high : Nat} (hlayout : argument.layout = .split low high) :
    ¬ Checks validators command argument validator := by
  rintro ⟨binding, check, hprepare, -⟩
  rw [prepare_of_split hlayout] at hprepare
  cases hprepare

/-- Whatever the accessor gives goes on. -/
theorem runAll?_prepare_of_split {low high : Nat} (hlayout : argument.layout = .split low high)
    (host : Host support) {scope : Scope support} {value : Value support}
    (hvalue : (Expr.send "c" argument.ident []).value? host scope = some value) :
    Stmt.runAll? host scope (prepare validators command argument)
      = some (.onward (scope.set argument.ident.spelling value)) := by
  rw [prepare_of_split hlayout, Stmt.runAll?, run?_bind host hvalue]
  rfl

/-! ## The handler -/

/-- An argument is made ready before the service function is called. -/
theorem exists_body_eq (hargument : argument ∈ command.arguments) :
    ∃ before after, (function validators command).body
      = before ++ prepare validators command argument ++ after ++ dispatch command := by
  obtain ⟨first, last, harguments⟩ := List.append_of_mem hargument
  refine ⟨gate command ++ viewCommand command :: first.flatMap (prepare validators command),
    last.flatMap (prepare validators command), ?_⟩
  simp only [function, harguments, List.flatMap_append, List.flatMap_cons, List.append_assoc,
    List.cons_append]

end Handler

namespace ScalarKind

theorem ofType?_of_ofBase? {type : CType} {kind : ScalarKind} (hscalar : type.isPointer = false)
    (h : ofBase? type.base = some kind) : ofType? type = some kind := by
  rw [ofType?, hscalar, h]
  rfl

end ScalarKind

namespace Protocol

/-- Each plain argument whose type has a validator is made ready before the call, and checked
exactly if it does not take two words; an argument of two words goes on unchecked. -/
theorem handler_checks_iff {protocol : Protocol} {records : List Record} {commands : List Command}
    (hcommands : protocol.commands records = .ok commands) {command : Command}
    (hcommand : command ∈ commands) {argument : Argument} (hargument : argument ∈ command.arguments)
    (hscalar : argument.param.type.isPointer = false) {validator : Validator}
    (hvalidator : (protocol.validators records).forType? argument.param.type = some validator) :
    (∃ before after, (Handler.function (protocol.validators records) command).body
      = before ++ Handler.prepare (protocol.validators records) command argument ++ after
        ++ Handler.dispatch command) ∧
    (Handler.Checks (protocol.validators records) command argument validator ↔
      ScalarKind.ofBase? argument.base ≠ some .u64) ∧
    (ScalarKind.ofBase? argument.base = some .u64 →
      ∀ {support : Support} (host : Host support) (scope : Scope support) (value : Value support),
        (Expr.send "c" argument.ident []).value? host scope = some value →
        Stmt.runAll? host scope
            (Handler.prepare (protocol.validators records) command argument)
          = some (.onward (scope.set argument.ident.spelling value))) := by
  have hlaid := isLaidOut_of_commands hcommands command hcommand
  obtain ⟨index, hindex⟩ := List.getElem?_of_mem hargument
  refine ⟨Handler.exists_body_eq hargument, ?_⟩
  rcases hlaid.layout_of_scalar hindex hscalar with ⟨field, kind, hlayout⟩ | ⟨low, high, hlayout⟩
  · have hbase : ScalarKind.ofBase? argument.base ≠ some .u64 := by
      intro hwide
      obtain ⟨hkind, hnarrow⟩ := hlaid.kind_of_word hindex hlayout
      have hsame := hkind.symm.trans (ScalarKind.ofType?_of_ofBase? hscalar hwide)
      exact hnarrow (Option.some.inj hsame)
    exact ⟨⟨fun _ => hbase, fun _ => Handler.checks_of_word hlayout hvalidator⟩,
      fun hwide => absurd hwide hbase⟩
  · have hbase : ScalarKind.ofBase? argument.base = some .u64 :=
      ScalarKind.ofBase?_of_ofType? (hlaid.kind_of_split hindex hlayout) (by decide)
    exact ⟨⟨fun hchecks => absurd hchecks (Handler.not_checks_of_split hlayout),
        fun hnarrow => absurd hbase hnarrow⟩,
      fun _ _ host _ _ hvalue => Handler.runAll?_prepare_of_split hlayout host hvalue⟩

end Protocol

/-! ## One argument of each size -/

def gateProtocol : Protocol where
  name := "Gate"
  filePrefix := "gate"
  description := "Named types of one word and of two"
  commandBase := 256
  supportPath := "crate::support"
  types := { types := [
    { name := "Mode", underlying := "GLenum", legal := ["GL_FRONT"], illegal := ["GL_LEFT"] },
    { name := "Flags", underlying := "GLuint64", legal := ["1"], illegal := ["2"] }] }
  overrides := {}
  functions := "void Gate(GLenum<Mode> mode, GLuint64<Flags> flags);"

def gateParams : List Param := [
  ⟨{ base := "GLenum", named := some ⟨0⟩ }, "mode"⟩,
  ⟨{ base := "GLuint64", named := some ⟨1⟩ }, "flags"⟩]

def gateRecord : Record :=
  .merge { name := "Gate", returnType := .void, params := gateParams, line := 1 }
    { name := "Gate" } gateParams .direct [.shm]

def modeArgument : Argument := ⟨⟨{ base := "GLenum", named := some ⟨0⟩ }, "mode"⟩, .word 0 .u32⟩

def flagsArgument : Argument :=
  ⟨⟨{ base := "GLuint64", named := some ⟨1⟩ }, "flags"⟩, .split 1 2⟩

def gateCommand : Command where
  record := gateRecord
  transfer := .shm
  name := "Gate"
  id := 256
  fields := [⟨"mode", .u32⟩, ⟨"flags_0", .u32⟩, ⟨"flags_1", .u32⟩]
  arguments := [modeArgument, flagsArgument]
  count := none
  result := none
  clientId := none

def modeValidator : Validator :=
  .ofType ⟨0⟩
    { name := "Mode", underlying := "GLenum", legal := ["GL_FRONT"], illegal := ["GL_LEFT"] }

def flagsValidator : Validator :=
  .ofType ⟨1⟩ { name := "Flags", underlying := "GLuint64", legal := ["1"], illegal := ["2"] }

theorem records_gate : gateProtocol.records = .ok [gateRecord] := by decide +kernel

theorem commands_gate : gateProtocol.commands [gateRecord] = .ok [gateCommand] := by decide +kernel

theorem forType?_mode : (gateProtocol.validators [gateRecord]).forType? modeArgument.param.type
    = some modeValidator := by decide +kernel

theorem forType?_flags : (gateProtocol.validators [gateRecord]).forType? flagsArgument.param.type
    = some flagsValidator := by decide +kernel

/-- The mode is checked. -/
theorem handler_checks_mode :
    Handler.Checks (gateProtocol.validators [gateRecord]) gateCommand modeArgument modeValidator :=
  (Protocol.handler_checks_iff commands_gate List.mem_cons_self List.mem_cons_self rfl
    forType?_mode).2.1.mpr (by decide)

/-- The flags have a validator as well, but no statement of the handler asks it. -/
theorem handler_omits_check_of_flags :
    gateProtocol.records = .ok [gateRecord] ∧
    gateProtocol.commands [gateRecord] = .ok [gateCommand] ∧
    flagsArgument ∈ gateCommand.arguments ∧ flagsArgument.param.type.isPointer = false ∧
    (gateProtocol.validators [gateRecord]).forType? flagsArgument.param.type
      = some flagsValidator ∧
    ∀ stmt ∈ (Handler.function (gateProtocol.validators [gateRecord]) gateCommand).body,
      ¬ flagsValidator.IsCheck flagsArgument stmt := by
  refine ⟨records_gate, commands_gate, List.mem_cons_of_mem _ List.mem_cons_self, rfl,
    forType?_flags, ?_⟩
  have hbody : (Handler.function (gateProtocol.validators [gateRecord]) gateCommand).body
      = [Handler.viewCommand gateCommand, Handler.decode gateCommand modeArgument .u32,
        Handler.validate gateCommand modeArgument .u32 modeValidator,
        .bind (.bind false flagsArgument.ident) none (Expr.send "c" flagsArgument.ident []),
        .run (Handler.call gateCommand), .result Handler.succeed] := rfl
  rw [hbody]
  rintro stmt hstmt ⟨report, rfl⟩
  simp [Handler.viewCommand, Handler.decode, Handler.validate, Expr.send, Argument.ident,
    Argument.name, flagsArgument, modeArgument] at hstmt

end CommandBuffer
