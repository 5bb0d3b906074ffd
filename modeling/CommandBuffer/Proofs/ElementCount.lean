import CommandBuffer.Proofs.CountAgreement
import CommandBuffer.Proofs.NegativeCounts
import CommandBuffer.Proofs.Validation

/-! # The number of data elements

Sized data is counted several times between client and service. Here is where each
number is used and what it is read from, and the agreement of all of them for every
command of a protocol.
-/

namespace CommandBuffer

open Code

variable {command : Command} {index : Nat} {argument : Argument} {size : DataSize}

namespace Code.Expr

/-- The constant of data units that the expression names, and where it is looked up. -/
def unitName? : Expr → Option (Name × Name)
  | path false [owner, name] =>
    if name = .verbatim "DATA_UNITS" ∨ name = .verbatim "MAX_DATA_UNITS" then some (owner, name)
    else none
  | _ => none

/-- The field of the command that the expression reads. -/
def commandField? : Expr → Option Name
  | field (path false [owner]) name => if owner = .verbatim "c" then some name else none
  | _ => none

end Code.Expr

namespace Command

/-- The expressions that the size of the data is computed from. -/
def sizeParts (command : Command) : List Expr :=
  (CommandFormat.sizeFunctions command).flatMap fun function =>
    if function.signature.name = Name.verbatim "compute_data_size" then
      function.body.flatMap Stmt.parts
    else []

/-- The expressions from which the service knows the number of elements, and those that the size of
the data is computed from. -/
def countParts (command : Command) (size : DataSize) : List Expr :=
  (Handler.countCheck command size).flatMap Stmt.parts ++ (Handler.elementCount command size).parts
    ++ command.sizeParts

/-- The struct declares whatever its numbers of elements are read from. -/
structure CountsDeclared (command : Command) (size : DataSize) : Prop where
  constants : ∀ named ∈ (command.countParts size).filterMap Expr.unitName?,
    (named.1 = .verbatim "Self" ∨ named.1 = command.structName) ∧
      ∃ constant, .constant constant ∈ CommandFormat.members command ∧ constant.name = named.2
  fields : ∀ name ∈ (command.countParts size).filterMap Expr.commandField?,
    ∃ field ∈ (CommandFormat.declaration command).fields, field.name.spelling = name.spelling

/-- Where client and service use the number of elements. -/
structure CountsUsed (command : Command) (argument : Argument) (size : DataSize) : Prop where
  /-- The writer reserves space, and `init` sets the header, for the count of the parameters. -/
  reserved : command.immediate? = some (argument, size) →
    (∃ rest, command.writerBody = command.countBindings
      ++ .bind (.bind false "size") none
        (.apply [command.structName, "compute_data_size"] command.paramCount?.toList) :: rest) ∧
    ∃ rest, (CommandFormat.init command).body
      = .run (.send "self" "set_header" command.paramCount?.toList) :: rest
  /-- The handler reads its counter, validates it at most, checks it, and reads as much data. -/
  fetched : ∀ validators, ∃ before checks reading after,
    (Handler.function validators command).body = before ++ Handler.readCounter command size
      ++ checks ++ Handler.countCheck command size ++ reading ++ after ∧
    (∀ stmt ∈ checks, ∃ (validator : Validator) (counter : Argument),
      validator.IsCheck counter stmt) ∧
    ∃ stmt ∈ reading, Handler.elementCount command size ∈ stmt.parts

/-! ## Uses -/

/-- Sized data is fetched behind its check, in the number of elements. -/
theorem exists_reading (hsize : argument.layout.dataSize? = some size) (hsized : size ≠ .unsized)
    (validators : ValidatorSet) : ∃ reading, Handler.prepare validators command argument
        = Handler.countCheck command size ++ reading ∧
      ∃ stmt ∈ reading, Handler.elementCount command size ∈ stmt.parts := by
  have hself := (Handler.elementCount command size).mem_parts
  unfold Handler.prepare
  cases hlayout : argument.layout <;> rw [hlayout] at hsize <;> cases hsize
  all_goals
    rw [Handler.fetch, hlayout]
    cases size with
    | unsized => exact absurd rfl hsized
    | fixed | atMost | counted =>
      refine ⟨_, rfl, ?_⟩
      simp [Handler.bindAttempt, Stmt.parts, Stmt.listParts, Expr.parts, Expr.listParts, Expr.send,
        hself]

/-- The counter is read right before the data, and only validated in between. -/
theorem IsSized.exists_readCounter (hsized : command.IsSized index size)
    (validators : ValidatorSet) : ∃ before checks,
      (command.arguments.take index).flatMap (Handler.prepare validators command)
        = before ++ Handler.readCounter command size ++ checks ∧
      ∀ stmt ∈ checks, ∃ (validator : Validator) (counter : Argument),
        validator.IsCheck counter stmt := by
  cases hsized with
  | fixed | atMost =>
    refine ⟨(command.arguments.take index).flatMap (Handler.prepare validators command), [], ?_,
      fun _ hstmt => absurd hstmt List.not_mem_nil⟩
    rw [Handler.readCounter, List.append_nil, List.append_nil]
  | @counted counter units field counting hindex hcounting hbase hword hfits =>
    refine ⟨(command.arguments.take counter).flatMap (Handler.prepare validators command),
      ((validators.forType? counting.param.type).map
        (Handler.validate command counting .i32)).toList, ?_, ?_⟩
    · rw [hindex, List.take_add_one, hcounting, Option.toList_some, List.flatMap_append,
        List.flatMap_singleton, Handler.prepare_of_word hword, Handler.readCounter, hcounting,
        List.append_assoc]
      rfl
    · intro stmt hstmt
      obtain ⟨validator, -, rfl⟩ := Option.map_eq_some_iff.mp (Option.mem_toList.mp hstmt)
      exact ⟨validator, counting, Handler.isCheck_validate⟩

theorem IsSized.countsUsed (hsized : command.IsSized index size)
    (hargument : command.arguments[index]? = some argument)
    (hsize : argument.layout.dataSize? = some size) (hknown : size ≠ .unsized) :
    command.CountsUsed argument size := by
  constructor
  · intro himmediate
    refine ⟨?_, _, rfl⟩
    rw [writerBody, countBindings, himmediate]
    exact ⟨_, rfl⟩
  · intro validators
    obtain ⟨reading, hprepare, hreads⟩ := exists_reading hsize hknown validators
    obtain ⟨before, checks, hearlier, hchecks⟩ := hsized.exists_readCounter validators
    refine ⟨Handler.gate command ++ Handler.viewCommand command :: before, checks, reading,
      (command.arguments.drop (index + 1)).flatMap (Handler.prepare validators command)
        ++ Handler.dispatch command, ?_, hchecks, hreads⟩
    simp only [Handler.function]
    rw [flatMap_at hargument, hprepare, hearlier]
    simp only [List.append_assoc, List.cons_append]

/-! ## Declarations -/

theorem mem_members {constant : Constant}
    (h : CommandFormat.unitConstant? command = some constant) :
    .constant constant ∈ CommandFormat.members command := by
  refine List.mem_append_left _ (List.mem_map.mpr ⟨constant, ?_, rfl⟩)
  rw [h]
  exact List.mem_cons_self

theorem IsLaidOut.exists_countField (hlaid : command.IsLaidOut) {field : Nat}
    (hcount : command.count = some field) :
    ∃ field ∈ (CommandFormat.declaration command).fields, field.name.spelling = "count" :=
  ⟨⟨.escaped "count", "u32"⟩, List.mem_cons_of_mem _ (List.mem_map.mpr
    ⟨⟨"count", .u32⟩, List.mem_of_getElem? (hlaid.field_of_count hcount), rfl⟩), rfl⟩

/-- The size of the data is computed from a constant only if that is final. -/
theorem unitNames_sizeParts (himmediate : command.immediate? = some (argument, size) ∨
      command.immediate? = none) :
    (∀ named ∈ command.sizeParts.filterMap Expr.unitName?,
      (∃ count, size = .fixed count) ∧ named = (.verbatim "Self", .verbatim "DATA_UNITS")) ∧
    command.sizeParts.filterMap Expr.commandField? = [] := by
  rw [sizeParts, CommandFormat.sizeFunctions]
  rcases himmediate with himmediate | himmediate <;> rw [himmediate]
  · cases size with
    | fixed count =>
      refine ⟨fun named hnamed => ⟨⟨count, rfl⟩, ?_⟩, rfl⟩
      exact List.mem_singleton.mp hnamed
    | atMost | counted | unsized => exact ⟨fun _ hnamed => absurd hnamed List.not_mem_nil, rfl⟩
  · exact ⟨fun _ hnamed => absurd hnamed List.not_mem_nil, rfl⟩

/-- The constants from which a service knows the number of elements. -/
def servedUnits (command : Command) : DataSize → List (Name × Name)
  | .fixed _ => [(command.structName, .verbatim "DATA_UNITS")]
  | .atMost _ => [(command.structName, .verbatim "MAX_DATA_UNITS")]
  | .counted _ _ | .unsized => []

/-- The fields of a command from which a service knows the number of elements. -/
def servedFields : DataSize → List Name
  | .atMost _ => [.verbatim "count", .verbatim "count"]
  | .unsized => [.verbatim "count"]
  | .fixed _ | .counted _ _ => []

theorem names_elementCount (command : Command) (size : DataSize) :
    ((Handler.countCheck command size).flatMap Stmt.parts
        ++ (Handler.elementCount command size).parts).filterMap Expr.unitName?
      = command.servedUnits size ∧
    ((Handler.countCheck command size).flatMap Stmt.parts
        ++ (Handler.elementCount command size).parts).filterMap Expr.commandField?
      = servedFields size := by
  cases size with
  | fixed | atMost | unsized => exact ⟨rfl, rfl⟩
  | counted counter units =>
    by_cases hone : units = 1
    · rw [hone]
      exact ⟨rfl, rfl⟩
    · simp only [Handler.elementCount, if_neg hone]
      exact ⟨rfl, rfl⟩

theorem IsSized.countsDeclared (hsized : command.IsSized index size) (hlaid : command.IsLaidOut)
    (himmediate : command.immediate? = some (argument, size) ∨ command.immediate? = none) :
    command.CountsDeclared size := by
  obtain ⟨hunits, hfields⟩ := names_elementCount command size
  obtain ⟨hsizeUnits, hsizeFields⟩ := unitNames_sizeParts himmediate
  constructor
  · intro named hnamed
    rw [countParts, List.filterMap_append, hunits] at hnamed
    rcases List.mem_append.mp hnamed with hserved | hcomputed
    · cases hsized with
      | fixed hconstant hfits =>
        rw [List.mem_singleton.mp hserved]
        exact ⟨.inr rfl, _, mem_members hconstant, rfl⟩
      | atMost hconstant hcount hfits =>
        rw [List.mem_singleton.mp hserved]
        exact ⟨.inr rfl, _, mem_members hconstant, rfl⟩
      | counted hindex hcounting hbase hword hfits => cases hserved
    · obtain ⟨⟨count, rfl⟩, rfl⟩ := hsizeUnits named hcomputed
      cases hsized with
      | fixed hconstant hfits => exact ⟨.inl rfl, _, mem_members hconstant, rfl⟩
  · intro name hname
    rw [countParts, List.filterMap_append, hfields, hsizeFields, List.append_nil] at hname
    cases hsized with
    | atMost hconstant hcount hfits =>
      obtain rfl : name = .verbatim "count" := by simpa [servedFields] using hname
      exact hlaid.exists_countField hcount
    | fixed hconstant hfits => cases hname
    | counted hindex hcounting hbase hword hfits => cases hname

end Command

/-! ## Protocols -/

namespace Protocol

variable {protocol : Protocol} {records : List Record} {commands : List Command}

/-- The constants of every command are those that the directives ask for. -/
theorem lt_of_putSizing (hrecords : protocol.records = .ok records)
    (hcommands : protocol.commands records = .ok commands) (hfit : protocol.CountsFit)
    (hcommand : command ∈ commands) :
    ∀ sizing units, command.record.packing.putSizing = some sizing → sizing.count = some units →
      units < 2 ^ 32 := by
  intro sizing units hsizing hunits
  have hplanned := isPlanned_of_commands hcommands command hcommand
  obtain ⟨directives, hdirectives, hcount⟩ :=
    (isBuilt_of_records hrecords _ hplanned.mem).countRequested sizing units hsizing hunits
  exact hfit directives hdirectives units hcount

/-- Client and service agree on the number of elements of sized data, unless a run-time count is
missing from the writer; what they read it from is declared, and both refuse a negative count. -/
theorem element_counts_iff (hrecords : protocol.records = .ok records)
    (hcommands : protocol.commands records = .ok commands) (hfit : protocol.CountsFit)
    (hcommand : command ∈ commands) (hargument : command.arguments[index]? = some argument)
    (hsize : argument.layout.dataSize? = some size) (hknown : size ≠ .unsized) :
    (command.CountsAgree argument size ↔
      ∀ max, size = .atMost max → command.transfer = .immediate) ∧
    command.CountsUsed argument size ∧ command.CountsDeclared size ∧
    ∀ counter units, size = .counted counter units →
      (∀ implementation record, RefusesNegative (command.argumentIdent counter)
        (Marshaling.function implementation record command).body) ∧
      ∀ validators, RefusesNegative (command.argumentIdent counter)
        (Handler.function validators command).body := by
  have hplanned := isPlanned_of_commands hcommands command hcommand
  have hbuilt := isBuilt_of_records hrecords _ hplanned.mem
  have hlaid := isLaidOut_of_commands hcommands command hcommand
  have hnamed := isNamed_of_commands hrecords hcommands command hcommand
  have hsized := hlaid.isSized (lt_of_putSizing hrecords hcommands hfit hcommand) hargument hsize
    hknown
  have himmediate := hlaid.immediate?_eq
    (fun htransfer => hbuilt.onePointer (htransfer ▸ hplanned.transfer)) hargument hsize
  have hpresence : command.immediate? = some (argument, size) ∨ command.immediate? = none := by
    rw [himmediate]
    split
    · exact .inl rfl
    · exact .inr rfl
  refine ⟨hsized.countsAgree_iff hlaid hnamed hsize himmediate,
    hsized.countsUsed hargument hsize hknown, hsized.countsDeclared hlaid hpresence, ?_⟩
  rintro counter units rfl
  exact hlaid.refusesNegative_of_counted hnamed hargument hsize

end Protocol

/-! ## A counted and a run-time size -/

def dataOverrides : List Override := [
  { name := "SetUniforms", strategy := some .putN, count := some 4 },
  { name := "SetMailbox", transfers := some [.shm], count := some 16, hasRuntimeCount := true }]

def dataProtocol : Protocol where
  name := "Data"
  filePrefix := "data"
  description := "Data of a counted and of a run-time size"
  commandBase := 256
  supportPath := "crate::support"
  types := {}
  overrides := ⟨dataOverrides⟩
  functions := "void SetUniforms(GLsizei n, const GLfloat* values);
    void SetMailbox(GLuint texture, const GLbyte* mailbox);"

def uniformParams : List Param := [
  ⟨{ base := "GLsizei" }, "n"⟩,
  ⟨{ isConst := true, base := "GLfloat", pointerDepth := 1 }, "values"⟩]

def uniformRecord : Record :=
  .merge { name := "SetUniforms", returnType := .void, params := uniformParams, line := 1 }
    { name := "SetUniforms", count := some 4 } uniformParams .putN [.immediate]

def uniformArgument : Argument :=
  ⟨⟨{ isConst := true, base := "GLfloat", pointerDepth := 1 }, "values"⟩,
    .immediate (.counted 0 4)⟩

def uniformCommand : Command where
  record := uniformRecord
  transfer := .immediate
  name := "SetUniformsImmediate"
  id := 256
  fields := [⟨"n", .i32⟩]
  arguments := [⟨⟨{ base := "GLsizei" }, "n"⟩, .word 0 .i32⟩, uniformArgument]
  count := none
  result := none
  clientId := none

def mailboxParams : List Param := [
  ⟨{ base := "GLuint" }, "texture"⟩,
  ⟨{ isConst := true, base := "GLbyte", pointerDepth := 1 }, "mailbox"⟩]

def mailboxRecord : Record :=
  .merge { name := "SetMailbox", returnType := .void, params := mailboxParams, line := 2 }
    { name := "SetMailbox", count := some 16, hasRuntimeCount := true } mailboxParams .put [.shm]

def mailboxArgument : Argument :=
  ⟨⟨{ isConst := true, base := "GLbyte", pointerDepth := 1 }, "mailbox"⟩, .shm 1 2 (.atMost 16)⟩

def mailboxCommand : Command where
  record := mailboxRecord
  transfer := .shm
  name := "SetMailbox"
  id := 257
  fields := [⟨"texture", .u32⟩, ⟨"mailbox_shm_id", .u32⟩, ⟨"mailbox_shm_offset", .u32⟩,
    ⟨"count", .u32⟩]
  arguments := [⟨⟨{ base := "GLuint" }, "texture"⟩, .word 0 .u32⟩, mailboxArgument]
  count := some 3
  result := none
  clientId := none

theorem records_data : dataProtocol.records = .ok [uniformRecord, mailboxRecord] := by
  decide +kernel

theorem commands_data :
    dataProtocol.commands [uniformRecord, mailboxRecord] = .ok [uniformCommand, mailboxCommand] :=
  rfl

theorem countsFit_data : dataProtocol.CountsFit := by
  intro directives hdirectives count hcount
  simp only [dataProtocol, dataOverrides, List.mem_cons, List.not_mem_nil, or_false] at hdirectives
  rcases hdirectives with rfl | rfl <;> cases hcount <;> decide

/-- The uniforms follow their command, and every count of them is the same. -/
theorem counts_agree_uniforms :
    uniformCommand.CountsAgree uniformArgument (.counted 0 4) ∧
      uniformCommand.CountsUsed uniformArgument (.counted 0 4) :=
  have h := Protocol.element_counts_iff records_data commands_data countsFit_data
    List.mem_cons_self (rfl : uniformCommand.arguments[1]? = some uniformArgument) rfl (by simp)
  ⟨h.1.mpr (by simp), h.2.1⟩

/-- The writer of the mailbox passes `count` to `init`, but neither takes nor binds it. -/
theorem counts_disagree_mailbox :
    dataProtocol.records = .ok [uniformRecord, mailboxRecord] ∧
    dataProtocol.commands [uniformRecord, mailboxRecord] = .ok [uniformCommand, mailboxCommand] ∧
    mailboxCommand.arguments[1]? = some mailboxArgument ∧
    mailboxArgument.layout.dataSize? = some (.atMost 16) ∧
    mailboxCommand.initCall.reads
      = ["cmd", "texture", "mailbox_shm_id", "mailbox_shm_offset", "count"] ∧
    mailboxCommand.writerParams.map (·.name.spelling)
      = ["texture", "mailbox_shm_id", "mailbox_shm_offset"] ∧
    mailboxCommand.countBindings = [] ∧
    ¬ mailboxCommand.CountsAgree mailboxArgument (.atMost 16) :=
  ⟨records_data, commands_data, rfl, rfl, by decide, by decide, rfl, Command.not_countsAgree rfl⟩

end CommandBuffer
