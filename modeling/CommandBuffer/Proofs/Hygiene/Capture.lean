import CommandBuffer.Proofs.Hygiene.FormatTests
import CommandBuffer.Proofs.Hygiene.HandlerTests
import CommandBuffer.Proofs.Hygiene.Handlers

/-! # Capture of arguments

The names of arguments stand between the names of the templates without a mark that keeps them
apart. For each function that is generated for a command, one condition on the names says exactly
when every use of an argument and of a local variable refers to its own binding.
-/

namespace CommandBuffer

open Code

variable {protocol : Protocol} {records : List Record} {commands : List Command}
  {command : Command}

namespace Protocol

/-- In the writer, in the handler and in the tests of a command, all names refer to their own
bindings exactly if no binding is shadowed while it is used. -/
theorem own_bindings_iff (hrecords : protocol.records = .ok records)
    (hcommands : protocol.commands records = .ok commands) (hcommand : command ∈ commands) :
    (command.WriterIsHygienic ↔ Binder.Unshadowed command.writerBinders) ∧
    (∀ validators, Handler.IsHygienic validators command ↔
      Binder.Unshadowed (Handler.binders command) ∧
        ∀ text ∈ ["c", "data"], Stmt.Undisturbed text (Handler.handling validators command)) ∧
    (∀ registry test, FormatTests.outcome registry command = .ok (.written [test]) →
      (FormatTests.IsHygienic command test ↔ Binder.Unshadowed (FormatTests.binders command))) ∧
    (∀ blueprint fixture record test,
      ClientTests.outcome blueprint fixture record command = .ok (.written [test]) →
      (ClientTests.IsHygienic record command test ↔
        Binder.Unshadowed (ClientTests.callBinders command) ∧
          Binder.Unshadowed (ClientTests.expectedBinders record command))) ∧
    (∀ blueprint fixture record tests,
      HandlerTests.outcome blueprint fixture record command = .ok (.written tests) →
      (HandlerTests.AreHygienic fixture record command tests ↔
        Binder.Unshadowed (HandlerTests.validBinders command))) := by
  have hlaid := isLaidOut_of_commands hcommands command hcommand
  have hnamed := isNamed_of_commands hrecords hcommands command hcommand
  exact ⟨command.writerIsHygienic_iff hlaid hnamed,
    fun validators => Handler.isHygienic_iff validators command,
    fun _ _ => FormatTests.isHygienic_iff hlaid hnamed,
    fun _ _ _ _ => ClientTests.isHygienic_iff,
    fun _ _ _ _ => HandlerTests.areHygienic_iff⟩

end Protocol

/-! ## Names that are kept apart and names that are captured -/

def queryProtocol : Protocol where
  name := "Query"
  filePrefix := "query"
  description := "Arguments called like variables of the templates"
  commandBase := 256
  supportPath := "crate::support"
  types := {}
  overrides := {}
  functions := "void ReleaseQueries(GLsizei n, const GLuint* ids);
    void UploadQueries(GLsizei n, const GLuint* data);
    void SetPair(GLuint c, GLuint d);"

def releaseParams : List Param := [
  ⟨{ base := "GLsizei" }, "n"⟩,
  ⟨{ isConst := true, base := "GLuint", pointerDepth := 1 }, "ids"⟩]

def releaseRecord : Record :=
  .merge { name := "ReleaseQueries", returnType := .void, params := releaseParams, line := 1 }
    { name := "ReleaseQueries" } releaseParams .delN [.immediate]

def releaseCommand : Command where
  record := releaseRecord
  transfer := .immediate
  name := "ReleaseQueriesImmediate"
  id := 256
  fields := [⟨"n", .i32⟩]
  arguments := List.zipWith Argument.mk releaseParams [.word 0 .i32, .immediate (.counted 0 1)]
  count := none
  result := none
  clientId := none

def queryParams : List Param := [
  ⟨{ base := "GLsizei" }, "n"⟩,
  ⟨{ isConst := true, base := "GLuint", pointerDepth := 1 }, "data"⟩]

def queryRecord : Record :=
  .merge { name := "UploadQueries", returnType := .void, params := queryParams, line := 2 }
    { name := "UploadQueries" } queryParams .delN [.immediate]

def queryCommand : Command where
  record := queryRecord
  transfer := .immediate
  name := "UploadQueriesImmediate"
  id := 257
  fields := [⟨"n", .i32⟩]
  arguments := List.zipWith Argument.mk queryParams [.word 0 .i32, .immediate (.counted 0 1)]
  count := none
  result := none
  clientId := none

def pairParams : List Param := [⟨{ base := "GLuint" }, "c"⟩, ⟨{ base := "GLuint" }, "d"⟩]

def pairRecord : Record :=
  .merge { name := "SetPair", returnType := .void, params := pairParams, line := 3 }
    { name := "SetPair" } pairParams .direct [.shm]

def pairCommand : Command where
  record := pairRecord
  transfer := .shm
  name := "SetPair"
  id := 258
  fields := [⟨"c", .u32⟩, ⟨"d", .u32⟩]
  arguments := List.zipWith Argument.mk pairParams [.word 0 .u32, .word 1 .u32]
  count := none
  result := none
  clientId := none

def queryBlueprint : Blueprint where
  protocol := queryProtocol
  records := [releaseRecord, queryRecord, pairRecord]
  validators := {}
  commands := [releaseCommand, queryCommand, pairCommand]
  support := { segments := [{ name := "crate" }, { name := "support" }] }

theorem records_query : queryProtocol.records = .ok queryBlueprint.records := by decide +kernel

theorem commands_query :
    queryProtocol.commands queryBlueprint.records = .ok queryBlueprint.commands := rfl

def releaseBindings : List Stmt :=
  [.bind (.bind false (.escaped "n")) (some (valueType "GLsizei"))
      (.cast (.number testCount) (valueType "GLsizei")),
    .bind (.bind false (.escaped "ids")) (some (.array (valueType "GLuint") testCount))
      (ClientTests.countingArray ⟨⟨{ base := "GLuint" }, "ids"⟩, .immediate (.counted 0 1)⟩)]

def releaseFormatTest : Function :=
  FormatTests.test releaseCommand [.cast (.number testCount) (valueType "GLsizei")]

def releaseClientTest : Function :=
  ClientTests.test (ClientTests.fixture queryBlueprint) releaseRecord releaseCommand
    { bindings := releaseBindings
      arguments := [Name.escaped "n", .prefixed .borrow (Name.escaped "ids")]
      data := some (.escaped "ids") }

def releaseHandlerTest : Function :=
  HandlerTests.validTest (HandlerTests.fixture queryBlueprint) releaseRecord releaseCommand
    { bindings := releaseBindings, data := some (.escaped "ids") }

theorem formatTest_release :
    FormatTests.outcome {} releaseCommand = .ok (.written [releaseFormatTest]) := by cbv

theorem clientTest_release :
    ClientTests.outcome queryBlueprint (ClientTests.fixture queryBlueprint) releaseRecord
      releaseCommand = .ok (.written [releaseClientTest]) := by cbv

theorem handlerTest_release :
    HandlerTests.outcome queryBlueprint (HandlerTests.fixture queryBlueprint) releaseRecord
      releaseCommand = .ok (.written [releaseHandlerTest]) := by cbv

/-- Nothing is captured in what is generated for the first function. -/
theorem own_bindings_release :
    releaseCommand.WriterIsHygienic ∧ Handler.IsHygienic {} releaseCommand ∧
      FormatTests.IsHygienic releaseCommand releaseFormatTest ∧
      ClientTests.IsHygienic releaseRecord releaseCommand releaseClientTest ∧
      HandlerTests.AreHygienic (HandlerTests.fixture queryBlueprint) releaseRecord releaseCommand
        [releaseHandlerTest] := by
  obtain ⟨hwriter, hhandler, hformat, hclient, htests⟩ :=
    Protocol.own_bindings_iff records_query commands_query List.mem_cons_self
  refine ⟨hwriter.mpr (by decide), (hhandler {}).mpr ⟨by decide, by decide⟩,
    (hformat _ _ formatTest_release).mpr (by decide),
    (hclient _ _ _ _ clientTest_release).mpr ⟨by decide, by decide⟩,
    (htests _ _ _ _ handlerTest_release).mpr (by decide)⟩

/-- The writer of the second function copies the reserved space onto itself, and the handler of the
third one reads the second argument from the first. -/
theorem captured_query_pair :
    queryProtocol.records = .ok queryBlueprint.records ∧
    queryProtocol.commands queryBlueprint.records = .ok queryBlueprint.commands ∧
    (∃ site ∈ queryCommand.writer.sites,
      site.2 = .apply ["copy_immediate_data"] ["data", Name.escaped "data"] ∧
        ∃ outer, (Name.escaped "data").bound site.1 = .verbatim "data" :: outer) ∧
    ¬ queryCommand.WriterIsHygienic ∧
    (∃ site ∈ (Handler.function {} pairCommand).sites,
      site.2 = .cast (.field "c" (.escaped "d")) (valueType "GLuint") ∧
        ∃ outer, (Name.verbatim "c").bound site.1 = .escaped "c" :: outer) ∧
    ¬ Handler.IsHygienic {} pairCommand := by
  have hcommand : queryCommand ∈ queryBlueprint.commands := by decide
  have hlaid := Protocol.isLaidOut_of_commands commands_query queryCommand hcommand
  have hnamed := Protocol.isNamed_of_commands records_query commands_query queryCommand hcommand
  refine ⟨records_query, commands_query, ⟨(Binder.scope queryCommand.writerBinders [], _), ?_, rfl,
    _, rfl⟩, ?_, ⟨([.escaped "c", .verbatim "c", .verbatim "data"], _), ?_, rfl, _, rfl⟩, ?_⟩
  · exact .tail _ (.tail _ (.tail _ (.head _)))
  · rw [queryCommand.writerIsHygienic_iff hlaid hnamed]
    decide
  · exact .tail _ (.tail _ (.head _))
  · rw [Handler.isHygienic_iff]
    decide

end CommandBuffer
