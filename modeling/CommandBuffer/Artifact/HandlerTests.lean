import CommandBuffer.Artifact.ClientTests

/-! # Tests of the handlers

A test with valid arguments for each record that asks for tests, and one test for
each illegal value of each validated argument. The command is built with `init` and
run by the service; an illegal value shadows the valid one of the same name. Data in
a bucket, and data of unknown size behind a command, cannot be staged.
-/

namespace CommandBuffer
open Code

namespace HandlerTests

/-- The client id that creations are tested with. -/
def clientId : Nat := 101

/-- The bindings of a test, and the data that follows the command. -/
structure Setup where
  bindings : List Stmt := []
  data : Option Name := none
  deriving Repr

/-- Adds the argument at a position to the setup, if it can be staged. -/
def stage (registry : Registry) (command : Command) (index : Nat) (argument : Argument)
    (setup : Setup) : Emission (Option Setup) := do
  Emission.requireNames [argument.ident]
  Emission.requireWritable argument.valueType.demands
  match argument.layout with
  | .word .. | .split .. => do
    match ← Emission.rejecting (command.testValue? registry index argument) with
    | none => return none
    | some value => return some { setup with
        bindings := setup.bindings
          ++ [.bind (.bind false argument.ident) (some argument.valueType) value] }
  | .immediate .unsized | .bucket .. => return none
  | .immediate size =>
    return some {
      bindings := setup.bindings ++ [ClientTests.bindData argument size.testLength]
      data := some argument.ident }
  | .shm .. | .result .. => return some setup

/-- Adds arguments, counted from a position, up to the first that cannot be staged. -/
def stageAll (registry : Registry) (command : Command) (index : Nat) :
    List Argument → Setup → Emission (Option Setup)
  | [], setup => return some setup
  | argument :: rest, setup => do
    match ← stage registry command index argument setup with
    | none => return none
    | some setup => stageAll registry command (index + 1) rest setup

/-- The value that `init` gets for a parameter. -/
def initArgument (param : InitParam) : Expr :=
  match param.source with
  | .shmId _ | .resultId => Expr.send "t" "shared_memory_id" []
  | .shmOffset _ | .resultOffset => Expr.send "t" "shared_memory_offset" []
  | .count => .number testCount
  | .clientId => .number clientId
  | .argument _ | .bucketId _ => param.name

/-- The fixture, with the feature of the record switched on. -/
def fixtureFor (fixture : Name) (record : Record) : Expr :=
  match record.featureFlag with
  | some flag => .apply [fixture, "with_features"] [.prefixed .borrow (.array [.quoted flag] false)]
  | none => .apply [fixture, "new"] []

/-- The run of the command under test. -/
def execute (setup : Setup) : Expr :=
  match setup.data with
  | some data => Expr.send "t" "execute_immediate_cmd"
      [.prefixed .borrow "cmd", .prefixed .borrow data]
  | none => Expr.send "t" "execute_cmd" [.prefixed .borrow "cmd"]

/-- Builds the command, runs it, and compares the reported error. -/
def runCommand (command : Command) (setup : Setup) (error : Name) : List Stmt := [
  .bind (.bind true "cmd") none (.apply [command.structName, "default"] []),
  .run (Expr.send "cmd" "init" (command.initParams.map initArgument)),
  .run (.expand ["assert_eq"] [execute setup, .apply ["Ok"] [.tuple [] false]]),
  .run (.expand ["assert_eq"] [Expr.send "t" "gl_error" [], error])]

/-- The call that a test with valid arguments waits for. -/
def expectation (record : Record) : List Stmt :=
  if record.expectsCall then
    [.run (Expr.send "t" "expect_call"
      [.quoted (record.expectedCall.getD record.decoderName)])]
  else []

def bindFixture (fixture : Name) (record : Record) : Stmt :=
  .bind (.bind true "t") none (fixtureFor fixture record)

def validTest (fixture : Name) (record : Record) (command : Command) (setup : Setup) :
    Function where
  attributes := [.test]
  signature := { name := .verbatim (record.methodName ++ "_valid_args") }
  body :=
    bindFixture fixture record :: expectation record ++ setup.bindings
      ++ runCommand command setup "GL_NO_ERROR"

/-- An illegal value of a validated argument. -/
structure IllegalValue where
  argument : Argument
  kind : ScalarKind
  value : String
  /-- What sets the test apart: the positions of the argument and of the value. -/
  suffix : String
  deriving DecidableEq, Repr

/-- The illegal values of the argument at a position. -/
def illegalValues (validators : ValidatorSet) (argument : Argument) (index : Nat) :
    List IllegalValue :=
  match argument.layout, validators.forType? argument.param.type with
  | .word _ kind, some validator =>
    validator.illegal.zipIdx.map fun (value, position) =>
      { argument, kind, value, suffix := s!"{index}_{position}" }
  | _, _ => []

/-- The error that the service reports for an illegal value. -/
def reportedError (argument : Argument) (kind : ScalarKind) : Name :=
  if argument.base = "GLenum" ∨ kind = .enum then "GL_INVALID_ENUM" else "GL_INVALID_VALUE"

def invalidTest (fixture : Name) (record : Record) (command : Command) (setup : Setup)
    (illegal : IllegalValue) : Emission Function := do
  let argument := illegal.argument
  let value ← Emission.rejecting
    (typedLiteral record.name illegal.value illegal.kind argument.base)
  return {
    attributes := [.test]
    signature := { name := .verbatim s!"{record.methodName}_invalid_args_{illegal.suffix}" }
    body :=
      bindFixture fixture record :: setup.bindings
        ++ .bind (.bind false argument.ident) (some argument.valueType) value
          :: runCommand command setup (reportedError argument illegal.kind) }

def invalidTests (blueprint : Blueprint) (fixture : Name) (record : Record) (command : Command)
    (setup : Setup) : Emission (List Function) :=
  if record.hasInvalidTest then
    (command.arguments.zipIdx.flatMap fun (argument, index) =>
      illegalValues blueprint.validators argument index).mapM
        (invalidTest fixture record command setup)
  else return []

/-- The tests of a record on its preferred command, or the reason why there is none. -/
def outcome (blueprint : Blueprint) (fixture : Name) (record : Record) (command : Command) :
    Emission TestOutcome := do
  match ← stageAll blueprint.protocol.types command 0 command.arguments {} with
  | none => return .omitted [.handlerTests record.name]
  | some setup =>
    Emission.requireNames (command.initParams.map InitParam.name)
    let valid := validTest fixture record command setup
    Emission.requireWritable valid.demands
    return .written (valid :: (← invalidTests blueprint fixture record command setup))

/-- The records that ask for tests, with their preferred commands. -/
def entries (blueprint : Blueprint) : List (Record × Command) :=
  (blueprint.records.filter fun record => record.hasCommands && record.hasUnitTest).filterMap
    fun record => (blueprint.preferredCommand? record).map (record, ·)

def fixture (blueprint : Blueprint) : Name := blueprint.protocolType "DecoderTest"

end HandlerTests

/-- What becomes of each record in the tests of the handlers. -/
def Blueprint.handlerTestOutcomes (blueprint : Blueprint) : List (Emission TestOutcome) :=
  (HandlerTests.entries blueprint).map fun (record, command) =>
    HandlerTests.outcome blueprint (HandlerTests.fixture blueprint) record command

def Blueprint.handlerTests (blueprint : Blueprint) : Emission SourceFile := do
  Emission.requireNames [HandlerTests.fixture blueprint]
  let tests ← TestOutcome.functions blueprint.handlerTestOutcomes
  Emission.finish [] (blueprint.file "Service decoder tests" [s!"{tests.length} tests"]
    (tests.map .function))

end CommandBuffer
