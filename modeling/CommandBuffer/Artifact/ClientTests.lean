import CommandBuffer.Artifact.Interface
import CommandBuffer.Artifact.TestOutcome

/-! # Tests of the marshaling functions

One test for each marshaled record that asks for it: the client function is called,
and the words in the command buffer are compared with those of a command built with
`init`. Data in shared memory or in a bucket is not covered.
-/

namespace CommandBuffer
open Code

namespace ClientTests

/-- The call of a client function as far as it is known. -/
structure Setup where
  bindings : List Stmt := []
  arguments : List Expr := []
  /-- The data that follows the command. -/
  data : Option Name := none
  deriving Repr

/-- Either the setup, or the reasons why there is none. -/
abbrev Staged := Except (List Omission) Setup

/-- A fixed-size array of elements. -/
def arrayType (argument : Argument) (length : Nat) : Ty := .array argument.valueType length

/-- The numbers from one as elements of the data. -/
def countingArray (argument : Argument) : Expr :=
  .apply ["std", "array", "from_fn"]
    [.closure "i" (.cast (.paren (.infixed .add "i" (.number 1))) argument.valueType)]

/-- Data for a constant pointer. -/
def bindData (argument : Argument) (length : Nat) : Stmt :=
  .bind (.bind false argument.ident) (some (arrayType argument length)) (countingArray argument)

/-- Room for what the function writes. -/
def bindRoom (argument : Argument) (length : Nat) : Stmt :=
  .bind (.bind true argument.ident) (some (arrayType argument length))
    (.repeated (.number 0) (.number length))

/-- Adds the argument at a position to the setup. -/
def stage (blueprint : Blueprint) (record : Record) (command : Command) (index : Nat)
    (argument : Argument) (setup : Setup) : Emission Staged := do
  Emission.requireNames [argument.ident]
  Emission.requireWritable argument.valueType.demands
  match argument.layout with
  | .word .. | .split .. => do
    match ← Emission.rejecting (command.testValue? blueprint.protocol.types index argument) with
    | none => return .error [.clientTest record.name]
    | some value => return .ok { setup with
        bindings := setup.bindings
          ++ [.bind (.bind false argument.ident) (some argument.valueType) value]
        arguments := setup.arguments ++ [(argument.ident : Expr)] }
  | .immediate size =>
    let length := size.testLength
    if argument.param.type.isConst then
      return .ok {
        bindings := setup.bindings ++ [bindData argument length]
        arguments := setup.arguments ++ [.prefixed .borrow argument.ident]
        data := some argument.ident }
    else
      return .ok {
        bindings := setup.bindings ++ [bindRoom argument length]
        arguments := setup.arguments ++ [.prefixed .borrowMutably argument.ident]
        data := some argument.ident }
  | .result .. =>
    return .ok { setup with
      bindings := setup.bindings ++ [bindRoom argument 1]
      arguments := setup.arguments ++ [.prefixed .borrowMutably argument.ident] }
  | .shm .. | .bucket .. =>
    return .error [.uncoveredTransfer record.name command.transfer argument.name,
      .clientTest record.name]

/-- Adds arguments, counted from a position, up to the first that cannot be staged. -/
def stageAll (blueprint : Blueprint) (record : Record) (command : Command) (index : Nat) :
    List Argument → Setup → Emission Staged
  | [], setup => return .ok setup
  | argument :: rest, setup => do
    match ← stage blueprint record command index argument setup with
    | .error reasons => return .error reasons
    | .ok setup => stageAll blueprint record command (index + 1) rest setup

/-- The method that a test calls. -/
def calledMethod (record : Record) : Name :=
  if record.isPublic then record.method else record.marshalName

/-- The call under test; what it returns is bound if it is an id, and dropped otherwise. -/
def call (record : Record) (arguments : List Expr) : Stmt :=
  let value := Expr.send (Expr.send "t" "gl" []) (calledMethod record) arguments
  if record.strategy = .create then .bind (.bind false "client_id") none value
  else if record.returnType.isVoid then .run value
  else .bind .wildcard none value

/-- The value that the expected command gets for a parameter. -/
def expectedArgument (param : InitParam) : Expr :=
  match param.source with
  | .resultId => Expr.send "t" "result_shm_id" []
  | .resultOffset => Expr.send "t" "result_shm_offset" []
  | .count => .number testCount
  | .argument _ | .shmId _ | .shmOffset _ | .bucketId _ | .clientId => param.name

/-- The words of the expected command and of its data. -/
def expectedWords : Option Name → Expr
  | some data => .apply ["immediate_command_words"]
      [.prefixed .borrow "expected", .prefixed .borrow data]
  | none => .apply ["command_words"] [.prefixed .borrow "expected"]

def test (fixture : Name) (record : Record) (command : Command) (setup : Setup) : Function where
  attributes := [.test]
  signature := { name := record.method }
  body :=
    .bind (.bind true "t") none (.apply [fixture, "new"] []) :: setup.bindings
      ++ [call record setup.arguments,
        .bind (.bind true "expected") none (.apply [command.structName, "default"] []),
        .run (Expr.send "expected" "init" (command.initParams.map expectedArgument)),
        .run (.expand ["assert_eq"] [Expr.send "t" "take_commands" [], expectedWords setup.data])]

/-- The test of a record on its preferred command, or the reasons why there is none. -/
def outcome (blueprint : Blueprint) (fixture : Name) (record : Record) (command : Command) :
    Emission TestOutcome := do
  match ← stageAll blueprint record command 0 command.arguments {} with
  | .error reasons => return .omitted reasons
  | .ok setup =>
    Emission.requireNames (command.initParams.map InitParam.name)
    let function := test fixture record command setup
    Emission.requireWritable function.demands
    return .written [function]

/-- The records that ask for a test, with their preferred commands. -/
def entries (blueprint : Blueprint) : List (Record × Command) :=
  (blueprint.records.filter fun record => record.isMarshaled && record.hasClientTest).filterMap
    fun record => (blueprint.preferredCommand? record).map (record, ·)

def fixture (blueprint : Blueprint) : Name := blueprint.protocolType "ImplementationTest"

end ClientTests

/-- What becomes of each record in the tests of the marshaling functions. -/
def Blueprint.clientTestOutcomes (blueprint : Blueprint) : List (Emission TestOutcome) :=
  (ClientTests.entries blueprint).map fun (record, command) =>
    ClientTests.outcome blueprint (ClientTests.fixture blueprint) record command

def Blueprint.clientTests (blueprint : Blueprint) : Emission SourceFile := do
  Emission.requireNames [ClientTests.fixture blueprint]
  let tests ← TestOutcome.functions blueprint.clientTestOutcomes
  Emission.finish [] (blueprint.file "Client marshaling tests" [s!"{tests.length} tests"]
    (tests.map .function))

end CommandBuffer
