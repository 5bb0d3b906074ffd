import CommandBuffer.Artifact.Blueprint
import CommandBuffer.Artifact.Init

/-! # Command handlers

The service dispatches a command id to a handler. A handler views the words as the
command struct, decodes every argument, checks named types with their validators,
fetches data from where it was moved, and calls the service function. What the
client could have got wrong is reported and the command is consumed; a malformed
command fails.
-/

namespace CommandBuffer
open Code

namespace Command

def handlerName (command : Command) : Name := .verbatim ("handle_" ++ command.snakeName)

/-- The name by which errors refer to the function. -/
def serviceName (command : Command) : String := "gl" ++ command.record.name

end Command

namespace Handler

/-- A field of the command struct. -/
def stored (name : Name) : Expr := .field "c" name

def succeed : Expr := .apply ["Ok"] [.tuple [] false]

/-- Fails with an error of the decoder. -/
def fail (error : Name) : Stmt :=
  .exit (some (.apply ["Err"] [.path false ["DecodeError", error]]))

/-- Consumes the command. -/
def consume : Stmt := .exit (some succeed)

def reportInvalidEnum (command : Command) (argument : Argument) : Stmt :=
  .run (.send "self" "set_invalid_enum"
    [.quoted command.serviceName, .quoted argument.name, stored argument.ident])

def reportInvalidValue (command : Command) (message : String) : Stmt :=
  .run (.send "self" "set_gl_error"
    ["GL_INVALID_VALUE", .quoted command.serviceName, .quoted message])

/-! ## Scalars -/

/-- An invalid value of the argument is an invalid enum, not just an invalid value. -/
def isEnumLike (argument : Argument) (kind : ScalarKind) : Bool :=
  argument.base == "GLenum" || kind == .enum

/-- Binds a scalar to its decoded value. -/
def decode (command : Command) (argument : Argument) (kind : ScalarKind) : Stmt :=
  match kind with
  | .enum =>
    .bindOr (.some (.bind false argument.ident))
      (.apply (valuePath argument.base ++ [Name.verbatim "from_wire"]) [stored argument.ident])
      [reportInvalidEnum command argument, consume]
  | .u32 | .i32 | .f32 | .bool | .u64 =>
    .bind (.bind false argument.ident) none (decodeWord (stored argument.ident) kind argument.base)

/-- Consumes the command unless the validator accepts the argument. -/
def validate (command : Command) (argument : Argument) (kind : ScalarKind)
    (validator : Validator) : Stmt :=
  let field : Expr := .field (.field "self" "validators") (.escaped validator.field)
  .when (.prefixed .complement (.send field "is_valid" [argument.ident]))
    [if isEnumLike argument kind then reportInvalidEnum command argument
      else reportInvalidValue command s!"{argument.name} is invalid",
      consume]

/-- Decodes a scalar and checks it against the validator of its type. -/
def scalar (validators : ValidatorSet) (command : Command) (argument : Argument)
    (kind : ScalarKind) : List Stmt :=
  decode command argument kind
    :: ((validators.forType? argument.param.type).map
      (validate command argument kind)).toList

/-! ## Data -/

/-- Rejects a negative count, and a run-time count above the most there may be. -/
def countCheck (command : Command) : DataSize → List Stmt
  | .counted counter _ =>
    [.when (.infixed .lt (command.argumentIdent counter) (.number 0))
      [reportInvalidValue command s!"{command.argumentName counter} < 0", consume]]
  | .atMost _ =>
    [.when (.infixed .gt (stored "count")
        (.cast (.path false [command.structName, "MAX_DATA_UNITS"]) "u32"))
      [fail "OutOfBounds"]]
  | .fixed _ | .unsized => []

/-- The number of elements that are read. -/
def elementCount (command : Command) : DataSize → Expr
  | .fixed _ => .path false [command.structName, "DATA_UNITS"]
  | .counted counter units =>
    let count := Expr.cast (command.argumentIdent counter) "usize"
    if units = 1 then count else .infixed .mul count (.number units)
  | .atMost _ | .unsized => .cast (stored "count") "usize"

/-- Binds the argument to a value that may fail. -/
def bindAttempt (argument : Argument) (value : Expr) : Stmt :=
  .bind (.bind false argument.ident) none (.attempt value)

/-- Fetches the data of an argument. -/
def fetch (command : Command) (argument : Argument) : List Stmt :=
  match argument.layout with
  | .immediate .unsized | .shm _ _ .unsized | .bucket _ .unsized => []
  | .immediate size =>
    countCheck command size
      ++ [bindAttempt argument
        (.call (.generic ["immediate_data"] [command.structName, argument.valueType])
          ["data", elementCount command size] false)]
  | .shm id offset size =>
    countCheck command size
      ++ [bindAttempt argument
        (.method "self" "read_shm" [argument.valueType]
          [stored (command.fieldIdent id), stored (command.fieldIdent offset),
            elementCount command size] false)]
  | .bucket id size =>
    countCheck command size
      ++ [bindAttempt argument
          (.method "self" "read_bucket" [argument.valueType] [stored (command.fieldIdent id)] false),
        .bindOr (.some (.bind false argument.ident))
          (Expr.send argument.ident "get" [.upTo (elementCount command size)])
          [fail "OutOfBounds"]]
  | .word .. | .split .. | .result .. => []

/-- The statements that make an argument ready for the call. -/
def prepare (validators : ValidatorSet) (command : Command) (argument : Argument) : List Stmt :=
  match argument.layout with
  | .word _ kind => scalar validators command argument kind
  | .split .. =>
    [.bind (.bind false argument.ident) none (Expr.send "c" argument.ident [])]
  | .immediate _ | .shm .. | .bucket .. | .result .. => fetch command argument

/-- What the service function gets for an argument. -/
def passed (command : Command) (argument : Argument) : List Expr :=
  match argument.layout with
  | .word .. | .split .. => [argument.ident]
  | .immediate .unsized =>
    [.attempt (.call (.generic ["immediate_words"] [command.structName]) ["data"] false)]
  | .immediate _ => [argument.ident]
  | .shm id offset .unsized =>
    [stored (command.fieldIdent id), stored (command.fieldIdent offset)]
  | .shm _ _ _ => [.prefixed .borrow argument.ident]
  | .bucket id .unsized => [stored (command.fieldIdent id)]
  | .bucket _ _ => [argument.ident]
  | .result .. => [.prefixed .borrowMutably argument.ident]

/-! ## The call -/

/-- The call of the service function. -/
def call (command : Command) : Expr :=
  .send "self" (.escaped command.record.decoderName)
    (command.arguments.flatMap (passed command)
      ++ (command.clientId.map fun _ => stored "client_id").toList)

/-- The argument that says how many values a getter returns: the first one-word argument. -/
def selector? (command : Command) : Option Name :=
  command.arguments.findSome? fun argument =>
    match argument.layout with
    | .word .. => some argument.ident
    | _ => none

/-- The argument that the result is written through: the last one of its layout. -/
def resultArgument? (command : Command) : Option Argument :=
  (command.arguments.filter fun argument =>
    match argument.layout with
    | .result .. => true
    | _ => false).getLast?

/-- The name and the element type of the result of a getter. -/
def resultVector (command : Command) : Name × List Name :=
  match resultArgument? command with
  | some argument => (argument.ident, valuePath argument.base)
  | none => (.escaped "params", ["u32"])

/-- The number of values that a getter returns. -/
def resultLength (command : Command) : Expr :=
  match selector? command with
  | some selector => .send "self" "num_values" [selector]
  | none => .number 1

/-- Writes a result to where the client expects it. -/
def writeResult (method : Name) (result : Expr) : Stmt :=
  .result (.send "self" method
    [stored "result_shm_id", stored "result_shm_offset", result])

/-- Calls the service function and answers the command. -/
def dispatch (command : Command) : List Stmt :=
  match command.record.strategy with
  | .custom => [.result (call command)]
  | .genN =>
    [.when (.prefixed .complement (call command)) [fail "InvalidArguments"], .result succeed]
  | .getN =>
    let (result, element) := resultVector command
    [.bind (.bind true result) none
        (.vector (.apply (element ++ [Name.verbatim "default"]) []) (resultLength command)),
      .run (call command),
      writeResult "write_sized_result" (.prefixed .borrow result)]
  | .is =>
    [.bind (.bind false "result") none (call command), writeResult "write_result" "result"]
  | .noCommand | .direct | .put | .putN | .delN | .create => [.run (call command), .result succeed]

/-! ## The handler -/

/-- Refuses the command while its feature is off. -/
def gate (command : Command) : List Stmt :=
  match command.record.featureFlag with
  | some flag =>
    [.when (.prefixed .complement (.field (Expr.send "self" "features" []) (.escaped flag)))
      [fail "UnknownCommand"]]
  | none => []

/-- Views the words as the command struct. -/
def viewCommand (command : Command) : Stmt :=
  .bind (.bind false "c") (some (.reference none false command.structName))
    (.attempt (.apply ["command_from_words"] ["data"]))

def words : Parameter := ⟨"data", .reference none false (.slice "u32")⟩

def outcomeType : Ty := .applied "Result" [.unit, "DecodeError"]

def function (validators : ValidatorSet) (command : Command) : Function where
  signature := {
    name := command.handlerName
    receiver := some .exclusive
    parameters := [words]
    result := some outcomeType }
  body :=
    gate command ++ viewCommand command
      :: command.arguments.flatMap (prepare validators command)
      ++ dispatch command

/-- Dispatch from the id to the handler. -/
def arm (command : Command) : Pattern × Expr :=
  (.path ["CommandId", command.structName], .send "self" command.handlerName ["data"])

def execute (commands : List Command) : Function where
  attributes := [.rawDoc " Decodes and runs one generated command."]
  visibility := .everywhere
  signature := {
    name := "execute_generated"
    receiver := some .exclusive
    parameters := [⟨"id", "CommandId"⟩, words]
    result := some outcomeType }
  body := [.select "id" (commands.map arm)]

end Handler

def Blueprint.handlers (blueprint : Blueprint) : Emission SourceFile :=
  let commands := blueprint.commands
  let gated := commands.filter (·.record.featureFlag.isSome)
  let functions := Handler.execute commands :: commands.map (Handler.function blueprint.validators)
  Emission.finish (commands.flatMap Command.argumentIdents)
    (blueprint.file "Service command dispatch"
      [s!"{commands.length} handlers", s!"{gated.length} gated on a feature flag"]
      [.implement none (blueprint.protocolType "Decoder") (functions.map .function)])

end CommandBuffer
