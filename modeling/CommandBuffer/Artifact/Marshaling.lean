import CommandBuffer.Artifact.Interface
import CommandBuffer.Artifact.Writers

/-! # Marshaling functions

A marshaling function checks counts and lengths, keeps the books of the client ids,
moves data to where the preferred transfer method wants it, and writes the command.
A getter and a query then wait for the service and read the result back. Every
location is bound to a local named like the parameter of the writer, so the call of
the writer is a plain list of names.
-/

namespace CommandBuffer
open Code

namespace Marshaling

/-- Reports an error of the caller. -/
def report (code : Name) (function message : String) : Stmt :=
  .run (.send "self" "set_gl_error" [code, .quoted function, .quoted message])

/-- Leaves the function, with a default value if it returns one. -/
def bail (record : Record) : Stmt :=
  .exit (if record.returnType.isVoid then none else some (.apply ["Default", "default"] []))

/-- The name by which errors refer to the function. -/
def clientName (record : Record) : String := "gl" ++ record.name

/-- Reports an invalid value and leaves the function. -/
def refuse (record : Record) (message : String) : List Stmt :=
  [report "GL_INVALID_VALUE" (clientName record) message, bail record]

/-! ## Checks -/

/-- So many elements of the data, or an error if there are fewer. -/
def keepFirst (record : Record) (argument : Argument) (length : Expr) : Stmt :=
  let getter : Name := if argument.param.type.isConst then "get" else "get_mut"
  .bindOr (.some (.bind false argument.ident))
    (Expr.send argument.ident getter [.upTo length])
    (refuse record s!"{argument.name} is too short")

/-- The number of elements that a counting argument stands for. -/
def countedLength (counter : Name) (units : Nat) : Expr :=
  let count := Expr.cast counter "usize"
  if units = 1 then count else .infixed .mul count (.number units)

/-- The checks of one argument: a count is not negative and the data is long enough,
or data of a size known at run time is not too long. -/
def checks (record : Record) (command : Command) (argument : Argument) : List Stmt :=
  match argument.layout.dataSize? with
  | some (.counted counter units) =>
    [.when (.infixed .lt (command.argumentIdent counter) (.number 0))
        (refuse record s!"{command.argumentName counter} < 0"),
      keepFirst record argument (countedLength (command.argumentIdent counter) units)]
  | some (.fixed count) => [keepFirst record argument (.number count)]
  | some (.atMost max) =>
    [.when (.infixed .gt (Expr.send argument.ident "len" []) (.number max))
      (refuse record s!"{argument.name} is too long")]
  | some .unsized | none => []

/-! ## Client ids -/

/-- The namespace of the ids. -/
def namespacePath (resource : String) : Expr :=
  .path false ["IdNamespace", .verbatim resource]

/-- A call on the keeper of the ids: the allocator of this client, or the shared handler. -/
def keeper (record : Record) (resource : String) : Expr :=
  .send "self" (if record.packing.isUnshared then "id_allocator" else "id_handler")
    [namespacePath resource]

/-- The data of the first pointer argument. -/
def idArguments (command : Command) : List Expr :=
  ((command.arguments.find? (·.param.type.isPointer)).map fun a => (a.ident : Expr)).toList

/-- Allocates or frees the ids that the function is about. -/
def bookkeeping (record : Record) (command : Command) : List Stmt :=
  match record.resource, record.packing with
  | some resource, .genN true =>
    [.run (.send (keeper record resource) "allocate_ids" (idArguments command))]
  | some resource, .genN false =>
    [.run (.method (keeper record resource) "make_ids" []
      (.number 0 :: idArguments command) (idArguments command).isEmpty)]
  | some resource, .delN =>
    [.run (.send (keeper record resource) "free_ids" (idArguments command))]
  | some resource, .create true =>
    [.bind (.bind false "client_id") none (.send (keeper record resource) "allocate_id" [])]
  | some resource, .create false =>
    [.bind (.bind false "client_id") none (.send (keeper record resource) "make_id" [])]
  | _, _ => []

/-! ## Transfer -/

/-- Moves the data of an argument and binds its location. -/
def transfer (record : Record) (command : Command) (argument : Argument) : List Stmt :=
  match argument.layout with
  | .shm id offset _ =>
    [.bindOr (.some (.pair (.bind false (command.fieldIdent id))
        (.bind false (command.fieldIdent offset))))
      (.send "self" "alloc_transfer" [argument.ident])
      [report "GL_OUT_OF_MEMORY" (clientName record) "out of transfer memory", bail record]]
  | .bucket id _ =>
    [.bind (.bind false (command.fieldIdent id)) none
      (.send "self" "stage_bucket" [argument.ident])]
  | .word .. | .split .. | .immediate _ | .result .. => []

/-- Binds the location of the result. -/
def resultLocation : List Stmt :=
  ["result_shm_id", "result_shm_offset"].map fun (name : String) =>
    .bind (.bind false name) none (.send "self" name [])

/-- Writes the command. -/
def write (command : Command) : Stmt :=
  .run (.send (.send "self" "helper" []) command.writerName
    (command.writerParams.map fun parameter => (parameter.name : Expr)))

def wait : Stmt := .run (.send "self" "wait_for_cmd" [])

/-- Writes the command and gives back what the function returns. -/
def finish (record : Record) (command : Command) : List Stmt :=
  match record.strategy with
  | .getN =>
    let result := command.arguments.getLast?
    let element : Ty := (result.map Argument.valueType).getD "u32"
    [.run (.method "self" "reset_sized_result" [element] [] false)]
      ++ resultLocation
      ++ [write command, wait,
        .run (.send "self" "copy_sized_result"
          (result.map fun a => (a.ident : Expr)).toList)]
  | .is =>
    resultLocation
      ++ [write command, wait,
        .result (.method "self" "read_result" [valueType record.returnType.base] [] false)]
  | .create => [write command, .result "client_id"]
  | .noCommand | .direct | .custom | .put | .putN | .genN | .delN => [write command]

/-! ## The function -/

/-- Traces the call while the function runs. -/
def trace (implementation : Name) (record : Record) : Stmt :=
  .bind (.bind false "_trace") none
    (.apply ["TraceEvent", "new"] [.number record.traceLevelOrDefault,
      .quoted s!"{implementation.spelling}::{record.name}"])

def function (implementation : Name) (record : Record) (command : Command) : Function where
  attributes := [.allow ["clippy", "too_many_arguments"]]
  visibility := if record.isInternal then .withinCrate else .everywhere
  signature := record.clientSignature record.marshalName
  body :=
    trace implementation record :: command.arguments.flatMap (checks record command)
      ++ bookkeeping record command
      ++ command.arguments.flatMap (transfer record command)
      ++ finish record command

/-- The records with a marshaling function, and the commands that they write. -/
def entries (blueprint : Blueprint) : List (Record × Command) :=
  (blueprint.records.filter Record.isMarshaled).filterMap fun record =>
    (blueprint.preferredCommand? record).map (record, ·)

def functions (blueprint : Blueprint) : List Function :=
  (entries blueprint).map fun (record, command) =>
    function (blueprint.protocolType "Implementation") record command

/-- The id namespaces of the marshaled records, used or not. -/
def namespaces (blueprint : Blueprint) : List Name :=
  (entries blueprint).filterMap fun (record, _) => record.resource.map .verbatim

end Marshaling

def Blueprint.marshaling (blueprint : Blueprint) : Emission SourceFile :=
  let functions := Marshaling.functions blueprint
  Emission.finish (Marshaling.namespaces blueprint) (blueprint.file "Client marshaling"
    [s!"{functions.length} generated marshaling functions"]
    [.implement none (blueprint.protocolType "Implementation") (functions.map .function)])

end CommandBuffer
