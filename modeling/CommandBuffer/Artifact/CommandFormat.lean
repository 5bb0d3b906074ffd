import CommandBuffer.Artifact.Blueprint
import CommandBuffer.Artifact.Init

/-! # The command structs

Each command is a struct with the header in front and one field of 32 bits for each
wire field. It knows its id and its size, it stores the arguments that `init` takes,
and size and offsets are pinned by assertions.
-/

namespace CommandBuffer
open Code

namespace CommandFormat

/-- A field of the value that a method is called on. -/
def ownField (name : Name) : Expr := .field "self" name

def dataSize : List Name := ["Self", "compute_data_size"]

/-- The size of a type in bytes. -/
def sizeOf (type : Ty) : Expr := .call (.generic ["size_of"] [type]) [] false

/-! ## Declaration -/

/-- The fields of the struct behind the header. -/
def fields (command : Command) : List Parameter :=
  command.fields.map fun field => ⟨.escaped field.name, field.type.type⟩

def declaration (command : Command) : Struct where
  attributes := [
    .doc s!" `{command.record.name}` via {command.transfer.text} transfer.",
    .repr "C",
    .derive ["Debug", "Clone", "Copy", "Default", "PartialEq"]]
  name := command.structName
  fields := ⟨"header", "CommandHeader"⟩ :: fields command

/-- What the command tells about itself. -/
def identity (command : Command) : List Member := [
  .constant ⟨[], .hidden, "ID", "CommandId", .path false ["CommandId", command.structName]⟩,
  .constant ⟨[], .hidden, "ARG_FLAGS", "ArgFlags",
    .path false ["ArgFlags", if command.isImmediate then "AtLeastN" else "Fixed"]⟩,
  .constant ⟨[], .hidden, "CMD_FLAGS", "u8",
    .apply ["cmd_flags"] [.number command.record.traceLevelOrDefault]⟩]

/-! ## Sizes -/

/-- The number of data units, or the most there may be. -/
def unitConstant? (command : Command) : Option Constant :=
  match command.record.packing.putSizing with
  | some ⟨some count, hasRuntimeCount⟩ =>
    some ⟨[], .everywhere, if hasRuntimeCount then "MAX_DATA_UNITS" else "DATA_UNITS", "usize",
      .number count⟩
  | _ => none

def sizeFunction (name : Name) (parameters : List Parameter) (value : Expr) : Function where
  visibility := .everywhere
  signature := { name, parameters, result := some "u32" }
  body := [.result value]

def headerFunction (parameters : List Parameter) (value : Expr) : Function where
  visibility := .everywhere
  signature := { name := "set_header", receiver := some .exclusive, parameters }
  body := [.run value]

/-- Size of the data, size with the data, and the header for it. -/
def dataFunctions (parameters : List Parameter) (arguments : List Expr) (bytes : Expr) :
    List Function :=
  let total := Expr.infixed .add (.cast (sizeOf "Self") "u32") (.apply dataSize arguments)
  [sizeFunction "compute_data_size" parameters bytes,
    sizeFunction "compute_size" parameters total,
    headerFunction parameters (.method (ownField "header") "set_cmd_by_total_size" ["Self"]
      [.apply ["Self", "compute_size"] arguments] false)]

/-- The functions that compute sizes and set the header. -/
def sizeFunctions (command : Command) : List Function :=
  match command.immediate? with
  | none => [headerFunction [] (.method (ownField "header") "set_cmd" ["Self"] [] false)]
  | some (argument, .fixed _) =>
    dataFunctions [] []
      (.cast (.paren (.infixed .mul (sizeOf argument.valueType) (.path false ["Self", "DATA_UNITS"])))
        "u32")
  | some (argument, .atMost _) | some (argument, .counted _ _) | some (argument, .unsized) =>
    dataFunctions [⟨"count", "u32"⟩] ["count"]
      (.infixed .mul (.cast (sizeOf argument.valueType) "u32") "count")

/-! ## Storing and reading the arguments -/

/-- Stores a value in a field of the same name. -/
def keep (command : Command) (field : Nat) : Stmt :=
  .assign (ownField (command.fieldIdent field)) (command.fieldIdent field)

/-- Stores an argument in the fields of its layout. -/
def store (command : Command) (argument : Argument) : List Stmt :=
  let value : Expr := argument.ident
  match argument.layout with
  | .word field kind =>
    [.assign (ownField (command.fieldIdent field)) (encodeWord value kind (command.fieldType field))]
  | .split low high =>
    [.assign (ownField (command.fieldIdent low)) (.cast (.cast value "u64") "u32"),
      .assign (ownField (command.fieldIdent high))
        (.cast (.paren (.infixed .shiftRight (.paren (.cast value "u64")) (.number 32))) "u32")]
  | .shm id offset _ | .result id offset => [keep command id, keep command offset]
  | .bucket id _ => [keep command id]
  | .immediate _ => []

/-- The statements of `init` behind the header. -/
def assignments (command : Command) : List Stmt :=
  command.arguments.flatMap (store command) ++ command.trailingFields.map (keep command)

def init (command : Command) : Function where
  attributes := [.allow ["clippy", "too_many_arguments"]]
  visibility := .everywhere
  signature := {
    name := "init"
    receiver := some .exclusive
    isOpen := true
    parameters := command.initParams.map InitParam.parameter }
  body := .run (.send "self" "set_header" command.paramCount?.toList) :: assignments command

/-- Reads a 64-bit argument from its two fields. -/
def accessor? (command : Command) (argument : Argument) : Option Function :=
  match argument.layout with
  | .split low high =>
    let high : Expr := .paren (.cast (ownField (command.fieldIdent high)) "u64")
    let low : Expr := .cast (ownField (command.fieldIdent low)) "u64"
    let joined : Expr := .infixed .bitOr (.paren (.infixed .shiftLeft high (.number 32))) low
    some {
      visibility := .everywhere
      signature := {
        name := argument.ident
        receiver := some .shared
        result := some argument.valueType }
      body := [.result (.cast (.paren joined) argument.valueType)] }
  | _ => none

def accessors (command : Command) : List Function :=
  command.arguments.filterMap (accessor? command)

/-! ## Assertions -/

/-- The field stands so many bytes behind the start of the struct. -/
def ensureOffset (command : Command) (field : Name) (offset : Nat) : Item :=
  .ensure (.infixed .eq (.expand ["std", "mem", "offset_of"] [command.structName, field])
    (.number offset))

def ensureSize (command : Command) : Item :=
  .ensure (.infixed .eq (sizeOf command.structName) (.number command.fixedSize))

/-- The assertions that pin the layout. -/
def assertions (command : Command) : List Item :=
  ensureSize command :: ensureOffset command "header" 0
    :: command.fields.zipIdx.map fun (field, index) =>
      ensureOffset command (.escaped field.name) (4 * (index + 1))

/-! ## The artifact -/

/-- The functions and constants of the struct. -/
def members (command : Command) : List Member :=
  (unitConstant? command).toList.map .constant
    ++ (sizeFunctions command ++ [init command] ++ accessors command).map .function

/-- All that is generated for one command. -/
def items (command : Command) : List Item :=
  [.struct (declaration command),
    .implement (some "Command") command.structName (identity command),
    .implement none command.structName (members command)]
    ++ assertions command

def file (blueprint : Blueprint) : SourceFile :=
  let immediate := blueprint.commands.filter Command.isImmediate
  blueprint.file "Wire-format command structs"
    [s!"{blueprint.commands.length} commands", s!"{immediate.length} with immediate data"]
    (blueprint.commands.flatMap items)

end CommandFormat

def Blueprint.commandFormat (blueprint : Blueprint) : Emission SourceFile :=
  Emission.finish (blueprint.commands.flatMap Command.argumentIdents)
    (CommandFormat.file blueprint)

end CommandBuffer
