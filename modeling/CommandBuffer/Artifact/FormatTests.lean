import CommandBuffer.Artifact.Blueprint
import CommandBuffer.Artifact.TestOutcome

/-! # Tests of the command structs

One test for each command: the struct is built with `init`, then its id, the size in
its header and every field are compared with what was passed. A command with an
argument that has no test value is left out.
-/

namespace CommandBuffer
open Code

namespace FormatTests

/-- The first location that tests pass where an id or an offset is needed. -/
def firstLocation : Nat := 101

/-- A test value for each parameter of `init`, or nothing if one has none. Locations are
numbered in the order of the parameters. -/
def values? (command : Command) (registry : Registry) (location : Nat) :
    List InitParam → Except EmitError (Option (List Expr))
  | [] => .ok (some [])
  | param :: rest =>
    match param.source with
    | .argument index =>
      match command.arguments[index]? with
      | none => .ok none
      | some argument => do
        match ← command.testValue? registry index argument with
        | none => return none
        | some value => return (← values? command registry location rest).map (value :: ·)
    | .count => do
      return (← values? command registry location rest).map (.number testCount :: ·)
    | .shmId _ | .shmOffset _ | .bucketId _ | .resultId | .resultOffset | .clientId => do
      return (← values? command registry (location + 1) rest).map (.number location :: ·)

def assertEqual (left right : Expr) : Stmt := .run (.expand ["assert_eq"] [left, right])

/-- A field of the command under test. -/
def builtField (name : Name) : Expr := .field "cmd" name

/-- The field holds the value of the same name. -/
def kept (name : Name) : Stmt := assertEqual (builtField name) name

def header (name : Name) : Expr := .field (builtField "header") name

/-- The size in the header, in words, is that of the struct with its data. -/
def sizeCheck (command : Command) : Stmt :=
  if command.isImmediate then
    let size := Expr.apply [command.structName, "compute_size"] command.paramCount?.toList
    assertEqual (header "size") (size.send "div_ceil" [.number 4])
  else
    assertEqual (.infixed .mul (.cast (header "size") "usize") (.number 4))
      (CommandFormat.sizeOf command.structName)

/-- The fields of an argument hold its value. -/
def argumentChecks (command : Command) (argument : Argument) : List Stmt :=
  let value : Expr := argument.ident
  match argument.layout with
  | .word field kind =>
    [assertEqual (builtField (command.fieldIdent field))
      (encodeWord value kind (command.fieldType field))]
  | .split _ _ => [assertEqual (Expr.send "cmd" argument.ident []) value]
  | .shm id offset _ | .result id offset =>
    [kept (command.fieldIdent id), kept (command.fieldIdent offset)]
  | .bucket id _ => [kept (command.fieldIdent id)]
  | .immediate _ => []

def fieldChecks (command : Command) : List Stmt :=
  command.arguments.flatMap (argumentChecks command)
    ++ command.trailingFields.map fun field => kept (.verbatim (command.fieldName field))

def bindParam (param : InitParam) (value : Expr) : Stmt :=
  .bind (.bind false param.name) (some param.type) value

/-- The test of a command, with the values of its parameters. -/
def test (command : Command) (values : List Expr) : Function where
  attributes := [.test]
  signature := { name := .escaped command.snakeName }
  body :=
    List.zipWith bindParam command.initParams values
      ++ [.bind (.bind true "cmd") none (.apply [command.structName, "default"] []),
        .run (Expr.send "cmd" "init" (command.initParams.map fun param => (param.name : Expr))),
        assertEqual (header "command")
          (.cast (.path false [command.structName, "ID"]) "u32"),
        sizeCheck command]
      ++ fieldChecks command

/-- What every test of the command needs, whether or not it is written. -/
def demands (command : Command) : List Demand :=
  Demand.names .plain [command.structName, .escaped command.snakeName]
    ++ command.initParams.flatMap (·.parameter.demands)

/-- The test of a command, or the reason why there is none. -/
def outcome (registry : Registry) (command : Command) : Emission TestOutcome := do
  Emission.requireWritable (demands command)
  match ← Emission.rejecting (values? command registry firstLocation command.initParams) with
  | none => return .omitted [.formatTest command.name]
  | some values =>
    Emission.requireNames command.argumentIdents
    return .written [test command values]

end FormatTests

/-- What becomes of each command in the tests of the command structs. -/
def Blueprint.formatTestOutcomes (blueprint : Blueprint) : List (Emission TestOutcome) :=
  blueprint.commands.map (FormatTests.outcome blueprint.protocol.types)

def Blueprint.formatTests (blueprint : Blueprint) : Emission SourceFile := do
  let tests ← TestOutcome.functions blueprint.formatTestOutcomes
  Emission.finish [] (blueprint.file "Wire-format tests" [s!"{tests.length} tests"]
    (tests.map .function))

end CommandBuffer
