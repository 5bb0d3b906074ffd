import CommandBuffer.Artifact.Blueprint
import CommandBuffer.Artifact.Init

/-! # Command writers

One function for each command: it reserves space in the command buffer, calls `init`
there, and copies the data that follows the command.
-/

namespace CommandBuffer
open Code

namespace Command

/-- The parameters of the writer: those of `init` without a count, and the data. -/
def writerParams (command : Command) : List Parameter :=
  (command.initParams.filter (·.source != .count)).map InitParam.parameter
    ++ (command.immediate?.map fun (argument, _) =>
      ⟨argument.ident, .reference none false (.slice argument.valueType)⟩).toList

/-- The name of the writer. -/
def writerName (command : Command) : Name := .escaped command.snakeName

/-- The call of `init` on the reserved space. -/
def initCall (command : Command) : Stmt :=
  .run (.send "cmd" "init" (command.initParams.map fun param => (param.name : Expr)))

/-- The writer counts the data itself. -/
def countBinding (argument : Argument) : DataSize → List Stmt
  | .atMost _ | .unsized =>
    [.bind (.bind false "count") none (.cast (Expr.send argument.ident "len" []) "u32")]
  | .fixed _ | .counted _ _ => []

def writerBody (command : Command) : List Stmt :=
  match command.immediate? with
  | none =>
    [.whenMatches (.some (.bind false "cmd"))
      (.method "self" "get_cmd_space" [command.structName] [] false) [command.initCall]]
  | some (argument, size) =>
    countBinding argument size
      ++ [.bind (.bind false "size") none
          (.apply [command.structName, "compute_data_size"] command.paramCount?.toList),
        .whenMatches (.some (.pair (.bind false "cmd") (.bind false "data")))
          (.method "self" "get_immediate_cmd_space" [command.structName] ["size"] false)
          [command.initCall, .run (.apply ["copy_immediate_data"] ["data", argument.ident])]]

def writer (command : Command) : Function where
  attributes := [.allow ["clippy", "too_many_arguments"]]
  visibility := .everywhere
  signature := {
    name := command.writerName
    receiver := some .exclusive
    isOpen := true
    parameters := command.writerParams }
  body := command.writerBody

end Command

def Blueprint.writers (blueprint : Blueprint) : Emission SourceFile :=
  Emission.finish [] (blueprint.file "Command buffer writers"
    [s!"{blueprint.commands.length} writers"]
    [.implement none (blueprint.protocolType "CmdHelper")
      (blueprint.commands.map fun command => .function command.writer)])

end CommandBuffer
