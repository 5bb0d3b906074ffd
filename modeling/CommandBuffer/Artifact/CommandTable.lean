import CommandBuffer.Artifact.Blueprint
import CommandBuffer.Artifact.Init

/-! # The command table

An enumeration with one variant for each command, whose values are the command ids,
and the functions that lead from an id to its variant and from a variant to its
name. Two commands may share neither an id nor a name.
-/

namespace CommandBuffer
open Code

namespace Command

/-- The first command that repeats the id or the name of an earlier one. -/
def collision? (earlier : List Command) : List Command → Option Collision
  | [] => none
  | command :: rest =>
    match earlier.find? (·.id == command.id) with
    | some first => some (.repeatedId command.id first.name command.name)
    | none =>
      if earlier.any (·.name == command.name) then some (.repeatedCommand command.name)
      else collision? (command :: earlier) rest

def variant (command : Command) : Variant := ⟨command.structName, command.id⟩

/-- The variant of the command inside the enumeration. -/
def ownVariant (command : Command) : List Name := ["Self", command.structName]

end Command

namespace CommandTable

def firstId (base : Nat) : Constant where
  attributes := [.rawDoc " Id of the first generated command."]
  visibility := .everywhere
  name := "FIRST_COMMAND_ID"
  type := "u32"
  value := .number base

def size (commands : List Command) : Constant where
  attributes := [.rawDoc " Number of generated commands."]
  visibility := .everywhere
  name := "NUM_COMMANDS"
  type := "usize"
  value := .number commands.length

/-- An enumeration without variants cannot have a representation. -/
def enumeration (commands : List Command) : Item :=
  .enumeration
    ([.rawDoc " Identifies a command in the command buffer.",
      .derive ["Debug", "Clone", "Copy", "PartialEq", "Eq", "Hash", "PartialOrd", "Ord"]]
      ++ if commands.isEmpty then [] else [.repr "u32"])
    "CommandId" (commands.map Command.variant)

def everyCommand (commands : List Command) : Constant where
  attributes := [.rawDoc " Every command, in id order."]
  visibility := .everywhere
  name := "ALL"
  type := .array "CommandId" commands.length
  value := .array (commands.map fun command => .path false command.ownVariant) false

/-- The variant that an id leads to. -/
def lookupArm (command : Command) : Pattern × Expr :=
  (.number command.id, .apply ["Some"] [.path false command.ownVariant])

def lookup (commands : List Command) : Function where
  attributes := [.rawDoc " Looks up a command by its wire id."]
  visibility := .everywhere
  signature := {
    name := "from_u32"
    parameters := [⟨"id", "u32"⟩]
    result := some (.applied "Option" ["Self"]) }
  body := [.select "id" (commands.map lookupArm ++ [(Pattern.wildcard, ("None" : Expr))])]

def nameArm (command : Command) : Pattern × Expr :=
  (.path command.ownVariant, .quoted command.name)

def nameOf (commands : List Command) : Function where
  visibility := .everywhere
  signature := {
    name := "name"
    receiver := some .byValue
    result := some (.reference (some "static") false "str") }
  body := [.select "self" (commands.map nameArm)]

def file (blueprint : Blueprint) : SourceFile :=
  let commands := blueprint.commands
  let base := blueprint.protocol.commandBase
  { docs := blueprint.protocol.documentation "Command identifiers"
      [s!"{commands.length} commands", s!"first id {base}"]
    items := [
      .constant (firstId base), .constant (size commands), enumeration commands,
      .implement none "CommandId" [.constant (everyCommand commands),
        .function (lookup commands), .function (nameOf commands)]] }

end CommandTable

def Blueprint.commandTable (blueprint : Blueprint) : Emission SourceFile :=
  match Command.collision? [] blueprint.commands with
  | some cause => .error (.rejected (.collision cause))
  | none => Emission.finish [] (CommandTable.file blueprint)

end CommandBuffer
