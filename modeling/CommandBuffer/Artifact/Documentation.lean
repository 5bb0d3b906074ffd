import CommandBuffer.Code.Tree
import CommandBuffer.Definition.Protocol
import CommandBuffer.Text.Blank

/-! # Documentation of an artifact

Every artifact opens by saying what it is, what it contains, and where the names
that it uses come from.
-/

namespace CommandBuffer
open Code

namespace Protocol

/-- The first paragraphs: what the artifact is, and the description unless it is blank. -/
def introduction (protocol : Protocol) (title : String) : String :=
  let description := String.ofList (Text.trim protocol.description.toList)
  let opening := s!" {title} for the {protocol.name} protocol."
  if description = "" then opening else s!"{opening}\n\n {description}"

/-- The list of what the artifact contains. -/
def contents (items : List String) : String :=
  " ## Contents\n" ++ String.join (items.map fun item => s!"\n - {item}")

/-- The documentation of an artifact; without items there is no list. -/
def documentation (protocol : Protocol) (title : String) (items : List String) : List Attribute :=
  [.doc (protocol.introduction title)]
    ++ (if items.isEmpty then [] else [.rawDoc "", .doc (contents items)])
    ++ [.rawDoc "", .doc s!" Runtime types come from `{protocol.supportPath}`."]

end Protocol
end CommandBuffer
