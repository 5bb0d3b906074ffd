import CommandBuffer.Text.IdentifierClass

/-! # Names in generated code

A name is written either as it stands or escaped: the escaped form of a keyword
carries a raw mark, so that it can be used as a name. Four keywords have no raw
form. A name that no spelling makes an identifier is impossible, and no artifact
can hold it.
-/

namespace CommandBuffer.Code

/-- The words that the generated language reserves. -/
def keywords : List String :=
  ["abstract", "as", "async", "await", "become", "box", "break", "const", "continue", "crate",
    "do", "dyn", "else", "enum", "extern", "false", "final", "fn", "for", "if", "impl", "in",
    "let", "loop", "macro", "match", "mod", "move", "mut", "override", "priv", "pub", "ref",
    "return", "Self", "self", "static", "struct", "super", "trait", "true", "try", "type",
    "typeof", "unsafe", "unsized", "use", "virtual", "where", "while", "yield"]

/-- The keywords without a raw form. -/
def unescapable : List String := ["self", "Self", "super", "crate"]

def rawMark : List Char := ['r', '#']

/-- What follows the raw mark of a text. -/
def afterRawMark? (text : List Char) : Option (List Char) :=
  if rawMark.isPrefixOf text then some (text.drop rawMark.length) else none

/-- The text may follow a raw mark. -/
def isEscapable (text : List Char) : Bool :=
  Text.isIdentifierText text && text != ['_'] && !unescapable.contains (String.ofList text)

/-- The text is an identifier, with or without a raw mark; a keyword is one, too. -/
def isSpelling (text : List Char) : Bool :=
  match afterRawMark? text with
  | some rest => isEscapable rest
  | none => Text.isIdentifierText text

/-- A name in generated code. -/
inductive Name where
  /-- Written as it stands, even if it is a keyword. -/
  | verbatim (text : String)
  /-- Written so that a keyword is a name. -/
  | escaped (text : String)
  deriving DecidableEq, Repr, Inhabited

namespace Name

instance : Coe String Name := ⟨verbatim⟩

/-- The characters that stand for the name in the code. -/
def spelling : Name → String
  | verbatim text => text
  | escaped text => if text ∈ keywords then "r#" ++ text else text

/-- The name can be spelled. -/
def isPossible : Name → Bool
  | verbatim text => isSpelling text.toList
  | escaped text =>
    if text ∈ keywords then decide (text ∉ unescapable)
    else text != "_" && isSpelling text.toList

/-- The name is spelled like a keyword or like the placeholder. -/
def isBare : Name → Bool
  | verbatim text => decide (text ∈ keywords) || text == "_"
  | escaped _ => false

end Name
end CommandBuffer.Code
