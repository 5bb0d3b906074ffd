import CommandBuffer.Text.Quoted

/-! # Dumps

A dump shows data as JSON, one scalar or bracket a line, each level two blanks
further to the right. The members of an object stay in the order in which they are
given.
-/

namespace CommandBuffer

inductive Dump where
  | null
  | truth (value : Bool)
  | number (value : Nat)
  | text (value : String)
  | list (items : List Dump)
  | object (members : List (String × Dump))
  deriving Repr

namespace Dump

/-- The value, or null. -/
def optional {α : Type} (dump : α → Dump) : Option α → Dump
  | none => null
  | some value => dump value

/-- The last two hexadecimal digits of a number. -/
def hexPair (code : Nat) : List Char :=
  [Text.hexDigit (code / 16 % 16), Text.hexDigit (code % 16)]

/-- How a character stands in a quoted text. Every control character is escaped. -/
def quotedChar (c : Char) : List Char :=
  match c with
  | '"' => ['\\', '"']
  | '\\' => ['\\', '\\']
  | '\x08' => ['\\', 'b']
  | '\x0c' => ['\\', 'f']
  | '\n' => ['\\', 'n']
  | '\r' => ['\\', 'r']
  | '\t' => ['\\', 't']
  | c => if c.toNat < 0x20 then ['\\', 'u', '0', '0'] ++ hexPair c.toNat else [c]

def quoted (text : String) : String :=
  String.ofList ('"' :: text.toList.flatMap quotedChar ++ ['"'])

/-- The indentation one level further to the right. -/
def deeper (indent : String) : String := indent ++ "  "

/-- Brackets around parts, each on lines of its own. -/
def bracketed (opening closing indent : String) : List String → String
  | [] => opening ++ closing
  | parts =>
    let inside := "\n" ++ deeper indent
    opening ++ inside ++ ("," ++ inside).intercalate parts ++ "\n" ++ indent ++ closing

mutual

/-- The text of a dump whose first line is indented already. -/
def render (indent : String) : Dump → String
  | null => "null"
  | truth value => if value then "true" else "false"
  | number value => toString value
  | text value => quoted value
  | list items => bracketed "[" "]" indent (renderItems (deeper indent) items)
  | object members => bracketed "\x7b" "\x7d" indent (renderMembers (deeper indent) members)

def renderItems (indent : String) : List Dump → List String
  | [] => []
  | item :: rest => item.render indent :: renderItems indent rest

def renderMembers (indent : String) : List (String × Dump) → List String
  | [] => []
  | (key, value) :: rest =>
    (quoted key ++ ": " ++ value.render indent) :: renderMembers indent rest

end

end Dump
end CommandBuffer
