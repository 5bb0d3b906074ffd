import CommandBuffer.Code.Name

/-! # Tokens and token text

The token text of code has one space between any two tokens, except inside round and
square brackets next to the bracket, and behind a mark that is joined to the next one.
-/

namespace CommandBuffer.Code

inductive Delimiter where
  | round | square | curly
  deriving DecidableEq, Repr

/-- The smallest pieces of code. -/
inductive Token where
  | name (spelling : String)
  | literal (spelling : String)
  /-- One character of an operator; a joint one and the next form one operator. -/
  | mark (sign : Char) (isJoint : Bool)
  | lifetime (label : String)
  | opening (delimiter : Delimiter)
  | closing (delimiter : Delimiter)
  deriving DecidableEq, Repr

namespace Token

def text : Token → String
  | .name spelling | .literal spelling => spelling
  | .mark sign _ => String.singleton sign
  | .lifetime label => "'" ++ label
  | .opening .round => "("
  | .opening .square => "["
  | .opening .curly => "\x7b"
  | .closing .round => ")"
  | .closing .square => "]"
  | .closing .curly => "\x7d"

/-- No space follows the token. -/
def hugsNext : Token → Bool
  | .mark _ isJoint => isJoint
  | .opening delimiter => delimiter != .curly
  | _ => false

/-- No space precedes the token. -/
def hugsPrevious : Token → Bool
  | .closing delimiter => delimiter != .curly
  | _ => false

/-- The text of each token, with the space that follows it. -/
def spaced : List Token → List String
  | [] => []
  | [token] => [token.text]
  | token :: next :: rest =>
    token.text :: (if token.hugsNext || next.hugsPrevious then "" else " ") :: spaced (next :: rest)

end Token

/-- The token text of a list of tokens. -/
def tokenText (tokens : List Token) : String := String.join (Token.spaced tokens)

/-- The marks of one operator. -/
def operator : List Char → List Token
  | [] => []
  | [sign] => [.mark sign false]
  | sign :: rest => .mark sign true :: operator rest

/-- Tokens between brackets. -/
def enclosed (delimiter : Delimiter) (tokens : List Token) : List Token :=
  .opening delimiter :: tokens ++ [.closing delimiter]

end CommandBuffer.Code
