import CommandBuffer.Code.Literal
import CommandBuffer.Code.Token
import CommandBuffer.Text.Blank

/-! # From text to tokens

The tokens of a text in the generated language. Blanks and comments separate
tokens and are dropped; a mark is joint if another mark follows at once. Documentation
in the form of a comment is refused: definitions are not written with it.
-/

namespace CommandBuffer.Code.Lexer
open Text

/-- Characters that separate tokens. -/
def isSeparator (c : Char) : Bool := isBlank c || c == '\u200e' || c == '\u200f'

def isSign (c : Char) : Bool := "~!@#$%^&*-=+|;:,<.>/?'".contains c

/-- Skips a comment behind its opening, given how many comments are open. -/
def skipBlockComment? : Nat → List Char → Option (List Char)
  | depth, '*' :: '/' :: rest =>
    if depth ≤ 1 then some rest else skipBlockComment? (depth - 1) rest
  | depth, '/' :: '*' :: rest => skipBlockComment? (depth + 1) rest
  | depth, _ :: rest => skipBlockComment? depth rest
  | _, [] => none

/-- A comment starts here. -/
def isComment : List Char → Bool
  | '/' :: c :: _ => c == '/' || c == '*'
  | _ => false

/-- Documentation starts behind the opening of a comment: a mark, and not just one more
of a line of them. -/
def isDocumentation : Char → List Char → Bool
  | _, '!' :: _ => true
  | '*', '*' :: '/' :: _ => false
  | mark, first :: second :: _ => first == mark && second != mark
  | mark, [first] => first == mark
  | _, [] => false

/-- Skips one separator or comment. Documentation belongs to the code and is none. -/
def skipSeparator? : List Char → Option (List Char)
  | '/' :: '/' :: rest =>
    if isDocumentation '/' rest then none else some (rest.dropWhile (· != '\n'))
  | '/' :: '*' :: rest => if isDocumentation '*' rest then none else skipBlockComment? 1 rest
  | c :: rest => if isSeparator c then some rest else none
  | [] => none

def opening? (c : Char) : Option Delimiter :=
  if c == '(' then some .round
  else if c == '[' then some .square
  else if c == '\x7b' then some .curly
  else none

def closing? (c : Char) : Option Delimiter :=
  if c == ')' then some .round
  else if c == ']' then some .square
  else if c == '\x7d' then some .curly
  else none

/-- The name at the start of a text, possibly with a raw mark. -/
def name? (text : List Char) : Option (Token × List Char) :=
  let body := (afterRawMark? text).getD text
  match Literal.skipIdentifier? body with
  | none => none
  | some rest =>
    let spelling := text.take (text.length - rest.length)
    if isSpelling spelling then some (.name (String.ofList spelling), rest) else none

/-- A mark starts here, and not a comment. -/
def isMark (text : List Char) : Bool := text.head?.any isSign && !isComment text

/-- The lifetime behind its quote: a name that no quote ends and no number sign follows,
which only a raw mark allows. -/
def lifetime? (text : List Char) : Option (Token × List Char) :=
  match name? text with
  | some (.name label, rest) =>
    if rest.head? == some '\'' || (rest.head? == some '#' && (afterRawMark? text).isNone) then none
    else some (.lifetime label, rest)
  | _ => none

/-- The bracket, the lifetime or the mark at the start of a text. -/
def sign? : List Char → Option (Token × List Char)
  | [] => none
  | '\'' :: rest => lifetime? rest
  | c :: rest =>
    match opening? c, closing? c with
    | some delimiter, _ => some (.opening delimiter, rest)
    | none, some delimiter => some (.closing delimiter, rest)
    | none, none => if isMark (c :: rest) then some (.mark c (isMark rest), rest) else none

/-- The token at the start of a text. -/
def token? (text : List Char) : Option (Token × List Char) :=
  match Literal.skip? text with
  | some rest => some (.literal (String.ofList (text.take (text.length - rest.length))), rest)
  | none => sign? text <|> name? text

/-- The tokens of a text, or nothing if some part of it is no token. -/
def tokens? (text : List Char) : Option (List Token) :=
  match text with
  | [] => some []
  | c :: text =>
    match skipSeparator? (c :: text) with
    | some rest => if _shorter : rest.length < (c :: text).length then tokens? rest else none
    | none =>
      match token? (c :: text) with
      | none => none
      | some (token, rest) =>
        if _shorter : rest.length < (c :: text).length then (tokens? rest).map (token :: ·)
        else none
termination_by text.length
decreasing_by all_goals simp only [List.length_cons] at *; omega

/-- The tokens of a text that may start with a byte-order mark. -/
def read? : List Char → Option (List Token)
  | '\ufeff' :: text => tokens? text
  | text => tokens? text

end CommandBuffer.Code.Lexer
