import CommandBuffer.Text.IdentifierClass

/-! # Literals

Where a literal at the start of a text ends. Each reader gives what follows the
literal; the literal is what was skipped, and keeps its spelling.
-/

namespace CommandBuffer.Code.Literal
open Text

/-- Skips an identifier without a raw mark. -/
def skipIdentifier? : List Char → Option (List Char)
  | [] => none
  | c :: rest => if isIdentifierStart c then some (rest.dropWhile isIdentifierContinue) else none

/-- Skips the suffix that may follow a literal. -/
def skipSuffix (text : List Char) : List Char := (skipIdentifier? text).getD text

/-- Nothing that could continue an identifier comes first. -/
def isWordEnd (text : List Char) : Bool := !text.head?.any isIdentifierContinue

/-- A number ends with its suffix, and not inside a word. -/
def skipNumberEnd? (text : List Char) : Option (List Char) :=
  let rest := skipSuffix text
  if isWordEnd rest then some rest else none

/-! ## Numbers -/

def isHexDigit (c : Char) : Bool :=
  c.isDigit || ('a' ≤ c && c ≤ 'f') || ('A' ≤ c && c ≤ 'F')

/-- The value of a digit in base sixteen. -/
def hexValue (c : Char) : Nat :=
  if c.isDigit then c.toNat - '0'.toNat else c.toLower.toNat - 'a'.toNat + 10

/-- The digits and underscores of a number in base ten. -/
def isDecimalPart (c : Char) : Bool := c.isDigit || c == '_'

/-- The characters that belong to the digits of a number in a base. -/
def isDigitIn (base : Nat) (c : Char) : Bool :=
  c == '_' || c.isDigit || (base == 16 && isHexDigit c)

/-- A digit is less than the base. -/
def fitsBase (base : Nat) (c : Char) : Bool := !c.isDigit || c.toNat < '0'.toNat + base

/-- Skips digits in a base other than ten, at least one, all below the base. -/
def skipDigitsIn? (base : Nat) (text : List Char) : Option (List Char) :=
  let digits := text.takeWhile (isDigitIn base)
  if digits.all (fitsBase base) && digits.any (· != '_') then some (text.drop digits.length)
  else none

/-- Skips an integer with its suffix. -/
def skipInteger? : List Char → Option (List Char)
  | '0' :: 'x' :: rest => skipDigitsIn? 16 rest >>= skipNumberEnd?
  | '0' :: 'o' :: rest => skipDigitsIn? 8 rest >>= skipNumberEnd?
  | '0' :: 'b' :: rest => skipDigitsIn? 2 rest >>= skipNumberEnd?
  | c :: rest => if c.isDigit then skipNumberEnd? (rest.dropWhile isDecimalPart) else none
  | [] => none

/-- Skips an exponent: its letter, a sign, and digits of which there is one. Underscores
may stand on both sides of the sign. -/
def skipExponent? : List Char → Option (List Char)
  | e :: rest =>
    if e == 'e' || e == 'E' then
      let signed := rest.dropWhile (· == '_')
      let digits :=
        if signed.head?.any (fun c => c == '+' || c == '-') then signed.drop 1 else signed
      if (digits.takeWhile isDecimalPart).any Char.isDigit then some (digits.dropWhile isDecimalPart)
      else none
    else none
  | [] => none

/-- Skips a number with a point or an exponent, with its suffix. A point before
another point or before a name does not belong to the number. -/
def skipFloat? (text : List Char) : Option (List Char) :=
  if text.head?.any Char.isDigit then
    match text.dropWhile isDecimalPart with
    | '.' :: rest =>
      if rest.head?.any fun c => c == '.' || isIdentifierStart c then none
      else
        let rest := rest.dropWhile isDecimalPart
        skipNumberEnd? ((skipExponent? rest).getD rest)
    | rest => skipExponent? rest >>= skipNumberEnd?
  else none

/-! ## Characters and strings -/

/-- What a quoted literal consists of. -/
inductive Content where
  | characters
  | bytes
  /-- Characters and bytes up to a zero, which the language itself adds. -/
  | terminated
  deriving DecidableEq, Repr

namespace Content

/-- The character may stand in the literal as it is. -/
def admits : Content → Char → Bool
  | characters, _ => true
  | bytes, c => c.toNat < 128
  | terminated, c => c != '\x00'

/-- The escape of the byte may stand in the literal. -/
def admitsByte : Content → Nat → Bool
  | characters, value => value < 128
  | bytes, _ => true
  | terminated, value => value != 0

/-- The escape of the code point may stand in the literal. -/
def admitsCodePoint : Content → Nat → Bool
  | characters, _ => true
  | bytes, _ => false
  | terminated, value => value != 0

/-- The character may follow the backslash of an escape, with nothing behind it. -/
def admitsShortEscape (content : Content) (c : Char) : Bool :=
  ['n', 'r', 't', '\\', '\'', '"'].contains c || (c == '0' && content.admitsByte 0)

end Content

/-- The digits of a code point behind the opening brace: its value, and what follows the
closing brace. -/
def codePoint? (value digits : Nat) : List Char → Option (Nat × List Char)
  | [] => none
  | c :: rest =>
    if c == '}' then if 0 < digits && value.isValidChar then some (value, rest) else none
    else if c == '_' then if 0 < digits then codePoint? value digits rest else none
    else if isHexDigit c && digits < 6 then codePoint? (16 * value + hexValue c) (digits + 1) rest
    else none

/-- Skips what follows the backslash of an escape. -/
def skipEscape? (content : Content) : List Char → Option (List Char)
  | 'x' :: high :: low :: rest =>
    if isHexDigit high && isHexDigit low && content.admitsByte (16 * hexValue high + hexValue low)
    then some rest
    else none
  | 'u' :: '{' :: rest =>
    match codePoint? 0 0 rest with
    | some (value, rest) => if content.admitsCodePoint value then some rest else none
    | none => none
  | c :: rest => if content.admitsShortEscape c then some rest else none
  | [] => none

/-- Skips one character of a quoted literal. -/
def skipCharacter? (content : Content) : List Char → Option (List Char)
  | [] => none
  | '\\' :: rest => skipEscape? content rest
  | c :: rest => if content.admits c then some rest else none

/-- Skips a character literal behind its opening quote. -/
def skipCharacterLiteral? (content : Content) (text : List Char) : Option (List Char) :=
  match skipCharacter? content text with
  | some ('\'' :: rest) => some (skipSuffix rest)
  | _ => none

/-- Skips a string behind its opening quote. A carriage return stands only in front of a
line feed, and a backslash may stand in front of both. -/
def skipString? (content : Content) (text : List Char) : Option (List Char) :=
  match text with
  | [] => none
  | '"' :: rest => some (skipSuffix rest)
  | '\r' :: '\n' :: rest => skipString? content rest
  | '\\' :: '\r' :: '\n' :: rest => skipString? content rest
  | '\\' :: '\n' :: rest => skipString? content rest
  | c :: text =>
    if c == '\r' then none
    else match skipCharacter? content (c :: text) with
      | none => none
      | some rest =>
        if _shorter : rest.length < (c :: text).length then skipString? content rest else none
termination_by text.length
decreasing_by all_goals simp only [List.length_cons] at *; omega

/-- Skips a raw string up to the quote that so many number signs follow. -/
def skipRawBody? (content : Content) (hashes : Nat) : List Char → Option (List Char)
  | [] => none
  | '\r' :: '\n' :: rest => skipRawBody? content hashes rest
  | c :: rest =>
    if c == '"' && (List.replicate hashes '#').isPrefixOf rest then
      some (skipSuffix (rest.drop hashes))
    else if c != '\r' && content.admits c then skipRawBody? content hashes rest
    else none

/-- The most number signs that a raw string may have on each side. -/
def maxHashes : Nat := 255

/-- Skips a raw string behind the letters that announce it. -/
def skipRawString? (content : Content) (text : List Char) : Option (List Char) :=
  let hashes := (text.takeWhile (· == '#')).length
  match text.dropWhile (· == '#') with
  | '"' :: rest => if hashes ≤ maxHashes then skipRawBody? content hashes rest else none
  | _ => none

/-- Skips the quoted literal at the start of a text. -/
def skipQuoted? : List Char → Option (List Char)
  | '"' :: rest => skipString? .characters rest
  | 'r' :: rest => skipRawString? .characters rest
  | 'b' :: '"' :: rest => skipString? .bytes rest
  | 'b' :: 'r' :: rest => skipRawString? .bytes rest
  | 'c' :: '"' :: rest => skipString? .terminated rest
  | 'c' :: 'r' :: rest => skipRawString? .terminated rest
  | 'b' :: '\'' :: rest => skipCharacterLiteral? .bytes rest
  | '\'' :: rest => skipCharacterLiteral? .characters rest
  | _ => none

/-- Skips the literal at the start of a text. -/
def skip? (text : List Char) : Option (List Char) :=
  skipQuoted? text <|> skipFloat? text <|> skipInteger? text

end CommandBuffer.Code.Literal
