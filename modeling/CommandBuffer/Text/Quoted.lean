import CommandBuffer.Text.Printable

/-! # Quoted text

A text between double quotes, with the escapes that a string literal of the
generated language needs. Printable characters stand for themselves; the single
quote needs no escape inside double quotes.
-/

namespace CommandBuffer.Text

def hexDigit (n : Nat) : Char := "0123456789abcdef".toList.getD n '0'

/-- Lowercase hexadecimal digits without leading zeros. -/
def hexDigits (n : Nat) : List Char :=
  if n < 16 then [hexDigit n] else hexDigits (n / 16) ++ [hexDigit (n % 16)]

/-- The escape of one character, given the character that follows it. A null character
before an octal digit is written in full, so that the digit does not join the escape. -/
def escape (c : Char) (next : Option Char) : List Char :=
  if c = '"' ∨ c = '\\' then ['\\', c]
  else if c = '\n' then ['\\', 'n']
  else if c = '\r' then ['\\', 'r']
  else if c = '\t' then ['\\', 't']
  else if c = '\x00' then
    if next.any fun n => '0' ≤ n ∧ n ≤ '7' then ['\\', 'x', '0', '0'] else ['\\', '0']
  else if isPrintable c then [c]
  else ['\\', 'u', '{'] ++ hexDigits c.toNat ++ ['}']

def escapeAll : List Char → List Char
  | [] => []
  | c :: rest => escape c rest.head? ++ escapeAll rest

/-- The text as a string literal. -/
def quoted (text : String) : String :=
  String.ofList (['"'] ++ escapeAll text.toList ++ ['"'])

end CommandBuffer.Text
