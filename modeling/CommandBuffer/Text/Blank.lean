import CommandBuffer.Text.Ranges

/-! # Blank characters and trimming

The property `White_Space` of the Unicode standard, and what it means to trim a
text at its start, at its end, or at both.
-/

namespace CommandBuffer.Text

/-- The blank code points above ASCII. -/
def blankRanges : Ranges := [
  (0x85, 0x85), (0xa0, 0xa0), (0x1680, 0x1680), (0x2000, 0x200a), (0x2028, 0x2029),
  (0x202f, 0x202f), (0x205f, 0x205f), (0x3000, 0x3000)]

def isBlank : Char → Bool :=
  classify (fun c => c == ' ' || decide (9 ≤ c.toNat ∧ c.toNat ≤ 13)) blankRanges

def trimStart (text : List Char) : List Char := text.dropWhile isBlank

def trimEnd (text : List Char) : List Char := (text.reverse.dropWhile isBlank).reverse

def trim (text : List Char) : List Char := trimStart (trimEnd text)

@[simp] theorem trimEnd_nil : trimEnd [] = [] := rfl

@[simp] theorem trim_nil : trim [] = [] := rfl

/-- A text of blanks only has nothing left when trimmed. -/
def isBlankText (text : List Char) : Bool := text.all isBlank

end CommandBuffer.Text
