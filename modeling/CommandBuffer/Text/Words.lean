import CommandBuffer.Text.Letter
import CommandBuffer.Text.LetterCase
import CommandBuffer.Text.Pieces

/-! # Words of an identifier

An identifier is cut into words at every character that is neither letter nor
number, between a lowercase and an uppercase letter, and before the last capital
of a run of capitals that a lowercase letter follows. Joining the words again
gives the snake and the camel form of the identifier.
-/

namespace CommandBuffer.Text

/-- The case of the letters read since the last word boundary. -/
inductive CaseMode where
  | boundary | lower | upper
  deriving DecidableEq, Repr

/-- The mode after a character; one without case changes nothing. -/
def CaseMode.after (mode : CaseMode) (c : Char) : CaseMode :=
  if isLowercase c then .lower else if isUppercase c then .upper else mode

/-- The words of a piece without separators; `word` is what the current word holds so far. -/
def wordsFrom (mode : CaseMode) (word : List Char) : List Char → List (List Char)
  | [] => if word.isEmpty then [] else [word]
  | [c] => [word ++ [c]]
  | c :: next :: rest =>
    if mode.after c = .lower ∧ isUppercase next then
      (word ++ [c]) :: wordsFrom .boundary [] (next :: rest)
    else if mode = .upper ∧ isUppercase c ∧ isLowercase next then
      word :: wordsFrom .boundary [c] (next :: rest)
    else wordsFrom (mode.after c) (word ++ [c]) (next :: rest)

def words (text : List Char) : List (List Char) :=
  (splitWhere (!isAlphanumeric ·) text).flatMap (wordsFrom .boundary [])

/-- The word in lowercase; a capital sigma at its end takes the final form. -/
def lowerWord : List Char → List Char
  | [] => []
  | c :: rest =>
    (if c = 'Σ' ∧ rest = [] then ['ς'] else toLowercase c) ++ lowerWord rest

/-- The word with its first character in uppercase and the others in lowercase. -/
def capitalWord : List Char → List Char
  | [] => []
  | c :: rest => toUppercase c ++ lowerWord rest

/-- The words in lowercase, joined by underscores. -/
def snakeForm (text : List Char) : List Char :=
  List.intercalate ['_'] ((words text).map lowerWord)

/-- The capitalised words, joined by nothing. -/
def camelForm (text : List Char) : List Char :=
  (words text).flatMap capitalWord

end CommandBuffer.Text
