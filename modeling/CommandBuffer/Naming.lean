import CommandBuffer.Text.Words

/-! # Names derived from function and type names

Function names are capitalised and may end in a vendor suffix; methods, handlers
and validator fields are named in snake case. The suffix and every digit that
follows a letter start a word of their own.
-/

namespace CommandBuffer.Naming
open Text

/-- The suffixes by which a vendor marks its functions. -/
def vendorSuffixes : List (List Char) :=
  [['C', 'H', 'R', 'O', 'M', 'I', 'U', 'M'], ['I', 'N', 'T', 'E', 'R', 'N', 'A', 'L'],
    ['E', 'X', 'T'], ['K', 'H', 'R'], ['A', 'R', 'B']]

/-- The part before a suffix, unless that part is empty. -/
def stem? (name suffix : List Char) : Option (List Char) :=
  if suffix.isSuffixOf name ∧ suffix.length < name.length then
    some (name.take (name.length - suffix.length))
  else none

/-- The name without its vendor suffix, and the suffix; a bare suffix is a name. -/
def splitVendorSuffix (name : List Char) : List Char × Option (List Char) :=
  match vendorSuffixes.findSome? fun suffix => (stem? name suffix).map (·, suffix) with
  | some (stem, suffix) => (stem, some suffix)
  | none => (name, none)

/-- Sets every ASCII digit that follows a letter off by an underscore. -/
def separateDigits (previous : Option Char) : List Char → List Char
  | [] => []
  | c :: rest =>
    if c.isDigit ∧ previous.any isAlphabetic then '_' :: c :: separateDigits (some c) rest
    else c :: separateDigits (some c) rest

/-- The snake form of a function name. -/
def snake (name : List Char) : List Char :=
  let (stem, suffix) := splitVendorSuffix name
  snakeForm (separateDigits none stem ++ (suffix.map ('_' :: ·)).getD [])

/-- The snake form of a function name, as text. -/
def snakeName (name : String) : String := String.ofList (snake name.toList)

/-- The client method of a function. -/
def methodName (name : String) : String := snakeName name

/-- The service handler of a function that names none. -/
def defaultDecoder (name : String) : String := "do_" ++ snakeName name

/-- Every path separator becomes an underscore. -/
def flattenPath (name : List Char) : List Char :=
  List.intercalate ['_'] (splitOnMarker [':', ':'] name)

/-- The field that holds the validator of a named type. -/
def validatorField (typeName : String) : String :=
  String.ofList (snakeForm (flattenPath typeName.toList))

/-- The type of the validator of a named type. -/
def validatorType (typeName : String) : String :=
  String.ofList (camelForm (validatorField typeName).toList) ++ "Validator"

/-- A letter or underscore followed by letters, digits and underscores, all ASCII. -/
def isIdentifier : List Char → Bool
  | [] => false
  | c :: rest => (c.isAlpha || c == '_') && rest.all fun c => c.isAlphanum || c == '_'

end CommandBuffer.Naming
