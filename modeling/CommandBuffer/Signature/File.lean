import CommandBuffer.Naming
import CommandBuffer.Outcome
import CommandBuffer.Signature.CType
import CommandBuffer.Signature.Error
import CommandBuffer.Text.Blank

/-! # Signature files

A signature file has one declaration on a line. A comment starts at the first `//`,
a semicolon at the end is optional, and a parameter type is written
`[const] Base[<Named>]{*}`. Every line is read on its own, except that a name may
be declared only once.
-/

namespace CommandBuffer.SignatureFile
open Text

/-- A text without its trailing identifier, and that identifier; an identifier that starts
with a digit counts as none. -/
def splitTrailingIdentifier (text : List Char) : List Char × List Char :=
  let isPart := fun c : Char => c.isAlphanum || c == '_'
  let name := (text.reverse.takeWhile isPart).reverse
  if name ≠ [] ∧ ¬ Naming.isIdentifier name then (text, [])
  else (trimEnd (text.reverse.dropWhile isPart).reverse, name)

/-- Identifiers joined by `::`. -/
def isTypePath (text : List Char) : Bool :=
  !text.isEmpty && (splitOnMarker [':', ':'] text).all Naming.isIdentifier

/-- The type without its trailing stars, and their number. -/
def splitStars (text : List Char) : List Char × Nat :=
  let isPart := fun c => c == '*' || isBlank c
  let reversed := (trim text).reverse
  ((reversed.dropWhile isPart).reverse, (reversed.takeWhile isPart).count '*')

/-- The type without a leading `const` that a blank follows, and whether there was one. -/
def splitConst (text : List Char) : List Char × Bool :=
  match text with
  | 'c' :: 'o' :: 'n' :: 's' :: 't' :: c :: rest =>
    if isBlank c then (trimStart (c :: rest), true) else (text, false)
  | _ => (text, false)

/-- The base of a type, and the name in angle brackets behind it. -/
def splitQualifier (text : List Char) : Except ParamFault (List Char × Option (List Char)) :=
  match splitAtMarker? ['<'] text with
  | none => .ok (text, none)
  | some (base, rest) =>
    match dropEnd? '>' rest with
    | none => .error .unterminatedQualifier
    | some inner => .ok (trimEnd base, some (trim inner))

/-- The stars that a type may have. -/
def maxPointerDepth : Nat := 255

/-- Looks up the named type of a base and its qualifier. -/
def resolveNamed (registry : Registry) (base : String) :
    Option (List Char) → Except ParamError (Option TypeId)
  | none => .ok (registry.find? base)
  | some qualifier =>
    let name := String.ofList qualifier
    match registry.resolve name with
    | .error _ => .error (.unknownNamedType name)
    | .ok (id, type) =>
      if type.underlying = base then .ok (some id)
      else .error (.namedTypeMismatch name type.underlying base)

/-- Reads a type; `whole` is the text that a malformed type is reported with. -/
def readType (registry : Registry) (whole text : List Char) : Except ParamError CType :=
  let malformed := fun fault => ParamError.malformed (String.ofList whole) fault
  let (starless, depth) := splitStars text
  if maxPointerDepth < depth then .error (malformed .tooManyPointers)
  else
    let (plain, isConst) := splitConst starless
    match splitQualifier plain with
    | .error fault => .error (malformed fault)
    | .ok (base, qualifier) =>
      if !isTypePath base then .error (malformed .invalidTypeName)
      else
        let base := String.ofList base
        (resolveNamed registry base qualifier).map fun named =>
          { isConst, base, pointerDepth := depth, named }

/-- Reads one parameter: a type and a name. -/
def readParam (registry : Registry) (text : List Char) : Except ParamError Param :=
  let malformed := fun fault => ParamError.malformed (String.ofList text) fault
  if text.isEmpty then .error (malformed .empty)
  else
    let (type, name) := splitTrailingIdentifier text
    if name.isEmpty then .error (malformed .missingName)
    else if type.isEmpty then .error (malformed .missingType)
    else (readType registry text type).map fun type => { type, name := String.ofList name }

/-- Reads a comma-separated parameter list up to its first error; a blank list and `void`
have no parameters. -/
def readParams (registry : Registry) (text : List Char) : Except ParamError (List Param) :=
  let text := trim text
  if text = [] ∨ text = ['v', 'o', 'i', 'd'] then .ok []
  else (splitOn ',' text).mapM fun piece => readParam registry (trim piece)

/-- Reads what a line holds besides its comment. -/
def readDeclaration (registry : Registry) (line : Nat) (content : List Char) :
    Except ParseError Declaration :=
  let malformed := fun fault => ParseError.malformedDeclaration line fault
  let content := trimEnd ((dropEnd? ';' content).getD content)
  match splitAtMarker? ['('] content with
  | none => .error (malformed .missingParenthesis)
  | some (head, rest) =>
    match dropEnd? ')' rest with
    | none => .error (malformed .unfinished)
    | some params =>
      if '(' ∈ params ∨ ')' ∈ params then .error (malformed .unbalancedParentheses)
      else
        let (returnText, name) := splitTrailingIdentifier (trimEnd head)
        if name.isEmpty then .error (malformed .missingName)
        else if returnText.isEmpty then .error (malformed .missingReturnType)
        else
          let name := String.ofList name
          match readType registry returnText returnText with
          | .error error => .error (.ofParam line name error)
          | .ok returnType =>
            match readParams registry params with
            | .error error => .error (.ofParam line name error)
            | .ok params => .ok { name, returnType, params, line }

/-- What a line holds besides its comment. -/
def lineContent (raw : List Char) : List Char := trim (cutAtMarker ['/', '/'] raw)

/-- Reads numbered lines, given the declarations accepted before them. -/
def readLines (registry : Registry) (accepted : List Declaration) :
    List (List Char × Nat) → List (Except ParseError Declaration)
  | [] => []
  | (raw, line) :: rest =>
    let content := lineContent raw
    if content.isEmpty then readLines registry accepted rest
    else match readDeclaration registry line content with
      | .error error => .error error :: readLines registry accepted rest
      | .ok declaration =>
        match accepted.find? (·.name == declaration.name) with
        | some first =>
          .error (.duplicateFunction line declaration.name first.line)
            :: readLines registry accepted rest
        | none => .ok declaration :: readLines registry (declaration :: accepted) rest

/-- One outcome for every line that holds something. -/
def outcomes (registry : Registry) (text : String) : List (Except ParseError Declaration) :=
  readLines registry [] ((lines text.toList).zipIdx 1)

/-- The declarations of a signature file, or the error of every bad line. -/
def read (registry : Registry) (text : String) :
    Except (List ParseError) (List Declaration) :=
  Outcome.collect (outcomes registry text)

end CommandBuffer.SignatureFile
