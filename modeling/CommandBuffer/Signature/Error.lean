/-! # Errors of a signature file -/

namespace CommandBuffer

/-- What is wrong with the form of a parameter or of its type. -/
inductive ParamFault where
  | empty
  | missingName
  | missingType
  | tooManyPointers
  | unterminatedQualifier
  | invalidTypeName
  deriving DecidableEq, Repr

def ParamFault.reason : ParamFault → String
  | .empty => "empty parameter"
  | .missingName => "missing parameter name"
  | .missingType => "missing parameter type"
  | .tooManyPointers => "too many pointer levels"
  | .unterminatedQualifier => "unterminated '<'"
  | .invalidTypeName => "invalid type name"

/-- Why a parameter is rejected. -/
inductive ParamError where
  | malformed (text : String) (fault : ParamFault)
  | unknownNamedType (name : String)
  /-- The named type is represented by `expected`, but qualifies a `found`. -/
  | namedTypeMismatch (name expected found : String)
  deriving DecidableEq, Repr

def ParamError.message : ParamError → String
  | .malformed text fault => s!"malformed parameter '{text}': {fault.reason}"
  | .unknownNamedType name => s!"unknown named type '{name}'"
  | .namedTypeMismatch name expected found =>
    s!"named type '{name}' is a '{expected}', not a '{found}'"

/-- What is wrong with the form of a declaration. -/
inductive DeclarationFault where
  | missingParenthesis
  | unfinished
  | unbalancedParentheses
  | missingName
  | missingReturnType
  deriving DecidableEq, Repr

def DeclarationFault.reason : DeclarationFault → String
  | .missingParenthesis => "missing '('"
  | .unfinished => "declaration must end with ')'"
  | .unbalancedParentheses => "unbalanced parentheses"
  | .missingName => "missing function name"
  | .missingReturnType => "missing return type"

/-- Why a line of a signature file is rejected. -/
inductive ParseError where
  | malformedDeclaration (line : Nat) (fault : DeclarationFault)
  | malformedParameter (line : Nat) (function text : String) (fault : ParamFault)
  | unknownNamedType (line : Nat) (function name : String)
  | namedTypeMismatch (line : Nat) (function name expected found : String)
  | duplicateFunction (line : Nat) (name : String) (firstLine : Nat)
  deriving DecidableEq, Repr

namespace ParseError

/-- Adds the place of a parameter to its error. -/
def ofParam (line : Nat) (function : String) : ParamError → ParseError
  | .malformed text fault => .malformedParameter line function text fault
  | .unknownNamedType name => .unknownNamedType line function name
  | .namedTypeMismatch name expected found =>
    .namedTypeMismatch line function name expected found

def line : ParseError → Nat
  | .malformedDeclaration line _ => line
  | .malformedParameter line _ _ _ => line
  | .unknownNamedType line _ _ => line
  | .namedTypeMismatch line _ _ _ _ => line
  | .duplicateFunction line _ _ => line

def message : ParseError → String
  | .malformedDeclaration line fault => s!"line {line}: malformed declaration: {fault.reason}"
  | .malformedParameter line function text fault =>
    s!"line {line}: {function}: malformed parameter '{text}': {fault.reason}"
  | .unknownNamedType line function name =>
    s!"line {line}: {function} references unknown named type '{name}'"
  | .namedTypeMismatch line function name expected found =>
    s!"line {line}: {function}: named type '{name}' is a '{expected}', not a '{found}'"
  | .duplicateFunction line name firstLine =>
    s!"line {line}: function '{name}' is already declared on line {firstLine}"

end ParseError
end CommandBuffer
