import CommandBuffer.Text.Blank

/-! # Named argument types

A named type is an enumerated argument type whose legal values are known up
front. It may carry values that must be rejected, and it may ask for a validator.
-/

namespace CommandBuffer

/-- An enumerated argument type with its legal and illegal values. -/
structure NamedType where
  name : String
  /-- The type that represents the values. -/
  underlying : String
  legal : List String
  illegal : List String
  /-- The legal values are final and never extended at run time. -/
  isComplete : Bool := false
  hasValidator : Bool := true
  deriving DecidableEq, Repr

/-- What can be wrong with a named type on its own. -/
inductive NamedTypeFault where
  | emptyName
  | emptyUnderlying
  | noLegalValue
  | emptyLegalValue
  | repeatedLegalValue (value : String)
  | repeatedIllegalValue (value : String)
  | legalAndIllegal (value : String)
  deriving DecidableEq, Repr

def NamedTypeFault.reason : NamedTypeFault → String
  | .emptyName => "name cannot be empty"
  | .emptyUnderlying => "underlying type cannot be empty"
  | .noLegalValue => "a validator requires at least one legal value"
  | .emptyLegalValue => "legal values cannot be empty"
  | .repeatedLegalValue value => s!"legal value '{value}' is listed twice"
  | .repeatedIllegalValue value => s!"illegal value '{value}' is listed twice"
  | .legalAndIllegal value => s!"'{value}' is listed as both legal and illegal"

namespace NamedType

def isBlank (text : String) : Bool := Text.isBlankText text.toList

/-- The first fault of the legal values, given those before them. -/
def legalFault? (seen : List String) : List String → Option NamedTypeFault
  | [] => none
  | value :: rest =>
    if isBlank value then some .emptyLegalValue
    else if value ∈ seen then some (.repeatedLegalValue value)
    else legalFault? (value :: seen) rest

/-- The first fault of the illegal values, given those before them. -/
def illegalFault? (legal seen : List String) : List String → Option NamedTypeFault
  | [] => none
  | value :: rest =>
    if value ∈ seen then some (.repeatedIllegalValue value)
    else if value ∈ legal then some (.legalAndIllegal value)
    else illegalFault? legal (value :: seen) rest

/-- The first fault of the type, if it has one. -/
def fault? (type : NamedType) : Option NamedTypeFault :=
  if isBlank type.name then some .emptyName
  else if isBlank type.underlying then some .emptyUnderlying
  else if type.hasValidator ∧ type.legal = [] then some .noLegalValue
  else legalFault? [] type.legal <|> illegalFault? type.legal [] type.illegal

/-- The value is one of the legal values. -/
def accepts (type : NamedType) (value : String) : Bool := value ∈ type.legal

end NamedType
end CommandBuffer
