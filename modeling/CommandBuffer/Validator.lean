import CommandBuffer.Record.Basic

/-! # Validators

Every named type that a wire argument refers to by value gets one validator. The
service consults it before a call, and the tests draw their invalid values from it.
-/

namespace CommandBuffer

/-- The validator of one named type. -/
structure Validator where
  id : TypeId
  name : String
  /-- The type of the values. -/
  underlying : String
  /-- The field of the validator container. -/
  field : String
  typeName : String
  legal : List String
  illegal : List String
  isComplete : Bool
  deriving DecidableEq, Repr

namespace Validator

def ofType (id : TypeId) (type : NamedType) : Validator where
  id
  name := type.name
  underlying := type.underlying
  field := Naming.validatorField type.name
  typeName := Naming.validatorType type.name
  legal := type.legal
  illegal := type.illegal
  isComplete := type.isComplete

def accepts (validator : Validator) (value : String) : Bool := value ∈ validator.legal

end Validator

/-- The validators of a protocol, in registry order. -/
structure ValidatorSet where
  validators : List Validator := []
  deriving DecidableEq, Repr

namespace ValidatorSet

def get? (set : ValidatorSet) (id : TypeId) : Option Validator :=
  set.validators.find? (·.id == id)

/-- The validator of the type that a value refers to. -/
def forType? (set : ValidatorSet) (type : CType) : Option Validator := type.named.bind set.get?

def size (set : ValidatorSet) : Nat := set.validators.length

/-- Puts a validator in front of those of later types. -/
def place (validator : Validator) : List Validator → List Validator
  | [] => [validator]
  | first :: rest =>
    if validator.id.index < first.id.index then validator :: first :: rest
    else first :: place validator rest

/-- Adds the validator of a type, unless the type has one already or asks for none. -/
def describe (registry : Registry) (set : ValidatorSet) (id : TypeId) : ValidatorSet :=
  if (set.get? id).isSome then set
  else
    match registry.get? id with
    | some type => if type.hasValidator then ⟨place (.ofType id type) set.validators⟩ else set
    | none => set

/-- The named types that wire arguments pass by value, in the order of the arguments. -/
def references (records : List Record) : List TypeId :=
  (((records.filter Record.hasCommands).flatMap Record.arguments).filter
    (!·.type.isPointer)).filterMap (·.type.named)

/-- One validator for each referenced type that asks for one. -/
def synthesize (registry : Registry) (records : List Record) : ValidatorSet :=
  (references records).foldl (describe registry) {}

end ValidatorSet
end CommandBuffer
