import CommandBuffer.Definition.Error

/-! # The registry of named types

The registry holds the named types of a protocol in declaration order, checked one
by one. Everything after it refers to a type by its position, so a type is looked
up by name only where a signature mentions it.
-/

namespace CommandBuffer

/-- The position of a named type in its registry. -/
structure TypeId where
  index : Nat
  deriving DecidableEq, Repr

/-- The checked named types, in declaration order. -/
structure Registry where
  types : List NamedType := []
  deriving DecidableEq, Repr

namespace Registry

/-- The first error of the types, given the names declared before them. A type is
checked on its own before its name is compared. -/
def firstError? (seen : List String) : List NamedType → Option DefinitionError
  | [] => none
  | type :: rest =>
    match type.fault? with
    | some fault => some (.invalidNamedType type.name fault)
    | none =>
      if type.name ∈ seen then some (.duplicateType type.name)
      else firstError? (type.name :: seen) rest

def ofList (types : List NamedType) : Except DefinitionError Registry :=
  match firstError? [] types with
  | some error => .error error
  | none => .ok ⟨types⟩

def size (registry : Registry) : Nat := registry.types.length

/-- The types with their positions, in declaration order. -/
def entries (registry : Registry) : List (TypeId × NamedType) :=
  registry.types.zipIdx.map fun (type, index) => (⟨index⟩, type)

/-- The position of the type with this name. -/
def find? (registry : Registry) (name : String) : Option TypeId :=
  (registry.types.findIdx? (·.name == name)).map TypeId.mk

def get? (registry : Registry) (id : TypeId) : Option NamedType := registry.types[id.index]?

/-- The type with this name and its position. -/
def resolve (registry : Registry) (name : String) : Except DefinitionError (TypeId × NamedType) :=
  match registry.find? name with
  | none => .error (.unknownType name)
  | some id =>
    match registry.get? id with
    | none => .error (.unknownType name)
    | some type => .ok (id, type)

end Registry
end CommandBuffer
