import CommandBuffer.Definition.Error
import CommandBuffer.Definition.Strategy

/-! # Overrides

An override carries everything that the author of a protocol says about one
function beyond its signature. Whatever it leaves open is inferred or defaulted.
-/

namespace CommandBuffer

/-- The extension that a function belongs to, and the feature flag that guards it. -/
structure Extension where
  name : String
  flag : Option String
  deriving DecidableEq, Repr

/-- The directives for one function. -/
structure Override where
  name : String
  strategy : Option Strategy := none
  /-- The service handler, if it is not the derived one. -/
  decoder : Option String := none
  /-- The argument list that replaces the declared parameters on the wire. -/
  arguments : Option String := none
  transfers : Option (List Transfer) := none
  hasClientEntry : Bool := true
  /-- When false, the marshaling function is written by hand. -/
  hasGeneratedMarshal : Bool := true
  isInternal : Bool := false
  hasUnitTest : Bool := true
  hasClientTest : Bool := true
  expectsCall : Bool := true
  hasInvalidTest : Bool := true
  isUnshared : Bool := false
  /-- Data units per command. -/
  count : Option Nat := none
  /-- The command carries its unit count; `count` is the most it may be. -/
  hasRuntimeCount : Bool := false
  /-- Test values by argument index, in increasing order of the index. -/
  testValues : List (Nat × String) := []
  traceLevel : Option Nat := none
  extension : Option Extension := none
  /-- The id namespace of client-side allocation. -/
  resource : Option String := none
  /-- The call that the service test expects, if it is not the handler. -/
  expectedCall : Option String := none
  deriving DecidableEq, Repr

namespace Override

/-- Inserts a test value in index order; a later value for an index replaces the earlier. -/
def insertTestValue (index : Nat) (value : String) : List (Nat × String) → List (Nat × String)
  | [] => [(index, value)]
  | entry :: rest =>
    if index < entry.1 then (index, value) :: entry :: rest
    else if index = entry.1 then (index, value) :: rest
    else entry :: insertTestValue index value rest

def withTestValue (override : Override) (index : Nat) (value : String) : Override :=
  { override with testValues := insertTestValue index value override.testValues }

end Override

/-- Overrides in declaration order, at most one for each function. -/
structure OverrideTable where
  entries : List Override := []
  deriving DecidableEq, Repr

namespace OverrideTable

/-- The first name that occurs twice, given the names before the list. -/
def firstRepeated? (seen : List String) : List Override → Option String
  | [] => none
  | entry :: rest =>
    if entry.name ∈ seen then some entry.name else firstRepeated? (entry.name :: seen) rest

def ofList (entries : List Override) : Except DefinitionError OverrideTable :=
  match firstRepeated? [] entries with
  | some name => .error (.duplicateOverride name)
  | none => .ok ⟨entries⟩

def size (table : OverrideTable) : Nat := table.entries.length

def get? (table : OverrideTable) (name : String) : Option Override :=
  table.entries.find? (·.name == name)

/-- The directives for a function; all defaults if the table has none. -/
def directives (table : OverrideTable) (name : String) : Override :=
  (table.get? name).getD { name }

/-- The entry takes the place of the one with its name, or comes last. -/
def replace (table : OverrideTable) (entry : Override) : List Override :=
  if table.entries.any (·.name == entry.name) then
    table.entries.map fun old => if old.name == entry.name then entry else old
  else table.entries ++ [entry]

end OverrideTable
end CommandBuffer
