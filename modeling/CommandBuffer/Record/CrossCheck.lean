import CommandBuffer.Definition.Override
import CommandBuffer.Record.Basic
import CommandBuffer.Record.Error

/-! # Cross-checking records and overrides

Every override has to name a declared function, and no two functions may share a
method name.
-/

namespace CommandBuffer.Record

/-- One error for each record whose method name an earlier record has. -/
def methodCollisions (earlier : List Record) : List Record → List MergeError
  | [] => []
  | record :: rest =>
    match earlier.find? (·.methodName == record.methodName) with
    | some first =>
      .duplicateMethodName record.methodName first.name record.name
        :: methodCollisions earlier rest
    | none => methodCollisions (earlier ++ [record]) rest

/-- One error for each override that names no record. -/
def danglingOverrides (records : List Record) (overrides : OverrideTable) : List MergeError :=
  (overrides.entries.filter fun entry => !records.any (·.name == entry.name)).map
    fun entry => .unknownFunction entry.name

def crossCheck (records : List Record) (overrides : OverrideTable) :
    Except (List MergeError) Unit :=
  match methodCollisions [] records ++ danglingOverrides records overrides with
  | [] => .ok ()
  | errors => .error errors

end CommandBuffer.Record
