import CommandBuffer.Artifact.CommandFormat
import CommandBuffer.Artifact.TestValue

/-! # Written and omitted tests

A test is left out, with a warning, if some value that it needs cannot be chosen or
some data cannot be staged. The other tests are written all the same.
-/

namespace CommandBuffer
open Code

/-- Why a test is not written. -/
inductive Omission where
  | formatTest (command : String)
  | uncoveredTransfer (function : String) (transfer : Transfer) (argument : String)
  | clientTest (function : String)
  | handlerTests (function : String)
  deriving DecidableEq, Repr

def Omission.message : Omission → String
  | .formatTest command => s!"{command}: no value for every argument, format test omitted"
  | .uncoveredTransfer function transfer argument =>
    s!"{function}: {transfer.text} transfer of '{argument}' is not covered by client tests"
  | .clientTest function => s!"{function}: no value for every argument, client test omitted"
  | .handlerTests function => s!"{function}: arguments cannot be staged, decoder tests omitted"

/-- The tests of one command, or the reasons why it has none. -/
inductive TestOutcome where
  | written (tests : List Function)
  | omitted (reasons : List Omission)
  deriving Repr

namespace TestOutcome

def tests : TestOutcome → List Function
  | written tests => tests
  | omitted _ => []

def reasons : TestOutcome → List Omission
  | written _ => []
  | omitted reasons => reasons

/-- The tests of all outcomes, unless one failed. -/
def functions (outcomes : List (Emission TestOutcome)) : Emission (List Function) := do
  let outcomes ← outcomes.mapM id
  return outcomes.flatMap tests

/-- The omissions before the first failure. -/
def omissions : List (Emission TestOutcome) → List Omission
  | .ok outcome :: rest => outcome.reasons ++ omissions rest
  | _ => []

end TestOutcome
end CommandBuffer
