import CommandBuffer.Definition.Strategy
import CommandBuffer.Signature.Error

/-! # Errors of merging signatures with overrides -/

namespace CommandBuffer

/-- A directive that only some strategies take. -/
inductive StrategyField where
  | count | runtimeCount | unshared | transfers
  deriving DecidableEq, Repr

def StrategyField.text : StrategyField → String
  | .count => "count"
  | .runtimeCount => "use_count_func"
  | .unshared => "not_shared"
  | .transfers => "transfer_methods"

/-- Why signatures and overrides do not fit together. -/
inductive MergeError where
  | unknownFunction (name : String)
  | invalidArguments (function : String) (cause : ParamError)
  | unmatchedShape (function shape : String)
  | fieldNotAllowed (function : String) (field : StrategyField) (strategy : Strategy)
  | zeroCount (function : String)
  | pointerArguments (function : String) (strategy : Strategy)
  | transferMethod (function : String) (strategy : Strategy) (method : Transfer)
  | noTransferMethod (function : String)
  | immediatePointers (function : String) (count : Nat)
  | testValueIndex (function : String) (index count : Nat)
  | signatureMismatch (function : String)
  | duplicateMethodName (method first second : String)
  deriving DecidableEq, Repr

def MergeError.message : MergeError → String
  | .unknownFunction name => s!"override for '{name}' does not match any declared function"
  | .invalidArguments function cause => s!"{function}: invalid argument list: {cause.message}"
  | .unmatchedShape function shape =>
    s!"{function}: no strategy matches the argument shape '{shape}'"
  | .fieldNotAllowed function field strategy =>
    s!"{function}: '{field.text}' is not allowed on {strategy.text} functions"
  | .zeroCount function => s!"{function}: count must be greater than zero"
  | .pointerArguments function strategy =>
    s!"{function}: {strategy.text} functions cannot take pointer arguments"
  | .transferMethod function strategy method =>
    s!"{function}: {strategy.text} results travel through shared memory, not '{method.text}'"
  | .noTransferMethod function => s!"{function}: transfer method list is empty"
  | .immediatePointers function count =>
    s!"{function}: immediate transfer needs exactly one pointer argument, found {count}"
  | .testValueIndex function index count =>
    s!"{function}: valid_args index {index} is out of range ({count} arguments)"
  | .signatureMismatch function =>
    s!"{function}: generated marshaling needs the command arguments to match the declaration"
  | .duplicateMethodName method first second =>
    s!"'{first}' and '{second}' both map to method name '{method}'"

end CommandBuffer
