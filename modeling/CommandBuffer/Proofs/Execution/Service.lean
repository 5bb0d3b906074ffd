import CommandBuffer.Artifact.CommandFormat
import CommandBuffer.Proofs.Execution.Run

/-! # The host of a command

Generated code finds the constants and the readers of its own command struct. What
the validators answer is left open.
-/

namespace CommandBuffer.Code.Host

variable {support : Support}

/-- The value of a constant of a plain integer type. -/
def constantValue? (support : Support) (constant : Constant) : Option (Value support) :=
  (constant.value.value? (bare support) fun _ => none).bind fun value =>
    match constant.type.scalarType? support with
    | some (.int type) => (value.asInt? type).map (.int type)
    | _ => none

/-- What a method without arguments gives on a struct. -/
def methodValue? (support : Support) (method : Function) (fields : Scope support) :
    Option (Value support) :=
  match method.body with
  | [.result value] =>
    value.value? (bare support) fun name => if name = "self" then some (.record fields) else none
  | _ => none

/-- The host that finds the struct of a command, with any validators. -/
def service (command : Command) (accepts : String → Value support → Bool) : Host support where
  constant
    | [owner, name] =>
      if owner = "Self" ∨ owner = command.structName then
        ((CommandFormat.unitConstant? command).filter (·.name = name)).bind
          (constantValue? support)
      else none
    | _ => none
  accessor fields name :=
    ((CommandFormat.accessors command).find? (·.signature.name.spelling = name)).bind
      fun method => methodValue? support method fields
  accepts := accepts

end CommandBuffer.Code.Host
