import CommandBuffer.Definition.Strategy

/-! # Errors of planning and emission -/

namespace CommandBuffer

/-- What a strategy can require of a record. -/
inductive RequiredField where
  | count | countArgument | resource | decoder
  deriving DecidableEq, Repr

def RequiredField.text : RequiredField → String
  | .count => "count"
  | .countArgument => "count argument"
  | .resource => "resource"
  | .decoder => "decoder"

/-- Two things of one name or id. -/
inductive Collision where
  | repeatedField (command field : String)
  | repeatedId (id : Nat) (first second : String)
  | repeatedCommand (name : String)
  deriving DecidableEq, Repr

def Collision.text : Collision → String
  | .repeatedField command field => s!"{command}: field '{field}' is declared twice"
  | .repeatedId id first second => s!"id {id} is assigned to both {first} and {second}"
  | .repeatedCommand name => s!"command {name} is declared twice"

/-- Why a command cannot be planned or an artifact not be emitted. -/
inductive EmitError where
  | missingField (function : String) (strategy : Strategy) (field : RequiredField)
  | invalidDecoder (function decoder : String)
  | noWireRepresentation (function argument type : String)
  | invalidLiteral (function value : String)
  | collision (cause : Collision)
  deriving DecidableEq, Repr

def EmitError.message : EmitError → String
  | .missingField function strategy field =>
    s!"{function}: {strategy.text} requires '{field.text}'"
  | .invalidDecoder function decoder =>
    s!"{function}: decoder '{decoder}' is not a valid function name"
  | .noWireRepresentation function argument type =>
    s!"{function}: argument '{argument}' of type '{type}' has no wire representation"
  | .invalidLiteral function value => s!"{function}: value '{value}' is not a valid expression"
  | .collision cause => s!"command collision: {cause.text}"

end CommandBuffer
