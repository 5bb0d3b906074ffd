import CommandBuffer.Record.Basic
import CommandBuffer.Record.Error
import CommandBuffer.Signature.File
import CommandBuffer.Signature.Shape

/-! # Building records

Each declaration is merged with its directives. A record is built only if the
directives are allowed for its strategy; otherwise every objection is reported.
-/

namespace CommandBuffer.Record

/-- The argument list of the directives, or else the declared parameters. -/
def effectiveArguments (registry : Registry) (declaration : Declaration) (directives : Override) :
    Except MergeError (List Param) :=
  match directives.arguments with
  | none => .ok declaration.params
  | some text =>
    (SignatureFile.readParams registry text.toList).mapError (.invalidArguments declaration.name)

/-- The strategy of the directives, or else the inferred one. -/
def effectiveStrategy (declaration : Declaration) (arguments : List Param)
    (directives : Override) : Except MergeError Strategy :=
  match directives.strategy with
  | some strategy => .ok strategy
  | none =>
    match inferStrategy declaration.returnType arguments with
    | some strategy => .ok strategy
    | none =>
      .error (.unmatchedShape declaration.name (shapeText declaration.returnType arguments))

/-- The transfer methods of a function with `pointers` pointer arguments. Without a request
a single pointer travels with the command, everything else through shared memory. -/
def effectiveTransfers (function : String) (strategy : Strategy)
    (requested : Option (List Transfer)) (pointers : Nat) : Except MergeError (List Transfer) :=
  if strategy = .noCommand then
    if requested.isSome then .error (.fieldNotAllowed function .transfers strategy) else .ok []
  else match requested with
    | none =>
      .ok [if strategy.returnsThroughSharedMemory ∨ pointers ≠ 1 then .shm else .immediate]
    | some requested =>
      let methods := Transfer.inPreferenceOrder requested
      if methods = [] then .error (.noTransferMethod function)
      else match (if strategy.returnsThroughSharedMemory then methods.find? (· ≠ .shm) else none) with
        | some method => .error (.transferMethod function strategy method)
        | none =>
          if .immediate ∈ methods ∧ pointers ≠ 1 then .error (.immediatePointers function pointers)
          else .ok methods

/-- The objection, if the condition holds. -/
def objectIf (condition : Prop) [Decidable condition] (error : MergeError) : List MergeError :=
  if condition then [error] else []

/-- Everything that speaks against the directives of a function. -/
def objections (declaration : Declaration) (directives : Override) (arguments : List Param)
    (strategy : Strategy) : List MergeError :=
  let function := declaration.name
  let pointers := arguments.countP (·.type.isPointer)
  objectIf ((strategy = .direct ∨ strategy = .create) ∧ 0 < pointers)
      (.pointerArguments function strategy)
    ++ objectIf (¬ strategy.isPutFamily ∧ directives.count.isSome)
      (.fieldNotAllowed function .count strategy)
    ++ objectIf (¬ strategy.isPutFamily ∧ directives.hasRuntimeCount)
      (.fieldNotAllowed function .runtimeCount strategy)
    ++ objectIf (directives.count = some 0) (.zeroCount function)
    ++ objectIf (directives.isUnshared ∧ ¬ (strategy = .genN ∨ strategy = .create))
      (.fieldNotAllowed function .unshared strategy)
    ++ (match effectiveTransfers function strategy directives.transfers pointers with
      | .ok _ => []
      | .error error => [error])
    ++ ((directives.testValues.map Prod.fst).filter (arguments.length ≤ ·)).map
      (.testValueIndex function · arguments.length)
    ++ objectIf (strategy.hasCommands ∧ directives.hasClientEntry ∧ directives.hasGeneratedMarshal
        ∧ arguments ≠ declaration.params)
      (.signatureMismatch function)

/-- The strategy with its options. -/
def packingFor (directives : Override) : Strategy → Packing
  | .noCommand => .noCommand
  | .direct => .direct
  | .custom => .custom
  | .put => .put ⟨directives.count, directives.hasRuntimeCount⟩
  | .putN => .putN ⟨directives.count, directives.hasRuntimeCount⟩
  | .getN => .getN
  | .genN => .genN directives.isUnshared
  | .delN => .delN
  | .is => .is
  | .create => .create directives.isUnshared

theorem packingFor_strategy (directives : Override) (strategy : Strategy) :
    (packingFor directives strategy).strategy = strategy := by
  cases strategy <;> rfl

def merge (declaration : Declaration) (directives : Override) (arguments : List Param)
    (strategy : Strategy) (transfers : List Transfer) : Record where
  name := declaration.name
  line := declaration.line
  returnType := declaration.returnType
  declared := declaration.params
  arguments
  packing := packingFor directives strategy
  transfers
  hasClientEntry := directives.hasClientEntry
  hasGeneratedMarshal := directives.hasGeneratedMarshal
  isInternal := directives.isInternal
  traceLevel := directives.traceLevel
  extension := directives.extension
  hasUnitTest := directives.hasUnitTest
  hasClientTest := directives.hasClientTest
  expectsCall := directives.expectsCall
  hasInvalidTest := directives.hasInvalidTest
  decoder := directives.decoder
  testValues := directives.testValues
  resource := directives.resource
  expectedCall := directives.expectedCall

/-- Merges one declaration with its directives. -/
def build (registry : Registry) (declaration : Declaration) (directives : Override) :
    Except (List MergeError) Record := do
  let arguments ← (effectiveArguments registry declaration directives).mapError ([·])
  let strategy ← (effectiveStrategy declaration arguments directives).mapError ([·])
  match objections declaration directives arguments strategy with
  | [] =>
    let transfers ← (effectiveTransfers declaration.name strategy directives.transfers
      (arguments.countP (·.type.isPointer))).mapError ([·])
    return merge declaration directives arguments strategy transfers
  | errors => throw errors

/-- One outcome for every declaration. -/
def outcomes (registry : Registry) (overrides : OverrideTable) (declarations : List Declaration) :
    List (Except (List MergeError) Record) :=
  declarations.map fun declaration =>
    build registry declaration (overrides.directives declaration.name)

/-- The records of all declarations, in their order. -/
def buildAll (registry : Registry) (overrides : OverrideTable) (declarations : List Declaration) :
    Except (List MergeError) (List Record) :=
  Outcome.collectAll (outcomes registry overrides declarations)

end CommandBuffer.Record
