import CommandBuffer.Artifact.Blueprint
import CommandBuffer.Artifact.TestValue

/-! # Validators of the service

One artifact declares the container, with one field for each validator, and the type
of each validator: a unit struct if the legal values are final, and a validator that
can be extended at run time otherwise. The other artifact builds the container and
compares values of a final type with each legal value.
-/

namespace CommandBuffer
open Code

namespace Validator

/-- The field of the container. -/
def fieldName (validator : Validator) : Name := .escaped validator.field

/-- The type of the validator. -/
def type (validator : Validator) : Name := .verbatim validator.typeName

/-- The field that holds the validator. -/
def containerField (validator : Validator) : Parameter := ⟨validator.fieldName, validator.type⟩

def declaration (validator : Validator) : Item :=
  let doc := Attribute.doc s!" Legal values of `{validator.name}`."
  if validator.isComplete then
    .unitStruct [doc, .derive ["Debug", "Clone", "Copy", "Default"]] validator.type
  else
    .typeAlias [doc] validator.type (.applied "ValueValidator" [valueType validator.underlying])

/-- The legal values as expressions. -/
def legalValues (validator : Validator) : Except EmitError (List Expr) :=
  validator.legal.mapM (literal validator.name)

/-- The value is one of the legal ones; comparisons, since a name in a pattern that means
nothing would match everything. -/
def membership : List Expr → Expr
  | [] => .boolean false
  | first :: rest =>
    rest.foldl (fun found value => .infixed .either found (.infixed .eq "value" value))
      (.infixed .eq "value" first)

/-- The check of a final type. -/
def check (validator : Validator) (values : List Expr) : Item :=
  .implement none validator.type [.function {
    visibility := .everywhere
    signature := {
      name := "is_valid"
      receiver := some .shared
      parameters := [⟨"value", valueType validator.underlying⟩]
      result := some "bool" }
    body := [.result (membership values)] }]

/-- The value that the container starts with. -/
def initial (validator : Validator) (values : List Expr) : Expr :=
  if validator.isComplete then validator.type
  else .apply ["ValueValidator", "new"] [.prefixed .borrow (.array values false)]

/-- The names that the validator needs. -/
def demands (validator : Validator) : List Demand :=
  Demand.names .plain [validator.fieldName, validator.type]
    ++ if validator.isComplete then (valueType validator.underlying).demands else []

end Validator

namespace Blueprint

def validatorFile (blueprint : Blueprint) : SourceFile :=
  let validators := blueprint.validators.validators
  let complete := validators.filter (·.isComplete)
  blueprint.file "Service validators"
    [s!"{validators.length} validators", s!"{complete.length} with a fixed value set"]
    (.struct {
        attributes := [.rawDoc " Validators the decoder checks arguments against.",
          .derive ["Debug", "Clone"]]
        name := "Validators"
        fields := validators.map Validator.containerField }
      :: validators.map Validator.declaration)

/-- Each validator with its legal values as expressions. -/
def valued (blueprint : Blueprint) : Emission (List (Validator × List Expr)) :=
  blueprint.validators.validators.mapM fun validator => do
    Emission.requireWritable validator.demands
    return (validator, ← Emission.rejecting validator.legalValues)

/-- The container, built with every validator. -/
def containerItems (valued : List (Validator × List Expr)) : List Item := [
  .implement none "Validators" [.function {
    visibility := .everywhere
    signature := { name := "new", result := some "Self" }
    body := [.result (.construct "Self" (valued.map fun (validator, _) => validator.fieldName)
      (valued.map fun (validator, values) => validator.initial values))] }],
  .implement (some "Default") "Validators" [.function {
    signature := { name := "default", result := some "Self" }
    body := [.result (.apply ["Self", "new"] [])] }]]

def validatorBodyFile (blueprint : Blueprint) (valued : List (Validator × List Expr)) :
    SourceFile :=
  blueprint.file "Service validator implementation"
    [s!"{valued.length} validators"]
    (containerItems valued
      ++ (valued.filter (·.1.isComplete)).map fun (validator, values) => validator.check values)

def validatorTypes (blueprint : Blueprint) : Emission SourceFile :=
  Emission.finish [] blueprint.validatorFile

def validatorBodies (blueprint : Blueprint) : Emission SourceFile := do
  Emission.finish [] (blueprint.validatorBodyFile (← blueprint.valued))

end Blueprint
end CommandBuffer
