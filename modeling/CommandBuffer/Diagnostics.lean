import CommandBuffer.Definition.Error
import CommandBuffer.Layout.Error
import CommandBuffer.Record.Error

/-! # Diagnostics

A run reports every error of the first stage that fails. Whatever the stage, the
errors end up in one list with one text.
-/

namespace CommandBuffer

/-- What is wrong with the choice or the configuration of a protocol. -/
inductive ConfigurationError where
  | unknownProtocol (name : String)
  | invalidSupportPath (path : String)
  deriving DecidableEq, Repr

def ConfigurationError.text : ConfigurationError → String
  | .unknownProtocol name => s!"unknown protocol '{name}' (available: raster)"
  | .invalidSupportPath path => s!"support path '{path}' is not a valid path"

/-- An error of any stage. -/
inductive GenerationError where
  | parse (cause : ParseError)
  | merge (cause : MergeError)
  | emit (cause : EmitError)
  | definition (cause : DefinitionError)
  | configuration (cause : ConfigurationError)
  /-- The emitted code of an artifact cannot be read as code. -/
  | format (artifact : String)
  | write (path : String)
  deriving DecidableEq, Repr

def GenerationError.message : GenerationError → String
  | .parse cause => cause.message
  | .merge cause => cause.message
  | .emit cause => cause.message
  | .definition cause => s!"Invalid protocol definition: {cause.message}"
  | .configuration cause => s!"Invalid configuration: {cause.text}"
  | .format artifact => s!"Generated code for '{artifact}' is invalid"
  | .write path => s!"Failed to write output file '{path}'"

/-- The errors collected so far. -/
structure Diagnostics where
  errors : List GenerationError := []
  deriving DecidableEq, Repr

namespace Diagnostics

def size (diagnostics : Diagnostics) : Nat := diagnostics.errors.length

def add (diagnostics : Diagnostics) (errors : List GenerationError) : Diagnostics where
  errors := diagnostics.errors ++ errors

/-- The number of errors, as every report ends. -/
def summary (diagnostics : Diagnostics) : String := s!"{diagnostics.size} errors"

/-- One line for each error, and their number. -/
def text (diagnostics : Diagnostics) : String :=
  String.join (diagnostics.errors.map (·.message ++ "\n")) ++ diagnostics.summary

/-- The value, unless an error was collected. -/
def result {α : Type} (diagnostics : Diagnostics) (value : α) : Except Diagnostics α :=
  if diagnostics.errors = [] then .ok value else .error diagnostics

end Diagnostics
end CommandBuffer
