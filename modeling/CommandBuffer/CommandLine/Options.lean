import CommandBuffer.CommandLine.Switch
import CommandBuffer.Text.Pieces

/-! # Options

The words of a command line are first taken apart into uses of switches, from left
to right up to the first word that cannot be one. The uses then apply in order: the
first error, request for help or request for the version decides.
-/

namespace CommandBuffer.CommandLine
open Text

/-- Why a command line is refused. -/
inductive UsageError where
  | unexpectedWord (word : String)
  | missingValue (switch : Switch)
  /-- A value for a switch that takes none. -/
  | unneededValue (switch : Switch) (value : String)
  | repeatedSwitch (switch : Switch)
  deriving DecidableEq, Repr

def UsageError.message : UsageError → String
  | .unexpectedWord word => s!"unexpected argument '{word}' found"
  | .missingValue switch => s!"a value is required for '{switch.shown}' but none was supplied"
  | .unneededValue switch value =>
    s!"unexpected value '{value}' for '{switch.shown}' found; no more were expected"
  | .repeatedSwitch switch => s!"the argument '{switch.shown}' cannot be used multiple times"

/-! ## Words -/

inductive Word where
  /-- The two hyphens after which no switch follows. -/
  | separator
  /-- A long name, with what stands behind an equals sign. -/
  | long (name : List Char) (value : Option (List Char))
  /-- One hyphen and letters. -/
  | letters (letters : List Char)
  | plain
  deriving DecidableEq, Repr

def Word.ofChars : List Char → Word
  | ['-', '-'] => .separator
  | '-' :: '-' :: rest =>
    match splitAtMarker? ['='] rest with
    | some (name, value) => .long name (some value)
    | none => .long rest none
  | '-' :: first :: rest => .letters (first :: rest)
  | _ => .plain

/-! ## Uses of switches -/

inductive Use where
  | switch (switch : Switch) (value : String)
  | fault (error : UsageError)
  deriving DecidableEq, Repr

/-- The uses in letters behind one hyphen, and the switch that takes the next word as its
value. What follows the letter of a switch with a value is that value, except that an
equals sign may stand between. -/
def usesOfLetters : List Char → List Use × Option Switch
  | [] => ([], none)
  | letter :: rest =>
    match Switch.ofLetter? letter with
    | none => ([.fault (.unexpectedWord (String.ofList ['-', letter]))], none)
    | some switch =>
      if switch.takesValue then
        match rest with
        | [] => ([], some switch)
        | '=' :: value => ([.switch switch (String.ofList value)], none)
        | value => ([.switch switch (String.ofList value)], none)
      else
        let (uses, waiting) := usesOfLetters rest
        (.switch switch "" :: uses, waiting)

/-- The uses in a long name and its value, and the switch that takes the next word. -/
def usesOfLong (name : List Char) (value : Option (List Char)) : List Use × Option Switch :=
  let name := String.ofList name
  match Switch.ofLongName? name, value with
  | none, _ => ([.fault (.unexpectedWord s!"--{name}")], none)
  | some switch, none =>
    if switch.takesValue then ([], some switch) else ([.switch switch ""], none)
  | some switch, some value =>
    let value := String.ofList value
    if switch.takesValue then ([.switch switch value], none)
    else ([.fault (.unneededValue switch value)], none)

/-- The uses in the words, given the switch that waits for its value. -/
def uses (waiting : Option Switch) : List String → List Use
  | [] =>
    match waiting with
    | some switch => [.fault (.missingValue switch)]
    | none => []
  | word :: rest =>
    match Word.ofChars word.toList, waiting with
    | .plain, some switch => .switch switch word :: uses none rest
    | _, some switch => [.fault (.missingValue switch)]
    | .plain, none => [.fault (.unexpectedWord word)]
    | .separator, none => rest.head?.toList.map fun next => .fault (.unexpectedWord next)
    | .long name value, none =>
      let (found, waiting) := usesOfLong name value
      found ++ uses waiting rest
    | .letters letters, none =>
      let (found, waiting) := usesOfLetters letters
      found ++ uses waiting rest

/-! ## Options -/

/-- What a run was asked to do. -/
structure Options where
  protocol : String := "raster"
  outputDirectory : String := "gpu/command_buffer"
  /-- The files are printed and not written. -/
  isDryRun : Bool := false
  /-- The records are printed, and no file is generated. -/
  dumpsRecords : Bool := false
  verbosity : Nat := 0
  deriving DecidableEq, Repr

inductive Request where
  | run (options : Options)
  | help
  | version
  deriving DecidableEq, Repr

/-- The options with one more switch. -/
def Options.with (options : Options) (value : String) : Switch → Options
  | .protocol => { options with protocol := value }
  | .outputDirectory => { options with outputDirectory := value }
  | .dryRun => { options with isDryRun := true }
  | .dumpRecords => { options with dumpsRecords := true }
  | .verbose => { options with verbosity := options.verbosity + 1 }
  | .help | .version => options

/-- The switch needs a value that is not empty. -/
def needsText (switch : Switch) : Bool := switch = .outputDirectory

/-- Applies the uses of switches in order, given those used before. -/
def applyUses (used : List Switch) (options : Options) : List Use → Except UsageError Request
  | [] => .ok (.run options)
  | .fault error :: _ => .error error
  | .switch switch value :: rest =>
    if switch = .help then .ok .help
    else if switch = .version then .ok .version
    else if !switch.mayRepeat && used.contains switch then .error (.repeatedSwitch switch)
    else if needsText switch && value.isEmpty then .error (.missingValue switch)
    else applyUses (switch :: used) (options.with value switch) rest

/-- The request of a command line. -/
def Request.ofWords (words : List String) : Except UsageError Request :=
  applyUses [] {} (uses none words)

end CommandBuffer.CommandLine
