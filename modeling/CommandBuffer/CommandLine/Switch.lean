/-! # Switches

What may be asked for on the command line.
-/

namespace CommandBuffer.CommandLine

inductive Switch where
  | protocol
  | outputDirectory
  | dryRun
  | dumpRecords
  | verbose
  | help
  | version
  deriving DecidableEq, Repr

namespace Switch

def all : List Switch :=
  [protocol, outputDirectory, dryRun, dumpRecords, verbose, help, version]

/-- The name behind two hyphens. -/
def longName : Switch → String
  | protocol => "protocol"
  | outputDirectory => "output-dir"
  | dryRun => "dry-run"
  | dumpRecords => "dump-records"
  | verbose => "verbose"
  | help => "help"
  | version => "version"

/-- The letter behind one hyphen. -/
def letter? : Switch → Option Char
  | protocol => some 'p'
  | outputDirectory => some 'o'
  | verbose => some 'v'
  | help => some 'h'
  | version => some 'V'
  | dryRun | dumpRecords => none

/-- What the usage text calls the value of the switch, if it has one. -/
def valueName? : Switch → Option String
  | protocol => some "PROTOCOL"
  | outputDirectory => some "OUTPUT_DIR"
  | _ => none

def takesValue (switch : Switch) : Bool := switch.valueName?.isSome

/-- Only the verbosity grows with every use of its switch. -/
def mayRepeat (switch : Switch) : Bool := switch = verbose

def ofLongName? (name : String) : Option Switch := all.find? (·.longName == name)

def ofLetter? (letter : Char) : Option Switch := all.find? (·.letter? == some letter)

/-- How messages show the switch. -/
def shown (switch : Switch) : String :=
  match switch.valueName? with
  | some value => s!"--{switch.longName} <{value}>"
  | none => s!"--{switch.longName}"

end Switch
end CommandBuffer.CommandLine
