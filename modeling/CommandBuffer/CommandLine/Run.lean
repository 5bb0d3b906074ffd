import CommandBuffer.CommandLine.Options
import CommandBuffer.Log.Filter
import CommandBuffer.Log.Run
import CommandBuffer.Record.Dump

/-! # Runs of the command line

A command line is answered by what is printed and by an exit status. Files are
written only by a run that neither dumps records nor is a dry run.
-/

namespace CommandBuffer.CommandLine
open Storage

/-- What a run prints, and how it ends. -/
structure Report where
  status : UInt8
  output : String := ""
  /-- The lines on the error stream. -/
  notices : List String := []
  deriving DecidableEq, Repr

def usageText : String := "Usage: cmdbuf-gen [OPTIONS]"

def versionText : String := "cmdbuf-gen 0.1.0\n"

def helpText : String := "\n".intercalate [
  "Code generator for command-buffer protocol definitions",
  "",
  usageText,
  "",
  "Options:",
  "  -p, --protocol <PROTOCOL>      Protocol to generate code for [default: raster]",
  "  -o, --output-dir <OUTPUT_DIR>  Output directory for generated code " ++
    "[default: gpu/command_buffer]",
  "      --dry-run                  Print generated code without writing files",
  "      --dump-records             Print the built function records as JSON and exit",
  "  -v, --verbose...               Increase verbosity (-v, -vv, -vvv)",
  "  -h, --help                     Print help",
  "  -V, --version                  Print version",
  ""]

/-- The text of files that are printed and not written. -/
def printedFiles (files : List OutputFile) : String :=
  String.join (files.map fun file => s!"=== {file.path} ===\n{file.content}\n\n")

namespace Report

/-- A command line that is refused. -/
def refused (error : UsageError) : Report where
  status := 2
  notices := [s!"error: {error.message}", "", usageText, "", "For more information, try '--help'."]

/-- Errors one a line, and their number. -/
def rejected (errors : List GenerationError) : Report where
  status := 1
  notices := errors.map (fun error => s!"error: {error.message}") ++
    [({ errors } : Diagnostics).summary]

def failed : RunFailure → Report
  | .rejected errors => rejected errors
  | .impossibleName spelling =>
    { status := 101, notices := [s!"{Text.quoted spelling} is not an identifier"] }

/-- The report below the entries of the log. -/
def below (log : List String) (report : Report) : Report :=
  { report with notices := log ++ report.notices }

end Report

namespace Options

/-- The lines of the log that the options and the filter setting admit. -/
def logLines (options : Options) (setting : Option String) (entries : List LogEntry) :
    List String :=
  (entries.filter (LogFilter.choose setting options.verbosity).admits).map
    (·.line (decide (2 ≤ options.verbosity)))

/-- Prints the records. -/
def dumpReport (protocol : Protocol) : List LogEntry × Report :=
  (RunLog.records protocol fun _ => [],
    match protocol.records with
    | .ok records => { status := 0, output := Record.dumpText records ++ "\n" }
    | .error errors => .rejected errors)

/-- Prints the files. -/
def dryReport (protocol : Protocol) : List LogEntry × Report :=
  match protocol.generate Artifact.noticedFiles with
  | .ok generation =>
    (RunLog.files protocol ++ [RunLog.summaryEntry true generation],
      { status := 0, output := printedFiles generation.files })
  | .error failure => (RunLog.files protocol, .failed failure)

/-- What is reported after the files of a run were written. -/
def writtenReport (options : Options) (protocol : Protocol) (outcome : RunOutcome) :
    List LogEntry × Report :=
  (RunLog.files protocol ++ RunLog.writing (.ofText options.outputDirectory) outcome,
    match outcome.result with
    | .error failure => .failed failure
    | .ok generation =>
      let files := s!"{generation.files.length} files"
      let commands := s!"{generation.blueprint.commands.length} commands"
      { status := 0
        notices := [s!"Generated {files} ({commands}) to {options.outputDirectory}"] })

variable {m : Type → Type} [Monad m] [FileStore m]

/-- Runs a protocol as the options ask for. -/
def runProtocol (options : Options) (protocol : Protocol) : m (List LogEntry × Report) :=
  if options.dumpsRecords then return dumpReport protocol
  else if options.isDryRun then return dryReport protocol
  else do
    let output := Path.ofText options.outputDirectory
    return options.writtenReport protocol (← protocol.generateInto Artifact.noticedFiles output)

/-- Runs as the options ask for, with a setting of the log filter. -/
def run (options : Options) (setting : Option String) : m Report :=
  match Protocol.load options.protocol with
  | .error error => return .rejected [error]
  | .ok protocol => do
    let (entries, report) ← options.runProtocol protocol
    return report.below (options.logLines setting entries)

end Options

/-- Answers a command line. -/
def respond {m : Type → Type} [Monad m] [FileStore m] (words : List String)
    (setting : Option String) : m Report :=
  match Request.ofWords words with
  | .error error => return .refused error
  | .ok .help => return { status := 0, output := helpText }
  | .ok .version => return { status := 0, output := versionText }
  | .ok (.run options) => options.run setting

end CommandBuffer.CommandLine
