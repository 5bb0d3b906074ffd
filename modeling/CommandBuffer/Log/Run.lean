import CommandBuffer.Generation
import CommandBuffer.Log.Entry

/-! # The log of a run

Every stage logs how much it did. The stages after one that failed log nothing.
-/

namespace CommandBuffer

def LogEntry.ofStage (level : LogLevel) (stage message : String) : LogEntry where
  level
  target := "cmdbuf_gen::" ++ stage
  message

namespace RunLog

def debug (stage message : String) : LogEntry := .ofStage .debug stage message

/-- A stage did something with items, and failed on others. -/
def tally (stage done items : String) (successes failures : Nat) : LogEntry :=
  debug stage s!"{done} {successes} {items} ({failures} errors)"

/-- The entries of a stage, and those of the run after it if it succeeded. -/
def followed {ε α : Type} (entries : List LogEntry) (outcome : Except ε α)
    (after : α → List LogEntry) : List LogEntry :=
  entries ++ match outcome with
    | .ok value => after value
    | .error _ => []

/-- The signature file is read. -/
def reading (protocol : Protocol) : List LogEntry :=
  let outcomes := SignatureFile.outcomes protocol.types protocol.functions
  [tally "parser" "parsed" "signatures" (Outcome.values outcomes).length
    (Outcome.errors outcomes).length]

def readEntry (declarations : List Declaration) : LogEntry :=
  debug "driver" s!"parsed {declarations.length} signatures"

/-- A record was built. -/
def recordEntry (record : Record) : LogEntry :=
  let transfers := ", ".intercalate (record.transfers.map Transfer.logName)
  .ofStage .trace "builder" s!"{record.name}: {record.strategy.text} via [{transfers}]"

def building (protocol : Protocol) (declarations : List Declaration) : List LogEntry :=
  let outcomes := Record.outcomes protocol.types protocol.overrides declarations
  let records := Outcome.values outcomes
  records.map recordEntry ++
    [tally "builder" "built" "records" records.length (Outcome.errors outcomes).flatten.length]

def crossChecking (protocol : Protocol) (records : List Record) : List LogEntry :=
  let overrides := protocol.overrides.size
  [debug "validation"
    s!"cross-referenced {records.length} records against {overrides} overrides"]

def validatorEntry (validators : ValidatorSet) : LogEntry :=
  debug "validators" s!"synthesized {validators.size} validators"

/-- The stages up to the records, and the run after them. -/
def records (protocol : Protocol) (after : List Record → List LogEntry) : List LogEntry :=
  followed (reading protocol) protocol.declarations fun declarations =>
    readEntry declarations :: followed (building protocol declarations) protocol.uncheckedRecords
      fun records =>
        followed (crossChecking protocol records)
          (Record.crossCheck records protocol.overrides) fun () =>
            validatorEntry (protocol.validators records) :: after records

def planning (protocol : Protocol) (records : List Record) : List LogEntry :=
  let outcomes := Command.outcomes protocol.commandBase records
  [tally "wire" "planned" "wire commands" (Outcome.values outcomes).length
    (Outcome.errors outcomes).length]

def omissionStage : Omission → String
  | .formatTest _ => "codegen::format_tests"
  | .uncoveredTransfer .. | .clientTest _ => "codegen::client_tests"
  | .handlerTests _ => "codegen::decoder_tests"

def omissionEntry (omission : Omission) : LogEntry :=
  .ofStage .warn (omissionStage omission) omission.message

/-- The artifacts are emitted. A run that breaks off does not get to the tally. -/
def emitting (blueprint : Blueprint) : List LogEntry :=
  let outcomes := blueprint.outcomes
  blueprint.omissions.map omissionEntry ++
    match Blueprint.impossibleName? outcomes with
    | some _ => []
    | none =>
      [tally "codegen" "emitted" "artifacts" (Outcome.values outcomes).length
        (outcomes.filterMap Blueprint.rejection?).length]

def formatEntry (artifacts : List Artifact) : LogEntry :=
  let files := Outcome.values (artifacts.map Artifact.file)
  debug "output" s!"formatted {files.length} artifacts"

/-- The stages up to the files. -/
def files (protocol : Protocol) : List LogEntry :=
  records protocol fun records =>
    followed (planning protocol records) protocol.blueprint fun blueprint =>
      followed (emitting blueprint) blueprint.artifacts fun artifacts => [formatEntry artifacts]

/-- What a run produced. -/
def summaryEntry (isDryRun : Bool) (generation : Generation) : LogEntry :=
  let blueprint := generation.blueprint
  let records := s!"{blueprint.records.length} records"
  let commands := s!"{blueprint.commands.length} commands"
  let validators := s!"{blueprint.validators.size} validators"
  let files := s!"{generation.files.length} files"
  let mode := if isDryRun then " (dry run)" else ""
  .ofStage .info "driver"
    s!"{blueprint.protocol.name}: {records}, {commands}, {validators}, {files}{mode}"

/-- The files are written below a directory. -/
def writing (output : Storage.Path) (outcome : RunOutcome) : List LogEntry :=
  outcome.unrestored.map (fun path =>
      .ofStage .warn "output" s!"could not restore {path.text}") ++
    match outcome.result with
    | .error _ => []
    | .ok generation =>
      [debug "output" s!"wrote {generation.files.length} files to {output.text}",
        summaryEntry false generation]

end RunLog
end CommandBuffer
