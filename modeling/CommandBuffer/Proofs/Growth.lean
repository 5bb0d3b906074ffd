import CommandBuffer.Proofs.Numbering
import Mathlib

/-! # Growth of a protocol

A protocol grows by declarations behind its own and by overrides for the functions that they
declare. Its lines are read as before, each of its functions keeps its directives, and the planner
asks for its commands first. So every command keeps its id, its name and its fields: client and
service may be built from different versions.
-/

namespace CommandBuffer

open Success Outcome

/-! ## Lines -/

namespace Text

theorem splitOn_append_separator (separator : Char) (first second : List Char) :
    splitOn separator (first ++ separator :: second)
      = splitOn separator first ++ splitOn separator second := by
  induction first with
  | nil => simp [splitOn, splitWhere]
  | cons c rest ih =>
    simp only [splitOn, List.cons_append, splitWhere] at ih ⊢
    rw [ih]
    by_cases hc : (c == separator) = true
    · rw [if_pos hc, if_pos hc, List.cons_append]
    · rw [if_neg hc, if_neg hc]
      cases hrest : splitWhere (· == separator) rest with
      | nil => exact absurd hrest (splitWhere_ne_nil _ _)
      | cons piece pieces => rfl

/-- A text that ends a line before another text keeps its lines. -/
theorem lines_append_newline (first second : List Char) :
    lines (first ++ '\n' :: second) = lines (first ++ ['\n']) ++ lines second := by
  have hfirst : lines (first ++ ['\n']) = splitOn '\n' first := by
    unfold lines
    rw [splitOn_append_separator]
    simp [splitOn, splitWhere]
  rw [hfirst]
  unfold lines
  rw [splitOn_append_separator]
  obtain hnil | ⟨pieces, last, hlast⟩ := List.eq_nil_or_concat (splitOn '\n' second)
  · exact absurd hnil (splitWhere_ne_nil _ _)
  · rw [hlast, List.concat_eq_append, ← List.append_assoc]
    simp only [List.getLast?_append, List.getLast?_singleton, Option.some_or, List.dropLast_concat]
    split <;> simp

end Text

/-! ## Declarations -/

namespace SignatureFile

/-- Later lines are read in the light of the declarations that were accepted, and change nothing
about the lines before them. -/
theorem readLines_append (registry : Registry) (accepted : List Declaration)
    (first second : List (List Char × Nat)) :
    readLines registry accepted (first ++ second) = readLines registry accepted first
      ++ readLines registry ((values (readLines registry accepted first)).reverse ++ accepted)
        second := by
  induction first generalizing accepted with
  | nil => rfl
  | cons numbered rest ih =>
    rcases numbered with ⟨raw, line⟩
    simp only [List.cons_append, readLines]
    split
    · exact ih accepted
    · split
      · rw [ih accepted]
        rfl
      · split
        · rw [ih accepted]
          rfl
        · rename_i declaration _ _ _
          rw [ih (declaration :: accepted)]
          simp [values]

/-- The text can be continued on a new line. -/
def EndsLine (text : String) : Prop := text = "" ∨ ∃ start, text = start ++ "\n"

/-- What is read of a text is read of a longer one first. -/
theorem prefix_of_read {registry : Registry} {text more : String}
    {declarations grown : List Declaration} (htext : EndsLine text)
    (h : read registry text = .ok declarations)
    (hgrown : read registry (text ++ more) = .ok grown) : declarations <+: grown := by
  have hlines : Text.lines (text ++ more).toList
      = Text.lines text.toList ++ Text.lines more.toList := by
    rcases htext with rfl | ⟨start, rfl⟩
    · rfl
    · rw [String.toList_append, String.toList_append, List.append_assoc]
      exact Text.lines_append_newline start.toList more.toList
  rw [read, collect_eq_ok_iff, outcomes] at h hgrown
  rw [hlines, List.zipIdx_append, readLines_append, h] at hgrown
  obtain ⟨first, others, rfl, hfirst, -⟩ := List.append_eq_map_iff.mp hgrown
  have hsame : first = declarations := (List.map_inj_right fun _ _ => Except.ok.inj).mp hfirst
  exact ⟨others, by rw [hsame]⟩

end SignatureFile

/-! ## Directives -/

namespace Protocol

/-- The names of the functions that a protocol declares. -/
def functionNames (protocol : Protocol) : List String :=
  match protocol.declarations with
  | .ok declarations => declarations.map Declaration.name
  | .error _ => []

/-- The second protocol is the first with declarations appended, and with overrides, wherever they
stand in the table, that name none of the functions that the first declares. -/
structure GrowsTo (protocol grown : Protocol) : Prop where
  types : grown.types = protocol.types
  commandBase : grown.commandBase = protocol.commandBase
  endsLine : SignatureFile.EndsLine protocol.functions
  functions : ∃ declarations, grown.functions = protocol.functions ++ declarations
  overrides : grown.overrides.entries.filter (fun entry => decide (entry.name ∈ protocol.functionNames))
    = protocol.overrides.entries

variable {protocol grown : Protocol}

/-- A function keeps its directives. -/
theorem GrowsTo.directives (h : protocol.GrowsTo grown) {name : String}
    (hname : name ∈ protocol.functionNames) :
    grown.overrides.directives name = protocol.overrides.directives name := by
  have hget : grown.overrides.get? name = protocol.overrides.get? name := by
    unfold OverrideTable.get?
    rw [← h.overrides, List.find?_filter]
    congr 1
    funext entry
    by_cases hentry : entry.name = name
    · simp [hentry, hname]
    · simp [hentry]
  unfold OverrideTable.directives
  rw [hget]

theorem GrowsTo.prefix_declarations (h : protocol.GrowsTo grown)
    {declarations grownDeclarations : List Declaration}
    (hdeclarations : protocol.declarations = .ok declarations)
    (hgrown : grown.declarations = .ok grownDeclarations) : declarations <+: grownDeclarations := by
  obtain ⟨more, hfunctions⟩ := h.functions
  rw [Protocol.declarations, mapError_eq_ok] at hdeclarations hgrown
  rw [h.types, hfunctions] at hgrown
  exact SignatureFile.prefix_of_read h.endsLine hdeclarations hgrown

/-! ## Records and commands -/

theorem GrowsTo.prefix_records (h : protocol.GrowsTo grown) {records grownRecords : List Record}
    (hrecords : protocol.records = .ok records) (hgrown : grown.records = .ok grownRecords) :
    records <+: grownRecords := by
  obtain ⟨declarations, hdeclarations, rfl⟩ := exists_outcomes_of_records hrecords
  obtain ⟨grownDeclarations, hgrownDeclarations, rfl⟩ := exists_outcomes_of_records hgrown
  obtain ⟨more, rfl⟩ := h.prefix_declarations hdeclarations hgrownDeclarations
  have hown : Record.outcomes grown.types grown.overrides declarations
      = Record.outcomes protocol.types protocol.overrides declarations := by
    refine List.map_congr_left fun declaration hdeclaration => ?_
    have hname : declaration.name ∈ protocol.functionNames := by
      rw [functionNames, hdeclarations]
      exact List.mem_map_of_mem hdeclaration
    rw [h.types, h.directives hname]
  refine ⟨values (Record.outcomes grown.types grown.overrides more), ?_⟩
  rw [← hown, ← values_append]
  simp only [Record.outcomes, List.map_append]

theorem GrowsTo.prefix_commands (h : protocol.GrowsTo grown) {records grownRecords : List Record}
    {commands grownCommands : List Command}
    (hrecords : protocol.records = .ok records) (hgrown : grown.records = .ok grownRecords)
    (hcommands : protocol.commands records = .ok commands)
    (hgrownCommands : grown.commands grownRecords = .ok grownCommands) :
    commands <+: grownCommands := by
  obtain ⟨more, rfl⟩ := h.prefix_records hrecords hgrown
  rw [Protocol.commands, mapError_eq_ok] at hcommands hgrownCommands
  rw [h.commandBase] at hgrownCommands
  exact Command.prefix_of_planAll hcommands hgrownCommands

end Protocol

/-- The transfer methods of a record stand in the order of preference, each once. -/
theorem Record.transfers_of_build {registry : Registry} {declaration : Declaration}
    {directives : Override} {record : Record}
    (h : Record.build registry declaration directives = .ok record) :
    record.transfers.Sublist Transfer.all := by
  unfold Record.build at h
  obtain ⟨arguments, -, h⟩ := bind_eq_ok.mp h
  obtain ⟨strategy, -, h⟩ := bind_eq_ok.mp h
  split at h
  · obtain ⟨transfers, htransfers, h⟩ := bind_eq_ok.mp h
    rw [pure_eq_ok] at h
    subst h
    have hsublist := mapError_eq_ok.mp htransfers
    unfold Record.effectiveTransfers at hsublist
    simp only at hsublist
    -- Without a request there is one method at most; a request is put into the order.
    split at hsublist
    · split at hsublist <;> cases hsublist
      exact List.nil_sublist _
    · split at hsublist
      · cases hsublist
        refine List.singleton_sublist.mpr ?_
        split <;> decide
      · repeat' split at hsublist
        all_goals cases hsublist
        exact List.filter_sublist
  · exact absurd h throw_ne_ok

/-- Planning succeeds exactly if every record with commands is plannable, and then gives one command
for each of its transfer methods, in the order of the records and of their preference, with
consecutive ids. So a protocol that grows keeps every command as it is: as long as the ids fit into a
word, no id is given to another command. -/
theorem Protocol.commands_gapless_and_stable :
    (∀ (records : List Record) (base : Nat),
      ((∃ commands, Command.planAll records base = .ok commands) ↔
        ∀ record ∈ records, record.hasCommands = true → record.IsPlannable) ∧
      ∀ commands, Command.planAll records base = .ok commands →
        commands.map (fun command => (command.record, command.transfer)) = Command.requests records ∧
        commands.map Command.name = (Command.requests records).map Command.requestedName ∧
        commands.map Command.id = List.range' base commands.length) ∧
    ∀ (protocol : Protocol) (records : List Record), protocol.records = .ok records →
      (∀ record ∈ records, record.transfers.Sublist Transfer.all) ∧
      ∀ (grown : Protocol) (grownRecords : List Record) (commands grownCommands : List Command),
        protocol.GrowsTo grown → grown.records = .ok grownRecords →
        protocol.commands records = .ok commands → grown.commands grownRecords = .ok grownCommands →
        commands <+: grownCommands := by
  constructor
  · intro records base
    refine ⟨Command.exists_planAll_iff, fun commands h => ?_⟩
    exact ⟨Command.requests_of_planAll h, Command.names_of_planAll h, Command.ids_of_planAll h⟩
  · intro protocol records hrecords
    constructor
    · intro record hrecord
      obtain ⟨declaration, -, hbuild⟩ := Protocol.exists_build_of_records hrecords record hrecord
      exact Record.transfers_of_build hbuild
    · intro grown grownRecords commands grownCommands hgrows hgrown hcommands hgrownCommands
      exact hgrows.prefix_commands hrecords hgrown hcommands hgrownCommands

/-! ## A protocol before and after -/

def deletionOverride : Override :=
  { name := "DeleteThings", transfers := some [.shm, .immediate] }

def earlierProtocol : Protocol where
  name := "Things"
  filePrefix := "things"
  description := "A protocol that grows"
  commandBase := 256
  supportPath := "crate::support"
  types := {}
  overrides := ⟨[deletionOverride]⟩
  functions := "void Flush();\nvoid DeleteThings(GLsizei n, const GLuint* things);\n"

/-- The override of the new function comes first in the table. -/
def laterProtocol : Protocol :=
  { earlierProtocol with
    overrides := ⟨[{ name := "WaitThing", hasUnitTest := false }, deletionOverride]⟩
    functions := earlierProtocol.functions ++ "\nvoid WaitThing(GLuint thing);" }

def flushRecord : Record :=
  .merge { name := "Flush", returnType := .void, params := [], line := 1 } { name := "Flush" } []
    .direct [.shm]

def deletionParams : List Param := [
  ⟨{ base := "GLsizei" }, "n"⟩, ⟨{ isConst := true, base := "GLuint", pointerDepth := 1 }, "things"⟩]

def deletionRecord : Record :=
  .merge { name := "DeleteThings", returnType := .void, params := deletionParams, line := 2 }
    deletionOverride deletionParams .delN [.immediate, .shm]

def flushCommand : Command where
  record := flushRecord
  transfer := .shm
  name := "Flush"
  id := 256
  fields := []
  arguments := []
  count := none
  result := none
  clientId := none

/-- The deletion with its ids behind the command. -/
def deletionCommand : Command where
  record := deletionRecord
  transfer := .immediate
  name := "DeleteThingsImmediate"
  id := 257
  fields := [⟨"n", .i32⟩]
  arguments := List.zipWith Argument.mk deletionParams [.word 0 .i32, .immediate (.counted 0 1)]
  count := none
  result := none
  clientId := none

/-- The deletion with its ids in shared memory. -/
def sharedDeletionCommand : Command :=
  { deletionCommand with
    transfer := .shm
    name := "DeleteThings"
    id := 258
    fields := [⟨"n", .i32⟩, ⟨"things_shm_id", .u32⟩, ⟨"things_shm_offset", .u32⟩]
    arguments := List.zipWith Argument.mk deletionParams [.word 0 .i32, .shm 1 2 (.counted 0 1)] }

def waitParams : List Param := [⟨{ base := "GLuint" }, "thing"⟩]

def waitRecord : Record :=
  .merge { name := "WaitThing", returnType := .void, params := waitParams, line := 4 }
    { name := "WaitThing", hasUnitTest := false } waitParams .direct [.shm]

theorem records_earlier : earlierProtocol.records = .ok [flushRecord, deletionRecord] := by
  decide +kernel

theorem commands_earlier : earlierProtocol.commands [flushRecord, deletionRecord]
    = .ok [flushCommand, deletionCommand, sharedDeletionCommand] := rfl

theorem records_later : laterProtocol.records = .ok [flushRecord, deletionRecord, waitRecord] := by
  decide +kernel

theorem growsTo_later : earlierProtocol.GrowsTo laterProtocol where
  types := rfl
  commandBase := rfl
  endsLine := .inr ⟨"void Flush();\nvoid DeleteThings(GLsizei n, const GLuint* things);", rfl⟩
  functions := ⟨_, rfl⟩
  overrides := by decide +kernel

theorem isPlannable_earlier : ∀ record ∈ [flushRecord, deletionRecord], record.IsPlannable := by
  intro record hrecord
  simp only [List.mem_cons, List.not_mem_nil, or_false] at hrecord
  rcases hrecord with rfl | rfl
  · refine ⟨rfl, fun transfer htransfer => ?_⟩
    rw [List.mem_singleton.mp htransfer]
    exact ⟨0, _, rfl⟩
  · refine ⟨rfl, fun transfer htransfer => ?_⟩
    rcases List.mem_cons.mp htransfer with rfl | hshm
    · exact ⟨0, _, rfl⟩
    · rw [List.mem_singleton.mp hshm]
      exact ⟨0, _, rfl⟩

/-- The three commands of the earlier protocol keep their ids when a function is added. -/
theorem commands_stable_wait :
    (∃ commands, Command.planAll [flushRecord, deletionRecord] 256 = .ok commands) ∧
    ([flushCommand, deletionCommand, sharedDeletionCommand].map Command.id = List.range' 256 3) ∧
    ∃ grownCommands,
      laterProtocol.commands [flushRecord, deletionRecord, waitRecord] = .ok grownCommands ∧
      grownCommands.length = 4 ∧
      [flushCommand, deletionCommand, sharedDeletionCommand] <+: grownCommands := by
  have h := Protocol.commands_gapless_and_stable
  have hplanned := h.1 [flushRecord, deletionRecord] 256
  refine ⟨hplanned.1.mpr fun record hrecord _ => isPlannable_earlier record hrecord,
    (hplanned.2 _ rfl).2.2, _, rfl, rfl, ?_⟩
  exact (h.2 earlierProtocol _ records_earlier).2 laterProtocol _ _ _ growsTo_later records_later
    commands_earlier rfl

end CommandBuffer
