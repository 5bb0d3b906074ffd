import CommandBuffer.Proofs.Bundles
import CommandBuffer.Proofs.CrossReferences
import CommandBuffer.Proofs.Growth
import CommandBuffer.Proofs.SnakeForm

/-! # Names of generated functions

Writers, handlers and format tests are called by the snake form of their command's name. The method
names of functions are checked before the suffix of the transfer method is appended, and the names
of commands after it but before they are turned into snake form. So two commands can have one snake
name, but not any two: the letters of the names tell the commands of one record apart, and those of
different suffixes.
-/

namespace CommandBuffer

open Success Naming

/-! ## Method names -/

/-- No two functions of a protocol share a method name. -/
theorem Protocol.nodup_methodNames {protocol : Protocol} {records : List Record}
    (h : protocol.records = .ok records) : (records.map Record.methodName).Nodup :=
  (Record.crossCheck_eq_ok_iff.mp (crossCheck_of_records h)).1

/-! ## Snake names of commands -/

namespace Command

/-- The snake name of the command that is asked for. -/
def requestedSnakeName (request : Record × Transfer) : String :=
  Naming.snakeName (requestedName request)

/-- The two requests could be for commands of one snake name, as far as the checks of the protocol
and the suffixes of the transfer methods go. -/
def MayClash (first second : Record × Transfer) : Prop :=
  first.1 ≠ second.1 ∧ second.2 ≠ .shm ∧ (first.2 = .shm ∨ first.2 = second.2)

instance (first second : Record × Transfer) : Decidable (MayClash first second) :=
  inferInstanceAs (Decidable (_ ∧ _ ∧ _))

/-- The letters of a command's name are those of its record and of the suffix. -/
theorem letters_requestedName (request : Record × Transfer) :
    letters (requestedName request).toList
      = letters request.1.name.toList ++ letters request.2.commandSuffix.toList := by
  rw [requestedName, String.toList_append, letters_append]

theorem isNameChar_requestedName {request : Record × Transfer}
    (h : isIdentifier request.1.name.toList = true) :
    ∀ c ∈ (requestedName request).toList, Text.IsNameChar c := by
  have hsuffix : ∀ transfer : Transfer,
      (transfer.commandSuffix.toList.all fun c => isIdentifier ['_', c]) = true := by
    intro transfer
    cases transfer <;> decide
  intro c hc
  rw [requestedName, String.toList_append] at hc
  rcases List.mem_append.mp hc with hname | hmem
  · exact isNameChar_of_isIdentifier h c hname
  · exact isNameChar_of_isIdentifier (List.all_eq_true.mp (hsuffix request.2) c hmem) c (by simp)

/-- Commands of one snake name have the same letters and digits. -/
theorem letters_of_snakeName_eq {first second : Record × Transfer}
    (hfirst : isIdentifier first.1.name.toList = true)
    (hsecond : isIdentifier second.1.name.toList = true)
    (h : requestedSnakeName first = requestedSnakeName second) :
    letters first.1.name.toList ++ letters first.2.commandSuffix.toList
      = letters second.1.name.toList ++ letters second.2.commandSuffix.toList := by
  rw [← letters_requestedName, ← letters_requestedName,
    ← filter_snake (isNameChar_requestedName hfirst),
    ← filter_snake (isNameChar_requestedName hsecond)]
  rw [String.ofList_injective h]

/-- Different suffixes have different numbers of letters. -/
theorem transfer_eq_of_length {first second : Transfer}
    (h : (letters first.commandSuffix.toList).length = (letters second.commandSuffix.toList).length) :
    first = second := by
  revert h
  cases first <;> cases second <;> decide

/-- If neither suffix is empty, then their last letters differ. -/
theorem transfer_eq_of_getLast? {first second : Transfer} {start other : List Char}
    (hfirst : first ≠ .shm) (hsecond : second ≠ .shm)
    (h : start ++ letters first.commandSuffix.toList
      = other ++ letters second.commandSuffix.toList) : first = second := by
  have himmediate : (letters Transfer.immediate.commandSuffix.toList).getLast? = some 'e' := by decide
  have hbucket : (letters Transfer.bucket.commandSuffix.toList).getLast? = some 't' := by decide
  have hlast := congrArg List.getLast? h
  rw [List.getLast?_append, List.getLast?_append] at hlast
  cases first with
  | shm => exact absurd rfl hfirst
  | immediate =>
    cases second with
    | shm => exact absurd rfl hsecond
    | immediate => rfl
    | bucket => simp [himmediate, hbucket] at hlast
  | bucket =>
    cases second with
    | shm => exact absurd rfl hsecond
    | immediate => simp [himmediate, hbucket] at hlast
    | bucket => rfl

section

variable {protocol : Protocol} {records : List Record}

/-- Requests of one snake name are the same, unless they may clash. -/
theorem eq_or_mayClash (hrecords : protocol.records = .ok records)
    {first second : Record × Transfer} (hfirst : first ∈ requests records)
    (hsecond : second ∈ requests records) (h : requestedSnakeName first = requestedSnakeName second) :
    first = second ∨ MayClash first second ∨ MayClash second first := by
  rcases first with ⟨record, transfer⟩
  rcases second with ⟨other, method⟩
  have hmem := (mem_requests.mp hfirst).1
  have hother := (mem_requests.mp hsecond).1
  have hletters := letters_of_snakeName_eq
    (Protocol.isIdentifier_name_of_records hrecords record hmem)
    (Protocol.isIdentifier_name_of_records hrecords other hother) h
  by_cases hsame : record = other
  · subst hsame
    have hlength := congrArg List.length hletters
    rw [List.length_append, List.length_append] at hlength
    exact .inl (Prod.ext rfl (transfer_eq_of_length (Nat.add_left_cancel hlength)))
  · right
    by_cases hshm : method = .shm
    · by_cases hboth : transfer = .shm
      · -- Both commands are called like their functions, whose method names are apart.
        subst hshm hboth
        have hmethods : record.methodName = other.methodName := by
          simpa [requestedSnakeName, requestedName, Transfer.commandSuffix, Record.methodName,
            Naming.methodName] using h
        exact absurd (List.inj_on_of_nodup_map (Protocol.nodup_methodNames hrecords) hmem hother
          hmethods) hsame
      · exact .inr ⟨Ne.symm hsame, hboth, .inl hshm⟩
    · by_cases hboth : transfer = .shm
      · exact .inl ⟨hsame, hshm, .inl hboth⟩
      · exact .inl ⟨hsame, hshm, .inr (transfer_eq_of_getLast? hboth hshm hletters)⟩

theorem nodup_requests (hrecords : protocol.records = .ok records) : (requests records).Nodup := by
  have hnodup : (records.filter Record.hasCommands).Nodup :=
    (List.Nodup.of_map _ (Protocol.nodup_methodNames hrecords)).filter _
  unfold requests
  rw [List.nodup_flatMap]
  constructor
  · intro record hrecord
    obtain ⟨declaration, -, hbuild⟩ := Protocol.exists_build_of_records hrecords record
      (List.mem_of_mem_filter hrecord)
    have htransfers : record.transfers.Nodup :=
      (show Transfer.all.Nodup by decide).sublist (Record.transfers_of_build hbuild)
    exact htransfers.map fun first second h => (Prod.mk.inj h).2
  · refine hnodup.imp fun hne => ?_
    rintro request hfirst hsecond
    obtain ⟨_, -, rfl⟩ := List.mem_map.mp hfirst
    obtain ⟨_, -, hpair⟩ := List.mem_map.mp hsecond
    exact hne (Prod.mk.inj hpair).1.symm

/-- The snake names of the commands are apart exactly if no requests that may clash have one. -/
theorem nodup_snakeNames_iff (hrecords : protocol.records = .ok records) {commands : List Command}
    (hcommands : protocol.commands records = .ok commands) :
    (commands.map Command.snakeName).Nodup ↔
      ∀ first ∈ requests records, ∀ second ∈ requests records, MayClash first second →
        requestedSnakeName first ≠ requestedSnakeName second := by
  have hnames := names_of_planAll (mapError_eq_ok.mp hcommands)
  have hsnakes : commands.map Command.snakeName = (requests records).map requestedSnakeName := by
    have h := congrArg (List.map Naming.snakeName) hnames
    rwa [List.map_map, List.map_map] at h
  rw [hsnakes, List.nodup_map_iff_inj_on (nodup_requests hrecords)]
  constructor
  · intro h first hfirst second hsecond hclash hsame
    exact hclash.1 (congrArg Prod.fst (h first hfirst second hsecond hsame))
  · intro h first hfirst second hsecond hsame
    rcases eq_or_mayClash hrecords hfirst hsecond hsame with heq | hclash | hclash
    · exact heq
    · exact absurd hsame (h first hfirst second hsecond hclash)
    · exact absurd hsame.symm (h second hsecond first hfirst hclash)

theorem isUnmarked_snakeName (hrecords : protocol.records = .ok records) {commands : List Command}
    (hcommands : protocol.commands records = .ok commands) :
    ∀ name ∈ commands.map Command.snakeName, Code.Name.IsUnmarked name := by
  intro name hname
  obtain ⟨command, hcommand, rfl⟩ := List.mem_map.mp hname
  have hplanned := Protocol.isPlanned_of_commands hcommands command hcommand
  have hidentifier := Protocol.isIdentifier_name_of_records hrecords _ hplanned.mem
  have hcharacters :
      ∀ c ∈ (requestedName (command.record, command.transfer)).toList, Text.IsNameChar c :=
    isNameChar_requestedName hidentifier
  rw [requestedName, ← Record.name_of_plan hplanned.plan] at hcharacters
  intro hmark
  rw [snakeName, Naming.snakeName, String.toList_ofList] at hmark
  rcases isNameChar_snake hcharacters '#' hmark with halnum | hunderscore
  · exact absurd halnum (by decide)
  · exact absurd hunderscore (by decide)

end

end Command

/-! ## Names of generated functions -/

/-- The function as its name is spelled. -/
def Code.Function.spelledName (function : Code.Function) : String := function.signature.name.spelling

/-- The names of the writers, those of the handlers and those of the format tests are apart exactly
if no two commands of different functions have one snake name, one of them sent with its data behind
it or in a bucket, and the other in the same way or through shared memory. -/
theorem Protocol.function_names_apart_iff {protocol : Protocol} {records : List Record}
    {commands : List Command} (hrecords : protocol.records = .ok records)
    (hcommands : protocol.commands records = .ok commands) (validators : ValidatorSet)
    (values : Command → List Code.Expr) :
    ((commands.map fun command => command.writer.spelledName).Nodup ↔
      (commands.map Command.snakeName).Nodup) ∧
    ((commands.map fun command => (Handler.function validators command).spelledName).Nodup ↔
      (commands.map Command.snakeName).Nodup) ∧
    ((commands.map fun command => (FormatTests.test command (values command)).spelledName).Nodup ↔
      (commands.map Command.snakeName).Nodup) ∧
    ((commands.map Command.snakeName).Nodup ↔
      ∀ first ∈ Command.requests records, ∀ second ∈ Command.requests records,
        Command.MayClash first second →
          Command.requestedSnakeName first ≠ Command.requestedSnakeName second) := by
  have hunmarked := Command.isUnmarked_snakeName hrecords hcommands
  have hwriters : (commands.map fun command => command.writer.spelledName)
      = ((commands.map Command.snakeName).map Code.Name.escaped).map Code.Name.spelling := by
    simp only [List.map_map, Function.comp_def, Code.Function.spelledName, Command.writer,
      Command.writerName]
  have htests : (commands.map fun command => (FormatTests.test command (values command)).spelledName)
      = ((commands.map Command.snakeName).map Code.Name.escaped).map Code.Name.spelling := by
    simp only [List.map_map, Function.comp_def, Code.Function.spelledName, FormatTests.test]
  have hhandlers : (commands.map fun command => (Handler.function validators command).spelledName)
      = (commands.map Command.snakeName).map ("handle_" ++ ·) := by
    simp only [List.map_map, Function.comp_def, Code.Function.spelledName, Handler.function,
      Command.handlerName, Code.Name.spelling]
  have hprefixed : Function.Injective ("handle_" ++ · : String → String) :=
    fun first second h => String.append_right_inj _ |>.mp h
  rw [hwriters, htests, hhandlers, Code.Name.nodup_spelling_iff hunmarked,
    List.nodup_map_iff hprefixed]
  exact ⟨Iff.rfl, Iff.rfl, Iff.rfl, Command.nodup_snakeNames_iff hrecords hcommands⟩

/-! ## Names that are apart and names that clash -/

/-- The functions that write the commands of the earlier protocol have different names. -/
theorem function_names_apart_earlier :
    earlierProtocol.records = .ok [flushRecord, deletionRecord] ∧
    earlierProtocol.commands [flushRecord, deletionRecord]
      = .ok [flushCommand, deletionCommand, sharedDeletionCommand] ∧
    ([flushCommand, deletionCommand, sharedDeletionCommand].map
      fun command => command.writer.spelledName).Nodup := by
  refine ⟨records_earlier, commands_earlier, ?_⟩
  have h := Protocol.function_names_apart_iff records_earlier commands_earlier {} fun _ => []
  exact h.1.mpr (h.2.2.2.mpr (by decide +kernel))

def clashProtocol : Protocol :=
  { earlierProtocol with
    overrides := {}
    functions := "void DeleteThings(GLsizei n, const GLuint* things);
    void DeleteThings_Immediate(GLuint thing);" }

def massDeletionRecord : Record :=
  .merge { name := "DeleteThings", returnType := .void, params := deletionParams, line := 1 }
    { name := "DeleteThings" } deletionParams .delN [.immediate]

def immediateDeletionRecord : Record :=
  .merge { name := "DeleteThings_Immediate", returnType := .void, params := waitParams, line := 2 }
    { name := "DeleteThings_Immediate" } waitParams .direct [.shm]

def massDeletionCommand : Command where
  record := massDeletionRecord
  transfer := .immediate
  name := "DeleteThingsImmediate"
  id := 256
  fields := [⟨"n", .i32⟩]
  arguments := List.zipWith Argument.mk deletionParams [.word 0 .i32, .immediate (.counted 0 1)]
  count := none
  result := none
  clientId := none

def immediateDeletionCommand : Command where
  record := immediateDeletionRecord
  transfer := .shm
  name := "DeleteThings_Immediate"
  id := 257
  fields := [⟨"thing", .u32⟩]
  arguments := List.zipWith Argument.mk waitParams [.word 0 .u32]
  count := none
  result := none
  clientId := none

def clashBlueprint : Blueprint where
  protocol := clashProtocol
  records := [massDeletionRecord, immediateDeletionRecord]
  validators := {}
  commands := [massDeletionCommand, immediateDeletionCommand]
  support := { segments := [{ name := "crate" }, { name := "support" }] }

theorem records_clash : clashProtocol.records = .ok clashBlueprint.records := by decide +kernel

theorem commands_clash :
    clashProtocol.commands clashBlueprint.records = .ok clashBlueprint.commands := rfl

/-- All artifacts are emitted, with two writers, two handlers and two tests of one name. -/
theorem function_names_clash_deletion :
    clashProtocol.blueprint = .ok clashBlueprint ∧ clashBlueprint.bundle.isOk = true ∧
    clashBlueprint.commands.map (fun command => command.writer.spelledName)
      = ["delete_things_immediate", "delete_things_immediate"] ∧
    clashBlueprint.commands.map (fun command => (Handler.function {} command).spelledName)
      = ["handle_delete_things_immediate", "handle_delete_things_immediate"] ∧
    ¬ (clashBlueprint.commands.map Command.snakeName).Nodup :=
  ⟨Protocol.blueprint_eq_ok records_clash commands_clash Protocol.ofText?_support, by decide +kernel,
    by decide +kernel, by decide +kernel, by decide +kernel⟩

end CommandBuffer
