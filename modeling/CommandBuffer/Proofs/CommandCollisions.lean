import CommandBuffer.Proofs.CommandNames
import CommandBuffer.Proofs.CommandTable
import CommandBuffer.Proofs.Spelling.Words

/-! # Collisions of planned commands

The planner numbers its commands without a gap, so no id is repeated. A name can be: the names of
functions are apart, but a command that sends the data of a function behind it or in a bucket has a
suffix, and another function can be called like that. Its own command through shared memory has no
suffix. The table is then refused with the name that two commands have.
-/

namespace CommandBuffer

open Success

namespace Command

variable {protocol : Protocol} {records : List Record} {commands earlier : List Command}

/-! ## Names of requests -/

theorem requestedName_shm (record : Record) : requestedName (record, .shm) = record.name :=
  String.append_empty

/-- Requests of one name are the same, unless one of them is sent through shared memory and the
other is not. -/
theorem eq_of_requestedName (hrecords : protocol.records = .ok records)
    {first second : Record × Transfer} (hfirst : first ∈ requests records)
    (hsecond : second ∈ requests records) (h : requestedName first = requestedName second) :
    first = second ∨ (first.2 = .shm ∧ second.2 ≠ .shm) ∨ (second.2 = .shm ∧ first.2 ≠ .shm) := by
  -- The same suffix is cut off both names, and no two functions have one name.
  have hapart : first.2 = second.2 → first.1 = second.1 := by
    intro hsame
    rw [requestedName, requestedName, hsame, String.append_left_inj] at h
    exact List.inj_on_of_nodup_map (Protocol.nodup_methodNames hrecords) (mem_requests.mp hfirst).1
      (mem_requests.mp hsecond).1 (congrArg Naming.methodName h)
  rcases eq_or_mayClash hrecords hfirst hsecond (congrArg Naming.snakeName h) with
    heq | ⟨hne, hsuffix, hshm | hsame⟩ | ⟨hne, hsuffix, hshm | hsame⟩
  · exact .inl heq
  · exact .inr (.inl ⟨hshm, hsuffix⟩)
  · exact absurd (hapart hsame) hne
  · exact .inr (.inr ⟨hshm, hsuffix⟩)
  · exact absurd (hapart hsame.symm).symm hne

/-- The names are apart exactly if no function is called like a command with a suffix. -/
theorem nodup_names_iff (hrecords : protocol.records = .ok records)
    (hcommands : protocol.commands records = .ok commands) :
    (commands.map Command.name).Nodup ↔
      ∀ first ∈ requests records, ∀ second ∈ requests records,
        first.2 ≠ .shm → second.2 = .shm → second.1.name ≠ requestedName first := by
  rw [names_of_planAll (mapError_eq_ok.mp hcommands),
    List.nodup_map_iff_inj_on (nodup_requests hrecords)]
  constructor
  · rintro h first hfirst ⟨record, transfer⟩ hsecond hsuffix rfl hsame
    have hequal := h first hfirst _ hsecond (hsame.symm.trans (requestedName_shm record).symm)
    exact hsuffix (congrArg Prod.snd hequal)
  · intro h first hfirst second hsecond hsame
    rcases eq_of_requestedName hrecords hfirst hsecond hsame with
      heq | ⟨hshm, hsuffix⟩ | ⟨hshm, hsuffix⟩
    · exact heq
    · refine absurd ?_ (h second hsecond first hfirst hsuffix hshm)
      rw [← hsame, requestedName, hshm]
      exact (String.append_empty).symm
    · refine absurd ?_ (h first hfirst second hsecond hsuffix hshm)
      rw [hsame, requestedName, hshm]
      exact (String.append_empty).symm

/-! ## What the scan reports -/

/-- If no id is repeated, then the scan reports a name that occurs twice. -/
theorem exists_repeatedCommand (hids : (commands.map Command.id).Nodup)
    (hnew : ∀ command ∈ commands, ∀ other ∈ earlier, other.id ≠ command.id) {cause : Collision}
    (h : collision? earlier commands = some cause) :
    ∃ name, cause = .repeatedCommand name ∧
      1 < (earlier.map Command.name).count name + (commands.map Command.name).count name := by
  induction commands generalizing earlier with
  | nil => cases h
  | cons command rest ih =>
    rw [List.map_cons, List.nodup_cons] at hids
    rw [List.forall_mem_cons] at hnew
    rw [collision?] at h
    have hfresh : earlier.find? (·.id == command.id) = none := by
      simpa [List.find?_eq_none] using hnew.1
    simp only [hfresh] at h
    by_cases hknown : earlier.any (·.name == command.name)
    · simp only [hknown, if_true, Option.some.injEq] at h
      refine ⟨command.name, h.symm, ?_⟩
      have hbefore : command.name ∈ earlier.map Command.name := by
        simpa using hknown
      have hcount := List.count_pos_iff.mpr hbefore
      rw [List.map_cons, List.count_cons_self]
      omega
    · simp only [hknown, Bool.false_eq_true, if_false] at h
      obtain ⟨name, hcause, hcount⟩ := ih hids.2 (fun later hlater =>
        List.forall_mem_cons.mpr ⟨fun hsame => hids.1 (hsame ▸ List.mem_map_of_mem hlater),
          hnew.2 later hlater⟩) h
      refine ⟨name, hcause, ?_⟩
      rw [List.map_cons, List.count_cons] at hcount ⊢
      omega

/-! ## Names of planned commands -/

/-- A suffix keeps the name of a function an identifier. -/
theorem isIdentifier_name (hrecords : protocol.records = .ok records)
    (hcommands : protocol.commands records = .ok commands) :
    ∀ command ∈ commands, Naming.isIdentifier command.name.toList = true := by
  intro command hcommand
  have hplanned := Protocol.isPlanned_of_commands hcommands command hcommand
  have hrecord := Protocol.isIdentifier_name_of_records hrecords _ hplanned.mem
  have hcharacters : ∀ c ∈ (requestedName (command.record, command.transfer)).toList,
      Text.IsNameChar c := isNameChar_requestedName hrecord
  rw [Record.name_of_plan hplanned.plan, String.toList_append]
  refine Code.Name.isIdentifier_append hrecord fun c hc => hcharacters c ?_
  rw [requestedName, String.toList_append]
  exact List.mem_append_right _ hc

end Command

/-! ## Names that two functions give -/

/-- The names of planned commands are apart exactly if no function with a command of its own name is
called like the command that sends the data of a function behind it or in a bucket. Then the table
is emitted. Otherwise it is refused, with a name that two commands have. -/
theorem Protocol.command_names_distinct_iff {protocol : Protocol} {records : List Record}
    {commands : List Command} (hrecords : protocol.records = .ok records)
    (hcommands : protocol.commands records = .ok commands) :
    ((commands.map Command.name).Nodup ↔
      ∀ first ∈ Command.requests records, ∀ second ∈ Command.requests records,
        first.2 ≠ .shm → second.2 = .shm →
          second.1.name ≠ first.1.name ++ first.2.commandSuffix) ∧
    ∀ blueprint : Blueprint, blueprint.commands = commands →
      ((∃ code, blueprint.commandTable = .ok code) ↔ (commands.map Command.name).Nodup) ∧
      (¬ (commands.map Command.name).Nodup → ∃ name, 1 < (commands.map Command.name).count name ∧
        blueprint.commandTable = .error (.rejected (.collision (.repeatedCommand name)))) := by
  refine ⟨Command.nodup_names_iff hrecords hcommands, ?_⟩
  rintro blueprint rfl
  have hids : (blueprint.commands.map Command.id).Nodup := by
    rw [Command.ids_of_planAll (mapError_eq_ok.mp hcommands)]
    exact List.nodup_range'
  have hemitted := CommandTable.exists_commandTable_iff fun command hcommand =>
    Code.Name.isPossible_verbatim (Command.isIdentifier_name hrecords hcommands command hcommand)
  rw [and_iff_right hids] at hemitted
  refine ⟨hemitted, fun hrepeated => ?_⟩
  cases hscan : Command.collision? [] blueprint.commands with
  | none => exact absurd (Command.collision?_eq_none_iff.mp hscan).2.1 hrepeated
  | some cause =>
    obtain ⟨name, rfl, hcount⟩ := Command.exists_repeatedCommand hids (by simp) hscan
    refine ⟨name, by simpa using hcount, ?_⟩
    rw [Blueprint.commandTable, hscan]

/-- No function of the earlier protocol is called like a command of the deletion. -/
theorem command_names_distinct_earlier :
    earlierProtocol.records = .ok [flushRecord, deletionRecord] ∧
    earlierProtocol.commands [flushRecord, deletionRecord]
      = .ok [flushCommand, deletionCommand, sharedDeletionCommand] ∧
    ([flushCommand, deletionCommand, sharedDeletionCommand].map Command.name).Nodup ∧
    ∃ code, deletionsBlueprint.commandTable = .ok code := by
  have h := Protocol.command_names_distinct_iff records_earlier commands_earlier
  have hnames := h.1.mpr (by decide +kernel)
  exact ⟨records_earlier, commands_earlier, hnames, (h.2 deletionsBlueprint rfl).1.mpr hnames⟩

/-- The second function is called like the command of the first one. -/
def shadowProtocol : Protocol :=
  { clashProtocol with
    functions := "void DeleteThings(GLsizei n, const GLuint* things);
    void DeleteThingsImmediate(GLuint thing);" }

def shadowRecord : Record :=
  .merge { name := "DeleteThingsImmediate", returnType := .void, params := waitParams, line := 2 }
    { name := "DeleteThingsImmediate" } waitParams .direct [.shm]

def shadowBlueprint : Blueprint :=
  { clashBlueprint with
    protocol := shadowProtocol
    records := [massDeletionRecord, shadowRecord]
    commands := [massDeletionCommand,
      { immediateDeletionCommand with record := shadowRecord, name := "DeleteThingsImmediate" }] }

theorem records_shadow : shadowProtocol.records = .ok shadowBlueprint.records := by decide +kernel

theorem commands_shadow :
    shadowProtocol.commands shadowBlueprint.records = .ok shadowBlueprint.commands := rfl

/-- Both functions are accepted and their commands are planned, with one name. -/
theorem command_names_collide_deletion :
    shadowProtocol.blueprint = .ok shadowBlueprint ∧
    shadowBlueprint.commands.map Command.name = ["DeleteThingsImmediate", "DeleteThingsImmediate"] ∧
    ¬ (shadowBlueprint.commands.map Command.name).Nodup ∧
    shadowBlueprint.commandTable
      = .error (.rejected (.collision (.repeatedCommand "DeleteThingsImmediate"))) :=
  ⟨Protocol.blueprint_eq_ok records_shadow commands_shadow Protocol.ofText?_support, rfl,
    by decide, rfl⟩

end CommandBuffer
