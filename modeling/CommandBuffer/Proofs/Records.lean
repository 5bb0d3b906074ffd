import CommandBuffer.Pipeline
import CommandBuffer.Proofs.Names
import CommandBuffer.Proofs.Outcome
import Mathlib.Tactic.ByContra

/-! # The records and commands of a protocol

Whatever reaches the emitters came through the signature reader, the record builder
and the planner. Their guards leave traces in every record: the names of its
arguments are identifiers, its data units were asked for by an override, and data
travels behind a command only if it is that of a single pointer.
-/

namespace CommandBuffer

open Success

/-! ## Signatures -/

namespace SignatureFile

/-- A name that is split off a text is an identifier, if it is there. -/
theorem isIdentifier_of_splitTrailingIdentifier {text start name : List Char}
    (h : splitTrailingIdentifier text = (start, name)) (hname : name.isEmpty = false) :
    Naming.isIdentifier name = true := by
  unfold splitTrailingIdentifier at h
  simp only at h
  split at h
  · cases h
    cases hname
  · rename_i hident
    cases h
    by_contra hnot
    refine hident ⟨?_, hnot⟩
    intro hnil
    rw [hnil] at hname
    cases hname

theorem isIdentifier_of_readParam {registry : Registry} {text : List Char} {param : Param}
    (h : readParam registry text = .ok param) : Naming.isIdentifier param.name.toList = true := by
  unfold readParam at h
  simp only [] at h
  split at h
  · cases h
  · -- A name that is read is the one that the text was split at.
    generalize hsplit : splitTrailingIdentifier text = pieces at h
    rcases pieces with ⟨type, name⟩
    simp only at h
    split at h
    · cases h
    · rename_i hname
      split at h
      · cases h
      · obtain ⟨type, -, rfl⟩ := map_eq_ok.mp h
        rw [String.toList_ofList]
        exact isIdentifier_of_splitTrailingIdentifier hsplit (by simpa using hname)

theorem isIdentifier_of_readParams {registry : Registry} {text : List Char} {params : List Param}
    (h : readParams registry text = .ok params) :
    ∀ param ∈ params, Naming.isIdentifier param.name.toList = true := by
  intro param hparam
  unfold readParams at h
  simp only at h
  split at h
  · cases h
    cases hparam
  · obtain ⟨piece, -, hpiece⟩ := exists_of_mem_mapM h hparam
    exact isIdentifier_of_readParam hpiece

/-- The parameters of a declaration are a list that was read. -/
theorem exists_readParams_of_readDeclaration {registry : Registry} {line : Nat}
    {content : List Char} {declaration : Declaration}
    (h : readDeclaration registry line content = .ok declaration) :
    ∃ text, readParams registry text = .ok declaration.params := by
  unfold readDeclaration at h
  simp only at h
  repeat' split at h
  all_goals cases h
  rename_i params hparams
  exact ⟨_, hparams⟩

theorem isIdentifier_of_readDeclaration {registry : Registry} {line : Nat} {content : List Char}
    {declaration : Declaration} (h : readDeclaration registry line content = .ok declaration) :
    ∀ param ∈ declaration.params, Naming.isIdentifier param.name.toList = true := by
  obtain ⟨text, hparams⟩ := exists_readParams_of_readDeclaration h
  exact isIdentifier_of_readParams hparams

/-- A function is called by an identifier. -/
theorem isIdentifier_name_of_readDeclaration {registry : Registry} {line : Nat}
    {content : List Char} {declaration : Declaration}
    (h : readDeclaration registry line content = .ok declaration) :
    Naming.isIdentifier declaration.name.toList = true := by
  unfold readDeclaration at h
  simp only at h
  split at h
  · cases h
  · rename_i head rest _
    generalize hsplit : splitTrailingIdentifier (Text.trimEnd head) = pieces at h
    rcases pieces with ⟨returnText, name⟩
    repeat' split at h
    all_goals cases h
    rw [String.toList_ofList]
    exact isIdentifier_of_splitTrailingIdentifier hsplit (by simpa using ‹¬name.isEmpty = true›)

theorem exists_of_mem_readLines {registry : Registry} {accepted : List Declaration}
    {lines : List (List Char × Nat)} {declaration : Declaration}
    (h : .ok declaration ∈ readLines registry accepted lines) :
    ∃ line content, readDeclaration registry line content = .ok declaration := by
  induction lines generalizing accepted with
  | nil => cases h
  | cons numbered rest ih =>
    rcases numbered with ⟨raw, line⟩
    rw [readLines] at h
    split at h
    · exact ih h
    · split at h
      · rcases List.mem_cons.mp h with hhead | htail
        · cases hhead
        · exact ih htail
      · rename_i read hread
        split at h
        · rcases List.mem_cons.mp h with hhead | htail
          · cases hhead
          · exact ih htail
        · rcases List.mem_cons.mp h with hhead | htail
          · cases hhead
            exact ⟨line, _, hread⟩
          · exact ih htail

end SignatureFile

/-! ## Records -/

namespace Record

theorem isIdentifier_of_effectiveArguments {registry : Registry} {declaration : Declaration}
    {directives : Override} {arguments : List Param}
    (hparams : ∀ param ∈ declaration.params, Naming.isIdentifier param.name.toList = true)
    (h : effectiveArguments registry declaration directives = .ok arguments) :
    ∀ param ∈ arguments, Naming.isIdentifier param.name.toList = true := by
  unfold effectiveArguments at h
  split at h
  · cases h
    exact hparams
  · exact SignatureFile.isIdentifier_of_readParams (mapError_eq_ok.mp h)

/-- A record is merged from what its directives ask for, without an objection. -/
theorem exists_merge_of_build {registry : Registry} {declaration : Declaration}
    {directives : Override} {record : Record}
    (h : build registry declaration directives = .ok record) :
    ∃ arguments strategy transfers,
      effectiveArguments registry declaration directives = .ok arguments ∧
      effectiveStrategy declaration arguments directives = .ok strategy ∧
      objections declaration directives arguments strategy = [] ∧
      effectiveTransfers declaration.name strategy directives.transfers
        (arguments.countP (·.type.isPointer)) = .ok transfers ∧
      record = merge declaration directives arguments strategy transfers := by
  unfold build at h
  obtain ⟨arguments, harguments, h⟩ := bind_eq_ok.mp h
  obtain ⟨strategy, hstrategy, h⟩ := bind_eq_ok.mp h
  split at h
  · rename_i hobjections
    obtain ⟨transfers, htransfers, h⟩ := bind_eq_ok.mp h
    rw [mapError_eq_ok] at harguments hstrategy htransfers
    exact ⟨arguments, strategy, transfers, harguments, hstrategy, hobjections, htransfers,
      (pure_eq_ok.mp h).symm⟩
  · exact absurd h throw_ne_ok

/-- Data travels behind a command only if there is one pointer argument. -/
theorem countP_isPointer_of_immediate {function : String} {strategy : Strategy}
    {requested : Option (List Transfer)} {pointers : Nat} {transfers : List Transfer}
    (h : effectiveTransfers function strategy requested pointers = .ok transfers)
    (himmediate : .immediate ∈ transfers) : pointers = 1 := by
  unfold effectiveTransfers at h
  simp only at h
  by_contra hpointers
  split at h
  · split at h <;> cases h
    cases himmediate
  · split at h
    · cases h
      simp [hpointers] at himmediate
    · split at h
      · cases h
      · split at h
        · cases h
        · split at h
          · cases h
          · rename_i hguard
            cases h
            exact hguard ⟨himmediate, hpointers⟩

/-- What the builder establishes about a record. -/
structure IsBuilt (protocol : Protocol) (record : Record) : Prop where
  isIdentifier : ∀ param ∈ record.arguments, Naming.isIdentifier param.name.toList = true
  countRequested : ∀ sizing units, record.packing.putSizing = some sizing →
    sizing.count = some units → ∃ directives ∈ protocol.overrides.entries,
      directives.count = some units
  onePointer : .immediate ∈ record.transfers → record.arguments.countP (·.type.isPointer) = 1

theorem count_of_putSizing {directives : Override} {strategy : Strategy} {sizing : PutSizing}
    (h : (packingFor directives strategy).putSizing = some sizing) :
    sizing.count = directives.count := by
  cases strategy <;> cases h <;> rfl

theorem count_directives {overrides : OverrideTable} {name : String} {units : Nat}
    (h : (overrides.directives name).count = some units) :
    ∃ directives ∈ overrides.entries, directives.count = some units := by
  unfold OverrideTable.directives at h
  cases hget : overrides.get? name with
  | none =>
    rw [hget] at h
    cases h
  | some entry =>
    rw [hget] at h
    exact ⟨entry, List.mem_of_find?_eq_some hget, h⟩

theorem isBuilt_of_build {protocol : Protocol} {declaration : Declaration} {record : Record}
    (hparams : ∀ param ∈ declaration.params, Naming.isIdentifier param.name.toList = true)
    (h : build protocol.types declaration (protocol.overrides.directives declaration.name)
      = .ok record) : record.IsBuilt protocol := by
  unfold build at h
  obtain ⟨arguments, harguments, h⟩ := bind_eq_ok.mp h
  obtain ⟨strategy, -, h⟩ := bind_eq_ok.mp h
  split at h
  · obtain ⟨transfers, htransfers, h⟩ := bind_eq_ok.mp h
    rw [mapError_eq_ok] at harguments htransfers
    rw [pure_eq_ok] at h
    subst h
    exact {
      isIdentifier := isIdentifier_of_effectiveArguments hparams harguments
      countRequested := fun sizing units hsizing hunits =>
        count_directives ((count_of_putSizing hsizing).symm.trans hunits)
      onePointer := countP_isPointer_of_immediate htransfers }
  · exact absurd h throw_ne_ok

/-- A record keeps the name and the parameters of its declaration. -/
theorem declared_of_build {registry : Registry} {declaration : Declaration}
    {directives : Override} {record : Record}
    (h : build registry declaration directives = .ok record) :
    record.name = declaration.name ∧ record.declared = declaration.params := by
  unfold build at h
  obtain ⟨arguments, -, h⟩ := bind_eq_ok.mp h
  obtain ⟨strategy, -, h⟩ := bind_eq_ok.mp h
  split at h
  · obtain ⟨transfers, -, h⟩ := bind_eq_ok.mp h
    rw [pure_eq_ok] at h
    subst h
    exact ⟨rfl, rfl⟩
  · exact absurd h throw_ne_ok

/-- A declaration is refused for a reason. -/
theorem ne_nil_of_build {registry : Registry} {declaration : Declaration}
    {directives : Override} {errors : List MergeError}
    (h : build registry declaration directives = .error errors) : errors ≠ [] := by
  have hsingle : ∀ {α : Type} {step : Except MergeError α},
      step.mapError ([·]) = .error errors → errors ≠ [] := by
    intro α step hstep
    obtain ⟨error, -, rfl⟩ := mapError_eq_error.mp hstep
    exact List.cons_ne_nil _ _
  unfold build at h
  rcases bind_eq_error.mp h with harguments | ⟨arguments, -, h⟩
  · exact hsingle harguments
  rcases bind_eq_error.mp h with hstrategy | ⟨strategy, -, h⟩
  · exact hsingle hstrategy
  split at h
  · rcases bind_eq_error.mp h with htransfers | ⟨transfers, -, h⟩
    · exact hsingle htransfers
    · cases h
  · rename_i hobjections
    intro hnil
    exact hobjections ((Except.error.inj h).trans hnil)

end Record

/-! ## Protocols -/

namespace Protocol

/-- The records of a protocol are those of its declarations, each with its directives. -/
theorem exists_outcomes_of_records {protocol : Protocol} {records : List Record}
    (h : protocol.records = .ok records) : ∃ declarations,
      protocol.declarations = .ok declarations ∧
      records = Outcome.values (Record.outcomes protocol.types protocol.overrides declarations) := by
  obtain ⟨unchecked, hunchecked, h⟩ := bind_eq_ok.mp h
  obtain ⟨-, -, h⟩ := bind_eq_ok.mp h
  rw [pure_eq_ok] at h
  subst h
  obtain ⟨declarations, hdeclarations, hbuild⟩ := bind_eq_ok.mp hunchecked
  exact ⟨declarations, hdeclarations, Outcome.values_of_collectAll (mapError_eq_ok.mp hbuild)⟩

/-- Every declaration has become a record. -/
theorem exists_builds_of_records {protocol : Protocol} {records : List Record}
    (h : protocol.records = .ok records) : ∃ declarations,
      protocol.declarations = .ok declarations ∧
      declarations.map (fun declaration => Record.build protocol.types declaration
        (protocol.overrides.directives declaration.name)) = records.map .ok := by
  obtain ⟨unchecked, hunchecked, h⟩ := bind_eq_ok.mp h
  obtain ⟨-, -, h⟩ := bind_eq_ok.mp h
  obtain ⟨declarations, hdeclarations, hbuild⟩ := bind_eq_ok.mp hunchecked
  rw [pure_eq_ok] at h
  subst h
  refine ⟨declarations, hdeclarations, ?_⟩
  refine Outcome.eq_map_ok_of_collectAll ?_ (mapError_eq_ok.mp hbuild)
  intro errors herrors
  obtain ⟨declaration, -, hrefused⟩ := List.mem_map.mp herrors
  exact Record.ne_nil_of_build hrefused

/-- Every record of a protocol was built from a declaration that was read. -/
theorem exists_read_of_records {protocol : Protocol} {records : List Record}
    (h : protocol.records = .ok records) : ∀ record ∈ records, ∃ declaration : Declaration,
      (∃ line content,
        SignatureFile.readDeclaration protocol.types line content = .ok declaration) ∧
      Record.build protocol.types declaration (protocol.overrides.directives declaration.name)
        = .ok record := by
  intro record hrecord
  obtain ⟨declarations, hdeclarations, rfl⟩ := exists_outcomes_of_records h
  rw [Outcome.mem_values] at hrecord
  obtain ⟨declaration, hdeclaration, houtcome⟩ := List.mem_map.mp hrecord
  have hread := mapError_eq_ok.mp hdeclarations
  rw [Outcome.values_of_collect hread, Outcome.mem_values] at hdeclaration
  exact ⟨declaration, SignatureFile.exists_of_mem_readLines hdeclaration, houtcome⟩

/-- Every record of a protocol was built from one of its declarations. -/
theorem exists_build_of_records {protocol : Protocol} {records : List Record}
    (h : protocol.records = .ok records) : ∀ record ∈ records, ∃ declaration : Declaration,
      (∀ param ∈ declaration.params, Naming.isIdentifier param.name.toList = true) ∧
      Record.build protocol.types declaration (protocol.overrides.directives declaration.name)
        = .ok record := by
  intro record hrecord
  obtain ⟨declaration, ⟨line, content, hread⟩, hbuild⟩ := exists_read_of_records h record hrecord
  exact ⟨declaration, SignatureFile.isIdentifier_of_readDeclaration hread, hbuild⟩

/-- The wire arguments of a record are a list that was read: the declared one, or that of an
override. -/
theorem exists_readParams_of_records {protocol : Protocol} {records : List Record}
    (h : protocol.records = .ok records) : ∀ record ∈ records, ∃ text,
      SignatureFile.readParams protocol.types text = .ok record.arguments := by
  intro record hrecord
  obtain ⟨declaration, ⟨line, content, hread⟩, hbuild⟩ := exists_read_of_records h record hrecord
  obtain ⟨arguments, strategy, transfers, harguments, -, -, -, rfl⟩ :=
    Record.exists_merge_of_build hbuild
  unfold Record.effectiveArguments at harguments
  split at harguments
  · cases harguments
    exact SignatureFile.exists_readParams_of_readDeclaration hread
  · exact ⟨_, mapError_eq_ok.mp harguments⟩

theorem isBuilt_of_records {protocol : Protocol} {records : List Record}
    (h : protocol.records = .ok records) : ∀ record ∈ records, record.IsBuilt protocol := by
  intro record hrecord
  obtain ⟨declaration, hparams, hbuild⟩ := exists_build_of_records h record hrecord
  exact Record.isBuilt_of_build hparams hbuild

/-- The parameters that a client passes are called by identifiers. -/
theorem isIdentifier_of_records {protocol : Protocol} {records : List Record}
    (h : protocol.records = .ok records) : ∀ record ∈ records, ∀ param ∈ record.declared,
      Naming.isIdentifier param.name.toList = true := by
  intro record hrecord
  obtain ⟨declaration, hparams, hbuild⟩ := exists_build_of_records h record hrecord
  rw [(Record.declared_of_build hbuild).2]
  exact hparams

/-- Functions are called by identifiers. -/
theorem isIdentifier_name_of_records {protocol : Protocol} {records : List Record}
    (h : protocol.records = .ok records) :
    ∀ record ∈ records, Naming.isIdentifier record.name.toList = true := by
  intro record hrecord
  obtain ⟨declaration, ⟨line, content, hread⟩, hbuild⟩ := exists_read_of_records h record hrecord
  rw [(Record.declared_of_build hbuild).1]
  exact SignatureFile.isIdentifier_name_of_readDeclaration hread

end Protocol

/-! ## Commands -/

namespace Command

/-- The command was planned for a record without objections. -/
structure IsPlanned (records : List Record) (command : Command) : Prop where
  mem : command.record ∈ records
  hasCommands : command.record.hasCommands = true
  transfer : command.transfer ∈ command.record.transfers
  plannable : command.record.planningError? = none
  plan : command.record.plan command.transfer command.id = .ok command

end Command

namespace Record

theorem record_of_plan {record : Record} {transfer : Transfer} {id : Nat} {command : Command}
    (h : record.plan transfer id = .ok command) :
    command.record = record ∧ command.transfer = transfer ∧ command.id = id := by
  unfold plan at h
  obtain ⟨⟨arguments, list⟩, -, h⟩ := bind_eq_ok.mp h
  obtain ⟨⟨count, list⟩, -, h⟩ := bind_eq_ok.mp h
  obtain ⟨⟨result, list⟩, -, h⟩ := bind_eq_ok.mp h
  obtain ⟨⟨clientId, list⟩, -, h⟩ := bind_eq_ok.mp h
  cases pure_eq_ok.mp h
  exact ⟨rfl, rfl, rfl⟩

end Record

namespace Command

theorem isPlanned_of_mem_outcomes {records : List Record} {id : Nat} {command : Command}
    (h : .ok command ∈ outcomes id records) : command.IsPlanned records := by
  induction records generalizing id with
  | nil => cases h
  | cons record rest ih =>
    -- What holds of the commands of the other records holds of a longer list.
    have hrest : ∀ id, .ok command ∈ outcomes id rest → command.IsPlanned (record :: rest) := by
      intro id hmem
      exact { ih hmem with mem := List.mem_cons_of_mem _ (ih hmem).mem }
    rw [outcomes] at h
    split at h
    · exact hrest _ h
    · rename_i hcommands
      split at h
      · rcases List.mem_cons.mp h with hhead | htail
        · cases hhead
        · exact hrest _ htail
      · rename_i hplannable
        rcases List.mem_append.mp h with hown | hother
        · obtain ⟨⟨transfer, own⟩, htransfer, hplan⟩ := List.mem_map.mp hown
          obtain ⟨rfl, rfl, rfl⟩ := Record.record_of_plan hplan
          exact {
            mem := List.mem_cons_self
            hasCommands := by simpa using hcommands
            transfer := List.fst_mem_of_mem_zipIdx htransfer
            plannable := hplannable
            plan := hplan }
        · exact hrest _ hother

end Command

namespace Protocol

/-- Every command of a protocol was planned for one of its records. -/
theorem isPlanned_of_commands {protocol : Protocol} {records : List Record}
    {commands : List Command} (h : protocol.commands records = .ok commands) :
    ∀ command ∈ commands, command.IsPlanned records := by
  intro command hcommand
  have hplan := mapError_eq_ok.mp h
  rw [Outcome.values_of_collect hplan, Outcome.mem_values] at hcommand
  exact Command.isPlanned_of_mem_outcomes hcommand

end Protocol
end CommandBuffer
