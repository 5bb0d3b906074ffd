import CommandBuffer.Generation
import CommandBuffer.Proofs.Outcome

/-! # What commands are planned and written without

A record carries its line and eight directives for clients and tests. They stand in its margin:
neither the planner nor any artifact of the wire or of the service reads them, so records that
differ in nothing else have the same commands, and these are written alike.
-/

namespace CommandBuffer

open Code Success

/-! ## Margins -/

namespace Record

/-- What a record carries besides what its commands depend on. -/
structure Margin where
  line : Nat
  hasClientEntry : Bool
  hasGeneratedMarshal : Bool
  isInternal : Bool
  hasUnitTest : Bool
  hasClientTest : Bool
  expectsCall : Bool
  hasInvalidTest : Bool
  expectedCall : Option String

/-- The record with another margin. -/
def remargin (margin : Record → Margin) (record : Record) : Record :=
  { record with
    line := (margin record).line
    hasClientEntry := (margin record).hasClientEntry
    hasGeneratedMarshal := (margin record).hasGeneratedMarshal
    isInternal := (margin record).isInternal
    hasUnitTest := (margin record).hasUnitTest
    hasClientTest := (margin record).hasClientTest
    expectsCall := (margin record).expectsCall
    hasInvalidTest := (margin record).hasInvalidTest
    expectedCall := (margin record).expectedCall }

end Record

variable {margin : Record → Record.Margin}

/-- The command of a record with another margin. -/
def Command.remargin (margin : Record → Record.Margin) (command : Command) : Command :=
  { command with record := command.record.remargin margin }

/-! ## Commands -/

namespace Record

theorem planArguments_remargin (record : Record) (transfer : Transfer) (index : Nat)
    (params : List Param) (list : FieldList) :
    (record.remargin margin).planArguments transfer index params list
      = record.planArguments transfer index params list := by
  induction params generalizing index list with
  | nil => rfl
  | cons param rest ih =>
    simp only [planArguments, ih]
    rfl

theorem plan_remargin (record : Record) (transfer : Transfer) (id : Nat) :
    (record.remargin margin).plan transfer id
      = (record.plan transfer id).map (Command.remargin margin) := by
  have hcount : (record.remargin margin).planCount = record.planCount := rfl
  have hresult : (record.remargin margin).planResult = record.planResult := rfl
  have hclientId : (record.remargin margin).planClientId = record.planClientId := rfl
  have harguments : (record.remargin margin).arguments = record.arguments := rfl
  have hname : (record.remargin margin).name = record.name := rfl
  unfold plan
  simp only [planArguments_remargin, hcount, hresult, hclientId, harguments, hname]
  cases record.planArguments transfer 0 record.arguments
      { command := record.name ++ transfer.commandSuffix } with
  | error error => rfl
  | ok laidOut =>
    obtain ⟨arguments, list⟩ := laidOut
    simp only [bind, Except.bind]
    cases record.planCount list with
    | error error => rfl
    | ok counted =>
      obtain ⟨count, list⟩ := counted
      simp only
      cases record.planResult list with
      | error error => rfl
      | ok located =>
        obtain ⟨result, list⟩ := located
        simp only
        cases record.planClientId list <;> rfl

end Record

namespace Command

theorem outcomes_remargin (id : Nat) (records : List Record) :
    outcomes id (records.map (Record.remargin margin))
      = (outcomes id records).map (·.map (remargin margin)) := by
  induction records generalizing id with
  | nil => rfl
  | cons record rest ih =>
    have hcommands : (record.remargin margin).hasCommands = record.hasCommands := rfl
    have herror : (record.remargin margin).planningError? = record.planningError? := rfl
    have hplans : (record.remargin margin).planTransfers id record.transfers
        = (record.planTransfers id record.transfers).map (·.map (remargin margin)) := by
      simp only [Record.planTransfers, Record.plan_remargin, List.map_map]
      rfl
    rw [List.map_cons, outcomes, outcomes, hcommands, herror]
    split
    · exact ih id
    · split
      · rw [ih]
        rfl
      · rw [List.map_append, ← hplans, ← ih]
        rfl

/-- Records that agree but for their margins have commands that do. -/
theorem map_remargin_of_planAll {records others : List Record} {base : Nat}
    {commands otherCommands : List Command}
    (h : records.map (Record.remargin margin) = others.map (Record.remargin margin))
    (hcommands : planAll records base = .ok commands)
    (hothers : planAll others base = .ok otherCommands) :
    commands.map (remargin margin) = otherCommands.map (remargin margin) := by
  have hshared : ∀ {records : List Record} {commands : List Command},
      planAll records base = .ok commands →
        outcomes base (records.map (Record.remargin margin))
          = (commands.map (remargin margin)).map .ok := by
    intro records commands hplan
    rw [outcomes_remargin, Outcome.collect_eq_ok_iff.mp hplan, List.map_map, List.map_map]
    rfl
  have hboth := (hshared hcommands).symm.trans ((congrArg _ h).trans (hshared hothers))
  exact (List.map_inj_right fun _ _ => Except.ok.inj).mp hboth

end Command

/-! ## Artifacts -/

namespace ValidatorSet

theorem synthesize_remargin (registry : Registry) (records : List Record) :
    synthesize registry (records.map (Record.remargin margin)) = synthesize registry records := by
  have hreferences : references (records.map (Record.remargin margin)) = references records := by
    rw [references, references, List.filter_map, List.flatMap_map]
    rfl
  rw [synthesize, synthesize, hreferences]

end ValidatorSet

namespace Command

theorem collision?_remargin (earlier commands : List Command) :
    collision? (earlier.map (remargin margin)) (commands.map (remargin margin))
      = collision? earlier commands := by
  induction commands generalizing earlier with
  | nil => rfl
  | cons command rest ih =>
    have hfind : (earlier.map (remargin margin)).find? (·.id == (command.remargin margin).id)
        = (earlier.find? (·.id == command.id)).map (remargin margin) := by
      rw [List.find?_map]
      rfl
    have hany : (earlier.map (remargin margin)).any (·.name == (command.remargin margin).name)
        = earlier.any (·.name == command.name) := by
      rw [List.any_map]
      rfl
    rw [List.map_cons, collision?, collision?, hfind, hany]
    cases earlier.find? (·.id == command.id) with
    | some found => rfl
    | none =>
      simp only [Option.map_none]
      split
      · rfl
      · exact ih (command :: earlier)

theorem values?_remargin (command : Command) (registry : Registry) (location : Nat)
    (params : List InitParam) :
    FormatTests.values? (command.remargin margin) registry location params
      = FormatTests.values? command registry location params := by
  induction params generalizing location with
  | nil => rfl
  | cons param rest ih =>
    simp only [FormatTests.values?, ih]
    rfl

theorem formatTest_remargin (registry : Registry) (command : Command) :
    FormatTests.outcome registry (command.remargin margin)
      = FormatTests.outcome registry command := by
  simp only [FormatTests.outcome, values?_remargin]
  rfl

end Command

theorem Handler.execute_remargin (commands : List Command) :
    execute (commands.map (Command.remargin margin)) = execute commands := by
  rw [execute, execute, List.map_map]
  rfl

namespace Blueprint

/-- The blueprint with other records, for commands with other margins, and without what its records
were read from. -/
def remargin (margin : Record → Record.Margin) (overrides : OverrideTable) (functions : String)
    (records : List Record) (blueprint : Blueprint) : Blueprint :=
  { blueprint with
    protocol := { blueprint.protocol with overrides, functions }
    records
    commands := blueprint.commands.map (Command.remargin margin) }

variable (overrides : OverrideTable) (functions : String) (records : List Record)
  (blueprint : Blueprint)

theorem commandTable_remargin :
    (blueprint.remargin margin overrides functions records).commandTable
      = blueprint.commandTable := by
  have hcollision : Command.collision? [] (blueprint.remargin margin overrides functions records).commands
      = Command.collision? [] blueprint.commands := Command.collision?_remargin [] _
  have hfile : CommandTable.file (blueprint.remargin margin overrides functions records)
      = CommandTable.file blueprint := by
    simp only [CommandTable.file, remargin, CommandTable.enumeration, CommandTable.everyCommand,
      CommandTable.lookup, CommandTable.nameOf, CommandTable.size, List.map_map, List.length_map,
      List.isEmpty_map]
    rfl
  rw [commandTable, commandTable, hcollision, hfile]

theorem commandFormat_remargin :
    (blueprint.remargin margin overrides functions records).commandFormat
      = blueprint.commandFormat := by
  simp only [commandFormat, CommandFormat.file, remargin, List.flatMap_map, List.filter_map,
    List.length_map]
  rfl

theorem formatTests_remargin :
    (blueprint.remargin margin overrides functions records).formatTests = blueprint.formatTests := by
  have houtcomes : (blueprint.remargin margin overrides functions records).formatTestOutcomes
      = blueprint.formatTestOutcomes := by
    rw [formatTestOutcomes, formatTestOutcomes, remargin, List.map_map]
    exact List.map_congr_left fun command _ => Command.formatTest_remargin _ command
  rw [formatTests, formatTests, houtcomes]
  rfl

theorem writers_remargin :
    (blueprint.remargin margin overrides functions records).writers = blueprint.writers := by
  simp only [writers, remargin, List.map_map, List.length_map]
  rfl

theorem handlers_remargin :
    (blueprint.remargin margin overrides functions records).handlers = blueprint.handlers := by
  simp only [handlers, remargin, Handler.execute_remargin, List.map_map, List.length_map,
    List.flatMap_map, List.filter_map]
  rfl

end Blueprint
end CommandBuffer
