import CommandBuffer.Artifact.CommandTable
import CommandBuffer.Proofs.Emission
import CommandBuffer.Proofs.Growth
import Mathlib.Data.List.Nodup

/-! # The table of commands

The table is read as the language reads it: a function is given an id or a variant and answers with
the first arm that accepts it. Whatever the commands are, a lookup leads to the first command with
the id. The scan before emission lets exactly those lists pass in which neither ids nor names are
repeated, and then the lookup and the values of the variants are inverse to each other.
-/

namespace CommandBuffer

open Code

namespace Code

/-! ## Calling the functions of a table -/

/-- What the functions of a table take and give. -/
inductive Datum where
  | number (value : Nat)
  /-- A variant of the enumeration that the function belongs to. -/
  | variant (name : Name)
  /-- A literal, by its spelling. -/
  | literal (spelling : String)
  | present (datum : Datum)
  | absent
  deriving DecidableEq

/-- The variant that a path stands for within its enumeration. -/
def ownVariant? : List Name → Option Name
  | [owner, name] => if owner = "Self" then some name else none
  | _ => none

def Expr.datum? : Expr → Option Datum
  | .path false [name] => if name = "None" then some .absent else none
  | .path false segments => (ownVariant? segments).map .variant
  | .literal spelling => some (.literal spelling)
  | .call (.path false [name]) [argument] _ =>
    if name = "Some" then argument.datum?.map .present else none
  | _ => none

def Pattern.accepts : Pattern → Datum → Bool
  | wildcard, _ => true
  | number value, .number input => value == input
  | path segments, .variant input => (ownVariant? segments).any (· == input)
  | _, _ => false

/-- The variable that holds the only input of a function. -/
def Signature.input? (signature : Signature) : Option Name :=
  match signature.receiver, signature.parameters with
  | some _, [] => some "self"
  | none, [parameter] => some parameter.name
  | _, _ => none

/-- The answer of a function that selects by its input: that of the first arm that accepts it. -/
def Function.answer? (function : Function) (datum : Datum) : Option Datum :=
  match function.body with
  | [.select (.path false [subject]) arms] =>
    if function.signature.input? = some subject then
      (arms.find? (·.1.accepts datum)).bind (·.2.datum?)
    else none
  | _ => none

namespace SourceFile

def variants (file : SourceFile) (owner : Name) : List Variant :=
  file.items.flatMap fun
    | .enumeration _ name variants => if name = owner then variants else []
    | _ => []

def members (file : SourceFile) (owner : Name) : List Member :=
  file.items.flatMap fun
    | .implement none target members => if target = owner then members else []
    | _ => []

def constant? (file : SourceFile) (name : Name) : Option Constant :=
  file.items.findSome? fun
    | .constant constant => if constant.name = name then some constant else none
    | _ => none

def memberConstant? (file : SourceFile) (owner name : Name) : Option Constant :=
  (file.members owner).findSome? fun
    | .constant constant => if constant.name = name then some constant else none
    | _ => none

def memberFunction? (file : SourceFile) (owner name : Name) : Option Function :=
  (file.members owner).findSome? fun
    | .function function => if function.signature.name = name then some function else none
    | _ => none

/-- The answer of the owner's function. -/
def call? (file : SourceFile) (owner name : Name) (datum : Datum) : Option Datum :=
  (file.memberFunction? owner name).bind fun function => function.answer? datum

end SourceFile
end Code

/-! ## The scan for collisions -/

namespace Command

variable {commands earlier : List Command}

/-- The scan passes a list exactly if it repeats no id and no name, neither within nor of before. -/
theorem collision?_eq_none_iff : collision? earlier commands = none ↔
    (commands.map Command.id).Nodup ∧ (commands.map Command.name).Nodup ∧
      ∀ command ∈ commands, ∀ other ∈ earlier,
        other.id ≠ command.id ∧ other.name ≠ command.name := by
  -- What was scanned before grows by the command that has passed.
  induction commands generalizing earlier with
  | nil => simp [collision?]
  | cons command rest ih =>
    rw [collision?]
    cases hfind : earlier.find? (·.id == command.id) with
    | some first =>
      have hid := List.find?_some hfind
      have hmem := List.mem_of_find?_eq_some hfind
      refine iff_of_false (by simp) fun hnew => ?_
      exact (hnew.2.2 command List.mem_cons_self first hmem).1 (by simpa using hid)
    | none =>
      have hids : ∀ other ∈ earlier, other.id ≠ command.id := by
        simpa using List.find?_eq_none.mp hfind
      by_cases hname : earlier.any (·.name == command.name)
      · obtain ⟨other, hother, hsame⟩ := List.any_eq_true.mp hname
        simp only [hname, if_true]
        refine iff_of_false (by simp) fun hnew => ?_
        exact (hnew.2.2 command List.mem_cons_self other hother).2 (by simpa using hsame)
      · have hnames : ∀ other ∈ earlier, other.name ≠ command.name := by
          simpa using hname
        simp only [hname, Bool.false_eq_true, if_false, ih, List.map_cons, List.nodup_cons,
          List.forall_mem_cons, List.mem_map, not_exists, not_and]
        constructor
        · rintro ⟨hrestIds, hrestNames, hnew⟩
          exact ⟨⟨fun later hlater hsame => (hnew later hlater).1.1 hsame.symm, hrestIds⟩,
            ⟨fun later hlater hsame => (hnew later hlater).1.2 hsame.symm, hrestNames⟩,
            fun other hother => ⟨hids other hother, hnames other hother⟩,
            fun later hlater => (hnew later hlater).2⟩
        · rintro ⟨⟨hid, hrestIds⟩, ⟨hname, hrestNames⟩, -, hnew⟩
          exact ⟨hrestIds, hrestNames, fun later hlater =>
            ⟨⟨fun hsame => hid later hlater hsame.symm, fun hsame => hname later hlater hsame.symm⟩,
              hnew later hlater⟩⟩

end Command

namespace CommandTable

variable {blueprint : Blueprint} {commands : List Command}

/-! ## The parts of the table -/

theorem variants_file :
    (file blueprint).variants "CommandId" = blueprint.commands.map Command.variant := by
  simp [SourceFile.variants, file, enumeration]

theorem memberFunction?_from_u32 :
    (file blueprint).memberFunction? "CommandId" "from_u32" = some (lookup blueprint.commands) := by
  simp [SourceFile.memberFunction?, SourceFile.members, file, enumeration, lookup]

theorem memberFunction?_name :
    (file blueprint).memberFunction? "CommandId" "name" = some (nameOf blueprint.commands) := by
  simp [SourceFile.memberFunction?, SourceFile.members, file, enumeration, lookup, nameOf]

@[simp] theorem datum?_ownVariant (command : Command) :
    (Expr.path false command.ownVariant).datum? = some (.variant command.structName) := rfl

@[simp] theorem accepts_lookupArm (command : Command) (id : Nat) :
    (lookupArm command).1.accepts (.number id) = (command.id == id) := rfl

@[simp] theorem accepts_nameArm (command : Command) (variant : Name) :
    (nameArm command).1.accepts (.variant variant) = (command.structName == variant) := rfl

/-- A lookup leads to the first command with the id. -/
theorem answer?_lookup (id : Nat) : (lookup commands).answer? (.number id) =
    some (((commands.find? (·.id == id)).map fun command =>
      Datum.present (.variant command.structName)).getD .absent) := by
  have harms : (lookup commands).answer? (.number id) =
      ((commands.map lookupArm ++ [(Pattern.wildcard, ("None" : Expr))]).find?
        (·.1.accepts (.number id))).bind (·.2.datum?) := rfl
  rw [harms, List.find?_append, List.find?_map]
  simp only [Function.comp_def, accepts_lookupArm]
  cases commands.find? (·.id == id) with
  | none => rfl
  | some command => rfl

/-- The name of a variant is that of the first command with this variant. -/
theorem answer?_nameOf (variant : Name) : (nameOf commands).answer? (.variant variant) =
    (commands.find? (·.structName == variant)).map fun command =>
      Datum.literal (Text.quoted command.name) := by
  have harms : (nameOf commands).answer? (.variant variant) =
      ((commands.map nameArm).find? (·.1.accepts (.variant variant))).bind (·.2.datum?) := rfl
  rw [harms, List.find?_map]
  simp only [Function.comp_def, accepts_nameArm]
  cases commands.find? (·.structName == variant) with
  | none => rfl
  | some command => rfl

/-- Where a key is not repeated, a search finds the only item with the key. -/
theorem find?_eq_some_iff_of_nodup {α κ : Type} [DecidableEq κ] {key : α → κ} {items : List α}
    (h : (items.map key).Nodup) {wanted : κ} {item : α} :
    items.find? (key · == wanted) = some item ↔ item ∈ items ∧ key item = wanted := by
  constructor
  · intro hfind
    exact ⟨List.mem_of_find?_eq_some hfind, by simpa using List.find?_some hfind⟩
  · rintro ⟨hitem, hkey⟩
    cases hfind : items.find? (key · == wanted) with
    | none => exact absurd hkey (by simpa using List.find?_eq_none.mp hfind item hitem)
    | some found =>
      have hfound : key found = wanted := by simpa using List.find?_some hfind
      rw [List.inj_on_of_nodup_map h (List.mem_of_find?_eq_some hfind) hitem
        (hfound.trans hkey.symm)]

section

variable (hids : (commands.map Command.id).Nodup)
include hids

theorem answer?_lookup_eq_present_iff {id : Nat} {name : Name} :
    (lookup commands).answer? (.number id) = some (.present (.variant name)) ↔
      ⟨name, id⟩ ∈ commands.map Command.variant := by
  rw [answer?_lookup, List.mem_map]
  constructor
  · intro h
    cases hfind : commands.find? (·.id == id) with
    | none => simp [hfind] at h
    | some command =>
      obtain ⟨hcommand, hid⟩ := (find?_eq_some_iff_of_nodup hids).mp hfind
      have hname : command.structName = name := by simpa [hfind] using h
      exact ⟨command, hcommand, by rw [Command.variant, hid, hname]⟩
  · rintro ⟨command, hcommand, hvariant⟩
    cases hvariant
    rw [(find?_eq_some_iff_of_nodup hids).mpr ⟨hcommand, rfl⟩]
    rfl

theorem answer?_lookup_eq_absent_iff {id : Nat} :
    (lookup commands).answer? (.number id) = some .absent ↔
      ∀ variant ∈ commands.map Command.variant, variant.value ≠ id := by
  rw [answer?_lookup, List.forall_mem_map]
  cases hfind : commands.find? (·.id == id) with
  | none =>
    have hnone : ∀ command ∈ commands, command.id ≠ id := by
      simpa using List.find?_eq_none.mp hfind
    exact iff_of_true rfl hnone
  | some command =>
    obtain ⟨hcommand, hid⟩ := (find?_eq_some_iff_of_nodup hids).mp hfind
    exact iff_of_false (by simp) fun h => h command hcommand hid

end

/-! ## Writing the table -/

theorem listDemands_eq_flatMap (values : List Expr) :
    Expr.listDemands values = values.flatMap Expr.demands := by
  induction values with
  | nil => rfl
  | cons value rest ih => rw [Expr.listDemands, ih, List.flatMap_cons]

/-- The table can be written if its variants are names. -/
theorem isWritable_file
    (hnames : ∀ command ∈ blueprint.commands, command.structName.isPossible = true) :
    (file blueprint).isWritable = true := by
  simp +decide [SourceFile.isWritable, SourceFile.demands, Item.demands, Member.demands,
    Constant.demands, Function.demands, Signature.demands, Parameter.demands, Stmt.listDemands,
    Stmt.demands, Pattern.demands, Expr.demands, Expr.pathDemands, listDemands_eq_flatMap,
    Ty.demands, Ty.listDemands, Demand.names, Demand.isWritable, Expr.apply, Expr.number,
    Expr.quoted, file, firstId, size, enumeration, everyCommand, lookup, lookupArm, nameOf, nameArm,
    Command.ownVariant, Command.variant]
  exact hnames

/-- A table is emitted exactly if no id and no name is repeated. -/
theorem exists_commandTable_iff
    (hnames : ∀ command ∈ blueprint.commands, command.structName.isPossible = true) :
    (∃ code, blueprint.commandTable = .ok code) ↔
      (blueprint.commands.map Command.id).Nodup ∧ (blueprint.commands.map Command.name).Nodup := by
  have hscan : Command.collision? [] blueprint.commands = none ↔
      (blueprint.commands.map Command.id).Nodup ∧ (blueprint.commands.map Command.name).Nodup := by
    simp [Command.collision?_eq_none_iff]
  rw [← hscan, Blueprint.commandTable]
  cases Command.collision? [] blueprint.commands with
  | some cause => simp
  | none =>
    refine iff_of_true ⟨file blueprint, ?_⟩ rfl
    exact Emission.finish_eq_ok_iff.mpr ⟨rfl, by simp, isWritable_file hnames⟩

/-! ## Both directions of the table -/

/-- The variants of the commands are called and numbered apart. The lookup is the inverse of their
values and finds nothing else, the list of all commands holds each of them once, and every one of
them tells the name of its command. -/
structure IsBijection (commands : List Command) (code : SourceFile) : Prop where
  declared : code.variants "CommandId" = commands.map Command.variant
  nodup_names : ((code.variants "CommandId").map Variant.name).Nodup
  nodup_values : ((code.variants "CommandId").map Variant.value).Nodup
  lookup_iff : ∀ id name, code.call? "CommandId" "from_u32" (.number id)
    = some (.present (.variant name)) ↔ ⟨name, id⟩ ∈ code.variants "CommandId"
  lookup_absent_iff : ∀ id, code.call? "CommandId" "from_u32" (.number id) = some .absent ↔
    ∀ variant ∈ code.variants "CommandId", variant.value ≠ id
  listed : ∃ constant items, code.memberConstant? "CommandId" "ALL" = some constant ∧
    constant.type = .array "CommandId" items.length ∧ constant.value = .array items false ∧
    items.map Expr.datum? = (code.variants "CommandId").map fun variant =>
      some (.variant variant.name)
  named : ∀ command ∈ commands, code.call? "CommandId" "name" (.variant command.structName)
    = some (.literal (Text.quoted command.name))
  counted : ∃ constant, code.constant? "NUM_COMMANDS" = some constant ∧
    constant.value = .number commands.length

theorem isBijection_file (hids : (blueprint.commands.map Command.id).Nodup)
    (hnames : (blueprint.commands.map Command.name).Nodup) :
    IsBijection blueprint.commands (file blueprint) := by
  have hstructs : (blueprint.commands.map Command.structName).Nodup := by
    have hinjective : Function.Injective Name.verbatim := fun _ _ => Name.verbatim.inj
    have hmapped := hnames.map hinjective
    rwa [List.map_map] at hmapped
  have hlookup : ∀ id, (file blueprint).call? "CommandId" "from_u32" (.number id)
      = (lookup blueprint.commands).answer? (.number id) := fun id => by
    rw [SourceFile.call?, memberFunction?_from_u32, Option.bind_some]
  constructor
  case declared => exact variants_file
  case nodup_names =>
    rw [variants_file, List.map_map]
    exact hstructs
  case nodup_values =>
    rw [variants_file, List.map_map]
    exact hids
  case lookup_iff =>
    intro id name
    rw [hlookup, variants_file, answer?_lookup_eq_present_iff hids]
  case lookup_absent_iff =>
    intro id
    rw [hlookup, variants_file, answer?_lookup_eq_absent_iff hids]
  case listed =>
    refine ⟨everyCommand blueprint.commands, _, ?_, ?_, rfl, ?_⟩
    · simp [SourceFile.memberConstant?, SourceFile.members, file, enumeration, everyCommand]
    · simp [everyCommand]
    · rw [variants_file]
      simp [Command.variant]
  case named =>
    intro command hcommand
    rw [SourceFile.call?, memberFunction?_name, Option.bind_some, answer?_nameOf,
      (find?_eq_some_iff_of_nodup hstructs).mpr ⟨hcommand, rfl⟩, Option.map_some]
  case counted =>
    exact ⟨size blueprint.commands, by simp [SourceFile.constant?, file, firstId, size], rfl⟩

end CommandTable

namespace Blueprint

variable {blueprint : Blueprint}

theorem eq_file_of_commandTable {code : SourceFile} (h : blueprint.commandTable = .ok code) :
    code = CommandTable.file blueprint := by
  unfold commandTable at h
  split at h
  · cases h
  · exact (Emission.finish_eq_ok_iff.mp h).1

/-- The table of any commands with possible names is emitted exactly if no id and no name is
repeated, and then it leads from every id to its variant and back. Planned commands stand in it in
the order of their ids, which start at the first id and leave no gap. -/
theorem command_table_bijective (blueprint : Blueprint)
    (hnames : ∀ command ∈ blueprint.commands, command.structName.isPossible = true) :
    ((∃ code, blueprint.commandTable = .ok code) ↔
      (blueprint.commands.map Command.id).Nodup ∧ (blueprint.commands.map Command.name).Nodup) ∧
    ∀ code, blueprint.commandTable = .ok code →
      CommandTable.IsBijection blueprint.commands code ∧
      (∃ constant, code.constant? "FIRST_COMMAND_ID" = some constant ∧
        constant.value = .number blueprint.protocol.commandBase) ∧
      ∀ records, Command.planAll records blueprint.protocol.commandBase = .ok blueprint.commands →
        (code.variants "CommandId").map Variant.value
          = List.range' blueprint.protocol.commandBase blueprint.commands.length := by
  have hemitted := CommandTable.exists_commandTable_iff hnames
  refine ⟨hemitted, fun code hcode => ?_⟩
  obtain ⟨hids, hdistinct⟩ := hemitted.mp ⟨code, hcode⟩
  rw [eq_file_of_commandTable hcode]
  refine ⟨CommandTable.isBijection_file hids hdistinct, ?_, fun records hplanned => ?_⟩
  · exact ⟨CommandTable.firstId blueprint.protocol.commandBase,
      by simp [SourceFile.constant?, CommandTable.file, CommandTable.firstId], rfl⟩
  · rw [CommandTable.variants_file, List.map_map, ← Command.ids_of_planAll hplanned]
    rfl

end Blueprint

/-! ## A table of three commands -/

def deletionsBlueprint : Blueprint where
  protocol := earlierProtocol
  records := [flushRecord, deletionRecord]
  validators := {}
  commands := [flushCommand, deletionCommand, sharedDeletionCommand]
  support := { segments := [{ name := "crate" }, { name := "support" }] }

/-- Both commands of the deletion are found, and the id behind the last one is not. -/
theorem command_table_bijective_deletions :
    (∀ command ∈ deletionsBlueprint.commands, command.structName.isPossible = true) ∧
    ∃ code, deletionsBlueprint.commandTable = .ok code ∧
      code.call? "CommandId" "from_u32" (.number 257)
        = some (.present (.variant "DeleteThingsImmediate")) ∧
      code.call? "CommandId" "from_u32" (.number 258)
        = some (.present (.variant "DeleteThings")) ∧
      code.call? "CommandId" "from_u32" (.number 259) = some .absent ∧
      (code.variants "CommandId").map Variant.value = [256, 257, 258] := by
  have hnames : ∀ command ∈ deletionsBlueprint.commands, command.structName.isPossible = true := by
    decide +kernel
  obtain ⟨hemitted, htable⟩ := deletionsBlueprint.command_table_bijective hnames
  obtain ⟨code, hcode⟩ := hemitted.mpr (by decide +kernel)
  obtain ⟨hbijection, -, hnumbered⟩ := htable code hcode
  have hvariants := hbijection.declared
  refine ⟨hnames, code, hcode, (hbijection.lookup_iff 257 _).mpr ?_,
    (hbijection.lookup_iff 258 _).mpr ?_, (hbijection.lookup_absent_iff 259).mpr ?_,
    hnumbered [flushRecord, deletionRecord] rfl⟩
  all_goals
    rw [hvariants]
    decide

end CommandBuffer
