import CommandBuffer.Proofs.Bundles
import CommandBuffer.Proofs.ClientDirectives
import CommandBuffer.Proofs.CommandTable
import CommandBuffer.Proofs.CrossReferences

/-! # The order of overrides

A table of overrides is searched for the first entry with a name. Its names are not repeated, so the
search finds the same entry in every order, and nothing but the search and the list of overrides
without a function ever reads the table. The order in which a protocol lists its overrides is
therefore that of some error messages, and of nothing else.
-/

namespace CommandBuffer

open Success

/-! ## Tables -/

namespace OverrideTable

variable {entries others : List Override} {table other : OverrideTable}

theorem firstRepeated?_eq_none_iff {seen : List String} :
    firstRepeated? seen entries = none ↔
      (entries.map Override.name).Nodup ∧ ∀ entry ∈ entries, entry.name ∉ seen := by
  induction entries generalizing seen with
  | nil => simp [firstRepeated?]
  | cons entry rest ih =>
    by_cases hseen : entry.name ∈ seen
    · simp [firstRepeated?, hseen]
    · -- The name of the entry joins those that the rest must avoid.
      have havoid : (∀ later ∈ rest, later.name ∉ entry.name :: seen) ↔
          entry.name ∉ rest.map Override.name ∧ ∀ later ∈ rest, later.name ∉ seen := by
        simp only [List.mem_cons, not_or, forall_and, List.mem_map, not_exists, not_and]
      rw [firstRepeated?, if_neg hseen, ih, havoid, List.map_cons, List.nodup_cons,
        List.forall_mem_cons]
      tauto

/-- A table holds the entries of its definition, whose names are not repeated. -/
theorem ofList_eq_ok_iff :
    ofList entries = .ok table ↔ table = ⟨entries⟩ ∧ (entries.map Override.name).Nodup := by
  have hnodup : firstRepeated? [] entries = none ↔ (entries.map Override.name).Nodup := by
    rw [firstRepeated?_eq_none_iff]
    simp
  unfold ofList
  cases hrepeated : firstRepeated? [] entries with
  | none => simp [hnodup.mp hrepeated, eq_comm]
  | some name =>
    have hrefused : ¬ (entries.map Override.name).Nodup := by
      rw [← hnodup, hrepeated]
      exact Option.some_ne_none name
    simp [hrefused]

/-- Tables with the same entries find the same entry for every name. -/
theorem get?_perm (hnodup : (table.entries.map Override.name).Nodup)
    (hperm : other.entries.Perm table.entries) (name : String) :
    other.get? name = table.get? name := by
  have hother : (other.entries.map Override.name).Nodup := (hperm.map _).nodup_iff.mpr hnodup
  refine Option.ext fun entry => ?_
  calc other.get? name = some entry ↔ entry ∈ other.entries ∧ entry.name = name :=
        CommandTable.find?_eq_some_iff_of_nodup hother
    _ ↔ entry ∈ table.entries ∧ entry.name = name := by rw [hperm.mem_iff]
    _ ↔ table.get? name = some entry := (CommandTable.find?_eq_some_iff_of_nodup hnodup).symm

theorem directives_perm (hnodup : (table.entries.map Override.name).Nodup)
    (hperm : other.entries.Perm table.entries) : other.directives = table.directives := by
  funext name
  rw [directives, directives, get?_perm hnodup hperm]

end OverrideTable

/-! ## Records and their check -/

namespace MergeError

def IsSharedMethod (error : MergeError) : Prop :=
  ∃ method first second, error = .duplicateMethodName method first second

def IsUnknownFunction (error : MergeError) : Prop := ∃ name, error = .unknownFunction name

/-- Two checks end alike: both succeed, or both report the same shared method names and then, in
some order, the same overrides without a function. -/
inductive SameVerdict : Except (List MergeError) Unit → Except (List MergeError) Unit → Prop where
  | passed : SameVerdict (.ok ()) (.ok ())
  | failed {shared unknown others : List MergeError} (hshared : ∀ error ∈ shared, error.IsSharedMethod)
      (hunknown : ∀ error ∈ unknown, error.IsUnknownFunction) (hperm : others.Perm unknown) :
      SameVerdict (.error (shared ++ unknown)) (.error (shared ++ others))

end MergeError

namespace Record

variable {table other : OverrideTable}

theorem buildAll_perm (hnodup : (table.entries.map Override.name).Nodup)
    (hperm : other.entries.Perm table.entries) (registry : Registry) :
    buildAll registry other = buildAll registry table := by
  funext declarations
  rw [buildAll, buildAll, outcomes, outcomes, OverrideTable.directives_perm hnodup hperm]

theorem isSharedMethod_of_methodCollisions {records : List Record} :
    ∀ error ∈ methodCollisions [] records, error.IsSharedMethod := by
  rw [methodCollisions_eq, List.forall_mem_map]
  exact fun _ _ => ⟨_, _, _, rfl⟩

theorem danglingOverrides_perm (hperm : other.entries.Perm table.entries) (records : List Record) :
    (danglingOverrides records other).Perm (danglingOverrides records table) :=
  (hperm.filter _).map _

theorem crossCheck_perm (hperm : other.entries.Perm table.entries) (records : List Record) :
    MergeError.SameVerdict (crossCheck records table) (crossCheck records other) := by
  have hdangling := danglingOverrides_perm hperm records
  have hnone : methodCollisions [] records ++ danglingOverrides records other = [] ↔
      methodCollisions [] records ++ danglingOverrides records table = [] := by
    have hlength := (hdangling.append_left (methodCollisions [] records)).length_eq
    rw [← List.length_eq_zero_iff, hlength, List.length_eq_zero_iff]
  rw [crossCheck_eq, crossCheck_eq, if_congr hnone rfl rfl]
  split
  · exact .passed
  · refine .failed isSharedMethod_of_methodCollisions ?_ hdangling
    intro error herror
    obtain ⟨entry, -, rfl⟩ := List.mem_map.mp herror
    exact ⟨entry.name, rfl⟩

theorem crossCheck_eq_ok_perm (hperm : other.entries.Perm table.entries) (records : List Record) :
    crossCheck records other = .ok () ↔ crossCheck records table = .ok () := by
  have hverdict := crossCheck_perm hperm records
  generalize crossCheck records table = first at hverdict ⊢
  generalize crossCheck records other = second at hverdict ⊢
  cases hverdict <;> simp

end Record

/-! ## Artifacts -/

/-- The protocol with another table of overrides. -/
def Protocol.withOverrides (protocol : Protocol) (table : OverrideTable) : Protocol :=
  { protocol with overrides := table }

/-- The blueprint of a protocol with another table of overrides, from the same records. -/
def Blueprint.withOverrides (blueprint : Blueprint) (table : OverrideTable) : Blueprint :=
  { blueprint with protocol := blueprint.protocol.withOverrides table }

theorem ClientTests.stageAll_withOverrides (blueprint : Blueprint) (table : OverrideTable)
    (record : Record) (command : Command) (index : Nat) (arguments : List Argument)
    (setup : Setup) :
    stageAll (blueprint.withOverrides table) record command index arguments setup
      = stageAll blueprint record command index arguments setup := by
  induction arguments generalizing index setup with
  | nil => rfl
  | cons argument rest ih =>
    simp only [stageAll, ih]
    rfl

namespace Blueprint

variable (blueprint : Blueprint) (table : OverrideTable)

/-- The walk over the arguments is the only recursion that carries the blueprint along. -/
theorem clientTests_withOverrides :
    (blueprint.withOverrides table).clientTests = blueprint.clientTests := by
  have houtcomes : (blueprint.withOverrides table).clientTestOutcomes
      = blueprint.clientTestOutcomes := by
    simp only [clientTestOutcomes, ClientTests.outcome, ClientTests.stageAll_withOverrides]
    rfl
  rw [clientTests, clientTests, houtcomes]
  rfl

/-- No artifact reads the overrides. -/
theorem emit_withOverrides (kind : ArtifactKind) :
    (blueprint.withOverrides table).emit kind = blueprint.emit kind := by
  cases kind with
  | clientTests => exact blueprint.clientTests_withOverrides table
  | _ => rfl

theorem outcomes_withOverrides : (blueprint.withOverrides table).outcomes = blueprint.outcomes := by
  simp only [outcomes, emit_withOverrides]
  rfl

theorem artifacts_withOverrides :
    (blueprint.withOverrides table).artifacts = blueprint.artifacts := by
  rw [artifacts, artifacts, bundle, bundle, outcomes_withOverrides]

end Blueprint

/-! ## Protocols -/

namespace Protocol

variable {protocol : Protocol} {table : OverrideTable}

theorem records_perm (hnodup : (protocol.overrides.entries.map Override.name).Nodup)
    (hperm : table.entries.Perm protocol.overrides.entries) {records : List Record} :
    (protocol.withOverrides table).records = .ok records ↔ protocol.records = .ok records := by
  have hunchecked : (protocol.withOverrides table).uncheckedRecords = protocol.uncheckedRecords := by
    rw [uncheckedRecords, uncheckedRecords, withOverrides, Record.buildAll_perm hnodup hperm]
    rfl
  rw [Protocol.records, Protocol.records, hunchecked]
  simp only [bind_eq_ok, mapError_eq_ok, pure_eq_ok]
  refine exists_congr fun unchecked => and_congr_right fun _ => exists_congr fun checked => ?_
  rw [withOverrides, Record.crossCheck_eq_ok_perm hperm]

theorem blueprint_perm (hnodup : (protocol.overrides.entries.map Override.name).Nodup)
    (hperm : table.entries.Perm protocol.overrides.entries) {blueprint : Blueprint}
    (h : protocol.blueprint = .ok blueprint) :
    (protocol.withOverrides table).blueprint = .ok (blueprint.withOverrides table) := by
  obtain ⟨records, commands, support, hrecords, hcommands, hsupport, rfl⟩ :=
    exists_plan_of_blueprint h
  exact blueprint_eq_ok ((records_perm hnodup hperm).mpr hrecords) (mapError_eq_ok.mpr hcommands)
    hsupport

/-- A protocol that lists its overrides in another order is defined as well. The same records are
built, or the same errors reported; the check of the records ends alike but for the order of the
overrides without a function; and if the protocol has a blueprint, then the other order leads to the
same records, validators and commands, and to the same artifacts. -/
theorem override_order_irrelevant (protocol : Protocol) (entries others : List Override)
    (hentries : OverrideTable.ofList entries = .ok protocol.overrides)
    (hperm : others.Perm entries) :
    ∃ table, OverrideTable.ofList others = .ok table ∧
      (∀ registry declarations, Record.buildAll registry table declarations
        = Record.buildAll registry protocol.overrides declarations) ∧
      (∀ records, MergeError.SameVerdict (Record.crossCheck records protocol.overrides)
        (Record.crossCheck records table)) ∧
      (∀ records, protocol.records = .ok records →
        (protocol.withOverrides table).records = .ok records ∧
        (protocol.withOverrides table).commands records = protocol.commands records) ∧
      ∀ blueprint, protocol.blueprint = .ok blueprint →
        ∃ other, (protocol.withOverrides table).blueprint = .ok other ∧
          other.records = blueprint.records ∧ other.validators = blueprint.validators ∧
          other.commands = blueprint.commands ∧
          (∀ kind, other.emit kind = blueprint.emit kind) ∧
          other.artifacts = blueprint.artifacts := by
  obtain ⟨htable, hnodup⟩ := OverrideTable.ofList_eq_ok_iff.mp hentries
  have hothers : (others.map Override.name).Nodup := (hperm.map _).nodup_iff.mpr hnodup
  have hentriesOf : protocol.overrides.entries = entries := congrArg OverrideTable.entries htable
  rw [← hentriesOf] at hperm hnodup
  refine ⟨⟨others⟩, OverrideTable.ofList_eq_ok_iff.mpr ⟨rfl, hothers⟩, ?_, ?_, ?_, ?_⟩
  · intro registry declarations
    exact congrFun (Record.buildAll_perm hnodup hperm registry) declarations
  · exact Record.crossCheck_perm hperm
  · exact fun records hrecords => ⟨(records_perm hnodup hperm).mpr hrecords, rfl⟩
  · intro blueprint hblueprint
    exact ⟨_, blueprint_perm hnodup hperm hblueprint, rfl, rfl, rfl,
      blueprint.emit_withOverrides _, blueprint.artifacts_withOverrides _⟩

end Protocol

/-! ## Two overrides, exchanged -/

/-- Both orders of the two overrides give the same twelve artifacts. -/
theorem Protocol.order_irrelevant_pause :
    ∃ table other, OverrideTable.ofList [{ name := "Resume" }, openPause] = .ok table ∧
      ((pauseProtocol [openPause, { name := "Resume" }]).withOverrides table).blueprint = .ok other ∧
      other.commands = (pauseBlueprint [openPause, { name := "Resume" }]).commands ∧
      other.artifacts = (pauseBlueprint [openPause, { name := "Resume" }]).artifacts := by
  obtain ⟨table, htable, -, -, -, hblueprint⟩ := override_order_irrelevant
    (pauseProtocol [openPause, { name := "Resume" }]) [openPause, { name := "Resume" }]
    [{ name := "Resume" }, openPause] rfl (.swap _ _ _)
  obtain ⟨other, hother, -, -, hcommands, -, hartifacts⟩ := hblueprint _ blueprint_open
  exact ⟨table, other, htable, hother, hcommands, hartifacts⟩

end CommandBuffer
