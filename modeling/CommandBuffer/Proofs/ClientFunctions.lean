import CommandBuffer.Proofs.Bundles
import CommandBuffer.Proofs.CrossReferences
import CommandBuffer.Proofs.Margins
import CommandBuffer.Proofs.Records
import CommandBuffer.Proofs.Signature.Insertion
import Mathlib

/-! # Functions that are only for clients

A function without commands is called by clients, and nothing of it reaches the wire or the service.
So a protocol that has one function of this kind more differs in the interface of the client and in
its implementation only: the records with commands are the same but for their lines, and nothing else
that is generated depends on more than these.
-/

namespace CommandBuffer

open Code Success

/-! ## Records without their lines -/

/-- The record without its place in the file. -/
def Record.unnumbered (record : Record) : Record := { record with line := 0 }

/-- The margin of a record without its place in the file. -/
def Record.numberless (record : Record) : Record.Margin where
  line := 0
  hasClientEntry := record.hasClientEntry
  hasGeneratedMarshal := record.hasGeneratedMarshal
  isInternal := record.isInternal
  hasUnitTest := record.hasUnitTest
  hasClientTest := record.hasClientTest
  expectsCall := record.expectsCall
  hasInvalidTest := record.hasInvalidTest
  expectedCall := record.expectedCall

theorem Record.unnumbered_eq : Record.unnumbered = Record.remargin Record.numberless := rfl

def Command.unnumbered (command : Command) : Command :=
  { command with record := command.record.unnumbered }

/-- The blueprint without the records that have no commands, without lines, and without what its
records were read from. -/
def Blueprint.condensed (blueprint : Blueprint) : Blueprint :=
  { blueprint with
    protocol := { blueprint.protocol with overrides := {}, functions := "" }
    records := (blueprint.records.filter Record.hasCommands).map Record.unnumbered
    commands := blueprint.commands.map Command.unnumbered }

/-! ## Artifacts behind the interface -/

/-- The artifacts but for the interface of the client and its implementation. -/
def ArtifactKind.behindInterface : List ArtifactKind :=
  ArtifactKind.all.filter fun kind => kind ≠ .interface ∧ kind ≠ .implementation

namespace Blueprint

variable (blueprint : Blueprint)

theorem condensed_eq : blueprint.condensed = blueprint.remargin Record.numberless {} ""
    ((blueprint.records.filter Record.hasCommands).map Record.unnumbered) := rfl

theorem preferredCommand?_condensed (record : Record) :
    blueprint.condensed.preferredCommand? record.unnumbered
      = (blueprint.preferredCommand? record).map Command.unnumbered := by
  rw [preferredCommand?, preferredCommand?, commandsFor, commandsFor, condensed, List.filter_map,
    List.head?_map]
  rfl

/-- Records that are selected for their commands keep these. -/
theorem entries_condensed {selects : Record → Bool}
    (hlines : ∀ record : Record, selects record.unnumbered = selects record)
    (hcommands : ∀ record, selects record = true → record.hasCommands = true) :
    (blueprint.condensed.records.filter selects).filterMap (fun record =>
        (blueprint.condensed.preferredCommand? record).map (record, ·))
      = ((blueprint.records.filter selects).filterMap fun record =>
        (blueprint.preferredCommand? record).map (record, ·)).map
          (Prod.map Record.unnumbered Command.unnumbered) := by
  have hrecords : blueprint.condensed.records.filter selects
      = (blueprint.records.filter selects).map Record.unnumbered := by
    rw [condensed, List.filter_map, List.filter_filter]
    congr 1
    refine List.filter_congr fun record _ => ?_
    rw [Function.comp_apply, hlines, Bool.and_eq_left_iff_imp]
    exact hcommands record
  rw [hrecords, List.filterMap_map, List.map_filterMap]
  refine congrArg (fun f => List.filterMap f _) (funext fun record => ?_)
  simp only [Function.comp_apply, preferredCommand?_condensed, Option.map_map]
  rfl

theorem marshaling_condensed : blueprint.condensed.marshaling = blueprint.marshaling := by
  have hentries : Marshaling.entries blueprint.condensed = (Marshaling.entries blueprint).map
      (Prod.map Record.unnumbered Command.unnumbered) :=
    blueprint.entries_condensed (fun _ => rfl) fun record h => by
      simp only [Record.isMarshaled, Bool.and_eq_true] at h
      exact h.1.1
  simp only [marshaling, Marshaling.functions, Marshaling.namespaces, hentries, List.map_map,
    List.filterMap_map]
  rfl

end Blueprint

namespace ClientTests

variable (blueprint : Blueprint) (record : Record) (command : Command)

theorem stageAll_condensed (index : Nat) (arguments : List Argument) (setup : Setup) :
    stageAll blueprint.condensed record.unnumbered command.unnumbered index arguments setup
      = stageAll blueprint record command index arguments setup := by
  induction arguments generalizing index setup with
  | nil => rfl
  | cons argument rest ih =>
    simp only [stageAll, ih]
    rfl

theorem outcome_condensed (fixture : Name) :
    outcome blueprint.condensed fixture record.unnumbered command.unnumbered
      = outcome blueprint fixture record command := by
  have hstaged := stageAll_condensed blueprint record command 0 command.arguments {}
  rw [outcome, outcome]
  change (stageAll blueprint.condensed record.unnumbered command.unnumbered 0 command.arguments {}
    >>= _) = _
  rw [hstaged]
  rfl

end ClientTests

namespace HandlerTests

variable (blueprint : Blueprint) (record : Record) (command : Command)

theorem stageAll_unnumbered (registry : Registry) (index : Nat) (arguments : List Argument)
    (setup : Setup) :
    stageAll registry command.unnumbered index arguments setup
      = stageAll registry command index arguments setup := by
  induction arguments generalizing index setup with
  | nil => rfl
  | cons argument rest ih =>
    simp only [stageAll, ih]
    rfl

theorem outcome_condensed (fixture : Name) :
    outcome blueprint.condensed fixture record.unnumbered command.unnumbered
      = outcome blueprint fixture record command := by
  have hstaged := stageAll_unnumbered command blueprint.protocol.types 0 command.arguments {}
  rw [outcome, outcome]
  change (stageAll blueprint.protocol.types command.unnumbered 0 command.arguments {} >>= _) = _
  rw [hstaged]
  rfl

end HandlerTests

namespace Blueprint

variable (blueprint : Blueprint)

theorem clientTests_condensed : blueprint.condensed.clientTests = blueprint.clientTests := by
  have hentries : ClientTests.entries blueprint.condensed = (ClientTests.entries blueprint).map
      (Prod.map Record.unnumbered Command.unnumbered) :=
    blueprint.entries_condensed (fun _ => rfl) fun record h => by
      simp only [Record.isMarshaled, Bool.and_eq_true] at h
      exact h.1.1.1
  have houtcomes : blueprint.condensed.clientTestOutcomes = blueprint.clientTestOutcomes := by
    rw [clientTestOutcomes, clientTestOutcomes, hentries, List.map_map]
    exact List.map_congr_left fun entry _ =>
      ClientTests.outcome_condensed blueprint entry.1 entry.2 _
  rw [clientTests, clientTests, houtcomes]
  rfl

theorem handlerTests_condensed : blueprint.condensed.handlerTests = blueprint.handlerTests := by
  have hentries : HandlerTests.entries blueprint.condensed = (HandlerTests.entries blueprint).map
      (Prod.map Record.unnumbered Command.unnumbered) :=
    blueprint.entries_condensed (fun _ => rfl) fun record h => by
      rw [Bool.and_eq_true] at h
      exact h.1
  have houtcomes : blueprint.condensed.handlerTestOutcomes = blueprint.handlerTestOutcomes := by
    rw [handlerTestOutcomes, handlerTestOutcomes, hentries, List.map_map]
    exact List.map_congr_left fun entry _ =>
      HandlerTests.outcome_condensed blueprint entry.1 entry.2 _
  rw [handlerTests, handlerTests, houtcomes]
  rfl

/-- Nothing behind the interface depends on more than the records with commands, and on no line. -/
theorem emit_condensed {kind : ArtifactKind} (h : kind ∈ ArtifactKind.behindInterface) :
    blueprint.condensed.emit kind = blueprint.emit kind := by
  cases kind with
  | interface | implementation => exact absurd h (by decide)
  | marshaling => exact marshaling_condensed blueprint
  | clientTests => exact clientTests_condensed blueprint
  | handlerTests => exact handlerTests_condensed blueprint
  | validators | validatorBodies => rfl
  | commandTable =>
    rw [condensed_eq]
    exact commandTable_remargin ..
  | commandFormat =>
    rw [condensed_eq]
    exact commandFormat_remargin ..
  | formatTests =>
    rw [condensed_eq]
    exact formatTests_remargin ..
  | writers =>
    rw [condensed_eq]
    exact writers_remargin ..
  | handlers =>
    rw [condensed_eq]
    exact handlers_remargin ..

end Blueprint

/-! ## Records with commands -/

theorem Command.outcomes_filter (id : Nat) (records : List Record) :
    outcomes id (records.filter Record.hasCommands) = outcomes id records := by
  induction records generalizing id with
  | nil => rfl
  | cons record rest ih =>
    by_cases hcommands : record.hasCommands = true
    · rw [List.filter_cons_of_pos hcommands, outcomes, outcomes, ih, ih]
    · rw [List.filter_cons_of_neg hcommands, outcomes, ih]
      simp [hcommands]

theorem Command.planAll_filter (records : List Record) (base : Nat) :
    planAll (records.filter Record.hasCommands) base = planAll records base := by
  rw [planAll, planAll, outcomes_filter]

theorem ValidatorSet.synthesize_filter (registry : Registry) (records : List Record) :
    synthesize registry (records.filter Record.hasCommands) = synthesize registry records := by
  have hreferences : references (records.filter Record.hasCommands) = references records := by
    simp only [references, List.filter_filter, Bool.and_self]
  rw [synthesize, synthesize, hreferences]

theorem ValidatorSet.synthesize_condensed (registry : Registry) (records : List Record) :
    synthesize registry ((records.filter Record.hasCommands).map Record.unnumbered)
      = synthesize registry records := by
  rw [Record.unnumbered_eq, synthesize_remargin, synthesize_filter]

/-- Records whose commands agree but for their lines have commands that do. -/
theorem Command.map_unnumbered_of_planAll {records others : List Record} {base : Nat}
    {commands otherCommands : List Command}
    (h : (records.filter Record.hasCommands).map Record.unnumbered
      = (others.filter Record.hasCommands).map Record.unnumbered)
    (hcommands : planAll records base = .ok commands)
    (hothers : planAll others base = .ok otherCommands) :
    commands.map unnumbered = otherCommands.map unnumbered := by
  rw [← planAll_filter] at hcommands hothers
  rw [Record.unnumbered_eq] at h
  exact map_remargin_of_planAll h hcommands hothers

namespace Record

variable {registry : Registry} {declaration : Declaration} {directives : Override} {record : Record}

/-- A line changes nothing in a record but itself. -/
theorem build_unnumbered (h : build registry declaration directives = .ok record) :
    build registry declaration.unnumbered directives = .ok record.unnumbered := by
  obtain ⟨arguments, strategy, transfers, harguments, hstrategy, hobjections, htransfers, rfl⟩ :=
    exists_merge_of_build h
  unfold build
  refine bind_eq_ok.mpr ⟨arguments, mapError_eq_ok.mpr harguments, ?_⟩
  refine bind_eq_ok.mpr ⟨strategy, mapError_eq_ok.mpr hstrategy, ?_⟩
  rw [show objections declaration.unnumbered directives arguments strategy = [] from hobjections]
  exact bind_eq_ok.mpr ⟨transfers, mapError_eq_ok.mpr htransfers, rfl⟩

theorem hasCommands_of_build (h : build registry declaration directives = .ok record)
    (hstrategy : directives.strategy = some .noCommand) : record.hasCommands = false := by
  obtain ⟨arguments, strategy, transfers, -, hchosen, -, -, rfl⟩ := exists_merge_of_build h
  rw [effectiveStrategy, hstrategy] at hchosen
  cases hchosen
  rfl

/-- Declarations that agree but for their lines have records that do. -/
theorem map_unnumbered_of_builds {overrides : OverrideTable} {declarations : List Declaration}
    {records : List Record}
    (h : declarations.map (fun declaration => build registry declaration
      (overrides.directives declaration.name)) = records.map .ok) :
    (declarations.map Declaration.unnumbered).map (fun declaration => build registry declaration
      (overrides.directives declaration.name)) = (records.map unnumbered).map .ok := by
  induction declarations generalizing records with
  | nil =>
    rw [List.map_eq_nil_iff.mp h.symm]
    rfl
  | cons declaration rest ih =>
    obtain ⟨record, records, rfl, hrecord, hrecords⟩ := List.map_eq_cons_iff.mp h.symm
    simp only [List.map_cons, List.cons.injEq]
    exact ⟨build_unnumbered hrecord.symm, ih hrecords.symm⟩

section

variable {declarations front back : List Declaration} {records : List Record}
  {run : Declaration → Except (List MergeError) Record}

theorem exists_declaration_of_builds (h : declarations.map run = records.map .ok)
    (hrecord : record ∈ records) : ∃ declaration ∈ declarations, run declaration = .ok record := by
  rw [← List.mem_map, h]
  exact List.mem_map_of_mem hrecord

/-- The record of a declaration among others can be left out with it. -/
theorem exists_of_builds_inserted
    (h : (front ++ declaration :: back).map run = records.map .ok) :
    ∃ own record rest, records = own ++ record :: rest ∧ run declaration = .ok record ∧
      (front ++ back).map run = (own ++ rest).map .ok := by
  rw [List.map_append, List.map_cons] at h
  obtain ⟨own, more, rfl, hown, hmore⟩ := List.append_eq_map_iff.mp h
  obtain ⟨record, rest, rfl, hrecord, hrest⟩ := List.map_eq_cons_iff.mp hmore
  refine ⟨own, record, rest, rfl, hrecord.symm, ?_⟩
  rw [List.map_append, List.map_append, hown, hrest]

theorem map_unnumbered_filter (records : List Record) :
    (records.filter hasCommands).map unnumbered = (records.map unnumbered).filter hasCommands := by
  rw [List.filter_map]
  rfl

end

end Record

/-! ## A function more -/

/-- The larger protocol has one function more, which has no commands: there is a line that declares
it, at any place among the others, and an entry among the overrides. -/
structure Protocol.GainsClientFunction (protocol larger : Protocol) (function : String) : Prop where
  rest : larger = { protocol with overrides := larger.overrides, functions := larger.functions }
  declared : ∃ before line after, Text.lines protocol.functions.toList = before ++ after ∧
    Text.lines larger.functions.toList = before ++ line :: after ∧
    ∃ number declaration, SignatureFile.readDeclaration protocol.types number
      (SignatureFile.lineContent line) = .ok declaration ∧ declaration.name = function
  directed : ∃ before directives after, protocol.overrides.entries = before ++ after ∧
    larger.overrides.entries = before ++ directives :: after ∧
    directives.name = function ∧ directives.strategy = some .noCommand

/-- Every entry among the overrides is for a function that is declared. -/
theorem Protocol.exists_record_of_entry {protocol : Protocol} {records : List Record}
    (h : protocol.records = .ok records) :
    ∀ entry ∈ protocol.overrides.entries, ∃ record ∈ records, record.name = entry.name :=
  (Record.crossCheck_eq_ok_iff.mp (crossCheck_of_records h)).2

theorem Protocol.exists_declaration_of_entry {protocol : Protocol} {records : List Record}
    {declarations : List Declaration} (h : protocol.records = .ok records)
    (hdeclarations : protocol.declarations = .ok declarations) :
    ∀ entry ∈ protocol.overrides.entries, ∃ declaration ∈ declarations,
      declaration.name = entry.name := by
  intro entry hentry
  obtain ⟨record, hrecord, hname⟩ := exists_record_of_entry h entry hentry
  obtain ⟨read, hread, hbuilds⟩ := exists_builds_of_records h
  obtain rfl := Except.ok.inj (hread.symm.trans hdeclarations)
  obtain ⟨declaration, hdeclaration, hbuild⟩ := Record.exists_declaration_of_builds hbuilds hrecord
  exact ⟨declaration, hdeclaration, (Record.declared_of_build hbuild).1.symm.trans hname⟩

theorem SignatureFile.readDeclaration_nil_ne_ok {registry : Registry} {line : Nat}
    {declaration : Declaration} : readDeclaration registry line [] ≠ .ok declaration := by
  intro h
  obtain ⟨head, params, -, -, hbody, -⟩ := exists_of_readDeclaration h
  cases head <;> cases hbody

namespace OverrideTable

variable {table larger : OverrideTable} {before after : List Override} {entry : Override}

theorem directives_of_inserted (htable : table.entries = before ++ after)
    (hlarger : larger.entries = before ++ entry :: after) {name : String} (hname : name ≠ entry.name) :
    larger.directives name = table.directives name := by
  have hother : (entry.name == name) = false := by simpa using hname.symm
  rw [directives, directives, get?, get?, htable, hlarger, List.find?_append, List.find?_append,
    List.find?_cons_of_neg (by simp [hother])]

theorem directives_inserted (hlarger : larger.entries = before ++ entry :: after)
    (hbefore : ∀ other ∈ before, other.name ≠ entry.name) :
    larger.directives entry.name = entry := by
  have hnone : before.find? (·.name == entry.name) = none := by simpa using hbefore
  rw [directives, get?, hlarger, List.find?_append, hnone, Option.none_or,
    List.find?_cons_of_pos (by simp), Option.getD_some]

end OverrideTable

namespace Protocol.GainsClientFunction

variable {protocol larger : Protocol} {function : String}
  {records others : List Record}

/-- The declarations of the larger protocol are those of the other, on other lines, and one of the
function. -/
theorem exists_declarations (h : protocol.GainsClientFunction larger function)
    {declarations others : List Declaration} (hsmall : protocol.declarations = .ok declarations)
    (hlarge : larger.declarations = .ok others) :
    ∃ front declaration back, others = front ++ declaration :: back ∧
      declaration.name = function ∧ (∀ other ∈ front ++ back, other.name ≠ function) ∧
      declarations.map Declaration.unnumbered = (front ++ back).map Declaration.unnumbered := by
  obtain ⟨before, line, after, hlines, hlarger, number, read, hread, hname⟩ := h.declared
  have hreadSmall := mapError_eq_ok.mp hsmall
  have hreadLarge := mapError_eq_ok.mp hlarge
  rw [h.rest] at hreadLarge
  have hline : SignatureFile.lineContent line ≠ [] := by
    intro hempty
    rw [hempty] at hread
    exact SignatureFile.readDeclaration_nil_ne_ok hread
  obtain ⟨front, declaration, back, rfl, hdeclares, hsame⟩ :=
    SignatureFile.exists_of_inserted hlines hlarger hline hreadSmall hreadLarge
  have hfunction : declaration.name = function := by
    have hrenumbered :=
      SignatureFile.readDeclaration_renumbered hdeclares.isTrimmed hread declaration.line
    rw [hdeclares.reads] at hrenumbered
    rw [Except.ok.inj hrenumbered]
    exact hname
  refine ⟨front, declaration, back, rfl, hfunction, ?_, hsame⟩
  have hdistinct := (SignatureFile.read_eq_ok_iff.mp hreadLarge).2
  rw [List.map_append, List.map_cons, List.nodup_middle, List.nodup_cons, hfunction,
    ← List.map_append] at hdistinct
  intro other hother hsameName
  exact hdistinct.1 (List.mem_map.mpr ⟨other, hother, hsameName⟩)

/-- The directives of the function are those of its entry, and those of the others are unchanged. -/
theorem directives_of_directed (h : protocol.GainsClientFunction larger function)
    (hapart : ∀ entry ∈ protocol.overrides.entries, entry.name ≠ function) :
    (larger.overrides.directives function).strategy = some .noCommand ∧
      ∀ name ≠ function, larger.overrides.directives name = protocol.overrides.directives name := by
  obtain ⟨before, directives, after, hentries, hlarger, rfl, hstrategy⟩ := h.directed
  have hbefore : ∀ entry ∈ before, entry.name ≠ directives.name := fun entry hentry =>
    hapart entry (hentries ▸ List.mem_append_left _ hentry)
  constructor
  · rw [OverrideTable.directives_inserted hlarger hbefore]
    exact hstrategy
  · exact fun name hname => OverrideTable.directives_of_inserted hentries hlarger hname

/-- The records with commands are the same but for their lines. -/
theorem map_unnumbered_records (h : protocol.GainsClientFunction larger function)
    (hsmall : protocol.records = .ok records) (hlarge : larger.records = .ok others) :
    (records.filter Record.hasCommands).map Record.unnumbered
      = (others.filter Record.hasCommands).map Record.unnumbered := by
  obtain ⟨declarations, hdeclarations, hrecords⟩ := exists_builds_of_records hsmall
  obtain ⟨otherDeclarations, hotherDeclarations, hothers⟩ := exists_builds_of_records hlarge
  obtain ⟨front, declaration, back, rfl, hfunction, hapart, hsame⟩ :=
    h.exists_declarations hdeclarations hotherDeclarations
  have hnone : ∀ entry ∈ protocol.overrides.entries, entry.name ≠ function := by
    intro entry hentry
    obtain ⟨source, hsource, hname⟩ := exists_declaration_of_entry hsmall hdeclarations entry hentry
    have hmoved : source.unnumbered ∈ (front ++ back).map Declaration.unnumbered :=
      hsame ▸ List.mem_map_of_mem hsource
    obtain ⟨other, hother, hotherSame⟩ := List.mem_map.mp hmoved
    have hotherName : other.name = source.name := by simpa using congrArg Declaration.name hotherSame
    rw [← hname, ← hotherName]
    exact hapart other hother
  obtain ⟨hstrategy, hdirectives⟩ := h.directives_of_directed hnone
  have htypes : larger.types = protocol.types := by rw [h.rest]
  rw [htypes] at hothers
  obtain ⟨own, record, rest, rfl, hrecord, hkept⟩ := Record.exists_of_builds_inserted hothers
  rw [hfunction] at hrecord
  have hquiet : record.hasCommands = false := Record.hasCommands_of_build hrecord hstrategy
  have hshared : (front ++ back).map (fun declaration => Record.build protocol.types declaration
      (protocol.overrides.directives declaration.name)) = (own ++ rest).map .ok := by
    rw [← hkept]
    exact List.map_congr_left fun other hother => by rw [hdirectives _ (hapart other hother)]
  have hunnumbered : records.map Record.unnumbered = (own ++ rest).map Record.unnumbered := by
    have hboth := Record.map_unnumbered_of_builds hrecords
    rw [hsame, Record.map_unnumbered_of_builds hshared] at hboth
    exact ((List.map_inj_right fun _ _ => Except.ok.inj).mp hboth).symm
  rw [List.filter_append, List.filter_cons_of_neg (by simp [hquiet]), ← List.filter_append,
    Record.map_unnumbered_filter, Record.map_unnumbered_filter, hunnumbered]

/-- The blueprints are the same but for what only clients see. -/
theorem condensed_blueprint (h : protocol.GainsClientFunction larger function)
    {blueprint other : Blueprint} (hsmall : protocol.blueprint = .ok blueprint)
    (hlarge : larger.blueprint = .ok other) : blueprint.condensed = other.condensed := by
  obtain ⟨records, commands, support, hrecords, hcommands, hsupport, rfl⟩ :=
    exists_plan_of_blueprint hsmall
  obtain ⟨others, otherCommands, otherSupport, hothers, hotherCommands, hotherSupport, rfl⟩ :=
    exists_plan_of_blueprint hlarge
  have hsame := h.map_unnumbered_records hrecords hothers
  rw [h.rest] at hotherCommands hotherSupport ⊢
  obtain rfl := Option.some.inj (hsupport.symm.trans hotherSupport)
  have hvalidators : protocol.validators records = protocol.validators others := by
    rw [validators, validators, ← ValidatorSet.synthesize_condensed, hsame,
      ValidatorSet.synthesize_condensed]
  have hsameCommands := Command.map_unnumbered_of_planAll hsame hcommands hotherCommands
  change (⟨_, _, protocol.validators records, _, _⟩ : Blueprint)
    = ⟨_, _, protocol.validators others, _, _⟩
  rw [hsame, hsameCommands, hvalidators]

end Protocol.GainsClientFunction

/-- A function without commands is invisible behind the interface of the client. If a protocol is
generated both with a function of this kind and without it, then all artifacts but the interface of
the client and its implementation are the same, path by path and token by token. -/
theorem Protocol.client_function_invisible {protocol larger : Protocol} {function : String}
    {format : Formatter} {generation other : Generation}
    (h : protocol.GainsClientFunction larger function)
    (hsmall : protocol.generate format = .ok generation)
    (hlarge : larger.generate format = .ok other) :
    ∃ artifacts others, generation.blueprint.bundle = .ok artifacts ∧
      other.blueprint.bundle = .ok others ∧
      artifacts.filter (·.kind ∈ ArtifactKind.behindInterface)
        = others.filter (·.kind ∈ ArtifactKind.behindInterface) ∧
      (artifacts.filter (·.kind ∈ ArtifactKind.behindInterface)).map Artifact.kind
        = ArtifactKind.behindInterface := by
  obtain ⟨hblueprint, artifacts, hartifacts⟩ := exists_bundle_of_generate hsmall
  obtain ⟨hother, others, hothers⟩ := exists_bundle_of_generate hlarge
  have hsame := h.condensed_blueprint hblueprint hother
  refine ⟨artifacts, others, hartifacts, hothers, ?_⟩
  refine Blueprint.filter_eq_of_bundle (congrArg (·.protocol.filePrefix) hsame) (fun kind hkind => ?_)
    hartifacts hothers
  rw [← generation.blueprint.emit_condensed hkind, hsame, other.blueprint.emit_condensed hkind]

/-! ## A function in front of another -/

def quitDirectives : Override := { name := "Quit", strategy := some .noCommand }

def tickProtocol : Protocol where
  name := "Tick"
  filePrefix := "tick"
  description := "A function for both sides"
  commandBase := 256
  supportPath := "crate::support"
  types := {}
  overrides := {}
  functions := "void Tick(GLuint ticks);"

def quitProtocol : Protocol :=
  { tickProtocol with
    overrides := ⟨[quitDirectives]⟩
    functions := "void Quit();\nvoid Tick(GLuint ticks);" }

def tickParams : List Param := [⟨{ base := "GLuint" }, "ticks"⟩]

def tickRecord (line : Nat) : Record :=
  .merge { name := "Tick", returnType := .void, params := tickParams, line } { name := "Tick" }
    tickParams .direct [.shm]

def quitRecord : Record :=
  .merge { name := "Quit", returnType := .void, params := [], line := 1 } quitDirectives []
    .noCommand []

def tickCommand (line : Nat) : Command where
  record := tickRecord line
  transfer := .shm
  name := "Tick"
  id := 256
  fields := [⟨"ticks", .u32⟩]
  arguments := List.zipWith Argument.mk tickParams [.word 0 .u32]
  count := none
  result := none
  clientId := none

def tickBlueprint (protocol : Protocol) (records : List Record) (line : Nat) : Blueprint where
  protocol
  records
  validators := {}
  commands := [tickCommand line]
  support := { segments := [{ name := "crate" }, { name := "support" }] }

theorem gainsClientFunction_quit : tickProtocol.GainsClientFunction quitProtocol "Quit" where
  rest := rfl
  declared := by
    refine ⟨[], "void Quit();".toList, ["void Tick(GLuint ticks);".toList], by decide, by decide, 1,
      { name := "Quit", returnType := .void, params := [], line := 1 }, by decide, rfl⟩
  directed := ⟨[], quitDirectives, [], rfl, rfl, rfl, rfl⟩

theorem records_tick : tickProtocol.records = .ok [tickRecord 1] := by decide +kernel

theorem records_quit : quitProtocol.records = .ok [quitRecord, tickRecord 2] := by decide +kernel

theorem blueprint_tick : tickProtocol.blueprint
    = .ok (tickBlueprint tickProtocol [tickRecord 1] 1) :=
  Protocol.blueprint_eq_ok records_tick rfl Protocol.ofText?_support

theorem blueprint_quit : quitProtocol.blueprint
    = .ok (tickBlueprint quitProtocol [quitRecord, tickRecord 2] 2) :=
  Protocol.blueprint_eq_ok records_quit rfl Protocol.ofText?_support

/-- The function that is inserted moves the other one, and is in the interface. -/
theorem invisible_quit :
    (∃ artifacts others, (tickBlueprint tickProtocol [tickRecord 1] 1).bundle = .ok artifacts ∧
      (tickBlueprint quitProtocol [quitRecord, tickRecord 2] 2).bundle = .ok others ∧
      artifacts.filter (·.kind ∈ ArtifactKind.behindInterface)
        = others.filter (·.kind ∈ ArtifactKind.behindInterface) ∧
      (artifacts.filter (·.kind ∈ ArtifactKind.behindInterface)).map Artifact.kind
        = ArtifactKind.behindInterface) ∧
    (Interface.entries (tickBlueprint tickProtocol [tickRecord 1] 1)).length = 1 ∧
    (Interface.entries (tickBlueprint quitProtocol [quitRecord, tickRecord 2] 2)).length = 2 := by
  have htick : tickProtocol.generate (fun _ => .ok [])
      = .ok ⟨tickBlueprint tickProtocol [tickRecord 1] 1, []⟩ :=
    Protocol.generate_eq_ok blueprint_tick (by decide +kernel) fun _ => rfl
  have hquit : quitProtocol.generate (fun _ => .ok [])
      = .ok ⟨tickBlueprint quitProtocol [quitRecord, tickRecord 2] 2, []⟩ :=
    Protocol.generate_eq_ok blueprint_quit (by decide +kernel) fun _ => rfl
  exact ⟨Protocol.client_function_invisible gainsClientFunction_quit htick hquit, by decide, by decide⟩

end CommandBuffer
