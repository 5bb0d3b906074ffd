import CommandBuffer.Generation
import CommandBuffer.Proofs.Bundles
import CommandBuffer.Proofs.Margins
import CommandBuffer.Proofs.Numbering
import Mathlib

/-! # What the directives for clients and tests reach

Eight directives of a function say whether clients see it, who writes its marshaling function, and
which tests it gets. Nothing that client and service have to agree on depends on them: taking them
away changes neither the commands nor any artifact of the wire or of the service. So two protocols
that differ in nothing else have the same wire.
-/

namespace CommandBuffer

open Code Success

/-! ## Without the directives for clients and tests -/

/-- The directives without those for clients and tests. -/
def Override.onWire (directives : Override) : Override :=
  { directives with
    hasClientEntry := true
    hasGeneratedMarshal := true
    isInternal := false
    hasUnitTest := true
    hasClientTest := true
    expectsCall := true
    hasInvalidTest := true
    expectedCall := none }

/-- The record as if it had been built without the directives for clients and tests. -/
def Record.onWire (record : Record) : Record :=
  { record with
    hasClientEntry := true
    hasGeneratedMarshal := true
    isInternal := false
    hasUnitTest := true
    hasClientTest := true
    expectsCall := true
    hasInvalidTest := true
    expectedCall := none }

def Command.onWire (command : Command) : Command := { command with record := command.record.onWire }

def Blueprint.onWire (blueprint : Blueprint) : Blueprint :=
  { blueprint with
    protocol := { blueprint.protocol with overrides := {} }
    records := blueprint.records.map Record.onWire
    commands := blueprint.commands.map Command.onWire }

/-- The protocols differ at most in the directives for clients and tests. -/
structure Protocol.SharesWire (first second : Protocol) : Prop where
  rest : second = { first with overrides := second.overrides }
  directives : ∀ function : String, (first.overrides.directives function).onWire
    = (second.overrides.directives function).onWire

/-- The artifacts of the wire and of the service. -/
def ArtifactKind.wire : List ArtifactKind :=
  [commandTable, commandFormat, formatTests, writers, handlers, validators, validatorBodies]

/-- Protocols share their wire if their overrides agree one by one. -/
theorem Protocol.sharesWire_of_entries {first second : Protocol}
    (hrest : second = { first with overrides := second.overrides })
    (hentries : first.overrides.entries.map Override.onWire
      = second.overrides.entries.map Override.onWire) : first.SharesWire second where
  rest := hrest
  directives := by
    intro function
    have hfind : ∀ table : OverrideTable, (table.get? function).map Override.onWire
        = (table.entries.map Override.onWire).find? (·.name == function) := by
      intro table
      rw [List.find?_map]
      rfl
    have hget := (hfind first.overrides).trans
      ((congrArg _ hentries).trans (hfind second.overrides).symm)
    unfold OverrideTable.directives
    cases hfirst : first.overrides.get? function <;>
      cases hsecond : second.overrides.get? function <;>
      simp only [hfirst, hsecond, Option.map_some, Option.map_none, reduceCtorEq,
        Option.some.injEq] at hget
    · rfl
    · exact hget

/-! ## Records -/

namespace Record

theorem packingFor_onWire (directives : Override) (strategy : Strategy) :
    packingFor directives.onWire strategy = packingFor directives strategy := by
  cases strategy <;> rfl

/-- Records of one declaration agree if their directives do. -/
theorem onWire_eq_of_build {registry : Registry} {declaration : Declaration}
    {first second : Override} {record other : Record} (h : first.onWire = second.onWire)
    (hrecord : build registry declaration first = .ok record)
    (hother : build registry declaration second = .ok other) : record.onWire = other.onWire := by
  obtain ⟨arguments, strategy, transfers, harguments, hstrategy, -, htransfers, rfl⟩ :=
    exists_merge_of_build hrecord
  obtain ⟨arguments', strategy', transfers', harguments', hstrategy', -, htransfers', rfl⟩ :=
    exists_merge_of_build hother
  -- Every step reads its directives through `onWire`.
  have hsame : arguments = arguments' := by
    change effectiveArguments registry declaration first.onWire = _ at harguments
    change effectiveArguments registry declaration second.onWire = _ at harguments'
    rw [h, harguments'] at harguments
    exact (Except.ok.inj harguments).symm
  subst hsame
  have hsame : strategy = strategy' := by
    change effectiveStrategy declaration arguments first.onWire = _ at hstrategy
    change effectiveStrategy declaration arguments second.onWire = _ at hstrategy'
    rw [h, hstrategy'] at hstrategy
    exact (Except.ok.inj hstrategy).symm
  subst hsame
  have hsame : transfers = transfers' := by
    change effectiveTransfers _ _ first.onWire.transfers _ = _ at htransfers
    change effectiveTransfers _ _ second.onWire.transfers _ = _ at htransfers'
    rw [h, htransfers'] at htransfers
    exact (Except.ok.inj htransfers).symm
  subst hsame
  have hmerge : ∀ directives : Override,
      (merge declaration directives arguments strategy transfers).onWire
        = (merge declaration directives.onWire arguments strategy transfers).onWire := by
    intro directives
    simp only [merge, packingFor_onWire]
    rfl
  rw [hmerge first, hmerge second, h]

end Record

namespace Protocol.SharesWire

variable {first second : Protocol} {records others : List Record}

/-- Protocols that share their wire have the same records but for clients and tests. -/
theorem map_onWire_records (h : first.SharesWire second) (hfirst : first.records = .ok records)
    (hsecond : second.records = .ok others) :
    records.map Record.onWire = others.map Record.onWire := by
  obtain ⟨declarations, hdeclarations, hrecords⟩ := exists_builds_of_records hfirst
  obtain ⟨same, hsame, hothers⟩ := exists_builds_of_records hsecond
  rw [h.rest] at hsame hothers
  change first.declarations = _ at hsame
  obtain rfl : declarations = same := Except.ok.inj (hdeclarations.symm.trans hsame)
  clear hdeclarations hsame hfirst hsecond
  induction declarations generalizing records others with
  | nil =>
    rw [List.map_eq_nil_iff.mp hrecords.symm, List.map_eq_nil_iff.mp hothers.symm]
  | cons declaration rest ih =>
    obtain ⟨record, records, rfl, hrecord, hrecords⟩ := List.map_eq_cons_iff.mp hrecords.symm
    obtain ⟨other, others, rfl, hother, hothers⟩ := List.map_eq_cons_iff.mp hothers.symm
    rw [List.map_cons, List.map_cons, ih hrecords.symm hothers.symm,
      Record.onWire_eq_of_build (h.directives declaration.name) hrecord.symm hother.symm]

end Protocol.SharesWire

/-! ## Commands and artifacts -/

/-- The margin of a record that was built without the directives for clients and tests. -/
def Record.wireMargin (record : Record) : Record.Margin where
  line := record.line
  hasClientEntry := true
  hasGeneratedMarshal := true
  isInternal := false
  hasUnitTest := true
  hasClientTest := true
  expectsCall := true
  hasInvalidTest := true
  expectedCall := none

theorem Record.onWire_eq : Record.onWire = Record.remargin Record.wireMargin := rfl

theorem Command.onWire_eq : Command.onWire = Command.remargin Record.wireMargin := rfl

/-- Blueprints of protocols that share their wire agree but for clients and tests. -/
theorem Protocol.SharesWire.onWire_blueprint {first second : Protocol}
    {blueprint other : Blueprint} (h : first.SharesWire second)
    (hfirst : first.blueprint = .ok blueprint) (hsecond : second.blueprint = .ok other) :
    blueprint.onWire = other.onWire := by
  obtain ⟨records, commands, support, hrecords, hcommands, hsupport, rfl⟩ :=
    exists_plan_of_blueprint hfirst
  obtain ⟨others, otherCommands, otherSupport, hothers, hotherCommands, hotherSupport, rfl⟩ :=
    exists_plan_of_blueprint hsecond
  have hshared := h.map_onWire_records hrecords hothers
  rw [h.rest] at hotherCommands hotherSupport ⊢
  obtain rfl := Option.some.inj (hsupport.symm.trans hotherSupport)
  have hvalidators : first.validators records = first.validators others := by
    rw [Record.onWire_eq] at hshared
    rw [validators, validators, ← ValidatorSet.synthesize_remargin, hshared,
      ValidatorSet.synthesize_remargin]
  have hsharedCommands : commands.map Command.onWire = otherCommands.map Command.onWire := by
    rw [Command.onWire_eq]
    exact Command.map_remargin_of_planAll (Record.onWire_eq ▸ hshared) hcommands hotherCommands
  change (⟨_, _, first.validators records, _, _⟩ : Blueprint)
    = ⟨_, _, first.validators others, _, _⟩
  rw [hshared, hsharedCommands, hvalidators]

namespace Blueprint

variable (blueprint : Blueprint)

theorem onWire_eq : blueprint.onWire = blueprint.remargin Record.wireMargin {}
    blueprint.protocol.functions (blueprint.records.map Record.onWire) := rfl

/-- No artifact of the wire or of the service depends on the directives for clients and tests. -/
theorem emit_onWire {kind : ArtifactKind} (h : kind ∈ ArtifactKind.wire) :
    blueprint.onWire.emit kind = blueprint.emit kind := by
  rw [onWire_eq]
  cases kind with
  | commandTable => exact commandTable_remargin ..
  | commandFormat => exact commandFormat_remargin ..
  | formatTests => exact formatTests_remargin ..
  | writers => exact writers_remargin ..
  | handlers => exact handlers_remargin ..
  | validators | validatorBodies => rfl
  | interface | implementation | marshaling | clientTests | handlerTests =>
    simp [ArtifactKind.wire] at h

end Blueprint

/-- Protocols that differ at most in the directives for clients and tests have the same wire: each
artifact of the wire and of the service is emitted alike, and if both bundles succeed, then they hold
the same seven of these artifacts, path by path and token by token. -/
theorem Protocol.wire_artifacts_eq {first second : Protocol} (h : first.SharesWire second)
    {blueprint other : Blueprint} (hfirst : first.blueprint = .ok blueprint)
    (hsecond : second.blueprint = .ok other) :
    (∀ kind ∈ ArtifactKind.wire, blueprint.emit kind = other.emit kind) ∧
      ∀ artifacts others, blueprint.bundle = .ok artifacts → other.bundle = .ok others →
        artifacts.filter (·.kind ∈ ArtifactKind.wire) = others.filter (·.kind ∈ ArtifactKind.wire) ∧
        (artifacts.filter (·.kind ∈ ArtifactKind.wire)).map Artifact.kind = ArtifactKind.wire := by
  have hsame := h.onWire_blueprint hfirst hsecond
  have hemit : ∀ kind ∈ ArtifactKind.wire, blueprint.emit kind = other.emit kind := by
    intro kind hkind
    rw [← blueprint.emit_onWire hkind, hsame, other.emit_onWire hkind]
  exact ⟨hemit, fun artifacts others hartifacts hothers =>
    Blueprint.filter_eq_of_bundle (congrArg (·.protocol.filePrefix) hsame) hemit hartifacts hothers⟩

/-! ## A function that clients see and that is hidden from them -/

def openPause : Override := { name := "Pause", traceLevel := some 1 }

/-- Every directive for clients and tests differs. -/
def hiddenPause : Override :=
  { openPause with
    hasClientEntry := false
    hasGeneratedMarshal := false
    isInternal := true
    hasUnitTest := false
    hasClientTest := false
    expectsCall := false
    hasInvalidTest := false
    expectedCall := some "suspend" }

def untestedResume : Override := { name := "Resume", hasClientTest := false }

def pauseProtocol (overrides : List Override) : Protocol where
  name := "Pause"
  filePrefix := "pause"
  description := "A function for all or for nobody"
  commandBase := 256
  supportPath := "crate::support"
  types := {}
  overrides := ⟨overrides⟩
  functions := "void Pause(GLuint64 ticks);\nvoid Resume();"

def pauseParams : List Param := [⟨{ base := "GLuint64" }, "ticks"⟩]

def pauseRecord (directives : Override) : Record :=
  .merge { name := "Pause", returnType := .void, params := pauseParams, line := 1 } directives
    pauseParams .direct [.shm]

def resumeRecord (directives : Override) : Record :=
  .merge { name := "Resume", returnType := .void, params := [], line := 2 } directives [] .direct
    [.shm]

def pauseCommand (directives : Override) : Command where
  record := pauseRecord directives
  transfer := .shm
  name := "Pause"
  id := 256
  fields := [⟨"ticks_0", .u32⟩, ⟨"ticks_1", .u32⟩]
  arguments := List.zipWith Argument.mk pauseParams [.split 0 1]
  count := none
  result := none
  clientId := none

def resumeCommand (directives : Override) : Command where
  record := resumeRecord directives
  transfer := .shm
  name := "Resume"
  id := 257
  fields := []
  arguments := []
  count := none
  result := none
  clientId := none

def pauseBlueprint (overrides : List Override) : Blueprint where
  protocol := pauseProtocol overrides
  records := [pauseRecord (OverrideTable.directives ⟨overrides⟩ "Pause"),
    resumeRecord (OverrideTable.directives ⟨overrides⟩ "Resume")]
  validators := {}
  commands := [pauseCommand (OverrideTable.directives ⟨overrides⟩ "Pause"),
    resumeCommand (OverrideTable.directives ⟨overrides⟩ "Resume")]
  support := { segments := [{ name := "crate" }, { name := "support" }] }

theorem records_open : (pauseProtocol [openPause, { name := "Resume" }]).records
    = .ok (pauseBlueprint [openPause, { name := "Resume" }]).records := by decide +kernel

theorem records_hidden : (pauseProtocol [hiddenPause, untestedResume]).records
    = .ok (pauseBlueprint [hiddenPause, untestedResume]).records := by decide +kernel

theorem blueprint_open : (pauseProtocol [openPause, { name := "Resume" }]).blueprint
    = .ok (pauseBlueprint [openPause, { name := "Resume" }]) :=
  Protocol.blueprint_eq_ok records_open rfl Protocol.ofText?_support

theorem blueprint_hidden : (pauseProtocol [hiddenPause, untestedResume]).blueprint
    = .ok (pauseBlueprint [hiddenPause, untestedResume]) :=
  Protocol.blueprint_eq_ok records_hidden rfl Protocol.ofText?_support

theorem sharesWire_pause : (pauseProtocol [openPause, { name := "Resume" }]).SharesWire
    (pauseProtocol [hiddenPause, untestedResume]) :=
  Protocol.sharesWire_of_entries rfl rfl

/-- Hiding the function leaves the wire as it is, and takes its marshaling function away. -/
theorem wire_artifacts_pause :
    (∀ kind ∈ ArtifactKind.wire,
      (pauseBlueprint [openPause, { name := "Resume" }]).emit kind
        = (pauseBlueprint [hiddenPause, untestedResume]).emit kind) ∧
    (pauseBlueprint [openPause, { name := "Resume" }]).bundle.isOk = true ∧
    (pauseBlueprint [hiddenPause, untestedResume]).bundle.isOk = true ∧
    (Marshaling.functions (pauseBlueprint [openPause, { name := "Resume" }])).length = 2 ∧
    (Marshaling.functions (pauseBlueprint [hiddenPause, untestedResume])).length = 1 :=
  ⟨(Protocol.wire_artifacts_eq sharesWire_pause blueprint_open blueprint_hidden).1,
    by decide +kernel, by decide +kernel, by decide, by decide⟩

end CommandBuffer
