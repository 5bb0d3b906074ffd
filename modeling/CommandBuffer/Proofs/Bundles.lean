import CommandBuffer.Generation
import CommandBuffer.Proofs.Outcome
import Mathlib

/-! # What a bundle holds

A bundle succeeds exactly if every artifact is emitted, and then holds one artifact of each kind. It
breaks off exactly if some artifact asks for an impossible name.
-/

namespace CommandBuffer

open Success

theorem ArtifactKind.mem_all (kind : ArtifactKind) : kind ∈ ArtifactKind.all := by
  cases kind <;> decide

/-- An emitted artifact with its path. -/
def Blueprint.artifact (blueprint : Blueprint) (kind : ArtifactKind) (code : Code.SourceFile) :
    Artifact where
  kind
  path := kind.relativePath blueprint.protocol.filePrefix
  code

namespace Blueprint

variable {blueprint : Blueprint} {artifacts : List Artifact}

theorem impossibleName?_eq_none_iff {outcomes : List (Emission Artifact)} :
    impossibleName? outcomes = none ↔
      ∀ spelling, .error (.impossibleName spelling) ∉ outcomes := by
  rw [impossibleName?, List.findSome?_eq_none_iff]
  constructor
  · intro h spelling hmem
    exact absurd (h _ hmem) (Option.some_ne_none _)
  · intro h outcome houtcome
    split
    · exact absurd houtcome (h _)
    · rfl

/-- A bundle that succeeds has all that was emitted. -/
theorem bundle_eq_ok_iff : blueprint.bundle = .ok artifacts ↔
    blueprint.outcomes = artifacts.map .ok := by
  constructor
  · intro h
    simp only [bundle] at h
    split at h
    · cases h
    · rename_i hpossible
      split at h
      · rename_i haccepted
        rw [← Except.ok.inj h]
        rw [impossibleName?_eq_none_iff] at hpossible
        clear h
        generalize blueprint.outcomes = outcomes at hpossible haccepted
        induction outcomes with
        | nil => rfl
        | cons outcome rest ih =>
          have hrest := ih fun spelling hmem => hpossible spelling (List.mem_cons_of_mem _ hmem)
          cases outcome with
          | error failure =>
            cases failure with
            | impossibleName spelling => exact absurd List.mem_cons_self (hpossible spelling)
            | rejected cause => cases haccepted
          | ok artifact => rw [Outcome.values, List.map_cons, ← hrest haccepted]
      · cases h
  · intro h
    have hpossible : impossibleName? blueprint.outcomes = none := by
      rw [impossibleName?_eq_none_iff, h]
      intro spelling hmem
      obtain ⟨artifact, -, hartifact⟩ := List.mem_map.mp hmem
      cases hartifact
    have haccepted : (artifacts.map (.ok : Artifact → Emission Artifact)).filterMap rejection?
        = [] := by
      rw [List.filterMap_map]
      exact List.filterMap_eq_nil_iff.mpr fun _ _ => rfl
    rw [h] at hpossible
    simp only [bundle, h, hpossible, haccepted, Outcome.values_map_ok]

/-- A bundle that succeeds holds the artifacts of all kinds as they are emitted, in their order. -/
theorem exists_code_of_bundle (h : blueprint.bundle = .ok artifacts) :
    ∃ code : ArtifactKind → Code.SourceFile, (∀ kind, blueprint.emit kind = .ok (code kind)) ∧
      artifacts = ArtifactKind.all.map fun kind => blueprint.artifact kind (code kind) := by
  have houtcomes := bundle_eq_ok_iff.mp h
  have hemitted : ∀ kind, ∃ code, blueprint.emit kind = .ok code := by
    intro kind
    have hmem := List.mem_map_of_mem (f := fun kind => show Emission Artifact from do
      let code ← blueprint.emit kind
      return { kind, path := kind.relativePath blueprint.protocol.filePrefix, code })
      (ArtifactKind.mem_all kind)
    change _ ∈ blueprint.outcomes at hmem
    rw [houtcomes] at hmem
    obtain ⟨artifact, -, hartifact⟩ := List.mem_map.mp hmem
    obtain ⟨code, hcode, -⟩ := bind_eq_ok.mp hartifact.symm
    exact ⟨code, hcode⟩
  choose code hcode using hemitted
  refine ⟨code, hcode, ?_⟩
  refine (List.map_inj_right fun _ _ => Except.ok.inj).mp (houtcomes.symm.trans ?_)
  rw [List.map_map]
  exact List.map_congr_left fun kind _ => bind_eq_ok.mpr ⟨code kind, hcode kind, rfl⟩

/-- Of some kinds, bundles hold the same artifacts if these are emitted alike. -/
theorem filter_eq_of_bundle {other : Blueprint} {others : List Artifact} {kinds : List ArtifactKind}
    (hstem : blueprint.protocol.filePrefix = other.protocol.filePrefix)
    (hemit : ∀ kind ∈ kinds, blueprint.emit kind = other.emit kind)
    (h : blueprint.bundle = .ok artifacts) (hother : other.bundle = .ok others) :
    artifacts.filter (·.kind ∈ kinds) = others.filter (·.kind ∈ kinds) ∧
      (artifacts.filter (·.kind ∈ kinds)).map Artifact.kind
        = ArtifactKind.all.filter (· ∈ kinds) := by
  obtain ⟨code, hcode, rfl⟩ := exists_code_of_bundle h
  obtain ⟨otherCode, hotherCode, rfl⟩ := exists_code_of_bundle hother
  rw [List.filter_map, List.filter_map]
  refine ⟨List.map_congr_left fun kind hkind => ?_, ?_⟩
  · have hfile : code kind = otherCode kind := by
      have hkind : kind ∈ kinds := of_decide_eq_true (List.mem_filter.mp hkind).2
      exact Except.ok.inj ((hcode kind).symm.trans ((hemit kind hkind).trans (hotherCode kind)))
    rw [artifact, artifact, hstem, hfile]
  · rw [List.map_map]
    exact List.map_id _

end Blueprint

/-! ## From a protocol to its bundle -/

namespace Protocol

variable {protocol : Protocol}

/-- What a blueprint was drawn from. -/
theorem exists_plan_of_blueprint {blueprint : Blueprint} (h : protocol.blueprint = .ok blueprint) :
    ∃ records commands support, protocol.records = .ok records ∧
      Command.planAll records protocol.commandBase = .ok commands ∧
      Code.ModulePath.ofText? protocol.supportPath = some support ∧
      blueprint = ⟨protocol, records, protocol.validators records, commands, support⟩ := by
  obtain ⟨records, hrecords, h⟩ := bind_eq_ok.mp h
  obtain ⟨commands, hcommands, h⟩ := bind_eq_ok.mp h
  rw [mapError_eq_ok, Blueprint.ofPlan] at h
  split at h
  · rename_i support hsupport
    exact ⟨records, commands, support, hrecords, mapError_eq_ok.mp hcommands, hsupport,
      (Except.ok.inj h).symm⟩
  · cases h

/-- A blueprint is drawn if its records and its commands are, and its support path can be read. -/
theorem blueprint_eq_ok {records : List Record} {commands : List Command} {support : Code.ModulePath}
    (hrecords : protocol.records = .ok records)
    (hcommands : protocol.commands records = .ok commands)
    (hsupport : Code.ModulePath.ofText? protocol.supportPath = some support) :
    protocol.blueprint
      = .ok ⟨protocol, records, protocol.validators records, commands, support⟩ := by
  refine bind_eq_ok.mpr ⟨records, hrecords, bind_eq_ok.mpr ⟨commands, hcommands, ?_⟩⟩
  rw [mapError_eq_ok, Blueprint.ofPlan, hsupport]

/-- The path that the examples take their runtime types from. -/
theorem ofText?_support : Code.ModulePath.ofText? "crate::support"
    = some { segments := [{ name := "crate" }, { name := "support" }] } := by cbv

/-- A generation was bundled from the blueprint of its protocol. -/
theorem exists_bundle_of_generate {format : Formatter} {generation : Generation}
    (h : protocol.generate format = .ok generation) : protocol.blueprint = .ok generation.blueprint ∧
      ∃ artifacts, generation.blueprint.bundle = .ok artifacts := by
  obtain ⟨blueprint, hblueprint, h⟩ := bind_eq_ok.mp h
  obtain ⟨artifacts, hartifacts, h⟩ := bind_eq_ok.mp h
  obtain ⟨files, -, h⟩ := bind_eq_ok.mp h
  rw [pure_eq_ok] at h
  subst h
  exact ⟨mapError_eq_ok.mp hblueprint, artifacts, mapError_eq_ok.mp hartifacts⟩

/-- A protocol is generated if its blueprint is bundled and the bundle can be formatted. -/
theorem generate_eq_ok {format : Formatter} {blueprint : Blueprint} {files : List Storage.OutputFile}
    (hblueprint : protocol.blueprint = .ok blueprint) (hbundle : blueprint.bundle.isOk = true)
    (hformat : ∀ artifacts, format artifacts = .ok files) :
    protocol.generate format = .ok ⟨blueprint, files⟩ := by
  obtain ⟨artifacts, hartifacts⟩ := exists_of_isOk hbundle
  refine bind_eq_ok.mpr ⟨blueprint, mapError_eq_ok.mpr hblueprint, ?_⟩
  refine bind_eq_ok.mpr ⟨artifacts, mapError_eq_ok.mpr hartifacts, ?_⟩
  exact bind_eq_ok.mpr ⟨files, mapError_eq_ok.mpr (hformat artifacts), rfl⟩

end Protocol
end CommandBuffer
