import CommandBuffer.Artifact.Emission
import CommandBuffer.Proofs.Outcome

/-! # When a file is finished

A file is finished exactly if all names that it was made with, and all that it holds, are possible.
Nothing else keeps it from being finished.
-/

namespace CommandBuffer.Emission

open Code Success

variable {names : List Name} {demands : List Demand} {file code : SourceFile}
  {failure : EmissionFailure}

theorem requireNames_eq_ok_iff :
    requireNames names = .ok () ↔ ∀ name ∈ names, name.isPossible = true := by
  unfold requireNames
  split
  · rename_i name hfound
    refine iff_of_false (fun h => by cases h) fun h => ?_
    have himpossible := List.find?_some hfound
    rw [h name (List.mem_of_find?_eq_some hfound)] at himpossible
    cases himpossible
  · rename_i hnone
    refine iff_of_true rfl fun name hname => ?_
    simpa using List.find?_eq_none.mp hnone name hname

/-- Only a name keeps a tree from being written. -/
theorem exists_named_of_not_isWritable {demand : Demand} (h : (!demand.isWritable) = true) :
    ∃ place name, demand = .named place name := by
  cases demand with
  | named place name => exact ⟨place, name, rfl⟩
  | operators ops => cases h
  | importable path => cases h

theorem requireWritable_eq_ok_iff :
    requireWritable demands = .ok () ↔ ∀ demand ∈ demands, demand.isWritable = true := by
  unfold requireWritable
  cases hfound : demands.find? fun demand => !demand.isWritable with
  | none =>
    refine iff_of_true rfl fun demand hdemand => ?_
    simpa using List.find?_eq_none.mp hfound demand hdemand
  | some demand =>
    have hunwritable := List.find?_some hfound
    obtain ⟨place, name, rfl⟩ := exists_named_of_not_isWritable hunwritable
    refine iff_of_false (fun h => by cases h) fun h => ?_
    rw [h _ (List.mem_of_find?_eq_some hfound)] at hunwritable
    cases hunwritable

theorem finish_eq_ok_iff : finish names file = .ok code ↔
    code = file ∧ (∀ name ∈ names, name.isPossible = true) ∧ file.isWritable = true := by
  rw [finish, bind_eq_ok, SourceFile.isWritable, List.all_eq_true]
  constructor
  · rintro ⟨⟨⟩, hnames, h⟩
    obtain ⟨⟨⟩, hdemands, hfile⟩ := bind_eq_ok.mp h
    exact ⟨(pure_eq_ok.mp hfile).symm, requireNames_eq_ok_iff.mp hnames,
      requireWritable_eq_ok_iff.mp hdemands⟩
  · rintro ⟨rfl, hnames, hdemands⟩
    exact ⟨(), requireNames_eq_ok_iff.mpr hnames,
      bind_eq_ok.mpr ⟨(), requireWritable_eq_ok_iff.mpr hdemands, rfl⟩⟩

theorem exists_impossibleName_of_finish (h : finish names file = .error failure) :
    ∃ spelling, failure = .impossibleName spelling := by
  rw [finish, bind_eq_error] at h
  rcases h with hnames | ⟨-, -, h⟩
  · unfold requireNames at hnames
    split at hnames
    · exact ⟨_, (Except.error.inj hnames).symm⟩
    · cases hnames
  · rcases bind_eq_error.mp h with hdemands | ⟨-, -, h⟩
    · unfold requireWritable at hdemands
      split at hdemands
      · exact ⟨_, (Except.error.inj hdemands).symm⟩
      · cases hdemands
    · cases h

/-- A file that asks for no impossible name is finished as it is. -/
theorem finish_eq_ok (h : ∀ spelling, finish names file ≠ .error (.impossibleName spelling)) :
    finish names file = .ok file := by
  cases houtcome : finish names file with
  | ok code => rw [(finish_eq_ok_iff.mp houtcome).1]
  | error failure =>
    obtain ⟨spelling, rfl⟩ := exists_impossibleName_of_finish houtcome
    exact absurd houtcome (h spelling)

end CommandBuffer.Emission
