import CommandBuffer.Storage.FileTree
import Mathlib.Data.List.Infix

/-! # What stands where

A file tree is used through what stands at its locations. Each change of a tree is described by the
lookups after it, and it keeps the tree rooted: whatever stands in the tree stands in a directory.
-/

namespace CommandBuffer.Storage.FileTree

variable {tree before after : FileTree} {location above source target : Location}

@[simp] theorem lookup_root (tree : FileTree) : tree.lookup [] = some .directory := if_pos rfl

theorem isDirectory_iff : tree.isDirectory location = true ↔ tree.lookup location = some .directory :=
  beq_iff_eq

theorem isFile_iff :
    tree.isFile location = true ↔ ∃ content, tree.lookup location = some (.file content) := by
  unfold isFile
  split <;> simp_all

theorem isAtOrAbove_iff : isAtOrAbove above location = true ↔ above <+: location :=
  List.isPrefixOf_iff_prefix

theorem exists_entry_of_lookup {entry : Entry} (hroot : location ≠ [])
    (h : tree.lookup location = some entry) : (location, entry) ∈ tree.entries := by
  rw [lookup, if_neg hroot, Option.map_eq_some_iff] at h
  obtain ⟨found, hfind, rfl⟩ := h
  have hlocation : found.1 = location := by simpa using List.find?_some hfind
  exact hlocation ▸ List.mem_of_find?_eq_some hfind

theorem lookup_append_eq_none_of_isBare (h : tree.isBare location = true) {rest : Location}
    (hrest : rest ≠ []) : tree.lookup (location ++ rest) = none := by
  cases hlookup : tree.lookup (location ++ rest) with
  | none => rfl
  | some entry =>
    have hmem := exists_entry_of_lookup (by simp [hrest]) hlookup
    have hbare := List.all_eq_true.mp h _ hmem
    simp [isAtOrAbove_iff.mpr (List.prefix_append location rest), hrest] at hbare

/-! ## Changes -/

/-- The entry that is found at a location of a changed tree, if the entries that get there are those
of one location before. -/
theorem lookup_filter_map {keeps : Location × Entry → Bool}
    {move : Location × Entry → Location × Entry} (hlocation : location ≠ []) (hsource : source ≠ [])
    (hentry : ∀ old, (move old).2 = old.2)
    (hmove : ∀ old, keeps old = true ∧ (move old).1 = location ↔ old.1 = source) :
    lookup ⟨(tree.entries.filter keeps).map move⟩ location = tree.lookup source := by
  have hfound : (fun old => decide (keeps old = true ∧ decide ((move old).1 = location) = true))
      = fun old : Location × Entry => decide (old.1 = source) := by
    funext old
    simp only [decide_eq_true_eq, hmove]
  have hentries : Prod.snd ∘ move = Prod.snd := funext hentry
  rw [lookup, lookup, if_neg hlocation, if_neg hsource, List.find?_map, List.find?_filter,
    Option.map_map, hentries]
  exact congrArg (fun found => (tree.entries.find? found).map Prod.snd) hfound

/-- Nothing is found at a location where no entry of the changed tree gets. -/
theorem lookup_filter_map_eq_none {keeps : Location × Entry → Bool}
    {move : Location × Entry → Location × Entry} (hlocation : location ≠ [])
    (hmove : ∀ old, keeps old = true → (move old).1 ≠ location) :
    lookup ⟨(tree.entries.filter keeps).map move⟩ location = none := by
  rw [lookup, if_neg hlocation, Option.map_eq_none_iff, List.find?_eq_none]
  intro entry hentry
  obtain ⟨old, hold, rfl⟩ := List.mem_map.mp hentry
  simpa using hmove old (List.mem_filter.mp hold).2

theorem lookup_put (hroot : target ≠ []) (entry : Entry) (location : Location) :
    (tree.put target entry).lookup location
      = if location = target then some entry else tree.lookup location := by
  by_cases heq : location = target
  · simp [heq, lookup, put, hroot]
  by_cases hlocation : location = []
  · simp [hlocation, hroot.symm]
  have hothers : lookup ⟨tree.entries.filter fun old => decide (old.1 ≠ target)⟩ location
      = tree.lookup location := by
    rw [← List.map_id (tree.entries.filter _)]
    refine lookup_filter_map hlocation hlocation (fun _ => rfl) fun old => ?_
    simpa using fun hold => hold ▸ heq
  rw [if_neg heq, ← hothers, lookup, lookup, if_neg hlocation, if_neg hlocation, put,
    List.find?_cons_of_neg (by simpa using Ne.symm heq)]

theorem lookup_remove (hroot : target ≠ []) (location : Location) :
    (tree.remove target).lookup location
      = if target <+: location then none else tree.lookup location := by
  by_cases hlocation : location = []
  · simp [hlocation, hroot]
  rw [remove, ← List.map_id (tree.entries.filter _)]
  split
  · rename_i hunder
    refine lookup_filter_map_eq_none hlocation fun old hkeeps hold => ?_
    simp [show old.1 = location from hold, isAtOrAbove_iff.mpr hunder] at hkeeps
  · rename_i hunder
    refine lookup_filter_map hlocation hlocation (fun _ => rfl) fun old => ?_
    simpa using fun hold => hold ▸ eq_false_of_ne_true (mt isAtOrAbove_iff.mp hunder)

/-- All that stood at or below the source stands at or below the target, in place of what stood
there, and nothing else is changed. -/
structure Moves (before : FileTree) (source target : Location) (after : FileTree) : Prop where
  source_apart : ¬ source <+: target
  target_apart : ¬ target <+: source
  arrived (rest : Location) : after.lookup (target ++ rest) = before.lookup (source ++ rest)
  vacated (rest : Location) : after.lookup (source ++ rest) = none
  kept (location : Location) : ¬ source <+: location → ¬ target <+: location →
    after.lookup location = before.lookup location

/-- Where an entry stands after a move. -/
def moved (source target : Location) (entry : Location × Entry) : Location × Entry :=
  if isAtOrAbove source entry.1 then (target ++ entry.1.drop source.length, entry.2) else entry

theorem moved_of_under (rest : Location) (entry : Entry) :
    moved source target (source ++ rest, entry) = (target ++ rest, entry) := by
  rw [moved, if_pos (isAtOrAbove_iff.mpr (List.prefix_append source rest)), List.drop_left]

theorem moved_of_not_under (h : ¬ source <+: location) (entry : Entry) :
    moved source target (location, entry) = (location, entry) :=
  if_neg (mt isAtOrAbove_iff.mp h)

theorem snd_moved (source target : Location) (entry : Location × Entry) :
    (moved source target entry).2 = entry.2 := by
  unfold moved
  split <;> rfl

theorem apart_of_append (hsource : ¬ source <+: target) (htarget : ¬ target <+: source)
    (rest : Location) : ¬ target <+: source ++ rest := by
  intro h
  have hcomparable := List.prefix_or_prefix_of_prefix h (List.prefix_append source rest)
  exact hcomparable.elim htarget hsource

theorem moves_relocate (hsource : ¬ source <+: target) (htarget : ¬ target <+: source) :
    tree.Moves source target (tree.relocate source target) := by
  have hkeeps : ∀ old : Location × Entry,
      (!isAtOrAbove target old.1) = true ↔ ¬ target <+: old.1 := by
    intro old
    rw [Bool.not_eq_true', ← Bool.not_eq_true, isAtOrAbove_iff]
  have hrelocate : tree.relocate source target
      = ⟨(tree.entries.filter fun old => !isAtOrAbove target old.1).map (moved source target)⟩ := rfl
  have hne : source ≠ [] ∧ target ≠ [] := by
    constructor <;> rintro rfl <;> simp at hsource htarget
  -- Entries at or below the target are dropped, so whatever gets there comes from the source.
  rw [hrelocate]
  refine ⟨hsource, htarget, fun rest => ?_, fun rest => ?_, fun location hleft hright => ?_⟩
  · refine lookup_filter_map (by simp [hne]) (by simp [hne]) (snd_moved source target) ?_
    rintro ⟨location, entry⟩
    rw [hkeeps]
    by_cases hunder : source <+: location
    · obtain ⟨rest', rfl⟩ := hunder
      simp [moved_of_under, apart_of_append hsource htarget]
    · rw [moved_of_not_under hunder]
      exact ⟨fun h => absurd ⟨rest, h.2.symm⟩ h.1, fun h => absurd ⟨rest, h.symm⟩ hunder⟩
  · refine lookup_filter_map_eq_none (by simp [hne]) ?_
    rintro ⟨location, entry⟩ hold hmoved
    by_cases hunder : source <+: location
    · obtain ⟨rest', rfl⟩ := hunder
      rw [moved_of_under] at hmoved
      exact apart_of_append htarget hsource rest' ⟨rest, hmoved.symm⟩
    · rw [moved_of_not_under hunder] at hmoved
      exact hunder ⟨rest, hmoved.symm⟩
  · by_cases hlocation : location = []
    · rw [hlocation, lookup_root, lookup_root]
    refine lookup_filter_map hlocation hlocation (snd_moved source target) ?_
    rintro ⟨old, entry⟩
    rw [hkeeps]
    by_cases hunder : source <+: old
    · obtain ⟨rest, rfl⟩ := hunder
      rw [moved_of_under]
      exact ⟨fun h => absurd ⟨rest, h.2⟩ hright,
        fun h => absurd (h ▸ List.prefix_append source rest) hleft⟩
    · rw [moved_of_not_under hunder]
      exact ⟨fun h => h.2, fun h => ⟨h ▸ hright, h⟩⟩

/-! ## Rooted trees -/

/-- Whatever stands in the tree stands in a directory. -/
def IsRooted (tree : FileTree) : Prop :=
  ∀ folder name, tree.lookup (folder ++ [name]) ≠ none → tree.lookup folder = some .directory

theorem isRooted_of_entries
    (h : ∀ entry ∈ tree.entries, tree.lookup entry.1.dropLast = some .directory) :
    tree.IsRooted := by
  intro folder name hlookup
  obtain ⟨entry, hentry⟩ := Option.ne_none_iff_exists'.mp hlookup
  have hfolder := h _ (exists_entry_of_lookup (by simp) hentry)
  rwa [List.dropLast_concat] at hfolder

namespace IsRooted

variable {folder : Location} {name : String}

theorem isDirectory_above (h : tree.IsRooted) {rest : Location} (hrest : rest ≠ [])
    (hlookup : tree.lookup (above ++ rest) ≠ none) : tree.lookup above = some .directory := by
  induction rest generalizing above with
  | nil => exact absurd rfl hrest
  | cons name rest ih =>
    rw [List.append_cons] at hlookup
    by_cases hinner : rest = []
    · rw [hinner, List.append_nil] at hlookup
      exact h above name hlookup
    · exact h above name (by simp [ih hinner hlookup])

/-- Nothing stands below what is no directory. -/
theorem lookup_below (h : tree.IsRooted) (hlookup : tree.lookup above ≠ some .directory)
    {rest : Location} (hrest : rest ≠ []) : tree.lookup (above ++ rest) = none :=
  Classical.byContradiction fun hsome => hlookup (h.isDirectory_above hrest hsome)

theorem put (h : tree.IsRooted) (hfolder : tree.lookup folder = some .directory) {entry : Entry}
    (hentry : entry = .directory ∨ tree.lookup (folder ++ [name]) ≠ some .directory) :
    (tree.put (folder ++ [name]) entry).IsRooted := by
  intro above last hlookup
  have hroot : folder ++ [name] ≠ [] := by simp
  rw [lookup_put hroot entry] at hlookup ⊢
  by_cases hat : above ++ [last] = folder ++ [name]
  · obtain rfl := (List.append_inj' hat rfl).1
    rw [if_neg (by simp), hfolder]
  · rw [if_neg hat] at hlookup
    have habove := h above last hlookup
    by_cases htarget : above = folder ++ [name]
    · rw [if_pos htarget]
      exact congrArg some (hentry.resolve_right fun hne => hne (htarget ▸ habove))
    · rw [if_neg htarget, habove]

theorem remove (h : tree.IsRooted) (hroot : target ≠ []) : (tree.remove target).IsRooted := by
  intro above last hlookup
  rw [lookup_remove hroot] at hlookup ⊢
  by_cases hunder : target <+: above ++ [last]
  · exact absurd (if_pos hunder) hlookup
  · rw [if_neg hunder] at hlookup
    rw [if_neg fun habove => hunder (habove.trans (List.prefix_append above [last])),
      h above last hlookup]

theorem moves (h : before.IsRooted) (hmoves : before.Moves source (folder ++ [name]) after)
    (hfolder : before.lookup folder = some .directory) : after.IsRooted := by
  intro above last hlookup
  have hinner := List.prefix_append above [last]
  by_cases hat : above ++ [last] = folder ++ [name]
  · obtain rfl := (List.append_inj' hat rfl).1
    have hsource : ¬ source <+: above := fun h => hmoves.source_apart (hat ▸ h.trans hinner)
    have htarget : ¬ above ++ [name] <+: above := fun h =>
      Nat.not_succ_le_self above.length (by simpa using h.length_le)
    rw [hmoves.kept above hsource htarget, hfolder]
  by_cases htarget : folder ++ [name] <+: above ++ [last]
  · obtain ⟨rest, rfl⟩ := (List.prefix_concat_iff.mp htarget).resolve_left (Ne.symm hat)
    rw [List.append_assoc, hmoves.arrived, ← List.append_assoc] at hlookup
    rw [hmoves.arrived, h _ _ hlookup]
  by_cases hsource : source <+: above ++ [last]
  · obtain ⟨rest, hrest⟩ := hsource
    exact absurd (hrest ▸ hmoves.vacated rest) hlookup
  · rw [hmoves.kept _ hsource htarget] at hlookup
    rw [hmoves.kept above (mt (·.trans hinner) hsource) (mt (·.trans hinner) htarget),
      h above last hlookup]

end IsRooted

end CommandBuffer.Storage.FileTree
