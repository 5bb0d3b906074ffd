import CommandBuffer.Proofs.Storage.Places

/-! # Operations on a world

What each operation of a store does to a world when it succeeds; when it fails, the tree stays as it
is and the failure is counted. No operation changes the working directory, takes back a failure, or
makes a rooted tree unrooted, and this carries over to every program.
-/

namespace CommandBuffer.Storage

namespace FileTree

variable {tree after : FileTree} {home : Location} {path source target : Path}

/-! ## Successful changes -/

theorem exists_directory_above (hopen : tree.IsOpen home path) (hnamed : isNamed path = true) :
    ∃ folder name, path.place home = folder ++ [name] ∧ tree.lookup folder = some .directory := by
  obtain ⟨folder, name, hplace, hpassed⟩ := exists_folder_of_isNamed hnamed home
  exact ⟨folder, name, hplace, hopen folder hpassed⟩

theorem of_makeDirectory (h : tree.makeDirectory? home path = some after) :
    IsAccepted path ∧ tree.IsOpen home path ∧ isNamed path = true ∧
      tree.lookup (path.place home) = none ∧ after = tree.put (path.place home) .directory := by
  unfold makeDirectory? at h
  split at h
  · rename_i location hlocate
    obtain ⟨haccepted, hopen, rfl⟩ := locate_eq_some_iff.mp hlocate
    split at h
    · rename_i hfree
      exact ⟨haccepted, hopen, hfree.1, Option.isNone_iff_eq_none.mp hfree.2,
        (Option.some.inj h).symm⟩
    · cases h
  · cases h

theorem of_writeFile {content : String} (h : tree.writeFile? home path content = some after) :
    tree.IsOpen home path ∧ isNamed path = true ∧ tree.lookup (path.place home) ≠ some .directory ∧
      after = tree.put (path.place home) (.file content) := by
  unfold writeFile? at h
  split at h
  · rename_i location hlocate
    obtain ⟨-, hopen, rfl⟩ := locate_eq_some_iff.mp hlocate
    split at h
    · rename_i hfits
      exact ⟨hopen, hfits.1, fun hdirectory => hfits.2.2 (isDirectory_iff.mpr hdirectory),
        (Option.some.inj h).symm⟩
    · cases h
  · cases h

theorem of_removeFile (h : tree.removeFile? home path = some after) :
    (∃ content, tree.lookup (path.place home) = some (.file content)) ∧
      after = tree.remove (path.place home) := by
  unfold removeFile? at h
  split at h
  · rename_i location hlocate
    obtain ⟨-, -, rfl⟩ := locate_eq_some_iff.mp hlocate
    split at h
    · rename_i hfile
      exact ⟨isFile_iff.mp hfile.2, (Option.some.inj h).symm⟩
    · cases h
  · cases h

theorem of_removeTree (h : tree.removeTree? home path = some after) :
    isNamed path = true ∧ after = tree.remove (path.place home) := by
  unfold removeTree? at h
  split at h
  · rename_i location hlocate
    obtain ⟨-, -, rfl⟩ := locate_eq_some_iff.mp hlocate
    split at h
    · rename_i hdirectory
      exact ⟨hdirectory.1, (Option.some.inj h).symm⟩
    · cases h
  · cases h

theorem removeTree_eq_some (hnamed : isNamed path = true)
    (h : tree.hasDirectory home path = true) :
    tree.removeTree? home path = some (tree.remove (path.place home)) := by
  obtain ⟨haccepted, hopen, hlookup⟩ := hasDirectory_iff.mp h
  have hlocate := locate_eq_some_iff.mpr ⟨haccepted, hopen, rfl⟩
  simp [removeTree?, hlocate, hnamed, isDirectory_iff.mpr hlookup]

theorem place_ne_root (hnamed : isNamed path = true) (home : Location) : path.place home ≠ [] := by
  obtain ⟨folder, name, hplace, -⟩ := exists_folder_of_isNamed hnamed home
  simp [hplace]

/-! ## Moving -/

/-- A successful renaming finds both paths. What it replaces is no directory unless it moves one, and
it is nothing at all where the target is not found before. -/
structure Renames (before : FileTree) (home : Location) (source target : Path)
    (after : FileTree) : Prop where
  source_open : before.IsOpen home source
  target_open : before.IsOpen home target
  source_named : isNamed source = true
  target_named : isNamed target = true
  fits : before.lookup (target.place home) = some .directory →
    before.lookup (source.place home) = some .directory
  free : source.place home ≠ target.place home → before.contains home target = false →
    before.lookup (target.place home) = none
  moved : source.place home = target.place home ∧ after = before ∨
    before.Moves (source.place home) (target.place home) after

theorem Renames.moves {before : FileTree} (h : before.Renames home source target after)
    (hne : source.place home ≠ target.place home) :
    before.Moves (source.place home) (target.place home) after :=
  h.moved.resolve_left fun hsame => hne hsame.1

theorem lookup_ne_none_of_contains (h : tree.contains home path = true) :
    tree.lookup (path.place home) ≠ none := by
  rw [contains, Option.any_eq_true] at h
  obtain ⟨location, hlocate, hfound⟩ := h
  rw [(locate_eq_some_iff.mp hlocate).2.2]
  rw [Bool.or_eq_true, Bool.and_eq_true, isDirectory_iff, isFile_iff] at hfound
  rcases hfound with hdirectory | ⟨-, content, hfile⟩
  · simp [hdirectory]
  · simp [hfile]

theorem contains_eq_false (h : tree.lookup (path.place home) = none) :
    tree.contains home path = false :=
  eq_false_of_ne_true fun hfound => lookup_ne_none_of_contains hfound h

/-- What may replace what stands at a location neither contains it nor is contained in it. -/
theorem apart_of_canReplace (hrooted : tree.IsRooted) {origin folder : Location} {name : String}
    {ending : PathEnding} (horigin : tree.lookup origin ≠ none)
    (hfolder : tree.lookup folder = some .directory) (hne : origin ≠ folder ++ [name])
    (h : tree.canReplace origin (folder ++ [name]) ending = true) :
    ¬ origin <+: folder ++ [name] ∧ ¬ folder ++ [name] <+: origin := by
  unfold canReplace at h
  split at h
  · -- A directory: the target is not inside it, and if something stands there it is an empty directory.
    rename_i hdirectory
    simp only [Bool.and_eq_true, Bool.not_eq_true', ← Bool.not_eq_true, isAtOrAbove_iff,
      Bool.or_eq_true, Option.isNone_iff_eq_none, isDirectory_iff] at h
    refine ⟨h.1, ?_⟩
    rintro ⟨rest, rfl⟩
    have hrest : rest ≠ [] := by
      rintro rfl
      simp at hne
    rcases h.2 with hnone | ⟨-, hbare⟩
    · simp [hrooted.isDirectory_above hrest horigin] at hnone
    · exact horigin (lookup_append_eq_none_of_isBare hbare hrest)
  · -- A file: nothing is inside it, and nothing is inside the target, which is no directory.
    rename_i hfile
    simp only [Bool.and_eq_true, Bool.not_eq_true', ← Bool.not_eq_true, isDirectory_iff] at h hfile
    constructor
    · intro hunder
      obtain ⟨rest, rfl⟩ := (List.prefix_concat_iff.mp hunder).resolve_left hne
      by_cases hrest : rest = []
      · simp [hrest, hfile] at hfolder
      · exact hfile (hrooted.isDirectory_above hrest (by simp [hfolder]))
    · rintro ⟨rest, rfl⟩
      have hrest : rest ≠ [] := by
        rintro rfl
        simp at hne
      exact h.2 (hrooted.isDirectory_above hrest horigin)

theorem source_of_canReplace {origin goal : Location} {ending : PathEnding}
    (h : tree.canReplace origin goal ending = true)
    (hgoal : tree.lookup goal = some .directory) : tree.lookup origin = some .directory := by
  unfold canReplace at h
  split at h
  · rename_i hdirectory
    exact isDirectory_iff.mp hdirectory
  · simp [isDirectory_iff.mpr hgoal] at h

theorem lookup_eq_none_of_canReplace {origin : Location}
    (h : tree.canReplace origin (path.place home) path.ending = true)
    (hlocate : tree.locate home path = some (path.place home))
    (habsent : tree.contains home path = false) : tree.lookup (path.place home) = none := by
  obtain ⟨hdirectory, hnoFile⟩ : tree.isDirectory (path.place home) = false ∧
      (path.ending = .name → tree.isFile (path.place home) = false) := by
    simpa [contains, hlocate] using habsent
  unfold canReplace at h
  split at h
  · have hnone : isAtOrAbove origin (path.place home) = false ∧
        tree.lookup (path.place home) = none := by
      simpa [hdirectory] using h
    exact hnone.2
  · have hending : path.ending = .name := by simpa [hdirectory] using h
    have hfile := hnoFile hending
    cases hlookup : tree.lookup (path.place home) with
    | none => rfl
    | some entry =>
      cases entry with
      | directory => simp [isDirectory_iff.mpr hlookup] at hdirectory
      | file content => simp [isFile_iff.mpr ⟨content, hlookup⟩] at hfile

theorem of_rename (hrooted : tree.IsRooted) (h : tree.rename? home source target = some after) :
    tree.Renames home source target after := by
  unfold rename? at h
  split at h
  · rename_i hnames
    obtain ⟨hsource, htarget, hcontains⟩ := hnames
    split at h
    · rename_i origin goal horigin hgoal
      obtain ⟨-, hsourceOpen, rfl⟩ := locate_eq_some_iff.mp horigin
      obtain ⟨-, htargetOpen, rfl⟩ := locate_eq_some_iff.mp hgoal
      split at h
      · rename_i hsame
        exact ⟨hsourceOpen, htargetOpen, hsource, htarget, fun hdirectory => hsame ▸ hdirectory,
          fun hne => absurd hsame hne, .inl ⟨hsame, (Option.some.inj h).symm⟩⟩
      · rename_i hne
        split at h
        · rename_i hreplace
          obtain ⟨folder, name, hplace, hfolder⟩ := exists_directory_above htargetOpen htarget
          have happart := apart_of_canReplace hrooted (lookup_ne_none_of_contains hcontains) hfolder
            (hplace ▸ hne) (hplace ▸ hreplace)
          rw [← hplace] at happart
          exact ⟨hsourceOpen, htargetOpen, hsource, htarget, source_of_canReplace hreplace,
            fun _ => lookup_eq_none_of_canReplace hreplace hgoal,
            .inr (Option.some.inj h ▸ moves_relocate happart.1 happart.2)⟩
        · cases h
    · cases h
  · cases h

/-! ## Rooted trees stay rooted -/

theorem IsRooted.makeDirectory (hrooted : tree.IsRooted)
    (h : tree.makeDirectory? home path = some after) : after.IsRooted := by
  obtain ⟨-, hopen, hnamed, -, rfl⟩ := of_makeDirectory h
  obtain ⟨folder, name, hplace, hfolder⟩ := exists_directory_above hopen hnamed
  exact hplace ▸ hrooted.put hfolder (.inl rfl)

theorem IsRooted.writeFile (hrooted : tree.IsRooted) {content : String}
    (h : tree.writeFile? home path content = some after) : after.IsRooted := by
  obtain ⟨hopen, hnamed, hlookup, rfl⟩ := of_writeFile h
  obtain ⟨folder, name, hplace, hfolder⟩ := exists_directory_above hopen hnamed
  rw [hplace] at hlookup ⊢
  exact hrooted.put hfolder (.inr hlookup)

theorem IsRooted.removeFile (hrooted : tree.IsRooted)
    (h : tree.removeFile? home path = some after) : after.IsRooted := by
  obtain ⟨⟨content, hfile⟩, rfl⟩ := of_removeFile h
  exact hrooted.remove fun hroot => by simp [hroot] at hfile

theorem IsRooted.removeTree (hrooted : tree.IsRooted)
    (h : tree.removeTree? home path = some after) : after.IsRooted := by
  obtain ⟨hnamed, rfl⟩ := of_removeTree h
  exact hrooted.remove (place_ne_root hnamed home)

theorem Renames.isRooted {before : FileTree} (h : before.Renames home source target after)
    (hrooted : before.IsRooted) : after.IsRooted := by
  obtain ⟨folder, name, hplace, hfolder⟩ := exists_directory_above h.target_open h.target_named
  rcases h.moved with ⟨-, rfl⟩ | hmoves
  · exact hrooted
  · exact hrooted.moves (hplace ▸ hmoves) hfolder

theorem IsRooted.rename (hrooted : tree.IsRooted)
    (h : tree.rename? home source target = some after) : after.IsRooted :=
  (of_rename hrooted h).isRooted hrooted

end FileTree

/-! ## Running programs -/

namespace World

/-- The program, run in a world, gives a result and leads to another world. -/
def Runs {α : Type} (program : StateM World α) (world : World) (result : α) (after : World) : Prop :=
  program.run world = (result, after)

variable {α β : Type} {world after : World}

theorem runs_run (program : StateM World α) (world : World) :
    Runs program world (program.run world).1 (program.run world).2 := rfl

theorem runs_pure {value result : α} :
    Runs (pure value) world result after ↔ result = value ∧ after = world := by
  constructor
  · intro h
    exact (Prod.mk.inj h).imp Eq.symm Eq.symm
  · rintro ⟨rfl, rfl⟩
    rfl

theorem runs_bind {program : StateM World α} {rest : α → StateM World β} {result : β} :
    Runs (program >>= rest) world result after ↔
      ∃ value middle, Runs program world value middle ∧ Runs (rest value) middle result after := by
  constructor
  · intro h
    exact ⟨(program.run world).1, (program.run world).2, rfl, h⟩
  · rintro ⟨value, middle, hprogram, hrest⟩
    rw [Runs, StateT.run_bind, show program.run world = (value, middle) from hprogram]
    exact hrest

/-- How an operation can end. -/
inductive Effect (operation : FileTree → Option FileTree) (world : World) : Bool → World → Prop
  | done {after : World} (change : operation world.tree = some after.tree)
      (home : after.home = world.home) (failures : after.failures = world.failures) :
      Effect operation world true after
  | failed {after : World} (tree : after.tree = world.tree) (home : after.home = world.home)
      (failures : after.failures = world.failures + 1) : Effect operation world false after

variable {operation : FileTree → Option FileTree} {isDone answer : Bool}

theorem effect_attempt (h : world.attempt operation = (isDone, after)) :
    Effect operation world isDone after := by
  unfold attempt at h
  rcases spend world.fault with ⟨isFaulty, fault⟩
  dsimp only at h
  split at h
  · cases h
    exact .failed rfl rfl rfl
  · split at h
    · rename_i tree hchange
      cases h
      exact .done hchange rfl rfl
    · cases h
      exact .failed rfl rfl rfl

theorem effect_perform (h : world.perform operation = (isDone, after)) :
    Effect operation world isDone after := by
  unfold perform at h
  split at h
  · rename_i tree hchange
    cases h
    exact .done hchange rfl rfl
  · cases h
    exact .failed rfl rfl rfl

section

variable {path source target : Path}

theorem Runs.isDirectory (h : Runs (FileStore.isDirectory path) world answer after) :
    answer = world.tree.hasDirectory world.home path ∧ world = after :=
  (Prod.mk.inj h).imp Eq.symm id

theorem Runs.isPresent (h : Runs (FileStore.isPresent path) world answer after) :
    answer = world.tree.contains world.home path ∧ world = after :=
  (Prod.mk.inj h).imp Eq.symm id

theorem Runs.freshName {texts : List String} {name : String}
    (h : Runs (FileStore.freshName texts) world name after) :
    name = stagingName world.tree texts ∧ world = after :=
  (Prod.mk.inj h).imp Eq.symm id

theorem Runs.makeDirectory (h : Runs (FileStore.makeDirectory path) world isDone after) :
    Effect (·.makeDirectory? world.home path) world isDone after :=
  effect_attempt h

theorem Runs.writeFile {content : String}
    (h : Runs (FileStore.writeFile path content) world isDone after) :
    Effect (·.writeFile? world.home path content) world isDone after :=
  effect_attempt h

theorem Runs.rename (h : Runs (FileStore.rename source target) world isDone after) :
    Effect (·.rename? world.home source target) world isDone after :=
  effect_attempt h

theorem Runs.removeFile (h : Runs (FileStore.removeFile path) world isDone after) :
    Effect (·.removeFile? world.home path) world isDone after :=
  effect_perform h

theorem Runs.removeTree (h : Runs (FileStore.removeTree path) world isDone after) :
    Effect (·.removeTree? world.home path) world isDone after :=
  effect_perform h

/-- No fault keeps a directory that can be removed. -/
theorem Runs.lookup_of_removeTree {home : Location}
    (h : Runs (FileStore.removeTree path) world isDone after) (hhome : world.home = home)
    (hnamed : FileTree.isNamed path = true) (hdirectory : world.tree.hasDirectory home path = true)
    (location : Location) :
    after.tree.lookup location
      = if path.place home <+: location then none else world.tree.lookup location := by
  have hperform : world.perform (·.removeTree? world.home path) = (isDone, after) := h
  rw [hhome, perform, FileTree.removeTree_eq_some hnamed hdirectory] at hperform
  rw [← (Prod.mk.inj hperform).2]
  exact FileTree.lookup_remove (FileTree.place_ne_root hnamed home) location

end

/-! ## What every program keeps -/

/-- The second world can come after the first one. -/
structure Follows (world after : World) : Prop where
  home : after.home = world.home
  failures : world.failures ≤ after.failures
  rooted : world.tree.IsRooted → after.tree.IsRooted

theorem Follows.refl (world : World) : world.Follows world := ⟨rfl, le_rfl, id⟩

theorem Follows.trans {middle : World} (hfirst : world.Follows middle)
    (hsecond : middle.Follows after) : world.Follows after :=
  ⟨hsecond.home.trans hfirst.home, hfirst.failures.trans hsecond.failures,
    hsecond.rooted ∘ hfirst.rooted⟩

theorem Effect.follows (h : Effect operation world isDone after)
    (hrooted : ∀ tree, operation world.tree = some tree → world.tree.IsRooted → tree.IsRooted) :
    world.Follows after := by
  cases h with
  | done change home failures => exact ⟨home, failures.ge, hrooted _ change⟩
  | failed tree home failures => exact ⟨home, by omega, fun h => tree ▸ h⟩

/-- Running the program leads only to worlds that can come after the first one. -/
def Advances (program : StateM World α) : Prop :=
  ∀ ⦃world : World⦄ ⦃result : α⦄ ⦃after : World⦄, Runs program world result after →
    world.Follows after

theorem advances_pure (value : α) : Advances (pure value) := by
  intro world result after h
  rw [(runs_pure.mp h).2]
  exact .refl world

theorem Advances.bind {program : StateM World α} {rest : α → StateM World β}
    (hprogram : Advances program) (hrest : ∀ value, Advances (rest value)) :
    Advances (program >>= rest) := by
  intro world result after h
  obtain ⟨value, middle, hfirst, hsecond⟩ := runs_bind.mp h
  exact (hprogram hfirst).trans (hrest value hsecond)

section

variable (path source target : Path)

theorem advances_isDirectory : Advances (FileStore.isDirectory path) :=
  fun world _ _ h => h.isDirectory.2 ▸ .refl world

theorem advances_isPresent : Advances (FileStore.isPresent path) :=
  fun world _ _ h => h.isPresent.2 ▸ .refl world

theorem advances_makeDirectory : Advances (FileStore.makeDirectory path) :=
  fun _ _ _ h => h.makeDirectory.follows fun _ hchange hrooted => hrooted.makeDirectory hchange

theorem advances_writeFile (content : String) : Advances (FileStore.writeFile path content) :=
  fun _ _ _ h => h.writeFile.follows fun _ hchange hrooted => hrooted.writeFile hchange

theorem advances_rename : Advances (FileStore.rename source target) :=
  fun _ _ _ h => h.rename.follows fun _ hchange hrooted => hrooted.rename hchange

theorem advances_removeFile : Advances (FileStore.removeFile path) :=
  fun _ _ _ h => h.removeFile.follows fun _ hchange hrooted => hrooted.removeFile hchange

theorem advances_removeTree : Advances (FileStore.removeTree path) :=
  fun _ _ _ h => h.removeTree.follows fun _ hchange hrooted => hrooted.removeTree hchange

end

section

variable (output staging path : Path) (number : Nat)

theorem advances_ensureDirectory : Advances (ensureDirectory path) := by
  refine (advances_isDirectory path).bind fun isThere => ?_
  split
  · exact advances_pure true
  · exact advances_makeDirectory path

theorem advances_ensureAll (paths : List Path) : Advances (ensureAll paths) := by
  induction paths with
  | nil => exact advances_pure true
  | cons path rest ih =>
    refine (advances_ensureDirectory path).bind fun isThere => ?_
    split
    · exact ih
    · exact advances_pure false

theorem advances_ensureDirectories : Advances (ensureDirectories path) := by
  unfold ensureDirectories
  split
  · exact advances_ensureAll _
  · exact advances_pure false

theorem advances_ensureParent : Advances (ensureParent path) := by
  unfold ensureParent
  split
  · split
    · exact advances_pure _
    · refine (advances_ensureDirectories _).bind fun isThere => ?_
      split <;> exact advances_pure _
  · exact advances_pure _

theorem advances_stage (file : OutputFile) : Advances (stage output staging number file) := by
  refine (advances_ensureParent _).bind fun parent => ?_
  split
  · exact advances_pure _
  · refine (advances_writeFile _ _).bind fun isWritten => ?_
    split <;> exact advances_pure _

theorem advances_stageAll (files : List OutputFile) :
    Advances (stageAll output staging number files) := by
  induction files generalizing number with
  | nil => exact advances_pure _
  | cons file rest ih =>
    refine (advances_stage output staging number file).bind fun staged => ?_
    split
    · exact advances_pure _
    · refine (ih (number + 1)).bind fun others => ?_
      split <;> exact advances_pure _

theorem advances_moveAside : Advances (moveAside staging number path) := by
  refine (advances_isPresent path).bind fun isThere => ?_
  split
  · refine (advances_rename _ _).bind fun isMoved => ?_
    split <;> exact advances_pure _
  · exact advances_pure _

theorem advances_replaceTarget (staged : Staged) :
    Advances (replaceTarget staging number staged) := by
  refine (advances_moveAside staging staged.target number).bind fun aside => ?_
  split
  · exact advances_pure _
  · refine (advances_rename _ _).bind fun isMoved => ?_
    split
    · exact advances_pure _
    · split
      · exact (advances_rename _ _).bind fun _ => advances_pure _
      · exact (advances_pure _).bind fun _ => advances_pure _

theorem advances_restore (replaced : Replaced) : Advances (restore replaced) := by
  unfold restore
  split
  · exact advances_rename _ _
  · exact advances_removeFile _

theorem advances_restoreAll (done : List Replaced) : Advances (restoreAll done) := by
  induction done with
  | nil => exact advances_pure _
  | cons replaced rest ih =>
    exact (advances_restore replaced).bind fun _ => ih.bind fun _ => advances_pure _

theorem advances_commit (done : List Replaced) (files : List Staged) :
    Advances (commit staging number done files) := by
  induction files generalizing number done with
  | nil => exact advances_pure _
  | cons staged rest ih =>
    refine (advances_replaceTarget staging number staged).bind fun replaced => ?_
    split
    · exact ih _ _
    · exact (advances_restoreAll done).bind fun _ => advances_pure _

theorem advances_writeThrough (files : List OutputFile) :
    Advances (writeThrough output staging files) := by
  refine (advances_stageAll output staging 0 files).bind fun staged => ?_
  split
  · exact advances_pure _
  · exact advances_commit staging 0 [] _

end

end World

end CommandBuffer.Storage
