import CommandBuffer.Proofs.Storage.Operations

/-! # Staging

Before anything is replaced, writing only adds: directories where nothing stood, and the files of the
staging directory. The name of that directory occurs neither in the tree nor in a path of the files, so
no target stands inside it.
-/

namespace CommandBuffer.Storage

/-! ## The name of the staging directory -/

namespace World

variable {tree : FileTree} {texts : List String} {name : String}

theorem le_foldl_max (bound : Nat) (values : List Nat) :
    bound ≤ values.foldl max bound ∧ ∀ value ∈ values, value ≤ values.foldl max bound := by
  induction values generalizing bound with
  | nil => exact ⟨le_rfl, fun _ h => absurd h List.not_mem_nil⟩
  | cons first rest ih =>
    obtain ⟨hbound, hrest⟩ := ih (max bound first)
    refine ⟨(le_max_left bound first).trans hbound, fun value hvalue => ?_⟩
    rcases List.mem_cons.mp hvalue with rfl | hmem
    · exact (le_max_right bound value).trans hbound
    · exact hrest value hmem

theorem toList_stagingName (tree : FileTree) (texts : List String) :
    (stagingName tree texts).toList = stagingPrefix.toList ++ List.replicate
      (((stagingNames tree texts).map String.length).foldl max 0) 'x' := by
  rw [stagingName, String.toList_append, String.toList_ofList]

/-- The name is longer than every name that it could be. -/
theorem stagingName_notMem (tree : FileTree) (texts : List String) :
    stagingName tree texts ∉ stagingNames tree texts := by
  intro hmem
  have hbound := (le_foldl_max 0 ((stagingNames tree texts).map String.length)).2 _
    (List.mem_map_of_mem hmem)
  have hlength := congrArg List.length (toList_stagingName tree texts)
  rw [List.length_append, List.length_replicate, String.length_toList] at hlength
  have hlong : stagingPrefix.toList.length = 12 := by decide
  omega

/-- The name is none of those in the tree and in the texts. -/
theorem ne_stagingName (tree : FileTree) (texts : List String)
    (h : name ∈ tree.entries.flatMap (·.1) ∨
      name ∈ texts.flatMap fun text => (Path.ofText text).components) :
    name ≠ stagingName tree texts := by
  rintro rfl
  refine stagingName_notMem tree texts (List.mem_filter.mpr ⟨List.mem_append.mpr h, ?_⟩)
  rw [toList_stagingName, List.isPrefixOf_iff_prefix]
  exact List.prefix_append _ _

/-- Nothing stands at a location with the name in it. -/
theorem stagingName_notMem_location {location : Location} (h : tree.lookup location ≠ none)
    (texts : List String) : stagingName tree texts ∉ location := by
  intro hmem
  cases hlookup : tree.lookup location with
  | none => exact h hlookup
  | some entry =>
    have hentry := FileTree.exists_entry_of_lookup (List.ne_nil_of_mem hmem) hlookup
    exact ne_stagingName tree texts (.inl (List.mem_flatMap.mpr ⟨_, hentry, hmem⟩)) rfl

theorem stagingName_notMem_components {text : String} (h : text ∈ texts) (tree : FileTree) :
    stagingName tree texts ∉ (Path.ofText text).components := fun hmem =>
  ne_stagingName tree texts (.inr (List.mem_flatMap.mpr ⟨text, h, hmem⟩)) rfl

theorem isPlain_stagingName (tree : FileTree) (texts : List String) :
    Path.IsPlain (stagingName tree texts) := by
  have hlist := toList_stagingName tree texts
  refine ⟨fun hmem => ?_, ?_, ?_, ?_⟩
  · rw [hlist, List.mem_append, List.mem_replicate] at hmem
    exact hmem.elim (by decide) fun hx => absurd hx.2 (by decide)
  all_goals
    intro heq
    have hlength := congrArg List.length (heq ▸ hlist)
    rw [List.length_append, List.length_replicate] at hlength
    have hlong : stagingPrefix.toList.length = 12 := by decide
    have hshort : ("".toList).length = 0 ∧ (".".toList).length = 1 ∧ ("..".toList).length = 2 := by
      decide
    omega

end World

/-! ## Trees that grow -/

namespace FileTree

variable {founded touched : Location → Prop} {before middle after : FileTree} {home : Location}
  {path : Path}

/-- What stands at the location is what stood there, or a directory if nothing did. -/
def GainsAt (location : Location) (before after : FileTree) : Prop :=
  after.lookup location = before.lookup location ∨
    before.lookup location = none ∧ after.lookup location = some .directory

theorem GainsAt.lookup_directory {location : Location} (h : GainsAt location before after)
    (hlookup : before.lookup location = some .directory) :
    after.lookup location = some .directory := by
  rcases h with hsame | ⟨-, hadded⟩
  · rw [hsame, hlookup]
  · exact hadded

theorem GainsAt.trans {location : Location} (hfirst : GainsAt location before middle)
    (hsecond : GainsAt location middle after) : GainsAt location before after := by
  rcases hfirst with hsame | ⟨hnone, hadded⟩
  · rwa [GainsAt, ← hsame]
  · exact .inr ⟨hnone, hsecond.lookup_directory hadded⟩

/-- Directories were added at founded locations where nothing stood, what stood at a touched location
was no directory, and nothing else was changed. -/
def Grows (founded touched : Location → Prop) (before after : FileTree) : Prop :=
  ∀ location, after.lookup location = before.lookup location ∨
    founded location ∧ before.lookup location = none ∧ after.lookup location = some .directory ∨
    touched location ∧ before.lookup location ≠ some .directory

namespace Grows

theorem refl (founded touched : Location → Prop) (tree : FileTree) :
    tree.Grows founded touched tree :=
  fun _ => .inl rfl

theorem lookup_directory (h : before.Grows founded touched after) {location : Location}
    (hlookup : before.lookup location = some .directory) :
    after.lookup location = some .directory := by
  rcases h location with hkept | ⟨-, hnone, -⟩ | ⟨-, hne⟩
  · rw [hkept, hlookup]
  · simp [hlookup] at hnone
  · exact absurd hlookup hne

theorem gainsAt (h : before.Grows founded touched after) {location : Location}
    (hlocation : ¬ touched location) : GainsAt location before after := by
  rcases h location with hkept | ⟨-, hadded⟩ | ⟨htouched, -⟩
  · exact .inl hkept
  · exact .inr hadded
  · exact absurd htouched hlocation

theorem trans (hfirst : before.Grows founded touched middle)
    (hsecond : middle.Grows founded touched after) : before.Grows founded touched after := by
  intro location
  rcases hfirst location with hkept | ⟨hfounded, hnone, hdirectory⟩ | htouched
  · rw [← hkept]
    exact hsecond location
  · exact .inr (.inl ⟨hfounded, hnone, hsecond.lookup_directory hdirectory⟩)
  · exact .inr (.inr htouched)

theorem mono {founded' touched' : Location → Prop} (h : before.Grows founded touched after)
    (hfounded : ∀ location, founded location → founded' location)
    (htouched : ∀ location, touched location → touched' location) :
    before.Grows founded' touched' after := fun location =>
  (h location).imp id (Or.imp (And.imp_left (hfounded location)) (And.imp_left (htouched location)))

theorem isOpen (h : before.Grows founded touched after) (hopen : before.IsOpen home path) :
    after.IsOpen home path :=
  fun above habove => h.lookup_directory (hopen above habove)

end Grows

theorem Grows.hasDirectory (h : before.Grows founded touched after)
    (hdirectory : before.hasDirectory home path = true) : after.hasDirectory home path = true := by
  obtain ⟨haccepted, hopen, hlookup⟩ := hasDirectory_iff.mp hdirectory
  exact hasDirectory_iff.mpr ⟨haccepted, h.isOpen hopen, h.lookup_directory hlookup⟩

theorem grows_put {target : Location} (hroot : target ≠ []) {entry : Entry}
    (h : founded target ∧ before.lookup target = none ∧ entry = .directory ∨
      touched target ∧ before.lookup target ≠ some .directory) :
    before.Grows founded touched (before.put target entry) := by
  intro location
  rw [lookup_put hroot]
  split
  · rename_i heq
    subst heq
    exact .inr (h.imp (fun hfree => ⟨hfree.1, hfree.2.1, congrArg some hfree.2.2⟩) id)
  · exact .inl rfl

theorem grows_makeDirectory (h : before.makeDirectory? home path = some after) :
    before.Grows (· = path.place home) (fun _ => False) after ∧
      after.hasDirectory home path = true := by
  obtain ⟨haccepted, hopen, hnamed, hfree, rfl⟩ := of_makeDirectory h
  have hroot := place_ne_root hnamed home
  have hgrows : before.Grows (· = path.place home) (fun _ => False)
      (before.put (path.place home) .directory) :=
    grows_put hroot (.inl ⟨rfl, hfree, rfl⟩)
  refine ⟨hgrows, hasDirectory_iff.mpr ⟨haccepted, hgrows.isOpen hopen, ?_⟩⟩
  rw [lookup_put hroot, if_pos rfl]

end FileTree

/-! ## Making directories -/

namespace World

variable {world after : World} {path : Path} {isThere : Bool}

theorem of_ensureDirectory (h : Runs (ensureDirectory path) world isThere after) :
    world.tree.Grows (· = path.place world.home) (fun _ => False) after.tree ∧
      (isThere = true → after.tree.hasDirectory world.home path = true) := by
  obtain ⟨answer, middle, hasks, hrest⟩ := runs_bind.mp h
  obtain ⟨rfl, rfl⟩ := hasks.isDirectory
  split at hrest
  · rename_i hdirectory
    obtain ⟨-, rfl⟩ := runs_pure.mp hrest
    exact ⟨.refl _ _ _, fun _ => hdirectory⟩
  · cases hrest.makeDirectory with
    | failed htree => exact ⟨htree ▸ .refl _ _ _, nofun⟩
    | done hchange =>
      obtain ⟨hgrows, hdirectory⟩ := FileTree.grows_makeDirectory hchange
      exact ⟨hgrows, fun _ => hdirectory⟩

theorem of_ensureAll {paths : List Path} (h : Runs (ensureAll paths) world isThere after) :
    world.tree.Grows (Path.IsPlaceOf world.home paths) (fun _ => False) after.tree ∧
      (isThere = true → ∀ path ∈ paths, after.tree.hasDirectory world.home path = true) := by
  induction paths generalizing world with
  | nil =>
    obtain ⟨-, rfl⟩ := runs_pure.mp h
    exact ⟨.refl _ _ _, fun _ _ hpath => absurd hpath List.not_mem_nil⟩
  | cons path rest ih =>
    obtain ⟨isFirst, middle, hfirst, hrest⟩ := runs_bind.mp h
    have hhome := (advances_ensureDirectory path hfirst).home
    obtain ⟨hgrows, hthere⟩ := of_ensureDirectory hfirst
    replace hgrows : world.tree.Grows (Path.IsPlaceOf world.home (path :: rest)) (fun _ => False)
        middle.tree :=
      hgrows.mono (fun location hlocation => ⟨path, List.mem_cons_self, hlocation⟩) (fun _ => id)
    split at hrest
    · rename_i hisFirst
      obtain ⟨hgrowsRest, hthereRest⟩ := ih hrest
      rw [hhome] at hgrowsRest hthereRest
      refine ⟨hgrows.trans (hgrowsRest.mono ?_ fun _ => id), fun hall path' hpath' => ?_⟩
      · rintro location ⟨path', hpath', rfl⟩
        exact ⟨path', List.mem_cons_of_mem _ hpath', rfl⟩
      · rcases List.mem_cons.mp hpath' with rfl | hmem
        · exact hgrowsRest.hasDirectory (hthere hisFirst)
        · exact hthereRest hall path' hmem
    · obtain ⟨rfl, rfl⟩ := runs_pure.mp hrest
      exact ⟨hgrows, nofun⟩

end World

/-- The paths of the directories that are made for a path. -/
def Path.directories (path : Path) : List Path := path.ancestors ++ [path]

/-- The paths of the directories that are made for a target. -/
def Path.folders (target : Path) : List Path :=
  match target.parent? with
  | some parent => if parent.text = "" then [] else parent.directories
  | none => []

theorem Path.isAbsolute_of_mem_directories {path folder : Path} (h : folder ∈ path.directories) :
    folder.isAbsolute = path.isAbsolute ∧ folder.components ⊆ path.components := by
  rcases List.mem_append.mp h with hancestor | hself
  · obtain ⟨length, -, rfl⟩ := List.mem_map.mp hancestor
    exact ⟨rfl, List.take_subset length _⟩
  · rw [List.mem_singleton.mp hself]
    exact ⟨rfl, List.Subset.refl _⟩

theorem Path.Avoids.of_mem_folders {home : Location} {name : String} {target folder : Path}
    (h : target.Avoids home name) (hfolder : folder ∈ target.folders) :
    folder.Avoids home name := by
  unfold Path.folders at hfolder
  split at hfolder
  · rename_i parent hparent
    split at hfolder
    · cases hfolder
    · rename_i htext
      obtain ⟨habsolute, hsubset⟩ := Path.isAbsolute_of_mem_directories hfolder
      unfold Path.parent? at hparent
      split at hparent
      · cases hparent
      · split at hparent
        · split at hparent
          · cases hparent
            exact absurd rfl htext
          · cases hparent
        · cases hparent
          exact h.of_subset habsolute
            (List.Subset.trans hsubset (List.dropLast_subset target.components))
  · cases hfolder

/-! ## Staging the files -/

/-- Where a file goes below the output directory. -/
def OutputFile.target (output : Path) (file : OutputFile) : Path := output.join (.ofText file.path)

/-- The location is that of a directory made for one of the files. -/
def IsFolderOf (home : Location) (output : Path) (files : List OutputFile)
    (location : Location) : Prop :=
  ∃ file ∈ files, Path.IsPlaceOf home (file.target output).folders location

/-- The location is that of a staged file with at least the number. -/
def IsStagedFrom (room : Location) (number : Nat) (location : Location) : Prop :=
  ∃ index, number ≤ index ∧ location = room ++ [stagedName index]

/-- The files as they are staged, numbered from a number. -/
def stagedFrom (output staging : Path) (number : Nat) : List OutputFile → List Staged
  | [] => []
  | file :: rest =>
    ⟨stagedPath staging number, file.target output⟩ :: stagedFrom output staging (number + 1) rest

/-- The staging directory holds the contents of the files, numbered from a number. -/
def HoldsFrom (tree : FileTree) (room : Location) (number : Nat) : List OutputFile → Prop
  | [] => True
  | file :: rest =>
    tree.lookup (room ++ [stagedName number]) = some (.file file.content) ∧
      HoldsFrom tree room (number + 1) rest

theorem HoldsFrom.congr {before after : FileTree} {room : Location} {number : Nat}
    {files : List OutputFile} (h : HoldsFrom before room number files)
    (hsame : ∀ index, number ≤ index →
      after.lookup (room ++ [stagedName index]) = before.lookup (room ++ [stagedName index])) :
    HoldsFrom after room number files := by
  induction files generalizing number with
  | nil => trivial
  | cons file rest ih =>
    exact ⟨(hsame number le_rfl).trans h.1, ih h.2 fun index hindex => hsame index (by omega)⟩

namespace World

variable {world after : World} {output staging path : Path} {number : Nat}

theorem of_ensureDirectories {isThere : Bool}
    (h : Runs (ensureDirectories path) world isThere after) :
    world.tree.Grows (Path.IsPlaceOf world.home path.directories) (fun _ => False) after.tree ∧
      (isThere = true → ∀ folder ∈ path.directories,
        after.tree.hasDirectory world.home folder = true) := by
  unfold ensureDirectories at h
  split at h
  · exact of_ensureAll h
  · obtain ⟨rfl, rfl⟩ := runs_pure.mp h
    exact ⟨.refl _ _ _, nofun⟩

theorem of_ensureParent {target : Path} {result : Except Path Unit}
    (h : Runs (ensureParent target) world result after) :
    world.tree.Grows (Path.IsPlaceOf world.home target.folders) (fun _ => False) after.tree ∧
      (result = .ok () → ∀ folder ∈ target.folders,
        after.tree.hasDirectory world.home folder = true) := by
  unfold ensureParent at h
  cases hparent : target.parent? with
  | none =>
    rw [hparent] at h
    obtain ⟨-, rfl⟩ := runs_pure.mp h
    exact ⟨.refl _ _ _, by simp [Path.folders, hparent]⟩
  | some parent =>
    rw [hparent] at h
    dsimp only at h
    split at h
    · rename_i htext
      obtain ⟨-, rfl⟩ := runs_pure.mp h
      exact ⟨.refl _ _ _, by simp [Path.folders, hparent, htext]⟩
    · rename_i htext
      have hfolders : target.folders = parent.directories := by
        simp [Path.folders, hparent, htext]
      rw [hfolders]
      obtain ⟨isThere, middle, hensure, hrest⟩ := runs_bind.mp h
      obtain ⟨hgrows, hthere⟩ := of_ensureDirectories hensure
      split at hrest
      · rename_i hisThere
        obtain ⟨-, rfl⟩ := runs_pure.mp hrest
        exact ⟨hgrows, fun _ => hthere hisThere⟩
      · obtain ⟨rfl, rfl⟩ := runs_pure.mp hrest
        exact ⟨hgrows, nofun⟩

theorem of_stage {file : OutputFile} {result : Except Path Staged}
    (h : Runs (stage output staging number file) world result after) :
    world.tree.Grows (IsFolderOf world.home output [file])
        (IsStagedFrom (staging.place world.home) number) after.tree ∧
      ∀ staged, result = .ok staged →
        staged = ⟨stagedPath staging number, file.target output⟩ ∧
        after.tree.lookup (staging.place world.home ++ [stagedName number])
          = some (.file file.content) ∧
        ∀ folder ∈ (file.target output).folders,
          after.tree.hasDirectory world.home folder = true := by
  obtain ⟨parent, middle, hparent, hrest⟩ := runs_bind.mp h
  have hhome := (advances_ensureParent _ hparent).home
  obtain ⟨hgrows, hthere⟩ := of_ensureParent hparent
  replace hgrows : world.tree.Grows (IsFolderOf world.home output [file])
      (IsStagedFrom (staging.place world.home) number) middle.tree :=
    hgrows.mono (fun location hlocation => ⟨file, List.mem_singleton_self file, hlocation⟩)
      (fun _ => False.elim)
  split at hrest
  · obtain ⟨rfl, rfl⟩ := runs_pure.mp hrest
    exact ⟨hgrows, nofun⟩
  · obtain ⟨isWritten, written, hwrite, hlast⟩ := runs_bind.mp hrest
    cases hwrite.writeFile with
    | failed htree =>
      obtain ⟨rfl, rfl⟩ := runs_pure.mp hlast
      exact ⟨htree ▸ hgrows, nofun⟩
    | done hchange =>
      obtain ⟨rfl, rfl⟩ := runs_pure.mp hlast
      obtain ⟨-, -, hlookup, hput⟩ := FileTree.of_writeFile hchange
      rw [hhome, place_stagedPath] at hlookup hput
      have hwritten : middle.tree.Grows (IsFolderOf world.home output [file])
          (IsStagedFrom (staging.place world.home) number) after.tree :=
        hput ▸ FileTree.grows_put (by simp) (.inr ⟨⟨number, le_rfl, rfl⟩, hlookup⟩)
      refine ⟨hgrows.trans hwritten, fun staged hstaged => ⟨(Except.ok.inj hstaged).symm, ?_, ?_⟩⟩
      · rw [hput, FileTree.lookup_put (by simp), if_pos rfl]
      · exact fun folder hfolder => hwritten.hasDirectory (hthere rfl folder hfolder)

/-- Staging adds directories for the targets and files in the staging directory. If it ends well, the
staging directory holds all contents and every directory is there. -/
theorem of_stageAll {files : List OutputFile} {result : Except Path (List Staged)}
    (h : Runs (stageAll output staging number files) world result after) :
    world.tree.Grows (IsFolderOf world.home output files)
        (IsStagedFrom (staging.place world.home) number) after.tree ∧
      ∀ staged, result = .ok staged →
        staged = stagedFrom output staging number files ∧
        HoldsFrom after.tree (staging.place world.home) number files ∧
        ∀ file ∈ files, ∀ folder ∈ (file.target output).folders,
          after.tree.hasDirectory world.home folder = true := by
  -- On the files: what one of them stages is not touched by the later ones, whose numbers are larger.
  induction files generalizing world after number result with
  | nil =>
    obtain ⟨rfl, rfl⟩ := runs_pure.mp h
    exact ⟨.refl _ _ _, fun staged hstaged => ⟨(Except.ok.inj hstaged).symm, trivial, by simp⟩⟩
  | cons file rest ih =>
    obtain ⟨first, middle, hfirst, hrest⟩ := runs_bind.mp h
    have hhome := (advances_stage output staging number file hfirst).home
    obtain ⟨hgrows, hstaged⟩ := of_stage hfirst
    replace hgrows : world.tree.Grows (IsFolderOf world.home output (file :: rest))
        (IsStagedFrom (staging.place world.home) number) middle.tree := by
      refine hgrows.mono (fun location ⟨file', hfile', hfolder⟩ => ?_) (fun _ => id)
      exact ⟨file', List.mem_cons.mpr (.inl (List.mem_singleton.mp hfile')), hfolder⟩
    split at hrest
    · obtain ⟨rfl, rfl⟩ := runs_pure.mp hrest
      exact ⟨hgrows, nofun⟩
    · obtain ⟨others, last, hothers, hend⟩ := runs_bind.mp hrest
      obtain ⟨hgrowsRest, hstagedRest⟩ := ih hothers
      rw [hhome] at hgrowsRest hstagedRest
      obtain ⟨rfl, hcontent, hfolders⟩ := hstaged _ rfl
      have hgrowsAll : world.tree.Grows (IsFolderOf world.home output (file :: rest))
          (IsStagedFrom (staging.place world.home) number) last.tree := by
        refine hgrows.trans (hgrowsRest.mono (fun location ⟨file', hfile', hfolder⟩ => ?_)
          (fun location ⟨index, hindex, hlocation⟩ => ⟨index, by omega, hlocation⟩))
        exact ⟨file', List.mem_cons_of_mem file hfile', hfolder⟩
      split at hend
      · obtain ⟨rfl, rfl⟩ := runs_pure.mp hend
        exact ⟨hgrowsAll, nofun⟩
      · obtain ⟨rfl, rfl⟩ := runs_pure.mp hend
        obtain ⟨rfl, hholds, hfoldersRest⟩ := hstagedRest _ rfl
        refine ⟨hgrowsAll, fun staged hstaged => ⟨(Except.ok.inj hstaged).symm, ⟨?_, hholds⟩, ?_⟩⟩
        · rcases hgrowsRest (staging.place world.home ++ [stagedName number]) with
            hkept | ⟨-, hnone, -⟩ | ⟨⟨index, hindex, hlocation⟩, -⟩
          · rw [hkept, hcontent]
          · simp [hcontent] at hnone
          · have hsame := stagedName_inj (List.singleton_inj.mp (List.append_cancel_left hlocation))
            omega
        · rw [List.forall_mem_cons]
          exact ⟨fun folder hfolder => hgrowsRest.hasDirectory (hfolders folder hfolder),
            hfoldersRest⟩

end World

/-! ## The staging directory -/

/-- The output directory and the staging directory stand, and no other path leads inside the latter. -/
structure IsRoom (home : Location) (output staging : Path) (files : List OutputFile)
    (tree : FileTree) : Prop where
  stands : tree.hasDirectory home staging = true
  named : FileTree.isNamed staging = true
  passed : ∀ above ∈ staging.passed home, ¬ staging.place home <+: above
  targets : ∀ file ∈ files, ¬ staging.place home <+: (file.target output).place home
  folders : ∀ location, IsFolderOf home output files location → ¬ staging.place home <+: location
  ready : ∀ folder ∈ output.directories,
    tree.hasDirectory home folder = true ∧ ¬ staging.place home <+: folder.place home

/-- The location is that of a directory made for the output directory, or of the staging directory. -/
def IsOpened (home : Location) (output staging : Path) (location : Location) : Prop :=
  Path.IsPlaceOf home output.directories location ∨ location = staging.place home

theorem IsRoom.grows {home : Location} {output staging : Path} {files : List OutputFile}
    {founded touched : Location → Prop} {before after : FileTree}
    (h : IsRoom home output staging files before) (hgrows : before.Grows founded touched after) :
    IsRoom home output staging files after :=
  { h with
    stands := hgrows.hasDirectory h.stands
    ready := fun folder hfolder => (h.ready folder hfolder).imp_left hgrows.hasDirectory }

namespace World

variable {world after : World} {output : Path} {files : List OutputFile}

/-- The path of the staging directory of a run. -/
def stagingPath (world : World) (output : Path) (files : List OutputFile) : Path :=
  let prepared := ((ensureDirectories output : StateM World Bool).run world).2
  output.join (.ofText (stagingName prepared.tree (files.map OutputFile.path)))

theorem stagingPath_of_runs {isReady : Bool} {prepared : World}
    (h : Runs (ensureDirectories output) world isReady prepared) (files : List OutputFile) :
    world.stagingPath output files
      = output.join (.ofText (stagingName prepared.tree (files.map OutputFile.path))) := by
  have hrun : (ensureDirectories output : StateM World Bool).run world = (isReady, prepared) := h
  simp only [stagingPath, hrun]

/-- The name of the staging directory occurs in no path of a run. -/
theorem avoids_stagingName {tree : FileTree} {home : Location}
    (houtput : tree.hasDirectory home output = true) {file : OutputFile} (hfile : file ∈ files) :
    (file.target output).Avoids home (stagingName tree (files.map OutputFile.path)) := by
  obtain ⟨-, hopen, hlookup⟩ := FileTree.hasDirectory_iff.mp houtput
  have havoids : output.Avoids home (stagingName tree (files.map OutputFile.path)) := by
    refine Path.avoids_of_passed (isPlain_stagingName _ _).2.2.2 (fun above habove => ?_) ?_
    · exact stagingName_notMem_location (by simp [hopen above habove]) _
    · exact stagingName_notMem_location (by simp [hlookup]) _
  exact havoids.join (stagingName_notMem_components (List.mem_map_of_mem hfile) tree)

theorem place_staging {tree : FileTree} {staging : Path} {home : Location}
    (hstaging : staging = output.join (.ofText (stagingName tree (files.map OutputFile.path)))) :
    staging.place home
      = output.place home ++ [stagingName tree (files.map OutputFile.path)] :=
  hstaging ▸ Path.place_join_plain (isPlain_stagingName _ _)

/-- Nothing stands at the path of the staging directory, or inside. -/
theorem lookup_inStaging {tree : FileTree} {staging : Path} {home location : Location}
    (hstaging : staging = output.join (.ofText (stagingName tree (files.map OutputFile.path))))
    (hunder : staging.place home <+: location) : tree.lookup location = none := by
  refine Classical.byContradiction fun hsome => ?_
  rw [place_staging hstaging] at hunder
  exact Path.not_prefix_of_notMem (stagingName_notMem_location hsome _) hunder

theorem isRoom_of_makeDirectory {prepared opened : FileTree} {home : Location} {staging : Path}
    (houtput : ∀ folder ∈ output.directories, prepared.hasDirectory home folder = true)
    (hstaging : staging = output.join (.ofText (stagingName prepared (files.map OutputFile.path))))
    (h : prepared.makeDirectory? home staging = some opened) :
    IsRoom home output staging files opened := by
  have hplain := isPlain_stagingName prepared (files.map OutputFile.path)
  have hplace : staging.place home = _ := place_staging hstaging
  obtain ⟨hgrows, hstands⟩ := FileTree.grows_makeDirectory h
  have hfree : ∀ location, prepared.lookup location = some .directory →
      ¬ staging.place home <+: location := fun location hlookup hunder => by
    rw [lookup_inStaging hstaging hunder] at hlookup
    cases hlookup
  have havoids : ∀ file ∈ files, (file.target output).Avoids home _ := fun file hfile =>
    avoids_stagingName (houtput output (by simp [Path.directories])) hfile
  refine ⟨hstands, hstaging ▸ Path.isNamed_join_plain hplain, ?_, ?_, ?_, ?_⟩
  · obtain ⟨-, hopen, -⟩ := FileTree.of_makeDirectory h
    exact fun above habove => hfree above (hopen above habove)
  · exact fun file hfile => hplace ▸ Path.not_prefix_of_notMem (havoids file hfile).place
  · rintro location ⟨file, hfile, folder, hfolder, rfl⟩
    exact hplace ▸ Path.not_prefix_of_notMem ((havoids file hfile).of_mem_folders hfolder).place
  · intro folder hfolder
    have hdirectory := houtput folder hfolder
    exact ⟨hgrows.hasDirectory hdirectory, hfree _ (FileTree.hasDirectory_iff.mp hdirectory).2.2⟩

/-- A run makes the output directory and the staging directory, writes through the latter, and
removes it; or it fails before the staging directory is made. -/
theorem of_writeStaged {outcome : WriteOutcome} {staging : Path}
    (hpath : world.stagingPath output files = staging)
    (h : Runs (writeStaged output files) world outcome after) :
    (∀ location, staging.place world.home <+: location → world.tree.lookup location = none) ∧
    (outcome.failure ≠ none ∧
        world.tree.Grows (IsOpened world.home output staging) (fun _ => False) after.tree ∧
        after.tree.lookup (staging.place world.home) = none ∨
      ∃ room last isRemoved, world.Follows room ∧
        world.tree.Grows (IsOpened world.home output staging) (fun _ => False) room.tree ∧
        IsRoom world.home output staging files room.tree ∧
        Runs (writeThrough output staging files) room outcome last ∧
        Runs (FileStore.removeTree staging) last isRemoved after) := by
  obtain ⟨isReady, prepared, hready, hrest⟩ := runs_bind.mp h
  have hhome := (advances_ensureDirectories output hready).home
  obtain ⟨hgrows, hthere⟩ := of_ensureDirectories hready
  replace hgrows : world.tree.Grows (IsOpened world.home output staging) (fun _ => False)
      prepared.tree :=
    hgrows.mono (fun _ => .inl) (fun _ => id)
  have hstaging : staging
      = output.join (.ofText (stagingName prepared.tree (files.map OutputFile.path))) :=
    hpath.symm.trans (stagingPath_of_runs hready files)
  have hfree : ∀ location, staging.place world.home <+: location →
      prepared.tree.lookup location = none := fun _ => lookup_inStaging hstaging
  refine ⟨fun location hunder => ?_, ?_⟩
  · have hgains : FileTree.GainsAt location world.tree prepared.tree := hgrows.gainsAt id
    rcases hgains with hkept | ⟨hnone, -⟩
    · exact hkept.symm.trans (hfree location hunder)
    · exact hnone
  split at hrest
  · obtain ⟨rfl, rfl⟩ := runs_pure.mp hrest
    exact .inl ⟨nofun, hgrows, hfree _ List.prefix_rfl⟩
  · rename_i hisReady
    obtain ⟨name, named, hname, hmake⟩ := runs_bind.mp hrest
    obtain ⟨rfl, rfl⟩ := hname.freshName
    obtain ⟨isMade, room, hmade, hwrite⟩ := runs_bind.mp hmake
    rw [← hstaging] at hmade hwrite
    have heffect := hmade.makeDirectory
    rw [hhome] at heffect
    split at hwrite
    · rename_i hnotMade
      obtain ⟨rfl, rfl⟩ := runs_pure.mp hwrite
      cases heffect with
      | done => simp at hnotMade
      | failed htree => exact .inl ⟨nofun, htree ▸ hgrows, htree ▸ hfree _ List.prefix_rfl⟩
    · rename_i hisMade
      obtain ⟨result, last, hthrough, hclean⟩ := runs_bind.mp hwrite
      obtain ⟨isRemoved, cleaned, hremove, hlast⟩ := runs_bind.mp hclean
      obtain ⟨rfl, rfl⟩ := runs_pure.mp hlast
      have hfollows : world.Follows room :=
        (advances_ensureDirectories output hready).trans (advances_makeDirectory staging hmade)
      cases heffect with
      | failed => simp at hisMade
      | done hchange =>
        have hopens := (FileTree.grows_makeDirectory hchange).1
        refine .inr ⟨room, last, isRemoved, hfollows, ?_, ?_, hthrough, hremove⟩
        · exact hgrows.trans (hopens.mono (fun _ => .inr) (fun _ => id))
        · exact isRoom_of_makeDirectory (hthere (by simpa using hisReady)) hstaging hchange

end World

end CommandBuffer.Storage
