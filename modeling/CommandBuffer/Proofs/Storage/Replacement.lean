import CommandBuffer.Proofs.Storage.Rollback

/-! # Replacing targets

A replacement that succeeds leaves the content of the staged file at the target and nothing of what
stood there, be it a file or a directory; the rest of the tree stays. So a successful run changes no
location but the targets and what lies below them, and adds directories for the targets.
-/

namespace CommandBuffer.Storage

/-! ## One replacement -/

section

variable {home : Location} {staging target : Path} {number : Nat} {before after : FileTree}
  {backup : Option Path} {content : String}

/-- The tree from which the staged file is moved to its target. -/
theorem Replaces.exists_aside (h : Replaces home staging number target before backup after)
    (hrooted : before.IsRooted) (htarget : ¬ staging.place home <+: target.place home) :
    ∃ aside : FileTree, aside.IsRooted ∧ aside.Renames home (stagedPath staging number) target after ∧
      ∀ location, ¬ target.place home <+: location →
        ¬ staging.place home ++ [backupName number] <+: location →
        aside.lookup location = before.lookup location := by
  cases h with
  | new free placed => exact ⟨before, hrooted, placed, fun _ _ _ => rfl⟩
  | old kept placed =>
    exact ⟨_, kept.isRooted hrooted, placed, (moves_aside htarget kept).kept⟩

/-- What a successful replacement does. -/
structure Places (home : Location) (staging : Path) (number : Nat) (target : Location)
    (content : String) (before after : FileTree) : Prop where
  placed : after.lookup target = some (.file content)
  stands : ∀ above ∈ staging.passed home ++ [staging.place home],
    after.lookup above = some .directory
  outside : ∀ location, ¬ staging.place home <+: location → ¬ target <+: location →
    after.lookup location = before.lookup location
  inside : ∀ name, name ≠ stagedName number → name ≠ backupName number →
    after.lookup (staging.place home ++ [name]) = before.lookup (staging.place home ++ [name])

theorem Replaces.places (h : Replaces home staging number target before backup after)
    (hrooted : before.IsRooted) (htarget : ¬ staging.place home <+: target.place home)
    (hcontent : before.lookup (staging.place home ++ [stagedName number]) = some (.file content)) :
    Places home staging number (target.place home) content before after := by
  obtain ⟨aside, haside, hrenames, hsame⟩ := h.exists_aside hrooted htarget
  have hsource := place_stagedPath home staging number
  have hmoves := moves_out htarget hsource hrenames
  -- A target above the staging directory cannot be replaced by something inside itself.
  have hroom : ¬ target.place home <+: staging.place home := fun hunder =>
    hmoves.target_apart (hunder.trans (List.prefix_append _ _))
  have hnames : ∀ {first second : String}, first ≠ second →
      ¬ staging.place home ++ [first] <+: staging.place home ++ [second] := by
    intro first second hne hunder
    exact hne (by simpa using hunder.eq_of_length (by simp))
  have hinside : ∀ name, ¬ target.place home <+: staging.place home ++ [name] := by
    intro name hunder
    rcases List.prefix_concat_iff.mp hunder with heq | habove
    · exact htarget (heq ▸ List.prefix_append _ _)
    · exact hroom habove
  have hstaged : aside.lookup (staging.place home ++ [stagedName number]) = some (.file content) :=
    (hsame _ (hinside _) (hnames (stagedName_ne_backupName number number).symm)).trans hcontent
  refine ⟨?_, fun above habove => ?_, fun location hout hbelow => ?_, fun name hname hbackup => ?_⟩
  · rw [← List.append_nil (target.place home), hmoves.arrived, List.append_nil, hstaged]
  · -- The path of the staged file was followed in this tree, and the move replaced no directory.
    have hopen : aside.lookup above = some .directory :=
      hrenames.source_open above (passed_stagedPath home staging number ▸ habove)
    have hnotBelow : ∀ place : Location, aside.lookup place ≠ some .directory →
        ¬ place <+: above := by
      rintro place hplace ⟨rest, rfl⟩
      by_cases hrest : rest = []
      · exact hplace (by simpa [hrest] using hopen)
      · exact hplace (haside.isDirectory_above hrest (by simp [hopen]))
    have hfile : aside.lookup ((stagedPath staging number).place home) ≠ some .directory := by
      simp [hsource, hstaged]
    rw [hmoves.kept above (hnotBelow _ (hsource ▸ hfile)) (hnotBelow _ (mt hrenames.fits hfile)),
      hopen]
  · have hstagedOut : ∀ name, ¬ staging.place home ++ [name] <+: location := fun name hunder =>
      hout ((List.prefix_append _ _).trans hunder)
    rw [hmoves.kept location (hstagedOut _) hbelow, hsame location hbelow (hstagedOut _)]
  · rw [hmoves.kept _ (hnames hname.symm) (hinside name), hsame _ (hinside name) (hnames hbackup.symm)]

end

/-! ## All replacements -/

section

variable {home : Location} {output staging : Path} {world after : World} {outcome : WriteOutcome}
  {files : List OutputFile} {number : Nat}

/-- No two files go to places of which one is the other or lies below it. -/
def AreApart (home : Location) (output : Path) (files : List OutputFile) : Prop :=
  files.Pairwise fun first second =>
    ¬ (first.target output).place home <+: (second.target output).place home ∧
    ¬ (second.target output).place home <+: (first.target output).place home

instance : Decidable (AreApart home output files) :=
  inferInstanceAs (Decidable (files.Pairwise _))

/-- Moving the staged files to targets that are apart leaves their contents there, and changes
nothing else outside the staging directory. -/
theorem of_commit {done : List Replaced} (hhome : world.home = home)
    (hrooted : world.tree.IsRooted)
    (htargets : ∀ file ∈ files, ¬ staging.place home <+: (file.target output).place home)
    (happart : AreApart home output files)
    (hstands : ∀ above ∈ staging.passed home ++ [staging.place home],
      world.tree.lookup above = some .directory)
    (hholds : HoldsFrom world.tree (staging.place home) number files)
    (h : World.Runs (commit staging number done (stagedFrom output staging number files)) world
      outcome after)
    (hsuccess : outcome.failure = none) :
    (∀ above ∈ staging.passed home ++ [staging.place home],
      after.tree.lookup above = some .directory) ∧
    (∀ file ∈ files,
      after.tree.lookup ((file.target output).place home) = some (.file file.content)) ∧
    ∀ location, ¬ staging.place home <+: location →
      (∀ file ∈ files, ¬ (file.target output).place home <+: location) →
      after.tree.lookup location = world.tree.lookup location := by
  -- On the files: the later ones are still staged, and their targets are apart from the first one.
  induction files generalizing world number done with
  | nil =>
    obtain ⟨-, rfl⟩ := World.runs_pure.mp h
    exact ⟨hstands, by simp, fun _ _ _ => rfl⟩
  | cons file rest ih =>
    rw [List.forall_mem_cons] at htargets
    obtain ⟨hfirstApart, hrestApart⟩ := List.pairwise_cons.mp happart
    obtain ⟨result, middle, hreplace, hrest⟩ := World.runs_bind.mp h
    have hmiddle := World.advances_replaceTarget staging number _ hreplace
    have hreplaced := World.of_replaceTarget hrooted hreplace
    rw [hhome] at hreplaced
    cases result with
    | error path =>
      obtain ⟨unrestored, restored, -, hend⟩ := World.runs_bind.mp hrest
      obtain ⟨rfl, -⟩ := World.runs_pure.mp hend
      cases hsuccess
    | ok replaced =>
      have hplaces := hreplaced.2.2.places hrooted htargets.1 hholds.1
      have hholdsRest := hholds.2.congr fun index hindex => hplaces.inside (stagedName index)
        (fun heq => by have := stagedName_inj heq; omega) (stagedName_ne_backupName index number)
      obtain ⟨hstandsLast, hplaced, hothers⟩ := ih (hmiddle.home.trans hhome) (hmiddle.rooted hrooted)
        htargets.2 hrestApart hplaces.stands hholdsRest hrest
      refine ⟨hstandsLast, ?_, fun location hout hbelow => ?_⟩
      · rw [List.forall_mem_cons]
        refine ⟨?_, hplaced⟩
        rw [hothers _ htargets.1 fun other hother => (hfirstApart other hother).2]
        exact hplaces.placed
      · rw [List.forall_mem_cons] at hbelow
        rw [hothers location hout hbelow.2, hplaces.outside location hout hbelow.1]

/-! ## Successful runs -/

/-- The location is that of a directory made for the output directory or for one of the files. -/
def IsFounded (home : Location) (output : Path) (files : List OutputFile)
    (location : Location) : Prop :=
  Path.IsPlaceOf home output.directories location ∨ IsFolderOf home output files location

/-- What a successful run does: the files stand at their places with nothing below them, and
elsewhere only directories that the run needs were added. -/
structure Writes (home : Location) (output : Path) (files : List OutputFile)
    (before after : FileTree) : Prop where
  rooted : after.IsRooted
  placed : ∀ file ∈ files,
    after.lookup ((file.target output).place home) = some (.file file.content)
  founded : ∀ location, IsFounded home output files location →
    (∀ file ∈ files, ¬ (file.target output).place home <+: location) →
    after.lookup location = some .directory
  others : ∀ location, (∀ file ∈ files, ¬ (file.target output).place home <+: location) →
    after.lookup location = before.lookup location ∨
      IsFounded home output files location ∧ before.lookup location = none

/-- What a successful run through the staging directory does outside it. -/
theorem of_writeThrough (hhome : world.home = home) (hrooted : world.tree.IsRooted)
    (hroom : IsRoom home output staging files world.tree) (happart : AreApart home output files)
    (h : World.Runs (writeThrough output staging files) world outcome after)
    (hsuccess : outcome.failure = none) :
    ∃ middle : FileTree,
      world.tree.Grows (IsFolderOf home output files) (IsStagedFrom (staging.place home) 0) middle ∧
      (∀ location, IsFounded home output files location →
        middle.lookup location = some .directory) ∧
      after.tree.hasDirectory home staging = true ∧
      (∀ file ∈ files,
        after.tree.lookup ((file.target output).place home) = some (.file file.content)) ∧
      ∀ location, ¬ staging.place home <+: location →
        (∀ file ∈ files, ¬ (file.target output).place home <+: location) →
        after.tree.lookup location = middle.lookup location := by
  obtain ⟨result, middle, hstage, hrest⟩ := World.runs_bind.mp h
  have hmiddle := World.advances_stageAll output staging 0 files hstage
  obtain ⟨hgrows, hstaged⟩ := World.of_stageAll hstage
  rw [hhome] at hgrows hstaged
  cases result with
  | error path =>
    obtain ⟨rfl, -⟩ := World.runs_pure.mp hrest
    cases hsuccess
  | ok staged =>
    obtain ⟨rfl, hholds, hfolders⟩ := hstaged _ rfl
    have hroomMiddle := hroom.grows hgrows
    obtain ⟨haccepted, hopen, hlookup⟩ := FileTree.hasDirectory_iff.mp hroomMiddle.stands
    have hstands : ∀ above ∈ staging.passed home ++ [staging.place home],
        middle.tree.lookup above = some .directory := by
      rw [List.forall_mem_append, List.forall_mem_singleton]
      exact ⟨hopen, hlookup⟩
    obtain ⟨hstandsLast, hplaced, hothers⟩ := of_commit (hmiddle.home.trans hhome)
      (hmiddle.rooted hrooted) hroom.targets happart hstands hholds hrest hsuccess
    refine ⟨middle.tree, hgrows, ?_, FileTree.hasDirectory_iff.mpr ⟨haccepted,
      fun above habove => hstandsLast above (List.mem_append_left _ habove),
      hstandsLast _ (by simp)⟩, hplaced, hothers⟩
    rintro location (⟨folder, hfolder, rfl⟩ | ⟨file, hfile, folder, hfolder, rfl⟩)
    · exact (FileTree.hasDirectory_iff.mp (hroomMiddle.ready folder hfolder).1).2.2
    · exact (FileTree.hasDirectory_iff.mp (hfolders file hfile folder hfolder)).2.2

/-- Up to the end of staging, the tree outside the staging directory only gains directories that the
run needs. -/
theorem same_or_founded {before room middle : FileTree}
    (hopened : before.Grows (IsOpened home output staging) (fun _ => False) room)
    (hstaged : room.Grows (IsFolderOf home output files) (IsStagedFrom (staging.place home) 0) middle)
    {location : Location} (hout : ¬ staging.place home <+: location) :
    middle.lookup location = before.lookup location ∨
      IsFounded home output files location ∧ before.lookup location = none := by
  have hall : before.Grows
      (fun location => IsFounded home output files location ∨ location = staging.place home)
      (IsStagedFrom (staging.place home) 0) middle :=
    (hopened.mono (fun _ => Or.imp_left .inl) fun _ => False.elim).trans
      (hstaged.mono (fun _ hfolder => .inl (.inr hfolder)) fun _ => id)
  rcases hall location with hkept | ⟨hlocation | rfl, hnone, -⟩ | ⟨⟨index, -, rfl⟩, -⟩
  · exact .inl hkept
  · exact .inr ⟨hlocation, hnone⟩
  · exact absurd List.prefix_rfl hout
  · exact absurd (List.prefix_append _ _) hout

theorem IsRoom.not_prefix_of_isFounded {tree : FileTree}
    (h : IsRoom home output staging files tree) {location : Location}
    (hfounded : IsFounded home output files location) : ¬ staging.place home <+: location := by
  rcases hfounded with ⟨folder, hfolder, rfl⟩ | hfolder
  · exact (h.ready folder hfolder).2
  · exact h.folders location hfolder

theorem writes_of_writeStaged (hrooted : world.tree.IsRooted)
    (happart : AreApart world.home output files)
    (h : World.Runs (writeStaged output files) world outcome after)
    (hsuccess : outcome.failure = none) :
    Writes world.home output files world.tree after.tree ∧
      after.tree.contains world.home (world.stagingPath output files) = false := by
  generalize hstaging : world.stagingPath output files = staging
  obtain ⟨hfree, ⟨hfailure, -⟩ | ⟨room, last, isRemoved, hfollows, hgrows, hroom, hwrite,
    hremove⟩⟩ := World.of_writeStaged hstaging h
  · exact absurd hsuccess hfailure
  have hlast := World.advances_writeThrough output _ files hwrite
  obtain ⟨middle, hstaged, hfounded, hclean, hplaced, hothers⟩ :=
    of_writeThrough hfollows.home (hfollows.rooted hrooted) hroom happart hwrite hsuccess
  have hhome := hlast.home.trans hfollows.home
  have hlookup := hremove.lookup_of_removeTree hhome hroom.named hclean
  refine ⟨⟨?_, fun file hfile => ?_, fun location hlocation hbelow => ?_, fun location hbelow => ?_⟩,
    ?_⟩
  · exact (World.advances_removeTree _ hremove).rooted (hlast.rooted (hfollows.rooted hrooted))
  · rw [hlookup, if_neg (hroom.targets file hfile), hplaced file hfile]
  · have hout := hroom.not_prefix_of_isFounded hlocation
    rw [hlookup, if_neg hout, hothers location hout hbelow, hfounded location hlocation]
  · by_cases hunder : staging.place world.home <+: location
    · exact .inl (by rw [hlookup, if_pos hunder, hfree location hunder])
    · rw [hlookup, if_neg hunder, hothers location hunder hbelow]
      exact same_or_founded hgrows hstaged hunder
  · exact FileTree.contains_eq_false ((hlookup _).trans (if_pos List.prefix_rfl))

namespace Writes

variable {before after last : FileTree}

theorem lookup_below (h : Writes home output files before after) {file : OutputFile}
    (hfile : file ∈ files) {rest : Location} (hrest : rest ≠ []) :
    after.lookup ((file.target output).place home ++ rest) = none :=
  h.rooted.lookup_below (by simp [h.placed file hfile]) hrest

/-- The files after a run are those of the run and files that stood before. -/
theorem file_of_lookup (h : Writes home output files before after) {location : Location}
    {content : String} (hlookup : after.lookup location = some (.file content)) :
    (∃ file ∈ files, location = (file.target output).place home) ∨
      before.lookup location = some (.file content) := by
  by_cases hbelow : ∀ file ∈ files, ¬ (file.target output).place home <+: location
  · rcases h.others location hbelow with hsame | ⟨hfounded, -⟩
    · exact .inr (hsame.symm.trans hlookup)
    · simp [h.founded location hfounded hbelow] at hlookup
  · push Not at hbelow
    obtain ⟨file, hfile, rest, rfl⟩ := hbelow
    by_cases hrest : rest = []
    · exact .inl ⟨file, hfile, by rw [hrest, List.append_nil]⟩
    · simp [h.lookup_below hfile hrest] at hlookup

/-- The other files are kept exactly if none of them stood below a place. -/
theorem kept_iff (h : Writes home output files before after) :
    (∀ location content, before.lookup location = some (.file content) →
      (∀ file ∈ files, location ≠ (file.target output).place home) →
      after.lookup location = some (.file content)) ↔
    ∀ file ∈ files, ∀ rest content, rest ≠ [] →
      before.lookup ((file.target output).place home ++ rest) ≠ some (.file content) := by
  constructor
  · intro hkept file hfile rest content hrest hlookup
    have hnone := h.lookup_below hfile hrest
    have hother : ∀ other ∈ files, (file.target output).place home ++ rest
        ≠ (other.target output).place home := by
      intro other hother heq
      rw [heq, h.placed other hother] at hnone
      cases hnone
    rw [hkept _ content hlookup hother] at hnone
    cases hnone
  · intro hbare location content hlookup hother
    have hbelow : ∀ file ∈ files, ¬ (file.target output).place home <+: location := by
      rintro file hfile ⟨rest, rfl⟩
      by_cases hrest : rest = []
      · exact hother file hfile (by rw [hrest, List.append_nil])
      · exact hbare file hfile rest content hrest hlookup
    rcases h.others location hbelow with hsame | ⟨-, hnone⟩
    · exact hsame.trans hlookup
    · simp [hlookup] at hnone

/-- A second run finds all its files and directories there. -/
theorem again (h : Writes home output files before after)
    (hagain : Writes home output files after last) (location : Location) :
    last.lookup location = after.lookup location := by
  by_cases hbelow : ∀ file ∈ files, ¬ (file.target output).place home <+: location
  · rcases hagain.others location hbelow with hsame | ⟨hfounded, hnone⟩
    · exact hsame
    · simp [h.founded location hfounded hbelow] at hnone
  · push Not at hbelow
    obtain ⟨file, hfile, rest, rfl⟩ := hbelow
    by_cases hrest : rest = []
    · rw [hrest, List.append_nil, hagain.placed file hfile, h.placed file hfile]
    · rw [hagain.lookup_below hfile hrest, h.lookup_below hfile hrest]

end Writes

end

/-- If writing files to places that are apart ends well, every file stands at its place with its
content, no other file was added, and the staging directory is gone; a second run that ends well
changes nothing. The earlier files elsewhere are all kept exactly if no place was a directory with one
of them inside: such a directory is moved aside as a whole and removed with the staging directory. -/
theorem successful_writing_iff {world after : World} {output : Path} {files : List OutputFile}
    {outcome : WriteOutcome} (hrooted : world.tree.IsRooted)
    (happart : AreApart world.home output files)
    (h : World.Runs (writeStaged output files) world outcome after)
    (hsuccess : outcome.failure = none) :
    (∀ file ∈ files, after.tree.lookup ((file.target output).place world.home)
      = some (.file file.content)) ∧
    (∀ location content, after.tree.lookup location = some (.file content) →
      (∃ file ∈ files, location = (file.target output).place world.home) ∨
        world.tree.lookup location = some (.file content)) ∧
    after.tree.contains world.home (world.stagingPath output files) = false ∧
    (∀ again outcome' last, again.tree = after.tree → again.home = world.home →
      World.Runs (writeStaged output files) again outcome' last → outcome'.failure = none →
      ∀ location, last.tree.lookup location = after.tree.lookup location) ∧
    ((∀ location content, world.tree.lookup location = some (.file content) →
        (∀ file ∈ files, location ≠ (file.target output).place world.home) →
        after.tree.lookup location = some (.file content)) ↔
      ∀ file ∈ files, ∀ rest content, rest ≠ [] →
        world.tree.lookup ((file.target output).place world.home ++ rest)
          ≠ some (.file content)) := by
  obtain ⟨hwrites, hgone⟩ := writes_of_writeStaged hrooted happart h hsuccess
  refine ⟨hwrites.placed, fun _ _ => hwrites.file_of_lookup, hgone, ?_, hwrites.kept_iff⟩
  intro again outcome' last htree hhome hrun hsuccess' location
  have hagain := (writes_of_writeStaged (htree ▸ hwrites.rooted) (hhome ▸ happart) hrun hsuccess').1
  rw [htree, hhome] at hagain
  exact hwrites.again hagain location

/-! ## A file and a directory in place of a target -/

/-- A tree with a file at a target and another one beside it. -/
def plainWorld : World where
  tree := ⟨[(["a"], .file "old"), (["d"], .file "other")]⟩

/-- The file beside the target is kept. -/
theorem successful_writing_plain :
    plainWorld.tree.IsRooted ∧ AreApart [] (.ofText "") twoFiles ∧
    ∃ outcome after, World.Runs (writeStaged (.ofText "") twoFiles) plainWorld outcome after ∧
      outcome.failure = none ∧ after.tree.lookup ["b", "c"] = some (.file "new") ∧
      after.tree.lookup ["d"] = some (.file "other") := by
  have hrooted : plainWorld.tree.IsRooted := FileTree.isRooted_of_entries (by decide +kernel)
  have happart : AreApart [] (.ofText "") twoFiles := by decide +kernel
  have hsuccess : ((writeStaged (.ofText "") twoFiles : StateM World WriteOutcome).run
      plainWorld).1.failure = none := by decide +kernel
  obtain ⟨hplaced, -, -, -, hkept⟩ :=
    successful_writing_iff hrooted happart (World.runs_run _ _) hsuccess
  have hbare : ∀ file ∈ twoFiles, plainWorld.tree.lookup ((file.target (.ofText "")).place [])
      ≠ some .directory := by decide +kernel
  have hother : ∀ file ∈ twoFiles, ["d"] ≠ (file.target (.ofText "")).place [] := by decide +kernel
  have hplace : (OutputFile.target (.ofText "") ⟨"b/c", "new"⟩).place [] = ["b", "c"] := by
    decide +kernel
  refine ⟨hrooted, happart, _, _, World.runs_run _ _, hsuccess, ?_, ?_⟩
  · exact hplace ▸ hplaced ⟨"b/c", "new"⟩ (by decide)
  · refine hkept.mpr (fun file hfile rest content hrest => ?_) ["d"] "other" (by decide) hother
    rw [show plainWorld.home = [] from rfl, hrooted.lookup_below (hbare file hfile) hrest]
    nofun

/-- A tree with a directory at a target and a file inside. -/
def fullWorld : World where
  tree := ⟨[(["a"], .directory), (["a", "b"], .file "x")]⟩

/-- The file in the directory is gone although writing ended well. -/
theorem file_lost_below_target :
    fullWorld.tree.IsRooted ∧ AreApart [] (.ofText "") [⟨"a", "y"⟩] ∧
    fullWorld.tree.lookup ["a", "b"] = some (.file "x") ∧
    ["a", "b"] ≠ ((OutputFile.target (.ofText "") ⟨"a", "y"⟩).place []) ∧
    ∃ outcome after, World.Runs (writeStaged (.ofText "") [⟨"a", "y"⟩]) fullWorld outcome after ∧
      outcome.failure = none ∧ after.tree.lookup ["a", "b"] = none := by
  refine ⟨FileTree.isRooted_of_entries (by decide +kernel), by decide +kernel, by decide +kernel,
    by decide +kernel, _, _, World.runs_run _ _, by decide +kernel, by decide +kernel⟩

end CommandBuffer.Storage
