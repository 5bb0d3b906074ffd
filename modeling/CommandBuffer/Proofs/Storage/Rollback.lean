import CommandBuffer.Generation
import CommandBuffer.Proofs.Storage.Staging
import Mathlib

/-! # Rolling back

Every replacement of a target can be undone: what stood there is kept in the staging directory under
the number of the target, and later replacements do not touch it. Undoing the replacements newest
first therefore leads back, one after the other, through the trees that they started from.
-/

namespace CommandBuffer.Storage

namespace FileTree

variable {room target location : Location} {number : Nat}
  {before aside current after restored : FileTree}

/-! ## What the replacements so far rely on -/

/-- The location is outside the staging directory, is that directory, or belongs to what is kept of a
target with a smaller number. -/
def IsKept (room : Location) (number : Nat) (location : Location) : Prop :=
  ¬ room <+: location ∨ location = room ∨ ∃ index < number, room ++ [backupName index] <+: location

def AgreesOn (region : Location → Prop) (before after : FileTree) : Prop :=
  ∀ location, region location → after.lookup location = before.lookup location

theorem IsKept.succ (h : IsKept room number location) : IsKept room (number + 1) location := by
  rcases h with hout | hroom | ⟨index, hindex, hunder⟩
  · exact .inl hout
  · exact .inr (.inl hroom)
  · exact .inr (.inr ⟨index, by omega, hunder⟩)

theorem isKept_backup (room : Location) (number : Nat) (rest : Location) :
    IsKept room (number + 1) (room ++ [backupName number] ++ rest) :=
  .inr (.inr ⟨number, by omega, List.prefix_append _ rest⟩)

/-- A name of the staging directory that is no smaller backup leads out of what is kept. -/
theorem IsKept.not_below (h : IsKept room number location) {name : String}
    (hname : ∀ index < number, name ≠ backupName index) : ¬ room ++ [name] <+: location := by
  intro hbelow
  rcases h with hout | rfl | ⟨index, hindex, hunder⟩
  · exact hout ((List.prefix_append room [name]).trans hbelow)
  · exact Nat.not_succ_le_self location.length (by simpa using hbelow.length_le)
  · have hsame := List.prefix_of_prefix_length_le hbelow hunder (by simp)
    exact hname index hindex (by simpa using hsame)

theorem IsKept.not_below_staged (h : IsKept room number location) (index : Nat) :
    ¬ room ++ [stagedName index] <+: location :=
  h.not_below fun _ _ => stagedName_ne_backupName index _

theorem IsKept.not_below_backup (h : IsKept room number location) :
    ¬ room ++ [backupName number] <+: location :=
  h.not_below fun index hindex heq => by
    have := backupName_inj heq
    omega

/-! ## Undoing one replacement -/

/-- What was moved aside comes back, if what is kept of it and what is kept elsewhere stayed. -/
theorem agreesOn_of_moves_back (haside : before.Moves target (room ++ [backupName number]) aside)
    (hcurrent : ∀ location, IsKept room (number + 1) location → ¬ target <+: location →
      current.lookup location = aside.lookup location)
    (hback : current.Moves (room ++ [backupName number]) target restored) :
    AgreesOn (IsKept room number) before restored := by
  intro location hkept
  by_cases hunder : target <+: location
  · obtain ⟨rest, rfl⟩ := hunder
    calc restored.lookup (target ++ rest)
        = current.lookup (room ++ [backupName number] ++ rest) := hback.arrived rest
      _ = aside.lookup (room ++ [backupName number] ++ rest) :=
          hcurrent _ (isKept_backup room number rest)
            (apart_of_append haside.target_apart haside.source_apart rest)
      _ = before.lookup (target ++ rest) := haside.arrived rest
  · calc restored.lookup location
        = current.lookup location := hback.kept location hkept.not_below_backup hunder
      _ = aside.lookup location := hcurrent location hkept.succ hunder
      _ = before.lookup location := haside.kept location hunder hkept.not_below_backup

/-- A target where nothing stood is bare again once the new file is removed. -/
theorem agreesOn_of_remove (hrooted : before.IsRooted) (hnone : before.lookup target = none)
    (hmoves : before.Moves (room ++ [stagedName number]) target after)
    (hcurrent : AgreesOn (IsKept room (number + 1)) after current) :
    AgreesOn (IsKept room number) before (current.remove target) := by
  have hroot : target ≠ [] := by
    rintro rfl
    simp at hnone
  intro location hkept
  rw [lookup_remove hroot]
  split
  · rename_i hunder
    obtain ⟨rest, rfl⟩ := hunder
    by_cases hrest : rest = []
    · rw [hrest, List.append_nil, hnone]
    · exact (hrooted.lookup_below (by simp [hnone]) hrest).symm
  · rename_i hunder
    calc current.lookup location
        = after.lookup location := hcurrent location hkept.succ
      _ = before.lookup location := hmoves.kept location (hkept.not_below_staged number) hunder

end FileTree

/-! ## Replacing one target -/

/-- The tree after a target was replaced: what stood there was moved aside, and the staged file took
its place. -/
inductive Replaces (home : Location) (staging : Path) (number : Nat) (target : Path)
    (before : FileTree) : Option Path → FileTree → Prop
  | new {after : FileTree} (free : before.contains home target = false)
      (placed : before.Renames home (stagedPath staging number) target after) :
      Replaces home staging number target before none after
  | old {aside after : FileTree}
      (kept : before.Renames home target (backupPath staging number) aside)
      (placed : aside.Renames home (stagedPath staging number) target after) :
      Replaces home staging number target before (some (backupPath staging number)) after

namespace World

variable {world after : World} {staging : Path} {number : Nat}

theorem of_moveAside {target : Path} {result : Except Path (Option Path)}
    (hrooted : world.tree.IsRooted) (h : Runs (moveAside staging number target) world result after) :
    match result with
    | .error _ => after.tree = world.tree ∧ after.failures = world.failures + 1
    | .ok none => after = world ∧ world.tree.contains world.home target = false
    | .ok (some backup) => backup = backupPath staging number ∧ after.failures = world.failures ∧
        world.tree.Renames world.home target backup after.tree := by
  obtain ⟨isThere, middle, hpresent, hrest⟩ := runs_bind.mp h
  obtain ⟨rfl, rfl⟩ := hpresent.isPresent
  split at hrest
  · obtain ⟨isMoved, moved, hmove, hlast⟩ := runs_bind.mp hrest
    cases hmove.rename with
    | done hchange hhome hfailures =>
      obtain ⟨rfl, rfl⟩ := runs_pure.mp hlast
      exact ⟨rfl, hfailures, FileTree.of_rename hrooted hchange⟩
    | failed htree hhome hfailures =>
      obtain ⟨rfl, rfl⟩ := runs_pure.mp hlast
      exact ⟨htree, hfailures⟩
  · rename_i habsent
    obtain ⟨rfl, rfl⟩ := runs_pure.mp hrest
    exact ⟨rfl, by simpa using habsent⟩

/-- A replacement that succeeds has no failure. One that fails does so once, unless giving the target
back fails too. -/
theorem of_replaceTarget {target : Path} {result : Except Path Replaced}
    (hrooted : world.tree.IsRooted)
    (h : Runs (replaceTarget staging number ⟨stagedPath staging number, target⟩) world result after) :
    match result with
    | .ok replaced => after.failures = world.failures ∧ replaced.target = target ∧
        Replaces world.home staging number target world.tree replaced.backup after.tree
    | .error _ => world.failures < after.failures ∧ (after.failures ≤ world.failures + 1 →
        after.tree = world.tree ∨ ∃ aside : FileTree,
          world.tree.Renames world.home target (backupPath staging number) aside ∧
          aside.Renames world.home (backupPath staging number) target after.tree) := by
  obtain ⟨aside, middle, haside, hrest⟩ := runs_bind.mp h
  have hmiddle := advances_moveAside staging target number haside
  replace haside := of_moveAside hrooted haside
  cases aside with
  | error path =>
    obtain ⟨rfl, rfl⟩ := runs_pure.mp hrest
    exact ⟨by omega, fun _ => .inl haside.1⟩
  | ok backup =>
    obtain ⟨isMoved, moved, hmove, hlast⟩ := runs_bind.mp hrest
    cases hmove.rename with
    | done hchange hhome hfailures =>
      obtain ⟨rfl, rfl⟩ := runs_pure.mp hlast
      have hplaced := FileTree.of_rename (hmiddle.rooted hrooted) hchange
      cases backup with
      | none =>
        obtain ⟨rfl, hfree⟩ := haside
        exact ⟨hfailures, rfl, .new hfree hplaced⟩
      | some backup =>
        obtain ⟨rfl, hmiddleFailures, hkept⟩ := haside
        exact ⟨hfailures.trans hmiddleFailures, rfl, .old hkept (hmiddle.home ▸ hplaced)⟩
    | failed htree hhome hfailures =>
      cases backup with
      | none =>
        obtain ⟨rfl, hfree⟩ := haside
        obtain ⟨rfl, rfl⟩ := runs_pure.mp hlast
        exact ⟨by omega, fun _ => .inl htree⟩
      | some backup =>
        obtain ⟨rfl, hmiddleFailures, hkept⟩ := haside
        obtain ⟨isBack, back, hback, hend⟩ := runs_bind.mp hlast
        obtain ⟨rfl, rfl⟩ := runs_pure.mp hend
        cases hback.rename with
        | done hreturn hbackHome hbackFailures =>
          refine ⟨by omega, fun _ => .inr ⟨middle.tree, hkept, ?_⟩⟩
          rw [htree, hhome, hmiddle.home] at hreturn
          exact FileTree.of_rename (hmiddle.rooted hrooted) hreturn
        | failed hbackTree hbackHome hbackFailures =>
          -- The second failure of the run: the bound on the failures excludes it.
          exact ⟨by omega, fun hfew => by omega⟩

end World

/-! ## Undoing all replacements -/

section

variable {home : Location} {staging target : Path} {number : Nat}

/-- A place inside the staging directory is not that of a target outside. -/
theorem ne_inside {room goal : Location} (h : ¬ room <+: goal) (name : String) :
    room ++ [name] ≠ goal := fun heq =>
  h (heq ▸ List.prefix_append room [name])

/-- A file of the staging directory is moved out of it. -/
theorem moves_out {before after : FileTree} {source : Path} {name : String}
    (htarget : ¬ staging.place home <+: target.place home)
    (hsource : source.place home = staging.place home ++ [name])
    (h : before.Renames home source target after) :
    before.Moves (staging.place home ++ [name]) (target.place home) after :=
  hsource ▸ h.moves (hsource ▸ ne_inside htarget name)

/-- What stands at a target is moved into the staging directory. -/
theorem moves_aside {before aside : FileTree}
    (htarget : ¬ staging.place home <+: target.place home)
    (h : before.Renames home target (backupPath staging number) aside) :
    before.Moves (target.place home) (staging.place home ++ [backupName number]) aside :=
  place_backupPath home staging number ▸
    h.moves (place_backupPath home staging number ▸ (ne_inside htarget _).symm)

open FileTree (AgreesOn IsKept)

/-- Restoring the target of a replacement leads back to the tree before, as far as it is relied on. -/
theorem Replaces.agreesOn_of_restore {before after : FileTree} {backup : Option Path}
    {world restored : World} {isRestored : Bool}
    (h : Replaces home staging number target before backup after) (hbefore : before.IsRooted)
    (htarget : ¬ staging.place home <+: target.place home)
    (hhome : world.home = home) (hrooted : world.tree.IsRooted)
    (hworld : AgreesOn (IsKept (staging.place home) (number + 1)) after world.tree)
    (hrestore : World.Runs (restore ⟨target, backup⟩) world isRestored restored)
    (hfailures : restored.failures = world.failures) :
    AgreesOn (IsKept (staging.place home) number) before restored.tree := by
  have hsource := place_stagedPath home staging number
  cases h with
  | new free placed =>
    have hnone := placed.free (hsource ▸ ne_inside htarget _) free
    cases World.Runs.removeFile hrestore with
    | done hchange =>
      rw [hhome] at hchange
      rw [(FileTree.of_removeFile hchange).2]
      exact FileTree.agreesOn_of_remove hbefore hnone (moves_out htarget hsource placed) hworld
    | failed htree hsameHome hfailed => omega
  | old kept placed =>
    have hmoves := moves_out htarget hsource placed
    cases World.Runs.rename hrestore with
    | done hchange =>
      rw [hhome] at hchange
      have hback := moves_out htarget (place_backupPath home staging number)
        (FileTree.of_rename hrooted hchange)
      refine FileTree.agreesOn_of_moves_back (moves_aside htarget kept)
        (fun location hkept hunder => ?_) hback
      rw [hworld location hkept, hmoves.kept location (hkept.not_below_staged number) hunder]
    | failed htree hsameHome hfailed => omega

/-- Restoring the targets, in whatever world agrees with the current tree, leads to the first tree. -/
def Undoes (home : Location) (staging : Path) (number : Nat) (done : List Replaced)
    (base current : FileTree) : Prop :=
  ∀ ⦃world : World⦄ ⦃unrestored : List Path⦄ ⦃after : World⦄, world.home = home →
    world.tree.IsRooted → AgreesOn (IsKept (staging.place home) number) current world.tree →
    World.Runs (restoreAll done) world unrestored after → after.failures = world.failures →
    AgreesOn (IsKept (staging.place home) 0) base after.tree

theorem undoes_nil (home : Location) (staging : Path) (base : FileTree) :
    Undoes home staging 0 [] base base := by
  intro world unrestored after _ _ hworld hrun _
  rw [(World.runs_pure.mp hrun).2]
  exact hworld

/-- The replacement done last is undone first. -/
theorem Undoes.cons {done : List Replaced} {base before after : FileTree} {backup : Option Path}
    (h : Undoes home staging number done base before) (hbefore : before.IsRooted)
    (hreplaces : Replaces home staging number target before backup after)
    (htarget : ¬ staging.place home <+: target.place home) :
    Undoes home staging (number + 1) (⟨target, backup⟩ :: done) base after := by
  intro world unrestored last hhome hrooted hworld hrun hfailures
  obtain ⟨isRestored, middle, hrestore, hrest⟩ := World.runs_bind.mp hrun
  obtain ⟨others, restored, hothers, hend⟩ := World.runs_bind.mp hrest
  obtain ⟨-, rfl⟩ := World.runs_pure.mp hend
  have hfirst := World.advances_restore _ hrestore
  have hsecond := World.advances_restoreAll done hothers
  have hmiddle := hreplaces.agreesOn_of_restore hbefore htarget hhome hrooted hworld hrestore
    (le_antisymm (hsecond.failures.trans hfailures.le) hfirst.failures)
  exact h (hfirst.home.trans hhome) (hfirst.rooted hrooted) hmiddle hothers
    (le_antisymm (hfailures.le.trans hfirst.failures) hsecond.failures)

/-! ## Failing runs -/

variable {world after : World} {outcome : WriteOutcome} {output : Path} {files : List OutputFile}

/-- If the replacements so far can be undone and one of the next ones fails, with no other failure,
then all targets get back what they had. -/
theorem agreesOn_of_commit {done : List Replaced} {base : FileTree}
    (hhome : world.home = home) (hrooted : world.tree.IsRooted)
    (htargets : ∀ file ∈ files, ¬ staging.place home <+: (file.target output).place home)
    (hundo : Undoes home staging number done base world.tree)
    (h : World.Runs (commit staging number done (stagedFrom output staging number files)) world
      outcome after)
    (hfailure : outcome.failure ≠ none) (hfailures : after.failures ≤ world.failures + 1) :
    AgreesOn (IsKept (staging.place home) 0) base after.tree := by
  -- The invariant is that what was done so far can be undone; the current tree changes with each step.
  induction files generalizing world number done with
  | nil =>
    obtain ⟨rfl, rfl⟩ := World.runs_pure.mp h
    exact absurd rfl hfailure
  | cons file rest ih =>
    rw [List.forall_mem_cons] at htargets
    obtain ⟨result, middle, hreplace, hrest⟩ := World.runs_bind.mp h
    have hmiddle := World.advances_replaceTarget staging number _ hreplace
    have hreplaced := World.of_replaceTarget hrooted hreplace
    rw [hhome] at hreplaced
    cases result with
    | ok replaced =>
      obtain ⟨target, backup⟩ := replaced
      obtain ⟨hsame, rfl, hreplaces⟩ := hreplaced
      exact ih (hmiddle.home.trans hhome) (hmiddle.rooted hrooted) htargets.2
        (hundo.cons hrooted hreplaces htargets.1) hrest (by omega)
    | error path =>
      obtain ⟨hfailed, hreturned⟩ := hreplaced
      obtain ⟨unrestored, restored, hrestore, hend⟩ := World.runs_bind.mp hrest
      obtain ⟨rfl, rfl⟩ := World.runs_pure.mp hend
      have hrestored := World.advances_restoreAll done hrestore
      refine hundo (hmiddle.home.trans hhome) (hmiddle.rooted hrooted) ?_ hrestore
        (by have := hrestored.failures; omega)
      -- The replacement itself took the only failure, so it left or returned what it found.
      rcases hreturned (hrestored.failures.trans hfailures) with hsame | ⟨aside, hkept, hreturn⟩
      · exact fun location _ => by rw [hsame]
      · exact FileTree.agreesOn_of_moves_back (moves_aside htargets.1 hkept) (fun _ _ _ => rfl)
          (moves_out htargets.1 (place_backupPath home staging number) hreturn)

/-- A failing run through the staging directory only adds directories outside it. -/
theorem gainsAt_of_writeThrough (hhome : world.home = home) (hrooted : world.tree.IsRooted)
    (hroom : IsRoom home output staging files world.tree)
    (h : World.Runs (writeThrough output staging files) world outcome after)
    (hfailure : outcome.failure ≠ none) (hfailures : after.failures ≤ world.failures + 1)
    {location : Location} (hlocation : IsKept (staging.place home) 0 location) :
    FileTree.GainsAt location world.tree after.tree := by
  obtain ⟨result, middle, hstage, hrest⟩ := World.runs_bind.mp h
  have hmiddle := World.advances_stageAll output staging 0 files hstage
  obtain ⟨hgrows, hstaged⟩ := World.of_stageAll hstage
  rw [hhome] at hgrows hstaged
  have hsame : after.tree.lookup location = middle.tree.lookup location := by
    cases result with
    | error path => rw [(World.runs_pure.mp hrest).2]
    | ok staged =>
      obtain ⟨rfl, -, -⟩ := hstaged _ rfl
      exact agreesOn_of_commit (hmiddle.home.trans hhome) (hmiddle.rooted hrooted) hroom.targets
        (undoes_nil home staging middle.tree) hrest hfailure
        (hfailures.trans (Nat.add_le_add_right hmiddle.failures 1)) location hlocation
  have hunstaged : ¬ IsStagedFrom (staging.place home) 0 location := by
    rintro ⟨index, -, rfl⟩
    exact hlocation.not_below_staged index List.prefix_rfl
  rw [FileTree.GainsAt, hsame]
  exact hgrows.gainsAt hunstaged

end

/-! ## Untouched trees -/

/-- Whatever stood before stands unchanged. Where nothing stood there is nothing now, or a directory
that holds no file. -/
structure FileTree.IsUntouched (before after : FileTree) : Prop where
  kept : ∀ location entry, before.lookup location = some entry → after.lookup location = some entry
  added : ∀ location, before.lookup location = none → after.lookup location = none ∨
    after.lookup location = some .directory ∧
      ∀ rest content, after.lookup (location ++ rest) ≠ some (.file content)

theorem FileTree.isUntouched_of_gainsAt {before after : FileTree} (hrooted : before.IsRooted)
    (h : ∀ location, GainsAt location before after) : before.IsUntouched after := by
  refine ⟨fun location entry hentry => ?_, fun location hnone => ?_⟩
  · rcases h location with hsame | ⟨hnone, -⟩
    · rw [hsame, hentry]
    · simp [hentry] at hnone
  · rcases h location with hsame | ⟨-, hdirectory⟩
    · exact .inl (hsame.trans hnone)
    · refine .inr ⟨hdirectory, fun rest content hfile => ?_⟩
      by_cases hrest : rest = []
      · simp [hrest, hdirectory] at hfile
      · have hbelow : before.lookup (location ++ rest) = none :=
          hrooted.lookup_below (by simp [hnone]) hrest
        rcases h (location ++ rest) with hsame | ⟨-, hadded⟩
        · simp [hsame, hbelow] at hfile
        · simp [hadded] at hfile

section

open FileTree (IsKept)

variable {world after : World} {outcome : WriteOutcome} {output : Path} {files : List OutputFile}

/-- The staging directory can be removed after a failing run through it. -/
theorem hasDirectory_of_writeThrough {home : Location} {staging : Path} (hhome : world.home = home)
    (hrooted : world.tree.IsRooted) (hroom : IsRoom home output staging files world.tree)
    (h : World.Runs (writeThrough output staging files) world outcome after)
    (hfailure : outcome.failure ≠ none) (hfailures : after.failures ≤ world.failures + 1) :
    after.tree.hasDirectory home staging = true := by
  obtain ⟨haccepted, hopen, hlookup⟩ := FileTree.hasDirectory_iff.mp hroom.stands
  have hgains : ∀ location, IsKept (staging.place home) 0 location →
      FileTree.GainsAt location world.tree after.tree := fun location =>
    gainsAt_of_writeThrough hhome hrooted hroom h hfailure hfailures
  refine FileTree.hasDirectory_iff.mpr ⟨haccepted, fun above habove => ?_, ?_⟩
  · exact (hgains above (.inl (hroom.passed above habove))).lookup_directory (hopen above habove)
  · exact (hgains _ (.inr (.inl rfl))).lookup_directory hlookup

theorem isUntouched_of_writeStaged (hrooted : world.tree.IsRooted)
    (h : World.Runs (writeStaged output files) world outcome after)
    (hfailure : outcome.failure ≠ none) (hfailures : after.failures ≤ world.failures + 1) :
    world.tree.IsUntouched after.tree ∧
      after.tree.contains world.home (world.stagingPath output files) = false := by
  generalize hstaging : world.stagingPath output files = staging
  obtain ⟨hfree, ⟨-, hgrows, hgone⟩ | ⟨room, last, isRemoved, hfollows, hgrows, hroom, hwrite,
    hremove⟩⟩ := World.of_writeStaged hstaging h
  · exact ⟨FileTree.isUntouched_of_gainsAt hrooted fun location => hgrows.gainsAt id,
      FileTree.contains_eq_false hgone⟩
  · have hend := World.advances_removeTree _ hremove
    have hlast := (World.advances_writeThrough output _ files hwrite).home.trans hfollows.home
    have hfew : last.failures ≤ room.failures + 1 :=
      hend.failures.trans (hfailures.trans (Nat.add_le_add_right hfollows.failures 1))
    have hclean := hasDirectory_of_writeThrough hfollows.home (hfollows.rooted hrooted) hroom hwrite
      hfailure hfew
    have hlookup := hremove.lookup_of_removeTree hlast hroom.named hclean
    refine ⟨FileTree.isUntouched_of_gainsAt hrooted fun location => ?_, ?_⟩
    · by_cases hunder : staging.place world.home <+: location
      · exact .inl (by rw [hlookup, if_pos hunder, hfree location hunder])
      · rw [FileTree.GainsAt, hlookup, if_neg hunder]
        exact (hgrows.gainsAt id).trans (gainsAt_of_writeThrough hfollows.home
          (hfollows.rooted hrooted) hroom hwrite hfailure hfew (.inl hunder))
    · exact FileTree.contains_eq_false ((hlookup _).trans (if_pos List.prefix_rfl))

end

end CommandBuffer.Storage

namespace CommandBuffer
open Storage

/-- Failed writing leaves a rooted tree untouched and the staging directory is gone, if no second
operation fails: then the operation that ends the writing is the one that failed, and giving the
targets back and removing the staging directory succeed. So does failed generation, whatever the
protocol and the formatter; if it fails before writing, nothing is changed at all. -/
theorem failed_generation_untouched (world : World) (output : Path)
    (hrooted : world.tree.IsRooted) :
    (∀ (files : List OutputFile) (outcome : WriteOutcome) (after : World),
      World.Runs (writeStaged output files) world outcome after → outcome.failure ≠ none →
      after.failures ≤ world.failures + 1 →
        world.tree.IsUntouched after.tree ∧
        after.tree.contains world.home (world.stagingPath output files) = false) ∧
    ∀ (protocol : Protocol) (format : Formatter) (outcome : RunOutcome) (after : World),
      World.Runs (protocol.generateInto format output) world outcome after →
      outcome.result.isOk = false → after.failures ≤ world.failures + 1 →
        world.tree.IsUntouched after.tree ∧
        match protocol.generate format with
        | .ok generation =>
          after.tree.contains world.home (world.stagingPath output generation.files) = false
        | .error _ => after = world := by
  refine ⟨fun files outcome after h hfailure hfailures =>
    isUntouched_of_writeStaged hrooted h hfailure hfailures, ?_⟩
  intro protocol format outcome after h hfailure hfailures
  unfold Protocol.generateInto at h
  cases hgenerate : protocol.generate format with
  | error failure =>
    rw [hgenerate] at h
    obtain ⟨-, rfl⟩ := World.runs_pure.mp h
    exact ⟨FileTree.isUntouched_of_gainsAt hrooted fun _ => .inl rfl, rfl⟩
  | ok generation =>
    rw [hgenerate] at h
    obtain ⟨written, middle, hwrite, hrest⟩ := World.runs_bind.mp h
    cases hwritten : written.failure with
    | none =>
      rw [hwritten] at hrest
      obtain ⟨rfl, -⟩ := World.runs_pure.mp hrest
      cases hfailure
    | some path =>
      rw [hwritten] at hrest
      obtain ⟨-, rfl⟩ := World.runs_pure.mp hrest
      exact isUntouched_of_writeStaged hrooted hwrite (by simp [hwritten]) hfailures

/-! ## A run that fails -/

/-- A tree with one file, in which the seventh operation fails. -/
def faultyWorld : World where
  tree := ⟨[(["a"], .file "old")]⟩
  fault := some 6

def twoFiles : List OutputFile := [⟨"a", "new"⟩, ⟨"b/c", "new"⟩]

def emptyProtocol : Protocol where
  name := "Test"
  filePrefix := "test"
  description := "A protocol without functions"
  commandBase := 256
  supportPath := "crate::support"
  types := {}
  overrides := {}
  functions := ""

def emptyBlueprint : Blueprint where
  protocol := emptyProtocol
  records := []
  validators := {}
  commands := []
  support := { segments := [{ name := "crate" }, { name := "support" }] }

theorem generateInto_empty (files : List OutputFile) (output : Path) :
    (emptyProtocol.generateInto (fun _ => .ok files) output : StateM World RunOutcome)
      = Generation.writeInto output ⟨emptyBlueprint, files⟩ := by
  have hblueprint : emptyProtocol.blueprint = .ok emptyBlueprint := by cbv
  have hartifacts : emptyBlueprint.artifacts.isOk = true := by decide +kernel
  have hgenerate : emptyProtocol.generate (fun _ => .ok files) = .ok ⟨emptyBlueprint, files⟩ := by
    unfold Protocol.generate
    rw [hblueprint]
    cases h : emptyBlueprint.artifacts with
    | error failure =>
      rw [h] at hartifacts
      cases hartifacts
    | ok artifacts => simp [Except.mapError, bind, Except.bind, h, pure, Except.pure]
  unfold Protocol.generateInto
  rw [hgenerate]

/-- The first file was replaced when the second one could not be moved to its target. The first one
gets back what it had, also in a run that generates the files. -/
theorem untouched_second_target :
    (∃ outcome after, World.Runs (writeStaged (.ofText "") twoFiles) faultyWorld outcome after ∧
      outcome.failure = some (.ofText "b/c") ∧ after.failures = 1 ∧
      faultyWorld.tree.IsUntouched after.tree) ∧
    ∃ outcome after, World.Runs (emptyProtocol.generateInto (fun _ => .ok twoFiles) (.ofText ""))
        faultyWorld outcome after ∧
      outcome.result.isOk = false ∧ after.failures = 1 ∧
      faultyWorld.tree.IsUntouched after.tree := by
  have hrooted : faultyWorld.tree.IsRooted := FileTree.isRooted_of_entries (by decide +kernel)
  have huntouched := failed_generation_untouched faultyWorld (.ofText "") hrooted
  have hfailure : ((writeStaged (.ofText "") twoFiles : StateM World WriteOutcome).run
      faultyWorld).1.failure = some (.ofText "b/c") := by decide +kernel
  have hfailures : ((writeStaged (.ofText "") twoFiles : StateM World WriteOutcome).run
      faultyWorld).2.failures = 1 := by decide +kernel
  refine ⟨⟨_, _, World.runs_run _ _, hfailure, hfailures, ?_⟩, ?_⟩
  · exact (huntouched.1 twoFiles _ _ (World.runs_run _ _) (by simp [hfailure]) hfailures.le).1
  · have hresult : ((Generation.writeInto (.ofText "") ⟨emptyBlueprint, twoFiles⟩ :
        StateM World RunOutcome).run faultyWorld).1.result.isOk = false := by decide +kernel
    have hcount : ((Generation.writeInto (.ofText "") ⟨emptyBlueprint, twoFiles⟩ :
        StateM World RunOutcome).run faultyWorld).2.failures = 1 := by decide +kernel
    have hrun := World.runs_run (Generation.writeInto (.ofText "") ⟨emptyBlueprint, twoFiles⟩)
      faultyWorld
    rw [← generateInto_empty] at hrun hresult hcount
    exact ⟨_, _, hrun, hresult, hcount, (huntouched.2 _ _ _ _ hrun hresult hcount.le).1⟩

end CommandBuffer
