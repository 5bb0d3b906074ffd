import CommandBuffer.Proofs.Storage.Lookup
import CommandBuffer.Proofs.Text.Cutting
import CommandBuffer.Storage.Staging

/-! # Places of paths

Where a path leads does not depend on the tree: its components are followed name by name, and `..`
goes back to the directory above. The tree only says whether the path can be followed, which takes a
directory at every location that it passes.
-/

namespace CommandBuffer.Storage

/-! ## Following components -/

namespace Path

/-- The location that a component leads to. -/
def step (location : Location) (component : String) : Location :=
  if component == ".." then location.dropLast else location ++ [component]

/-- The locations that the components are looked up in. -/
def passedFrom (location : Location) : List String → List Location
  | [] => []
  | component :: rest => location :: passedFrom (step location component) rest

/-- Where a path starts, seen from a working directory. -/
def start (home : Location) (path : Path) : Location := if path.isAbsolute then [] else home

/-- Where a path leads. -/
def place (home : Location) (path : Path) : Location :=
  path.components.foldl step (path.start home)

/-- One of the paths leads to the location. -/
def IsPlaceOf (home : Location) (paths : List Path) (location : Location) : Prop :=
  ∃ path ∈ paths, location = path.place home

/-- The locations that the components of a path are looked up in. -/
def passed (home : Location) (path : Path) : List Location :=
  passedFrom (path.start home) path.components

theorem passedFrom_append (location : Location) (first second : List String) :
    passedFrom location (first ++ second)
      = passedFrom location first ++ passedFrom (first.foldl step location) second := by
  induction first generalizing location with
  | nil => rfl
  | cons component rest ih => rw [List.cons_append, passedFrom, ih, passedFrom]; rfl

theorem mem_step {name : String} {location : Location} {component : String}
    (h : name ∈ step location component) : name ∈ location ∨ name = component := by
  unfold step at h
  split at h
  · exact .inl (List.dropLast_subset location h)
  · simpa using h

theorem mem_place_from {name : String} (location : Location) (components : List String)
    (h : name ∈ components.foldl step location) : name ∈ location ∨ name ∈ components := by
  induction components generalizing location with
  | nil => exact .inl h
  | cons component rest ih =>
    rw [List.mem_cons]
    rcases ih _ h with hstep | hrest
    · exact (mem_step hstep).imp id .inl
    · exact .inr (.inr hrest)

end Path

namespace FileTree

variable {tree : FileTree} {home location : Location} {path : Path}

theorem walk_eq_some_iff (components : List String) {start : Location} :
    tree.walk start components = some location ↔
      (∀ above ∈ Path.passedFrom start components, tree.lookup above = some .directory) ∧
        components.foldl Path.step start = location := by
  induction components generalizing start with
  | nil => simp [walk, Path.passedFrom]
  | cons component rest ih =>
    rw [walk]
    split
    · rename_i hstart
      rw [isDirectory_iff] at hstart
      simp only [Path.passedFrom, List.forall_mem_cons, hstart, true_and, List.foldl_cons]
      exact ih
    · rename_i hstart
      rw [isDirectory_iff] at hstart
      simp [Path.passedFrom, hstart]

/-- The store takes the text of the path and its names. -/
def IsAccepted (path : Path) : Prop :=
  (path.isAddress && path.components.all Path.isName) = true

/-- Every location that the path passes is a directory. -/
def IsOpen (tree : FileTree) (home : Location) (path : Path) : Prop :=
  ∀ above ∈ path.passed home, tree.lookup above = some .directory

theorem locate_eq_some_iff :
    tree.locate home path = some location ↔
      IsAccepted path ∧ tree.IsOpen home path ∧ path.place home = location := by
  unfold locate IsAccepted
  split
  · rename_i haccepted
    rw [walk_eq_some_iff]
    simp [haccepted, IsOpen, Path.passed, Path.place, Path.start]
  · rename_i haccepted
    simp [haccepted]

theorem hasDirectory_iff :
    tree.hasDirectory home path = true ↔ IsAccepted path ∧ tree.IsOpen home path ∧
      tree.lookup (path.place home) = some .directory := by
  rw [hasDirectory, Option.any_eq_true]
  constructor
  · rintro ⟨location, hlocate, hdirectory⟩
    obtain ⟨haccepted, hopen, rfl⟩ := locate_eq_some_iff.mp hlocate
    exact ⟨haccepted, hopen, isDirectory_iff.mp hdirectory⟩
  · rintro ⟨haccepted, hopen, hlookup⟩
    exact ⟨_, locate_eq_some_iff.mpr ⟨haccepted, hopen, rfl⟩, isDirectory_iff.mpr hlookup⟩

/-- A path that names its last component leads into a directory that it passes. -/
theorem exists_folder_of_isNamed (h : isNamed path = true) (home : Location) :
    ∃ folder name, path.place home = folder ++ [name] ∧ folder ∈ path.passed home := by
  unfold isNamed at h
  obtain hnil | ⟨init, last, hcomponents⟩ := List.eq_nil_or_concat path.components
  · simp [hnil] at h
  · rw [List.concat_eq_append] at hcomponents
    have hlast : last ≠ ".." := by
      rintro rfl
      simp [hcomponents] at h
    refine ⟨init.foldl Path.step (path.start home), last, ?_, ?_⟩
    · simp [Path.place, hcomponents, Path.step, hlast]
    · simp [Path.passed, hcomponents, Path.passedFrom_append, Path.passedFrom]

end FileTree

/-! ## Paths of one name -/

namespace Path

/-- The text is one name that leads to an entry. -/
def IsPlain (text : String) : Prop := '/' ∉ text.toList ∧ text ≠ "" ∧ text ≠ "." ∧ text ≠ ".."

theorem ofText_of_isPlain {text : String} (h : IsPlain text) :
    ofText text = ⟨text, false, false, [text], .name⟩ := by
  obtain ⟨hseparator, hempty, hidle, -⟩ := h
  have hpieces : pieces text = [text] := by
    simp [pieces, Text.splitOn_of_notMem hseparator]
  have hending : endingOf [text] = .name := by
    unfold endingOf
    split <;> simp_all
  simp [ofText, hpieces, hempty, hidle, isIdle, hending]

variable {home : Location} {directory : Path} {name : String}

theorem place_join_plain (h : IsPlain name) :
    (directory.join (ofText name)).place home = directory.place home ++ [name] := by
  simp [ofText_of_isPlain h, place, start, join, step, h.2.2.2]

theorem passed_join_plain (h : IsPlain name) :
    (directory.join (ofText name)).passed home
      = directory.passed home ++ [directory.place home] := by
  simp [ofText_of_isPlain h, passed, place, start, join, passedFrom_append, passedFrom]

theorem isNamed_join_plain (h : IsPlain name) :
    FileTree.isNamed (directory.join (ofText name)) = true := by
  simp [FileTree.isNamed, ofText_of_isPlain h, join, h.2.2.2]

end Path

/-! ## Files of the staging directory -/

/-- The name of a staged file. -/
def stagedName (number : Nat) : String := s!"{number}.rs"

/-- The name of what is kept of a target. -/
def backupName (number : Nat) : String := s!"{number}.bak"

theorem toList_stagedName (number : Nat) :
    (stagedName number).toList = number.repr.toList ++ ['.', 'r', 's'] := by
  simp only [stagedName, String.toList_append]
  rfl

theorem toList_backupName (number : Nat) :
    (backupName number).toList = number.repr.toList ++ ['.', 'b', 'a', 'k'] := by
  simp only [backupName, String.toList_append]
  rfl

theorem eq_of_digits {first second : Nat} (h : first.repr.toList = second.repr.toList) :
    first = second := by
  rw [Nat.toList_repr, Nat.toList_repr] at h
  rw [← Nat.ofDigitChars_ten_toDigits (n := first), h, Nat.ofDigitChars_ten_toDigits]

theorem stagedName_inj {first second : Nat} (h : stagedName first = stagedName second) :
    first = second := by
  have hlist := congrArg String.toList h
  rw [toList_stagedName, toList_stagedName, List.append_cancel_right_eq] at hlist
  exact eq_of_digits hlist

theorem backupName_inj {first second : Nat} (h : backupName first = backupName second) :
    first = second := by
  have hlist := congrArg String.toList h
  rw [toList_backupName, toList_backupName, List.append_cancel_right_eq] at hlist
  exact eq_of_digits hlist

theorem stagedName_ne_backupName (first second : Nat) : stagedName first ≠ backupName second := by
  intro h
  have hlast := congrArg List.getLast? (congrArg String.toList h)
  rw [toList_stagedName, toList_backupName] at hlast
  simp at hlast

theorem separator_notMem_repr (number : Nat) : '/' ∉ number.repr.toList := by
  intro h
  rw [Nat.toList_repr] at h
  exact absurd (Nat.isDigit_of_mem_toDigits (by decide) (by decide) h) (by decide)

theorem isPlain_of_suffix {text : String} {number : Nat} {suffix : List Char}
    (h : text.toList = number.repr.toList ++ suffix) (hseparator : '/' ∉ suffix)
    (hlength : 2 < suffix.length) : Path.IsPlain text := by
  have htext : 2 < text.toList.length := by
    rw [h, List.length_append]
    omega
  refine ⟨?_, ?_, ?_, ?_⟩
  · rw [h, List.mem_append, not_or]
    exact ⟨separator_notMem_repr number, hseparator⟩
  all_goals
    rintro rfl
    exact absurd htext (by decide)

theorem isPlain_stagedName (number : Nat) : Path.IsPlain (stagedName number) :=
  isPlain_of_suffix (toList_stagedName number) (by decide) (by decide)

theorem isPlain_backupName (number : Nat) : Path.IsPlain (backupName number) :=
  isPlain_of_suffix (toList_backupName number) (by decide) (by decide)

section

variable (home : Location) (staging : Path) (number : Nat)

theorem place_stagedPath :
    (stagedPath staging number).place home = staging.place home ++ [stagedName number] :=
  Path.place_join_plain (isPlain_stagedName number)

theorem place_backupPath :
    (backupPath staging number).place home = staging.place home ++ [backupName number] :=
  Path.place_join_plain (isPlain_backupName number)

theorem passed_stagedPath :
    (stagedPath staging number).passed home = staging.passed home ++ [staging.place home] :=
  Path.passed_join_plain (isPlain_stagedName number)

end

/-! ## Paths that avoid a name -/

namespace Path

/-- The name occurs neither where the path starts nor among its components. -/
structure Avoids (home : Location) (name : String) (path : Path) : Prop where
  start : name ∉ path.start home
  components : name ∉ path.components

variable {home : Location} {name : String} {path : Path}

theorem Avoids.place (h : path.Avoids home name) : name ∉ path.place home := fun hname =>
  (mem_place_from _ _ hname).elim h.start h.components

theorem avoids_from {location : Location} {components : List String} (hname : name ≠ "..")
    (hpassed : ∀ above ∈ passedFrom location components, name ∉ above)
    (hplace : name ∉ components.foldl step location) : name ∉ location ∧ name ∉ components := by
  induction components generalizing location with
  | nil => exact ⟨hplace, List.not_mem_nil⟩
  | cons component rest ih =>
    rw [passedFrom, List.forall_mem_cons] at hpassed
    obtain ⟨hstep, hrest⟩ := ih hpassed.2 hplace
    refine ⟨hpassed.1, fun hmem => (List.mem_cons.mp hmem).elim (fun heq => ?_) hrest⟩
    rw [← heq, step, if_neg (by simpa using hname)] at hstep
    exact hstep (by simp)

/-- A path avoids a name that occurs in none of the locations that it passes and leads to. -/
theorem avoids_of_passed (hname : name ≠ "..") (hpassed : ∀ above ∈ path.passed home, name ∉ above)
    (hplace : name ∉ path.place home) : path.Avoids home name :=
  ⟨(avoids_from hname hpassed hplace).1, (avoids_from hname hpassed hplace).2⟩

theorem Avoids.of_subset {other : Path} (h : path.Avoids home name)
    (habsolute : other.isAbsolute = path.isAbsolute) (hsubset : other.components ⊆ path.components) :
    other.Avoids home name :=
  ⟨by rw [Path.start, habsolute]; exact h.start, fun hmem => h.components (hsubset hmem)⟩

/-- A path below a directory avoids what both avoid. -/
theorem Avoids.join {directory : Path} (h : directory.Avoids home name)
    (hpath : name ∉ path.components) : (directory.join path).Avoids home name := by
  unfold Path.join
  split
  · rename_i habsolute
    exact ⟨by simp [Path.start, habsolute], hpath⟩
  · exact ⟨h.start, by simp [h.components, hpath]⟩

/-- A location without the name is not at or below an entry of that name. -/
theorem not_prefix_of_notMem {folder location : Location} (h : name ∉ location) :
    ¬ folder ++ [name] <+: location := fun hunder =>
  h (hunder.subset (by simp))

end Path

end CommandBuffer.Storage
