import CommandBuffer.Proofs.Signature.Lines

/-! # Every bad line is reported once

The reader goes on behind a bad line. It reports each line that is no declaration on its own, and
each declaration whose name an earlier line has declared, in the order of the lines. A line that is
rejected declares nothing, so that a later declaration of its name stays the first.
-/

namespace CommandBuffer.SignatureFile
open Text

variable {registry : Registry} {text : String}

/-! ## Lines on their own -/

/-- The line of the text, counted from one, holds this besides a comment and the blanks around. -/
def HoldsLine (text : String) (line : Nat) (content : List Char) : Prop :=
  content ≠ [] ∧ ∃ index raw, (lines text.toList)[index]? = some raw ∧ line = index + 1 ∧
    content = lineContent raw

theorem mem_contents_iff {content : List Char} {line : Nat} :
    (content, line) ∈ contents text ↔ HoldsLine text line content := by
  simp only [contents, contentsOf, List.mem_filter, List.mem_map, Prod.exists, Prod.map_apply,
    List.mk_mem_zipIdx_iff_le_and_getElem?_sub, id_eq, Prod.mk.injEq, Bool.not_eq_true',
    List.isEmpty_eq_false_iff, HoldsLine]
  constructor
  · rintro ⟨⟨raw, number, ⟨hpositive, hraw⟩, rfl, rfl⟩, hcontent⟩
    exact ⟨hcontent, number - 1, raw, hraw, by omega, rfl⟩
  · rintro ⟨hcontent, index, raw, hraw, rfl, rfl⟩
    exact ⟨⟨raw, index + 1, ⟨by omega, hraw⟩, rfl, rfl⟩, hcontent⟩

theorem contentsOf_lines_sublist (numbered : List (List Char × Nat)) :
    ((contentsOf numbered).map Prod.snd).Sublist (numbered.map Prod.snd) := by
  have hkept := (List.filter_sublist (p := fun content : List Char × Nat => !content.1.isEmpty)
    (l := numbered.map (Prod.map lineContent id))).map Prod.snd
  simpa [contentsOf, Function.comp_def] using hkept

/-- The lines that hold something come in order. -/
theorem contents_increasing (text : String) :
    (contents text).Pairwise fun content other => content.2 < other.2 := by
  have hnumbers : (((lines text.toList).zipIdx 1).map Prod.snd).Pairwise (· < ·) := by
    rw [List.zipIdx_map_snd]
    exact List.pairwise_lt_range'
  exact List.pairwise_map.mp (hnumbers.sublist (contentsOf_lines_sublist _))

/-- A rejected line is reported with its number. -/
theorem line_of_readDeclaration_error {content : List Char} {line : Nat} {error : ParseError}
    (h : readDeclaration registry line content = .error error) : error.line = line := by
  have hparam : ∀ function fault, (ParseError.ofParam line function fault).line = line := by
    intro function fault
    cases fault <;> rfl
  unfold readDeclaration at h
  simp only at h
  repeat' split at h
  all_goals cases h
  all_goals first | rfl | exact hparam _ _

theorem line_of_readDeclaration {content : List Char} {line : Nat} {declaration : Declaration}
    (h : readDeclaration registry line content = .ok declaration) : declaration.line = line := by
  obtain ⟨-, -, -, -, -, -, -, -, -, -, -, -, hline, -⟩ := exists_of_readDeclaration h
  exact hline

theorem toOption_eq_some_iff {outcome : Except ParseError Declaration} {declaration : Declaration} :
    outcome.toOption = some declaration ↔ outcome = .ok declaration := by
  cases outcome <;> simp [Except.toOption]

/-- The declarations that lines give on their own. -/
def declared (registry : Registry) (contents : List (List Char × Nat)) : List Declaration :=
  contents.filterMap fun content => (readDeclaration registry content.2 content.1).toOption

theorem mem_declared_iff {contents : List (List Char × Nat)} {declaration : Declaration} :
    declaration ∈ declared registry contents ↔ ∃ content ∈ contents,
      readDeclaration registry content.2 content.1 = .ok declaration := by
  simp only [declared, List.mem_filterMap, toOption_eq_some_iff]

theorem name_of_find? {declarations : List Declaration} {name : String} {first : Declaration}
    (h : declarations.find? (·.name == name) = some first) : first.name = name := by
  simpa using List.find?_some h

theorem exists_find?_of_mem {declarations : List Declaration} {declaration : Declaration}
    (h : declaration ∈ declarations) :
    ∃ first, declarations.find? (·.name == declaration.name) = some first :=
  Option.isSome_iff_exists.mp (List.find?_isSome.mpr ⟨declaration, h, by simp⟩)

theorem declared_increasing {contents : List (List Char × Nat)}
    (h : contents.Pairwise fun content other => content.2 < other.2) :
    (declared registry contents).Pairwise fun declaration other => declaration.line < other.line := by
  refine List.pairwise_filterMap.mpr (h.imp fun hlt declaration hread other hother => ?_)
  rw [line_of_readDeclaration (toOption_eq_some_iff.mp hread),
    line_of_readDeclaration (toOption_eq_some_iff.mp hother)]
  exact hlt

/-! ## The walk over the lines -/

/-- What the reader keeps of the lines before has the first declaration of each name. -/
def KeepsFirsts (registry : Registry) (accepted : List Declaration)
    (before : List (List Char × Nat)) : Prop :=
  ∀ name, accepted.find? (·.name == name) = (declared registry before).find? (·.name == name)

section

variable {accepted : List Declaration} {before : List (List Char × Nat)} {content : List Char}
  {line : Nat} {declaration : Declaration}

theorem KeepsFirsts.rejected {error : ParseError} (h : KeepsFirsts registry accepted before)
    (hread : readDeclaration registry line content = .error error) :
    KeepsFirsts registry accepted (before ++ [(content, line)]) := by
  intro name
  rw [h name]
  simp [declared, hread, Except.toOption]

theorem declared_append_of_ok (hread : readDeclaration registry line content = .ok declaration) :
    declared registry (before ++ [(content, line)]) = declared registry before ++ [declaration] := by
  simp [declared, hread, Except.toOption]

theorem KeepsFirsts.repeated {first : Declaration} (h : KeepsFirsts registry accepted before)
    (hread : readDeclaration registry line content = .ok declaration)
    (hfirst : accepted.find? (·.name == declaration.name) = some first) :
    KeepsFirsts registry accepted (before ++ [(content, line)]) := by
  intro name
  rw [declared_append_of_ok hread, List.find?_append, ← h name]
  by_cases hname : declaration.name = name
  · rw [← hname, hfirst, Option.some_or]
  · simp [hname]

theorem KeepsFirsts.declared (h : KeepsFirsts registry accepted before)
    (hread : readDeclaration registry line content = .ok declaration)
    (hnew : accepted.find? (·.name == declaration.name) = none) :
    KeepsFirsts registry (declaration :: accepted) (before ++ [(content, line)]) := by
  intro name
  rw [declared_append_of_ok hread, List.find?_append, ← h name]
  by_cases hname : declaration.name = name
  · simp [← hname, hnew]
  · simp [hname]

end

/-- Behind these lines, what is wrong with a line. -/
inductive Fails (registry : Registry) (before : List (List Char × Nat)) (content : List Char)
    (line : Nat) : ParseError → Prop
  | rejected {error : ParseError} (hread : readDeclaration registry line content = .error error) :
      Fails registry before content line error
  | repeated {declaration first : Declaration}
      (hread : readDeclaration registry line content = .ok declaration)
      (hfirst : (declared registry before).find? (·.name == declaration.name) = some first) :
      Fails registry before content line (.duplicateFunction line declaration.name first.line)

section

variable {before : List (List Char × Nat)} {content : List Char} {line : Nat}
  {declaration first : Declaration} {error reason : ParseError}

theorem fails_iff_of_error (hread : readDeclaration registry line content = .error reason) :
    Fails registry before content line error ↔ error = reason := by
  constructor
  · rintro (hother | ⟨hother, -⟩)
    · exact Except.error.inj (hother.symm.trans hread)
    · cases hother.symm.trans hread
  · rintro rfl
    exact .rejected hread

theorem fails_iff_of_repeated (hread : readDeclaration registry line content = .ok declaration)
    (hfirst : (declared registry before).find? (·.name == declaration.name) = some first) :
    Fails registry before content line error ↔
      error = .duplicateFunction line declaration.name first.line := by
  constructor
  · rintro (hother | ⟨hother, hearlier⟩)
    · cases hother.symm.trans hread
    · cases hother.symm.trans hread
      cases hearlier.symm.trans hfirst
      rfl
  · rintro rfl
    exact .repeated hread hfirst

theorem not_fails_of_new (hread : readDeclaration registry line content = .ok declaration)
    (hnew : (declared registry before).find? (·.name == declaration.name) = none) :
    ¬ Fails registry before content line error := by
  rintro (hother | ⟨hother, hearlier⟩)
  · cases hother.symm.trans hread
  · cases hother.symm.trans hread
    cases hearlier.symm.trans hnew

end

/-- Behind these lines, one of the others fails with the error. -/
def SomeFails (registry : Registry) (before others : List (List Char × Nat)) (error : ParseError) :
    Prop :=
  ∃ front content line back, others = front ++ (content, line) :: back ∧
    Fails registry (before ++ front) content line error

theorem someFails_cons_iff {before others : List (List Char × Nat)} {content : List Char}
    {line : Nat} {error : ParseError} :
    SomeFails registry before ((content, line) :: others) error ↔
      Fails registry before content line error ∨
        SomeFails registry (before ++ [(content, line)]) others error := by
  constructor
  · rintro ⟨front, failing, number, back, hsplit, hfails⟩
    cases front with
    | nil =>
      cases hsplit
      exact .inl (by simpa using hfails)
    | cons _ front =>
      cases hsplit
      exact .inr ⟨front, failing, number, back, rfl, by simpa using hfails⟩
  · rintro (hfails | ⟨front, failing, number, back, rfl, hfails⟩)
    · exact ⟨[], content, line, others, rfl, by simpa using hfails⟩
    · exact ⟨(content, line) :: front, failing, number, back, rfl, by simpa using hfails⟩

/-- The errors of the lines behind others are what is wrong with each of them. -/
theorem mem_errors_readLines_iff {accepted : List Declaration} {before : List (List Char × Nat)}
    {numbered : List (List Char × Nat)} {error : ParseError}
    (h : KeepsFirsts registry accepted before) :
    error ∈ Outcome.errors (readLines registry accepted numbered) ↔
      SomeFails registry before (contentsOf numbered) error := by
  induction numbered generalizing accepted before with
  | nil => simp [readLines, Outcome.errors, contentsOf, SomeFails]
  | cons numbered others ih =>
    obtain ⟨raw, line⟩ := numbered
    by_cases hcontent : lineContent raw = []
    · have hskipped : contentsOf ((raw, line) :: others) = contentsOf others := by
        simp [contentsOf, hcontent]
      rw [hskipped, ← ih h, readLines, hcontent, List.isEmpty_nil, if_pos rfl]
    · have hheld : contentsOf ((raw, line) :: others)
          = (lineContent raw, line) :: contentsOf others := by
        simp [contentsOf, hcontent]
      rw [hheld, someFails_cons_iff, readLines, if_neg (by simpa using hcontent)]
      cases hread : readDeclaration registry line (lineContent raw) with
      | error reason =>
        rw [fails_iff_of_error hread, ← ih (h.rejected hread), Outcome.errors, List.mem_cons]
      | ok declaration =>
        cases hfind : accepted.find? (·.name == declaration.name) with
        | some first =>
          rw [fails_iff_of_repeated hread (h _ ▸ hfind), ← ih (h.repeated hread hfind)]
          simp only [hfind, Outcome.errors, List.mem_cons]
        | none =>
          rw [← ih (h.declared hread hfind)]
          simp only [hfind, Outcome.errors, not_fails_of_new hread (h _ ▸ hfind), false_or]

/-- Each line gives one outcome, so that the errors come in the order of the lines. -/
theorem errors_readLines_sublist (accepted : List Declaration)
    (numbered : List (List Char × Nat)) :
    ((Outcome.errors (readLines registry accepted numbered)).map ParseError.line).Sublist
      (numbered.map Prod.snd) := by
  induction numbered generalizing accepted with
  | nil => exact .slnil
  | cons numbered others ih =>
    obtain ⟨raw, line⟩ := numbered
    rw [readLines]
    split
    · exact (ih accepted).cons line
    · split
      · rename_i reason hread
        rw [Outcome.errors, List.map_cons, line_of_readDeclaration_error hread]
        exact (ih accepted).cons_cons line
      · split
        · exact (ih accepted).cons_cons line
        · exact (ih _).cons line

/-! ## Reports -/

/-- The declaration is the first of its name among the lines that are declarations on their own. -/
structure IsFirstOf (registry : Registry) (text : String) (first : Declaration) : Prop where
  declared : ∃ content, HoldsLine text first.line content ∧
    readDeclaration registry first.line content = .ok first
  earliest : ∀ line content other, HoldsLine text line content →
    readDeclaration registry line content = .ok other → other.name = first.name → first.line ≤ line

theorem HoldsLine.unique {line : Nat} {content other : List Char} (h : HoldsLine text line content)
    (hother : HoldsLine text line other) : content = other := by
  obtain ⟨-, index, raw, hraw, hline, rfl⟩ := h
  obtain ⟨-, place, found, hfound, hplace, rfl⟩ := hother
  obtain rfl : index = place := by omega
  rw [Option.some.inj (hraw.symm.trans hfound)]

theorem IsFirstOf.unique {first other : Declaration} (h : IsFirstOf registry text first)
    (hother : IsFirstOf registry text other) (hname : first.name = other.name) : first = other := by
  obtain ⟨content, hline, hread⟩ := h.declared
  obtain ⟨found, hfound, hfoundRead⟩ := hother.declared
  have hsame : first.line = other.line :=
    Nat.le_antisymm (h.earliest _ _ _ hfound hfoundRead hname.symm)
      (hother.earliest _ _ _ hline hread hname)
  obtain rfl := (hsame ▸ hline).unique hfound
  rw [hsame] at hread
  exact Except.ok.inj (hread.symm.trans hfoundRead)

section

variable {front back : List (List Char × Nat)} {content : List Char} {line : Nat}

theorem line_lt_of_mem_front (hsplit : contents text = front ++ (content, line) :: back)
    {declaration : Declaration} (h : declaration ∈ declared registry front) :
    declaration.line < line := by
  obtain ⟨earlier, hearlier, hread⟩ := mem_declared_iff.mp h
  rw [line_of_readDeclaration hread]
  have hordered := contents_increasing text
  rw [hsplit, List.pairwise_append] at hordered
  exact hordered.2.2 earlier hearlier _ List.mem_cons_self

/-- Whatever is declared before a line is declared among the lines in front of it. -/
theorem mem_declared_front (hsplit : contents text = front ++ (content, line) :: back)
    {number : Nat} {held : List Char} {declaration : Declaration} (hheld : HoldsLine text number held)
    (hread : readDeclaration registry number held = .ok declaration) (hlt : number < line) :
    declaration ∈ declared registry front := by
  refine mem_declared_iff.mpr ⟨(held, number), ?_, hread⟩
  have hmem := mem_contents_iff.mpr hheld
  have hordered := contents_increasing text
  rw [hsplit] at hmem hordered
  rcases List.mem_append.mp hmem with hfront | hback
  · exact hfront
  · have hle : line ≤ number := by
      rcases List.mem_cons.mp hback with heq | hbehind
      · exact (Prod.mk.inj heq).2.ge
      · exact ((List.pairwise_cons.mp (List.pairwise_append.mp hordered).2.1).1 _ hbehind).le
    omega

/-- The first declaration of a name in front of a line is the first of the file. -/
theorem isFirstOf_of_find? (hsplit : contents text = front ++ (content, line) :: back) {name : String}
    {first : Declaration} (h : (declared registry front).find? (·.name == name) = some first) :
    IsFirstOf registry text first := by
  have hmem := List.mem_of_find?_eq_some h
  obtain ⟨hname, before, after, hdeclared, hnot⟩ := List.find?_eq_some_iff_append.mp h
  have hordered : (declared registry front).Pairwise fun declaration other =>
      declaration.line < other.line := by
    have hcontents := contents_increasing text
    rw [hsplit] at hcontents
    exact declared_increasing (List.pairwise_append.mp hcontents).1
  refine ⟨?_, fun number held other hheld hread hother => ?_⟩
  · obtain ⟨⟨held, number⟩, hheld, hread⟩ := mem_declared_iff.mp hmem
    obtain rfl := line_of_readDeclaration hread
    exact ⟨held, mem_contents_iff.mp (hsplit ▸ List.mem_append_left _ hheld), hread⟩
  · by_contra hlt
    have hearlier := mem_declared_front hsplit hheld hread
      ((not_le.mp hlt).trans (line_lt_of_mem_front hsplit hmem))
    obtain rfl := line_of_readDeclaration hread
    rw [hdeclared] at hearlier hordered
    rcases List.mem_append.mp hearlier with hbefore | hbehind
    · simpa [hother, beq_iff_eq.mp hname] using hnot other hbefore
    · rcases List.mem_cons.mp hbehind with rfl | hafter
      · exact hlt le_rfl
      · have := (List.pairwise_cons.mp (List.pairwise_append.mp hordered).2.1).1 other hafter
        omega

theorem find?_declared_eq_some_iff (hsplit : contents text = front ++ (content, line) :: back)
    {name : String} {first : Declaration} :
    (declared registry front).find? (·.name == name) = some first ↔
      IsFirstOf registry text first ∧ first.name = name ∧ first.line < line := by
  constructor
  · intro h
    exact ⟨isFirstOf_of_find? hsplit h, name_of_find? h,
      line_lt_of_mem_front hsplit (List.mem_of_find?_eq_some h)⟩
  · rintro ⟨hfirst, rfl, hlt⟩
    obtain ⟨held, hheld, hread⟩ := hfirst.declared
    have hmem : first ∈ declared registry front := mem_declared_front hsplit hheld hread hlt
    obtain ⟨found, hfound⟩ := exists_find?_of_mem hmem
    rw [hfound, hfirst.unique (isFirstOf_of_find? hsplit hfound) (name_of_find? hfound).symm]

end

/-- What is wrong with a line: it is rejected on its own, or it is a declaration whose name is that
of an earlier one. -/
inductive IsReport (registry : Registry) (text : String) (line : Nat) : ParseError → Prop
  | rejected {content : List Char} {error : ParseError} (hline : HoldsLine text line content)
      (hread : readDeclaration registry line content = .error error) :
      IsReport registry text line error
  | repeated {content : List Char} {declaration first : Declaration}
      (hline : HoldsLine text line content)
      (hread : readDeclaration registry line content = .ok declaration)
      (hfirst : IsFirstOf registry text first) (hname : first.name = declaration.name)
      (hearlier : first.line < line) :
      IsReport registry text line (.duplicateFunction line declaration.name first.line)

/-- The errors that a file is refused with; there are none if it is read. -/
def reported (registry : Registry) (text : String) : List ParseError :=
  match read registry text with
  | .ok _ => []
  | .error errors => errors

theorem reported_eq : reported registry text = Outcome.errors (outcomes registry text) := by
  unfold reported read Outcome.collect
  cases Outcome.errors (outcomes registry text) <;> rfl

theorem mem_reported_iff {error : ParseError} :
    error ∈ reported registry text ↔ SomeFails registry [] (contents text) error := by
  rw [reported_eq, outcomes]
  exact mem_errors_readLines_iff fun _ => rfl

theorem isReport_of_mem {error : ParseError} (h : error ∈ reported registry text) :
    IsReport registry text error.line error := by
  obtain ⟨front, content, line, back, hsplit, hfails⟩ := mem_reported_iff.mp h
  have hline : HoldsLine text line content := mem_contents_iff.mp (by simp [hsplit])
  rw [List.nil_append] at hfails
  cases hfails with
  | rejected hread =>
    rw [line_of_readDeclaration_error hread]
    exact .rejected hline hread
  | repeated hread hfind =>
    obtain ⟨hfirst, hname, hlt⟩ := (find?_declared_eq_some_iff hsplit).mp hfind
    exact .repeated hline hread hfirst hname hlt

theorem IsReport.line_eq {line : Nat} {error : ParseError} (h : IsReport registry text line error) :
    error.line = line := by
  cases h with
  | rejected _ hread => exact line_of_readDeclaration_error hread
  | repeated => rfl

theorem IsReport.mem_reported {line : Nat} {error : ParseError}
    (h : IsReport registry text line error) : error ∈ reported registry text := by
  have hsplits : ∀ content, HoldsLine text line content →
      ∃ front back, contents text = front ++ (content, line) :: back := fun content hline =>
    List.append_of_mem (mem_contents_iff.mpr hline)
  refine mem_reported_iff.mpr ?_
  cases h with
  | rejected hline hread =>
    obtain ⟨front, back, hsplit⟩ := hsplits _ hline
    exact ⟨front, _, line, back, hsplit, .rejected hread⟩
  | repeated hline hread hfirst hname hlt =>
    obtain ⟨front, back, hsplit⟩ := hsplits _ hline
    exact ⟨front, _, line, back, hsplit,
      .repeated hread ((find?_declared_eq_some_iff hsplit).mpr ⟨hfirst, hname, hlt⟩)⟩

/-- A declaration on an earlier line has this name. -/
def IsDeclaredBefore (registry : Registry) (text : String) (line : Nat) (name : String) : Prop :=
  ∃ number content declaration, number < line ∧ HoldsLine text number content ∧
    readDeclaration registry number content = .ok declaration ∧ declaration.name = name

/-- A name that an earlier line declares has a first declaration. -/
theorem IsDeclaredBefore.exists_first {line : Nat} {content : List Char} {name : String}
    (h : IsDeclaredBefore registry text line name) (hline : HoldsLine text line content) :
    ∃ first, IsFirstOf registry text first ∧ first.name = name ∧ first.line < line := by
  obtain ⟨number, held, declaration, hlt, hheld, hread, rfl⟩ := h
  obtain ⟨front, back, hsplit⟩ := List.append_of_mem (mem_contents_iff.mpr hline)
  obtain ⟨first, hfirst⟩ := exists_find?_of_mem (mem_declared_front hsplit hheld hread hlt)
  exact ⟨first, (find?_declared_eq_some_iff hsplit).mp hfirst⟩

/-- The errors of a file come in the order of their lines, and no line has two. A line has an error
exactly if it holds something and is rejected on its own or declares a name again; the error is then
the rejection, which no other line has part in, or it names the first line that declares the name. A
rejected line declares nothing. -/
theorem bad_lines_reported_once (registry : Registry) (text : String) :
    ((∃ declarations, read registry text = .ok declarations) ↔ reported registry text = []) ∧
    ((reported registry text).map ParseError.line).Pairwise (· < ·) ∧
    (∀ line, (∃ error ∈ reported registry text, error.line = line) ↔
      ∃ content, HoldsLine text line content ∧
        ((∃ error, readDeclaration registry line content = .error error) ∨
          ∃ declaration, readDeclaration registry line content = .ok declaration ∧
            IsDeclaredBefore registry text line declaration.name)) ∧
    ∀ line error, (error ∈ reported registry text ∧ error.line = line) ↔
      IsReport registry text line error := by
  have hreport : ∀ line error, (error ∈ reported registry text ∧ error.line = line) ↔
      IsReport registry text line error := fun line error =>
    ⟨fun ⟨hmem, hline⟩ => hline ▸ isReport_of_mem hmem, fun h => ⟨h.mem_reported, h.line_eq⟩⟩
  refine ⟨?_, ?_, fun line => ?_, hreport⟩
  · unfold reported read Outcome.collect
    cases Outcome.errors (outcomes registry text) <;> simp
  · rw [reported_eq, outcomes]
    refine List.Pairwise.sublist (errors_readLines_sublist _ _) ?_
    rw [List.zipIdx_map_snd]
    exact List.pairwise_lt_range'
  · simp only [hreport]
    constructor
    · rintro ⟨error, hrejected | ⟨hline, hread, hfirst, hname, hlt⟩⟩
      · exact ⟨_, ‹_›, .inl ⟨error, ‹_›⟩⟩
      · obtain ⟨held, hheld, hfirstRead⟩ := hfirst.declared
        exact ⟨_, hline, .inr ⟨_, hread, _, held, _, hlt, hheld, hfirstRead, hname⟩⟩
    · rintro ⟨content, hline, ⟨error, hread⟩ | ⟨declaration, hread, hbefore⟩⟩
      · exact ⟨error, .rejected hline hread⟩
      · obtain ⟨first, hfirst, hname, hlt⟩ := hbefore.exists_first hline
        exact ⟨_, .repeated hline hread hfirst hname hlt⟩

/-- The first line declares nothing, so that the second is the first of its name. -/
example : reported ⟨[]⟩ "void Flush(;\nvoid Flush();\nFlush\nint Flush();"
    = [.malformedDeclaration 1 .unfinished, .malformedDeclaration 3 .missingParenthesis,
      .duplicateFunction 4 "Flush" 2] := by decide

end CommandBuffer.SignatureFile
