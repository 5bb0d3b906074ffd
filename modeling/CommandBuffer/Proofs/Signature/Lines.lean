import CommandBuffer.Proofs.Outcome
import CommandBuffer.Proofs.Signature.Declarations

/-! # The reader of signature files follows the grammar

A file is read exactly if every line that holds something is a declaration and no name is declared
twice. What is read are the meanings of the declarations in the order of the lines.
-/

namespace CommandBuffer.SignatureFile
open Text Pairing

variable {registry : Registry} {text : String} {declarations : List Declaration}

/-! ## Lines that hold something -/

/-- What numbered lines hold besides comments, without the lines that hold nothing. -/
def contentsOf (numbered : List (List Char × Nat)) : List (List Char × Nat) :=
  (numbered.map (Prod.map lineContent id)).filter fun content => !content.1.isEmpty

def contents (text : String) : List (List Char × Nat) :=
  contentsOf ((lines text.toList).zipIdx 1)

theorem isTrimmed_of_mem_contents {content : List Char × Nat} (h : content ∈ contents text) :
    IsTrimmed content.1 := by
  obtain ⟨numbered, -, rfl⟩ := List.mem_map.mp (List.mem_of_mem_filter h)
  exact isTrimmed_trim _

/-- No name is declared twice, in the declarations or before them. -/
def NamesFresh (accepted declarations : List Declaration) : Prop :=
  (declarations.map (·.name)).Nodup ∧
    ∀ declaration ∈ declarations, ∀ other ∈ accepted, other.name ≠ declaration.name

theorem namesFresh_cons_iff {accepted : List Declaration} {declaration : Declaration} :
    NamesFresh accepted (declaration :: declarations) ↔
      accepted.find? (·.name == declaration.name) = none ∧
        NamesFresh (declaration :: accepted) declarations := by
  have hnew : (∀ other ∈ declarations, other.name ≠ declaration.name) ↔
      ∀ other ∈ declarations, declaration.name ≠ other.name :=
    forall₂_congr fun _ _ => ne_comm
  simp only [NamesFresh, List.map_cons, List.nodup_cons, List.forall_mem_cons, List.find?_eq_none,
    beq_iff_eq, List.mem_map, not_exists, not_and, hnew, forall_and]
  tauto

section

variable {accepted : List Declaration} {raw : List Char} {line : Nat}
  {rest numbered : List (List Char × Nat)}

/-- A line that holds something is read as a declaration with a new name. -/
theorem readLines_cons_eq_ok_iff (hcontent : lineContent raw ≠ []) :
    readLines registry accepted ((raw, line) :: rest) = declarations.map .ok ↔
      ∃ first others, readDeclaration registry line (lineContent raw) = .ok first ∧
        accepted.find? (·.name == first.name) = none ∧
        readLines registry (first :: accepted) rest = others.map .ok ∧
        declarations = first :: others := by
  have hempty : (lineContent raw).isEmpty = false := by simpa using hcontent
  simp only [readLines, hempty, Bool.false_eq_true, if_false]
  cases hread : readDeclaration registry line (lineContent raw) with
  | error error => cases declarations <;> simp
  | ok first =>
    simp only [Except.ok.injEq]
    cases hfind : accepted.find? (·.name == first.name) with
    | some earlier =>
      constructor
      · intro h
        cases declarations <;> cases h
      · rintro ⟨_, others, rfl, hnew, -⟩
        rw [hfind] at hnew
        cases hnew
    | none =>
      constructor
      · intro h
        cases declarations with
        | nil => cases h
        | cons declaration declarations =>
          rw [List.map_cons, List.cons.injEq, Except.ok.injEq] at h
          exact ⟨first, declarations, rfl, hfind, h.2, by rw [h.1]⟩
      · rintro ⟨_, others, rfl, -, hrest, rfl⟩
        rw [List.map_cons, hrest]

/-- Behind the declarations accepted so far, the lines give a list of declarations exactly if each
of them does and no name is declared twice. -/
theorem readLines_eq_ok_iff :
    readLines registry accepted numbered = declarations.map .ok ↔
      List.Forall₂ (fun content declaration =>
          readDeclaration registry content.2 content.1 = .ok declaration)
        (contentsOf numbered) declarations ∧ NamesFresh accepted declarations := by
  induction numbered generalizing accepted declarations with
  | nil => cases declarations <;> simp [readLines, contentsOf, NamesFresh]
  | cons numbered others ih =>
    obtain ⟨raw, line⟩ := numbered
    by_cases hcontent : lineContent raw = []
    · have hcontents : contentsOf ((raw, line) :: others) = contentsOf others := by
        simp [contentsOf, hcontent]
      simp only [readLines, hcontents, hcontent, List.isEmpty_nil, if_true, ih]
    · have hcontents :
          contentsOf ((raw, line) :: others) = (lineContent raw, line) :: contentsOf others := by
        simp [contentsOf, hcontent]
      rw [readLines_cons_eq_ok_iff hcontent, hcontents, List.forall₂_cons_left_iff]
      constructor
      · rintro ⟨first, rest, hread, hnew, hrest, rfl⟩
        obtain ⟨hlines, hfresh⟩ := ih.mp hrest
        exact ⟨⟨first, rest, hread, hlines, rfl⟩, namesFresh_cons_iff.mpr ⟨hnew, hfresh⟩⟩
      · rintro ⟨⟨first, rest, hread, hlines, rfl⟩, hfresh⟩
        obtain ⟨hnew, hfresh⟩ := namesFresh_cons_iff.mp hfresh
        exact ⟨first, rest, hread, hnew, ih.mpr ⟨hlines, hfresh⟩, rfl⟩

end

/-- A file is read line by line. -/
theorem read_eq_ok_iff : read registry text = .ok declarations ↔
    List.Forall₂ (fun content declaration =>
        readDeclaration registry content.2 content.1 = .ok declaration)
      (contents text) declarations ∧ (declarations.map (·.name)).Nodup := by
  rw [read, Outcome.collect_eq_ok_iff, outcomes, readLines_eq_ok_iff]
  simp [contents, NamesFresh]

/-! ## Files -/

/-- The file is a way to write the declarations, one on every line that holds something. -/
structure IsWrittenAs (text : String) (forms : List DeclarationForm) : Prop where
  lines : List.Forall₂ (fun content form => form.IsWritten content.1) (contents text) forms
  distinct : (forms.map (·.head.name)).Nodup

section

variable {forms : List DeclarationForm}

theorem map_name_eq_of_means (h : List.Forall₂ (DeclarationForm.Means registry) forms declarations) :
    declarations.map (·.name) = forms.map (·.head.name) := by
  induction h with
  | nil => rfl
  | cons hmeans _ ih => rw [List.map_cons, List.map_cons, ih, hmeans.2.1]

/-- Line by line, the values that are read are meanings of declarations that the contents are
written as. -/
theorem readsEach_iff {numbered : List (List Char × Nat)}
    (htrimmed : ∀ content ∈ numbered, IsTrimmed content.1) :
    List.Forall₂ (fun content declaration =>
        readDeclaration registry content.2 content.1 = .ok declaration) numbered declarations ↔
      ∃ forms, List.Forall₂ (fun content form => form.IsWritten content.1) numbered forms ∧
        (∀ form ∈ forms, form.IsReadable) ∧
        List.Forall₂ (DeclarationForm.Means registry) forms declarations ∧
        declarations.map (·.line) = numbered.map Prod.snd := by
  induction numbered generalizing declarations with
  | nil =>
    constructor
    · rintro ⟨⟩
      exact ⟨[], .nil, by simp, .nil, rfl⟩
    · rintro ⟨forms, ⟨⟩, -, ⟨⟩, -⟩
      exact .nil
  | cons content others ih =>
    obtain ⟨hfirst, hothers⟩ := List.forall_mem_cons.mp htrimmed
    constructor
    · rintro (_ | ⟨hread, hrest⟩)
      obtain ⟨hline, form, hwritten, hreadable, hmeans⟩ := (readDeclaration_eq_ok_iff hfirst).mp hread
      obtain ⟨forms, hforms, hallReadable, hallMean, hlines⟩ := (ih hothers).mp hrest
      refine ⟨form :: forms, .cons hwritten hforms, List.forall_mem_cons.mpr ⟨hreadable, hallReadable⟩,
        .cons hmeans hallMean, ?_⟩
      rw [List.map_cons, List.map_cons, hline, hlines]
    · rintro ⟨_, _ | ⟨hwritten, hforms⟩, hreadable, hmeans, hlines⟩
      cases hmeans with
      | cons hmeans hallMean =>
        rw [List.map_cons, List.map_cons, List.cons.injEq] at hlines
        obtain ⟨hformReadable, hallReadable⟩ := List.forall_mem_cons.mp hreadable
        exact .cons ((readDeclaration_eq_ok_iff hfirst).mpr
            ⟨hlines.1, _, hwritten, hformReadable, hmeans⟩)
          ((ih hothers).mpr ⟨_, hforms, hallReadable, hallMean, hlines.2⟩)

/-- What is read are meanings of declarations that the lines are written as. -/
theorem read_eq_ok_iff_exists_forms : read registry text = .ok declarations ↔
    ∃ forms, IsWrittenAs text forms ∧ (∀ form ∈ forms, form.IsReadable) ∧
      List.Forall₂ (DeclarationForm.Means registry) forms declarations ∧
      declarations.map (·.line) = (contents text).map Prod.snd := by
  rw [read_eq_ok_iff, readsEach_iff fun _ => isTrimmed_of_mem_contents]
  constructor
  · rintro ⟨⟨forms, hforms, hreadable, hmeans, hlines⟩, hdistinct⟩
    exact ⟨forms, ⟨hforms, map_name_eq_of_means hmeans ▸ hdistinct⟩, hreadable, hmeans, hlines⟩
  · rintro ⟨forms, ⟨hforms, hdistinct⟩, hreadable, hmeans, hlines⟩
    exact ⟨⟨forms, hforms, hreadable, hmeans, hlines⟩, map_name_eq_of_means hmeans ▸ hdistinct⟩

/-- Declarations whose names are registered have a meaning on any lines. -/
theorem exists_declarations_mean {numbers : List Nat} (hlength : numbers.length = forms.length)
    (h : ∀ form ∈ forms, form.IsRegistered registry) :
    ∃ declarations, List.Forall₂ (DeclarationForm.Means registry) forms declarations ∧
      declarations.map (·.line) = numbers := by
  induction forms generalizing numbers with
  | nil => exact ⟨[], .nil, (List.length_eq_zero_iff.mp hlength).symm⟩
  | cons form forms ih =>
    obtain ⟨number, numbers, rfl⟩ := List.exists_cons_of_length_eq_add_one hlength
    obtain ⟨hfirst, hothers⟩ := List.forall_mem_cons.mp h
    obtain ⟨declaration, hmeans, hline⟩ := hfirst.exists_means number
    obtain ⟨declarations, hallMean, hlines⟩ := ih (Nat.succ.inj hlength) hothers
    exact ⟨declaration :: declarations, .cons hmeans hallMean, by rw [List.map_cons, hline, hlines]⟩

/-- The reader accepts what the grammar writes, as far as names in brackets can be read, and gives
what it means: a declaration for every line that holds something, with the number of that line. -/
theorem read_follows_grammar (registry : Registry) (text : String) :
    ((∃ declarations, read registry text = .ok declarations) ↔
      ∃ forms, IsWrittenAs text forms ∧
        ∀ form ∈ forms, form.IsReadable ∧ form.IsRegistered registry) ∧
    ∀ declarations, read registry text = .ok declarations ↔
      ∃ forms, IsWrittenAs text forms ∧ (∀ form ∈ forms, form.IsReadable) ∧
        List.Forall₂ (DeclarationForm.Means registry) forms declarations ∧
        declarations.map (·.line) = (contents text).map Prod.snd := by
  refine ⟨⟨?_, ?_⟩, fun declarations => read_eq_ok_iff_exists_forms⟩
  · rintro ⟨declarations, hread⟩
    obtain ⟨forms, hforms, hreadable, hmeans, -⟩ := read_eq_ok_iff_exists_forms.mp hread
    refine ⟨forms, hforms, fun form hform => ⟨hreadable form hform, ?_⟩⟩
    obtain ⟨declaration, -, hmeans⟩ := exists_of_mem_forall₂ hmeans.flip hform
    exact DeclarationForm.Means.isRegistered hmeans
  · rintro ⟨forms, hforms, hall⟩
    have hlength : ((contents text).map Prod.snd).length = forms.length := by
      rw [List.length_map, hforms.lines.length_eq]
    obtain ⟨declarations, hmeans, hlines⟩ :=
      exists_declarations_mean hlength fun form hform => (hall form hform).2
    exact ⟨declarations, read_eq_ok_iff_exists_forms.mpr
      ⟨forms, hforms, fun form hform => (hall form hform).1, hmeans, hlines⟩⟩

end

/-! ### Names in brackets that cannot be read -/

/-- A type without `const` and stars whose base does not start as `const` does. -/
theorem TypeForm.isWritten_of_base {base : String} {qualifier : Option String} {written : List Char}
    (hbase : Naming.isIdentifier base.toList = true) (hwritten : WritesQualifier qualifier written)
    (hplain : base.toList.head? ≠ some 'c') :
    IsWritten { base, qualifier } (base.toList ++ written) := by
  refine ⟨[], written, [], .absent, .of_isIdentifier hbase, hwritten, .none, Nat.zero_le _, ?_, by simp⟩
  rintro - ⟨c, rest, -, htext⟩
  have hhead := congrArg List.head? htext
  rw [List.head?_append_of_ne_nil _ (ne_nil_of_isIdentifier hbase)] at hhead
  exact hplain hhead

theorem isWrittenAs_single {text : String} {form : DeclarationForm}
    (hcontents : contents text = [(text.toList, 1)]) (hform : form.IsWritten text.toList) :
    IsWrittenAs text [form] where
  lines := by
    rw [hcontents]
    exact .cons hform .nil
  distinct := by simp

/-- The registry of one type with this name. -/
def modesNamed (name : String) : Registry :=
  ⟨[{ name, underlying := "GLenum", legal := ["GL_ONE"], illegal := [] }]⟩

theorem isRegistered_modesNamed (name : String) :
    TypeForm.IsRegistered (modesNamed name) { base := "GLenum", qualifier := some name } := by
  rintro _ ⟨⟩
  exact ⟨⟨0⟩, _, by simp [Registry.find?, modesNamed], rfl, rfl⟩

/-- A function with a parameter of the type. -/
def takesMode (name : String) : DeclarationForm :=
  ⟨⟨{ base := "void" }, "Blend"⟩, [⟨{ base := "GLenum", qualifier := some name }, "mode"⟩]⟩

/-- A function that returns the type. -/
def returnsMode (name : String) : DeclarationForm :=
  ⟨⟨{ base := "GLenum", qualifier := some name }, "Mode"⟩, []⟩

theorem isWritten_mode (name : String) :
    TypeForm.IsWritten { base := "GLenum", qualifier := some name }
      ("GLenum".toList ++ '<' :: (name.toList ++ ['>'])) := by
  have hqualifier : WritesQualifier (some name) ('<' :: (name.toList ++ ['>'])) := by
    have hpresent : WritesQualifier (some name) ([] ++ '<' :: ([] ++ name.toList ++ [] ++ ['>'])) :=
      .present isGap_nil isGap_nil isGap_nil
    simpa using hpresent
  exact TypeForm.isWritten_of_base (by decide) hqualifier (by decide)

theorem WritesParams.single {form : NamedForm} {text : List Char} (h : form.IsWritten text) :
    WritesParams [form] text := by
  simpa using WritesParams.list (List.cons_ne_nil form []) (.cons h.isPadded .nil)

theorem takesMode_isWritten (name : String) (hopening : '(' ∉ name.toList)
    (hclosing : ')' ∉ name.toList) :
    (takesMode name).IsWritten ("void Blend(GLenum<" ++ name ++ "> mode)").toList := by
  have hhead : NamedForm.IsWritten ⟨{ base := "void" }, "Blend"⟩ "void Blend".toList :=
    .spaced (TypeForm.isWritten_of_base (by decide) .absent (by decide)) (by decide)
  have hparam : NamedForm.IsWritten ⟨{ base := "GLenum", qualifier := some name }, "mode"⟩
      ("GLenum<" ++ name ++ "> mode").toList := by
    simpa using NamedForm.IsWritten.spaced (isWritten_mode name)
      (show Naming.isIdentifier "mode".toList = true by decide)
  refine ⟨_, [], ("GLenum<" ++ name ++ "> mode").toList, [], hhead, isGap_nil, ?_, ?_, ?_,
    .inl isGap_nil, ?_⟩
  · exact .single hparam
  · simpa using hopening
  · simpa using hclosing
  · simp

theorem returnsMode_isWritten (name : String) :
    (returnsMode name).IsWritten ("GLenum<" ++ name ++ "> Mode()").toList := by
  have hhead : NamedForm.IsWritten ⟨{ base := "GLenum", qualifier := some name }, "Mode"⟩
      ("GLenum<" ++ name ++ "> Mode").toList := by
    simpa using NamedForm.IsWritten.spaced (isWritten_mode name)
      (show Naming.isIdentifier "Mode".toList = true by decide)
  exact ⟨_, [], [], [], hhead, isGap_nil, .blank isGap_nil, by simp, by simp, .inl isGap_nil, by simp⟩

/-- The text is accepted exactly if it is written as declarations with registered names. -/
def AcceptsWritten (registry : Registry) (text : String) : Prop :=
  (∃ declarations, read registry text = .ok declarations) ↔
    ∃ forms, IsWrittenAs text forms ∧ ∀ form ∈ forms, form.IsRegistered registry

theorem not_acceptsWritten {registry : Registry} {text : String} {form : DeclarationForm}
    (hread : (read registry text).isOk = false) (hcontents : contents text = [(text.toList, 1)])
    (hform : form.IsWritten text.toList) (hregistered : form.IsRegistered registry) :
    ¬ AcceptsWritten registry text := by
  intro haccepts
  obtain ⟨declarations, hok⟩ := haccepts.mpr
    ⟨[form], isWrittenAs_single hcontents hform, by simpa using hregistered⟩
  rw [hok] at hread
  cases hread

theorem isRegistered_takesMode (name : String) : (takesMode name).IsRegistered (modesNamed name) where
  head := by rintro _ ⟨⟩
  params := by
    intro param hparam
    cases List.mem_singleton.mp hparam
    exact isRegistered_modesNamed name

theorem isRegistered_returnsMode (name : String) :
    (returnsMode name).IsRegistered (modesNamed name) where
  head := isRegistered_modesNamed name
  params := by rintro _ ⟨⟩

/-- The padded word for no parameters is no list of parameters. -/
theorem not_list_void {forms : List NamedForm} {texts : List (List Char)}
    (h : List.Forall₂ NamedForm.IsPadded forms texts) :
    " void ".toList ≠ [','].intercalate texts := by
  intro htext
  cases h with
  | nil => cases htext
  | @cons form _ _ others hfirst hrest =>
    by_cases hnil : others = []
    · rw [hnil, List.intercalate_singleton] at htext
      subst htext
      exact not_isWritten_void form (isPadded_iff.mp hfirst)
    · rw [List.intercalate_cons_of_ne_nil hnil] at htext
      have hcomma : ',' ∈ " void ".toList := by
        rw [htext]
        simp
      exact absurd hcomma (by decide)

theorem names_in_brackets_unread :
    (Registry.ofList (modesNamed " Mode").types = .ok (modesNamed " Mode") ∧
      ¬ AcceptsWritten (modesNamed " Mode") "void Blend(GLenum< Mode> mode)") ∧
    (Registry.ofList (modesNamed "A,B").types = .ok (modesNamed "A,B") ∧
      ¬ AcceptsWritten (modesNamed "A,B") "void Blend(GLenum<A,B> mode)") ∧
    (Registry.ofList (modesNamed "A(B").types = .ok (modesNamed "A(B") ∧
      ¬ AcceptsWritten (modesNamed "A(B") "GLenum<A(B> Mode()") ∧
    (read ⟨[]⟩ "void Flush( void )" = .ok [⟨"Flush", .void, [], 1⟩] ∧
      ¬ IsGap " void ".toList ∧ " void " ≠ "void" ∧
      ¬ ∃ forms texts, List.Forall₂ NamedForm.IsPadded forms texts ∧
        " void ".toList = [','].intercalate texts) := by
  refine ⟨⟨by decide, ?_⟩, ⟨by decide, ?_⟩, ⟨by decide, ?_⟩, by decide, ?_, by decide, ?_⟩
  · have hwritten := takesMode_isWritten " Mode" (by decide) (by decide)
    exact not_acceptsWritten (by decide) (by decide) hwritten (isRegistered_takesMode _)
  · have hwritten := takesMode_isWritten "A,B" (by decide) (by decide)
    exact not_acceptsWritten (by decide) (by decide) hwritten (isRegistered_takesMode _)
  · have hwritten := returnsMode_isWritten "A(B"
    exact not_acceptsWritten (by decide) (by decide) hwritten (isRegistered_returnsMode _)
  · intro hgap
    exact absurd (hgap 'v' (by decide)) (by decide)
  · rintro ⟨forms, texts, hforms, htext⟩
    exact not_list_void hforms htext

end CommandBuffer.SignatureFile
