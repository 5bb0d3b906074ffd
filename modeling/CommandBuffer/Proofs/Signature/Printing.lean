import CommandBuffer.Proofs.Signature.Lines

/-! # Printing declarations and reading them back

A declaration is printed as the grammar writes it without brackets. So the declarations of a file,
printed one on a line, are read back with the numbers of these lines; where brackets named a type,
its base is looked up instead.
-/

namespace CommandBuffer
open Text Pairing SignatureFile

/-! ## Declarations that are printed as they are read -/

def CType.form (type : CType) : TypeForm where
  isConst := type.isConst
  base := type.base
  depth := type.pointerDepth

def Param.form (param : Param) : NamedForm := ⟨param.type.form, param.name⟩

def Declaration.form (declaration : Declaration) : DeclarationForm :=
  ⟨⟨declaration.returnType.form, declaration.name⟩, declaration.params.map Param.form⟩

/-- The type can be printed, and its name is what the base is looked up to. -/
structure CType.IsPlain (registry : Registry) (type : CType) : Prop where
  base : IsPath type.base.toList
  depth : type.pointerDepth ≤ maxPointerDepth
  named : type.named = registry.find? type.base

structure Param.IsPlain (registry : Registry) (param : Param) : Prop where
  type : param.type.IsPlain registry
  name : Naming.isIdentifier param.name.toList = true

structure Declaration.IsPlain (registry : Registry) (declaration : Declaration) : Prop where
  returnType : declaration.returnType.IsPlain registry
  name : Naming.isIdentifier declaration.name.toList = true
  params : ∀ param ∈ declaration.params, param.IsPlain registry

section

variable {registry : Registry} {type : CType} {param : Param} {declaration : Declaration}

theorem CType.IsPlain.means (h : type.IsPlain registry) : type.form.Means registry type := by
  obtain ⟨isConst, base, depth, named⟩ := type
  rw [show named = registry.find? base from h.named]
  exact .plain

theorem Param.IsPlain.means (h : param.IsPlain registry) : param.form.Means registry param :=
  ⟨h.type.means, rfl⟩

theorem Declaration.IsPlain.means (h : declaration.IsPlain registry) :
    declaration.form.Means registry declaration := by
  refine ⟨h.returnType.means, rfl, ?_⟩
  rw [Declaration.form, List.forall₂_map_left_iff, List.forall₂_same]
  exact fun param hparam => (h.params param hparam).means

theorem Declaration.form_isReadable (declaration : Declaration) : declaration.form.IsReadable where
  head := by rintro _ ⟨⟩
  unopened := by rintro _ ⟨⟩
  params := by
    intro param hparam
    obtain ⟨source, -, rfl⟩ := List.mem_map.mp hparam
    rintro _ ⟨⟩
  unseparated := by
    intro param hparam
    obtain ⟨source, -, rfl⟩ := List.mem_map.mp hparam
    rintro _ ⟨⟩

/-! ## Printing follows the grammar -/

theorem SignatureFile.writesStars_replicate (depth : Nat) : WritesStars depth (List.replicate depth '*') := by
  induction depth with
  | zero => exact .none
  | succ depth ih => exact .more isGap_nil ih

theorem SignatureFile.not_startsWithConst_path {path : List Char} (h : IsPath path) : ¬ StartsWithConst path := by
  rintro ⟨c, rest, hc, rfl⟩
  rcases h.mem c (by simp) with hpart | rfl
  · rw [isBlank_of_isNamePart hpart] at hc
    cases hc
  · exact absurd hc (by decide)

theorem CType.IsPlain.isWritten (h : type.IsPlain registry) : type.form.IsWritten type.text.toList := by
  refine ⟨if type.isConst then "const ".toList else [], [], List.replicate type.pointerDepth '*', ?_,
    h.base, .absent, writesStars_replicate _, h.depth, ?_, ?_⟩
  · cases hconst : type.isConst with
    | false => simpa [CType.form, hconst] using WritesConst.absent
    | true => simpa [CType.form, hconst, constWord] using WritesConst.present isGap_space (by simp)
  · intro _
    simpa [CType.form] using not_startsWithConst_path h.base
  · cases hconst : type.isConst <;> simp [CType.text, CType.form, hconst]

theorem Param.text_eq (param : Param) :
    param.text.toList = param.type.text.toList ++ [' '] ++ param.name.toList := by
  have htext : param.text = param.type.text ++ " " ++ param.name := rfl
  simp [htext]

theorem Param.IsPlain.isWritten (h : param.IsPlain registry) :
    param.form.IsWritten param.text.toList := by
  rw [Param.text_eq]
  exact .spaced h.type.isWritten h.name

theorem SignatureFile.intercalate_spaced (first : List Char) (others : List (List Char)) :
    [',', ' '].intercalate (first :: others) = [','].intercalate (first :: others.map (' ' :: ·)) := by
  induction others generalizing first with
  | nil => simp
  | cons next others ih =>
    rw [List.intercalate_cons_cons, ih, List.map_cons, List.intercalate_cons_cons]
    cases others <;> simp [List.intercalate_cons_cons]

def SignatureFile.paramsText (params : List Param) : List Char :=
  [',', ' '].intercalate (params.map fun param => param.text.toList)

theorem SignatureFile.writesParams_paramsText {params : List Param} (h : ∀ param ∈ params, param.IsPlain registry) :
    WritesParams (params.map Param.form) (paramsText params) := by
  cases params with
  | nil => exact .blank isGap_nil
  | cons first others =>
    obtain ⟨hfirst, hothers⟩ := List.forall_mem_cons.mp h
    rw [paramsText, List.map_cons, List.map_cons, intercalate_spaced]
    refine .list (List.cons_ne_nil _ _) (.cons hfirst.isWritten.isPadded ?_)
    rw [List.map_map, List.forall₂_map_left_iff, List.forall₂_map_right_iff, List.forall₂_same]
    exact fun param hparam =>
      ⟨[' '], param.text.toList, [], isGap_space, isGap_nil, (hothers param hparam).isWritten, by simp⟩

theorem SignatureFile.notMem_paramsText {params : List Param} (h : ∀ param ∈ params, param.IsPlain registry) {c : Char}
    (hc : IsForeign c) (hcomma : c ≠ ',') : c ∉ paramsText params := by
  intro hmem
  rcases mem_intercalate hmem with hseparator | ⟨piece, hpiece, hmem⟩
  · have hblank := hc.2.1
    rcases List.mem_pair.mp hseparator with rfl | rfl
    · exact hcomma rfl
    · exact absurd hblank (by decide)
  · obtain ⟨param, hparam, rfl⟩ := List.mem_map.mp hpiece
    exact (h param hparam).isWritten.notMem hc (by rintro _ ⟨⟩) hmem

theorem Declaration.text_eq (declaration : Declaration) :
    declaration.text.toList = declaration.returnType.text.toList ++ [' '] ++ declaration.name.toList
      ++ '(' :: paramsText declaration.params ++ [')'] := by
  have htext : declaration.text = declaration.returnType.text ++ " " ++ declaration.name ++ "("
    ++ ", ".intercalate (declaration.params.map Param.text) ++ ")" := rfl
  simp [htext, paramsText, String.toList_intercalate, Function.comp_def]

theorem Declaration.IsPlain.isWritten (h : declaration.IsPlain registry) :
    declaration.form.IsWritten declaration.text.toList := by
  rw [Declaration.text_eq]
  refine ⟨_, [], paramsText declaration.params, [], .spaced h.returnType.isWritten h.name, isGap_nil,
    writesParams_paramsText h.params, notMem_paramsText h.params (by decide) (by decide),
    notMem_paramsText h.params (by decide) (by decide), .inl isGap_nil, by simp⟩

/-! ## Lines of a printed file -/

/-- The characters that a declaration is printed with. -/
def SignatureFile.isPrinted (c : Char) : Bool := isNamePart c || [':', '*', ' ', ',', '(', ')'].contains c

theorem SignatureFile.isPrinted_of_isIdentifier {name : List Char} (h : Naming.isIdentifier name = true) :
    ∀ c ∈ name, isPrinted c = true := by
  intro c hc
  simp [isPrinted, isNamePart_of_isIdentifier h c hc]

theorem CType.IsPlain.isPrinted_of_mem (h : type.IsPlain registry) :
    ∀ c ∈ type.text.toList, isPrinted c = true := by
  have hbase : ∀ c ∈ type.base.toList, isPrinted c = true := by
    intro c hc
    rcases h.base.mem c hc with hpart | rfl
    · simp [isPrinted, hpart]
    · decide
  have hstars : ∀ c ∈ List.replicate type.pointerDepth '*', isPrinted c = true := by
    intro c hc
    rw [List.eq_of_mem_replicate hc]
    decide
  have hconst : "const ".toList.all isPrinted = true := by decide
  intro c hc
  simp only [CType.text, String.toList_append, String.toList_ofList, List.mem_append] at hc
  rcases hc with (hc | hc) | hc
  · split at hc
    · exact List.all_eq_true.mp hconst c hc
    · cases hc
  · exact hbase c hc
  · exact hstars c hc

theorem Param.IsPlain.isPrinted_of_mem (h : param.IsPlain registry) :
    ∀ c ∈ param.text.toList, isPrinted c = true := by
  intro c hc
  rw [Param.text_eq, List.mem_append, List.mem_append, List.mem_singleton] at hc
  rcases hc with (hc | rfl) | hc
  · exact h.type.isPrinted_of_mem c hc
  · decide
  · exact isPrinted_of_isIdentifier h.name c hc

theorem SignatureFile.isPrinted_of_mem_paramsText {params : List Param}
    (h : ∀ param ∈ params, param.IsPlain registry) :
    ∀ c ∈ paramsText params, isPrinted c = true := by
  intro c hc
  rcases mem_intercalate hc with hseparator | ⟨piece, hpiece, hc⟩
  · rcases List.mem_pair.mp hseparator with rfl | rfl <;> decide
  · obtain ⟨param, hparam, rfl⟩ := List.mem_map.mp hpiece
    exact (h param hparam).isPrinted_of_mem c hc

theorem Declaration.IsPlain.isPrinted_of_mem (h : declaration.IsPlain registry) :
    ∀ c ∈ declaration.text.toList, isPrinted c = true := by
  intro c hc
  simp only [Declaration.text_eq, List.mem_append, List.mem_cons, List.not_mem_nil, or_false] at hc
  rcases hc with (((hc | rfl) | hc) | (rfl | hc)) | rfl
  · exact h.returnType.isPrinted_of_mem c hc
  · decide
  · exact isPrinted_of_isIdentifier h.name c hc
  · decide
  · exact isPrinted_of_mem_paramsText h.params c hc
  · decide

theorem Declaration.IsPlain.isTrimmed (h : declaration.IsPlain registry) :
    IsTrimmed declaration.text.toList := by
  have hreturn := h.returnType.isWritten
  rw [Declaration.text_eq]
  constructor
  · simp only [List.append_assoc]
    rw [startsOutside_append hreturn.ne_nil]
    exact hreturn.isTrimmed.start
  · rw [endsOutside_concat]
    decide

/-- A printed declaration is all that its line holds. -/
theorem Declaration.IsPlain.lineContent_text (h : declaration.IsPlain registry) :
    lineContent declaration.text.toList = declaration.text.toList := by
  have hslash : '/' ∉ declaration.text.toList := fun hmem =>
    absurd (h.isPrinted_of_mem '/' hmem) (by decide)
  rw [lineContent, cutAtMarker, splitAtMarker?_of_notMem hslash]
  exact h.isTrimmed.trim_eq

theorem Declaration.text_ne_nil (declaration : Declaration) : declaration.text.toList ≠ [] := by
  simp [Declaration.text_eq]

theorem SignatureFile.contentsOf_eq_self {numbered : List (List Char × Nat)}
    (h : ∀ content ∈ numbered, lineContent content.1 = content.1 ∧ content.1 ≠ []) :
    contentsOf numbered = numbered := by
  have hmap : numbered.map (Prod.map lineContent id) = numbered := by
    conv_rhs => rw [← List.map_id numbered]
    exact List.map_congr_left fun content hcontent => Prod.ext (h content hcontent).1 rfl
  rw [contentsOf, hmap, List.filter_eq_self]
  exact fun content hcontent => by simpa using (h content hcontent).2

end

section

variable {registry : Registry} {declarations : List Declaration}

/-- The declarations as a file, one on a line. -/
def SignatureFile.printed (declarations : List Declaration) : String :=
  "\n".intercalate (declarations.map Declaration.text)

/-- The declarations on the first lines of a file. -/
def SignatureFile.renumbered (declarations : List Declaration) : List Declaration :=
  (declarations.zipIdx 1).map fun numbered => { numbered.1 with line := numbered.2 }

theorem SignatureFile.contents_printed (h : ∀ declaration ∈ declarations, declaration.IsPlain registry) :
    contents (printed declarations)
      = (declarations.map fun declaration => declaration.text.toList).zipIdx 1 := by
  have hfree : ∀ line ∈ declarations.map fun declaration => declaration.text.toList,
      '\n' ∉ line ∧ line ≠ [] := by
    intro line hline
    obtain ⟨declaration, hdeclaration, rfl⟩ := List.mem_map.mp hline
    exact ⟨fun hmem => absurd ((h declaration hdeclaration).isPrinted_of_mem _ hmem) (by decide),
      declaration.text_ne_nil⟩
  have hlines : lines (printed declarations).toList
      = declarations.map fun declaration => declaration.text.toList := by
    rw [printed, String.toList_intercalate, List.map_map]
    exact lines_intercalate hfree
  rw [contents, hlines]
  refine contentsOf_eq_self fun content hcontent => ?_
  obtain ⟨declaration, hdeclaration, htext⟩ := List.mem_map.mp (List.fst_mem_of_mem_zipIdx hcontent)
  rw [← htext]
  exact ⟨(h declaration hdeclaration).lineContent_text, declaration.text_ne_nil⟩

theorem SignatureFile.means_renumbered (line : Nat)
    (h : ∀ declaration ∈ declarations, declaration.IsPlain registry) :
    List.Forall₂ (DeclarationForm.Means registry) (declarations.map Declaration.form)
      ((declarations.zipIdx line).map fun numbered => { numbered.1 with line := numbered.2 }) := by
  induction declarations generalizing line with
  | nil => exact .nil
  | cons declaration declarations ih =>
    obtain ⟨hfirst, hothers⟩ := List.forall_mem_cons.mp h
    rw [List.zipIdx_cons]
    exact .cons hfirst.means (ih (line + 1) hothers)

theorem SignatureFile.map_line_renumbered :
    (renumbered declarations).map (·.line) = List.range' 1 declarations.length := by
  rw [renumbered, List.map_map, ← List.zipIdx_map_snd 1 declarations]
  rfl

/-- Declarations that can be printed are read back, with the numbers of their lines. -/
theorem SignatureFile.read_printed (hdistinct : (declarations.map (·.name)).Nodup)
    (h : ∀ declaration ∈ declarations, declaration.IsPlain registry) :
    read registry (printed declarations) = .ok (renumbered declarations) := by
  have hlines : List.Forall₂ (fun text (form : DeclarationForm) => form.IsWritten text)
      (((declarations.map fun declaration => declaration.text.toList).zipIdx 1).map Prod.fst)
      (declarations.map Declaration.form) := by
    rw [List.zipIdx_map_fst, List.forall₂_map_left_iff, List.forall₂_map_right_iff, List.forall₂_same]
    exact fun declaration hdeclaration => (h declaration hdeclaration).isWritten
  rw [List.forall₂_map_left_iff, ← contents_printed h] at hlines
  rw [read_eq_ok_iff_exists_forms]
  refine ⟨declarations.map Declaration.form, ⟨hlines, ?_⟩, ?_, means_renumbered 1 h, ?_⟩
  · simpa [Function.comp_def, Declaration.form] using hdistinct
  · intro form hform
    obtain ⟨declaration, -, rfl⟩ := List.mem_map.mp hform
    exact declaration.form_isReadable
  · rw [contents_printed h, List.zipIdx_map_snd, List.length_map, map_line_renumbered]

end

/-! ## Printing what was read -/

/-- The type without what brackets said of it. -/
def CType.unqualified (registry : Registry) (type : CType) : CType :=
  { type with named := registry.find? type.base }

def Param.unqualified (registry : Registry) (param : Param) : Param :=
  { param with type := param.type.unqualified registry }

def Declaration.unqualified (registry : Registry) (declaration : Declaration) : Declaration :=
  { declaration with
    returnType := declaration.returnType.unqualified registry
    params := declaration.params.map (Param.unqualified registry) }

/-- Where the form has no brackets, printing loses nothing of what the declaration holds. -/
structure SignatureFile.DeclarationForm.Keeps (registry : Registry) (form : DeclarationForm)
    (declaration : Declaration) : Prop where
  returnType : form.head.type.qualifier = none →
    declaration.returnType.unqualified registry = declaration.returnType
  params : List.Forall₂ (fun form param =>
      form.type.qualifier = none → param.unqualified registry = param)
    form.params declaration.params

section

variable {registry : Registry} {text : List Char}

theorem Declaration.text_unqualified (declaration : Declaration) :
    (declaration.unqualified registry).text = declaration.text := by
  have hparams : (declaration.params.map (Param.unqualified registry)).map Param.text
      = declaration.params.map Param.text := by
    rw [List.map_map]
    rfl
  simp only [Declaration.text, declarationText, Declaration.unqualified, hparams]
  rfl

theorem SignatureFile.TypeForm.IsWritten.isPlain {form : TypeForm} {type : CType} (h : form.IsWritten text)
    (hmeans : form.Means registry type) : (type.unqualified registry).IsPlain registry := by
  obtain ⟨const, written, stars, -, hpath, -, -, hdepth, -, rfl⟩ := h
  cases hmeans <;> exact ⟨hpath, hdepth, rfl⟩

theorem SignatureFile.NamedForm.IsWritten.isIdentifier {form : NamedForm} (h : form.IsWritten text) :
    Naming.isIdentifier form.name.toList = true := by
  obtain ⟨-, -, -, -, hname, -⟩ := h
  exact hname

theorem SignatureFile.NamedForm.IsWritten.isPlain {form : NamedForm} {param : Param} (h : form.IsWritten text)
    (hmeans : form.Means registry param) : (param.unqualified registry).IsPlain registry := by
  refine ⟨?_, hmeans.2 ▸ h.isIdentifier⟩
  obtain ⟨type, gap, htype, -, -, -, rfl⟩ := h
  exact htype.isPlain hmeans.1

theorem SignatureFile.WritesParams.exists_isWritten {forms : List NamedForm} (h : WritesParams forms text) :
    ∀ form ∈ forms, ∃ piece, form.IsWritten piece := by
  intro form hform
  cases h with
  | blank => cases hform
  | void => cases hform
  | list _ hpieces =>
    obtain ⟨piece, -, hpadded⟩ := exists_of_mem_forall₂ hpieces.flip hform
    exact ⟨_, isPadded_iff.mp hpadded⟩

theorem SignatureFile.DeclarationForm.IsWritten.isPlain {form : DeclarationForm} {declaration : Declaration}
    (h : form.IsWritten text) (hmeans : form.Means registry declaration) :
    (declaration.unqualified registry).IsPlain registry := by
  obtain ⟨headText, gap, params, finish, hhead, -, hparams, -, -, -, rfl⟩ := h
  obtain ⟨hreturn, hname, hparamsMean⟩ := hmeans
  refine ⟨?_, hname ▸ hhead.isIdentifier, ?_⟩
  · obtain ⟨type, gap, htype, -, -, -, rfl⟩ := hhead
    exact htype.isPlain hreturn
  · intro param hparam
    obtain ⟨source, hsource, rfl⟩ := List.mem_map.mp hparam
    obtain ⟨paramForm, hform, hmeans⟩ := exists_of_mem_forall₂ hparamsMean hsource
    obtain ⟨piece, hpiece⟩ := hparams.exists_isWritten paramForm hform
    exact hpiece.isPlain hmeans

theorem SignatureFile.unqualified_eq_self {type : CType} {form : TypeForm} (hmeans : form.Means registry type)
    (hnone : form.qualifier = none) : type.unqualified registry = type := by
  cases hmeans with
  | plain => rfl
  | qualified => cases hnone

theorem SignatureFile.DeclarationForm.Means.keeps {form : DeclarationForm} {declaration : Declaration}
    (h : form.Means registry declaration) : form.Keeps registry declaration where
  returnType := unqualified_eq_self h.1
  params := h.2.2.imp fun _ _ hmeans hnone => by
    rw [Param.unqualified, unqualified_eq_self hmeans.1 hnone]

end

section

variable {registry : Registry} {text : String} {declarations : List Declaration}

theorem SignatureFile.printed_unqualified (registry : Registry) (declarations : List Declaration) :
    printed (declarations.map (Declaration.unqualified registry)) = printed declarations := by
  rw [printed, List.map_map]
  congr 2
  exact funext fun declaration => declaration.text_unqualified

/-- The declarations of a file are read back from what is printed of them, but for what brackets
said of their types. -/
theorem SignatureFile.read_printed_of_read (h : read registry text = .ok declarations) :
    read registry (printed declarations)
      = .ok (renumbered (declarations.map (Declaration.unqualified registry))) := by
  have hdistinct := (read_eq_ok_iff.mp h).2
  obtain ⟨forms, hforms, -, hmeans, -⟩ := read_eq_ok_iff_exists_forms.mp h
  rw [← printed_unqualified registry]
  refine read_printed ?_ fun declaration hdeclaration => ?_
  · simpa [Function.comp_def, Declaration.unqualified] using hdistinct
  · obtain ⟨source, hsource, rfl⟩ := List.mem_map.mp hdeclaration
    obtain ⟨form, hform, hformMeans⟩ := exists_of_mem_forall₂ hmeans hsource
    obtain ⟨content, -, hwritten⟩ := exists_of_mem_forall₂ hforms.lines hform
    exact hwritten.isPlain hformMeans

end

/-- Printing and reading are inverse. Declarations that can be printed are read back from their own
lines; and what was read from any text is read back from what is printed of it, but for the types
that were written with brackets, whose bases are looked up instead. -/
theorem SignatureFile.print_read_inverse (registry : Registry) :
    (∀ declarations : List Declaration, (declarations.map (·.name)).Nodup →
      (∀ declaration ∈ declarations, declaration.IsPlain registry) →
      read registry (printed declarations) = .ok (renumbered declarations)) ∧
    ∀ text declarations, read registry text = .ok declarations →
      read registry (printed declarations)
          = .ok (renumbered (declarations.map (Declaration.unqualified registry))) ∧
      ∃ forms, IsWrittenAs text forms ∧
        List.Forall₂ (fun form declaration =>
            form.Means registry declaration ∧ form.Keeps registry declaration)
          forms declarations := by
  refine ⟨fun declarations => read_printed, fun text declarations h => ⟨read_printed_of_read h, ?_⟩⟩
  obtain ⟨forms, hforms, -, hmeans, -⟩ := read_eq_ok_iff_exists_forms.mp h
  exact ⟨forms, hforms, hmeans.imp fun _ _ hform => ⟨hform, hform.keeps⟩⟩

/-- A declaration that can be printed, on a line of its own. -/
def SignatureFile.printable : Declaration where
  name := "Blend"
  returnType := .void
  params := [⟨{ isConst := true, base := "gfx::Mode", pointerDepth := 2 }, "void"⟩]
  line := 7

/-- A declaration whose type was written with brackets. -/
def SignatureFile.bracketed : Declaration where
  name := "Mode"
  returnType := { base := "GLenum", named := some ⟨0⟩ }
  params := []
  line := 1

theorem SignatureFile.printable_isPlain : printable.IsPlain (modesNamed "Mode") where
  returnType := ⟨.of_isIdentifier (by decide), by decide, by decide⟩
  name := by decide
  params := by
    intro param hparam
    cases List.mem_singleton.mp hparam
    exact ⟨⟨isTypePath_iff.mp (by decide), by decide, by decide⟩, by decide⟩

theorem SignatureFile.print_read_modes :
    read (modesNamed "Mode") (printed [printable]) = .ok (renumbered [printable]) ∧
    read (modesNamed "Mode") "GLenum<Mode> Mode();" = .ok [bracketed] ∧
    read (modesNamed "Mode") (printed [bracketed])
      = .ok (renumbered ([bracketed].map (Declaration.unqualified (modesNamed "Mode")))) := by
  have hread : read (modesNamed "Mode") "GLenum<Mode> Mode();" = .ok [bracketed] := by decide
  refine ⟨(print_read_inverse _).1 _ (by decide) ?_, hread, ((print_read_inverse _).2 _ _ hread).1⟩
  intro declaration hdeclaration
  cases List.mem_singleton.mp hdeclaration
  exact printable_isPlain

end CommandBuffer
