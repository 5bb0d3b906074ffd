import CommandBuffer.Proofs.Signature.Types

/-! # The reader of declarations follows the grammar

A declaration is read exactly if its content is written as one, unless a name in brackets is padded
or holds what separates the parts of a declaration: a comma among the parameters, an opening
parenthesis in the result.
-/

namespace CommandBuffer.SignatureFile
open Text Success Pairing

variable {registry : Registry} {text : List Char}

/-! ## Types with names -/

namespace NamedForm.IsWritten

variable {form : NamedForm}

theorem exists_split (h : form.IsWritten text) : ∃ start,
    splitTrailingIdentifier text = (start, form.name.toList) ∧ form.type.IsWritten start := by
  obtain ⟨start, gap, htype, hgap, hname, happart, rfl⟩ := h
  exact ⟨start, splitTrailingIdentifier_append hname htype.isTrimmed.finish hgap happart, htype⟩

theorem of_split {type : TypeForm} {start name : List Char}
    (h : splitTrailingIdentifier text = (start, name)) (hne : name ≠ []) (htype : type.IsWritten start) :
    NamedForm.IsWritten ⟨type, String.ofList name⟩ text := by
  obtain ⟨hname, -, gap, hgap, happart, rfl⟩ := exists_of_splitTrailingIdentifier h hne
  exact ⟨start, gap, htype, hgap, by simpa using hname, happart, by simp⟩

theorem name_ne_nil (h : form.IsWritten text) : form.name.toList ≠ [] := by
  obtain ⟨-, -, -, -, hname, -⟩ := h
  exact ne_nil_of_isIdentifier hname

theorem ne_nil (h : form.IsWritten text) : text ≠ [] := by
  have hne := h.name_ne_nil
  obtain ⟨start, gap, -, -, -, -, rfl⟩ := h
  exact List.append_ne_nil_of_right_ne_nil _ hne

/-- A type and a name are written with a blank between them. -/
theorem spaced {type : TypeForm} {start : List Char} {name : String} (htype : type.IsWritten start)
    (hname : Naming.isIdentifier name.toList = true) :
    NamedForm.IsWritten ⟨type, name⟩ (start ++ [' '] ++ name.toList) :=
  ⟨start, [' '], htype, isGap_space, hname, endsOutside_concat.mpr (by decide), rfl⟩

theorem isPadded (h : form.IsWritten text) : form.IsPadded text :=
  ⟨[], text, [], isGap_nil, isGap_nil, h, by simp⟩

theorem isTrimmed (h : form.IsWritten text) : IsTrimmed text := by
  have hne := h.name_ne_nil
  obtain ⟨start, gap, htype, -, hname, -, rfl⟩ := h
  constructor
  · rw [List.append_assoc, startsOutside_append htype.ne_nil]
    exact htype.isTrimmed.start
  · rw [endsOutside_append hne]
    exact fun c hc => isBlank_of_isNamePart
      (isNamePart_of_isIdentifier hname c (List.mem_of_getLast? hc))

end NamedForm.IsWritten

/-- What is left in front of a name is a trimmed text, if the whole starts with one. -/
theorem isTrimmed_of_split {start name : List Char} (h : StartsOutside isBlank text)
    (hsplit : splitTrailingIdentifier text = (start, name)) (hname : name ≠ []) (hstart : start ≠ []) :
    IsTrimmed start := by
  obtain ⟨-, hend, gap, -, -, rfl⟩ := exists_of_splitTrailingIdentifier hsplit hname
  rw [List.append_assoc, startsOutside_append hstart] at h
  exact ⟨h, hend⟩

theorem readParam_eq_ok_iff {param : Param} (h : IsTrimmed text) :
    readParam registry text = .ok param ↔ ∃ form : NamedForm,
      form.IsWritten text ∧ form.type.IsReadable ∧ form.Means registry param := by
  constructor
  · intro hread
    unfold readParam at hread
    simp only at hread
    split at hread
    · cases hread
    · rcases hsplit : splitTrailingIdentifier text with ⟨start, name⟩
      rw [hsplit] at hread
      simp only at hread
      split at hread
      · cases hread
      · rename_i hname
        split at hread
        · cases hread
        · rename_i hstart
          rw [List.isEmpty_iff] at hname hstart
          obtain ⟨type, htype, rfl⟩ := map_eq_ok.mp hread
          obtain ⟨form, hwritten, hreadable, hmeans⟩ :=
            (readType_eq_ok_iff (isTrimmed_of_split h.start hsplit hname hstart) _).mp htype
          exact ⟨⟨form, String.ofList name⟩, .of_split hsplit hname hwritten, hreadable, hmeans, rfl⟩
  · rintro ⟨form, hwritten, hreadable, hmeans, hname⟩
    obtain ⟨start, hsplit, htype⟩ := hwritten.exists_split
    have hread := htype.readType_eq_ok hreadable hmeans text
    have hne : text ≠ [] := hwritten.ne_nil
    simp only [readParam, List.isEmpty_iff, hne, hsplit, hwritten.name_ne_nil, htype.ne_nil, hread,
      if_false]
    rw [Except.map, String.ofList_toList, ← hname]

/-! ## Parameters -/

/-- Names in brackets that a list of parameters can hold. -/
structure NamedForm.IsListable (form : NamedForm) : Prop where
  isReadable : form.type.IsReadable
  unseparated : ∀ name, form.type.qualifier = some name → ',' ∉ name.toList

/-- The pieces of a parameter list are read one by one, without their padding. -/
theorem mapM_splitOn_trim {params : List Param} :
    ((splitOn ',' (trim text)).mapM fun piece => readParam registry (trim piece)) = .ok params ↔
      List.Forall₂ (fun piece param => readParam registry (trim piece) = .ok param)
        (splitOn ',' text) params := by
  have hmap : ∀ pieces : List (List Char),
      (pieces.mapM fun piece => readParam registry (trim piece))
        = (pieces.map trim).mapM (readParam registry) := fun pieces => by rw [List.mapM_map]; rfl
  rw [hmap, map_trim_splitOn_trim (by decide), ← hmap, mapM_eq_ok_iff]

theorem isPadded_iff {form : NamedForm} : form.IsPadded text ↔ form.IsWritten (trim text) := by
  constructor
  · rintro ⟨before, inner, after, hbefore, hafter, hinner, rfl⟩
    rwa [trim_append hbefore hinner.isTrimmed hafter]
  · intro h
    obtain ⟨before, after, hbefore, hafter, htext⟩ := exists_gaps_trim text
    exact ⟨before, trim text, after, hbefore, hafter, h, htext⟩

theorem readPiece_eq_ok_iff {param : Param} :
    readParam registry (trim text) = .ok param ↔ ∃ form : NamedForm,
      (form.IsPadded text ∧ form.type.IsReadable) ∧ form.Means registry param := by
  simp only [readParam_eq_ok_iff (isTrimmed_trim text), isPadded_iff, and_assoc]

/-- The name in brackets is part of the text. -/
theorem NamedForm.IsWritten.mem_of_qualifier {form : NamedForm} (h : form.IsWritten text)
    {name : String} (hname : form.type.qualifier = some name) {c : Char} (hc : c ∈ name.toList) :
    c ∈ text := by
  obtain ⟨type, gap, ⟨const, written, stars, -, -, hwritten, -, -, -, rfl⟩, -, -, -, rfl⟩ := h
  rw [hname] at hwritten
  cases hwritten
  simp [hc]

theorem NamedForm.IsPadded.mem_of_qualifier {form : NamedForm} (h : form.IsPadded text)
    {name : String} (hname : form.type.qualifier = some name) {c : Char} (hc : c ∈ name.toList) :
    c ∈ text := by
  obtain ⟨before, inner, after, -, -, hinner, rfl⟩ := h
  simp [hinner.mem_of_qualifier hname hc]

/-- The character stands in no type and in no name, but for names in brackets. -/
def IsForeign (c : Char) : Prop :=
  isNamePart c = false ∧ isBlank c = false ∧ c ∉ [':', '*', '<', '>']

instance (c : Char) : Decidable (IsForeign c) := inferInstanceAs (Decidable (_ ∧ _ ∧ _))

section

variable {c : Char} {gap : List Char}

theorem IsForeign.notMem_gap (h : IsForeign c) (hgap : IsGap gap) : c ∉ gap :=
  fun hmem => by simpa [h.2.1] using hgap c hmem

theorem IsForeign.notMem_name {name : List Char} (h : IsForeign c)
    (hname : Naming.isIdentifier name = true) : c ∉ name :=
  fun hmem => by simpa [h.1] using isNamePart_of_isIdentifier hname c hmem

theorem TypeForm.IsWritten.notMem {form : TypeForm} (h : form.IsWritten text) (hc : IsForeign c)
    (hname : ∀ name, form.qualifier = some name → c ∉ name.toList) : c ∉ text := by
  obtain ⟨isConst, base, qualifier, depth⟩ := form
  obtain ⟨const, written, stars, hconst, hpath, hwritten, hstars, -, -, rfl⟩ := h
  have hmarks := hc.2.2
  simp only [List.mem_cons, List.not_mem_nil, or_false, not_or] at hmarks
  have hinConst : c ∉ const := by
    cases hconst with
    | absent => simp
    | present hgap _ =>
      have hword : c ∉ constWord := fun hmem => by
        have hparts : constWord.all isNamePart = true := by decide
        simpa [hc.1] using List.all_eq_true.mp hparts c hmem
      simp [hword, hc.notMem_gap hgap]
  have hinWritten : c ∉ written := by
    cases hwritten with
    | absent => simp
    | present hgap hbefore hafter =>
      simp [hc.notMem_gap hgap, hc.notMem_gap hbefore, hc.notMem_gap hafter, hname _ rfl, hmarks]
  have hinStars : c ∉ stars := fun hmem => by
    simpa [isStarPart, hmarks, hc.2.1] using hstars.mem c hmem
  simp [hinConst, hpath.notMem hc.1 hmarks.1, hinWritten, hinStars]

theorem NamedForm.IsWritten.notMem {form : NamedForm} (h : form.IsWritten text) (hc : IsForeign c)
    (hname : ∀ name, form.type.qualifier = some name → c ∉ name.toList) : c ∉ text := by
  obtain ⟨start, gap, htype, hgap, hidentifier, -, rfl⟩ := h
  simp [htype.notMem hc hname, hc.notMem_gap hgap, hc.notMem_name hidentifier]

theorem NamedForm.IsPadded.notMem {form : NamedForm} (h : form.IsPadded text) (hc : IsForeign c)
    (hname : ∀ name, form.type.qualifier = some name → c ∉ name.toList) : c ∉ text := by
  obtain ⟨before, inner, after, hbefore, hafter, hinner, rfl⟩ := h
  simp [hc.notMem_gap hbefore, hc.notMem_gap hafter, hinner.notMem hc hname]

end

/-- The word for no parameters is not a parameter. -/
theorem not_isWritten_void (form : NamedForm) : ¬ form.IsWritten ['v', 'o', 'i', 'd'] := by
  intro h
  obtain ⟨start, hsplit, htype⟩ := h.exists_split
  have hstart : start = [] := (congrArg Prod.fst hsplit).symm.trans (by decide)
  exact htype.ne_nil hstart

section

variable {forms : List NamedForm} {texts : List (List Char)}

theorem splitOn_of_list (hne : forms ≠ []) (htexts : List.Forall₂ NamedForm.IsPadded forms texts)
    (hlistable : ∀ form ∈ forms, form.IsListable) :
    splitOn ',' ([','].intercalate texts) = texts := by
  have hfree : ∀ piece ∈ texts, ',' ∉ piece := by
    intro piece hpiece
    obtain ⟨form, hform, hpadded⟩ := exists_of_mem_forall₂ htexts hpiece
    exact hpadded.notMem (by decide) (hlistable form hform).unseparated
  have htextsNe : texts ≠ [] := by
    rintro rfl
    exact hne (List.forall₂_nil_right_iff.mp htexts)
  rw [splitOn_eq, List.splitOn_intercalate _ hfree htextsNe]

/-- A word that is no parameter is no list of parameters. -/
theorem trim_ne_of_list {word : List Char} (hne : forms ≠ [])
    (htexts : List.Forall₂ NamedForm.IsPadded forms texts)
    (hlistable : ∀ form ∈ forms, form.IsListable)
    (hword : (splitOn ',' word).map trim = [word]) (hnot : ∀ form, ¬ NamedForm.IsWritten form word) :
    trim ([','].intercalate texts) ≠ word := by
  rintro rfl
  rw [map_trim_splitOn_trim (by decide), splitOn_of_list hne htexts hlistable] at hword
  obtain ⟨form, forms, rfl⟩ := List.exists_cons_of_ne_nil hne
  obtain ⟨piece, pieces, hpadded, -, rfl⟩ := List.forall₂_cons_left_iff.mp htexts
  rw [List.map_cons, List.cons.injEq] at hword
  exact hnot form (hword.1 ▸ isPadded_iff.mp hpadded)

end

section

variable {forms : List NamedForm} {params : List Param}

/-- What is read as parameters is written as some. -/
theorem exists_forms_of_readParams (h : readParams registry text = .ok params) :
    ∃ forms, WritesParams forms text ∧ (∀ form ∈ forms, form.IsListable) ∧
      List.Forall₂ (NamedForm.Means registry) forms params := by
  unfold readParams at h
  simp only at h
  split at h
  · rename_i hnone
    cases h
    refine ⟨[], ?_, by simp, .nil⟩
    rcases hnone with hnil | hvoid
    · exact .blank (trim_eq_nil_iff.mp hnil)
    · obtain ⟨before, after, hbefore, hafter, htext⟩ := exists_gaps_trim text
      rw [htext, hvoid]
      exact .void hbefore hafter
  · rw [mapM_splitOn_trim] at h
    simp only [readPiece_eq_ok_iff] at h
    obtain ⟨forms, hforms, hmeans⟩ := forall₂_exists_iff.mp h
    have hpadded : List.Forall₂ NamedForm.IsPadded forms (splitOn ',' text) :=
      hforms.flip.imp fun _ _ h => h.1
    refine ⟨forms, ?_, fun form hform => ?_, hmeans⟩
    · have hpieces : [','].intercalate (splitOn ',' text) = text := by
        rw [splitOn_eq, List.intercalate_splitOn]
      rw [← hpieces]
      refine .list ?_ hpadded
      rintro rfl
      exact absurd (List.forall₂_nil_left_iff.mp hpadded) (splitWhere_ne_nil _ _)
    · obtain ⟨piece, hpiece, hwritten, hreadable⟩ := exists_of_mem_forall₂ hforms hform
      exact ⟨hreadable, fun name hname hcomma =>
        notMem_of_mem_splitOn hpiece (hwritten.mem_of_qualifier hname hcomma)⟩

theorem WritesParams.readParams_eq_ok (h : WritesParams forms text)
    (hlistable : ∀ form ∈ forms, form.IsListable)
    (hmeans : List.Forall₂ (NamedForm.Means registry) forms params) :
    readParams registry text = .ok params := by
  cases h with
  | blank hgap =>
    cases hmeans
    simp [readParams, trim_eq_nil_iff.mpr hgap]
  | void hbefore hafter =>
    cases hmeans
    have hword : IsTrimmed ['v', 'o', 'i', 'd'] :=
      ⟨startsOutside_cons.mpr (by decide), fun c hc => by cases hc; decide⟩
    simp only [readParams, trim_append hbefore hword hafter, or_true, if_true]
  | @list _ texts hne htexts =>
    have hnil : trim ([','].intercalate texts) ≠ [] :=
      trim_ne_of_list hne htexts hlistable (by decide) fun form h => h.ne_nil rfl
    have hvoid := trim_ne_of_list hne htexts hlistable (by decide) not_isWritten_void
    simp only [readParams, hnil, hvoid, or_self, if_false]
    rw [mapM_splitOn_trim, splitOn_of_list hne htexts hlistable]
    simp only [readPiece_eq_ok_iff]
    have hreadable := (List.forall₂_and_left _ _).mpr
      ⟨fun form hform => (hlistable form hform).isReadable, htexts⟩
    exact forall₂_exists_iff.mpr
      ⟨forms, hreadable.flip.imp fun _ _ h => ⟨h.2, h.1⟩, hmeans⟩

/-- Parameters are read exactly as the grammar writes them, as far as names in brackets allow. -/
theorem readParams_eq_ok_iff : readParams registry text = .ok params ↔
    ∃ forms, WritesParams forms text ∧ (∀ form ∈ forms, form.IsListable) ∧
      List.Forall₂ (NamedForm.Means registry) forms params :=
  ⟨exists_forms_of_readParams,
    fun ⟨_, hwritten, hlistable, hmeans⟩ => hwritten.readParams_eq_ok hlistable hmeans⟩

end

/-! ## Declarations -/

section

variable {content body finish : List Char}

/-- What the reader takes off at the end. -/
def declarationBody (content : List Char) : List Char :=
  trimEnd ((dropEnd? ';' content).getD content)

theorem exists_finish_declarationBody (content : List Char) :
    ∃ finish, WritesFinish finish ∧ content = declarationBody content ++ finish := by
  unfold declarationBody
  cases hdrop : dropEnd? ';' content with
  | none =>
    obtain ⟨gap, hgap, hcontent⟩ := exists_gap_trimEnd content
    exact ⟨gap, .inl hgap, hcontent⟩
  | some start =>
    obtain ⟨gap, hgap, hstart⟩ := exists_gap_trimEnd start
    refine ⟨gap ++ [';'], .inr ⟨gap, hgap, rfl⟩, ?_⟩
    rw [dropEnd?_eq_some_iff.mp hdrop, Option.getD_some, ← List.append_assoc, ← hstart]

/-- Behind blanks there is no semicolon. -/
theorem dropEnd?_gap (hfinish : IsGap finish) : dropEnd? ';' (body ++ [')'] ++ finish) = none := by
  rw [Option.eq_none_iff_forall_ne_some]
  intro start hstart
  rw [dropEnd?_eq_some_iff] at hstart
  rcases List.eq_nil_or_concat finish with rfl | ⟨rest, c, rfl⟩
  · simp at hstart
  · rw [List.concat_eq_append, ← List.append_assoc] at hstart
    have hc := (List.append_inj' hstart rfl).2
    simp only [List.cons.injEq, and_true] at hc
    subst hc
    exact absurd (hfinish ';' (by simp)) (by decide)

theorem declarationBody_append (hfinish : WritesFinish finish) :
    declarationBody (body ++ [')'] ++ finish) = body ++ [')'] := by
  have hclosed : EndsOutside isBlank (body ++ [')']) := endsOutside_concat.mpr (by decide)
  unfold declarationBody
  rcases hfinish with hgap | ⟨gap, hgap, rfl⟩
  · rw [dropEnd?_gap hgap, Option.getD_none, trimEnd_append hclosed hgap]
  · rw [dropEnd?_eq_some_iff.mpr (List.append_assoc ..).symm, Option.getD_some,
      trimEnd_append hclosed hgap]

end

section

variable {content : List Char} {line : Nat} {declaration : Declaration}

/-- What the steps of the reader find in a declaration that it accepts. -/
theorem exists_of_readDeclaration (h : readDeclaration registry line content = .ok declaration) :
    ∃ head params returnText name,
      declarationBody content = head ++ '(' :: (params ++ [')']) ∧ '(' ∉ head ∧
      '(' ∉ params ∧ ')' ∉ params ∧
      splitTrailingIdentifier (trimEnd head) = (returnText, name) ∧ name ≠ [] ∧ returnText ≠ [] ∧
      declaration.name = String.ofList name ∧ declaration.line = line ∧
      readType registry returnText returnText = .ok declaration.returnType ∧
      readParams registry params = .ok declaration.params := by
  unfold readDeclaration at h
  simp only at h
  split at h
  · cases h
  · rename_i head rest hopening
    split at h
    · cases h
    · rename_i params hclosing
      split at h
      · cases h
      · rename_i hbalanced
        rcases hsplit : splitTrailingIdentifier (trimEnd head) with ⟨returnText, name⟩
        rw [hsplit] at h
        simp only [List.isEmpty_iff] at h
        split at h
        · cases h
        · rename_i hname
          split at h
          · cases h
          · rename_i hreturn
            split at h
            · cases h
            · rename_i returnType htype
              split at h
              · cases h
              · rename_i readParams hparams
                cases h
                rw [splitAtMarker?_eq_some_iff, dropEnd?_eq_some_iff.mp hclosing] at hopening
                rw [not_or] at hbalanced
                exact ⟨head, params, returnText, name, hopening.1, hopening.2, hbalanced.1,
                  hbalanced.2, hsplit, hname, hreturn, rfl, rfl, htype, hparams⟩

/-- What is read as a declaration is written as one. -/
theorem exists_form_of_readDeclaration (h : IsTrimmed content)
    (hread : readDeclaration registry line content = .ok declaration) :
    ∃ form : DeclarationForm, form.IsWritten content ∧ form.IsReadable ∧
      form.Means registry declaration := by
  obtain ⟨head, params, returnText, name, hbody, hunopened, hopening, hclosing, hsplit, hname,
    hreturn, hdeclared, -, htype, hparams⟩ := exists_of_readDeclaration hread
  obtain ⟨finish, hfinish, hcontent⟩ := exists_finish_declarationBody content
  obtain ⟨gap, hgap, hhead⟩ := exists_gap_trimEnd head
  have hstart : StartsOutside isBlank (trimEnd head) := by
    by_cases hnil : trimEnd head = []
    · simp [hnil]
    · have hfront := h.start
      rw [hcontent, hbody, hhead] at hfront
      simpa only [List.append_assoc, startsOutside_append hnil] using hfront
  obtain ⟨form, hform, hreadable, hmeans⟩ :=
    (readType_eq_ok_iff (isTrimmed_of_split hstart hsplit hname hreturn) _).mp htype
  obtain ⟨forms, hforms, hlistable, hparamsMean⟩ := readParams_eq_ok_iff.mp hparams
  have hwritten : NamedForm.IsWritten ⟨form, String.ofList name⟩ (trimEnd head) :=
    .of_split hsplit hname hform
  refine ⟨⟨⟨form, String.ofList name⟩, forms⟩, ?_, ⟨hreadable, fun bracketed hbracketed hmem => ?_,
    fun param hparam => (hlistable param hparam).isReadable,
    fun param hparam => (hlistable param hparam).unseparated⟩, hmeans, hdeclared, hparamsMean⟩
  · refine ⟨trimEnd head, gap, params, finish, hwritten, hgap, hforms, hopening, hclosing, hfinish, ?_⟩
    rw [← hhead, hcontent, hbody]
    simp
  · rw [hhead] at hunopened
    exact hunopened (List.mem_append_left _ (hwritten.mem_of_qualifier hbracketed hmem))

theorem DeclarationForm.IsWritten.readDeclaration_eq_ok {form : DeclarationForm}
    (h : form.IsWritten content) (hreadable : form.IsReadable) (hmeans : form.Means registry declaration) :
    readDeclaration registry declaration.line content = .ok declaration := by
  obtain ⟨head, params⟩ := form
  obtain ⟨headText, gap, paramsText, finish, hhead, hgap, hparams, hopening, hclosing, hfinish, rfl⟩ := h
  obtain ⟨hreturn, hname, hparamsMean⟩ := hmeans
  have hbody : declarationBody (headText ++ gap ++ '(' :: paramsText ++ [')'] ++ finish)
      = headText ++ gap ++ '(' :: paramsText ++ [')'] :=
    declarationBody_append hfinish
  have hunopened : '(' ∉ headText ++ gap := by
    have hgapFree : '(' ∉ gap := IsForeign.notMem_gap (by decide) hgap
    simp [hhead.notMem (by decide) hreadable.unopened, hgapFree]
  obtain ⟨returnText, hsplit, htype⟩ := hhead.exists_split
  have hreturnRead := htype.readType_eq_ok hreadable.head hreturn returnText
  have hparamsRead := hparams.readParams_eq_ok
    (fun param hparam => ⟨hreadable.params param hparam, hreadable.unseparated param hparam⟩) hparamsMean
  have hopen : splitAtMarker? ['('] (headText ++ gap ++ '(' :: paramsText ++ [')'])
      = some (headText ++ gap, paramsText ++ [')']) :=
    splitAtMarker?_eq_some_iff.mpr ⟨by simp, hunopened⟩
  rw [declarationBody] at hbody
  have hcontent : headText ++ gap ++ '(' :: paramsText ++ ')' :: finish
      = headText ++ gap ++ '(' :: paramsText ++ [')'] ++ finish := by simp
  rw [hcontent]
  simp only [readDeclaration, hbody, hopen, dropEnd?_eq_some_iff.mpr rfl, hopening, hclosing,
    or_self, if_false, trimEnd_append hhead.isTrimmed.finish hgap, hsplit, List.isEmpty_iff,
    hhead.name_ne_nil, htype.ne_nil, hreturnRead, hparamsRead, String.ofList_toList]
  rw [show head.name = declaration.name from hname.symm]

/-- A declaration is read exactly as the grammar writes it, as far as names in brackets allow. -/
theorem readDeclaration_eq_ok_iff (h : IsTrimmed content) :
    readDeclaration registry line content = .ok declaration ↔ declaration.line = line ∧
      ∃ form : DeclarationForm, form.IsWritten content ∧ form.IsReadable ∧
        form.Means registry declaration := by
  constructor
  · intro hread
    obtain ⟨-, -, -, -, -, -, -, -, -, -, -, -, hline, -⟩ := exists_of_readDeclaration hread
    exact ⟨hline, exists_form_of_readDeclaration h hread⟩
  · rintro ⟨rfl, form, hform, hreadable, hmeans⟩
    exact hform.readDeclaration_eq_ok hreadable hmeans

end

end CommandBuffer.SignatureFile
