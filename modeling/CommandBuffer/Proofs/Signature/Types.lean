import CommandBuffer.Proofs.Outcome
import CommandBuffer.Proofs.Signature.Grammar

/-! # The reader of types follows the grammar

The reader of a type works from both ends: it takes the stars off, then a leading `const`, then what
stands in brackets, and the base is left. Each step finds the part that the grammar puts there, so a
type is read exactly if it is written as one, unless the name in brackets is padded.
-/

namespace CommandBuffer.SignatureFile
open Text Success

/-! ## Names at the end -/

section

variable {text start gap name : List Char}

/-- The name characters at the end, in the terms of the library. -/
theorem splitTrailingIdentifier_eq (text : List Char) :
    splitTrailingIdentifier text =
      if text.rtakeWhile isNamePart ≠ [] ∧ ¬ Naming.isIdentifier (text.rtakeWhile isNamePart) then
        (text, [])
      else (trimEnd (text.rdropWhile isNamePart), text.rtakeWhile isNamePart) :=
  rfl

theorem splitTrailingIdentifier_append (hname : Naming.isIdentifier name = true)
    (hstart : EndsOutside isBlank start) (hgap : IsGap gap)
    (happart : EndsOutside isNamePart (start ++ gap)) :
    splitTrailingIdentifier (start ++ gap ++ name) = (start, name) := by
  have hparts := isNamePart_of_isIdentifier hname
  rw [splitTrailingIdentifier_eq, rtakeWhile_append happart hparts, rdropWhile_append happart hparts,
    if_neg (by simp [hname]), trimEnd_append hstart hgap]

theorem exists_of_splitTrailingIdentifier (h : splitTrailingIdentifier text = (start, name))
    (hne : name ≠ []) : Naming.isIdentifier name = true ∧ EndsOutside isBlank start ∧
      ∃ gap, IsGap gap ∧ EndsOutside isNamePart (start ++ gap) ∧ text = start ++ gap ++ name := by
  rw [splitTrailingIdentifier_eq] at h
  split at h
  · cases h
    exact absurd rfl hne
  · rename_i hidentifier
    cases h
    obtain ⟨gap, hgap, hrest⟩ := exists_gap_trimEnd (text.rdropWhile isNamePart)
    refine ⟨by simpa [hne] using hidentifier, endsOutside_trimEnd _, gap, hgap, ?_, ?_⟩
    · rw [← hrest]
      exact endsOutside_rdropWhile text
    · rw [← hrest, List.rdropWhile_append_rtakeWhile]

end

/-! ## Stars -/

section

variable {text core plain stars run : List Char} {depth : Nat}

def isStarPart (c : Char) : Bool := c == '*' || isBlank c

theorem isBlank_star : isBlank '*' = false := by decide

theorem splitStars_eq (h : IsTrimmed text) :
    splitStars text = (text.rdropWhile isStarPart, (text.rtakeWhile isStarPart).count '*') := by
  rw [splitStars, h.trim_eq]
  simp only [List.rdropWhile, List.rtakeWhile, List.count_reverse]
  rfl

theorem WritesStars.mem (h : WritesStars depth stars) : ∀ c ∈ stars, isStarPart c = true := by
  induction h with
  | none => simp
  | more hgap _ ih =>
    intro c hc
    simp only [List.mem_append, List.mem_cons] at hc
    rcases hc with hc | rfl | hc
    · simp [isStarPart, hgap c hc]
    · rfl
    · exact ih c hc

theorem WritesStars.count (h : WritesStars depth stars) : stars.count '*' = depth := by
  induction h with
  | none => rfl
  | @more gap _ _ hgap _ ih =>
    have hnone : '*' ∉ gap := fun hmem => by simpa [isBlank_star] using hgap _ hmem
    simp [List.count_eq_zero_of_not_mem hnone, ih]

theorem WritesStars.endsOutside (h : WritesStars depth stars) : EndsOutside isBlank stars := by
  induction h with
  | none => simp
  | @more _ rest _ _ _ ih =>
    rw [endsOutside_append (by simp)]
    by_cases hnil : rest = []
    · simp [hnil, EndsOutside, isBlank_star]
    · rwa [← List.singleton_append, endsOutside_append hnil]

theorem WritesStars.pad {c : Char} (hc : isBlank c = true) (h : WritesStars depth stars)
    (hne : stars ≠ []) : WritesStars depth (c :: stars) := by
  cases h with
  | none => exact absurd rfl hne
  | more hgap hrest =>
    rw [← List.cons_append]
    exact .more (isGap_cons.mpr ⟨hc, hgap⟩) hrest

/-- Stars and blanks that end in a star are a way to write the stars. -/
theorem writesStars_of_run (hrun : ∀ c ∈ run, isStarPart c = true) (hend : EndsOutside isBlank run) :
    WritesStars (run.count '*') run := by
  induction run with
  | nil => exact .none
  | cons c rest ih =>
    by_cases hnil : rest = []
    · subst hnil
      have hstar : c = '*' := by simp_all [EndsOutside, isStarPart]
      subst hstar
      exact .more isGap_nil .none
    · rw [← List.singleton_append, endsOutside_append hnil] at hend
      have hrest := ih (fun d hd => hrun d (List.mem_cons_of_mem _ hd)) hend
      by_cases hc : c = '*'
      · subst hc
        rw [List.count_cons_self]
        exact .more isGap_nil hrest
      · rw [List.count_cons_of_ne hc]
        exact hrest.pad (by simpa [isStarPart, hc] using hrun c List.mem_cons_self) hnil

theorem splitStars_eq_iff (h : IsTrimmed text) : splitStars text = (core, depth) ↔
    EndsOutside isStarPart core ∧ ∃ stars, WritesStars depth stars ∧ text = core ++ stars := by
  rw [splitStars_eq h]
  constructor
  · rintro ⟨⟩
    refine ⟨endsOutside_rdropWhile text, text.rtakeWhile isStarPart, ?_,
      List.rdropWhile_append_rtakeWhile.symm⟩
    refine writesStars_of_run (fun _ => List.mem_rtakeWhile_imp) ?_
    by_cases hnil : text.rtakeWhile isStarPart = []
    · simp [hnil]
    · have hend := h.finish
      rw [← List.rdropWhile_append_rtakeWhile (p := isStarPart) (l := text)] at hend
      exact (endsOutside_append hnil).mp hend
  · rintro ⟨hcore, stars, hstars, rfl⟩
    rw [rdropWhile_append hcore hstars.mem, rtakeWhile_append hcore hstars.mem, hstars.count]

/-! ## The `const` in front -/

theorem splitConst_of_starts {c : Char} {rest : List Char} (hc : isBlank c = true) :
    splitConst (constWord ++ c :: rest) = (trimStart (c :: rest), true) := by
  simp [splitConst, constWord, hc]

theorem splitConst_of_not (h : ¬ StartsWithConst text) : splitConst text = (text, false) := by
  unfold splitConst
  split
  · rename_i c rest
    split
    · rename_i hc
      exact absurd ⟨c, rest, hc, rfl⟩ h
    · rfl
  · rfl

theorem splitConst_eq_iff {isConst : Bool} : splitConst text = (plain, isConst) ↔
    (isConst = true → StartsOutside isBlank plain) ∧
    (isConst = false → ¬ StartsWithConst text) ∧
    ∃ const, WritesConst isConst const ∧ text = const ++ plain := by
  by_cases h : StartsWithConst text
  · obtain ⟨c, rest, hc, rfl⟩ := h
    have hstarts : StartsWithConst (constWord ++ c :: rest) := ⟨c, rest, hc, rfl⟩
    rw [splitConst_of_starts hc]
    constructor
    · rintro ⟨⟩
      obtain ⟨gap, hgap, hrest⟩ := exists_gap_trimStart (c :: rest)
      have hne : gap ≠ [] := by
        rintro rfl
        have hplain := startsOutside_trimStart (c :: rest)
        rw [List.nil_append] at hrest
        rw [← hrest, startsOutside_cons, hc] at hplain
        cases hplain
      refine ⟨fun _ => startsOutside_trimStart _, by simp, constWord ++ gap, .present hgap hne, ?_⟩
      rw [List.append_assoc, ← hrest]
    · rintro ⟨hplain, hnot, const, hconst, htext⟩
      cases hconst with
      | absent => exact absurd hstarts (hnot rfl)
      | present hgap _ =>
        rw [List.append_assoc, List.append_cancel_left_eq] at htext
        rw [htext, trimStart_append hgap (hplain rfl)]
  · rw [splitConst_of_not h]
    constructor
    · rintro ⟨⟩
      exact ⟨by simp, fun _ => h, [], .absent, rfl⟩
    · rintro ⟨-, -, const, hconst, htext⟩
      cases hconst with
      | absent => simp [htext]
      | @present gap hgap hne =>
        obtain ⟨c, rest, rfl⟩ := List.exists_cons_of_ne_nil hne
        rw [isGap_cons] at hgap
        exact absurd ⟨c, rest ++ plain, hgap.1, by simp [htext]⟩ h

end

/-! ## Bases and the names behind them -/

section

variable {text base : List Char}

theorem isTypePath_iff : isTypePath text = true ↔ IsPath text := by
  unfold isTypePath
  constructor
  · intro h
    rw [Bool.and_eq_true, List.all_eq_true] at h
    exact ⟨_, splitOnMarkerFrom_ne_nil _, h.2, (intercalate_splitOnMarker _ _).symm⟩
  · intro h
    have hne := h.ne_nil
    obtain ⟨names, hnames, hidentifiers, rfl⟩ := h
    have hcolon : ∀ name ∈ names, ':' ∉ name := fun name hname hmem => by
      simpa [isNamePart] using isNamePart_of_isIdentifier (hidentifiers name hname) ':' hmem
    rw [splitOnMarker_intercalate hcolon hnames, Bool.and_eq_true, List.all_eq_true]
    exact ⟨by simpa using hne, hidentifiers⟩

theorem IsPath.isTrimmed (h : IsPath text) : IsTrimmed text := by
  have hsolid : ∀ c ∈ text, isBlank c = false := by
    intro c hc
    rcases h.mem c hc with hpart | rfl
    · exact isBlank_of_isNamePart hpart
    · decide
  exact ⟨fun c hc => hsolid c (List.mem_of_head? hc), fun c hc => hsolid c (List.mem_of_getLast? hc)⟩

theorem IsPath.notMem {c : Char} (h : IsPath text) (hc : isNamePart c = false)
    (hcolon : c ≠ ':') : c ∉ text := by
  intro hmem
  rcases h.mem c hmem with hpart | rfl
  · simp [hc] at hpart
  · exact hcolon rfl

/-- The qualifier that was found is one behind the base, its name without padding. -/
theorem exists_of_splitQualifier {qualifier : Option (List Char)}
    (h : splitQualifier text = .ok (base, qualifier)) :
    (∀ name, qualifier = some name → IsTrimmed name) ∧
      ∃ written, WritesQualifier (qualifier.map String.ofList) written ∧ text = base ++ written := by
  unfold splitQualifier at h
  split at h
  · cases h
    exact ⟨by simp, [], .absent, by simp⟩
  · rename_i first rest hsplit
    split at h
    · cases h
    · rename_i inner hinner
      cases h
      obtain ⟨rfl, -⟩ := splitAtMarker?_eq_some_iff.mp hsplit
      obtain rfl := dropEnd?_eq_some_iff.mp hinner
      obtain ⟨gap, hgap, hfirst⟩ := exists_gap_trimEnd first
      obtain ⟨before, after, hbefore, hafter, htrim⟩ := exists_gaps_trim inner
      have hwritten : WritesQualifier (some (String.ofList (trim inner)))
          (gap ++ '<' :: (before ++ (String.ofList (trim inner)).toList ++ after ++ ['>'])) :=
        .present hgap hbefore hafter
      refine ⟨?_, _, hwritten, ?_⟩
      · rintro name ⟨⟩
        exact isTrimmed_trim inner
      · rw [String.toList_ofList, ← htrim, ← List.append_assoc, ← hfirst]

theorem splitQualifier_append {qualifier : Option String} {written : List Char}
    (hbase : IsPath base) (h : WritesQualifier qualifier written)
    (hname : ∀ name, qualifier = some name → IsTrimmed name.toList) :
    splitQualifier (base ++ written) = .ok (base, qualifier.map String.toList) := by
  have hbracket : '<' ∉ base := hbase.notMem (by decide) (by decide)
  unfold splitQualifier
  cases h with
  | absent => simp [splitAtMarker?_of_notMem hbracket]
  | @present gap before after name hgap hbefore hafter =>
    have hfree : '<' ∉ base ++ gap := by
      have hblank : isBlank '<' = false := by decide
      simp only [List.mem_append, not_or]
      exact ⟨hbracket, fun hmem => by simpa [hblank] using hgap _ hmem⟩
    have hsplit : splitAtMarker? ['<'] (base ++ (gap ++ '<' :: (before ++ name.toList ++ after ++ ['>'])))
        = some (base ++ gap, before ++ name.toList ++ after ++ ['>']) :=
      splitAtMarker?_eq_some_iff.mpr ⟨by simp, hfree⟩
    rw [hsplit]
    simp only [dropEnd?_eq_some_iff.mpr rfl, trimEnd_append hbase.isTrimmed.finish hgap,
      trim_append hbefore (hname name rfl) hafter, Option.map_some]

end

/-! ## Types -/

section

variable {registry : Registry} {text whole : List Char} {type : CType} {form : TypeForm}

theorem resolve_eq_ok_iff {name : String} {id : TypeId} {named : NamedType} :
    registry.resolve name = .ok (id, named) ↔
      registry.find? name = some id ∧ registry.get? id = some named := by
  unfold Registry.resolve
  cases hfind : registry.find? name with
  | none => simp
  | some found =>
    simp only [Option.some.injEq]
    cases hget : registry.get? found with
    | none =>
      simp only [reduceCtorEq, false_iff, not_and]
      rintro rfl
      simp [hget]
    | some type =>
      simp only [Except.ok.injEq, Prod.mk.injEq]
      constructor
      · rintro ⟨rfl, rfl⟩
        exact ⟨rfl, hget⟩
      · rintro ⟨rfl, h⟩
        exact ⟨rfl, Option.some.inj (hget.symm.trans h)⟩

/-- A type is looked up as the grammar says what it means. -/
theorem means_iff {isConst : Bool} {base : String} {qualifier : Option (List Char)} {depth : Nat} :
    TypeForm.Means registry ⟨isConst, base, qualifier.map String.ofList, depth⟩ type ↔
      ∃ named, resolveNamed registry base qualifier = .ok named ∧ ⟨isConst, base, depth, named⟩ = type := by
  cases qualifier with
  | none =>
    simp only [Option.map_none, resolveNamed]
    constructor
    · rintro ⟨⟩
      exact ⟨_, rfl, rfl⟩
    · rintro ⟨_, ⟨⟩, rfl⟩
      exact .plain
  | some name =>
    simp only [Option.map_some, resolveNamed]
    constructor
    · intro h
      cases h with
      | qualified hfind hget hbase =>
        rw [resolve_eq_ok_iff.mpr ⟨hfind, hget⟩]
        exact ⟨_, if_pos hbase, rfl⟩
    · rintro ⟨named, hnamed, rfl⟩
      split at hnamed
      · cases hnamed
      · rename_i id found hfound
        obtain ⟨hfind, hget⟩ := resolve_eq_ok_iff.mp hfound
        split at hnamed
        · rename_i hbase
          cases hnamed
          exact .qualified hfind hget hbase
        · cases hnamed

theorem isStarPart_of_mem_path {path : List Char} (h : IsPath path) :
    ∀ c ∈ path, isStarPart c = false := by
  intro c hc
  rcases h.mem c hc with hpart | rfl
  · have hstar : c ≠ '*' := by
      rintro rfl
      cases hpart
    simp [isStarPart, hstar, isBlank_of_isNamePart hpart]
  · decide

theorem WritesQualifier.endsOutside {qualifier : Option String} {written : List Char}
    (h : WritesQualifier qualifier written) : EndsOutside isStarPart written := by
  cases h with
  | absent => simp
  | present =>
    rw [← List.cons_append, ← List.append_assoc, endsOutside_concat]
    decide

/-- Without its stars a type ends in what is neither a star nor a blank. -/
theorem endsOutside_core (const : List Char) {path written : List Char} {qualifier : Option String}
    (hpath : IsPath path) (hwritten : WritesQualifier qualifier written) :
    EndsOutside isStarPart (const ++ path ++ written) := by
  refine EndsOutside.append ?_ hwritten.endsOutside
  rw [endsOutside_append hpath.ne_nil]
  exact fun c hc => isStarPart_of_mem_path hpath c (List.mem_of_getLast? hc)

theorem TypeForm.IsWritten.isTrimmed (h : form.IsWritten text) : IsTrimmed text := by
  obtain ⟨isConst, base, qualifier, depth⟩ := form
  obtain ⟨const, written, stars, hconst, hpath, hwritten, hstars, -, -, rfl⟩ := h
  constructor
  · cases hconst with
    | absent =>
      rw [List.nil_append, List.append_assoc, startsOutside_append hpath.ne_nil]
      exact hpath.isTrimmed.start
    | present =>
      simp only [constWord, List.cons_append, startsOutside_cons]
      decide
  · refine EndsOutside.append (fun c hc => ?_) hstars.endsOutside
    have hcore := endsOutside_core const hpath hwritten c hc
    simp only [isStarPart, Bool.or_eq_false_iff] at hcore
    exact hcore.2

theorem TypeForm.IsWritten.ne_nil (h : form.IsWritten text) : text ≠ [] := by
  obtain ⟨const, written, stars, -, hpath, -, -, -, -, rfl⟩ := h
  simp [hpath.ne_nil]

/-- What is read as a type is written as one, its name in brackets without the padding. -/
theorem exists_form_of_readType (h : IsTrimmed text) (hread : readType registry whole text = .ok type) :
    ∃ form : TypeForm, form.IsWritten text ∧ form.IsReadable ∧ form.Means registry type := by
  unfold readType at hread
  simp only at hread
  rcases hsplit : splitStars text with ⟨starless, depth⟩
  rw [hsplit] at hread
  simp only at hread
  split at hread
  · cases hread
  · rename_i hdepth
    rcases hstart : splitConst starless with ⟨plain, isConst⟩
    rw [hstart] at hread
    simp only at hread
    split at hread
    · cases hread
    · rename_i base qualifier hqualifier
      split at hread
      · cases hread
      · rename_i hpath
        obtain ⟨-, stars, hstars, rfl⟩ := (splitStars_eq_iff h).mp hsplit
        obtain ⟨-, hplain, const, hconst, rfl⟩ := splitConst_eq_iff.mp hstart
        obtain ⟨hreadable, written, hwritten, rfl⟩ := exists_of_splitQualifier hqualifier
        rw [Bool.not_eq_true, Bool.not_eq_false', isTypePath_iff] at hpath
        obtain ⟨named, hnamed, rfl⟩ := map_eq_ok.mp hread
        refine ⟨⟨isConst, String.ofList base, qualifier.map String.ofList, depth⟩, ?_, ?_,
          means_iff.mpr ⟨named, hnamed, rfl⟩⟩
        · refine ⟨const, written, stars, hconst, by simpa using hpath, hwritten, hstars,
            Nat.not_lt.mp hdepth, ?_, by simp⟩
          rintro rfl
          cases hconst
          simpa using hplain
        · intro name hname
          obtain ⟨inner, hinner, rfl⟩ := Option.map_eq_some_iff.mp hname
          simpa using hreadable inner hinner

theorem TypeForm.IsWritten.readType_eq_ok (hform : form.IsWritten text) (hreadable : form.IsReadable)
    (hmeans : form.Means registry type) (whole : List Char) :
    readType registry whole text = .ok type := by
  have htrimmed := hform.isTrimmed
  obtain ⟨isConst, base, qualifier, depth⟩ := form
  obtain ⟨const, written, stars, hconst, hpath, hwritten, hstars, hdepth, hplain, rfl⟩ := hform
  simp only at hconst hpath hwritten hstars hdepth hplain
  have hsplit := (splitStars_eq_iff htrimmed).mpr
    ⟨endsOutside_core _ hpath hwritten, stars, hstars, rfl⟩
  have hstart : splitConst (const ++ base.toList ++ written) = (base.toList ++ written, isConst) := by
    refine splitConst_eq_iff.mpr ⟨fun _ => ?_, ?_, const, hconst, List.append_assoc ..⟩
    · rw [startsOutside_append hpath.ne_nil]
      exact hpath.isTrimmed.start
    · rintro rfl
      cases hconst
      exact hplain rfl
  have hround : (qualifier.map String.toList).map String.ofList = qualifier := by
    cases qualifier <;> simp
  rw [← hround] at hmeans
  obtain ⟨named, hnamed, rfl⟩ := means_iff.mp hmeans
  simp only [readType, hsplit, hstart, Nat.not_lt.mpr hdepth, if_false,
    splitQualifier_append hpath hwritten hreadable, isTypePath_iff.mpr hpath, Bool.not_true,
    Bool.false_eq_true, String.ofList_toList, hnamed]
  rfl

/-- A type is read exactly as the grammar writes it, unless a name in brackets is padded. -/
theorem readType_eq_ok_iff (h : IsTrimmed text) (whole : List Char) :
    readType registry whole text = .ok type ↔
      ∃ form : TypeForm, form.IsWritten text ∧ form.IsReadable ∧ form.Means registry type :=
  ⟨exists_form_of_readType h,
    fun ⟨_, hform, hreadable, hmeans⟩ => hform.readType_eq_ok hreadable hmeans whole⟩

end
end CommandBuffer.SignatureFile
