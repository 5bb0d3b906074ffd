import CommandBuffer.Text.Blank
import CommandBuffer.Text.Pieces
import Mathlib.Data.List.DropRight

/-! # Cutting texts and putting them together

A text that was put together of a start and a run of characters, of padding and a solid part, or of
pieces and a separator between them is cut where it was put together, if the parts do not run into
each other. And what a text is cut into makes it up again.
-/

namespace CommandBuffer.Text

/-- A run of blanks, which may be empty. -/
def IsGap (text : List Char) : Prop := ∀ c ∈ text, isBlank c = true

/-- The text does not start with a character of the class. -/
def StartsOutside (inClass : Char → Bool) (text : List Char) : Prop :=
  ∀ c, text.head? = some c → inClass c = false

/-- The text does not end in a character of the class. -/
def EndsOutside (inClass : Char → Bool) (text : List Char) : Prop :=
  ∀ c, text.getLast? = some c → inClass c = false

/-- There is no blank at either end. -/
structure IsTrimmed (text : List Char) : Prop where
  start : StartsOutside isBlank text
  finish : EndsOutside isBlank text

@[simp] theorem isGap_nil : IsGap [] := by simp [IsGap]

@[simp] theorem isGap_append {first second : List Char} :
    IsGap (first ++ second) ↔ IsGap first ∧ IsGap second := by
  simp [IsGap, or_imp, forall_and]

@[simp] theorem isGap_cons {c : Char} {text : List Char} :
    IsGap (c :: text) ↔ isBlank c = true ∧ IsGap text := by
  simp [IsGap]

@[simp] theorem isGap_space : IsGap [' '] := by simp [show isBlank ' ' = true by decide]

section

variable {inClass : Char → Bool} {first second run start : List Char}

@[simp] theorem startsOutside_nil : StartsOutside inClass [] := by simp [StartsOutside]

@[simp] theorem startsOutside_cons {c : Char} {text : List Char} :
    StartsOutside inClass (c :: text) ↔ inClass c = false := by
  simp [StartsOutside]

@[simp] theorem endsOutside_nil : EndsOutside inClass [] := by simp [EndsOutside]

@[simp] theorem endsOutside_concat {c : Char} {text : List Char} :
    EndsOutside inClass (text ++ [c]) ↔ inClass c = false := by
  simp [EndsOutside]

theorem startsOutside_append (h : first ≠ []) :
    StartsOutside inClass (first ++ second) ↔ StartsOutside inClass first := by
  cases first with
  | nil => exact absurd rfl h
  | cons c rest => simp

theorem endsOutside_append (h : second ≠ []) :
    EndsOutside inClass (first ++ second) ↔ EndsOutside inClass second := by
  obtain ⟨rest, c, rfl⟩ := List.eq_nil_or_concat second |>.resolve_left h
  rw [List.concat_eq_append, ← List.append_assoc, endsOutside_concat, endsOutside_concat]

theorem EndsOutside.append (hfirst : EndsOutside inClass first) (hsecond : EndsOutside inClass second) :
    EndsOutside inClass (first ++ second) := by
  by_cases hnil : second = []
  · simpa [hnil] using hfirst
  · exact (endsOutside_append hnil).mpr hsecond

/-! ## Runs at the end -/

theorem endsOutside_rdropWhile (text : List Char) : EndsOutside inClass (text.rdropWhile inClass) := by
  intro c hc
  have hne : text.rdropWhile inClass ≠ [] := by
    intro hnil
    simp [hnil] at hc
  have hlast := List.rdropWhile_last_not inClass text hne
  rw [List.getLast?_eq_getLast_of_ne_nil hne, Option.some.injEq] at hc
  simpa [hc] using hlast

theorem rdropWhile_append (hstart : EndsOutside inClass start)
    (hrun : ∀ c ∈ run, inClass c = true) : (start ++ run).rdropWhile inClass = start := by
  induction run using List.reverseRecOn with
  | nil =>
    rw [List.append_nil, List.rdropWhile_eq_self_iff]
    intro hne
    simp [hstart _ (List.getLast?_eq_getLast_of_ne_nil hne)]
  | append_singleton run c ih =>
    rw [← List.append_assoc, List.rdropWhile_concat_pos _ _ _ (hrun c (by simp))]
    exact ih fun d hd => hrun d (by simp [hd])

theorem rtakeWhile_append (hstart : EndsOutside inClass start)
    (hrun : ∀ c ∈ run, inClass c = true) : (start ++ run).rtakeWhile inClass = run := by
  have hparts := List.rdropWhile_append_rtakeWhile (p := inClass) (l := start ++ run)
  rw [rdropWhile_append hstart hrun] at hparts
  exact List.append_cancel_left hparts

end

/-! ## Trimming -/

section

variable {before text after gap : List Char}

theorem trimEnd_append (h : EndsOutside isBlank text) (hgap : IsGap gap) :
    trimEnd (text ++ gap) = text :=
  rdropWhile_append h hgap

theorem endsOutside_trimEnd (text : List Char) : EndsOutside isBlank (trimEnd text) :=
  endsOutside_rdropWhile text

theorem exists_gap_trimEnd (text : List Char) : ∃ gap, IsGap gap ∧ text = trimEnd text ++ gap :=
  ⟨text.rtakeWhile isBlank, fun _ => List.mem_rtakeWhile_imp, List.rdropWhile_append_rtakeWhile.symm⟩

theorem trimStart_append (hgap : IsGap gap) (h : StartsOutside isBlank text) :
    trimStart (gap ++ text) = text := by
  unfold trimStart
  rw [List.dropWhile_append_of_pos hgap]
  cases text with
  | nil => rfl
  | cons c rest => exact List.dropWhile_cons_of_neg (by simpa using h)

theorem startsOutside_trimStart (text : List Char) : StartsOutside isBlank (trimStart text) := by
  intro c hc
  have hhead := List.head?_dropWhile_not isBlank text
  rwa [show (text.dropWhile isBlank).head? = some c from hc] at hhead

theorem exists_gap_trimStart (text : List Char) :
    ∃ gap, IsGap gap ∧ text = gap ++ trimStart text :=
  ⟨text.takeWhile isBlank, fun _ => List.mem_takeWhile_imp, List.takeWhile_append_dropWhile.symm⟩

/-- What is trimmed off is padding. -/
theorem trim_append (hbefore : IsGap before) (h : IsTrimmed text) (hafter : IsGap after) :
    trim (before ++ text ++ after) = text := by
  unfold trim
  by_cases hnil : text = []
  · subst hnil
    have hall : IsGap (before ++ [] ++ after) := by simp [hbefore, hafter]
    rw [show trimEnd (before ++ [] ++ after) = [] from List.rdropWhile_eq_nil_iff.mpr hall]
    rfl
  · rw [trimEnd_append ((endsOutside_append hnil).mpr h.finish) hafter]
    exact trimStart_append hbefore h.start

theorem isTrimmed_trim (text : List Char) : IsTrimmed (trim text) where
  start := startsOutside_trimStart _
  finish := by
    obtain ⟨gap, -, hgap⟩ := exists_gap_trimStart (trimEnd text)
    unfold trim
    by_cases hnil : trimStart (trimEnd text) = []
    · rw [hnil]
      exact endsOutside_nil
    · have hend := endsOutside_trimEnd text
      rw [hgap] at hend
      exact (endsOutside_append hnil).mp hend

theorem exists_gaps_trim (text : List Char) :
    ∃ before after, IsGap before ∧ IsGap after ∧ text = before ++ trim text ++ after := by
  obtain ⟨after, hafter, htext⟩ := exists_gap_trimEnd text
  obtain ⟨before, hbefore, hstart⟩ := exists_gap_trimStart (trimEnd text)
  refine ⟨before, after, hbefore, hafter, ?_⟩
  rw [trim, ← hstart, ← htext]

theorem IsTrimmed.trim_eq (h : IsTrimmed text) : trim text = text := by
  simpa using trim_append isGap_nil h isGap_nil

/-- Nothing is left of blanks, and of nothing else. -/
theorem trim_eq_nil_iff : trim text = [] ↔ IsGap text := by
  constructor
  · intro h
    obtain ⟨before, after, hbefore, hafter, htext⟩ := exists_gaps_trim text
    rw [htext, h]
    simp [hbefore, hafter]
  · intro h
    simpa using trim_append h ⟨startsOutside_nil, endsOutside_nil⟩ isGap_nil

theorem trimEnd_append_gap (hgap : IsGap gap) : trimEnd (text ++ gap) = trimEnd text := by
  obtain ⟨own, hown, htext⟩ := exists_gap_trimEnd text
  have hparts : text ++ gap = trimEnd text ++ (own ++ gap) := by
    rw [← List.append_assoc, ← htext]
  rw [hparts]
  exact trimEnd_append (endsOutside_trimEnd text) (by simp [hown, hgap])

theorem trim_gap_append (hgap : IsGap gap) : trim (gap ++ text) = trim text := by
  obtain ⟨before, after, hbefore, hafter, htext⟩ := exists_gaps_trim text
  have hparts : gap ++ text = (gap ++ before) ++ trim text ++ after := by
    rw [List.append_assoc, List.append_assoc, ← List.append_assoc before, ← htext]
  rw [hparts]
  exact trim_append (by simp [hgap, hbefore]) (isTrimmed_trim text) hafter

theorem trimEnd_cons_congr {c : Char} {other : List Char} (h : trimEnd text = trimEnd other) :
    trimEnd (c :: text) = trimEnd (c :: other) := by
  obtain ⟨gap, hgap, htext⟩ := exists_gap_trimEnd text
  obtain ⟨otherGap, hotherGap, hother⟩ := exists_gap_trimEnd other
  rw [htext, hother, ← List.cons_append, ← List.cons_append, trimEnd_append_gap hgap,
    trimEnd_append_gap hotherGap, h]

end

/-! ## Markers -/

section

variable {c : Char} {text before after inner : List Char}

theorem dropEnd?_eq_some_iff : dropEnd? c text = some inner ↔ text = inner ++ [c] := by
  unfold dropEnd?
  constructor
  · intro h
    split at h
    · rename_i hlast
      rw [← Option.some.inj h]
      exact (List.dropLast_append_getLast? c hlast).symm
    · cases h
  · rintro rfl
    simp

/-- A marker is found at its first occurrence, for which its first character is enough. -/
theorem splitAtMarker?_append {rest : List Char} (h : c ∉ before) :
    splitAtMarker? (c :: rest) (before ++ (c :: rest) ++ after) = some (before, after) := by
  induction before with
  | nil => simp [splitAtMarker?]
  | cons d before ih =>
    rw [List.mem_cons, not_or] at h
    simp only [List.cons_append, List.append_assoc] at ih ⊢
    rw [splitAtMarker?, ih h.2]
    simp [h.1]

theorem splitAtMarker?_of_notMem {rest : List Char} (h : c ∉ text) :
    splitAtMarker? (c :: rest) text = none := by
  induction text with
  | nil => rfl
  | cons d text ih =>
    rw [List.mem_cons, not_or] at h
    rw [splitAtMarker?, ih h.2]
    simp [h.1]

theorem splitAtMarker?_eq_some_iff :
    splitAtMarker? [c] text = some (before, after) ↔ text = before ++ c :: after ∧ c ∉ before := by
  constructor
  · intro h
    by_cases hmem : c ∈ text
    · obtain ⟨first, rest, rfl, hfirst⟩ := List.eq_append_cons_of_mem hmem
      have hfound : splitAtMarker? [c] (first ++ [c] ++ rest) = some (first, rest) :=
        splitAtMarker?_append hfirst
      rw [List.append_assoc, List.singleton_append, h] at hfound
      cases hfound
      exact ⟨rfl, hfirst⟩
    · rw [splitAtMarker?_of_notMem hmem] at h
      cases h
  · rintro ⟨rfl, h⟩
    have hfound : splitAtMarker? [c] (before ++ [c] ++ after) = some (before, after) :=
      splitAtMarker?_append h
    rwa [List.append_assoc, List.singleton_append] at hfound

end

/-! ## Pieces -/

section

variable {marker text before after : List Char} {pieces : List (List Char)}

theorem append_of_splitAtMarker? (h : splitAtMarker? marker text = some (before, after)) :
    text = before ++ marker ++ after := by
  induction text generalizing before with
  | nil =>
    cases marker with
    | nil => simpa [splitAtMarker?] using h
    | cons c rest => simp [splitAtMarker?] at h
  | cons c rest ih =>
    rw [splitAtMarker?] at h
    split at h
    · rename_i hprefix
      cases h
      obtain ⟨after, hafter⟩ := List.isPrefixOf_iff_prefix.mp hprefix
      simp [← hafter]
    · obtain ⟨⟨before, after⟩, hrest, hpair⟩ := Option.map_eq_some_iff.mp h
      cases hpair
      simp [ih hrest]

theorem splitOnMarkerFrom_ne_nil (fuel : Nat) : splitOnMarkerFrom marker fuel text ≠ [] := by
  cases fuel with
  | zero => simp [splitOnMarkerFrom]
  | succ fuel =>
    rw [splitOnMarkerFrom]
    split <;> simp

theorem intercalate_splitOnMarkerFrom (fuel : Nat) :
    marker.intercalate (splitOnMarkerFrom marker fuel text) = text := by
  induction fuel generalizing text with
  | zero => simp [splitOnMarkerFrom]
  | succ fuel ih =>
    rw [splitOnMarkerFrom]
    split
    · simp
    · rename_i before after hsplit
      rw [List.intercalate_cons_of_ne_nil (splitOnMarkerFrom_ne_nil fuel), ih,
        append_of_splitAtMarker? hsplit]

/-- The pieces make the text up again. -/
theorem intercalate_splitOnMarker (marker text : List Char) :
    marker.intercalate (splitOnMarker marker text) = text :=
  intercalate_splitOnMarkerFrom text.length

theorem length_le_intercalate {c : Char} {rest : List Char} :
    pieces.length ≤ ((c :: rest).intercalate pieces).length + 1 := by
  induction pieces with
  | nil => simp
  | cons piece others ih =>
    by_cases hothers : others = []
    · simp [hothers]
    · rw [List.intercalate_cons_of_ne_nil hothers]
      simp only [List.length_cons, List.length_append]
      omega

theorem splitOnMarkerFrom_intercalate {c : Char} {rest : List Char} {fuel : Nat}
    (hpieces : ∀ piece ∈ pieces, c ∉ piece) (hne : pieces ≠ []) (hfuel : pieces.length ≤ fuel + 1) :
    splitOnMarkerFrom (c :: rest) fuel ((c :: rest).intercalate pieces) = pieces := by
  induction pieces generalizing fuel with
  | nil => exact absurd rfl hne
  | cons piece others ih =>
    have hpiece := hpieces piece List.mem_cons_self
    by_cases hothers : others = []
    · subst hothers
      cases fuel <;> simp [splitOnMarkerFrom, splitAtMarker?_of_notMem hpiece]
    · have hlength := List.length_pos_iff.mpr hothers
      rw [List.length_cons] at hfuel
      obtain ⟨fuel, rfl⟩ : ∃ less, fuel = less + 1 := ⟨fuel - 1, by omega⟩
      rw [List.intercalate_cons_of_ne_nil hothers, splitOnMarkerFrom, splitAtMarker?_append hpiece]
      simp only
      rw [ih (fun other hother => hpieces other (List.mem_cons_of_mem _ hother)) hothers (by omega)]

/-- Pieces without the first character of the marker are found again. -/
theorem splitOnMarker_intercalate {c : Char} {rest : List Char}
    (hpieces : ∀ piece ∈ pieces, c ∉ piece) (hne : pieces ≠ []) :
    splitOnMarker (c :: rest) ((c :: rest).intercalate pieces) = pieces :=
  splitOnMarkerFrom_intercalate hpieces hne length_le_intercalate

/-- Between single characters a text is cut as the library cuts lists. -/
theorem splitOn_eq (separator : Char) (text : List Char) :
    splitOn separator text = text.splitOn separator := by
  rw [splitOn, List.splitOn_eq_splitOnP]
  induction text with
  | nil => simp [splitWhere]
  | cons c rest ih =>
    rw [splitWhere, List.splitOnP_cons_eq_if_modifyHead, ih]
    split
    · rfl
    · cases hrest : List.splitOnP (· == separator) rest with
      | nil => exact absurd hrest (List.splitOnP_ne_nil _ _)
      | cons piece pieces => rfl

/-- A text without the separator is one piece. -/
theorem splitOn_of_notMem {separator : Char} (h : separator ∉ text) :
    splitOn separator text = [text] := by
  unfold splitOn
  induction text with
  | nil => rfl
  | cons c rest ih =>
    rw [List.mem_cons, not_or] at h
    rw [splitWhere, ih h.2]
    simp [Ne.symm h.1]

theorem notMem_of_mem_splitOn {separator : Char} {piece : List Char}
    (h : piece ∈ splitOn separator text) : separator ∉ piece := by
  unfold splitOn at h
  induction text generalizing piece with
  | nil => simp_all [splitWhere]
  | cons c rest ih =>
    rw [splitWhere] at h
    split at h
    · rcases List.mem_cons.mp h with rfl | hrest
      · simp
      · exact ih hrest
    · rename_i hc
      split at h
      · rename_i hnil
        exact absurd hnil (splitWhere_ne_nil _ _)
      · rename_i first others hpieces
        rw [hpieces] at ih
        rcases List.mem_cons.mp h with rfl | hothers
        · rw [List.mem_cons, not_or]
          exact ⟨fun hsame => hc (by simp [hsame]), ih List.mem_cons_self⟩
        · exact ih (List.mem_cons_of_mem _ hothers)

theorem map_trimEnd_splitOn {separator : Char} {gap : List Char} (hgap : IsGap gap)
    (hseparator : separator ∉ gap) :
    (splitOn separator (text ++ gap)).map trimEnd = (splitOn separator text).map trimEnd := by
  induction text with
  | nil =>
    rw [List.nil_append, splitOn_eq, List.splitOn_eq_singleton hseparator]
    have hempty : trimEnd ([] ++ gap) = trimEnd [] := trimEnd_append_gap hgap
    simpa [splitOn, splitWhere] using hempty
  | cons c rest ih =>
    simp only [splitOn, List.cons_append, splitWhere] at ih ⊢
    split
    · simp [ih]
    · cases hlong : splitWhere (· == separator) (rest ++ gap) with
      | nil => exact absurd hlong (splitWhere_ne_nil _ _)
      | cons piece pieces =>
        cases hshort : splitWhere (· == separator) rest with
        | nil => exact absurd hshort (splitWhere_ne_nil _ _)
        | cons other others =>
          rw [hlong, hshort, List.map_cons, List.map_cons, List.cons.injEq] at ih
          rw [List.map_cons, List.map_cons, trimEnd_cons_congr ih.1, ih.2]

theorem map_trim_splitOn_gap {separator : Char} {gap : List Char} (hgap : IsGap gap)
    (hseparator : separator ∉ gap) :
    (splitOn separator (gap ++ text)).map trim = (splitOn separator text).map trim := by
  induction gap with
  | nil => rfl
  | cons c rest ih =>
    rw [isGap_cons] at hgap
    rw [List.mem_cons, not_or] at hseparator
    have hc : (c == separator) = false := by simpa using Ne.symm hseparator.1
    rw [← ih hgap.2 hseparator.2]
    simp only [splitOn, List.cons_append, splitWhere, hc, Bool.false_eq_true, if_false]
    cases hpieces : splitWhere (· == separator) (rest ++ text) with
    | nil => exact absurd hpieces (splitWhere_ne_nil _ _)
    | cons piece pieces =>
      have hpiece : trim ([c] ++ piece) = trim piece := trim_gap_append (by simp [hgap.1])
      rw [List.map_cons, List.map_cons, ← hpiece, List.singleton_append]

/-- Padding around a text is padding of its first and its last piece. -/
theorem map_trim_splitOn_trim {separator : Char} (h : isBlank separator = false) :
    (splitOn separator (trim text)).map trim = (splitOn separator text).map trim := by
  have hfree : ∀ gap : List Char, IsGap gap → separator ∉ gap := by
    intro gap hgap hmem
    simpa [h] using hgap _ hmem
  obtain ⟨before, after, hbefore, hafter, htext⟩ := exists_gaps_trim text
  have hpieces : (splitOn separator (trim text ++ after)).map trimEnd
      = (splitOn separator (trim text)).map trimEnd :=
    map_trimEnd_splitOn hafter (hfree after hafter)
  have hend := congrArg (List.map trimStart) hpieces
  rw [List.map_map, List.map_map] at hend
  conv_rhs => rw [htext, List.append_assoc, map_trim_splitOn_gap hbefore (hfree before hbefore)]
  exact hend.symm

/-- Texts without newlines that are not empty are the lines of the text that they make up. -/
theorem lines_intercalate (h : ∀ piece ∈ pieces, '\n' ∉ piece ∧ piece ≠ []) :
    lines (['\n'].intercalate pieces) = pieces := by
  unfold lines
  by_cases hnil : pieces = []
  · simp [hnil, splitOn, splitWhere]
  · rw [splitOn_eq, List.splitOn_intercalate _ (fun piece hpiece => (h piece hpiece).1) hnil]
    have hlast : pieces.getLast? ≠ some [] := fun hlast =>
      (h [] (List.mem_of_getLast? hlast)).2 rfl
    simp [hlast]

end
end CommandBuffer.Text
