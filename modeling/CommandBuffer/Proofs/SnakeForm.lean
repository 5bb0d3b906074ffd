import CommandBuffer.Naming

/-! # Letters of the snake form

The snake form cuts a name into words, writes them in lowercase and sets underscores between them. It
loses no letter and no digit: without its underscores the snake form is the name in lowercase. So two
names of one snake form have the same letters and digits, up to their case and their underscores.
-/

namespace CommandBuffer.Text

/-! ## Cutting loses only separators -/

theorem flatten_splitWhere (separates : Char → Bool) (text : List Char) :
    (splitWhere separates text).flatten = text.filter (!separates ·) := by
  induction text with
  | nil => rfl
  | cons c rest ih =>
    rw [splitWhere]
    by_cases hc : separates c = true
    · simp [hc, ih]
    · rw [if_neg hc]
      split
      · rename_i hpieces
        exact absurd hpieces (splitWhere_ne_nil _ _)
      · rename_i piece pieces hpieces
        rw [hpieces] at ih
        simp only [List.flatten_cons] at ih
        simp [hc, ← ih]

theorem flatten_wordsFrom (mode : CaseMode) (word text : List Char) :
    (wordsFrom mode word text).flatten = word ++ text := by
  fun_induction wordsFrom mode word text with
  | case1 mode word hword => simpa using hword.symm
  | case2 mode word hword => simp
  | case3 mode word c => simp
  | case4 mode word c next rest hlower ih => simp [ih]
  | case5 mode word c next rest hlower hupper ih => simp [ih]
  | case6 mode word c next rest hlower hupper ih => simp [ih]

theorem flatten_words (text : List Char) : (words text).flatten = text.filter isAlphanumeric := by
  have hpieces : ∀ pieces : List (List Char),
      (pieces.flatMap (wordsFrom .boundary [])).flatten = pieces.flatten := by
    intro pieces
    induction pieces with
    | nil => rfl
    | cons piece pieces ih => simp [flatten_wordsFrom, ih]
  rw [words, hpieces, flatten_splitWhere]
  simp

/-! ## Lowercase -/

/-- A letter, a digit or an underscore, all ASCII. -/
def IsNameChar (c : Char) : Prop := c.isAlphanum = true ∨ c = '_'

theorem toNat_lt_of_isAlphanum {c : Char} (h : c.isAlphanum = true) : c.toNat < 128 := by
  unfold Char.isAlphanum Char.isAlpha Char.isUpper Char.isLower Char.isDigit at h
  simp only [Bool.or_eq_true, Bool.and_eq_true, decide_eq_true_eq, ge_iff_le,
    UInt32.le_iff_toNat_le] at h
  have hvalue : c.toNat = c.val.toNat := rfl
  have hupper : 'Z'.val.toNat = 90 := rfl
  have hlower : 'z'.val.toNat = 122 := rfl
  have hdigit : '9'.val.toNat = 57 := rfl
  omega

/-- What holds of the letters and digits of the ASCII block holds of each of them. -/
theorem of_isAlphanum (p : Char → Prop) (hall : ∀ point < 128, (Char.ofNat point).isAlphanum = true →
    p (Char.ofNat point)) {c : Char} (h : c.isAlphanum = true) : p c := by
  have hc := hall c.toNat (toNat_lt_of_isAlphanum h)
  rw [Char.ofNat_toNat] at hc
  exact hc h

theorem isAlphanum_toLower {c : Char} (h : c.isAlphanum = true) : c.toLower.isAlphanum = true :=
  of_isAlphanum (fun c => c.toLower.isAlphanum = true) (by decide) h

theorem lowerWord_eq {word : List Char} (h : ∀ c ∈ word, c.toNat < 128) :
    lowerWord word = word.map Char.toLower := by
  induction word with
  | nil => rfl
  | cons c rest ih =>
    have hc : c.toNat < 128 := h c List.mem_cons_self
    have hsigma : c ≠ 'Σ' := by
      rintro rfl
      exact absurd hc (by decide)
    rw [lowerWord, if_neg (by simp [hsigma]), toLowercase_ascii hc,
      ih fun other hother => h other (List.mem_cons_of_mem _ hother)]
    rfl

/-- Separators of one kind are all that joining adds. -/
theorem filter_intercalate {p : Char → Bool} {separator : Char} (hseparator : p separator = false)
    (pieces : List (List Char)) :
    (List.intercalate [separator] pieces).filter p = pieces.flatten.filter p := by
  induction pieces with
  | nil => rfl
  | cons piece pieces ih =>
    cases pieces with
    | nil => simp
    | cons next rest => rw [List.intercalate_cons_cons]; simp_all

/-- Without its underscores the snake form of a text is the text in lowercase. -/
theorem filter_snakeForm {text : List Char} (h : ∀ c ∈ text, IsNameChar c) :
    (snakeForm text).filter (· != '_') = (text.filter (· != '_')).map Char.toLower := by
  have hkept : text.filter isAlphanumeric = text.filter (· != '_') := by
    refine List.filter_congr fun c hc => ?_
    rcases h c hc with halnum | rfl
    · have hne : c ≠ '_' := by
        rintro rfl
        exact absurd halnum (by decide)
      rw [isAlphanumeric_ascii (toNat_lt_of_isAlphanum halnum), halnum]
      simp [hne]
    · rw [isAlphanumeric_ascii (by decide)]
      decide
  have hletters : ∀ c ∈ (words text).flatten, c.isAlphanum = true := by
    intro c hc
    rw [flatten_words, hkept, List.mem_filter] at hc
    rcases h c hc.1 with halnum | rfl
    · exact halnum
    · exact absurd hc.2 (by decide)
  have hlower : (words text).map lowerWord = (words text).map (List.map Char.toLower) := by
    refine List.map_congr_left fun word hword => lowerWord_eq fun c hc => ?_
    exact toNat_lt_of_isAlphanum (hletters c (List.mem_flatten.mpr ⟨word, hword, hc⟩))
  rw [snakeForm, filter_intercalate (by decide), hlower, ← List.map_flatten, List.filter_eq_self.mpr,
    flatten_words, hkept]
  intro c hc
  obtain ⟨letter, hletter, rfl⟩ := List.mem_map.mp hc
  have halnum := isAlphanum_toLower (hletters letter hletter)
  simp only [bne_iff_ne, ne_eq]
  rintro hunderscore
  rw [hunderscore] at halnum
  exact absurd halnum (by decide)

end CommandBuffer.Text

namespace CommandBuffer.Naming
open Text

/-! ## Names -/

theorem isNameChar_of_isIdentifier {name : List Char} (h : isIdentifier name = true) :
    ∀ c ∈ name, IsNameChar c := by
  intro c hc
  unfold isIdentifier at h
  split at h
  · cases h
  · rename_i first rest
    simp only [Bool.and_eq_true, Bool.or_eq_true, beq_iff_eq, List.all_eq_true] at h
    rcases List.mem_cons.mp hc with rfl | hrest
    · exact h.1.imp (fun halpha => by rw [Char.isAlphanum, halpha, Bool.true_or]) id
    · exact h.2 c hrest

/-- The letters and digits of a name, in lowercase. -/
def letters (name : List Char) : List Char := (name.filter (· != '_')).map Char.toLower

theorem letters_append (first second : List Char) :
    letters (first ++ second) = letters first ++ letters second := by
  simp [letters]

theorem filter_separateDigits (previous : Option Char) (text : List Char) :
    (separateDigits previous text).filter (· != '_') = text.filter (· != '_') := by
  induction text generalizing previous with
  | nil => rfl
  | cons c rest ih =>
    rw [separateDigits]
    split
    · simp only [List.filter_cons, ih]
      simp
    · simp only [List.filter_cons, ih]

theorem isNameChar_separateDigits {text : List Char} (h : ∀ c ∈ text, IsNameChar c)
    (previous : Option Char) : ∀ c ∈ separateDigits previous text, IsNameChar c := by
  induction text generalizing previous with
  | nil => exact h
  | cons c rest ih =>
    have hc := h c List.mem_cons_self
    have hrest := ih (fun other hother => h other (List.mem_cons_of_mem _ hother)) (some c)
    rw [separateDigits]
    split
    · exact List.forall_mem_cons.mpr ⟨.inr rfl, List.forall_mem_cons.mpr ⟨hc, hrest⟩⟩
    · exact List.forall_mem_cons.mpr ⟨hc, hrest⟩

/-- A stem that is found is what stands before the suffix. -/
theorem append_of_stem? {name suffix stem : List Char} (h : stem? name suffix = some stem) :
    name = stem ++ suffix := by
  unfold stem? at h
  split at h
  · rename_i hsuffix
    cases h
    obtain ⟨start, rfl⟩ := List.isSuffixOf_iff_suffix.mp hsuffix.1
    simp
  · cases h

/-- The name with underscores before its suffix and before every digit that follows a letter. -/
def setOff (name : List Char) : List Char :=
  separateDigits none (splitVendorSuffix name).1
    ++ ((splitVendorSuffix name).2.map ('_' :: ·)).getD []

theorem snake_eq (name : List Char) : snake name = snakeForm (setOff name) := rfl

/-- A name has no suffix, or it consists of its stem and of the suffix of a vendor. -/
theorem setOff_cases (name : List Char) :
    setOff name = separateDigits none name ∨
      ∃ stem suffix, suffix ∈ vendorSuffixes ∧ name = stem ++ suffix ∧
        setOff name = separateDigits none stem ++ '_' :: suffix := by
  unfold setOff splitVendorSuffix
  split
  · rename_i stem suffix hfound
    obtain ⟨candidate, hvendor, hcandidate⟩ := List.exists_of_findSome?_eq_some hfound
    obtain ⟨found, hstem, hpair⟩ := Option.map_eq_some_iff.mp hcandidate
    cases hpair
    exact .inr ⟨stem, suffix, hvendor, append_of_stem? hstem, rfl⟩
  · exact .inl (List.append_nil _)

theorem filter_setOff (name : List Char) :
    (setOff name).filter (· != '_') = name.filter (· != '_') := by
  rcases setOff_cases name with hwhole | ⟨stem, suffix, -, rfl, hparts⟩
  · rw [hwhole, filter_separateDigits]
  · rw [hparts, List.filter_append, filter_separateDigits, List.filter_append]
    simp

theorem isNameChar_setOff {name : List Char} (h : ∀ c ∈ name, IsNameChar c) :
    ∀ c ∈ setOff name, IsNameChar c := by
  rcases setOff_cases name with hwhole | ⟨stem, suffix, -, rfl, hparts⟩
  · rw [hwhole]
    exact isNameChar_separateDigits h none
  · obtain ⟨hstem, hsuffix⟩ := List.forall_mem_append.mp h
    rw [hparts, List.forall_mem_append, List.forall_mem_cons]
    exact ⟨isNameChar_separateDigits hstem none, .inr rfl, hsuffix⟩

/-- Without its underscores the snake form of a name is the name in lowercase. -/
theorem filter_snake {name : List Char} (h : ∀ c ∈ name, IsNameChar c) :
    (snake name).filter (· != '_') = letters name := by
  rw [snake_eq, filter_snakeForm (isNameChar_setOff h), filter_setOff, letters]

theorem isNameChar_snake {name : List Char} (h : ∀ c ∈ name, IsNameChar c) :
    ∀ c ∈ snake name, IsNameChar c := by
  intro c hc
  by_cases hunderscore : c = '_'
  · exact .inr hunderscore
  · have hmem : c ∈ letters name := by
      rw [← filter_snake h]
      exact List.mem_filter.mpr ⟨hc, by simpa using hunderscore⟩
    obtain ⟨letter, hletter, rfl⟩ := List.mem_map.mp hmem
    obtain ⟨hname, hnot⟩ := List.mem_filter.mp hletter
    rcases h letter hname with halnum | rfl
    · exact .inl (isAlphanum_toLower halnum)
    · exact absurd hnot (by decide)

end CommandBuffer.Naming
