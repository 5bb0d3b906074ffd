import CommandBuffer.Proofs.NameWords

/-! # Snake case is a normal form

The snake form of a name is made in three passes: the vendor suffix is set off, then the digits that
follow a letter, then the words that the case shows. Only the second pass looks for digits, and no
other pass brings a digit next to a letter: words are stretches of the text, and between them stands
an underscore. What comes out are plain words joined by underscores, and in such a text no pass finds
anything to do. So the snake form of a name is the name itself exactly if it has this shape.
-/

namespace CommandBuffer.Text

variable {text piece word : List Char}

/-! ## Words are stretches of the text -/

theorem exists_of_splitWhere (separates : Char → Bool) (text : List Char) :
    ∃ first pieces, splitWhere separates text = first :: pieces ∧ first <+: text ∧
      ∀ piece ∈ pieces, piece <:+: text := by
  induction text with
  | nil => exact ⟨[], [], rfl, List.prefix_rfl, by simp⟩
  | cons c rest ih =>
    obtain ⟨first, pieces, hsplit, hfirst, hpieces⟩ := ih
    have hlater : ∀ piece ∈ pieces, piece <:+: c :: rest :=
      fun piece hpiece => (hpieces piece hpiece).trans (List.suffix_cons c rest).isInfix
    rw [splitWhere, hsplit]
    split
    · exact ⟨[], first :: pieces, rfl, List.nil_prefix, List.forall_mem_cons.mpr
        ⟨hfirst.isInfix.trans (List.suffix_cons c rest).isInfix, hlater⟩⟩
    · exact ⟨c :: first, pieces, rfl, (List.prefix_cons_inj c).mpr hfirst, hlater⟩

theorem isInfix_of_mem_splitWhere {separates : Char → Bool} (h : piece ∈ splitWhere separates text) :
    piece <:+: text := by
  obtain ⟨first, pieces, hsplit, hfirst, hpieces⟩ := exists_of_splitWhere separates text
  rw [hsplit] at h
  rcases List.mem_cons.mp h with rfl | hmem
  · exact hfirst.isInfix
  · exact hpieces piece hmem

theorem isInfix_of_mem_wordsFrom {mode : CaseMode} {start : List Char}
    (h : word ∈ wordsFrom mode start text) : word <:+: start ++ text := by
  fun_induction wordsFrom mode start text with
  | case1 mode start hempty => cases h
  | case2 mode start hfull =>
    rw [List.mem_singleton.mp h, List.append_nil]
  | case3 mode start c =>
    rw [List.mem_singleton.mp h]
  | case4 mode start c next rest hlower ih =>
    rcases List.mem_cons.mp h with rfl | hmem
    · exact ⟨[], next :: rest, by simp⟩
    · exact (ih hmem).trans ⟨start ++ [c], [], by simp⟩
  | case5 mode start c next rest hlower hupper ih =>
    rcases List.mem_cons.mp h with rfl | hmem
    · exact List.infix_append' [] _ _
    · exact (ih hmem).trans ⟨start, [], by simp⟩
  | case6 mode start c next rest hlower hupper ih =>
    simpa using ih h

theorem isInfix_of_mem_words (h : word ∈ words text) : word <:+: text := by
  obtain ⟨piece, hpiece, hword⟩ := List.mem_flatMap.mp h
  exact (isInfix_of_mem_wordsFrom hword).trans (isInfix_of_mem_splitWhere hpiece)

/-! ## Digits apart from letters -/

/-- No letter is directly followed by a digit. -/
def IsSetOff (text : List Char) : Prop :=
  text.IsChain fun c next => c.isAlpha = true → next.isDigit = false

instance (text : List Char) : Decidable (IsSetOff text) :=
  inferInstanceAs (Decidable (List.IsChain _ text))

theorem isDigit_toLower {c : Char} (h : c.isAlphanum = true) : c.toLower.isDigit = c.isDigit :=
  of_isAlphanum (fun c => c.toLower.isDigit = c.isDigit) (by decide) h

/-- An underscore keeps what stands before it apart from what stands behind it. -/
theorem IsSetOff.append_underscore {first second : List Char} (hfirst : IsSetOff first)
    (hsecond : IsSetOff second) : IsSetOff (first ++ '_' :: second) := by
  refine hfirst.append (hsecond.cons fun next _ halpha => absurd halpha (by decide)) ?_
  intro c _ next hnext _
  rw [← Option.some.inj hnext]
  decide

theorem isSetOff_intercalate {pieces : List (List Char)} (h : ∀ piece ∈ pieces, IsSetOff piece) :
    IsSetOff (['_'].intercalate pieces) := by
  induction pieces with
  | nil => exact .nil
  | cons piece pieces ih =>
    obtain ⟨hpiece, hrest⟩ := List.forall_mem_cons.mp h
    cases pieces with
    | nil => simpa using hpiece
    | cons next rest =>
      rw [List.intercalate_cons_cons, List.append_assoc]
      exact hpiece.append_underscore (ih hrest)

theorem IsSetOff.lowerWord (h : IsSetOff word) (hword : ∀ c ∈ word, c.isAlphanum = true) :
    IsSetOff (lowerWord word) := by
  rw [lowerWord_eq fun c hc => toNat_lt_of_isAlphanum (hword c hc)]
  refine (List.isChain_map _).mpr (List.IsChain.imp_of_mem_imp ?_ h)
  intro c next _ hnext hset halpha
  rw [isDigit_toLower (hword next hnext)]
  exact hset (by simpa using halpha)

theorem IsSetOff.snakeForm (h : IsSetOff text) (htext : ∀ c ∈ text, c.toNat < 128) :
    IsSetOff (snakeForm text) := by
  refine isSetOff_intercalate fun piece hpiece => ?_
  obtain ⟨word, hword, rfl⟩ := List.mem_map.mp hpiece
  have hset : IsSetOff word := h.infix (isInfix_of_mem_words hword)
  refine hset.lowerWord fun c hc => ?_
  obtain ⟨hmem, halnum⟩ := mem_of_mem_words hword c hc
  rwa [isAlphanumeric_ascii (htext c hmem)] at halnum

/-! ## Snake case -/

/-- Plain words joined by single underscores, in which no letter is directly followed by a digit. -/
structure IsSnakeCase (text : List Char) : Prop where
  joined : ∃ pieces : List (List Char), (∀ piece ∈ pieces, IsPlainWord piece) ∧
    text = ['_'].intercalate pieces
  setOff : IsSetOff text

theorem isSnakeCase_snakeForm (h : IsSetOff text) (htext : ∀ c ∈ text, c.toNat < 128) :
    IsSnakeCase (snakeForm text) where
  joined := ⟨lowerWords text, fun _ hword => isPlainWord_of_mem_lowerWords htext hword, rfl⟩
  setOff := h.snakeForm htext

theorem IsPlainWord.lowerWord_eq (h : IsPlainWord word) : lowerWord word = word := by
  rw [Text.lowerWord_eq fun c hc => (h.plain c hc).toNat_lt]
  exact (List.map_congr_left fun c hc => (h.plain c hc).toLower_eq).trans (List.map_id' word)

theorem IsSnakeCase.snakeForm_eq (h : IsSnakeCase text) : snakeForm text = text := by
  obtain ⟨pieces, hpieces, rfl⟩ := h.joined
  rw [snakeForm, words_intercalate hpieces,
    List.map_congr_left fun piece hpiece => (hpieces piece hpiece).lowerWord_eq, List.map_id']

theorem IsSnakeCase.isPlainChar (h : IsSnakeCase text) : ∀ c ∈ text, IsPlainChar c ∨ c = '_' := by
  obtain ⟨pieces, hpieces, rfl⟩ := h.joined
  intro c hc
  rcases SignatureFile.mem_intercalate hc with hseparator | ⟨piece, hpiece, hmem⟩
  · exact .inr (List.mem_singleton.mp hseparator)
  · exact .inl ((hpieces piece hpiece).plain c hmem)

end CommandBuffer.Text

namespace CommandBuffer.Naming
open Text

/-! ## Digits of names -/

theorem isAlphabetic_of_isAlpha {c : Char} (h : c.isAlpha = true) : isAlphabetic c = true := by
  have hascii : c.toNat < 128 := toNat_lt_of_isAlphanum (by simp [Char.isAlphanum, h])
  exact (classify_ascii hascii).trans h

/-- What follows a letter does not begin with a digit any more. -/
theorem not_isDigit_of_head?_separateDigits {previous : Char} (h : previous.isAlpha = true)
    {text : List Char} {next : Char} (hnext : next ∈ (separateDigits (some previous) text).head?) :
    next.isDigit = false := by
  cases text with
  | nil => cases hnext
  | cons c rest =>
    rw [separateDigits] at hnext
    split at hnext
    · rw [← Option.some.inj hnext]
      decide
    · rename_i hfollows
      rw [← Option.some.inj hnext]
      by_contra hdigit
      exact hfollows ⟨by simpa using hdigit, isAlphabetic_of_isAlpha h⟩

theorem isSetOff_separateDigits (previous : Option Char) (text : List Char) :
    IsSetOff (separateDigits previous text) := by
  induction text generalizing previous with
  | nil => exact .nil
  | cons c rest ih =>
    have hrest : IsSetOff (c :: separateDigits (some c) rest) :=
      (ih (some c)).cons fun next hnext halpha => not_isDigit_of_head?_separateDigits halpha hnext
    rw [separateDigits]
    split
    · exact IsSetOff.append_underscore .nil hrest
    · exact hrest

theorem isSetOff_setOff (name : List Char) : IsSetOff (setOff name) := by
  have hvendors : ∀ suffix ∈ vendorSuffixes, IsSetOff suffix := by decide
  rcases setOff_cases name with hwhole | ⟨stem, suffix, hvendor, -, hparts⟩
  · rw [hwhole]
    exact isSetOff_separateDigits none name
  · rw [hparts]
    exact (isSetOff_separateDigits none stem).append_underscore (hvendors suffix hvendor)

/-! ## Names in snake case -/

theorem separateDigits_of_isSetOff {previous : Option Char} {text : List Char}
    (h : IsSetOff (previous.toList ++ text)) (hascii : ∀ c ∈ previous, c.toNat < 128)
    (htext : ∀ c ∈ text, c.toNat < 128) : separateDigits previous text = text := by
  induction text generalizing previous with
  | nil => rfl
  | cons c rest ih =>
    obtain ⟨hc, hrest⟩ := List.forall_mem_cons.mp htext
    have hfollows : ¬ (c.isDigit ∧ previous.any isAlphabetic) := by
      rintro ⟨hdigit, hletter⟩
      obtain ⟨letter, rfl, halpha⟩ := (Option.any_eq_true _ _).mp hletter
      rw [isAlphabetic, classify_ascii (hascii letter rfl)] at halpha
      have hset : c.isDigit = false := (List.isChain_cons_cons.mp h).1 halpha
      rw [hset] at hdigit
      cases hdigit
    have hnext : IsSetOff ((some c).toList ++ rest) := h.right_of_append
    rw [separateDigits, if_neg hfollows, ih hnext (by simpa using hc) hrest]

/-- In a name in snake case there is nothing to set off. -/
theorem setOff_eq {name : List Char} (h : IsSnakeCase name) : setOff name = name := by
  rcases setOff_cases name with hwhole | ⟨stem, suffix, hvendor, rfl, -⟩
  · have hascii : ∀ c ∈ name, c.toNat < 128 := by
      intro c hc
      rcases h.isPlainChar c hc with hplain | rfl
      · exact hplain.toNat_lt
      · decide
    rw [hwhole, separateDigits_of_isSetOff (by simpa using h.setOff) (by simp) hascii]
  · -- The suffix of a vendor has capitals, and a name in snake case has none.
    have hcapital : ∀ suffix ∈ vendorSuffixes, suffix.any Char.isUpper = true := by decide
    obtain ⟨c, hc, hupper⟩ := List.any_eq_true.mp (hcapital suffix hvendor)
    rcases h.isPlainChar c (List.mem_append_right _ hc) with hplain | rfl
    · rw [hplain.isUpper_eq] at hupper
      cases hupper
    · exact absurd hupper (by decide)

theorem snake_of_isSnakeCase {name : List Char} (h : IsSnakeCase name) : snake name = name := by
  rw [snake_eq, setOff_eq h, h.snakeForm_eq]

theorem isSnakeCase_snake {name : List Char} (h : ∀ c ∈ name, IsNameChar c) :
    IsSnakeCase (snake name) := by
  refine isSnakeCase_snakeForm (isSetOff_setOff name) fun c hc => ?_
  rcases isNameChar_setOff h c hc with halnum | rfl
  · exact toNat_lt_of_isAlphanum halnum
  · decide

/-- The snake name of an identifier is in snake case, is its own snake name and has the letters and
digits of the identifier. An identifier is its own snake name exactly if it is in snake case. -/
theorem snakeName_normal_form {name : String} (h : isIdentifier name.toList = true) :
    IsSnakeCase (snakeName name).toList ∧
    snakeName (snakeName name) = snakeName name ∧
    (snakeName name = name ↔ IsSnakeCase name.toList) ∧
    (snakeName name).toList.filter (· != '_') = letters name.toList := by
  have hname := isNameChar_of_isIdentifier h
  have htext : (snakeName name).toList = snake name.toList := String.toList_ofList
  have hkept : ∀ {text : String}, IsSnakeCase text.toList → snakeName text = text := by
    intro text htext
    rw [snakeName, snake_of_isSnakeCase htext, String.ofList_toList]
  have hsnake : IsSnakeCase (snakeName name).toList := htext ▸ isSnakeCase_snake hname
  refine ⟨hsnake, hkept hsnake, ⟨fun hsame => ?_, hkept⟩, ?_⟩
  · rw [← hsame]
    exact hsnake
  · rw [htext, filter_snake hname]

/-- A function with an acronym, a number and the suffix of a vendor. -/
theorem snakeName_normal_form_bindTexImage :
    isIdentifier "BindGLTexImage2DCHROMIUM".toList = true ∧
    snakeName "BindGLTexImage2DCHROMIUM" = "bind_gl_tex_image_2d_chromium" ∧
    IsSnakeCase "bind_gl_tex_image_2d_chromium".toList ∧
    snakeName "bind_gl_tex_image_2d_chromium" = "bind_gl_tex_image_2d_chromium" ∧
    ¬ IsSnakeCase "BindGLTexImage2DCHROMIUM".toList := by
  have hname : isIdentifier "BindGLTexImage2DCHROMIUM".toList = true := by decide
  have hsnake : snakeName "BindGLTexImage2DCHROMIUM" = "bind_gl_tex_image_2d_chromium" := by
    decide +kernel
  obtain ⟨hcase, hagain, hself, -⟩ := snakeName_normal_form hname
  rw [hsnake] at hcase hagain hself
  exact ⟨hname, hsnake, hcase, hagain, fun h => absurd (hself.mpr h) (by decide)⟩

end CommandBuffer.Naming
