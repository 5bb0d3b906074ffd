import CommandBuffer.Proofs.Names
import CommandBuffer.Proofs.SnakeForm

/-! # Words that can be names

An ASCII identifier is a name as it stands, and its escaped form is one unless it is the placeholder
or a keyword without a raw form. What a generator puts in front of names or behind them keeps them
identifiers.
-/

namespace CommandBuffer.Code.Name

open Text Naming

/-- The words that no spelling makes a name. -/
def unusable : List String := "_" :: unescapable

variable {text : String}

theorem isIdentifierContinue_of_isNameChar {c : Char} (h : IsNameChar c) :
    isIdentifierContinue c = true := by
  rcases h with halnum | rfl
  · rw [isIdentifierContinue, classify_ascii (toNat_lt_of_isAlphanum halnum), halnum]
    rfl
  · decide

theorem isIdentifierStart_of_isNameChar {c : Char} (h : IsNameChar c) :
    isIdentifierStart c = (c.isAlpha || c == '_') := by
  rcases h with halnum | rfl
  · rw [isIdentifierStart, classify_ascii (toNat_lt_of_isAlphanum halnum)]
  · decide

/-- Among letters, digits and underscores of ASCII, to be read as an identifier is to be one. -/
theorem isIdentifierText_of_isNameChar {name : List Char} (h : ∀ c ∈ name, IsNameChar c) :
    isIdentifierText name = isIdentifier name := by
  cases name with
  | nil => rfl
  | cons c rest =>
    rw [List.forall_mem_cons] at h
    have hrest : (rest.all fun c => c.isAlphanum || c == '_') = true := by
      rw [List.all_eq_true]
      intro other hother
      rw [Bool.or_eq_true, beq_iff_eq]
      exact h.2 other hother
    have hread : rest.all isIdentifierContinue = true :=
      List.all_eq_true.mpr fun other hother =>
        isIdentifierContinue_of_isNameChar (h.2 other hother)
    rw [isIdentifierText, isIdentifier, isIdentifierStart_of_isNameChar h.1, hrest, hread]

theorem isUnmarked_of_isNameChar (h : ∀ c ∈ text.toList, IsNameChar c) : IsUnmarked text :=
  fun hmark => absurd (h _ hmark) (by unfold IsNameChar; decide)

/-- No raw mark stands in front of an unmarked text. -/
theorem afterRawMark?_of_isUnmarked (h : IsUnmarked text) : afterRawMark? text.toList = none := by
  unfold afterRawMark?
  split
  · rename_i hmark
    obtain ⟨rest, hrest⟩ := List.isPrefixOf_iff_prefix.mp hmark
    refine absurd ?_ h
    rw [← hrest]
    exact List.mem_append_left _ (by decide)
  · rfl

theorem isSpelling_of_isNameChar (h : ∀ c ∈ text.toList, IsNameChar c) :
    isSpelling text.toList = isIdentifier text.toList := by
  rw [isSpelling, afterRawMark?_of_isUnmarked (isUnmarked_of_isNameChar h)]
  exact isIdentifierText_of_isNameChar h

theorem isPossible_verbatim (h : isIdentifier text.toList = true) :
    (verbatim text).isPossible = true :=
  (isSpelling_of_isNameChar (isNameChar_of_isIdentifier h)).trans h

/-- A text of letters, digits and underscores is a name, possibly in its raw form, if it is an
identifier and none of the unusable words. -/
theorem isPossible_escaped_iff_of_isNameChar (h : ∀ c ∈ text.toList, IsNameChar c) :
    (escaped text).isPossible = true ↔ isIdentifier text.toList = true ∧ text ∉ unusable := by
  have hplaceholder : "_" ∉ keywords := by decide
  have hwords : ∀ word ∈ unescapable, word ∈ keywords := by decide
  have hidentifiers : ∀ word ∈ keywords, isIdentifier word.toList = true := by decide
  rw [isPossible, unusable]
  split
  · rename_i hkeyword
    have hne : text ≠ "_" := by
      rintro rfl
      exact hplaceholder hkeyword
    rw [decide_eq_true_iff, List.mem_cons, not_or]
    exact ⟨fun hescapable => ⟨hidentifiers text hkeyword, hne, hescapable⟩, fun h => h.2.2⟩
  · rename_i hfree
    rw [Bool.and_eq_true, bne_iff_ne, List.mem_cons, not_or, isSpelling_of_isNameChar h, and_comm]
    exact and_congr_right fun _ =>
      (and_iff_left fun hword => hfree (hwords text hword)).symm

theorem isPossible_escaped_iff (h : isIdentifier text.toList = true) :
    (escaped text).isPossible = true ↔ text ∉ unusable :=
  (isPossible_escaped_iff_of_isNameChar (isNameChar_of_isIdentifier h)).trans (and_iff_right h)

/-! ## Putting names together -/

theorem isIdentifier_append {first second : List Char} (hfirst : isIdentifier first = true)
    (hsecond : ∀ c ∈ second, IsNameChar c) : isIdentifier (first ++ second) = true := by
  unfold isIdentifier at hfirst
  split at hfirst
  · cases hfirst
  · rename_i c rest
    rw [Bool.and_eq_true, List.all_eq_true] at hfirst
    rw [List.cons_append, isIdentifier, Bool.and_eq_true, List.all_append, Bool.and_eq_true,
      List.all_eq_true, List.all_eq_true]
    refine ⟨hfirst.1, hfirst.2, fun other hother => ?_⟩
    rw [Bool.or_eq_true, beq_iff_eq]
    exact hsecond other hother

/-- A word with an underscore is no keyword. -/
theorem isBare_of_underscore (h : '_' ∈ text.toList) (hne : text ≠ "_") :
    (verbatim text).isBare = false := by
  have hwords : ∀ word ∈ keywords, '_' ∉ word.toList := by decide
  rw [isBare, Bool.or_eq_false_iff, decide_eq_false_iff_not, beq_eq_false_iff_ne]
  exact ⟨fun hkeyword => hwords text hkeyword h, hne⟩

/-- Behind a word with an underscore, nothing makes a keyword. -/
theorem isBare_of_start {start : String} (hmark : '_' ∈ start.toList)
    (hlong : 1 < start.toList.length) : (verbatim (start ++ text)).isBare = false := by
  refine isBare_of_underscore ?_ fun hplaceholder => ?_
  · rw [String.toList_append]
    exact List.mem_append_left _ hmark
  · have hlength := congrArg (List.length ∘ String.toList) hplaceholder
    rw [Function.comp_apply, String.toList_append, List.length_append] at hlength
    change start.toList.length + text.toList.length = 1 at hlength
    omega

/-- A word that ends like no keyword is none. -/
theorem isBare_append {suffix : String}
    (h : ∀ word ∈ "_" :: keywords, ¬ suffix.toList <:+ word.toList) :
    (verbatim (text ++ suffix)).isBare = false := by
  have hsuffix : suffix.toList <:+ (text ++ suffix).toList := by
    rw [String.toList_append]
    exact List.suffix_append _ _
  rw [isBare, Bool.or_eq_false_iff, decide_eq_false_iff_not, beq_eq_false_iff_ne]
  exact ⟨fun hkeyword => h _ (List.mem_cons_of_mem _ hkeyword) hsuffix,
    fun hplaceholder => h _ (List.mem_cons.mpr (.inl hplaceholder)) hsuffix⟩

/-- The snake form of an identifier consists of characters of names. -/
theorem isNameChar_snakeName (h : isIdentifier text.toList = true) :
    ∀ c ∈ (snakeName text).toList, IsNameChar c := by
  rw [snakeName, String.toList_ofList]
  exact isNameChar_snake (isNameChar_of_isIdentifier h)

/-- Behind a word of the generator, the snake form of an identifier makes a name. -/
theorem isPossible_append_snakeName {start : String} (hstart : isIdentifier start.toList = true)
    (h : isIdentifier text.toList = true) :
    (verbatim (start ++ snakeName text)).isPossible = true := by
  refine isPossible_verbatim ?_
  rw [String.toList_append]
  exact isIdentifier_append hstart (isNameChar_snakeName h)

end CommandBuffer.Code.Name
