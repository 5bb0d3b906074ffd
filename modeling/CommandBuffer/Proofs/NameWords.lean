import CommandBuffer.Proofs.Signature.Grammar
import CommandBuffer.Proofs.SnakeForm
import CommandBuffer.Proofs.Text.Cutting
import Mathlib

/-! # Names of the same words

The snake form of a name shows its words in lowercase and where one ends and the next begins, so two
names have one snake form exactly if they have the same words but for their case. The camel form of a
snake form shows where a word begins only by its capital, and a digit has none: two such forms are
equal exactly if the words are, once every word that begins with a digit is joined to the one before.
-/

namespace CommandBuffer.Text

/-- The words of a text in lowercase. -/
def lowerWords (text : List Char) : List (List Char) := (words text).map lowerWord

/-! ## Words -/

theorem ne_nil_of_mem_wordsFrom {mode : CaseMode} {start text : List Char}
    (hstart : mode ≠ .boundary → start ≠ []) : ∀ word ∈ wordsFrom mode start text, word ≠ [] := by
  fun_induction wordsFrom mode start text with
  | case1 mode start hempty => simp
  | case2 mode start hfull => simpa using hfull
  | case3 mode start c => simp
  | case4 mode start c next rest hlower ih =>
    exact List.forall_mem_cons.mpr ⟨by simp, ih fun h => absurd rfl h⟩
  | case5 mode start c next rest hlower hupper ih =>
    exact List.forall_mem_cons.mpr ⟨hstart (by simp [hupper.1]), ih fun _ => by simp⟩
  | case6 mode start c next rest hlower hupper ih => exact ih fun _ => by simp

theorem ne_nil_of_mem_words {text word : List Char} (h : word ∈ words text) : word ≠ [] := by
  obtain ⟨piece, -, hword⟩ := List.mem_flatMap.mp h
  exact ne_nil_of_mem_wordsFrom (fun h => absurd rfl h) word hword

/-- The characters of words are the letters and digits of the text. -/
theorem mem_of_mem_words {text word : List Char} (h : word ∈ words text) :
    ∀ c ∈ word, c ∈ text ∧ isAlphanumeric c = true := by
  intro c hc
  have hmem : c ∈ (words text).flatten := List.mem_flatten.mpr ⟨word, h, hc⟩
  rw [flatten_words] at hmem
  exact List.mem_filter.mp hmem

/-! ## Lowercase -/

/-- A letter beyond ASCII becomes no sign and no digit of the ASCII block. -/
theorem lt_toNat_of_mem_toLowercase {c letter : Char} (hc : 128 ≤ c.toNat)
    (h : letter ∈ toLowercase c) : 0x60 < letter.toNat := by
  have hruns : ∀ run ∈ lowerRuns, 0x60 < run.1 + run.2.2.2 ∧ (run.2.1 + run.2.2.2 < 0xd800 ∨
      0xdfff < run.1 + run.2.2.2 ∧ run.2.1 + run.2.2.2 < 0x110000) := by decide +kernel
  rw [toLowercase, if_neg (by omega), mapCase] at h
  split at h
  · rename_i image himage
    rw [lowerSequences, List.lookup] at himage
    split at himage
    · cases himage
      rcases List.mem_pair.mp h with rfl | rfl <;> decide
    · cases himage
  · rw [List.mem_singleton] at h
    cases hfound : lowerRuns.findSome? (CaseRun.image? c.toNat) with
    | none =>
      rw [hfound, Option.getD_none, Char.ofNat_toNat] at h
      rw [h]
      omega
    | some image =>
      obtain ⟨⟨first, last, step, offset⟩, hrun, himage⟩ := List.exists_of_findSome?_eq_some hfound
      obtain ⟨hlow, hvalid⟩ := hruns _ hrun
      simp only [CaseRun.image?, Option.ite_none_right_eq_some, Option.some.injEq] at himage hlow hvalid
      obtain ⟨⟨hfirst, hlast, -⟩, rfl⟩ := himage
      rw [hfound, Option.getD_some] at h
      rw [h, Char.toNat_ofNat, if_pos (by simp only [Nat.isValidChar]; omega)]
      omega

theorem toLowercase_ne_nil (c : Char) : toLowercase c ≠ [] := by
  unfold toLowercase
  split
  · simp
  · unfold mapCase
    split
    · rename_i image himage
      rw [lowerSequences, List.lookup] at himage
      split at himage <;> cases himage
      simp
    · simp

theorem lowerWord_ne_nil {word : List Char} (h : word ≠ []) : lowerWord word ≠ [] := by
  cases word with
  | nil => exact absurd rfl h
  | cons c rest =>
    rw [lowerWord]
    split <;> simp [toLowercase_ne_nil]

/-- Signs of the ASCII block do not come up in lowercase words. -/
theorem notMem_lowerWord {mark : Char} (hmark : mark.isAlphanum = false) (hlow : mark.toNat ≤ 0x60)
    {word : List Char} (h : ∀ c ∈ word, isAlphanumeric c = true) : mark ∉ lowerWord word := by
  have hletter : ∀ c, isAlphanumeric c = true → mark ∉ toLowercase c := by
    intro c hc hmem
    by_cases hascii : c.toNat < 128
    · rw [isAlphanumeric_ascii hascii] at hc
      rw [toLowercase_ascii hascii, List.mem_singleton] at hmem
      rw [hmem, isAlphanum_toLower hc] at hmark
      cases hmark
    · have hhigh := lt_toNat_of_mem_toLowercase (by omega) hmem
      omega
  induction word with
  | nil => simp [lowerWord]
  | cons c rest ih =>
    obtain ⟨hc, hrest⟩ := List.forall_mem_cons.mp h
    rw [lowerWord, List.mem_append, not_or]
    refine ⟨?_, ih hrest⟩
    split
    · rw [List.mem_singleton]
      rintro rfl
      exact absurd hlow (by decide)
    · exact hletter c hc

/-! ## Snake forms -/

/-- Pieces can be read off a text that separates them by a character of none of them. -/
theorem intercalate_inj {mark : Char} {pieces others : List (List Char)}
    (hpieces : ∀ piece ∈ pieces, mark ∉ piece ∧ piece ≠ [])
    (hothers : ∀ piece ∈ others, mark ∉ piece ∧ piece ≠ [])
    (h : [mark].intercalate pieces = [mark].intercalate others) : pieces = others := by
  have hnil : ∀ {pieces : List (List Char)}, (∀ piece ∈ pieces, mark ∉ piece ∧ piece ≠ []) →
      [mark].intercalate pieces = [] → pieces = [] := by
    intro pieces hpieces hempty
    rw [List.eq_nil_iff_forall_not_mem]
    intro piece hpiece
    obtain ⟨c, hc⟩ := List.exists_mem_of_ne_nil _ (hpieces piece hpiece).2
    have hcut := List.splitOn_intercalate mark (fun l hl => (hpieces l hl).1)
      (List.ne_nil_of_mem hpiece)
    rw [hempty, List.splitOn_nil] at hcut
    rw [← hcut, List.mem_singleton] at hpiece
    rw [hpiece] at hc
    cases hc
  by_cases hempty : pieces = []
  · subst hempty
    exact (hnil hothers h.symm).symm
  · have hfull : others ≠ [] := by
      rintro rfl
      exact hempty (hnil hpieces h)
    rw [← List.splitOn_intercalate mark (fun l hl => (hpieces l hl).1) hempty, h,
      List.splitOn_intercalate mark (fun l hl => (hothers l hl).1) hfull]

theorem notMem_of_mem_lowerWords {mark : Char} (hmark : mark.isAlphanum = false)
    (hlow : mark.toNat ≤ 0x60) {text word : List Char} (h : word ∈ lowerWords text) :
    mark ∉ word := by
  obtain ⟨word, hword, rfl⟩ := List.mem_map.mp h
  exact notMem_lowerWord hmark hlow fun c hc => (mem_of_mem_words hword c hc).2

theorem ne_nil_of_mem_lowerWords {text word : List Char} (h : word ∈ lowerWords text) :
    word ≠ [] := by
  obtain ⟨word, hword, rfl⟩ := List.mem_map.mp h
  exact lowerWord_ne_nil (ne_nil_of_mem_words hword)

/-- Texts have one snake form exactly if they have the same words but for their case. -/
theorem snakeForm_eq_iff {first second : List Char} :
    snakeForm first = snakeForm second ↔ lowerWords first = lowerWords second := by
  have hpieces : ∀ text : List Char, ∀ word ∈ lowerWords text, '_' ∉ word ∧ word ≠ [] :=
    fun text word hword => ⟨notMem_of_mem_lowerWords (by decide) (by decide) hword,
      ne_nil_of_mem_lowerWords hword⟩
  exact ⟨intercalate_inj (hpieces first) (hpieces second), congrArg _⟩

theorem notMem_snakeForm {mark : Char} (hmark : mark.isAlphanum = false) (hlow : mark.toNat ≤ 0x60)
    (hne : mark ≠ '_') (text : List Char) : mark ∉ snakeForm text := by
  intro hmem
  have hfilter : mark ∈ (snakeForm text).filter (· != '_') :=
    List.mem_filter.mpr ⟨hmem, by simpa using hne⟩
  rw [snakeForm, filter_intercalate (by decide), List.mem_filter] at hfilter
  obtain ⟨word, hword, hc⟩ := List.mem_flatten.mp hfilter.1
  exact notMem_of_mem_lowerWords hmark hlow hword hc

/-! ## Words of ASCII texts -/

/-- A lowercase letter or a digit, both ASCII. -/
def IsPlainChar (c : Char) : Prop := c.isLower = true ∨ c.isDigit = true

instance (c : Char) : Decidable (IsPlainChar c) := inferInstanceAs (Decidable (_ ∨ _))

/-- A word of lowercase letters and digits. -/
structure IsPlainWord (word : List Char) : Prop where
  ne_nil : word ≠ []
  plain : ∀ c ∈ word, IsPlainChar c

namespace IsPlainChar

variable {c : Char}

theorem isAlphanum (h : IsPlainChar c) : c.isAlphanum = true := by
  rcases h with h | h <;> simp [Char.isAlphanum, Char.isAlpha, h]

theorem toNat_lt (h : IsPlainChar c) : c.toNat < 128 := toNat_lt_of_isAlphanum h.isAlphanum

theorem toLower_eq (h : IsPlainChar c) : c.toLower = c :=
  of_isAlphanum (fun c => IsPlainChar c → c.toLower = c) (by decide) h.isAlphanum h

theorem isUpper_eq (h : IsPlainChar c) : c.isUpper = false :=
  of_isAlphanum (fun c => IsPlainChar c → c.isUpper = false) (by decide) h.isAlphanum h

theorem isUpper_toUpper (h : IsPlainChar c) (hletter : c.isDigit = false) :
    c.toUpper.isUpper = true :=
  of_isAlphanum (fun c => IsPlainChar c → c.isDigit = false → c.toUpper.isUpper = true) (by decide)
    h.isAlphanum h hletter

theorem toUpper_of_isDigit (h : IsPlainChar c) (hdigit : c.isDigit = true) : c.toUpper = c :=
  of_isAlphanum (fun c => IsPlainChar c → c.isDigit = true → c.toUpper = c) (by decide)
    h.isAlphanum h hdigit

theorem toLower_toUpper (h : IsPlainChar c) : c.toUpper.toLower = c :=
  of_isAlphanum (fun c => IsPlainChar c → c.toUpper.toLower = c) (by decide) h.isAlphanum h

end IsPlainChar

theorem isPlainChar_toLower {c : Char} (h : c.isAlphanum = true) : IsPlainChar c.toLower :=
  of_isAlphanum (fun c => IsPlainChar c.toLower) (by decide) h

/-- The words of an ASCII text are plain once they are in lowercase. -/
theorem isPlainWord_of_mem_lowerWords {text word : List Char} (htext : ∀ c ∈ text, c.toNat < 128)
    (h : word ∈ lowerWords text) : IsPlainWord word := by
  refine ⟨ne_nil_of_mem_lowerWords h, ?_⟩
  obtain ⟨word, hword, rfl⟩ := List.mem_map.mp h
  have hchars := mem_of_mem_words hword
  rw [lowerWord_eq fun c hc => htext c (hchars c hc).1]
  intro c hc
  obtain ⟨letter, hletter, rfl⟩ := List.mem_map.mp hc
  obtain ⟨hmem, halnum⟩ := hchars letter hletter
  rw [isAlphanumeric_ascii (htext letter hmem)] at halnum
  exact isPlainChar_toLower halnum

/-- A plain word is not cut. -/
theorem wordsFrom_plain {mode : CaseMode} {start text : List Char}
    (htext : ∀ c ∈ text, IsPlainChar c) (hne : start ++ text ≠ []) :
    wordsFrom mode start text = [start ++ text] := by
  have hupper : ∀ c, IsPlainChar c → isUppercase c = false := fun c hc =>
    (classify_ascii hc.toNat_lt).trans hc.isUpper_eq
  fun_induction wordsFrom mode start text with
  | case1 mode start hempty => simp_all
  | case2 mode start hfull => simp
  | case3 mode start c => rfl
  | case4 mode start c next rest hlower ih =>
    rw [hupper next (htext next (by simp))] at hlower
    exact absurd hlower.2 (by simp)
  | case5 mode start c next rest hlower hcapital ih =>
    rw [hupper c (htext c (by simp))] at hcapital
    exact absurd hcapital.2.1 (by simp)
  | case6 mode start c next rest hlower hcapital ih =>
    rw [ih (fun other hother => htext other (by simp [hother])) (by simp)]
    simp

theorem splitWhere_congr {p q : Char → Bool} {text : List Char} (h : ∀ c ∈ text, p c = q c) :
    splitWhere p text = splitWhere q text := by
  induction text with
  | nil => rfl
  | cons c rest ih =>
    obtain ⟨hc, hrest⟩ := List.forall_mem_cons.mp h
    rw [splitWhere, splitWhere, hc, ih hrest]

/-- Plain words can be read off the text that joins them by underscores. -/
theorem words_intercalate {pieces : List (List Char)} (h : ∀ piece ∈ pieces, IsPlainWord piece) :
    words (['_'].intercalate pieces) = pieces := by
  by_cases hempty : pieces = []
  · subst hempty
    rfl
  · have hmark : ∀ piece ∈ pieces, '_' ∉ piece := fun piece hpiece hmem =>
      absurd ((h piece hpiece).plain '_' hmem) (by decide)
    have hcut : splitWhere (!isAlphanumeric ·) (['_'].intercalate pieces) = pieces := by
      rw [splitWhere_congr (q := (· == '_'))]
      · exact (splitOn_eq _ _).trans (List.splitOn_intercalate '_' hmark hempty)
      · intro c hc
        rcases SignatureFile.mem_intercalate hc with hseparator | ⟨piece, hpiece, hc⟩
        · rw [List.mem_singleton.mp hseparator]
          decide
        · have hplain := (h piece hpiece).plain c hc
          rw [isAlphanumeric_ascii hplain.toNat_lt, hplain.isAlphanum]
          have hne : c ≠ '_' := fun hsame => hmark piece hpiece (hsame ▸ hc)
          simp [hne]
    rw [words, hcut]
    have hwhole : ∀ piece ∈ pieces, wordsFrom .boundary [] piece = [piece] := fun piece hpiece =>
      wordsFrom_plain (h piece hpiece).plain (h piece hpiece).ne_nil
    rw [List.flatMap_congr hwhole, List.flatMap_singleton']

/-! ## Camel forms -/

theorem capitalWord_plain {c : Char} {rest : List Char} (h : IsPlainWord (c :: rest)) :
    capitalWord (c :: rest) = c.toUpper :: rest := by
  obtain ⟨hc, hrest⟩ := List.forall_mem_cons.mp h.plain
  have hlower : rest.map Char.toLower = rest :=
    (List.map_congr_left fun other hother => (hrest other hother).toLower_eq).trans
      (List.map_id' rest)
  rw [capitalWord, toUppercase_ascii hc.toNat_lt,
    lowerWord_eq fun other hother => (hrest other hother).toNat_lt, hlower]
  rfl

/-- The camel form of the snake form of an ASCII text capitalises the words of the text. -/
theorem camelForm_snakeForm {text : List Char} (h : ∀ c ∈ text, c.toNat < 128) :
    camelForm (snakeForm text) = (lowerWords text).flatMap capitalWord := by
  rw [camelForm, snakeForm]
  exact congrArg (List.flatMap capitalWord ·)
    (words_intercalate fun word hword => isPlainWord_of_mem_lowerWords h hword)

/-- The word begins with a digit, which has no capital. -/
def startsWithDigit (word : List Char) : Bool := word.head?.any Char.isDigit

/-- Every word that begins with a digit is joined to the word before it. -/
def joinNumbers : List (List Char) → List (List Char)
  | [] => []
  | word :: rest =>
    match joinNumbers rest with
    | [] => [word]
    | next :: others =>
      if startsWithDigit next then (word ++ next) :: others else word :: next :: others

theorem IsPlainWord.append {first second : List Char} (hfirst : IsPlainWord first)
    (hsecond : IsPlainWord second) : IsPlainWord (first ++ second) where
  ne_nil := List.append_ne_nil_of_left_ne_nil hfirst.ne_nil second
  plain := List.forall_mem_append.mpr ⟨hfirst.plain, hsecond.plain⟩

theorem isPlainWord_joinNumbers {pieces : List (List Char)}
    (h : ∀ piece ∈ pieces, IsPlainWord piece) : ∀ piece ∈ joinNumbers pieces, IsPlainWord piece := by
  induction pieces with
  | nil => exact h
  | cons word rest ih =>
    obtain ⟨hword, hrest⟩ := List.forall_mem_cons.mp h
    have hjoined := ih hrest
    rw [joinNumbers]
    split
    · simpa using hword
    · rename_i next others hnext
      rw [hnext] at hjoined
      obtain ⟨hnextPlain, hothers⟩ := List.forall_mem_cons.mp hjoined
      split
      · exact List.forall_mem_cons.mpr ⟨hword.append hnextPlain, hothers⟩
      · exact List.forall_mem_cons.mpr ⟨hword, hjoined⟩

/-- Of joined words only the first can begin with a digit. -/
theorem startsWithDigit_of_mem_tail_joinNumbers (pieces : List (List Char)) :
    ∀ piece ∈ (joinNumbers pieces).tail, startsWithDigit piece = false := by
  induction pieces with
  | nil => simp [joinNumbers]
  | cons word rest ih =>
    rw [joinNumbers]
    split
    · simp
    · rename_i next others hnext
      rw [hnext] at ih
      split
      · exact ih
      · rename_i hletter
        exact List.forall_mem_cons.mpr ⟨by simpa using hletter, ih⟩

/-- Joining the words changes no capital. -/
theorem flatMap_joinNumbers {pieces : List (List Char)} (h : ∀ piece ∈ pieces, IsPlainWord piece) :
    (joinNumbers pieces).flatMap capitalWord = pieces.flatMap capitalWord := by
  induction pieces with
  | nil => rfl
  | cons word rest ih =>
    obtain ⟨hword, hrest⟩ := List.forall_mem_cons.mp h
    have hjoined := isPlainWord_joinNumbers hrest
    rw [joinNumbers, List.flatMap_cons, ← ih hrest]
    split
    · rename_i hnone
      rw [hnone]
      simp
    · rename_i next others hnext
      rw [hnext] at hjoined ⊢
      split
      · rename_i hdigit
        have hplain := hjoined next List.mem_cons_self
        rcases word with _ | ⟨c, letters⟩
        · exact absurd rfl hword.ne_nil
        rcases next with _ | ⟨digit, more⟩
        · cases hdigit
        have hwhole : IsPlainWord (c :: (letters ++ digit :: more)) := hword.append hplain
        have hsame : digit.toUpper = digit :=
          (hplain.plain digit List.mem_cons_self).toUpper_of_isDigit hdigit
        simp only [List.flatMap_cons, List.cons_append, capitalWord_plain hword,
          capitalWord_plain hplain, capitalWord_plain hwhole, hsame, List.append_assoc]
      · rfl

/-- Lowercase characters before a capital can be told apart from what follows. -/
theorem append_capital_inj {first second : List Char} {rest others : List (List Char)}
    (hfirst : ∀ c ∈ first, IsPlainChar c) (hsecond : ∀ c ∈ second, IsPlainChar c)
    (hrest : ∀ word ∈ rest, IsPlainWord word ∧ startsWithDigit word = false)
    (hothers : ∀ word ∈ others, IsPlainWord word ∧ startsWithDigit word = false)
    (h : first ++ rest.flatMap capitalWord = second ++ others.flatMap capitalWord) :
    first = second ∧ rest.flatMap capitalWord = others.flatMap capitalWord := by
  -- What the words begin with is a capital, and no lowercase character is one.
  have hcapital : ∀ {words : List (List Char)} {c : Char} {more : List Char},
      (∀ word ∈ words, IsPlainWord word ∧ startsWithDigit word = false) →
      words.flatMap capitalWord = c :: more → ¬ IsPlainChar c := by
    intro words c more hwords hflat hplain
    cases words with
    | nil => cases hflat
    | cons word words =>
      obtain ⟨hword, hletter⟩ := hwords word List.mem_cons_self
      rcases word with _ | ⟨letter, letters⟩
      · exact hword.ne_nil rfl
      rw [List.flatMap_cons, capitalWord_plain hword, List.cons_append, List.cons.injEq] at hflat
      have hupper := (hword.plain letter List.mem_cons_self).isUpper_toUpper hletter
      rw [hflat.1, hplain.isUpper_eq] at hupper
      cases hupper
  rcases List.append_eq_append_iff.mp h with ⟨middle, rfl, hflat⟩ | ⟨middle, rfl, hflat⟩ <;>
    rcases middle with _ | ⟨c, middle⟩
  · exact ⟨by simp, hflat⟩
  · exact absurd (hsecond c (by simp)) (hcapital hrest hflat)
  · exact ⟨by simp, hflat.symm⟩
  · exact absurd (hfirst c (by simp)) (hcapital hothers hflat)

theorem flatMap_capitalWord_inj {pieces others : List (List Char)}
    (hpieces : ∀ piece ∈ pieces, IsPlainWord piece) (hothers : ∀ piece ∈ others, IsPlainWord piece)
    (hletters : ∀ piece ∈ pieces.tail, startsWithDigit piece = false)
    (hotherLetters : ∀ piece ∈ others.tail, startsWithDigit piece = false)
    (h : pieces.flatMap capitalWord = others.flatMap capitalWord) : pieces = others := by
  induction pieces generalizing others with
  | nil =>
    rcases others with _ | ⟨_ | ⟨c, letters⟩, others⟩
    · rfl
    · exact absurd rfl (hothers [] List.mem_cons_self).ne_nil
    · rw [List.flatMap_cons, capitalWord_plain (hothers _ List.mem_cons_self)] at h
      cases h
  | cons piece pieces ih =>
    obtain ⟨hpiece, hrest⟩ := List.forall_mem_cons.mp hpieces
    rcases piece with _ | ⟨c, letters⟩
    · exact absurd rfl hpiece.ne_nil
    rcases others with _ | ⟨_ | ⟨d, otherLetters⟩, others⟩
    · rw [List.flatMap_cons, capitalWord_plain hpiece] at h
      cases h
    · exact absurd rfl (hothers [] List.mem_cons_self).ne_nil
    obtain ⟨hother, hotherRest⟩ := List.forall_mem_cons.mp hothers
    rw [List.flatMap_cons, List.flatMap_cons, capitalWord_plain hpiece, capitalWord_plain hother,
      List.cons_append, List.cons_append, List.cons.injEq] at h
    have hsame : c = d := by
      rw [← (hpiece.plain c List.mem_cons_self).toLower_toUpper, h.1,
        (hother.plain d List.mem_cons_self).toLower_toUpper]
    obtain ⟨hlettersSame, hflat⟩ := append_capital_inj
      (fun other hmem => hpiece.plain other (List.mem_cons_of_mem _ hmem))
      (fun other hmem => hother.plain other (List.mem_cons_of_mem _ hmem))
      (fun word hword => ⟨hrest word hword, hletters word hword⟩)
      (fun word hword => ⟨hotherRest word hword, hotherLetters word hword⟩) h.2
    rw [hsame, hlettersSame, ih hrest hotherRest (fun word hword => hletters word
      (List.mem_of_mem_tail hword)) (fun word hword => hotherLetters word
      (List.mem_of_mem_tail hword)) hflat]

/-- The snake forms of ASCII texts have one camel form exactly if the texts have the same words, once
those that begin with a digit are joined to the ones before. -/
theorem camelForm_snakeForm_eq_iff {first second : List Char} (hfirst : ∀ c ∈ first, c.toNat < 128)
    (hsecond : ∀ c ∈ second, c.toNat < 128) :
    camelForm (snakeForm first) = camelForm (snakeForm second) ↔
      joinNumbers (lowerWords first) = joinNumbers (lowerWords second) := by
  have hplain : ∀ word ∈ lowerWords first, IsPlainWord word :=
    fun word hword => isPlainWord_of_mem_lowerWords hfirst hword
  have hother : ∀ word ∈ lowerWords second, IsPlainWord word :=
    fun word hword => isPlainWord_of_mem_lowerWords hsecond hword
  rw [camelForm_snakeForm hfirst, camelForm_snakeForm hsecond, ← flatMap_joinNumbers hplain,
    ← flatMap_joinNumbers hother]
  constructor
  · exact flatMap_capitalWord_inj (isPlainWord_joinNumbers hplain) (isPlainWord_joinNumbers hother)
      (startsWithDigit_of_mem_tail_joinNumbers _) (startsWithDigit_of_mem_tail_joinNumbers _)
  · exact congrArg _

end CommandBuffer.Text
