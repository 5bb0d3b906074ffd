import CommandBuffer.Code.Name
import CommandBuffer.Naming
import Mathlib.Data.List.Nodup

/-! # Names in the scopes of generated code

Two names mean the same binding if they are spelled the same. The names of arguments
and fields are ASCII identifiers, so that no raw mark occurs in them and escaping
keeps different names apart.
-/

namespace CommandBuffer.Code.Name

/-- The text cannot be mistaken for an escaped keyword. -/
def IsUnmarked (text : String) : Prop := '#' ∉ text.toList

instance (text : String) : Decidable (IsUnmarked text) :=
  inferInstanceAs (Decidable ('#' ∉ text.toList))

theorem isUnmarked_of_isIdentifier {text : String}
    (h : Naming.isIdentifier text.toList = true) : IsUnmarked text := by
  intro hmark
  unfold Naming.isIdentifier at h
  split at h
  · cases h
  · rename_i c rest htext
    rw [htext] at hmark
    rw [Bool.and_eq_true, List.all_eq_true] at h
    rcases List.mem_cons.mp hmark with rfl | hrest
    · exact absurd h.1 (by decide)
    · exact absurd (h.2 '#' hrest) (by decide)

theorem IsUnmarked.append {first second : String} (hfirst : IsUnmarked first)
    (hsecond : IsUnmarked second) : IsUnmarked (first ++ second) := by
  intro hmark
  rw [String.toList_append, List.mem_append] at hmark
  exact hmark.elim hfirst hsecond

theorem not_isUnmarked_raw (text : String) : ¬ IsUnmarked ("r#" ++ text) := by
  intro h
  apply h
  rw [String.toList_append]
  exact List.mem_append_left _ (by decide)

/-- Escaping keeps unmarked names apart. -/
theorem escaped_spelling_inj {first second : String} (hfirst : IsUnmarked first)
    (hsecond : IsUnmarked second) (h : (escaped first).spelling = (escaped second).spelling) :
    first = second := by
  unfold spelling at h
  by_cases hf : first ∈ keywords
  · by_cases hs : second ∈ keywords
    · simpa [hf, hs] using h
    · simp only [hf, hs, if_true, if_false] at h
      exact absurd (h ▸ hsecond) (not_isUnmarked_raw first)
  · by_cases hs : second ∈ keywords
    · simp only [hf, hs, if_true, if_false] at h
      exact absurd (h ▸ hfirst) (not_isUnmarked_raw second)
    · simpa [hf, hs] using h

/-- Escaping neither makes nor hides a repetition. -/
theorem nodup_spelling_iff {texts : List String} (h : ∀ text ∈ texts, IsUnmarked text) :
    ((texts.map escaped).map spelling).Nodup ↔ texts.Nodup := by
  rw [List.map_map]
  constructor
  · exact List.Nodup.of_map _
  · exact List.Nodup.map_on fun first hfirst second hsecond =>
      escaped_spelling_inj (h first hfirst) (h second hsecond)

theorem escaped_spelling_eq {text : String} (h : text ∉ keywords) :
    (escaped text).spelling = text := by
  simp [spelling, h]

/-- Nothing but a word itself is spelled like it, if it needs no raw mark. -/
theorem escaped_spelling_eq_iff {text word : String} (hfree : word ∉ keywords)
    (hunmarked : IsUnmarked word) : (escaped text).spelling = word ↔ text = word := by
  constructor
  · intro h
    by_cases hkey : text ∈ keywords
    · rw [show (escaped text).spelling = "r#" ++ text from if_pos hkey] at h
      exact absurd (h ▸ hunmarked) (not_isUnmarked_raw text)
    · rwa [escaped_spelling_eq hkey] at h
  · rintro rfl
    exact escaped_spelling_eq hfree

/-- No escaped name is a keyword. -/
theorem escaped_spelling_not_mem_keywords (text : String) :
    (escaped text).spelling ∉ keywords := by
  by_cases hkey : text ∈ keywords
  · have hunmarked : ∀ word ∈ keywords, IsUnmarked word := by decide
    rw [show (escaped text).spelling = "r#" ++ text from if_pos hkey]
    intro hraw
    exact not_isUnmarked_raw text (hunmarked _ hraw)
  · rw [escaped_spelling_eq hkey]
    exact hkey

theorem escaped_spelling_ne_self (text : String) : (escaped text).spelling ≠ "self" := by
  intro h
  exact escaped_spelling_not_mem_keywords text (h ▸ by decide)

end CommandBuffer.Code.Name
