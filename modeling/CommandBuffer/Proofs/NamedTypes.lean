import CommandBuffer.Definition.Registry
import Mathlib.Data.List.Nodup
import Mathlib.Data.Option.Basic
import Mathlib.Tactic.Tauto

/-! # Types that a registry takes

A type is sound if nothing is wrong with it on its own. A registry is built from sound types that
have names of their own, and the position of a type is the id that is found by its name.
-/

namespace CommandBuffer

namespace NamedType

/-- What the registry asks of a type, whatever the other types are. -/
structure IsSound (type : NamedType) : Prop where
  name : isBlank type.name = false
  underlying : isBlank type.underlying = false
  valued : type.hasValidator = true → type.legal ≠ []
  legal : ∀ value ∈ type.legal, isBlank value = false
  legalDistinct : type.legal.Nodup
  illegalDistinct : type.illegal.Nodup
  apart : ∀ value ∈ type.illegal, value ∉ type.legal

theorem legalFault?_eq_none_iff {seen values : List String} :
    legalFault? seen values = none ↔ (∀ value ∈ values, isBlank value = false) ∧
      values.Nodup ∧ ∀ value ∈ values, value ∉ seen := by
  induction values generalizing seen with
  | nil => simp [legalFault?]
  | cons first rest ih =>
    by_cases hblank : isBlank first = true
    · simp [legalFault?, hblank]
    · by_cases hseen : first ∈ seen
      · simp [legalFault?, hblank, hseen]
      · rw [legalFault?, if_neg hblank, if_neg hseen, ih]
        grind

theorem illegalFault?_eq_none_iff {legal seen values : List String} :
    illegalFault? legal seen values = none ↔
      values.Nodup ∧ (∀ value ∈ values, value ∉ legal) ∧ ∀ value ∈ values, value ∉ seen := by
  induction values generalizing seen with
  | nil => simp [illegalFault?]
  | cons first rest ih =>
    by_cases hseen : first ∈ seen
    · simp [illegalFault?, hseen]
    · by_cases hlegal : first ∈ legal
      · simp [illegalFault?, hseen, hlegal]
      · rw [illegalFault?, if_neg hseen, if_neg hlegal, ih]
        grind

/-- A type has no fault exactly if it is sound. -/
theorem fault?_eq_none_iff {type : NamedType} : type.fault? = none ↔ type.IsSound := by
  have hvalues : (legalFault? [] type.legal <|> illegalFault? type.legal [] type.illegal) = none ↔
      ((∀ value ∈ type.legal, isBlank value = false) ∧ type.legal.Nodup) ∧
        type.illegal.Nodup ∧ ∀ value ∈ type.illegal, value ∉ type.legal := by
    rw [Option.orElse_eq_orElse, Option.orElse_eq_or, Option.or_eq_none_iff,
      legalFault?_eq_none_iff, illegalFault?_eq_none_iff]
    simp
  unfold fault?
  split
  · rename_i hname
    exact iff_of_false (by simp) fun h => by simp [h.name] at hname
  · rename_i hname
    split
    · rename_i hunderlying
      exact iff_of_false (by simp) fun h => by simp [h.underlying] at hunderlying
    · rename_i hunderlying
      split
      · rename_i hempty
        exact iff_of_false (by simp) fun h => h.valued hempty.1 hempty.2
      · rename_i hvalued
        rw [hvalues]
        constructor
        · rintro ⟨⟨hlegal, hdistinct⟩, hillegal, hapart⟩
          exact {
            name := by simpa using hname
            underlying := by simpa using hunderlying
            valued := fun hasks hempty => hvalued ⟨hasks, hempty⟩
            legal := hlegal
            legalDistinct := hdistinct
            illegalDistinct := hillegal
            apart := hapart }
        · intro h
          exact ⟨⟨h.legal, h.legalDistinct⟩, h.illegalDistinct, h.apart⟩

end NamedType

namespace Registry

variable {registry : Registry} {types : List NamedType} {seen : List String}

/-! ## Building -/

theorem firstError?_eq_none_iff : firstError? seen types = none ↔
    (types.map NamedType.name).Nodup ∧ (∀ type ∈ types, type.IsSound) ∧
      ∀ type ∈ types, type.name ∉ seen := by
  induction types generalizing seen with
  | nil => simp [firstError?]
  | cons first rest ih =>
    rw [firstError?]
    split
    · rename_i fault hfault
      refine iff_of_false (by simp) fun h => ?_
      have hsound := NamedType.fault?_eq_none_iff.mpr (h.2.1 first List.mem_cons_self)
      rw [hfault] at hsound
      cases hsound
    · rename_i hfault
      split
      · rename_i hseen
        exact iff_of_false (by simp) fun h => h.2.2 first List.mem_cons_self hseen
      · rename_i hnew
        have hsound := NamedType.fault?_eq_none_iff.mp hfault
        rw [ih]
        grind

/-- The error of a type that cannot join types with these names. What is wrong with the type itself
comes first. -/
inductive Refuses (names : List String) (type : NamedType) : DefinitionError → Prop
  | unsound {fault : NamedTypeFault} (hfault : type.fault? = some fault) :
      Refuses names type (.invalidNamedType type.name fault)
  | taken (hsound : type.IsSound) (hname : type.name ∈ names) :
      Refuses names type (.duplicateType type.name)

theorem Refuses.congr {names others : List String} {type : NamedType} {error : DefinitionError}
    (h : Refuses names type error) (hsame : ∀ name, name ∈ names → name ∈ others) :
    Refuses others type error := by
  cases h with
  | unsound hfault => exact .unsound hfault
  | taken hsound hname => exact .taken hsound (hsame _ hname)

/-- The error is that of the first type that cannot join those before it; the types behind it are
not looked at. -/
theorem firstError?_eq_some_iff {error : DefinitionError} : firstError? seen types = some error ↔
    ∃ before type after, types = before ++ type :: after ∧ firstError? seen before = none ∧
      Refuses (before.map NamedType.name ++ seen) type error := by
  induction types generalizing seen with
  | nil => simp [firstError?]
  | cons first rest ih =>
    constructor
    · intro h
      rw [firstError?] at h
      split at h
      · rename_i fault hfault
        cases h
        exact ⟨[], first, rest, rfl, rfl, .unsound hfault⟩
      · rename_i hfault
        split at h
        · rename_i hseen
          cases h
          exact ⟨[], first, rest, rfl, rfl, .taken (NamedType.fault?_eq_none_iff.mp hfault) hseen⟩
        · rename_i hnew
          obtain ⟨before, type, after, rfl, hbefore, hrefuses⟩ := ih.mp h
          refine ⟨first :: before, type, after, rfl, ?_, hrefuses.congr fun name hname => ?_⟩
          · simp only [firstError?, hfault, hnew, if_false, hbefore]
          · simp only [List.map_cons, List.mem_append, List.mem_cons] at hname ⊢
            tauto
    · rintro ⟨before, type, after, htypes, hbefore, hrefuses⟩
      cases before with
      | nil =>
        obtain ⟨rfl, rfl⟩ := List.cons.inj htypes
        cases hrefuses with
        | unsound hfault => simp [firstError?, hfault]
        | taken hsound hname =>
          simp only [List.map_nil, List.nil_append] at hname
          simp [firstError?, NamedType.fault?_eq_none_iff.mpr hsound, hname]
      | cons other before =>
        obtain ⟨rfl, rfl⟩ := List.cons.inj htypes
        rw [firstError?] at hbefore ⊢
        split at hbefore
        · cases hbefore
        · split at hbefore
          · cases hbefore
          · rename_i hnew
            rw [if_neg hnew]
            refine ih.mpr ⟨before, type, after, rfl, hbefore, hrefuses.congr fun name hname => ?_⟩
            simp only [List.map_cons, List.mem_append, List.mem_cons] at hname ⊢
            tauto

theorem ofList_eq_ok_iff : ofList types = .ok registry ↔
    registry.types = types ∧ (types.map NamedType.name).Nodup ∧ ∀ type ∈ types, type.IsSound := by
  unfold ofList
  split
  · rename_i error herror
    refine iff_of_false (by simp) fun h => ?_
    rw [firstError?_eq_none_iff.mpr ⟨h.2.1, h.2.2, by simp⟩] at herror
    cases herror
  · rename_i hnone
    obtain ⟨hnodup, hsound, -⟩ := firstError?_eq_none_iff.mp hnone
    rw [Except.ok.injEq]
    constructor
    · rintro rfl
      exact ⟨rfl, hnodup, hsound⟩
    · rintro ⟨rfl, -⟩
      rfl

/-- The types of a registry that was built are sound. -/
theorem isSound_of_ofList (h : ofList types = .ok registry) :
    ∀ type ∈ registry.types, type.IsSound := by
  obtain ⟨rfl, -, hsound⟩ := ofList_eq_ok_iff.mp h
  exact hsound

/-- The types of a registry that was built have names of their own. -/
theorem nodup_names_of_ofList (h : ofList types = .ok registry) :
    (registry.types.map NamedType.name).Nodup := by
  obtain ⟨rfl, hnodup, -⟩ := ofList_eq_ok_iff.mp h
  exact hnodup

theorem ofList_eq_error_iff {error : DefinitionError} : ofList types = .error error ↔
    ∃ before type after, types = before ++ type :: after ∧ ofList before = .ok ⟨before⟩ ∧
      Refuses (before.map NamedType.name) type error := by
  have hbuilt : ∀ before, ofList before = .ok ⟨before⟩ ↔ firstError? [] before = none := by
    intro before
    simp [ofList_eq_ok_iff, firstError?_eq_none_iff]
  have herror : ofList types = .error error ↔ firstError? [] types = some error := by
    unfold ofList
    split <;> simp [*]
  simp only [herror, firstError?_eq_some_iff, hbuilt, List.append_nil]

/-! ## Positions -/

/-- A position that is found by a name leads to a type of this name. -/
theorem exists_of_find? {name : String} {id : TypeId} (h : registry.find? name = some id) :
    ∃ type, registry.get? id = some type ∧ type.name = name := by
  obtain ⟨index, hindex, rfl⟩ := Option.map_eq_some_iff.mp h
  obtain ⟨hlt, hname, -⟩ := List.findIdx?_eq_some_iff_getElem.mp hindex
  exact ⟨_, List.getElem?_eq_getElem hlt, beq_iff_eq.mp hname⟩

/-- Among different names the position of a type is found by its name. -/
theorem find?_eq_some_iff (hnodup : (registry.types.map NamedType.name).Nodup) {name : String}
    {id : TypeId} : registry.find? name = some id ↔
      ∃ type, registry.get? id = some type ∧ type.name = name := by
  refine ⟨exists_of_find?, ?_⟩
  rintro ⟨type, htype, rfl⟩
  obtain ⟨index⟩ := id
  obtain ⟨hlt, rfl⟩ := List.getElem?_eq_some_iff.mp htype
  refine Option.map_eq_some_iff.mpr ⟨index, ?_, rfl⟩
  refine List.findIdx?_eq_some_iff_getElem.mpr ⟨hlt, beq_self_eq_true _, fun other hother => ?_⟩
  -- An earlier type of this name would be the same type.
  have hapart := List.pairwise_iff_getElem.mp hnodup other index
    (by simpa using Nat.lt_trans hother hlt) (by simpa using hlt) hother
  simpa using hapart

end Registry
end CommandBuffer
