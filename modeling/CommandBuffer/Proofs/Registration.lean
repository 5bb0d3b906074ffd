import CommandBuffer.Proofs.NamedTypes
import CommandBuffer.Proofs.Signature.Lines

/-! # What the registry takes

A registry is built from types that are sound on their own and have names of their own. The position
of a type is its id: it is found by the name of the type and leads back to it, so that every id in a
signature stays valid. A registry is refused because of the first type that cannot join those before
it, and what is wrong with the type itself comes before its name.
-/

namespace CommandBuffer

open SignatureFile

namespace Registry

variable {registry : Registry}

/-! ## Ids -/

theorem getElem?_entries {index : Nat} {id : TypeId} {type : NamedType} :
    registry.entries[index]? = some (id, type) ↔ id = ⟨index⟩ ∧ registry.get? id = some type := by
  simp only [entries, List.getElem?_map, List.getElem?_zipIdx, Option.map_map, Nat.zero_add,
    Option.map_eq_some_iff, Function.comp_apply, Prod.mk.injEq]
  constructor
  · rintro ⟨found, hfound, rfl, rfl⟩
    exact ⟨rfl, hfound⟩
  · rintro ⟨rfl, htype⟩
    exact ⟨type, htype, rfl, rfl⟩

/-- The registry has a type for the id that the type refers to, if it refers to one. -/
def Holds (registry : Registry) (type : CType) : Prop :=
  ∀ id, type.named = some id → ∃ named, registry.get? id = some named

theorem holds_of_means {form : TypeForm} {type : CType} (h : form.Means registry type) :
    registry.Holds type := by
  intro id hid
  cases h with
  | plain =>
    obtain ⟨named, hget, -⟩ := exists_of_find? hid
    exact ⟨named, hget⟩
  | qualified _ hget =>
    cases hid
    exact ⟨_, hget⟩

theorem holds_params {forms : List NamedForm} {params : List Param}
    (h : List.Forall₂ (NamedForm.Means registry) forms params) :
    ∀ param ∈ params, registry.Holds param.type := by
  intro param hparam
  obtain ⟨form, -, hmeans⟩ := Pairing.exists_of_mem_forall₂ h hparam
  exact holds_of_means hmeans.1

/-- The types are found by their names, each at its position. -/
structure Indexes (registry : Registry) (types : List NamedType) : Prop where
  entry : ∀ (index : Nat) (id : TypeId) (type : NamedType),
    registry.entries[index]? = some (id, type) ↔ id = ⟨index⟩ ∧ types[index]? = some type
  get : ∀ index : Nat, registry.get? ⟨index⟩ = types[index]?
  find : ∀ name index,
    registry.find? name = some ⟨index⟩ ↔ ∃ type, types[index]? = some type ∧ type.name = name
  resolve : ∀ name index type,
    registry.resolve name = .ok (⟨index⟩, type) ↔ types[index]? = some type ∧ type.name = name
  unknown : ∀ name error, registry.resolve name = .error error ↔
    error = .unknownType name ∧ ∀ type ∈ types, type.name ≠ name

/-- Every id that is read from a list of parameters or from a signature file leads to a type. -/
structure StaysValid (registry : Registry) : Prop where
  params : ∀ text params, readParams registry text = .ok params →
    ∀ param ∈ params, registry.Holds param.type
  signatures : ∀ text declarations, read registry text = .ok declarations →
    ∀ declaration ∈ declarations, registry.Holds declaration.returnType ∧
      ∀ param ∈ declaration.params, registry.Holds param.type

theorem staysValid (registry : Registry) : registry.StaysValid where
  params text params hread := by
    obtain ⟨forms, -, -, hmeans⟩ := exists_forms_of_readParams hread
    exact holds_params hmeans
  signatures text declarations hread declaration hdeclaration := by
    obtain ⟨forms, -, -, hmeans, -⟩ := read_eq_ok_iff_exists_forms.mp hread
    obtain ⟨form, -, hreturn, -, hparams⟩ := Pairing.exists_of_mem_forall₂ hmeans hdeclaration
    exact ⟨holds_of_means hreturn, holds_params hparams⟩

theorem indexes_of_nodup (hnodup : (registry.types.map NamedType.name).Nodup) :
    registry.Indexes registry.types where
  entry index id type := by
    rw [getElem?_entries]
    constructor <;> rintro ⟨rfl, h⟩ <;> exact ⟨rfl, h⟩
  get index := rfl
  find name index := find?_eq_some_iff hnodup
  resolve name index type := by
    rw [resolve_eq_ok_iff, find?_eq_some_iff hnodup]
    constructor
    · rintro ⟨⟨found, hfound, hname⟩, hget⟩
      cases hfound.symm.trans hget
      exact ⟨hget, hname⟩
    · rintro ⟨hget, hname⟩
      exact ⟨⟨type, hget, hname⟩, hget⟩
  unknown name error := by
    unfold resolve
    cases hfind : registry.find? name with
    | none =>
      have hnone : ∀ type ∈ registry.types, type.name ≠ name := by
        simpa [find?, List.findIdx?_eq_none_iff] using hfind
      simp only [Except.error.injEq]
      exact ⟨fun h => ⟨h.symm, hnone⟩, fun h => h.1.symm⟩
    | some id =>
      obtain ⟨type, htype, hname⟩ := (find?_eq_some_iff hnodup).mp hfind
      simp only [htype, reduceCtorEq, false_iff, not_and]
      intro _ hnone
      exact hnone type (List.mem_of_getElem? htype) hname

/-- The registry takes exactly the lists of sound types with different names. It holds them in order,
each under its position, and every id that is read with it leads to one of them. Any other list is
refused for the first type that cannot join those before it. -/
theorem registration_exact (types : List NamedType) :
    ((∃ registry, ofList types = .ok registry) ↔
      (types.map NamedType.name).Nodup ∧ ∀ type ∈ types, type.IsSound) ∧
    (∀ registry, ofList types = .ok registry → registry.Indexes types ∧ registry.StaysValid) ∧
    ∀ error, ofList types = .error error ↔
      ∃ before type after, types = before ++ type :: after ∧
        ((before.map NamedType.name).Nodup ∧ ∀ earlier ∈ before, earlier.IsSound) ∧
        Refuses (before.map NamedType.name) type error := by
  refine ⟨?_, fun registry hbuilt => ?_, fun error => ?_⟩
  · simp only [ofList_eq_ok_iff]
    exact ⟨fun ⟨_, h⟩ => h.2, fun h => ⟨⟨types⟩, rfl, h⟩⟩
  · obtain ⟨rfl, hnodup, -⟩ := ofList_eq_ok_iff.mp hbuilt
    exact ⟨indexes_of_nodup hnodup, staysValid registry⟩
  · rw [ofList_eq_error_iff]
    simp only [ofList_eq_ok_iff, true_and]

/-! ### A name that is taken by a type without a value -/

def capType : NamedType :=
  { name := "Cap", underlying := "GLenum", legal := ["GL_BLEND", "GL_DITHER"], illegal := ["GL_ONE"] }

/-- The type has the name of the one before it, but its missing value is reported. -/
theorem registration_exact_cap : ofList [capType] = .ok ⟨[capType]⟩ ∧
    Indexes ⟨[capType]⟩ [capType] ∧ StaysValid ⟨[capType]⟩ ∧
    ofList [capType, { capType with legal := [] }]
      = .error (.invalidNamedType "Cap" .noLegalValue) := by
  have hbuilt : ofList [capType] = .ok ⟨[capType]⟩ := by decide
  obtain ⟨hindexes, hvalid⟩ := (registration_exact [capType]).2.1 ⟨[capType]⟩ hbuilt
  have hbefore := (registration_exact [capType]).1.mp ⟨_, hbuilt⟩
  exact ⟨hbuilt, hindexes, hvalid, ((registration_exact _).2.2 _).mpr
    ⟨[capType], { capType with legal := [] }, [], rfl, hbefore, .unsound rfl⟩⟩

end Registry
end CommandBuffer
