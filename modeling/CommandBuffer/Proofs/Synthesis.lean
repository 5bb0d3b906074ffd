import CommandBuffer.Proofs.NamedTypes
import CommandBuffer.Record.Build
import CommandBuffer.Validator
import Mathlib.Data.List.Sort
import Mathlib.Data.Option.Basic

/-! # Synthesis of validators

The synthesizer goes through the references of the wire arguments one by one and puts the validator
of each new type into its place. After every step the set is in registry order and holds the
validators of just the types that were met. Such a set depends on which types these are, but not on
how often or in which order they were met.
-/

namespace CommandBuffer

/-! ## Validators of a registry -/

/-- The type of the first validator comes before that of the second in the registry. -/
def Validator.Precedes (first second : Validator) : Prop := first.id.index < second.id.index

/-- The validator is a copy of the registered type that it is for, and this type asks for one. -/
def Validator.IsOf (registry : Registry) (validator : Validator) : Prop :=
  ∃ type, registry.get? validator.id = some type ∧ type.hasValidator = true ∧
    validator = .ofType validator.id type

theorem Validator.IsOf.eq {registry : Registry} {first second : Validator}
    (h : first.IsOf registry) (h' : second.IsOf registry) (hid : first.id = second.id) :
    first = second := by
  obtain ⟨type, htype, -, hfirst⟩ := h
  obtain ⟨other, hother, -, hsecond⟩ := h'
  have hsame : type = other := by simpa [hid, hother] using htype.symm
  rw [hfirst, hsecond, hid, hsame]

namespace ValidatorSet

variable {registry : Registry} {set : ValidatorSet} {validator : Validator} {id : TypeId}

/-! ## Inserting in order -/

theorem mem_place {other : Validator} {validators : List Validator} :
    other ∈ place validator validators ↔ other = validator ∨ other ∈ validators := by
  induction validators with
  | nil => simp [place]
  | cons first rest ih =>
    by_cases hbefore : validator.id.index < first.id.index
    · simp [place, hbefore]
    · simp [place, hbefore, ih, or_left_comm]

theorem pairwise_place {validators : List Validator}
    (hordered : validators.Pairwise Validator.Precedes)
    (hnew : ∀ other ∈ validators, other.id ≠ validator.id) :
    (place validator validators).Pairwise Validator.Precedes := by
  induction validators with
  | nil => simp [place]
  | cons first rest ih =>
    rw [List.pairwise_cons] at hordered
    by_cases hbefore : validator.id.index < first.id.index
    · simp only [place, hbefore, if_true, List.pairwise_cons, List.forall_mem_cons]
      exact ⟨⟨hbefore, fun other hother => hbefore.trans (hordered.1 other hother)⟩, hordered⟩
    · have hbehind : first.Precedes validator := by
        have hne : first.id.index ≠ validator.id.index := fun hindex =>
          hnew first List.mem_cons_self (congrArg TypeId.mk hindex)
        unfold Validator.Precedes
        omega
      simp only [place, hbefore, if_false, List.pairwise_cons, mem_place, forall_eq_or_imp]
      exact ⟨⟨hbehind, hordered.1⟩,
        ih hordered.2 fun other hother => hnew other (List.mem_cons_of_mem _ hother)⟩

/-! ## What a set holds -/

/-- The set holds the validators of the types, and no others, in registry order. -/
structure Holds (registry : Registry) (ids : List TypeId) (set : ValidatorSet) : Prop where
  ordered : set.validators.Pairwise Validator.Precedes
  mem_iff : ∀ validator, validator ∈ set.validators ↔
    validator.IsOf registry ∧ validator.id ∈ ids

namespace Holds

variable {ids : List TypeId}

theorem empty : Holds registry [] {} where
  ordered := List.Pairwise.nil
  mem_iff validator := by simp

theorem get?_eq_some_iff (h : Holds registry ids set) :
    set.get? id = some validator ↔ validator.id = id ∧ validator ∈ set.validators := by
  constructor
  · intro hget
    exact ⟨by simpa using List.find?_some hget, List.mem_of_find?_eq_some hget⟩
  · rintro ⟨hid, hmem⟩
    cases hget : set.get? id with
    | none => exact absurd hid (by simpa using List.find?_eq_none.mp hget validator hmem)
    | some other =>
      have hother : other.id = id := by simpa using List.find?_some hget
      have hof := ((h.mem_iff other).mp (List.mem_of_find?_eq_some hget)).1
      rw [hof.eq ((h.mem_iff validator).mp hmem).1 (hother.trans hid.symm)]

/-- A type changes nothing that has no validator but those of types that were met. -/
theorem keep (h : Holds registry ids set)
    (hmet : ∀ validator : Validator, validator.IsOf registry → validator.id = id → id ∈ ids) :
    Holds registry (ids ++ [id]) set := by
  refine ⟨h.ordered, fun validator => ?_⟩
  rw [h.mem_iff, List.mem_append, List.mem_singleton]
  refine and_congr_right fun hof => ⟨.inl, fun hid => ?_⟩
  rcases hid with hmem | rfl
  · exact hmem
  · exact hmet validator hof rfl

theorem add (h : Holds registry ids set) (hof : validator.IsOf registry)
    (hnew : ∀ other ∈ set.validators, other.id ≠ validator.id) :
    Holds registry (ids ++ [validator.id]) ⟨place validator set.validators⟩ := by
  refine ⟨pairwise_place h.ordered hnew, fun other => ?_⟩
  rw [mem_place, h.mem_iff, List.mem_append, List.mem_singleton]
  constructor
  · rintro (rfl | ⟨hother, hmem⟩)
    · exact ⟨hof, .inr rfl⟩
    · exact ⟨hother, .inl hmem⟩
  · rintro ⟨hother, hmem | hid⟩
    · exact .inr ⟨hother, hmem⟩
    · exact .inl (hother.eq hof hid)

theorem describe (h : Holds registry ids set) (id : TypeId) :
    Holds registry (ids ++ [id]) (set.describe registry id) := by
  unfold ValidatorSet.describe
  cases hget : set.get? id with
  | some known =>
    obtain ⟨rfl, hknown⟩ := h.get?_eq_some_iff.mp hget
    exact h.keep fun _ _ _ => ((h.mem_iff known).mp hknown).2
  | none =>
    simp only [Option.isSome_none, Bool.false_eq_true, if_false]
    cases htype : registry.get? id with
    | none =>
      refine h.keep fun validator ⟨type, hfound, _⟩ hid => ?_
      simp [hid, htype] at hfound
    | some type =>
      by_cases hasks : type.hasValidator = true
      · have hof : (Validator.ofType id type).IsOf registry := ⟨type, htype, hasks, rfl⟩
        have hnew : ∀ other ∈ set.validators, other.id ≠ id := by
          simpa using List.find?_eq_none.mp hget
        simp only [hasks, if_true]
        exact h.add hof hnew
      · simp only [hasks, Bool.false_eq_true, if_false]
        refine h.keep fun validator ⟨other, hfound, hother, _⟩ hid => absurd ?_ hasks
        rw [hid, htype, Option.some.injEq] at hfound
        rw [hfound, hother]

theorem foldl (h : Holds registry ids set) (more : List TypeId) :
    Holds registry (ids ++ more) (more.foldl (ValidatorSet.describe registry) set) := by
  -- The types that were met so far are those that the set holds the validators of.
  induction more generalizing ids set with
  | nil => simpa using h
  | cons id rest ih => simpa using ih (h.describe id)

/-- The types determine the set. -/
theorem unique {others : List TypeId} {other : ValidatorSet} (h : Holds registry ids set)
    (h' : Holds registry others other) (hsame : ∀ id, id ∈ ids ↔ id ∈ others) : set = other := by
  have hasymm : ∀ first second : Validator, first.Precedes second → ¬ second.Precedes first :=
    fun _ _ hbefore => Nat.lt_asymm hbefore
  have hnodup : ∀ {validators : List Validator}, validators.Pairwise Validator.Precedes →
      validators.Nodup := fun hordered => hordered.imp fun hbefore heq => by
    subst heq
    exact Nat.lt_irrefl _ hbefore
  have hperm : set.validators.Perm other.validators := by
    rw [List.perm_ext_iff_of_nodup (hnodup h.ordered) (hnodup h'.ordered)]
    intro validator
    rw [h.mem_iff, h'.mem_iff, hsame]
  -- The order is strict, so the same validators stand in the same places.
  have hlist := hperm.eq_of_pairwise
    (fun first second _ _ hbefore hbehind => absurd hbehind (hasymm first second hbefore))
    h.ordered h'.ordered
  exact congrArg ValidatorSet.mk hlist

end Holds

/-! ## References -/

/-- Some command of the records passes a value of the type. -/
def IsReferenced (records : List Record) (id : TypeId) : Prop :=
  ∃ record ∈ records, record.hasCommands = true ∧
    ∃ argument ∈ record.arguments, argument.type.isPointer = false ∧ argument.type.named = some id

theorem mem_references {records : List Record} :
    id ∈ references records ↔ IsReferenced records id := by
  simp only [references, List.mem_filterMap, List.mem_filter, List.mem_flatMap,
    Bool.not_eq_eq_eq_not, Bool.not_true, IsReferenced]
  constructor
  · rintro ⟨argument, ⟨⟨record, ⟨hrecord, hcommands⟩, hargument⟩, hscalar⟩, hnamed⟩
    exact ⟨record, hrecord, hcommands, argument, hargument, hscalar, hnamed⟩
  · rintro ⟨record, hrecord, hcommands, argument, hargument, hscalar, hnamed⟩
    exact ⟨argument, ⟨⟨record, ⟨hrecord, hcommands⟩, hargument⟩, hscalar⟩, hnamed⟩

theorem holds_synthesize (registry : Registry) (records : List Record) :
    Holds registry (references records) (synthesize registry records) :=
  Holds.empty.foldl (references records)

theorem mem_synthesize {records : List Record} :
    validator ∈ (synthesize registry records).validators ↔
      validator.IsOf registry ∧ IsReferenced records validator.id := by
  rw [(holds_synthesize registry records).mem_iff, mem_references]

/-- The validator of a type is made from the type, if this asks for one and some command passes a
value of it. -/
theorem get?_synthesize {records : List Record} :
    (synthesize registry records).get? id = some validator ↔
      (∃ type, registry.get? id = some type ∧ type.hasValidator = true ∧
        validator = .ofType id type) ∧ IsReferenced records id := by
  rw [(holds_synthesize registry records).get?_eq_some_iff, mem_synthesize]
  constructor
  · rintro ⟨rfl, hof, hreferenced⟩
    exact ⟨hof, hreferenced⟩
  · rintro ⟨⟨type, htype, hasks, rfl⟩, hreferenced⟩
    exact ⟨rfl, ⟨type, htype, hasks, rfl⟩, hreferenced⟩

theorem synthesize_congr {records others : List Record}
    (h : ∀ id, IsReferenced records id ↔ IsReferenced others id) :
    synthesize registry records = synthesize registry others :=
  (holds_synthesize registry records).unique (holds_synthesize registry others) fun id => by
    rw [mem_references, mem_references, h]

theorem isReferenced_append {records more : List Record} :
    IsReferenced (records ++ more) id ↔ IsReferenced records id ∨ IsReferenced more id := by
  simp only [IsReferenced, List.mem_append, or_and_right, exists_or]

end ValidatorSet

/-! ## Rearrangements -/

/-- The record has the arguments of the other, in any order and with repetitions. -/
def Record.Rearranges (record other : Record) : Prop :=
  ∃ arguments, record = { other with arguments } ∧
    ∀ argument, argument ∈ arguments ↔ argument ∈ other.arguments

/-- The records are the others in any order, with repetitions, and with rearranged arguments. -/
def ValidatorSet.Rearranges (records others : List Record) : Prop :=
  (∀ record ∈ records, ∃ other ∈ others, record.Rearranges other) ∧
    ∀ other ∈ others, ∃ record ∈ records, record.Rearranges other

namespace ValidatorSet

theorem Rearranges.isReferenced_iff {records others : List Record} (h : Rearranges records others)
    (id : TypeId) : IsReferenced records id ↔ IsReferenced others id := by
  constructor
  · rintro ⟨record, hrecord, hcommands, argument, hargument, hvalue⟩
    obtain ⟨other, hother, arguments, rfl, hsame⟩ := h.1 record hrecord
    exact ⟨other, hother, hcommands, argument, (hsame argument).mp hargument, hvalue⟩
  · rintro ⟨other, hother, hcommands, argument, hargument, hvalue⟩
    obtain ⟨record, hrecord, arguments, rfl, hsame⟩ := h.2 other hother
    exact ⟨_, hrecord, hcommands, argument, (hsame argument).mpr hargument, hvalue⟩

end ValidatorSet

/-! ## Legal and illegal values -/

theorem Validator.IsOf.accepts {registry : Registry} {validator : Validator}
    (h : validator.IsOf registry) (hsound : ∀ type ∈ registry.types, type.IsSound) :
    (∀ value ∈ validator.legal, validator.accepts value = true) ∧
      ∀ value ∈ validator.illegal, validator.accepts value = false := by
  obtain ⟨type, htype, -, hmade⟩ := h
  have hapart := (hsound type (List.mem_of_getElem? htype)).apart
  constructor
  · intro value hvalue
    simpa [Validator.accepts] using hvalue
  · intro value hvalue
    rw [hmade] at hvalue ⊢
    exact decide_eq_false (hapart value hvalue)

/-! ## The synthesized set -/

namespace ValidatorSet

/-- The set has a validator for a type exactly if the type asks for one and some command passes a
value of it; the validator is a copy of the type. The validators stand in the order of the registry.
So neither the order nor repetitions of records and arguments matter, and records behind others add
their own validators. If the registry was built, then every validator accepts its legal values and
rejects its illegal ones. -/
theorem synthesis_exact (registry : Registry) (records : List Record) :
    (∀ id validator, (synthesize registry records).get? id = some validator ↔
      (∃ type, registry.get? id = some type ∧ type.hasValidator = true ∧
        validator = .ofType id type) ∧ IsReferenced records id) ∧
    (∀ validator, validator ∈ (synthesize registry records).validators ↔
      (synthesize registry records).get? validator.id = some validator) ∧
    (synthesize registry records).validators.Pairwise Validator.Precedes ∧
    (∀ others, Rearranges others records →
      synthesize registry others = synthesize registry records) ∧
    (∀ more validator, validator ∈ (synthesize registry (records ++ more)).validators ↔
      validator ∈ (synthesize registry records).validators ∨
        validator ∈ (synthesize registry more).validators) ∧
    ∀ types, Registry.ofList types = .ok registry →
      ∀ validator ∈ (synthesize registry records).validators,
        (∀ value ∈ validator.legal, validator.accepts value = true) ∧
          ∀ value ∈ validator.illegal, validator.accepts value = false := by
  have hholds := holds_synthesize registry records
  refine ⟨fun id validator => get?_synthesize, fun validator => ?_, hholds.ordered,
    fun others h => ?_, fun more validator => ?_, fun types hbuilt validator hvalidator => ?_⟩
  · rw [hholds.get?_eq_some_iff, and_iff_right rfl]
  · exact synthesize_congr h.isReferenced_iff
  · rw [mem_synthesize, mem_synthesize, mem_synthesize, isReferenced_append, and_or_left]
  · exact (mem_synthesize.mp hvalidator).1.accepts (Registry.isSound_of_ofList hbuilt)

end ValidatorSet

/-! ## Two references in the other order -/

def modeType : NamedType :=
  { name := "Mode", underlying := "GLenum", legal := ["GL_ONE"], illegal := ["GL_TWO"] }

/-- The type asks for no validator. -/
def wrapType : NamedType :=
  { modeType with name := "Wrap", hasValidator := false }

def usageType : NamedType :=
  { name := "Usage", underlying := "GLint", legal := ["1", "2"], illegal := [], isComplete := true }

def surfaceRegistry : Registry := { types := [modeType, wrapType, usageType] }

def valueOf (id : TypeId) (base name : String) : Param := ⟨{ base, named := some id }, name⟩

def surfaceRecord (name : String) (strategy : Strategy) (arguments : List Param) : Record :=
  .merge { name, returnType := .void, params := arguments, line := 1 } { name } arguments strategy
    [.shm]

/-- The usage comes before the mode, the mode occurs twice, and one function has no command. -/
def surfaceRecords : List Record := [
  surfaceRecord "Bind" .direct [valueOf ⟨2⟩ "GLint" "usage", valueOf ⟨1⟩ "GLenum" "wrap"],
  surfaceRecord "Query" .noCommand [valueOf ⟨0⟩ "GLenum" "mode"],
  surfaceRecord "Draw" .direct [valueOf ⟨0⟩ "GLenum" "mode", valueOf ⟨0⟩ "GLenum" "next"]]

theorem rearranges_reverse_surface :
    ValidatorSet.Rearranges surfaceRecords.reverse surfaceRecords := by
  have hsame : ∀ record : Record, record.Rearranges record := fun record =>
    ⟨record.arguments, rfl, fun _ => Iff.rfl⟩
  constructor
  · intro record hrecord
    exact ⟨record, List.mem_reverse.mp hrecord, hsame record⟩
  · intro record hrecord
    exact ⟨record, List.mem_reverse.mpr hrecord, hsame record⟩

/-- The mode comes first, as in the registry, also if the records stand in the other order, and it
rejects its illegal value. -/
theorem synthesis_exact_surface :
    Registry.ofList surfaceRegistry.types = .ok surfaceRegistry ∧
    (ValidatorSet.synthesize surfaceRegistry surfaceRecords).validators
      = [.ofType ⟨0⟩ modeType, .ofType ⟨2⟩ usageType] ∧
    ValidatorSet.synthesize surfaceRegistry surfaceRecords.reverse
      = ValidatorSet.synthesize surfaceRegistry surfaceRecords ∧
    (Validator.ofType ⟨0⟩ modeType).accepts "GL_TWO" = false := by
  have hbuilt : Registry.ofList surfaceRegistry.types = .ok surfaceRegistry := by decide +kernel
  have hset : (ValidatorSet.synthesize surfaceRegistry surfaceRecords).validators
      = [.ofType ⟨0⟩ modeType, .ofType ⟨2⟩ usageType] := by decide +kernel
  obtain ⟨-, -, -, hrearranged, -, haccepts⟩ :=
    ValidatorSet.synthesis_exact surfaceRegistry surfaceRecords
  refine ⟨hbuilt, hset, hrearranged _ rearranges_reverse_surface, ?_⟩
  exact (haccepts _ hbuilt _ (hset ▸ List.mem_cons_self)).2 "GL_TWO" (by decide)

end CommandBuffer
