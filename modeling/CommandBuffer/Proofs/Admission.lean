import CommandBuffer.Proofs.Records
import Mathlib

/-! # Which directives are admitted

A record is built exactly if its directives keep the rules: their arguments can be read, a strategy is
named or inferred, and every option suits that strategy and the shape of the arguments. Whatever is
built has its transfer methods in the order of preference, and the request for them counts as a set.
-/

namespace CommandBuffer

open Success

/-- The first method is preferred to the second. -/
def Transfer.Precedes (first second : Transfer) : Prop := all.idxOf first < all.idxOf second

instance (first second : Transfer) : Decidable (first.Precedes second) :=
  inferInstanceAs (Decidable (_ < _))

theorem Transfer.mem_all (method : Transfer) : method ∈ all := by
  cases method <;> decide

theorem Transfer.mem_inPreferenceOrder {requested : List Transfer} {method : Transfer} :
    method ∈ inPreferenceOrder requested ↔ method ∈ requested := by
  simp [inPreferenceOrder, mem_all]

/-- The order of the request and its repetitions are lost. -/
theorem Transfer.inPreferenceOrder_congr {requested other : List Transfer}
    (h : ∀ method, method ∈ other ↔ method ∈ requested) :
    inPreferenceOrder other = inPreferenceOrder requested := by
  simp [inPreferenceOrder, h]

theorem Transfer.pairwise_precedes_of_sublist {transfers : List Transfer}
    (h : transfers.Sublist all) : transfers.Pairwise Precedes :=
  List.Pairwise.sublist h (by decide)

namespace Record

/-- The pointers among some parameters. -/
def pointerCount (params : List Param) : Nat := params.countP (·.type.isPointer)

/-- What may be requested for a function with `pointers` pointer arguments. -/
structure MayRequest (strategy : Strategy) (pointers : Nat) (requested : List Transfer) : Prop where
  hasCommands : strategy ≠ .noCommand
  nonempty : requested ≠ []
  shared : strategy = .getN ∨ strategy = .is → ∀ method ∈ requested, method = .shm
  onePointer : .immediate ∈ requested → pointers = 1

/-- Every option of the directives suits the strategy and the arguments. -/
structure OptionsSuit (declaration : Declaration) (directives : Override) (arguments : List Param)
    (strategy : Strategy) : Prop where
  noPointer : strategy = .direct ∨ strategy = .create →
    ∀ argument ∈ arguments, argument.type.isPointer = false
  countForPut : directives.count ≠ none → strategy = .put ∨ strategy = .putN
  runtimeCountForPut : directives.hasRuntimeCount = true → strategy = .put ∨ strategy = .putN
  countNotZero : directives.count ≠ some 0
  unsharedForIds : directives.isUnshared = true → strategy = .genN ∨ strategy = .create
  request : ∀ requested, directives.transfers = some requested →
    MayRequest strategy (pointerCount arguments) requested
  testValues : ∀ entry ∈ directives.testValues, entry.1 < arguments.length
  signature : strategy ≠ .noCommand → directives.hasClientEntry = true →
    directives.hasGeneratedMarshal = true → arguments = declaration.params

/-- The directives for a declaration keep all the rules, with the arguments and the strategy that
they amount to. -/
structure Admits (registry : Registry) (declaration : Declaration) (directives : Override)
    (arguments : List Param) (strategy : Strategy) : Prop
    extends OptionsSuit declaration directives arguments strategy where
  read : (directives.arguments = none ∧ arguments = declaration.params) ∨
    ∃ text, directives.arguments = some text ∧
      SignatureFile.readParams registry text.toList = .ok arguments
  chosen : directives.strategy = some strategy ∨
    (directives.strategy = none ∧ inferStrategy declaration.returnType arguments = some strategy)

/-! ## The steps of the builder -/

section

variable {registry : Registry} {declaration : Declaration} {directives : Override}
  {arguments : List Param} {strategy : Strategy}

theorem effectiveArguments_eq_ok_iff :
    effectiveArguments registry declaration directives = .ok arguments ↔
      (directives.arguments = none ∧ arguments = declaration.params) ∨
        ∃ text, directives.arguments = some text ∧
          SignatureFile.readParams registry text.toList = .ok arguments := by
  unfold effectiveArguments
  cases directives.arguments with
  | none => simp [eq_comm]
  | some text => simp

theorem effectiveStrategy_eq_ok_iff :
    effectiveStrategy declaration arguments directives = .ok strategy ↔
      directives.strategy = some strategy ∨
        (directives.strategy = none ∧
          inferStrategy declaration.returnType arguments = some strategy) := by
  unfold effectiveStrategy
  cases directives.strategy with
  | some named => simp
  | none => cases inferStrategy declaration.returnType arguments <;> simp

theorem objectIf_eq_nil_iff {condition : Prop} [Decidable condition] {error : MergeError} :
    objectIf condition error = [] ↔ ¬ condition := by
  by_cases h : condition <;> simp [objectIf, h]

theorem returnsThroughSharedMemory_iff :
    strategy.returnsThroughSharedMemory = true ↔ strategy = .getN ∨ strategy = .is := by
  cases strategy <;> simp [Strategy.returnsThroughSharedMemory]

theorem isPutFamily_iff :
    strategy.isPutFamily = true ↔ strategy = .put ∨ strategy = .putN := by
  cases strategy <;> simp [Strategy.isPutFamily]

/-- The transfer methods of a function whose request is allowed. -/
def chosenTransfers (strategy : Strategy) (requested : Option (List Transfer)) (pointers : Nat) :
    List Transfer :=
  if strategy = .noCommand then []
  else match requested with
    | none => [if strategy.returnsThroughSharedMemory ∨ pointers ≠ 1 then .shm else .immediate]
    | some requested => Transfer.inPreferenceOrder requested

/-- A request of a function with commands is refused for one of three reasons. -/
theorem mayRequest_iff (hcommands : strategy ≠ .noCommand) {pointers : Nat}
    {requested : List Transfer} :
    MayRequest strategy pointers requested ↔
      Transfer.inPreferenceOrder requested ≠ [] ∧
      (if strategy.returnsThroughSharedMemory
        then (Transfer.inPreferenceOrder requested).find? (· ≠ .shm) else none) = none ∧
      ¬ (.immediate ∈ Transfer.inPreferenceOrder requested ∧ pointers ≠ 1) := by
  have hnonempty : Transfer.inPreferenceOrder requested ≠ [] ↔ requested ≠ [] := by
    simp only [ne_eq, List.eq_nil_iff_forall_not_mem, Transfer.mem_inPreferenceOrder]
  have hshared : (if strategy.returnsThroughSharedMemory
        then (Transfer.inPreferenceOrder requested).find? (· ≠ .shm) else none) = none ↔
      (strategy = .getN ∨ strategy = .is → ∀ method ∈ requested, method = .shm) := by
    rw [← returnsThroughSharedMemory_iff]
    by_cases h : strategy.returnsThroughSharedMemory = true <;>
      simp [h, Transfer.mem_inPreferenceOrder]
  rw [hnonempty, hshared, Transfer.mem_inPreferenceOrder, not_and_not_right]
  exact ⟨fun h => ⟨h.nonempty, h.shared, h.onePointer⟩, fun h => ⟨hcommands, h.1, h.2.1, h.2.2⟩⟩

theorem effectiveTransfers_eq_ok_iff (function : String) {requested : Option (List Transfer)}
    {pointers : Nat} {transfers : List Transfer} :
    effectiveTransfers function strategy requested pointers = .ok transfers ↔
      (∀ methods, requested = some methods → MayRequest strategy pointers methods) ∧
        transfers = chosenTransfers strategy requested pointers := by
  unfold effectiveTransfers chosenTransfers
  by_cases hcommands : strategy = .noCommand
  · subst hcommands
    have hrefused : ∀ methods, ¬ MayRequest .noCommand pointers methods :=
      fun methods h => h.hasCommands rfl
    cases requested <;> simp [hrefused, eq_comm]
  · cases requested with
    | none =>
      simp only [hcommands, if_false, reduceCtorEq, false_implies, implies_true, true_and,
        Except.ok.injEq]
      exact eq_comm
    | some methods =>
      simp only [hcommands, if_false, Option.some.injEq, forall_eq', mayRequest_iff hcommands]
      split
      · simp_all
      · rename_i hnonempty
        split
        · simp_all
        · rename_i hshared
          split
          · simp_all
          · rename_i hpointers
            rw [Except.ok.injEq, eq_comm]
            exact ⟨fun h => ⟨⟨hnonempty, hshared, hpointers⟩, h⟩, And.right⟩

theorem pointerCount_eq_zero_iff :
    pointerCount arguments = 0 ↔ ∀ argument ∈ arguments, argument.type.isPointer = false := by
  simp [pointerCount, List.countP_eq_zero]

/-- No objection is made exactly if every option suits the strategy and the arguments. -/
theorem objections_eq_nil_iff :
    objections declaration directives arguments strategy = [] ↔
      OptionsSuit declaration directives arguments strategy := by
  have hpointer : ¬ ((strategy = .direct ∨ strategy = .create) ∧ 0 < pointerCount arguments) ↔
      (strategy = .direct ∨ strategy = .create →
        ∀ argument ∈ arguments, argument.type.isPointer = false) := by
    rw [← pointerCount_eq_zero_iff, not_and, Nat.pos_iff_ne_zero, not_not]
  have hcount : ¬ (¬ strategy.isPutFamily = true ∧ directives.count.isSome = true) ↔
      (directives.count ≠ none → strategy = .put ∨ strategy = .putN) := by
    rw [← isPutFamily_iff, Option.isSome_iff_ne_none, not_and', not_not]
  have hruntime : ¬ (¬ strategy.isPutFamily = true ∧ directives.hasRuntimeCount = true) ↔
      (directives.hasRuntimeCount = true → strategy = .put ∨ strategy = .putN) := by
    rw [← isPutFamily_iff, not_and', not_not]
  have hvalues : ((directives.testValues.map Prod.fst).filter (arguments.length ≤ ·)).map
        (.testValueIndex declaration.name · arguments.length) = ([] : List MergeError) ↔
      ∀ entry ∈ directives.testValues, entry.1 < arguments.length := by
    simp [List.filter_eq_nil_iff]
  have hsignature : ¬ (strategy.hasCommands = true ∧ directives.hasClientEntry = true ∧
        directives.hasGeneratedMarshal = true ∧ arguments ≠ declaration.params) ↔
      (strategy ≠ .noCommand → directives.hasClientEntry = true →
        directives.hasGeneratedMarshal = true → arguments = declaration.params) := by
    rw [Strategy.hasCommands, decide_eq_true_iff]
    simp only [not_and, ne_eq, not_not]
  -- The request is one of the objections exactly if the methods cannot be chosen.
  cases htransfers : effectiveTransfers declaration.name strategy directives.transfers
      (pointerCount arguments) with
  | error error =>
    have hrefused : ¬ OptionsSuit declaration directives arguments strategy := by
      intro h
      rw [(effectiveTransfers_eq_ok_iff _).mpr ⟨h.request, rfl⟩] at htransfers
      cases htransfers
    rw [pointerCount] at htransfers
    simp [objections, htransfers, hrefused]
  | ok transfers =>
    have hrequest := ((effectiveTransfers_eq_ok_iff _).mp htransfers).1
    rw [pointerCount] at htransfers
    simp only [objections, htransfers, List.append_eq_nil_iff, objectIf_eq_nil_iff, and_assoc,
      true_and]
    constructor
    · rintro ⟨h₁, h₂, h₃, h₄, h₅, h₆, h₇⟩
      exact ⟨hpointer.mp h₁, hcount.mp h₂, hruntime.mp h₃, h₄, not_and_not_right.mp h₅, hrequest,
        hvalues.mp h₆, hsignature.mp h₇⟩
    · intro h
      exact ⟨hpointer.mpr h.noPointer, hcount.mpr h.countForPut, hruntime.mpr h.runtimeCountForPut,
        h.countNotZero, not_and_not_right.mpr h.unsharedForIds, hvalues.mpr h.testValues,
        hsignature.mpr h.signature⟩

/-- What is built is merged from the arguments, the strategy and the transfer methods that the
directives amount to. -/
theorem build_eq_ok_iff {record : Record} :
    build registry declaration directives = .ok record ↔ ∃ arguments strategy,
      Admits registry declaration directives arguments strategy ∧
      record = merge declaration directives arguments strategy
        (chosenTransfers strategy directives.transfers (pointerCount arguments)) := by
  constructor
  · intro h
    obtain ⟨arguments, strategy, transfers, harguments, hstrategy, hobjections, htransfers, rfl⟩ :=
      exists_merge_of_build h
    refine ⟨arguments, strategy, ⟨objections_eq_nil_iff.mp hobjections,
      effectiveArguments_eq_ok_iff.mp harguments, effectiveStrategy_eq_ok_iff.mp hstrategy⟩, ?_⟩
    rw [((effectiveTransfers_eq_ok_iff _).mp htransfers).2]
    rfl
  · rintro ⟨arguments, strategy, h, rfl⟩
    have htransfers := (effectiveTransfers_eq_ok_iff declaration.name).mpr ⟨h.request, rfl⟩
    unfold build
    refine bind_eq_ok.mpr ⟨arguments, mapError_eq_ok.mpr (effectiveArguments_eq_ok_iff.mpr h.read), ?_⟩
    refine bind_eq_ok.mpr ⟨strategy, mapError_eq_ok.mpr (effectiveStrategy_eq_ok_iff.mpr h.chosen), ?_⟩
    rw [objections_eq_nil_iff.mpr h.toOptionsSuit]
    exact bind_eq_ok.mpr ⟨_, mapError_eq_ok.mpr htransfers, rfl⟩

end

/-! ## What is built -/

section

variable {strategy : Strategy} {requested : Option (List Transfer)} {pointers : Nat}

theorem sublist_chosenTransfers : (chosenTransfers strategy requested pointers).Sublist
    Transfer.all := by
  unfold chosenTransfers
  split
  · exact List.nil_sublist _
  · cases requested with
    | none => exact List.singleton_sublist.mpr (Transfer.mem_all _)
    | some methods => exact List.filter_sublist

theorem chosenTransfers_eq_nil_iff
    (h : ∀ methods, requested = some methods → MayRequest strategy pointers methods) :
    chosenTransfers strategy requested pointers = [] ↔ strategy = .noCommand := by
  unfold chosenTransfers
  by_cases hcommands : strategy = .noCommand
  · simp [hcommands]
  · cases requested with
    | none => simp [hcommands]
    | some methods => simpa [hcommands] using ((mayRequest_iff hcommands).mp (h methods rfl)).1

/-- A result always travels through shared memory. -/
theorem chosenTransfers_of_result
    (h : ∀ methods, requested = some methods → MayRequest strategy pointers methods)
    (hresult : strategy = .getN ∨ strategy = .is) :
    chosenTransfers strategy requested pointers = [.shm] := by
  have hshared := returnsThroughSharedMemory_iff.mpr hresult
  have hcommands : strategy ≠ .noCommand := by
    rintro rfl
    simp at hresult
  unfold chosenTransfers
  rw [if_neg hcommands]
  cases requested with
  | none => simp [hshared]
  | some methods =>
    have hallowed := h methods rfl
    have hsame : ∀ method, method ∈ methods ↔ method ∈ [Transfer.shm] := by
      intro method
      rw [List.mem_singleton]
      refine ⟨hallowed.shared hresult method, ?_⟩
      rintro rfl
      obtain ⟨method, hmethod⟩ := List.exists_mem_of_ne_nil _ hallowed.nonempty
      rwa [← hallowed.shared hresult method hmethod]
    exact Transfer.inPreferenceOrder_congr hsame

/-- Data travels with a command only beside a single pointer argument. -/
theorem pointers_of_immediate
    (h : ∀ methods, requested = some methods → MayRequest strategy pointers methods)
    (himmediate : .immediate ∈ chosenTransfers strategy requested pointers) : pointers = 1 :=
  countP_isPointer_of_immediate ((effectiveTransfers_eq_ok_iff "").mpr ⟨h, rfl⟩) himmediate

end

section

variable {registry : Registry} {declaration : Declaration} {directives : Override}
  {arguments : List Param} {strategy : Strategy} {requested other : List Transfer}

theorem MayRequest.congr {pointers : Nat} (h : MayRequest strategy pointers requested)
    (hsame : ∀ method, method ∈ other ↔ method ∈ requested) :
    MayRequest strategy pointers other := by
  have hcommands := h.hasCommands
  rw [mayRequest_iff hcommands] at h ⊢
  rwa [Transfer.inPreferenceOrder_congr hsame]

/-- Requests of the same methods are admitted alike. -/
theorem Admits.request_congr (h : Admits registry declaration directives arguments strategy)
    (hrequested : directives.transfers = some requested)
    (hsame : ∀ method, method ∈ other ↔ method ∈ requested) :
    Admits registry declaration { directives with transfers := some other } arguments strategy where
  __ := h
  request := by
    intro methods hmethods
    cases hmethods
    exact (h.request requested hrequested).congr hsame

/-- Requests of the same methods build the same record. -/
theorem build_request_congr {record : Record}
    (h : build registry declaration directives = .ok record)
    (hrequested : directives.transfers = some requested)
    (hsame : ∀ method, method ∈ other ↔ method ∈ requested) :
    build registry declaration { directives with transfers := some other } = .ok record := by
  obtain ⟨arguments, strategy, hadmits, rfl⟩ := build_eq_ok_iff.mp h
  have hcommands := (hadmits.request requested hrequested).hasCommands
  have hchosen : chosenTransfers strategy (some requested) (pointerCount arguments)
      = chosenTransfers strategy (some other) (pointerCount arguments) := by
    rw [chosenTransfers, chosenTransfers, if_neg hcommands, if_neg hcommands]
    exact (Transfer.inPreferenceOrder_congr hsame).symm
  refine build_eq_ok_iff.mpr ⟨arguments, strategy, hadmits.request_congr hrequested hsame, ?_⟩
  rw [hrequested, hchosen]
  cases strategy <;> rfl

end

/-- A record is built exactly if its directives are admitted. Its transfer methods then stand in the
order of preference, each once: there are none exactly without commands, a result travels through
shared memory, data travels with the command only beside a single pointer argument, and of a request
only the set of the methods counts. -/
theorem build_iff_admits (registry : Registry) (declaration : Declaration) (directives : Override) :
    ((∃ record, build registry declaration directives = .ok record) ↔
      ∃ arguments strategy, Admits registry declaration directives arguments strategy) ∧
    ∀ record, build registry declaration directives = .ok record →
      Admits registry declaration directives record.arguments record.strategy ∧
      record.transfers.Pairwise Transfer.Precedes ∧
      (record.transfers = [] ↔ record.strategy = .noCommand) ∧
      (record.strategy = .getN ∨ record.strategy = .is → record.transfers = [.shm]) ∧
      (.immediate ∈ record.transfers → pointerCount record.arguments = 1) ∧
      ∀ requested, directives.transfers = some requested →
        (∀ method, method ∈ record.transfers ↔ method ∈ requested) ∧
        ∀ other, (∀ method, method ∈ other ↔ method ∈ requested) →
          build registry declaration { directives with transfers := some other } = .ok record := by
  constructor
  · constructor
    · rintro ⟨record, hrecord⟩
      obtain ⟨arguments, strategy, hadmits, -⟩ := build_eq_ok_iff.mp hrecord
      exact ⟨arguments, strategy, hadmits⟩
    · rintro ⟨arguments, strategy, hadmits⟩
      exact ⟨_, build_eq_ok_iff.mpr ⟨arguments, strategy, hadmits, rfl⟩⟩
  · intro record hrecord
    obtain ⟨arguments, strategy, hadmits, rfl⟩ := build_eq_ok_iff.mp hrecord
    have hstrategy : (merge declaration directives arguments strategy
        (chosenTransfers strategy directives.transfers (pointerCount arguments))).strategy
          = strategy := packingFor_strategy directives strategy
    rw [hstrategy]
    refine ⟨hadmits, Transfer.pairwise_precedes_of_sublist sublist_chosenTransfers,
      chosenTransfers_eq_nil_iff hadmits.request, chosenTransfers_of_result hadmits.request,
      pointers_of_immediate hadmits.request, fun requested hrequested =>
        ⟨fun method => ?_, fun other hsame => build_request_congr hrecord hrequested hsame⟩⟩
    have hcommands := (hadmits.request requested hrequested).hasCommands
    simp only [merge, chosenTransfers, hcommands, if_false, hrequested, Transfer.mem_inPreferenceOrder]

/-! ## A request with repetitions -/

def releaseDeclaration : Declaration where
  name := "ReleaseThings"
  returnType := .void
  params := [⟨{ base := "GLsizei" }, "n"⟩,
    ⟨{ isConst := true, base := "GLuint", pointerDepth := 1 }, "things"⟩]
  line := 1

/-- Two methods, one of them asked for twice. -/
def releaseDirectives : Override where
  name := "ReleaseThings"
  transfers := some [.bucket, .immediate, .bucket]
  testValues := [(0, "3")]

/-- The two methods stand in the order of preference, whatever the order of the request. -/
theorem build_release :
    (∃ record, build {} releaseDeclaration releaseDirectives = .ok record ∧
      record.strategy = .delN ∧ record.transfers = [.immediate, .bucket] ∧
      build {} releaseDeclaration { releaseDirectives with transfers := some [.immediate, .bucket] }
        = .ok record) ∧
    ¬ ∃ arguments strategy, Admits {} releaseDeclaration
      { releaseDirectives with testValues := [(2, "3")] } arguments strategy := by
  constructor
  · have hbuild : build {} releaseDeclaration releaseDirectives
        = .ok (merge releaseDeclaration releaseDirectives releaseDeclaration.params .delN
          [.immediate, .bucket]) := rfl
    refine ⟨_, hbuild, rfl, rfl, ?_⟩
    have h := ((build_iff_admits {} releaseDeclaration releaseDirectives).2 _ hbuild).2.2.2.2.2
    refine (h [.bucket, .immediate, .bucket] rfl).2 _ fun method => ?_
    cases method <;> decide
  · rw [← (build_iff_admits {} releaseDeclaration _).1]
    rintro ⟨record, hrecord⟩
    cases hrecord

end Record
end CommandBuffer
