import CommandBuffer.Proofs.Admission
import CommandBuffer.Proofs.Planning

/-! # Inferred strategies can be planned

Inference recognises the shape of an argument list, and the planner asks of every pointer that it has
one star and a known size. The two look at the arguments on their own. Each shape still has all that
the planner asks of its strategy, so a record with the inferred strategy fails in two ways only: a
plain argument has a type without a wire representation, or two fields have the same name.
-/

namespace CommandBuffer

open Success

/-- Two fields of one command would have the same name. -/
def EmitError.IsRepeatedField (error : EmitError) : Prop :=
  ∃ command field, error = .collision (.repeatedField command field)

/-! ## What the planner refuses -/

namespace FieldList

variable {list : FieldList} {error : EmitError}

theorem isRepeatedField_of_push {name : String} {type : StorageType}
    (h : list.push name type = .error error) : error.IsRepeatedField := by
  unfold push at h
  split at h
  · cases h
    exact ⟨_, _, rfl⟩
  · cases h

theorem isRepeatedField_of_pushPair {first second : String}
    (h : list.pushPair first second = .error error) : error.IsRepeatedField := by
  rcases bind_eq_error.mp h with hfirst | ⟨⟨a, middle⟩, -, h⟩
  · exact isRepeatedField_of_push hfirst
  rcases bind_eq_error.mp h with hsecond | ⟨⟨b, last⟩, -, h⟩
  · exact isRepeatedField_of_push hsecond
  · cases h

end FieldList

namespace Record

variable {record : Record} {transfer : Transfer} {index : Nat} {param : Param} {list : FieldList}
  {error : EmitError}

/-- The error is about a plain argument of a type without a wire representation. -/
def LacksScalar (record : Record) (params : List Param) (error : EmitError) : Prop :=
  ∃ param ∈ params, param.type.isPointer = false ∧ ScalarKind.ofType? param.type = none ∧
    error = record.noWireRepresentation param

theorem error_of_planScalar (h : record.planScalar param list = .error error) :
    (ScalarKind.ofType? param.type = none ∧ error = record.noWireRepresentation param) ∨
      error.IsRepeatedField := by
  unfold planScalar at h
  split at h
  · rename_i hkind
    cases h
    exact .inl ⟨hkind, rfl⟩
  · rcases bind_eq_error.mp h with hpush | ⟨⟨⟨low, high⟩, pushed⟩, -, h⟩
    · exact .inr (FieldList.isRepeatedField_of_pushPair hpush)
    · cases h
  · rcases bind_eq_error.mp h with hpush | ⟨⟨field, pushed⟩, -, h⟩
    · exact .inr (FieldList.isRepeatedField_of_push hpush)
    · cases h

theorem isRepeatedField_of_planData {size : DataSize}
    (h : planData transfer param size list = .error error) : error.IsRepeatedField := by
  unfold planData at h
  cases transfer with
  | immediate => cases h
  | shm =>
    rcases bind_eq_error.mp h with hpush | ⟨⟨⟨id, offset⟩, pushed⟩, -, h⟩
    · exact FieldList.isRepeatedField_of_pushPair hpush
    · cases h
  | bucket =>
    rcases bind_eq_error.mp h with hpush | ⟨⟨id, pushed⟩, -, h⟩
    · exact FieldList.isRepeatedField_of_push hpush
    · cases h

/-- The planner has a layout for the pointer at a position: it receives the result, or its data has
a size. -/
def AllowsPointer (record : Record) (index : Nat) (param : Param) : Prop :=
  record.isResult index = true ∨
    (param.type.pointerDepth = 1 ∧ ∃ size, record.dataSize index param = .ok size)

/-- All pointers of a list have a layout; `index` is the position of the first parameter. -/
def AllowsPointers (record : Record) (index : Nat) (params : List Param) : Prop :=
  ∀ i param, params[i]? = some param → param.type.isPointer = true →
    record.AllowsPointer (index + i) param

theorem isRepeatedField_of_planArgument (hpointer : param.type.isPointer = true)
    (hallows : record.AllowsPointer index param)
    (h : record.planArgument transfer index param list = .error error) :
    error.IsRepeatedField := by
  unfold planArgument at h
  rw [if_neg (by simp [hpointer])] at h
  split at h
  · rcases bind_eq_error.mp h with hpush | ⟨⟨⟨id, offset⟩, pushed⟩, -, h⟩
    · exact FieldList.isRepeatedField_of_pushPair hpush
    · cases h
  · rename_i hresult
    obtain ⟨hdepth, size, hsize⟩ := hallows.resolve_left hresult
    rw [if_neg (not_not.mpr hdepth), hsize] at h
    exact isRepeatedField_of_planData h

/-- An argument fails only as a plain one, or for the name of its field. -/
theorem error_of_planArgument
    (hallows : param.type.isPointer = true → record.AllowsPointer index param)
    (h : record.planArgument transfer index param list = .error error) :
    record.LacksScalar [param] error ∨ error.IsRepeatedField := by
  cases hpointer : param.type.isPointer with
  | true => exact .inr (isRepeatedField_of_planArgument hpointer (hallows hpointer) h)
  | false =>
    unfold planArgument at h
    rw [if_pos (by simp [hpointer])] at h
    refine (error_of_planScalar h).imp_left fun ⟨hkind, herror⟩ => ?_
    exact ⟨param, List.mem_singleton_self param, hpointer, hkind, herror⟩

theorem LacksScalar.mono {params others : List Param} (h : record.LacksScalar params error)
    (hsubset : params ⊆ others) : record.LacksScalar others error := by
  obtain ⟨param, hmem, hlacks⟩ := h
  exact ⟨param, hsubset hmem, hlacks⟩

theorem error_of_planArguments {params : List Param} (hallows : record.AllowsPointers index params)
    (h : record.planArguments transfer index params list = .error error) :
    record.LacksScalar params error ∨ error.IsRepeatedField := by
  induction params generalizing index list with
  | nil => cases h
  | cons param params ih =>
    rw [planArguments] at h
    rcases bind_eq_error.mp h with hargument | ⟨⟨layout, middle⟩, -, h⟩
    · refine (error_of_planArgument (hallows 0 param rfl) hargument).imp_left fun hlacks => ?_
      exact hlacks.mono (by simp)
    rcases bind_eq_error.mp h with hothers | ⟨⟨others, last⟩, -, h⟩
    · have hrest : record.AllowsPointers (index + 1) params := by
        intro i other hother hpointer
        rw [Nat.succ_add_eq_add_succ]
        exact hallows (i + 1) other hother hpointer
      refine (ih hrest hothers).imp_left fun hlacks => ?_
      exact hlacks.mono (List.subset_cons_self _ _)
    · cases h

theorem isRepeatedField_of_planCount (h : record.planCount list = .error error) :
    error.IsRepeatedField := by
  unfold planCount at h
  split at h
  · rcases bind_eq_error.mp h with hpush | ⟨⟨count, pushed⟩, -, h⟩
    · exact FieldList.isRepeatedField_of_push hpush
    · cases h
  · cases h

theorem isRepeatedField_of_planResult (h : record.planResult list = .error error) :
    error.IsRepeatedField := by
  unfold planResult at h
  split at h
  · rcases bind_eq_error.mp h with hpush | ⟨⟨⟨id, offset⟩, pushed⟩, -, h⟩
    · exact FieldList.isRepeatedField_of_pushPair hpush
    · cases h
  · cases h

theorem isRepeatedField_of_planClientId (h : record.planClientId list = .error error) :
    error.IsRepeatedField := by
  unfold planClientId at h
  split at h
  · rcases bind_eq_error.mp h with hpush | ⟨⟨clientId, pushed⟩, -, h⟩
    · exact FieldList.isRepeatedField_of_push hpush
    · cases h
  · cases h

/-- A record whose pointers have layouts fails only for a plain argument or a repeated field. -/
theorem error_of_plan {id : Nat} (hallows : record.AllowsPointers 0 record.arguments)
    (h : record.plan transfer id = .error error) :
    record.LacksScalar record.arguments error ∨ error.IsRepeatedField := by
  unfold plan at h
  rcases bind_eq_error.mp h with harguments | ⟨⟨arguments, list₁⟩, -, h⟩
  · exact error_of_planArguments hallows harguments
  rcases bind_eq_error.mp h with hcount | ⟨⟨count, list₂⟩, -, h⟩
  · exact .inr (isRepeatedField_of_planCount hcount)
  rcases bind_eq_error.mp h with hresult | ⟨⟨result, list₃⟩, -, h⟩
  · exact .inr (isRepeatedField_of_planResult hresult)
  rcases bind_eq_error.mp h with hclientId | ⟨⟨clientId, list₄⟩, -, h⟩
  · exact .inr (isRepeatedField_of_planClientId hclientId)
  · cases h

end Record

/-! ## What inference recognises -/

/-- The arguments before the last end in a count. -/
def EndInCount (before : List Param) : Prop :=
  ∃ start counter, before = start ++ [counter] ∧ counter.isCount = true

theorem endInCount_of_getLast? {before : List Param}
    (h : before.getLast?.any Param.isCount = true) : EndInCount before := by
  obtain ⟨counter, hlast, hcount⟩ := (Option.any_eq_true _ _).mp h
  obtain ⟨start, rfl⟩ := List.getLast?_eq_some_iff.mp hlast
  exact ⟨start, counter, rfl, hcount⟩

theorem endInCount_of_length {before : List Param} (hlength : before.length = 1)
    (h : before.any Param.isCount = true) : EndInCount before := by
  obtain ⟨counter, rfl⟩ := List.length_eq_one_iff.mp hlength
  exact ⟨[], counter, rfl, by simpa using h⟩

/-- The strategies of a trailing pointer: counted ones follow a count. -/
theorem trailing_cases {before : List Param} {last : Param} {strategy : Strategy}
    (h : inferTrailing before last = some strategy) :
    strategy = .getN ∨ strategy = .put ∨
      ((strategy = .putN ∨ strategy = .genN ∨ strategy = .delN) ∧ EndInCount before) := by
  unfold inferTrailing at h
  split at h
  · rename_i hone
    cases h
    exact .inr (.inr ⟨by cases last.type.isConst <;> simp,
      endInCount_of_length hone.1 hone.2⟩)
  · split at h
    · split at h <;> cases h
      exact .inl rfl
    · split at h <;> cases h
      · rename_i hcount
        exact .inr (.inr ⟨.inl rfl, endInCount_of_getLast? hcount⟩)
      · exact .inr (.inl rfl)

/-- The shapes with a strategy: no pointer at all, or a single one in last place. -/
inductive HasShape (arguments : List Param) (strategy : Strategy) : Prop where
  | plain (hplain : ∀ argument ∈ arguments, argument.type.isPointer = false)
  | trailing {before : List Param} {last : Param} (harguments : arguments = before ++ [last])
      (hbefore : ∀ argument ∈ before, argument.type.isPointer = false)
      (hdepth : last.type.pointerDepth = 1) (hinfer : inferTrailing before last = some strategy)

theorem hasShape_of_inferStrategy {returnType : CType} {arguments : List Param}
    {strategy : Strategy} (h : inferStrategy returnType arguments = some strategy) :
    HasShape arguments strategy := by
  unfold inferStrategy at h
  simp only at h
  split at h
  · rename_i hnone
    exact .plain (Record.pointerCount_eq_zero_iff.mp hnone)
  · split at h
    · cases h
    · rename_i hone
      have hone : arguments.countP (·.type.isPointer) = 1 := by simp at hone; exact hone.2
      split at h
      · cases h
      · rename_i last hlast
        obtain ⟨before, rfl⟩ := List.getLast?_eq_some_iff.mp hlast
        split at h
        · cases h
        · rename_i hdepth
          have hdepth : last.type.pointerDepth = 1 := not_not.mp hdepth
          rw [List.dropLast_concat] at h
          refine .trailing rfl ?_ hdepth h
          -- The last argument is the only pointer.
          have hlastPointer : last.type.isPointer = true := by simp [CType.isPointer, hdepth]
          rw [List.countP_append, List.countP_singleton, if_pos hlastPointer] at hone
          exact Record.pointerCount_eq_zero_iff.mp (Nat.succ.inj hone)

/-! ## Inferred shapes have layouts -/

namespace Record

variable {record : Record} {index : Nat} {param last : Param} {before : List Param}

theorem exists_countedBy? (harguments : record.arguments = before ++ [last])
    (hcount : EndInCount before) : ∃ counter, record.countedBy? before.length = some counter := by
  obtain ⟨start, counter, rfl, hcounter⟩ := hcount
  refine ⟨start.length, ?_⟩
  rw [List.length_append, List.length_singleton, countedBy?, harguments]
  simp [hcounter]

theorem exists_dataSize_of_put (hstrategy : record.strategy = .put)
    (hcount : ∀ sizing, record.packing.putSizing = some sizing → sizing.count.isSome = true) :
    ∃ size, record.dataSize index param = .ok size := by
  rw [strategy] at hstrategy
  unfold dataSize
  cases hpacking : record.packing <;> rw [hpacking] at hstrategy hcount <;> cases hstrategy
  rename_i sizing
  obtain ⟨units, hunits⟩ := Option.isSome_iff_exists.mp (hcount sizing rfl)
  rcases sizing with ⟨count, hasRuntimeCount⟩
  cases hunits
  exact ⟨_, rfl⟩

theorem exists_dataSize_of_counted {counter : Nat}
    (hstrategy : record.strategy = .putN ∨ record.strategy = .genN ∨ record.strategy = .delN)
    (hcount : ∀ sizing, record.packing.putSizing = some sizing → sizing.count.isSome = true)
    (hcounter : record.countedBy? index = some counter) :
    ∃ size, record.dataSize index param = .ok size := by
  have hcounted : ∀ units, dataSize.counted record index units = .ok (.counted counter units) := by
    intro units
    rw [dataSize.counted, hcounter]
  rw [strategy] at hstrategy
  unfold dataSize
  cases hpacking : record.packing with
  | putN sizing =>
    rw [hpacking] at hcount
    obtain ⟨units, hunits⟩ := Option.isSome_iff_exists.mp (hcount sizing rfl)
    rcases sizing with ⟨count, hasRuntimeCount⟩
    cases hunits
    exact ⟨_, hcounted units⟩
  | genN isUnshared => exact ⟨_, hcounted 1⟩
  | delN => exact ⟨_, hcounted 1⟩
  | _ => simp [hpacking, Packing.strategy] at hstrategy

/-- Every pointer of an inferred shape has a layout, if the data units are known. -/
theorem allowsPointers_of_hasShape (hshape : HasShape record.arguments record.strategy)
    (hcount : ∀ sizing, record.packing.putSizing = some sizing → sizing.count.isSome = true) :
    record.AllowsPointers 0 record.arguments := by
  intro index param hparam hpointer
  rw [Nat.zero_add]
  cases hshape with
  | plain hplain =>
    rw [hplain param (List.mem_of_getElem? hparam)] at hpointer
    cases hpointer
  | trailing harguments hbefore hdepth hinfer =>
    rename_i before last
    rw [harguments] at hparam
    -- A pointer among the arguments is the last one.
    have hindex : before.length ≤ index := by
      by_contra hearlier
      rw [List.getElem?_append_left (by omega)] at hparam
      rw [hbefore param (List.mem_of_getElem? hparam)] at hpointer
      cases hpointer
    obtain ⟨hlast, rfl⟩ : index = before.length ∧ last = param := by
      rw [List.getElem?_append_right hindex, List.getElem?_singleton] at hparam
      split at hparam <;> cases hparam
      exact ⟨by omega, rfl⟩
    subst hlast
    rcases trailing_cases hinfer with hget | hput | ⟨hcounted, hends⟩
    · exact .inl (by simp [isResult, hget, harguments])
    · exact .inr ⟨hdepth, exists_dataSize_of_put hput hcount⟩
    · obtain ⟨counter, hcounter⟩ := exists_countedBy? harguments hends
      exact .inr ⟨hdepth, exists_dataSize_of_counted hcounted hcount hcounter⟩

/-- A record with the inferred strategy, and with its data units if that is of the put family, is
planned except for plain arguments without a wire representation and repeated names of fields. No
pointer stands in the way of a plan, and nothing that the planner requires is missing. -/
theorem plannable_of_inferred (registry : Registry) (declaration : Declaration)
    (directives : Override) (record : Record)
    (hbuild : build registry declaration directives = .ok record)
    (hinferred : inferStrategy declaration.returnType record.arguments = some record.strategy)
    (hcount : record.strategy = .put ∨ record.strategy = .putN → directives.count.isSome = true) :
    (∀ transfer ∈ record.transfers, ∀ id error, record.plan transfer id = .error error →
      record.LacksScalar record.arguments error ∨ error.IsRepeatedField) ∧
    ∀ (index : Nat) param, record.arguments[index]? = some param → param.type.isPointer = true →
      ∀ transfer ∈ record.transfers, ∀ list error,
        record.planArgument transfer index param list = .error error → error.IsRepeatedField := by
  have hunits : ∀ sizing, record.packing.putSizing = some sizing → sizing.count.isSome = true := by
    obtain ⟨arguments, strategy, -, rfl⟩ := build_eq_ok_iff.mp hbuild
    intro sizing hsizing
    rw [count_of_putSizing hsizing]
    apply hcount
    rw [Record.strategy]
    cases hpacking : (merge declaration directives arguments strategy
      (chosenTransfers strategy directives.transfers (pointerCount arguments))).packing <;>
      rw [hpacking] at hsizing <;> cases hsizing
    · exact .inl rfl
    · exact .inr rfl
  have hallows := allowsPointers_of_hasShape (hasShape_of_inferStrategy hinferred) hunits
  constructor
  · intro transfer _ id error herror
    exact error_of_plan hallows herror
  · intro index param hparam hpointer transfer _ list error herror
    have hallowed := hallows index param hparam hpointer
    rw [Nat.zero_add] at hallowed
    exact isRepeatedField_of_planArgument hpointer hallowed herror

/-! ## A shape whose fields collide -/

/-- The first argument is called like a field of the second. -/
def aliasedDeclaration : Declaration where
  name := "UploadThings"
  returnType := .void
  params := [⟨{ base := "GLuint" }, "things_shm_id"⟩,
    ⟨{ isConst := true, base := "GLfloat", pointerDepth := 1 }, "things"⟩]
  line := 1

def aliasedDirectives : Override where
  name := "UploadThings"
  transfers := some [.immediate, .shm]
  count := some 4

def aliasedRecord : Record :=
  .merge aliasedDeclaration aliasedDirectives aliasedDeclaration.params .put [.immediate, .shm]

/-- The data travels behind the command, but not through shared memory. -/
theorem plannable_aliased :
    build {} aliasedDeclaration aliasedDirectives = .ok aliasedRecord ∧
    (∃ command, aliasedRecord.plan .immediate 256 = .ok command) ∧
    (∃ error, aliasedRecord.plan .shm 257 = .error error ∧
      (aliasedRecord.LacksScalar aliasedRecord.arguments error ∨ error.IsRepeatedField)) := by
  have hplannable := plannable_of_inferred {} aliasedDeclaration aliasedDirectives aliasedRecord rfl
    rfl (fun _ => rfl)
  exact ⟨rfl, ⟨_, rfl⟩, _, rfl, hplannable.1 .shm (by decide) 257 _ rfl⟩

end Record
end CommandBuffer
