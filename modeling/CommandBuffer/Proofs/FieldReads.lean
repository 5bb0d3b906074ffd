import CommandBuffer.Proofs.ElementCount

/-! # The fields that a handler reads

A handler reads the command struct for scalars, for locations of data, for a run-time count and
for the id that the client allocated. The layouts and the planner's trailing fields provide all of
these. Only a getter reads the location of its result because of its strategy alone: the planner
provides it for a pointer in the last place, so that a getter without one reads fields that the
struct does not have, unless plain arguments happen to be called like them.
-/

namespace CommandBuffer

open Code

variable {validators : ValidatorSet} {command : Command} {argument : Argument} {name : Name}

namespace Handler

/-- The fields of the command struct that the statements read. -/
def fieldReads (stmts : List Stmt) : List Name :=
  (Stmt.listParts stmts).filterMap Expr.commandField?

/-- The fields of the command struct that the expressions read. -/
def storedReads (values : List Expr) : List Name :=
  (Expr.listParts values).filterMap Expr.commandField?

theorem fieldReads_append (first second : List Stmt) :
    fieldReads (first ++ second) = fieldReads first ++ fieldReads second := by
  simp only [fieldReads, Stmt.listParts_eq_flatMap, List.flatMap_append, List.filterMap_append]

theorem fieldReads_cons (stmt : Stmt) (rest : List Stmt) :
    fieldReads (stmt :: rest) = fieldReads [stmt] ++ fieldReads rest :=
  fieldReads_append [stmt] rest

theorem mem_fieldReads_flatMap {α : Type} {items : List α} {f : α → List Stmt} :
    name ∈ fieldReads (items.flatMap f) ↔ ∃ item ∈ items, name ∈ fieldReads (f item) := by
  simp only [fieldReads, Stmt.listParts_eq_flatMap, List.flatMap_assoc, List.filterMap_flatMap,
    List.mem_flatMap]

theorem storedReads_append (first second : List Expr) :
    storedReads (first ++ second) = storedReads first ++ storedReads second := by
  simp only [storedReads, Expr.listParts_eq_flatMap, List.flatMap_append, List.filterMap_append]

theorem mem_storedReads_flatMap {α : Type} {items : List α} {f : α → List Expr} :
    name ∈ storedReads (items.flatMap f) ↔ ∃ item ∈ items, name ∈ storedReads (f item) := by
  simp only [storedReads, Expr.listParts_eq_flatMap, List.flatMap_assoc, List.filterMap_flatMap,
    List.mem_flatMap]

/-- The call reads what the service function gets, and the client id. -/
theorem fieldReads_call (command : Command) :
    fieldReads [.run (call command)] = storedReads (command.arguments.flatMap (passed command))
      ++ command.clientId.toList.map fun _ => .verbatim "client_id" := by
  have hcall : fieldReads [.run (call command)] = storedReads
      (command.arguments.flatMap (passed command)
        ++ (command.clientId.map fun _ => stored "client_id").toList) := by
    simp only [fieldReads, Stmt.listParts, Stmt.parts, call, Expr.send, Expr.parts, List.append_nil,
      List.cons_append, List.nil_append]
    rfl
  rw [hcall, storedReads_append]
  cases command.clientId <;> rfl

/-- Where the client expects the result of a getter or a query. -/
def resultReads (command : Command) : List Name :=
  if command.record.strategy.returnsThroughSharedMemory then
    resultMapping.map (.verbatim ·.name)
  else []

theorem fieldReads_resultVector (command : Command) (pattern : Pattern) (element : List Name) :
    fieldReads [.bind pattern none (.vector
      (.apply (element ++ [Name.verbatim "default"]) []) (resultLength command))] = [] := by
  unfold resultLength
  cases selector? command <;> rfl

/-- Besides the call, only the location of a result is read to answer the command. -/
theorem fieldReads_dispatch (command : Command) :
    fieldReads (dispatch command) = fieldReads [.run (call command)] ++ resultReads command := by
  unfold dispatch resultReads
  cases command.record.strategy with
  | custom => exact (List.append_nil _).symm
  | genN =>
    simp only [fieldReads, Stmt.listParts, Stmt.parts, Expr.parts, List.filterMap_append]
    rfl
  | getN =>
    simp only
    rw [fieldReads_cons, fieldReads_resultVector, List.nil_append, fieldReads_cons]
    rfl
  | is =>
    rw [fieldReads_cons]
    rfl
  | noCommand | direct | put | putN | delN | create =>
    rw [fieldReads_cons]
    rfl

/-! ## What is made ready -/

theorem fieldReads_gate (command : Command) : fieldReads (gate command) = [] := by
  unfold gate
  split <;> rfl

theorem mem_fieldReads_scalar {kind : ScalarKind}
    (h : name ∈ fieldReads (scalar validators command argument kind)) : name = argument.ident := by
  have hdecode : ∀ name ∈ fieldReads [decode command argument kind], name = argument.ident := by
    cases kind <;> simp [fieldReads, decode, decodeWord, Stmt.listParts, Stmt.parts, Expr.parts,
      Expr.commandField?, stored, Expr.listParts, Expr.apply, reportInvalidEnum, consume, succeed,
      Expr.quoted, Expr.send, Expr.number]
  have hvalidate : ∀ validator, ∀ name ∈ fieldReads [validate command argument kind validator],
      name = argument.ident := by
    intro validator
    unfold validate
    simp only
    split <;> simp [fieldReads, Stmt.listParts, Stmt.parts, Expr.parts,
      Expr.commandField?, stored, Expr.listParts, Expr.apply, reportInvalidEnum, reportInvalidValue,
      consume, succeed, Expr.quoted, Expr.send]
  rw [scalar, fieldReads_cons, List.mem_append] at h
  rcases h with h | h
  · exact hdecode name h
  · cases hvalidator : validators.forType? argument.param.type with
    | none =>
      rw [hvalidator] at h
      cases h
    | some validator =>
      rw [hvalidator] at h
      exact hvalidate validator name h

theorem fieldReads_bindAttempt (value : Expr) :
    fieldReads [bindAttempt argument value] = storedReads [value] := rfl

theorem storedReads_method (value : Expr) (method : Name) (types : List Ty)
    (arguments : List Expr) :
    storedReads [.method value method types arguments false]
      = storedReads [value] ++ storedReads arguments := by
  simp only [storedReads, Expr.listParts, Expr.parts, List.append_nil, ← List.filterMap_append]
  rfl

theorem storedReads_call (function : Expr) (arguments : List Expr) :
    storedReads [.call function arguments false]
      = storedReads [function] ++ storedReads arguments := by
  simp only [storedReads, Expr.listParts, Expr.parts, List.append_nil, ← List.filterMap_append]
  rfl

theorem storedReads_stored (rest : List Expr) :
    storedReads (stored name :: rest) = name :: storedReads rest := rfl

theorem fieldReads_bindOr (pattern : Pattern) (value : Expr) (otherwise : List Stmt) :
    fieldReads [.bindOr pattern value otherwise]
      = storedReads [value] ++ fieldReads otherwise := by
  simp only [fieldReads, storedReads, Stmt.listParts, Stmt.parts, Expr.listParts, List.append_nil,
    List.filterMap_append]

/-- Sized data is fetched from its location, in the number of elements that was checked. -/
theorem fieldReads_fetch {size : DataSize} (hsize : argument.layout.dataSize? = some size)
    (hsized : size ≠ .unsized) :
    fieldReads (fetch command argument) = fieldReads (countCheck command size)
      ++ (argument.layout.fields.map command.fieldIdent
        ++ storedReads [elementCount command size]) := by
  have hfail : fieldReads [fail "OutOfBounds"] = [] := rfl
  have hwords : ∀ value : Expr, storedReads ["data", value] = storedReads [value] := fun _ => rfl
  have hbound : ∀ value : Expr, storedReads [.upTo value] = storedReads [value] := fun _ => rfl
  unfold fetch
  cases hlayout : argument.layout <;> rw [hlayout] at hsize <;> cases hsize
  all_goals
    cases size with
    | unsized => exact absurd rfl hsized
    | fixed | atMost | counted =>
      simp only [fieldReads_append, fieldReads_cons _ (_ :: _), fieldReads_bindAttempt,
        fieldReads_bindOr, Expr.send, storedReads_method, storedReads_call, storedReads_stored,
        hfail, hwords, hbound, List.append_nil]
      rfl

/-- Only a run-time count is read from a field. -/
theorem fieldReads_countCheck (command : Command) (size : DataSize) :
    fieldReads (countCheck command size) ++ storedReads [elementCount command size]
      = Command.servedFields size := by
  rw [← (Command.names_elementCount command size).2, List.filterMap_append,
    ← Stmt.listParts_eq_flatMap, storedReads, Expr.listParts, Expr.listParts, List.append_nil]
  rfl

/-- What is fetched is read from the fields of the layout and from a run-time count. -/
theorem mem_fieldReads_fetch (h : name ∈ fieldReads (fetch command argument)) :
    name ∈ argument.layout.fields.map command.fieldIdent ∨
      (name = .verbatim "count" ∧ ∃ max, argument.layout.dataSize? = some (.atMost max)) := by
  cases hsize : argument.layout.dataSize? with
  | none =>
    unfold fetch at h
    cases hlayout : argument.layout <;> rw [hlayout] at hsize h <;> cases hsize <;> cases h
  | some size =>
    by_cases hsized : size = .unsized
    · subst hsized
      unfold fetch at h
      cases hlayout : argument.layout <;> rw [hlayout] at hsize h <;> cases hsize <;> cases h
    · rw [fieldReads_fetch hsize hsized] at h
      have hcount : name ∈ fieldReads (countCheck command size)
          ++ storedReads [elementCount command size] →
          name = .verbatim "count" ∧ ∃ max, some size = some (DataSize.atMost max) := by
        rw [fieldReads_countCheck]
        cases size with
        | atMost max => exact fun hname => ⟨by simpa [Command.servedFields] using hname, max, rfl⟩
        | unsized => exact absurd rfl hsized
        | fixed | counted => exact fun hname => absurd hname List.not_mem_nil
      simp only [List.mem_append] at h hcount
      tauto

/-- An unsized pointer is passed on as its location. -/
theorem storedReads_passed (command : Command) (argument : Argument) :
    storedReads (passed command argument) ⊆ argument.layout.fields.map command.fieldIdent := by
  unfold passed
  cases argument.layout with
  | word | split | result => exact List.nil_subset _
  | immediate size => cases size <;> exact List.nil_subset _
  | shm id offset size =>
    cases size with
    | unsized => exact List.Subset.refl _
    | fixed | atMost | counted => exact List.nil_subset _
  | bucket id size =>
    cases size with
    | unsized => exact List.Subset.refl _
    | fixed | atMost | counted => exact List.nil_subset _

end Handler

/-! ## What is declared -/

namespace Command

/-- The struct of the command has a field that is spelled like the name. -/
def HasField (command : Command) (name : Name) : Prop :=
  ∃ field ∈ command.fields, (Name.escaped field.name).spelling = name.spelling

namespace IsLaidOut

theorem hasField_fieldIdent (h : command.IsLaidOut) (hargument : argument ∈ command.arguments)
    (hname : name ∈ argument.layout.fields.map command.fieldIdent) : command.HasField name := by
  obtain ⟨position, hposition, rfl⟩ := List.mem_map.mp hname
  have hblock := List.mem_map_of_mem (f := (command.fields[·]?)) hposition
  rw [h.blocks argument hargument] at hblock
  obtain ⟨field, -, hfield⟩ := List.mem_map.mp hblock
  refine ⟨field, List.mem_of_getElem? hfield.symm, ?_⟩
  rw [fieldIdent, fieldName, ← hfield]
  rfl

/-- Whatever is read to make an argument ready is a field. -/
theorem hasField_prepare (h : command.IsLaidOut) {index : Nat}
    (hargument : command.arguments[index]? = some argument)
    (hname : name ∈ Handler.fieldReads (Handler.prepare validators command argument)) :
    command.HasField name := by
  have hmem := List.mem_of_getElem? hargument
  unfold Handler.prepare at hname
  cases hlayout : argument.layout with
  | word field kind =>
    rw [hlayout] at hname
    rw [Handler.mem_fieldReads_scalar hname]
    refine ⟨_, List.mem_of_getElem? (h.field_of_word hmem hlayout), rfl⟩
  | split low high =>
    rw [hlayout] at hname
    cases hname
  | shm | bucket | immediate | result =>
    rw [hlayout] at hname
    rcases Handler.mem_fieldReads_fetch hname with hlocation | ⟨rfl, max, hsize⟩
    · exact h.hasField_fieldIdent hmem hlocation
    · obtain ⟨-, hsizes, -⟩ := h.sizes_of_dataSize? hargument hsize
      cases hsizes with
      | atMost hpacking =>
        have hcounted := h.counted
        rw [hpacking] at hcounted
        obtain ⟨field, hfield⟩ := Option.isSome_iff_exists.mp hcounted
        exact ⟨_, List.mem_of_getElem? (h.field_of_count hfield), rfl⟩

/-- The service function gets nothing but arguments and fields. -/
theorem hasField_call (h : command.IsLaidOut)
    (hname : name ∈ Handler.fieldReads [.run (Handler.call command)]) : command.HasField name := by
  rw [Handler.fieldReads_call, List.mem_append] at hname
  rcases hname with hpassed | hclient
  · obtain ⟨argument, hargument, hpassed⟩ := Handler.mem_storedReads_flatMap.mp hpassed
    exact h.hasField_fieldIdent hargument (Handler.storedReads_passed command argument hpassed)
  · obtain ⟨field, hfield, rfl⟩ := List.mem_map.mp hclient
    exact ⟨_, List.mem_of_getElem? (h.field_of_clientId (Option.mem_toList.mp hfield)), rfl⟩

end IsLaidOut

/-- Every field of the command struct that the handler reads is a planned field. -/
def ReadsFields (validators : ValidatorSet) (command : Command) : Prop :=
  ∀ name ∈ Handler.fieldReads (Handler.function validators command).body, command.HasField name

/-- A handler reads fields that exist exactly if the location of the result is planned. -/
theorem IsLaidOut.readsFields_iff (h : command.IsLaidOut) (validators : ValidatorSet) :
    command.ReadsFields validators ↔
      ∀ name ∈ Handler.resultReads command, command.HasField name := by
  have hbody : ∀ name, name ∈ Handler.fieldReads (Handler.function validators command).body ↔
      (∃ argument ∈ command.arguments,
        name ∈ Handler.fieldReads (Handler.prepare validators command argument)) ∨
      name ∈ Handler.fieldReads [.run (Handler.call command)] ∨
      name ∈ Handler.resultReads command := by
    intro name
    have hview : Handler.fieldReads [Handler.viewCommand command] = [] := rfl
    simp only [Handler.function]
    rw [Handler.fieldReads_append, Handler.fieldReads_append, Handler.fieldReads_gate,
      Handler.fieldReads_cons, hview, List.nil_append, List.nil_append, List.mem_append,
      Handler.mem_fieldReads_flatMap, Handler.fieldReads_dispatch, List.mem_append]
  constructor
  · intro hreads name hname
    exact hreads name ((hbody name).mpr (.inr (.inr hname)))
  · intro hresult name hname
    rcases (hbody name).mp hname with ⟨argument, hargument, hprepare⟩ | hcall | hanswer
    · obtain ⟨index, hindex⟩ := List.getElem?_of_mem hargument
      exact h.hasField_prepare hindex hprepare
    · exact h.hasField_call hcall
    · exact hresult name hanswer

end Command

/-! ## The location of the result -/

/-- The arguments provide the location of a result: the last one is a pointer, or plain arguments
of one word are called like the fields. -/
def Record.LocatesResult (record : Record) : Prop :=
  (∃ param, record.arguments.getLast? = some param ∧ param.type.isPointer = true) ∨
    ∀ field ∈ resultMapping, ∃ param ∈ record.arguments, param.name = field.name ∧
      ∃ kind, ScalarKind.ofType? param.type = some kind ∧ kind ≠ .u64

namespace Command.IsLaidOut

theorem packing_of_getN {record : Record} (h : record.strategy = .getN) :
    record.packing = .getN := by
  unfold Record.strategy at h
  cases hpacking : record.packing <;> rw [hpacking] at h <;> cases h

/-- A getter moves no data to the service. -/
theorem dataSize?_of_getN (h : command.IsLaidOut) (hstrategy : command.record.strategy = .getN)
    {index : Nat} (hargument : command.arguments[index]? = some argument) :
    argument.layout.dataSize? = none := by
  have hchosen := h.chosen index argument hargument
  generalize argument.layout = layout at hchosen ⊢
  cases hchosen with
  | word | split | result => rfl
  | data hpointer hresult hsize hlayout htransfer =>
    rw [Record.dataSize, packing_of_getN hstrategy] at hsize
    cases hsize

/-- A getter has no fields but those of its arguments. -/
theorem fields_of_getN (h : command.IsLaidOut) (hstrategy : command.record.strategy = .getN) :
    command.fields = command.arguments.flatMap Argument.mapping := by
  have hcount : command.count = none := by
    have hcounted := h.counted
    rw [packing_of_getN hstrategy] at hcounted
    simpa using hcounted.trans (by decide : _ = false)
  have hresult : command.result = none := by
    have hanswered := h.answered
    rw [hstrategy] at hanswered
    simpa using hanswered.trans (by decide : _ = false)
  have hclient : command.clientId = none := by
    have hcreated := h.created
    rw [hstrategy] at hcreated
    simpa using hcreated.trans (by decide : _ = false)
  rw [h.fields, trailingMapping, hcount, hresult, hclient]
  exact List.append_nil _

/-- A getter has an argument for its result exactly if its last argument is a pointer. -/
theorem exists_result_iff (h : command.IsLaidOut) (hstrategy : command.record.strategy = .getN) :
    (∃ argument ∈ command.arguments, ∃ id offset, argument.layout = .result id offset) ↔
      ∃ param, command.record.arguments.getLast? = some param ∧ param.type.isPointer = true := by
  rw [← h.params, List.getLast?_map, List.getLast?_eq_getElem?]
  constructor
  · rintro ⟨argument, hargument, id, offset, hlayout⟩
    obtain ⟨index, hindex⟩ := List.getElem?_of_mem hargument
    obtain ⟨-, hlast⟩ := h.last_of_result hindex hlayout
    have hchosen := h.chosen index argument hindex
    rw [hlayout] at hchosen
    refine ⟨argument.param, ?_, ?_⟩
    · rw [← hlast, Nat.add_sub_cancel, hindex]
      rfl
    · cases hchosen with
      | result hpointer hresult => exact hpointer
      | data hpointer hresult hsize hdata htransfer => cases hdata
  · rintro ⟨param, hlast, hpointer⟩
    obtain ⟨argument, hindex, rfl⟩ := Option.map_eq_some_iff.mp hlast
    refine ⟨argument, List.mem_of_getElem? hindex, ?_⟩
    have hchosen := h.chosen _ argument hindex
    have hpositive : command.arguments.length ≠ 0 := by
      intro hempty
      rw [List.length_eq_zero_iff.mp hempty] at hindex
      cases hindex
    have hresult : command.record.isResult (command.arguments.length - 1) = true := by
      rw [Record.isResult, hstrategy, ← h.length_arguments, Nat.sub_add_cancel (by omega)]
      simp
    generalize argument.layout = layout at hchosen ⊢
    cases hchosen with
    | word hkind hnarrow =>
      rw [ScalarKind.isPointer_of_ofType? hkind] at hpointer
      cases hpointer
    | split hkind =>
      rw [ScalarKind.isPointer_of_ofType? hkind] at hpointer
      cases hpointer
    | result hpointer hresult => exact ⟨_, _, rfl⟩
    | data hpointer hother hsize hdata htransfer =>
      rw [hresult] at hother
      cases hother

/-- The names of the two halves end in digits, unlike those of a location. -/
theorem not_mem_mapping_of_split {low high : Nat} (hlayout : argument.layout = .split low high)
    {field : Field} (hfield : field ∈ resultMapping) :
    field.name ∉ argument.mapping.map Field.name := by
  have hlast : ∀ half : String, half = "_0" ∨ half = "_1" →
      (argument.name ++ half).toList.getLast? = half.toList.getLast? := by
    intro half hhalf
    rw [String.toList_append, List.getLast?_append]
    rcases hhalf with rfl | rfl <;> rfl
  rw [Argument.mapping, hlayout]
  intro hname
  simp only [List.map_cons, List.map_nil, List.mem_cons, List.not_mem_nil, or_false] at hname
  obtain ⟨half, hhalf, hname⟩ : ∃ half, (half = "_0" ∨ half = "_1") ∧
      field.name = argument.name ++ half := by
    rcases hname with hname | hname
    · exact ⟨_, .inl rfl, hname⟩
    · exact ⟨_, .inr rfl, hname⟩
  have hsame := hlast half hhalf
  rw [← hname] at hsame
  simp only [resultMapping, List.mem_cons, List.not_mem_nil, or_false] at hfield
  rcases hhalf with rfl | rfl <;> rcases hfield with rfl | rfl <;> revert hsame <;> decide

/-- Without a result argument, only a plain argument of one word is stored in a field that is called
like one of the result. -/
theorem exists_plain_of_planned (h : command.IsLaidOut)
    (hstrategy : command.record.strategy = .getN)
    (hresult : ¬ ∃ argument ∈ command.arguments, ∃ id offset, argument.layout = .result id offset)
    {field : Field} (hfield : field ∈ resultMapping)
    (hplanned : field.name ∈ (command.arguments.flatMap Argument.mapping).map Field.name) :
    ∃ param ∈ command.record.arguments, param.name = field.name ∧
      ∃ kind, ScalarKind.ofType? param.type = some kind ∧ kind ≠ .u64 := by
  obtain ⟨found, hfound, hname⟩ := List.mem_map.mp hplanned
  obtain ⟨argument, hargument, hmapping⟩ := List.mem_flatMap.mp hfound
  obtain ⟨index, hindex⟩ := List.getElem?_of_mem hargument
  have hdata := h.dataSize?_of_getN hstrategy hindex
  cases hlayout : argument.layout with
  | word position kind =>
    obtain ⟨hkind, hnarrow⟩ := h.kind_of_word hindex hlayout
    rw [Argument.mapping, hlayout, List.mem_singleton] at hmapping
    subst hmapping
    refine ⟨argument.param, ?_, hname, kind, hkind, hnarrow⟩
    rw [← h.params]
    exact List.mem_map_of_mem hargument
  | split low high =>
    exact absurd (hname ▸ List.mem_map_of_mem hmapping)
      (not_mem_mapping_of_split hlayout hfield)
  | shm | bucket | immediate =>
    rw [hlayout] at hdata
    cases hdata
  | result id offset => exact absurd ⟨argument, hargument, id, offset, hlayout⟩ hresult

/-- A plain argument of one word is stored in a field of its own name. -/
theorem mem_mapping_of_plain (h : command.IsLaidOut) {param : Param} {kind : ScalarKind}
    (hparam : param ∈ command.record.arguments) (hkind : ScalarKind.ofType? param.type = some kind)
    (hnarrow : kind ≠ .u64) :
    param.name ∈ (command.arguments.flatMap Argument.mapping).map Field.name := by
  rw [← h.params] at hparam
  obtain ⟨argument, hargument, rfl⟩ := List.mem_map.mp hparam
  obtain ⟨index, hindex⟩ := List.getElem?_of_mem hargument
  rcases h.layout_of_scalar hindex (ScalarKind.isPointer_of_ofType? hkind) with
    ⟨position, other, hlayout⟩ | ⟨low, high, hlayout⟩
  · have hmapping : (⟨argument.name, other.storage⟩ : Field) ∈ argument.mapping := by
      rw [Argument.mapping, hlayout]
      exact List.mem_cons_self
    exact List.mem_map.mpr ⟨_, List.mem_flatMap.mpr ⟨argument, hargument, hmapping⟩, rfl⟩
  · exact absurd (Option.some.inj (hkind.symm.trans (h.kind_of_split hindex hlayout))) hnarrow

/-- The fields of the result are planned for a pointer in the last place, or by accident. -/
theorem fields_of_getN_iff (h : command.IsLaidOut) (hstrategy : command.record.strategy = .getN) :
    (∀ field ∈ resultMapping, field.name ∈ command.fields.map Field.name) ↔
      command.record.LocatesResult := by
  rw [h.fields_of_getN hstrategy, Record.LocatesResult, ← h.exists_result_iff hstrategy]
  constructor
  · intro hplanned
    by_cases hresult : ∃ argument ∈ command.arguments, ∃ id offset,
        argument.layout = .result id offset
    · exact .inl hresult
    · exact .inr fun field hfield =>
        h.exists_plain_of_planned hstrategy hresult hfield (hplanned field hfield)
  · rintro (⟨argument, hargument, id, offset, hlayout⟩ | hplain) field hfield
    · refine List.mem_map_of_mem (List.mem_flatMap.mpr ⟨argument, hargument, ?_⟩)
      rwa [Argument.mapping, hlayout]
    · obtain ⟨param, hparam, hname, kind, hkind, hnarrow⟩ := hplain field hfield
      rw [← hname]
      exact h.mem_mapping_of_plain hparam hkind hnarrow

/-- The fields of the result of a query are always planned. -/
theorem mem_fields_of_is (h : command.IsLaidOut) (hstrategy : command.record.strategy = .is) :
    ∀ field ∈ resultMapping, field.name ∈ command.fields.map Field.name := by
  intro field hfield
  have hanswered := h.answered
  rw [hstrategy] at hanswered
  obtain ⟨result, hresult⟩ := Option.isSome_iff_exists.mp hanswered
  rw [h.fields, trailingMapping, hresult]
  refine List.mem_map_of_mem (List.mem_append_right _ (List.mem_append_left _ ?_))
  exact List.mem_append_right _ (by simpa using hfield)

/-- The fields of a result are planned, unless a getter has no place for it. -/
theorem locatesResult_iff (h : command.IsLaidOut)
    (hstrategy : command.record.strategy.returnsThroughSharedMemory = true) :
    (∀ field ∈ resultMapping, field.name ∈ command.fields.map Field.name) ↔
      (command.record.strategy = .getN → command.record.LocatesResult) := by
  cases hcase : command.record.strategy <;> rw [hcase] at hstrategy <;> cases hstrategy
  · rw [h.fields_of_getN_iff hcase]
    exact ⟨fun hlocated _ => hlocated, fun hlocated => hlocated rfl⟩
  · exact ⟨fun _ hgetter => absurd hgetter (by decide), fun _ => h.mem_fields_of_is hcase⟩

theorem hasField_result_iff (h : command.IsLaidOut)
    (hstrategy : command.record.strategy.returnsThroughSharedMemory = true) :
    (∀ name ∈ Handler.resultReads command, command.HasField name) ↔
      (command.record.strategy = .getN → command.record.LocatesResult) := by
  rw [← h.locatesResult_iff hstrategy, Handler.resultReads, if_pos hstrategy,
    List.forall_mem_map]
  refine forall₂_congr fun field hfield => ?_
  have hfree : field.name ∉ keywords ∧ Name.IsUnmarked field.name := by
    simp only [resultMapping, List.mem_cons, List.not_mem_nil, or_false] at hfield
    rcases hfield with rfl | rfl <;> decide
  simp only [HasField, List.mem_map]
  refine exists_congr fun planned => and_congr_right fun _ => ?_
  exact Name.escaped_spelling_eq_iff hfree.1 hfree.2

end Command.IsLaidOut

namespace Protocol

variable {protocol : Protocol} {records : List Record} {commands : List Command}

/-- A handler reads no field but the planned ones, and the location of a result has its two fields,
exactly if no getter lacks a place for its result. -/
theorem handler_fields_iff (hcommands : protocol.commands records = .ok commands)
    (hcommand : command ∈ commands) (validators : ValidatorSet) :
    (command.ReadsFields validators ↔
      (command.record.strategy = .getN → command.record.LocatesResult)) ∧
    (command.record.strategy = .getN ∨ command.record.strategy = .is →
      ((∀ field ∈ resultMapping, (command.fields.map Field.name).count field.name = 1) ↔
        (command.record.strategy = .getN → command.record.LocatesResult))) := by
  have h := isLaidOut_of_commands hcommands command hcommand
  constructor
  · rw [h.readsFields_iff]
    by_cases hstrategy : command.record.strategy.returnsThroughSharedMemory = true
    · exact h.hasField_result_iff hstrategy
    · rw [Handler.resultReads, if_neg hstrategy]
      refine ⟨fun _ hgetter => ?_, fun _ name hname => absurd hname List.not_mem_nil⟩
      rw [hgetter] at hstrategy
      exact absurd rfl hstrategy
  · intro hstrategy
    rw [← h.locatesResult_iff (by rcases hstrategy with hcase | hcase <;> rw [hcase] <;> rfl)]
    refine forall₂_congr fun field _ => ?_
    exact ⟨fun hone => List.count_pos_iff.mp (by omega), List.count_eq_one_of_mem h.nodup⟩

end Protocol

/-! ## A getter with a result and one without -/

def getterProtocol : Protocol where
  name := "Getter"
  filePrefix := "getter"
  description := "Getters with and without a pointer"
  commandBase := 256
  supportPath := "crate::support"
  types := {}
  overrides := ⟨[{ name := "GetLimit", strategy := some .getN }]⟩
  functions := "void GetIntegerv(GLenum pname, GLint* params);
    void GetLimit(GLenum pname);"

def integerParams : List Param :=
  [⟨{ base := "GLenum" }, "pname"⟩, ⟨{ base := "GLint", pointerDepth := 1 }, "params"⟩]

def integerRecord : Record :=
  .merge { name := "GetIntegerv", returnType := .void, params := integerParams, line := 1 }
    { name := "GetIntegerv" } integerParams .getN [.shm]

def integerCommand : Command where
  record := integerRecord
  transfer := .shm
  name := "GetIntegerv"
  id := 256
  fields := [⟨"pname", .u32⟩, ⟨"result_shm_id", .u32⟩, ⟨"result_shm_offset", .u32⟩]
  arguments := List.zipWith Argument.mk integerParams [.word 0 .u32, .result 1 2]
  count := none
  result := none
  clientId := none

def limitParams : List Param := [⟨{ base := "GLenum" }, "pname"⟩]

def limitRecord : Record :=
  .merge { name := "GetLimit", returnType := .void, params := limitParams, line := 2 }
    { name := "GetLimit" } limitParams .getN [.shm]

def limitCommand : Command where
  record := limitRecord
  transfer := .shm
  name := "GetLimit"
  id := 257
  fields := [⟨"pname", .u32⟩]
  arguments := List.zipWith Argument.mk limitParams [.word 0 .u32]
  count := none
  result := none
  clientId := none

theorem records_getter : getterProtocol.records = .ok [integerRecord, limitRecord] := by
  decide +kernel

theorem commands_getter : getterProtocol.commands [integerRecord, limitRecord]
    = .ok [integerCommand, limitCommand] := rfl

/-- The handler of the first getter reads fields that exist, and finds its result there. -/
theorem handler_fields_integer :
    integerCommand.ReadsFields (getterProtocol.validators [integerRecord, limitRecord]) ∧
      ∀ field ∈ resultMapping, (integerCommand.fields.map Field.name).count field.name = 1 :=
  have h := Protocol.handler_fields_iff commands_getter List.mem_cons_self
    (getterProtocol.validators [integerRecord, limitRecord])
  have hlast : integerCommand.record.LocatesResult := .inl ⟨_, rfl, rfl⟩
  ⟨h.1.mpr fun _ => hlast, (h.2 (.inl rfl)).mpr fun _ => hlast⟩

/-- The handler of the second getter reads a location that its struct has no fields for. -/
theorem handler_fields_missing_limit :
    getterProtocol.records = .ok [integerRecord, limitRecord] ∧
    getterProtocol.commands [integerRecord, limitRecord] = .ok [integerCommand, limitCommand] ∧
    limitCommand.record.strategy = .getN ∧ limitCommand.fields.map Field.name = ["pname"] ∧
    Handler.fieldReads (Handler.function (getterProtocol.validators [integerRecord, limitRecord])
      limitCommand).body
      = [.escaped "pname", .verbatim "result_shm_id", .verbatim "result_shm_offset"] ∧
    ¬ limitCommand.ReadsFields (getterProtocol.validators [integerRecord, limitRecord]) := by
  have hreads : Handler.fieldReads (Handler.function
      (getterProtocol.validators [integerRecord, limitRecord]) limitCommand).body
      = [.escaped "pname", .verbatim "result_shm_id", .verbatim "result_shm_offset"] := rfl
  refine ⟨records_getter, commands_getter, rfl, rfl, hreads, fun h => ?_⟩
  obtain ⟨field, hfield, hname⟩ := h (.verbatim "result_shm_id") (by rw [hreads]; decide)
  rw [List.mem_singleton.mp hfield] at hname
  exact absurd hname (by decide)

end CommandBuffer
