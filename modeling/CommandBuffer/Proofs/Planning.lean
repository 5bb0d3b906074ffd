import CommandBuffer.Layout.Plan
import CommandBuffer.Proofs.Records

/-! # Planned fields

A command is planned by a walk over its arguments that appends fields to a list. The
fields of each argument are a block of the final list, in the order of the arguments,
and the blocks of the trailing fields follow them. Every step appends exactly what
the field mapping lists, at the positions that the layout records.
-/

namespace CommandBuffer

open Success

/-! ## The field mapping -/

/-- The fields of a result that comes back through shared memory. -/
def resultMapping : List Field := [⟨"result_shm_id", .u32⟩, ⟨"result_shm_offset", .u32⟩]

namespace Argument

/-- The fields that the layout of an argument asks for. -/
def mapping (argument : Argument) : List Field :=
  match argument.layout with
  | .word _ kind => [⟨argument.name, kind.storage⟩]
  | .split .. => [⟨argument.name ++ "_0", .u32⟩, ⟨argument.name ++ "_1", .u32⟩]
  | .shm .. => [⟨argument.name ++ "_shm_id", .u32⟩, ⟨argument.name ++ "_shm_offset", .u32⟩]
  | .bucket .. => [⟨argument.name ++ "_bucket_id", .u32⟩]
  | .immediate _ => []
  | .result .. => resultMapping

end Argument

namespace Command

/-- The fields behind those of the arguments: the count, the result and the client id. -/
def trailingMapping (command : Command) : List Field :=
  command.count.toList.map (fun _ => ⟨"count", .u32⟩)
    ++ command.result.toList.flatMap (fun _ => resultMapping)
    ++ command.clientId.toList.map fun _ => ⟨"client_id", .u32⟩

end Command

/-! ## Appending fields -/

namespace FieldList

/-- No two fields share a name, and none is called like the header. -/
structure IsDistinct (list : FieldList) : Prop where
  nodup : (list.fields.map Field.name).Nodup
  header : "header" ∉ list.fields.map Field.name

/-- The second list is the first with fields behind it, which stand at the positions. -/
structure Appends (before : FieldList) (positions : List Nat) (added : List Field)
    (after : FieldList) : Prop where
  fields : after.fields = before.fields ++ added
  positions : positions = List.range' before.fields.length added.length
  distinct : before.IsDistinct → after.IsDistinct

namespace Appends

variable {first second third : FieldList} {positions others : List Nat} {added more : List Field}

theorem refl (list : FieldList) : list.Appends [] [] list where
  fields := (List.append_nil _).symm
  positions := rfl
  distinct := id

theorem trans (h : first.Appends positions added second) (h' : second.Appends others more third) :
    first.Appends (positions ++ others) (added ++ more) third where
  fields := by rw [h'.fields, h.fields, List.append_assoc]
  positions := by
    have hlength : second.fields.length = first.fields.length + added.length := by
      rw [h.fields, List.length_append]
    rw [h.positions, h'.positions, hlength, List.length_append, List.range'_append_1]
  distinct := h'.distinct ∘ h.distinct

/-- The positions hold the added fields, also when more fields follow. -/
theorem getElem? (h : first.Appends positions added second) {fields : List Field}
    (hfields : second.fields <+: fields) :
    positions.map (fields[·]?) = added.map some := by
  rcases hfields with ⟨rest, rfl⟩
  rw [h.positions, h.fields]
  apply List.ext_getElem?
  intro i
  rw [List.getElem?_map, List.getElem?_map]
  by_cases hi : i < added.length
  · rw [List.getElem?_range' hi, Option.map_some, List.getElem?_append_left (by simp; omega),
      List.getElem?_append_right (by omega)]
    simp [hi]
  · rw [List.getElem?_eq_none (by simpa using hi), List.getElem?_eq_none (by simpa using hi)]
    rfl

end Appends

theorem appends_of_push {list after : FieldList} {name : String} {type : StorageType} {field : Nat}
    (h : list.push name type = .ok (field, after)) : list.Appends [field] [⟨name, type⟩] after := by
  unfold push at h
  split at h
  · cases h
  · rename_i hfree
    obtain ⟨hheader, htaken⟩ := not_or.mp hfree
    cases h
    constructor
    · rfl
    · rfl
    · intro hdistinct
      constructor
      · rw [List.map_append, List.nodup_append]
        refine ⟨hdistinct.nodup, List.pairwise_singleton _ _, ?_⟩
        intro earlier hearlier later hlater hsame
        rw [hsame, List.mem_singleton.mp hlater] at hearlier
        obtain ⟨taken, hmem, hname⟩ := List.mem_map.mp hearlier
        exact htaken (List.any_eq_true.mpr ⟨taken, hmem, by simpa using hname⟩)
      · rw [List.map_append, List.mem_append]
        rintro (hmem | hmem)
        · exact hdistinct.header hmem
        · exact hheader (List.mem_singleton.mp hmem).symm

theorem appends_of_pushPair {list after : FieldList} {first second : String} {a b : Nat}
    (h : list.pushPair first second = .ok ((a, b), after)) :
    list.Appends [a, b] [⟨first, .u32⟩, ⟨second, .u32⟩] after := by
  unfold pushPair at h
  obtain ⟨⟨x, middle⟩, hfirst, h⟩ := bind_eq_ok.mp h
  obtain ⟨⟨y, last⟩, hsecond, h⟩ := bind_eq_ok.mp h
  cases pure_eq_ok.mp h
  exact (appends_of_push hfirst).trans (appends_of_push hsecond)

end FieldList

/-! ## Why an argument has its layout -/

theorem ScalarKind.isPointer_of_ofType? {type : CType} {kind : ScalarKind}
    (h : ofType? type = some kind) : type.isPointer = false := by
  unfold ofType? at h
  split at h
  · cases h
  · rename_i hscalar
    simpa using hscalar

namespace Layout

/-- The transfer method of a layout that moves data to the service. -/
def transfer? : Layout → Option Transfer
  | shm .. => some .shm
  | bucket .. => some .bucket
  | immediate _ => some .immediate
  | word .. | split .. | result .. => none

end Layout

namespace Record

/-- The reasons for which the planner chooses a layout for the argument at a position. -/
inductive Chooses (record : Record) (transfer : Transfer) (index : Nat) (param : Param) :
    Layout → Prop where
  | word {field : Nat} {kind : ScalarKind} (hkind : ScalarKind.ofType? param.type = some kind)
      (hnarrow : kind ≠ .u64) : Chooses record transfer index param (.word field kind)
  | split {low high : Nat} (hkind : ScalarKind.ofType? param.type = some .u64) :
      Chooses record transfer index param (.split low high)
  | result {id offset : Nat} (hpointer : param.type.isPointer = true)
      (hresult : record.isResult index = true) :
      Chooses record transfer index param (.result id offset)
  | data {layout : Layout} {size : DataSize} (hpointer : param.type.isPointer = true)
      (hresult : record.isResult index = false) (hsize : record.dataSize index param = .ok size)
      (hlayout : layout.dataSize? = some size) (htransfer : layout.transfer? = some transfer) :
      Chooses record transfer index param layout

/-! ## Planning an argument -/

/-- What the plan of one argument establishes: the fields that it appends, and why. -/
structure Plans (record : Record) (transfer : Transfer) (index : Nat) (param : Param)
    (list : FieldList) (layout : Layout) (after : FieldList) : Prop where
  appends : list.Appends layout.fields (Argument.mapping ⟨param, layout⟩) after
  chosen : record.Chooses transfer index param layout

variable {record : Record} {transfer : Transfer} {index : Nat} {param : Param} {layout : Layout}
  {list after : FieldList}

theorem plans_of_planScalar (h : record.planScalar param list = .ok (layout, after)) :
    record.Plans transfer index param list layout after := by
  unfold planScalar at h
  split at h
  · exact absurd h throw_ne_ok
  · rename_i hkind
    obtain ⟨⟨⟨low, high⟩, pushed⟩, hpush, h⟩ := bind_eq_ok.mp h
    cases pure_eq_ok.mp h
    exact ⟨FieldList.appends_of_pushPair hpush, .split hkind⟩
  · rename_i kind hnarrow hkind
    obtain ⟨⟨field, pushed⟩, hpush, h⟩ := bind_eq_ok.mp h
    cases pure_eq_ok.mp h
    exact ⟨FieldList.appends_of_push hpush, .word hkind hnarrow⟩

/-- Data keeps its size and takes the transfer method of the command. -/
theorem appends_of_planData {size : DataSize}
    (h : planData transfer param size list = .ok (layout, after)) :
    list.Appends layout.fields (Argument.mapping ⟨param, layout⟩) after ∧
      layout.dataSize? = some size ∧ layout.transfer? = some transfer := by
  unfold planData at h
  cases transfer with
  | immediate =>
    cases pure_eq_ok.mp h
    exact ⟨.refl list, rfl, rfl⟩
  | shm =>
    obtain ⟨⟨⟨id, offset⟩, pushed⟩, hpush, h⟩ := bind_eq_ok.mp h
    cases pure_eq_ok.mp h
    exact ⟨FieldList.appends_of_pushPair hpush, rfl, rfl⟩
  | bucket =>
    obtain ⟨⟨id, pushed⟩, hpush, h⟩ := bind_eq_ok.mp h
    cases pure_eq_ok.mp h
    exact ⟨FieldList.appends_of_push hpush, rfl, rfl⟩

/-- One argument appends the fields of its mapping, where its layout says. -/
theorem plans_of_planArgument
    (h : record.planArgument transfer index param list = .ok (layout, after)) :
    record.Plans transfer index param list layout after := by
  unfold planArgument at h
  split at h
  · exact plans_of_planScalar h
  · rename_i hpointer
    have hpointer : param.type.isPointer = true := by simpa using hpointer
    split at h
    · rename_i hresult
      obtain ⟨⟨⟨id, offset⟩, pushed⟩, hpush, h⟩ := bind_eq_ok.mp h
      cases pure_eq_ok.mp h
      exact ⟨FieldList.appends_of_pushPair hpush, .result hpointer hresult⟩
    · rename_i hresult
      split at h
      · exact absurd h throw_ne_ok
      · obtain ⟨size, hsize, h⟩ := bind_eq_ok.mp h
        obtain ⟨happends, hlayout, htransfer⟩ := appends_of_planData h
        exact ⟨happends, .data hpointer (by simpa using hresult) hsize hlayout htransfer⟩

/-! ## Planning a command -/

/-- What the walk over the arguments establishes, given the position of the first. -/
theorem plans_of_planArguments {params : List Param} {arguments : List Argument}
    (h : record.planArguments transfer index params list = .ok (arguments, after)) :
    arguments.map Argument.param = params ∧
      list.Appends (arguments.flatMap (·.layout.fields)) (arguments.flatMap Argument.mapping)
        after ∧
      (∀ fields, after.fields <+: fields → ∀ argument ∈ arguments,
        argument.layout.fields.map (fields[·]?) = argument.mapping.map some) ∧
      ∀ i argument, arguments[i]? = some argument →
        record.Chooses transfer (index + i) argument.param argument.layout := by
  induction params generalizing index list arguments with
  | nil =>
    cases h
    refine ⟨rfl, .refl _, fun _ _ _ hmem => absurd hmem List.not_mem_nil, ?_⟩
    intro i argument hi
    cases hi
  | cons param params ih =>
    rw [planArguments] at h
    obtain ⟨⟨layout, middle⟩, hargument, h⟩ := bind_eq_ok.mp h
    obtain ⟨⟨others, last⟩, hothers, h⟩ := bind_eq_ok.mp h
    cases pure_eq_ok.mp h
    obtain ⟨hfirst, hchosen⟩ := plans_of_planArgument hargument
    obtain ⟨hparams, hrest, hblocks, hothersChosen⟩ := ih hothers
    refine ⟨by rw [List.map_cons, hparams], hfirst.trans hrest, ?_, ?_⟩
    · intro fields hfields argument hmem
      rcases List.mem_cons.mp hmem with rfl | hmem
      · refine hfirst.getElem? (List.IsPrefix.trans ?_ hfields)
        rw [hrest.fields]
        exact List.prefix_append _ _
      · exact hblocks fields hfields argument hmem
    · intro i argument hi
      cases i with
      | zero =>
        cases hi
        exact hchosen
      | succ i =>
        have hlater := hothersChosen i argument hi
        rwa [Nat.succ_add_eq_add_succ] at hlater

/-- A count has a field exactly if the directives ask for it at run time. -/
theorem appends_of_planCount {count : Option Nat}
    (h : record.planCount list = .ok (count, after)) :
    list.Appends count.toList (count.toList.map fun _ => ⟨"count", .u32⟩) after ∧
      count.isSome = record.packing.putSizing.any (·.hasRuntimeCount) := by
  unfold planCount at h
  split at h
  · rename_i hcount
    obtain ⟨⟨field, pushed⟩, hpush, h⟩ := bind_eq_ok.mp h
    cases pure_eq_ok.mp h
    exact ⟨FieldList.appends_of_push hpush, hcount.symm⟩
  · rename_i hcount
    cases pure_eq_ok.mp h
    exact ⟨.refl list, by simpa using hcount⟩

/-- A result of the command itself has fields exactly if the command is a query. -/
theorem appends_of_planResult {result : Option ResultFields}
    (h : record.planResult list = .ok (result, after)) :
    list.Appends (result.toList.flatMap fun r => [r.id, r.offset])
        (result.toList.flatMap fun _ => resultMapping) after ∧
      result.isSome = (record.strategy == .is) := by
  unfold planResult at h
  split at h
  · rename_i hstrategy
    obtain ⟨⟨⟨id, offset⟩, pushed⟩, hpush, h⟩ := bind_eq_ok.mp h
    cases pure_eq_ok.mp h
    exact ⟨FieldList.appends_of_pushPair hpush, by simp [hstrategy]⟩
  · rename_i hstrategy
    cases pure_eq_ok.mp h
    exact ⟨.refl list, by simpa using hstrategy⟩

theorem appends_of_planClientId {clientId : Option Nat}
    (h : record.planClientId list = .ok (clientId, after)) :
    list.Appends clientId.toList (clientId.toList.map fun _ => ⟨"client_id", .u32⟩) after ∧
      clientId.isSome = (record.strategy == .create) := by
  unfold planClientId at h
  split at h
  · rename_i hstrategy
    obtain ⟨⟨field, pushed⟩, hpush, h⟩ := bind_eq_ok.mp h
    cases pure_eq_ok.mp h
    exact ⟨FieldList.appends_of_push hpush, by simp [hstrategy]⟩
  · rename_i hstrategy
    cases pure_eq_ok.mp h
    exact ⟨.refl list, by simpa using hstrategy⟩

end Record

/-! ## Sizes of data -/

namespace Record

/-- What the directives ask for when data has a size. -/
inductive Sizes (record : Record) (index : Nat) : DataSize → Prop where
  | fixed {count : Nat} (hpacking : record.packing = .put ⟨some count, false⟩) :
      Sizes record index (.fixed count)
  | atMost {count : Nat} (hpacking : record.packing = .put ⟨some count, true⟩) :
      Sizes record index (.atMost count)
  | units {counter units : Nat} {hasRuntimeCount : Bool}
      (hpacking : record.packing = .putN ⟨some units, hasRuntimeCount⟩)
      (hcounter : record.countedBy? index = some counter) :
      Sizes record index (.counted counter units)
  | ids {counter : Nat} (hpacking : record.packing.putSizing = none)
      (hcounter : record.countedBy? index = some counter) :
      Sizes record index (.counted counter 1)
  | unsized (hpacking : record.packing = .custom) : Sizes record index .unsized

variable {record : Record} {index : Nat} {param : Param}

theorem countedBy?_of_counted {units : Nat} {size : DataSize}
    (h : dataSize.counted record index units = .ok size) :
    ∃ counter, record.countedBy? index = some counter ∧ size = .counted counter units := by
  unfold dataSize.counted at h
  split at h
  · rename_i counter hcounter
    cases h
    exact ⟨counter, hcounter, rfl⟩
  · cases h

theorem sizes_of_dataSize {size : DataSize} (h : record.dataSize index param = .ok size) :
    record.Sizes index size := by
  unfold dataSize at h
  split at h
  · rename_i hpacking
    cases h
    exact .unsized hpacking
  · rename_i count hasRuntimeCount hpacking
    cases hasRuntimeCount with
    | false => cases h; exact .fixed hpacking
    | true => cases h; exact .atMost hpacking
  · rename_i hpacking
    obtain ⟨counter, hcounter, rfl⟩ := countedBy?_of_counted h
    exact .units hpacking hcounter
  · cases h
  · cases h
  · rename_i hpacking
    obtain ⟨counter, hcounter, rfl⟩ := countedBy?_of_counted h
    exact .ids (by rw [hpacking]; rfl) hcounter
  · rename_i hpacking
    obtain ⟨counter, hcounter, rfl⟩ := countedBy?_of_counted h
    exact .ids (by rw [hpacking]; rfl) hcounter
  all_goals cases h

/-- The counter is a plain argument of the counting type, right before the data. -/
theorem counter_of_countedBy? {counter : Nat} (h : record.countedBy? index = some counter) :
    ∃ param, record.arguments[counter]? = some param ∧ param.isCount = true := by
  unfold countedBy? at h
  split at h
  · cases h
  · split at h
    · rename_i previous hcount
      cases h
      exact (Option.any_eq_true _ _).mp hcount
    · cases h

end Record

/-! ## A planned command -/

namespace Command

/-- The blocks of fields of a planned command. -/
structure IsLaidOut (command : Command) : Prop where
  params : command.arguments.map Argument.param = command.record.arguments
  positions : command.arguments.flatMap (·.layout.fields) ++ command.trailingFields
    = List.range command.fields.length
  fields : command.fields = command.arguments.flatMap Argument.mapping ++ command.trailingMapping
  blocks : ∀ argument ∈ command.arguments,
    argument.layout.fields.map (command.fields[·]?) = argument.mapping.map some
  trailing : command.trailingFields.map (command.fields[·]?) = command.trailingMapping.map some
  nodup : (command.fields.map Field.name).Nodup
  header : "header" ∉ command.fields.map Field.name
  chosen : ∀ i argument, command.arguments[i]? = some argument →
    command.record.Chooses command.transfer i argument.param argument.layout
  counted : command.count.isSome = command.record.packing.putSizing.any (·.hasRuntimeCount)
  answered : command.result.isSome = (command.record.strategy == .is)
  created : command.clientId.isSome = (command.record.strategy == .create)

end Command

namespace Record

/-- Every command that the planner accepts is laid out in blocks. -/
theorem isLaidOut_of_plan {record : Record} {transfer : Transfer} {id : Nat} {command : Command}
    (h : record.plan transfer id = .ok command) : command.IsLaidOut := by
  unfold plan at h
  obtain ⟨⟨arguments, list₁⟩, harguments, h⟩ := bind_eq_ok.mp h
  obtain ⟨⟨count, list₂⟩, hcount, h⟩ := bind_eq_ok.mp h
  obtain ⟨⟨result, list₃⟩, hresult, h⟩ := bind_eq_ok.mp h
  obtain ⟨⟨clientId, list₄⟩, hclientId, h⟩ := bind_eq_ok.mp h
  cases pure_eq_ok.mp h
  obtain ⟨hparams, hblock, hblocks, hchosen⟩ := plans_of_planArguments harguments
  obtain ⟨hcountBlock, hcounted⟩ := appends_of_planCount hcount
  obtain ⟨hresultBlock, hanswered⟩ := appends_of_planResult hresult
  obtain ⟨hclientBlock, hcreated⟩ := appends_of_planClientId hclientId
  have htrailing := (hcountBlock.trans hresultBlock).trans hclientBlock
  have hall := hblock.trans htrailing
  have hempty : FieldList.IsDistinct { command := record.name ++ transfer.commandSuffix } :=
    ⟨List.nodup_nil, List.not_mem_nil⟩
  have hfields := hall.fields
  rw [List.nil_append] at hfields
  have hprefix : list₁.fields <+: list₄.fields := by
    rw [htrailing.fields]
    exact List.prefix_append _ _
  exact {
    params := hparams
    positions := by
      rw [hfields, List.range_eq_range']
      exact hall.positions
    fields := hfields
    blocks := hblocks _ hprefix
    trailing := htrailing.getElem? (List.prefix_refl _)
    nodup := (hall.distinct hempty).nodup
    header := (hall.distinct hempty).header
    chosen := by
      intro i argument hi
      have hlayout := hchosen i argument hi
      rwa [Nat.zero_add] at hlayout
    counted := hcounted
    answered := hanswered
    created := hcreated }

end Record

namespace Command.IsLaidOut

variable {command : Command} {index : Nat} {argument : Argument} {size : DataSize}

theorem length_arguments (h : command.IsLaidOut) :
    command.arguments.length = command.record.arguments.length := by
  rw [← h.params, List.length_map]

/-- A plain argument takes one word or two. -/
theorem layout_of_scalar (h : command.IsLaidOut)
    (hargument : command.arguments[index]? = some argument)
    (hscalar : argument.param.type.isPointer = false) :
    (∃ field kind, argument.layout = .word field kind) ∨
      ∃ low high, argument.layout = .split low high := by
  have hchosen := h.chosen index argument hargument
  generalize argument.layout = layout at hchosen
  cases hchosen with
  | word hkind hnarrow => exact .inl ⟨_, _, rfl⟩
  | split hkind => exact .inr ⟨_, _, rfl⟩
  | result hpointer hresult =>
    rw [hscalar] at hpointer
    cases hpointer
  | data hpointer hresult hsize hdata htransfer =>
    rw [hscalar] at hpointer
    cases hpointer

/-- An argument of one word has a kind of at most 32 bits. -/
theorem kind_of_word (h : command.IsLaidOut) (hargument : command.arguments[index]? = some argument)
    {field : Nat} {kind : ScalarKind} (hlayout : argument.layout = .word field kind) :
    ScalarKind.ofType? argument.param.type = some kind ∧ kind ≠ .u64 := by
  have hchosen := h.chosen index argument hargument
  rw [hlayout] at hchosen
  cases hchosen with
  | word hkind hnarrow => exact ⟨hkind, hnarrow⟩
  | data hpointer hresult hsize hdata htransfer => cases hdata

/-- An argument of two words has 64 bits. -/
theorem kind_of_split (h : command.IsLaidOut)
    (hargument : command.arguments[index]? = some argument) {low high : Nat}
    (hlayout : argument.layout = .split low high) :
    ScalarKind.ofType? argument.param.type = some .u64 := by
  have hchosen := h.chosen index argument hargument
  rw [hlayout] at hchosen
  cases hchosen with
  | split hkind => exact hkind
  | data hpointer hresult hsize hdata htransfer => cases hdata

/-- An argument with data is a pointer whose size the directives ask for. -/
theorem sizes_of_dataSize? (h : command.IsLaidOut)
    (hargument : command.arguments[index]? = some argument)
    (hsize : argument.layout.dataSize? = some size) :
    argument.param.type.isPointer = true ∧ command.record.Sizes index size ∧
      argument.layout.transfer? = some command.transfer := by
  have hchosen := h.chosen index argument hargument
  generalize argument.layout = layout at hchosen hsize ⊢
  cases hchosen with
  | word hkind hnarrow => cases hsize
  | split hkind => cases hsize
  | result hpointer hresult => cases hsize
  | data hpointer hresult hdata hlayout htransfer =>
    rw [hlayout] at hsize
    cases hsize
    exact ⟨hpointer, Record.sizes_of_dataSize hdata, htransfer⟩

/-- Counted data is counted by the argument right before it. -/
theorem countedBy?_of_counted (h : command.IsLaidOut) {counter units : Nat}
    (hargument : command.arguments[index]? = some argument)
    (hsize : argument.layout.dataSize? = some (.counted counter units)) :
    command.record.countedBy? index = some counter := by
  obtain ⟨-, hsizes, -⟩ := h.sizes_of_dataSize? hargument hsize
  cases hsizes with
  | units hpacking hcounter => exact hcounter
  | ids hpacking hcounter => exact hcounter

theorem exists_of_immediate? (himmediate : command.immediate? = some (argument, size)) :
    ∃ index : Nat, command.arguments[index]? = some argument ∧
      argument.layout = .immediate size := by
  obtain ⟨found, hmem, hfound⟩ := List.exists_of_findSome?_eq_some himmediate
  obtain ⟨index, hindex⟩ := List.getElem?_of_mem hmem
  split at hfound
  · rename_i found' hlayout
    cases hfound
    exact ⟨index, hindex, hlayout⟩
  · cases hfound

/-- Data is counted by a signed one-word argument. -/
theorem counter_of_countedBy? (h : command.IsLaidOut) {counter : Nat}
    (hcounter : command.record.countedBy? index = some counter) :
    ∃ argument field, command.arguments[counter]? = some argument ∧ argument.base = "GLsizei" ∧
      argument.layout = .word field .i32 := by
  obtain ⟨param, hparam, hcount⟩ := Record.counter_of_countedBy? hcounter
  rw [Param.isCount, Bool.and_eq_true, beq_iff_eq] at hcount
  rcases hcount with ⟨hbase, hplain⟩
  rw [← h.params, List.getElem?_map] at hparam
  obtain ⟨argument, hargument, rfl⟩ := Option.map_eq_some_iff.mp hparam
  have hkind : ScalarKind.ofType? argument.param.type = some .i32 := by
    have hsigned : ScalarKind.ofBase? "GLsizei" = some .i32 := by decide
    rw [ScalarKind.ofType?, hbase, if_neg (by simpa using hplain), hsigned]
    rfl
  refine ⟨argument, ?_⟩
  have hchosen := h.chosen counter argument hargument
  generalize argument.layout = layout at hchosen ⊢
  cases hchosen with
  | word hword hnarrow =>
    rw [hkind] at hword
    cases hword
    exact ⟨_, hargument, hbase, rfl⟩
  | split hsplit =>
    rw [hkind] at hsplit
    cases hsplit
  | result hpointer hresult => simp [hpointer] at hplain
  | data hpointer hresult hdata hlayout htransfer => simp [hpointer] at hplain

end Command.IsLaidOut

/-- Every command of a protocol is laid out in blocks. -/
theorem Protocol.isLaidOut_of_commands {protocol : Protocol} {records : List Record}
    {commands : List Command} (hcommands : protocol.commands records = .ok commands) :
    ∀ command ∈ commands, command.IsLaidOut := fun command hcommand =>
  Record.isLaidOut_of_plan (isPlanned_of_commands hcommands command hcommand).plan

end CommandBuffer
