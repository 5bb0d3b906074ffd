import CommandBuffer.Proofs.Admission
import CommandBuffer.Proofs.Partition
import CommandBuffer.Proofs.Sizing

/-! # How pointers are laid out

Neither the planner nor the emitters check a layout again: the first immediate argument is taken for
the only one, and the argument right before counted data for its counter. The builder makes this
right. It admits immediate data only beside a single pointer and results only through shared memory,
so every pointer but a result takes the transfer method of its command, and the size of its data is
one that the strategy has.
-/

namespace CommandBuffer

open Success

namespace Layout

/-- The data of the argument follows the fields. -/
def isImmediate : Layout → Bool
  | immediate _ => true
  | word .. | split .. | shm .. | bucket .. | result .. => false

theorem isImmediate_eq (layout : Layout) :
    layout.isImmediate = (layout.transfer? == some .immediate) := by
  cases layout <;> rfl

theorem exists_of_transfer?_shm {layout : Layout} (h : layout.transfer? = some .shm) :
    ∃ id offset size, layout = .shm id offset size := by
  cases layout <;> cases h
  exact ⟨_, _, _, rfl⟩

theorem exists_of_transfer?_bucket {layout : Layout} (h : layout.transfer? = some .bucket) :
    ∃ id size, layout = .bucket id size := by
  cases layout <;> cases h
  exact ⟨_, _, rfl⟩

end Layout

/-! ## What the builder sees to -/

namespace Record

/-- The command carries its element count. -/
def hasRuntimeCount (record : Record) : Bool := record.packing.putSizing.any (·.hasRuntimeCount)

/-- What the planner relies on in a record that was built. -/
structure PointersSuit (record : Record) : Prop where
  count : ∀ sizing, record.packing.putSizing = some sizing → sizing.count ≠ some 0
  onePointer : .immediate ∈ record.transfers → pointerCount record.arguments = 1
  result : record.strategy = .getN → record.transfers = [.shm]

theorem pointersSuit_of_build {registry : Registry} {declaration : Declaration}
    {directives : Override} {record : Record}
    (h : build registry declaration directives = .ok record) : record.PointersSuit := by
  obtain ⟨arguments, strategy, hadmits, rfl⟩ := build_eq_ok_iff.mp h
  constructor
  · intro sizing hsizing
    rw [count_of_putSizing hsizing]
    exact hadmits.countNotZero
  · exact pointers_of_immediate hadmits.request
  · intro hstrategy
    rw [Record.strategy, merge, packingFor_strategy] at hstrategy
    exact chosenTransfers_of_result hadmits.request (.inl hstrategy)

theorem PointersSuit.one_le {record : Record} (h : record.PointersSuit) {units : Nat}
    {hasRuntimeCount : Bool}
    (hsizing : record.packing.putSizing = some ⟨some units, hasRuntimeCount⟩) : 1 ≤ units := by
  have hcount := h.count _ hsizing
  rw [ne_eq, Option.some.injEq] at hcount
  omega

/-- The strategies whose data an argument counts. -/
theorem strategy_of_counted {record : Record} {index counter units : Nat} {param : Param}
    (h : record.dataSize index param = .ok (.counted counter units)) :
    record.strategy = .putN ∨ record.strategy = .genN ∨ record.strategy = .delN := by
  rw [strategy]
  unfold dataSize at h
  split at h
  case h_3 hpacking => exact .inl (by rw [hpacking]; rfl)
  case h_6 hpacking => exact .inr (.inl (by rw [hpacking]; rfl))
  case h_7 hpacking => exact .inr (.inr (by rw [hpacking]; rfl))
  case h_2 count hasRuntimeCount hpacking => cases hasRuntimeCount <;> cases h
  all_goals cases h

end Record

/-! ## The layouts of a command -/

namespace Command.IsLaidOut

variable {command : Command} {index : Nat} {argument : Argument}

/-- A pointer takes the transfer method of the command, unless it receives the result. -/
theorem transfer?_eq (h : command.IsLaidOut) (hargument : command.arguments[index]? = some argument) :
    argument.layout.transfer? =
      if argument.param.type.isPointer ∧ ¬ command.record.isResult index then some command.transfer
      else none := by
  have hchosen := h.chosen index argument hargument
  generalize argument.layout = layout at hchosen ⊢
  cases hchosen with
  | word hkind hnarrow => simp [ScalarKind.isPointer_of_ofType? hkind, Layout.transfer?]
  | split hkind => simp [ScalarKind.isPointer_of_ofType? hkind, Layout.transfer?]
  | result hpointer hresult => simp [hresult, Layout.transfer?]
  | data hpointer hresult hsize hlayout htransfer => simp [hpointer, hresult, htransfer]

theorem dataSize_of_dataSize? (h : command.IsLaidOut) {size : DataSize}
    (hargument : command.arguments[index]? = some argument)
    (hsize : argument.layout.dataSize? = some size) :
    command.record.dataSize index argument.param = .ok size := by
  have hchosen := h.chosen index argument hargument
  generalize argument.layout = layout at hchosen hsize
  cases hchosen with
  | word hkind hnarrow => cases hsize
  | split hkind => cases hsize
  | result hpointer hresult => cases hsize
  | data hpointer hresult hfound hlayout htransfer =>
    rw [hlayout] at hsize
    cases hsize
    exact hfound

/-- Beside immediate data there is no result. -/
theorem isResult_of_immediate (hsuit : command.record.PointersSuit)
    (htransfer : command.transfer ∈ command.record.transfers)
    (himmediate : command.transfer = .immediate) : command.record.isResult index = false := by
  rw [Record.isResult, Bool.and_eq_false_iff]
  refine .inl (beq_eq_false_iff_ne.mpr fun hstrategy => ?_)
  rw [hsuit.result hstrategy, himmediate] at htransfer
  simp at htransfer

/-- Immediate data is that of the only pointer, or there is none. -/
theorem countP_isImmediate (h : command.IsLaidOut) (hsuit : command.record.PointersSuit)
    (htransfer : command.transfer ∈ command.record.transfers) :
    command.arguments.countP (·.layout.isImmediate)
      = if command.transfer = .immediate then 1 else 0 := by
  split
  · rename_i himmediate
    have hpointers : ∀ argument ∈ command.arguments,
        argument.layout.isImmediate = true ↔ argument.param.type.isPointer = true := by
      intro argument hmem
      obtain ⟨index, hargument⟩ := List.getElem?_of_mem hmem
      rw [Layout.isImmediate_eq, h.transfer?_eq hargument,
        isResult_of_immediate hsuit htransfer himmediate, himmediate]
      cases argument.param.type.isPointer <;> simp
    calc command.arguments.countP (·.layout.isImmediate)
        = command.arguments.countP (·.param.type.isPointer) := List.countP_congr hpointers
      _ = Record.pointerCount (command.arguments.map Argument.param) := by
          rw [Record.pointerCount, List.countP_map]
          rfl
      _ = 1 := by
          rw [h.params]
          exact hsuit.onePointer (himmediate ▸ htransfer)
  · rename_i himmediate
    rw [List.countP_eq_zero]
    intro argument hmem hlayout
    obtain ⟨index, hargument⟩ := List.getElem?_of_mem hmem
    rw [Layout.isImmediate_eq, beq_iff_eq, h.transfer?_eq hargument] at hlayout
    split at hlayout
    · exact himmediate (Option.some.inj hlayout)
    · cases hlayout

end Command.IsLaidOut

namespace Command

theorem isImmediate_iff {command : Command} :
    command.isImmediate = true ↔ 0 < command.arguments.countP (·.layout.isImmediate) := by
  rw [isImmediate, immediate?, List.isSome_findSome?, List.any_eq_true, List.countP_pos_iff]
  refine exists_congr fun argument => and_congr_right fun _ => ?_
  cases argument.layout <;> simp [Layout.isImmediate]

/-- The size of data at a position is one that the strategy of the command has, and the command has
what the size refers to. -/
structure SizeSuits (command : Command) (index : Nat) (size : DataSize) : Prop where
  unsized : size = .unsized ↔ command.record.strategy = .custom
  fixed : ∀ units, size = .fixed units → command.record.strategy = .put ∧ 1 ≤ units
  atMost : ∀ max, size = .atMost max → command.record.strategy = .put ∧ 1 ≤ max ∧
    ∃ field, command.count = some field ∧ command.fields[field]? = some ⟨"count", .u32⟩
  runtime : command.record.strategy = .put →
    ((∃ max, size = .atMost max) ↔ command.record.hasRuntimeCount = true)
  counted : ∀ counter units, size = .counted counter units →
    (command.record.strategy = .putN ∨ command.record.strategy = .genN ∨
      command.record.strategy = .delN) ∧ 1 ≤ units ∧ counter + 1 = index ∧
    ∃ counting field, command.arguments[counter]? = some counting ∧
      counting.layout = .word field .i32

/-- The layouts of the pointers follow the transfer method and the strategy of the command. -/
structure PointersFollow (command : Command) : Prop where
  immediates : command.arguments.countP (·.layout.isImmediate)
    = if command.transfer = .immediate then 1 else 0
  isImmediate : command.isImmediate = true ↔ command.transfer = .immediate
  shm : command.transfer = .shm → ∀ index argument, command.arguments[index]? = some argument →
    argument.param.type.isPointer = true → ¬ command.record.isResult index →
    ∃ id offset size, argument.layout = .shm id offset size
  bucket : command.transfer = .bucket → ∀ index argument,
    command.arguments[index]? = some argument → argument.param.type.isPointer = true →
    ¬ command.record.isResult index → ∃ id size, argument.layout = .bucket id size
  sizes : ∀ (index : Nat) argument size, command.arguments[index]? = some argument →
    argument.layout.dataSize? = some size → command.SizeSuits index size

theorem IsLaidOut.sizeSuits_of_countedBy? {command : Command} {index counter units : Nat}
    (h : command.IsLaidOut)
    (hstrategy : command.record.strategy = .putN ∨ command.record.strategy = .genN ∨
      command.record.strategy = .delN) (hpositive : 1 ≤ units)
    (hcounter : command.record.countedBy? index = some counter) :
    command.SizeSuits index (.counted counter units) := by
  obtain ⟨counting, field, hcounting, -, hword⟩ := h.counter_of_countedBy? hcounter
  constructor
  case counted =>
    rintro counter units ⟨⟩
    exact ⟨hstrategy, hpositive, (Record.index_of_countedBy? hcounter).symm, counting, field,
      hcounting, hword⟩
  all_goals rcases hstrategy with hstrategy | hstrategy | hstrategy <;> simp [hstrategy]

theorem IsLaidOut.sizeSuits {command : Command} {index : Nat} {argument : Argument}
    {size : DataSize} (h : command.IsLaidOut) (hsuit : command.record.PointersSuit)
    (hargument : command.arguments[index]? = some argument)
    (hsize : argument.layout.dataSize? = some size) : command.SizeSuits index size := by
  obtain ⟨-, hsizes, -⟩ := h.sizes_of_dataSize? hargument hsize
  have hfound := h.dataSize_of_dataSize? hargument hsize
  cases hsizes with
  | unsized hpacking =>
    have hstrategy : command.record.strategy = .custom := by rw [Record.strategy, hpacking]; rfl
    constructor <;> simp [hstrategy]
  | fixed hpacking =>
    have hstrategy : command.record.strategy = .put := by rw [Record.strategy, hpacking]; rfl
    have hruntime : command.record.hasRuntimeCount = false := by
      rw [Record.hasRuntimeCount, hpacking]
      rfl
    have hpositive := hsuit.one_le (by rw [hpacking]; rfl)
    constructor <;> simp [hstrategy, hruntime, hpositive]
  | atMost hpacking =>
    have hstrategy : command.record.strategy = .put := by rw [Record.strategy, hpacking]; rfl
    have hruntime : command.record.hasRuntimeCount = true := by
      rw [Record.hasRuntimeCount, hpacking]
      rfl
    have hpositive := hsuit.one_le (by rw [hpacking]; rfl)
    have hcounted : command.count.isSome = true := h.counted.trans hruntime
    obtain ⟨field, hcount⟩ := Option.isSome_iff_exists.mp hcounted
    constructor <;> simp [hstrategy, hruntime, hpositive, hcount, h.field_of_count hcount]
  | units hpacking hcounter =>
    exact h.sizeSuits_of_countedBy? (Record.strategy_of_counted hfound)
      (hsuit.one_le (by rw [hpacking]; rfl)) hcounter
  | ids hpacking hcounter =>
    exact h.sizeSuits_of_countedBy? (Record.strategy_of_counted hfound) le_rfl hcounter

/-- Every pointer of a planned command is laid out as the transfer method and the strategy say. -/
theorem IsLaidOut.pointersFollow {command : Command} (h : command.IsLaidOut)
    (hsuit : command.record.PointersSuit)
    (htransfer : command.transfer ∈ command.record.transfers) : command.PointersFollow := by
  have hcount := h.countP_isImmediate hsuit htransfer
  have hmethod : ∀ index argument, command.arguments[index]? = some argument →
      argument.param.type.isPointer = true → ¬ command.record.isResult index →
      argument.layout.transfer? = some command.transfer := by
    intro index argument hargument hpointer hresult
    rw [h.transfer?_eq hargument, if_pos ⟨hpointer, hresult⟩]
  constructor
  case immediates => exact hcount
  case isImmediate =>
    rw [isImmediate_iff, hcount]
    split <;> simp [*]
  case shm =>
    intro hshm index argument hargument hpointer hresult
    exact Layout.exists_of_transfer?_shm (hshm ▸ hmethod index argument hargument hpointer hresult)
  case bucket =>
    intro hbucket index argument hargument hpointer hresult
    exact Layout.exists_of_transfer?_bucket
      (hbucket ▸ hmethod index argument hargument hpointer hresult)
  case sizes => exact fun index argument size hargument hsize => h.sizeSuits hsuit hargument hsize

end Command

/-- The pointers of every planned command follow its transfer method and its strategy, whatever the
declarations and overrides that its record was built from. -/
theorem Command.pointersFollow_of_planAll (registry : Registry) (overrides : OverrideTable)
    (declarations : List Declaration) (base : Nat) (records : List Record) (commands : List Command)
    (hrecords : Record.buildAll registry overrides declarations = .ok records)
    (hcommands : planAll records base = .ok commands) :
    ∀ command ∈ commands, command.PointersFollow := by
  intro command hcommand
  rw [Outcome.values_of_collect hcommands, Outcome.mem_values] at hcommand
  have hplanned := isPlanned_of_mem_outcomes hcommand
  have hrecord := hplanned.mem
  rw [Outcome.values_of_collectAll hrecords, Outcome.mem_values] at hrecord
  obtain ⟨declaration, -, hbuild⟩ := List.mem_map.mp hrecord
  exact (Record.isLaidOut_of_plan hplanned.plan).pointersFollow (Record.pointersSuit_of_build hbuild)
    hplanned.transfer

/-! ## Data with a run-time count -/

def uploadDeclaration : Declaration where
  name := "UploadThings"
  returnType := .void
  params := [⟨{ base := "GLuint" }, "slot"⟩,
    ⟨{ isConst := true, base := "GLfloat", pointerDepth := 1 }, "things"⟩]
  line := 1

/-- At most four things, behind the command or in a bucket. -/
def uploadDirectives : Override where
  name := "UploadThings"
  transfers := some [.immediate, .bucket]
  count := some 4
  hasRuntimeCount := true

theorem Command.pointersFollow_upload : ∃ records commands,
    Record.buildAll {} ⟨[uploadDirectives]⟩ [uploadDeclaration] = .ok records ∧
    planAll records 256 = .ok commands ∧
    commands.map Command.isImmediate = [true, false] ∧
    commands.map Command.count = [some 1, some 2] ∧
    ∀ command ∈ commands, command.PointersFollow :=
  ⟨_, _, rfl, rfl, rfl, rfl,
    pointersFollow_of_planAll {} ⟨[uploadDirectives]⟩ [uploadDeclaration] 256 _ _ rfl rfl⟩

end CommandBuffer
