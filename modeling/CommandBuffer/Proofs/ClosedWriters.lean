import CommandBuffer.Artifact.Writers
import CommandBuffer.Proofs.Partition
import CommandBuffer.Proofs.Sizing
import Mathlib

/-! # What a writer passes on

A writer computes the size of its data and calls `init` on the reserved space. All names that it
passes there are its own parameters, except for a run-time count: the writer does not take it, and
binds it only from data that it sends behind the command.
-/

namespace CommandBuffer

open Code

/-- What is passed by a call of `init` on the reserved space, or to compute the size of data. -/
def Code.Expr.passedOn : Expr → List Expr
  | .method (.path false [owner]) name _ arguments _ =>
    if owner = .verbatim "cmd" ∧ name = .verbatim "init" then arguments else []
  | .call (.path false [_, name]) arguments _ =>
    if name = .verbatim "compute_data_size" then arguments else []
  | _ => []

variable {command : Command} {argument : Argument} {size : DataSize}

namespace Command

/-- The names that the writer passes to `init` and to compute the size of its data. -/
def passedNames (command : Command) : List String :=
  Expr.listReads ((command.writer.body.flatMap Stmt.parts).flatMap Expr.passedOn)

/-- The writer counts the data that it sends behind the command before it does anything else. -/
def CountsData (command : Command) : Prop :=
  ∃ argument size rest, command.immediate? = some (argument, size) ∧
    command.writer.body = .bind (.bind false "count") none
      (.cast (Expr.send argument.ident "len" []) "u32") :: rest

/-- The name is a parameter of the writer, or the number of data elements that it counted. -/
def WriterBinds (command : Command) (name : String) : Prop :=
  (∃ parameter ∈ command.writer.signature.parameters, parameter.name.spelling = name) ∨
    (name = "count" ∧ command.CountsData)

/-- A run-time count takes part only in data that is put behind the command. -/
def IsCountSent (command : Command) : Prop :=
  command.record.packing.putSizing.any (·.hasRuntimeCount) = true →
    (command.record.strategy = .put ∧ command.transfer = .immediate) ∨
      ∃ parameter ∈ command.writer.signature.parameters, parameter.name.spelling = "count"

/-! ## The names that are passed -/

theorem listReads_names (params : List InitParam) :
    Expr.listReads (params.map fun param => (param.name : Expr))
      = params.map (·.name.spelling) := by
  induction params with
  | nil => rfl
  | cons param rest ih =>
    rw [List.map_cons, Expr.listReads_cons, ih]
    rfl

theorem passedOn_names (params : List InitParam) :
    (Expr.listParts (params.map fun param => (param.name : Expr))).flatMap Expr.passedOn = [] := by
  rw [Expr.listParts_eq_flatMap, List.flatMap_assoc, List.flatMap_map]
  exact List.flatMap_eq_nil_iff.mpr fun _ _ => rfl

/-- Nothing is passed on to compute the number of elements itself. -/
theorem passedOn_paramCount? (command : Command) :
    (Expr.listParts command.paramCount?.toList).flatMap Expr.passedOn = [] := by
  unfold paramCount? dataCount?
  split
  · split <;> rfl
  all_goals rfl

theorem passedOn_initCall (command : Command) :
    command.initCall.parts.flatMap Expr.passedOn
      = command.initParams.map fun param => (param.name : Expr) := by
  have hparts : command.initCall.parts = Expr.send "cmd" "init"
      (command.initParams.map fun param => (param.name : Expr)) :: Expr.path false ["cmd"]
      :: Expr.listParts (command.initParams.map fun param => (param.name : Expr)) := by
    simp only [Stmt.parts, initCall, Expr.send, Expr.parts, List.cons_append, List.nil_append]
  rw [hparts, List.flatMap_cons, List.flatMap_cons, passedOn_names]
  exact List.append_nil _

theorem passedOn_writerBody (command : Command) :
    (command.writerBody.flatMap Stmt.parts).flatMap Expr.passedOn = command.paramCount?.toList
      ++ command.initParams.map fun param => (param.name : Expr) := by
  have hmatch : ∀ (pattern : Pattern) (value : Expr) (body : List Stmt),
      (Stmt.whenMatches pattern value body).parts.flatMap Expr.passedOn
        = value.parts.flatMap Expr.passedOn ++ (body.flatMap Stmt.parts).flatMap Expr.passedOn := by
    intro pattern value body
    rw [Stmt.parts, Stmt.listParts_eq_flatMap, List.flatMap_append]
  unfold writerBody
  cases himmediate : command.immediate? with
  | none =>
    have hcount : command.paramCount? = none := by rw [paramCount?, dataCount?, himmediate]
    rw [hcount]
    simp only [List.flatMap_singleton, hmatch, passedOn_initCall]
    rfl
  | some found =>
    rcases found with ⟨argument, size⟩
    have hbinding : ((countBinding argument size).flatMap Stmt.parts).flatMap Expr.passedOn
        = [] := by
      cases size <;> rfl
    have hsize : (Stmt.bind (.bind false "size") none (.apply
          [command.structName, "compute_data_size"] command.paramCount?.toList)).parts.flatMap
            Expr.passedOn = command.paramCount?.toList := by
      have hparts : (Stmt.bind (.bind false "size") none (.apply
          [command.structName, "compute_data_size"] command.paramCount?.toList)).parts.flatMap
            Expr.passedOn = command.paramCount?.toList
              ++ (Expr.listParts command.paramCount?.toList).flatMap Expr.passedOn := rfl
      rw [hparts, passedOn_paramCount?, List.append_nil]
    have hcopy : (Stmt.run (.apply ["copy_immediate_data"] ["data", argument.ident])).parts.flatMap
        Expr.passedOn = [] := rfl
    simp only [List.flatMap_append, hbinding, List.nil_append, List.flatMap_cons, hsize, hmatch,
      List.flatMap_nil, passedOn_initCall, hcopy, List.append_nil]
    rfl

/-- The number of elements is passed on first, then the parameters of `init`. -/
theorem passedNames_eq (command : Command) :
    command.passedNames = Expr.listReads command.paramCount?.toList
      ++ command.initParams.map (·.name.spelling) := by
  have happend : ∀ first second, Expr.listReads (first ++ second)
      = Expr.listReads first ++ Expr.listReads second := by
    intro first second
    simp only [Expr.listReads, Expr.listParts_eq_flatMap, List.flatMap_append,
      List.filterMap_append]
  rw [passedNames, writer, passedOn_writerBody, happend, listReads_names]

/-! ## The names that are bound -/

/-- All parameters of `init` but a count are parameters of the writer. -/
theorem writerBinds_of_source {param : InitParam} (hparam : param ∈ command.initParams)
    (hsource : param.source ≠ .count) : command.WriterBinds param.name.spelling := by
  refine .inl ⟨param.parameter, List.mem_append_left _ (List.mem_map_of_mem ?_), rfl⟩
  exact List.mem_filter.mpr ⟨hparam, by simpa using hsource⟩

/-- The writer counts data of a run-time size, if it sends the data itself. -/
theorem countsData_iff (command : Command) : command.CountsData ↔
    ∃ argument size, command.immediate? = some (argument, size) ∧
      (size = .unsized ∨ ∃ max, size = .atMost max) := by
  constructor
  · rintro ⟨argument, size, rest, himmediate, hbody⟩
    refine ⟨argument, size, himmediate, ?_⟩
    rw [writer, writerBody, himmediate] at hbody
    cases size with
    | unsized => exact .inl rfl
    | atMost max => exact .inr ⟨max, rfl⟩
    | fixed | counted => simp [countBinding] at hbody
  · rintro ⟨argument, size, himmediate, hsize⟩
    refine ⟨argument, size, ?_⟩
    rcases hsize with rfl | ⟨max, rfl⟩ <;> rw [writer, writerBody, himmediate] <;>
      exact ⟨_, rfl, rfl⟩

/-- No layout asks for a count. -/
theorem source_of_argumentParams {index : Nat} {param : InitParam}
    (hparam : param ∈ command.argumentParams argument index) : param.source ≠ .count := by
  unfold argumentParams at hparam
  cases hlayout : argument.layout <;>
    simp only [hlayout, List.mem_cons, List.not_mem_nil, or_false] at hparam
  case word | split | bucket =>
    rw [hparam]
    exact InitSource.noConfusion
  case shm | result => rcases hparam with rfl | rfl <;> exact InitSource.noConfusion

/-- The only parameter of `init` with a count as its source is `count` itself. -/
theorem eq_countParam {param : InitParam}
    (hparam : param ∈ command.initParams) (hsource : param.source = .count) :
    param = countParam ∧ (command.count.isSome = true ∨
      ∃ argument, command.immediate? = some (argument, .unsized)) := by
  rcases List.mem_append.mp hparam with hargument | htrailing
  · obtain ⟨⟨argument, index⟩, -, hparam⟩ := List.mem_flatMap.mp hargument
    exact absurd hsource (source_of_argumentParams hparam)
  · simp only [trailingParams, List.mem_append, Option.mem_toList, Option.map_eq_some_iff,
      List.mem_flatMap, List.mem_cons, List.not_mem_nil, or_false] at htrailing
    rcases htrailing with ((⟨field, hfield, rfl⟩ | ⟨result, -, rfl | rfl⟩) | ⟨field, -, rfl⟩)
      | hunsized
    · exact ⟨rfl, .inl (Option.isSome_iff_exists.mpr ⟨field, hfield⟩)⟩
    · cases hsource
    · cases hsource
    · cases hsource
    · split at hunsized
      · rename_i argument himmediate
        exact ⟨List.mem_singleton.mp hunsized, .inr ⟨argument, himmediate⟩⟩
      · cases hunsized

namespace IsLaidOut

/-- Data that is put behind the command and counted at run time is counted by the writer. -/
theorem countsData_of_put (h : command.IsLaidOut)
    (hone : command.transfer = .immediate →
      command.record.arguments.countP (·.type.isPointer) = 1)
    (hcount : command.record.packing.putSizing.any (·.hasRuntimeCount) = true)
    (hput : command.record.strategy = .put) (hsent : command.transfer = .immediate) :
    command.CountsData := by
  obtain ⟨param, hparam, hpointer⟩ := List.countP_pos_iff.mp (by rw [hone hsent]; decide)
  rw [← h.params] at hparam
  obtain ⟨argument, hargument, rfl⟩ := List.mem_map.mp hparam
  obtain ⟨index, hindex⟩ := List.getElem?_of_mem hargument
  obtain ⟨size, hsize⟩ : ∃ size, argument.layout.dataSize? = some size := by
    have hchosen := h.chosen index argument hindex
    generalize argument.layout = layout at hchosen ⊢
    cases hchosen with
    | word hkind hnarrow => simp [ScalarKind.isPointer_of_ofType? hkind] at hpointer
    | split hkind => simp [ScalarKind.isPointer_of_ofType? hkind] at hpointer
    | result hpointer hresult => simp [Record.isResult, hput] at hresult
    | data hpointer hresult hsize hlayout htransfer => exact ⟨_, hlayout⟩
  have himmediate := h.immediate?_eq hone hindex hsize
  rw [if_pos hsent] at himmediate
  obtain ⟨-, hsizes, -⟩ := h.sizes_of_dataSize? hindex hsize
  refine (countsData_iff command).mpr ⟨argument, size, himmediate, ?_⟩
  cases hsizes with
  | fixed hpacking => simp [hpacking, Packing.putSizing] at hcount
  | atMost hpacking => exact .inr ⟨_, rfl⟩
  | units hpacking hcounter => simp [Record.strategy, hpacking, Packing.strategy] at hput
  | ids hpacking hcounter => simp [hpacking] at hcount
  | unsized hpacking => exact .inl rfl

/-- Every name that is passed on is bound, or is the count that `init` takes. -/
theorem writerBinds_or (h : command.IsLaidOut) {name : String}
    (hname : name ∈ command.passedNames) :
    command.WriterBinds name ∨ (name = "count" ∧ countParam ∈ command.initParams) := by
  have hparams : ∀ param ∈ command.initParams, command.WriterBinds param.name.spelling ∨
      (param.name.spelling = "count" ∧ countParam ∈ command.initParams) := by
    intro param hparam
    by_cases hsource : param.source = .count
    · obtain ⟨rfl, -⟩ := eq_countParam hparam hsource
      exact .inr ⟨spelling_countParam, hparam⟩
    · exact .inl (writerBinds_of_source hparam hsource)
  rw [passedNames_eq, List.mem_append] at hname
  rcases hname with hname | hname
  · cases hcount : command.paramCount? with
    | none =>
      rw [hcount] at hname
      cases hname
    | some count =>
      obtain ⟨param, hparam, hreads⟩ := h.reads_paramCount? hcount
      rw [hcount, Option.toList_some, Expr.listReads_cons, hreads] at hname
      rw [List.mem_singleton.mp hname]
      exact hparams param hparam
  · obtain ⟨param, hparam, rfl⟩ := List.mem_map.mp hname
    exact hparams param hparam

/-- A writer that counts a run-time size puts the data behind the command. -/
theorem put_of_countsData (h : command.IsLaidOut)
    (hcount : command.record.packing.putSizing.any (·.hasRuntimeCount) = true)
    (hdata : command.CountsData) :
    command.record.strategy = .put ∧ command.transfer = .immediate := by
  obtain ⟨argument, size, himmediate, hsize⟩ := (countsData_iff command).mp hdata
  obtain ⟨position, hposition, hlayout⟩ := exists_of_immediate? himmediate
  obtain ⟨-, hsizes, htransfer⟩ :=
    h.sizes_of_dataSize? hposition (by rw [hlayout]; rfl : _ = some size)
  rw [hlayout] at htransfer
  refine ⟨?_, (Option.some.inj htransfer).symm⟩
  cases hsizes with
  | atMost hpacking => rw [Record.strategy, hpacking]; rfl
  | unsized hpacking => simp [hpacking, Packing.putSizing] at hcount
  | fixed | units | ids => simp at hsize

/-- Every name that is passed on is bound, except for a run-time count that is not sent. -/
theorem writerBinds_iff (h : command.IsLaidOut)
    (hone : command.transfer = .immediate →
      command.record.arguments.countP (·.type.isPointer) = 1) :
    (∀ name ∈ command.passedNames, command.WriterBinds name) ↔ command.IsCountSent := by
  constructor
  · intro hbinds hcount
    obtain ⟨field, hfield⟩ := Option.isSome_iff_exists.mp (h.counted.trans hcount)
    have hmem : countParam ∈ command.initParams := by
      refine List.mem_append_right _ (List.mem_append_left _ (List.mem_append_left _
        (List.mem_append_left _ ?_)))
      rw [hfield]
      exact List.mem_singleton.mpr rfl
    have hpassed : "count" ∈ command.passedNames := by
      rw [passedNames_eq, List.mem_append]
      exact .inr (List.mem_map.mpr ⟨countParam, hmem, spelling_countParam⟩)
    rcases hbinds "count" hpassed with hparam | ⟨-, hdata⟩
    · exact .inr hparam
    · exact .inl (h.put_of_countsData hcount hdata)
  · intro hsent name hname
    rcases h.writerBinds_or hname with hbinds | ⟨rfl, hmem⟩
    · exact hbinds
    · rcases (eq_countParam hmem rfl).2 with hfield | ⟨argument, himmediate⟩
      · have hcount := h.counted.symm.trans hfield
        rcases hsent hcount with ⟨hput, htransfer⟩ | hparam
        · exact .inr ⟨rfl, h.countsData_of_put hone hcount hput htransfer⟩
        · exact .inl hparam
      · exact .inr ⟨rfl, (countsData_iff command).mpr ⟨argument, _, himmediate, .inl rfl⟩⟩

end IsLaidOut
end Command

namespace Protocol

variable {protocol : Protocol} {records : List Record} {commands : List Command}

/-- Whatever a writer passes on is its parameter or the number of elements that it counted, unless
a run-time count is not sent with the data; and nothing but a count is ever unbound. -/
theorem writer_closed_iff (hrecords : protocol.records = .ok records)
    (hcommands : protocol.commands records = .ok commands) (hcommand : command ∈ commands) :
    ((∀ name ∈ command.passedNames, command.WriterBinds name) ↔ command.IsCountSent) ∧
      ∀ name ∈ command.passedNames, command.WriterBinds name ∨ name = "count" := by
  have h := isLaidOut_of_commands hcommands command hcommand
  have hplanned := isPlanned_of_commands hcommands command hcommand
  have hbuilt := isBuilt_of_records hrecords _ hplanned.mem
  refine ⟨h.writerBinds_iff fun hsent => hbuilt.onePointer (hsent ▸ hplanned.transfer), ?_⟩
  intro name hname
  exact (h.writerBinds_or hname).imp_right And.left

end Protocol

/-! ## A count that is sent and one that is not -/

def rangeOverrides : List Override := [
  { name := "SetRange", count := some 2, hasRuntimeCount := true },
  { name := "SetRanges", strategy := some .putN, count := some 2, hasRuntimeCount := true }]

def rangeProtocol : Protocol where
  name := "Range"
  filePrefix := "range"
  description := "Data with a run-time count"
  commandBase := 256
  supportPath := "crate::support"
  types := {}
  overrides := ⟨rangeOverrides⟩
  functions := "void SetRange(const GLfloat* range);
    void SetRanges(GLsizei n, const GLfloat* ranges);"

def rangeParams : List Param :=
  [⟨{ isConst := true, base := "GLfloat", pointerDepth := 1 }, "range"⟩]

def rangeRecord : Record :=
  .merge { name := "SetRange", returnType := .void, params := rangeParams, line := 1 }
    { name := "SetRange", count := some 2, hasRuntimeCount := true } rangeParams .put [.immediate]

def rangeCommand : Command where
  record := rangeRecord
  transfer := .immediate
  name := "SetRangeImmediate"
  id := 256
  fields := [⟨"count", .u32⟩]
  arguments := List.zipWith Argument.mk rangeParams [.immediate (.atMost 2)]
  count := some 0
  result := none
  clientId := none

def rangesParams : List Param := [
  ⟨{ base := "GLsizei" }, "n"⟩,
  ⟨{ isConst := true, base := "GLfloat", pointerDepth := 1 }, "ranges"⟩]

def rangesRecord : Record :=
  .merge { name := "SetRanges", returnType := .void, params := rangesParams, line := 2 }
    { name := "SetRanges", count := some 2, hasRuntimeCount := true } rangesParams .putN
    [.immediate]

def rangesCommand : Command where
  record := rangesRecord
  transfer := .immediate
  name := "SetRangesImmediate"
  id := 257
  fields := [⟨"n", .i32⟩, ⟨"count", .u32⟩]
  arguments := List.zipWith Argument.mk rangesParams [.word 0 .i32, .immediate (.counted 0 2)]
  count := some 1
  result := none
  clientId := none

theorem records_range : rangeProtocol.records = .ok [rangeRecord, rangesRecord] := by decide +kernel

theorem commands_range : rangeProtocol.commands [rangeRecord, rangesRecord]
    = .ok [rangeCommand, rangesCommand] := rfl

/-- The writer of one range counts the data for `init` and for the size. -/
theorem writer_closed_range :
    rangeCommand.passedNames = ["count", "count"] ∧
      ∀ name ∈ rangeCommand.passedNames, rangeCommand.WriterBinds name :=
  ⟨by decide, (Protocol.writer_closed_iff records_range commands_range List.mem_cons_self).1.mpr
    fun _ => .inl ⟨rfl, rfl⟩⟩

/-- The writer of many ranges passes a count to `init` that it neither takes nor binds. -/
theorem writer_open_ranges :
    rangeProtocol.records = .ok [rangeRecord, rangesRecord] ∧
    rangeProtocol.commands [rangeRecord, rangesRecord] = .ok [rangeCommand, rangesCommand] ∧
    rangesCommand.passedNames = ["n", "n", "count"] ∧
    rangesCommand.writerParams.map (·.name.spelling) = ["n", "ranges"] ∧
    ¬ rangesCommand.WriterBinds "count" := by
  refine ⟨records_range, commands_range, by decide, by decide, ?_⟩
  rintro (⟨parameter, hparameter, hname⟩ | ⟨-, hdata⟩)
  · have hnames : "count" ∉ rangesCommand.writerParams.map (·.name.spelling) := by decide
    exact hnames (List.mem_map.mpr ⟨parameter, hparameter, hname⟩)
  · obtain ⟨argument, size, himmediate, hsize⟩ := (Command.countsData_iff _).mp hdata
    cases himmediate
    simp at hsize

end CommandBuffer
