import CommandBuffer.Proofs.Marshaling.Entries
import CommandBuffer.Proofs.Marshaling.Steps
import CommandBuffer.Proofs.Planning

/-! # Client ids when a call fails

A marshaling function changes the books of the client ids by a call on their keeper. It is left
early where a check fails and where no room for data in shared memory is found. The checks come
before the books are changed, but room for the ids themselves is looked for afterwards.
-/

namespace CommandBuffer

open Code

namespace Code

/-! ## Early returns -/

namespace Expr

/-- An early return with the error of a value. -/
def isAttempt : Expr → Bool
  | attempt _ => true
  | _ => false

/-- A call on the keeper of the client ids that changes them. -/
def isIdChange : Expr → Bool
  | method (method _ keeper _ _ _) change _ _ _ =>
    decide (keeper.spelling ∈ ["id_allocator", "id_handler"])
      && decide (change.spelling ∈
        ["make_ids", "allocate_ids", "free_ids", "make_id", "allocate_id"])
  | _ => false

/-- The changes of the client ids inside the expression. -/
def idChanges (value : Expr) : List Expr := value.parts.filter isIdChange

/-- The changes of the client ids up to each early return inside the expression; `before` are those
in front of it. -/
def exits (before : List Expr) (value : Expr) : List (List Expr) :=
  (value.parts.filter isAttempt).map fun _ => before ++ value.idChanges

theorem filter_isIdChange {parts : List Expr} (h : parts.all isPlain = true) :
    parts.filter isIdChange = [] := by
  rw [List.filter_eq_nil_iff]
  intro part hpart hchange
  have hplain := List.all_eq_true.mp h part hpart
  unfold isIdChange at hchange
  split at hchange
  · cases hplain
  · cases hchange

theorem exits_of_isPlain {value : Expr} (h : value.parts.all isPlain = true) (before : List Expr) :
    value.exits before = [] := by
  rw [exits, List.map_eq_nil_iff, List.filter_eq_nil_iff]
  intro part hpart hattempt
  have hplain := List.all_eq_true.mp h part hpart
  unfold isAttempt at hattempt
  split at hattempt
  · cases hplain
  · cases hattempt

/-- The early returns behind a plain expression are those of what follows. -/
theorem exits_append_of_isPlain {value : Expr} (h : value.parts.all isPlain = true)
    (before : List Expr) (exitsBehind : List Expr → List (List Expr)) :
    value.exits before ++ exitsBehind (before ++ value.idChanges) = exitsBehind before := by
  rw [exits_of_isPlain h, idChanges, filter_isIdChange h, List.append_nil, List.nil_append]

end Expr

namespace Stmt

/-- The changes of the client ids inside the statement. -/
def idChanges (stmt : Stmt) : List Expr := stmt.parts.filter Expr.isIdChange

mutual

/-- The changes of the client ids up to each early return inside the statement; `before` are those
in front of it. -/
def exits (before : List Expr) : Stmt → List (List Expr)
  | bind _ _ value | run value | result value => value.exits before
  | bindOr _ value otherwise =>
    value.exits before ++ listExits (before ++ value.idChanges) otherwise
  | when condition body =>
    condition.exits before ++ listExits (before ++ condition.idChanges) body
  | whenMatches _ value body => value.exits before ++ listExits (before ++ value.idChanges) body
  | assign target value => target.exits before ++ value.exits (before ++ target.idChanges)
  | exit value => [before ++ (value.map Expr.idChanges).getD []]
  | select subject arms =>
    subject.exits before
      ++ arms.flatMap fun arm => arm.2.exits (before ++ subject.idChanges)

def listExits (before : List Expr) : List Stmt → List (List Expr)
  | [] => []
  | stmt :: rest => exits before stmt ++ listExits (before ++ stmt.idChanges) rest

end

theorem listExits_append (before : List Expr) (first second : List Stmt) :
    listExits before (first ++ second)
      = listExits before first ++ listExits (before ++ first.flatMap idChanges) second := by
  induction first generalizing before with
  | nil => rw [List.flatMap_nil, List.append_nil]; rfl
  | cons stmt rest ih =>
    rw [List.cons_append, listExits, ih, listExits, List.flatMap_cons, List.append_assoc,
      List.append_assoc]

theorem listExits_eq_nil {stmts : List Stmt} (h : ∀ stmt ∈ stmts, ∀ before, stmt.exits before = [])
    (before : List Expr) : listExits before stmts = [] := by
  induction stmts generalizing before with
  | nil => rfl
  | cons stmt rest ih =>
    rw [List.forall_mem_cons] at h
    rw [listExits, h.1, ih h.2]
    rfl

theorem idChanges_of_isPlain {stmts : List Stmt} (h : ∀ stmt ∈ stmts, stmt.IsPlain) :
    stmts.flatMap idChanges = [] :=
  List.flatMap_eq_nil_iff.mpr fun stmt hstmt => Expr.filter_isIdChange (h stmt hstmt)

mutual

/-- A plain statement is left with the changes in front of it. -/
theorem eq_of_mem_exits : ∀ {stmt : Stmt}, stmt.IsPlain → ∀ {before made : List Expr},
    made ∈ stmt.exits before → made = before
  | bind _ _ value, h, before, _, hmade | run value, h, before, _, hmade
  | result value, h, before, _, hmade => by
    rw [exits, Expr.exits_of_isPlain h] at hmade
    cases hmade
  | bindOr _ value otherwise, h, before, _, hmade => by
    rw [IsPlain, parts, List.all_append, Bool.and_eq_true] at h
    rw [exits, Expr.exits_append_of_isPlain h.1 before (listExits · otherwise)] at hmade
    exact eq_of_mem_listExits h.2 hmade
  | when condition body, h, before, _, hmade => by
    rw [IsPlain, parts, List.all_append, Bool.and_eq_true] at h
    rw [exits, Expr.exits_append_of_isPlain h.1 before (listExits · body)] at hmade
    exact eq_of_mem_listExits h.2 hmade
  | whenMatches _ value body, h, before, _, hmade => by
    rw [IsPlain, parts, List.all_append, Bool.and_eq_true] at h
    rw [exits, Expr.exits_append_of_isPlain h.1 before (listExits · body)] at hmade
    exact eq_of_mem_listExits h.2 hmade
  | assign target value, h, before, _, hmade => by
    rw [IsPlain, parts, List.all_append, Bool.and_eq_true] at h
    rw [exits, Expr.exits_append_of_isPlain h.1 before value.exits,
      Expr.exits_of_isPlain h.2] at hmade
    cases hmade
  | exit value, h, before, _, hmade => by
    rw [exits, List.mem_singleton] at hmade
    rw [hmade]
    cases value with
    | none => exact List.append_nil before
    | some value =>
      have hvalue : value.idChanges = [] := Expr.filter_isIdChange h
      rw [Option.map_some, Option.getD_some, hvalue, List.append_nil]
  | select subject arms, h, before, _, hmade => by
    rw [IsPlain, parts, List.all_append, Bool.and_eq_true, List.all_flatMap] at h
    rw [exits, Expr.exits_append_of_isPlain h.1 before
      (fun before => arms.flatMap fun arm => arm.2.exits before), List.mem_flatMap] at hmade
    obtain ⟨arm, harm, hmade⟩ := hmade
    rw [Expr.exits_of_isPlain (List.all_eq_true.mp h.2 arm harm)] at hmade
    cases hmade

theorem eq_of_mem_listExits : ∀ {stmts : List Stmt}, (listParts stmts).all Expr.isPlain = true →
    ∀ {before made : List Expr}, made ∈ listExits before stmts → made = before
  | [], _, _, _, hmade => by cases hmade
  | stmt :: rest, h, before, _, hmade => by
    rw [listParts, List.all_append, Bool.and_eq_true] at h
    rw [listExits, idChanges, Expr.filter_isIdChange h.1, List.append_nil, List.mem_append] at hmade
    exact hmade.elim (eq_of_mem_exits h.1) (eq_of_mem_listExits h.2)

end

/-- If one of several plain statements can be left, all of them can, with the changes in front of
them. -/
theorem mem_listExits {stmts : List Stmt} (h : ∀ stmt ∈ stmts, stmt.IsPlain) {stmt : Stmt}
    (hmem : stmt ∈ stmts) (hexits : ∀ before, stmt.exits before ≠ []) (before : List Expr) :
    before ∈ listExits before stmts := by
  obtain ⟨early, late, rfl⟩ := List.append_of_mem hmem
  obtain ⟨made, hmade⟩ := List.exists_mem_of_ne_nil _ (hexits before)
  have hlist : made ∈ listExits before (early ++ stmt :: late) := by
    rw [listExits_append, idChanges_of_isPlain (List.forall_mem_append.mp h).1, List.append_nil,
      listExits]
    exact List.mem_append_right _ (List.mem_append_left _ hmade)
  exact eq_of_mem_listExits (all_listParts h) hlist ▸ hlist

end Stmt

/-- The changes of the client ids up to each early return of the function. -/
def Function.exits (function : Function) : List (List Expr) := Stmt.listExits [] function.body

end Code

/-- The ids that a client keeps books of are themselves sent through shared memory. -/
def Record.SharesIds (record : Record) : Prop :=
  record.resource.isSome = true ∧ (record.strategy = .genN ∨ record.strategy = .delN) ∧
    record.preferredTransfer = some .shm ∧ ∃ param ∈ record.arguments, param.type.isPointer = true

namespace Marshaling

variable {record : Record} {command : Command} {argument : Argument}

/-! ## Statements that are not left early -/

theorem attempts_names (names : List Name) :
    (Expr.listParts (names.map fun name => .path false [name])).filter Expr.isAttempt = [] := by
  induction names with
  | nil => rfl
  | cons name rest ih =>
    rw [List.map_cons, Expr.listParts, List.filter_append, ih]
    rfl

theorem exits_write (command : Command) (before : List Expr) :
    (write command).exits before = [] := by
  have hattempts := attempts_names (command.writerParams.map Parameter.name)
  rw [List.map_map] at hattempts
  rw [write, Stmt.exits, Expr.exits, List.map_eq_nil_iff]
  exact hattempts

theorem exits_finish (record : Record) (command : Command) :
    ∀ stmt ∈ finish record command, ∀ before, stmt.exits before = [] := by
  have hwrite := exits_write command
  have hlocation : ∀ stmt ∈ resultLocation, ∀ before, stmt.exits before = [] := by
    simp only [resultLocation, List.forall_mem_map]
    exact fun _ _ _ => rfl
  unfold finish
  split
  · rw [List.forall_mem_append, List.forall_mem_append]
    refine ⟨⟨?_, hlocation⟩, ?_⟩
    · rw [List.forall_mem_singleton]
      exact fun _ => rfl
    · simp only [List.forall_mem_cons, List.not_mem_nil, IsEmpty.forall_iff, implies_true, and_true]
      refine ⟨hwrite, fun _ => rfl, ?_⟩
      cases command.arguments.getLast? <;> exact fun _ => rfl
  · rw [List.forall_mem_append]
    refine ⟨hlocation, ?_⟩
    simp only [List.forall_mem_cons, List.not_mem_nil, IsEmpty.forall_iff, implies_true, and_true]
    exact ⟨hwrite, fun _ => rfl, fun _ => rfl⟩
  · simp only [List.forall_mem_cons, List.not_mem_nil, IsEmpty.forall_iff, implies_true, and_true]
    exact ⟨hwrite, fun _ => rfl⟩
  all_goals
    rw [List.forall_mem_singleton]
    exact hwrite

/-- Keeping the books takes names of arguments and never fails. -/
theorem exits_bookkeeping (record : Record) (command : Command) :
    ∀ stmt ∈ bookkeeping record command, ∀ before, stmt.exits before = [] := by
  unfold bookkeeping idArguments
  generalize command.arguments.find? (·.param.type.isPointer) = pointer
  split
  all_goals first
    | exact fun _ h => absurd h List.not_mem_nil
    | rw [List.forall_mem_singleton]; cases pointer <;> exact fun _ => rfl

/-! ## Changes of the ids -/

theorem idChanges_keeper (record : Record) (resource : String) {change : Name}
    (hchange : change.spelling ∈ ["make_ids", "allocate_ids", "free_ids", "make_id", "allocate_id"])
    (arguments : List Expr) (hasLastComma : Bool) :
    ((keeper record resource).method change [] arguments hasLastComma).idChanges ≠ [] := by
  apply List.ne_nil_of_mem (List.mem_filter.mpr ⟨Expr.mem_parts _, ?_⟩)
  have hkeeper : ∀ isUnshared : Bool, ((if isUnshared then "id_allocator" else "id_handler" : Name)
      |>.spelling) ∈ ["id_allocator", "id_handler"] := by decide
  rw [keeper, Expr.send, Expr.isIdChange, Bool.and_eq_true, decide_eq_true_iff, decide_eq_true_iff]
  exact ⟨hkeeper _, hchange⟩

/-- The books are changed for a resource whose ids the function allocates or frees. -/
theorem changes_bookkeeping (record : Record) (command : Command) :
    (bookkeeping record command).flatMap Stmt.idChanges ≠ [] ↔
      record.resource.isSome = true ∧
        (record.strategy = .genN ∨ record.strategy = .delN ∨ record.strategy = .create) := by
  unfold bookkeeping Record.strategy
  cases record.resource with
  | none => simp
  | some resource =>
    have hvalue {stmt : Stmt} (hstmt : stmt.idChanges ≠ []) :
        [stmt].flatMap Stmt.idChanges ≠ [] := by rwa [List.flatMap_singleton]
    cases record.packing with
    | genN isUnshared =>
      refine iff_of_true ?_ ⟨rfl, .inl rfl⟩
      cases isUnshared with
      | false => exact hvalue (idChanges_keeper record resource (by decide) _ _)
      | true => exact hvalue (idChanges_keeper record resource (by decide) _ _)
    | delN =>
      refine iff_of_true (hvalue ?_) ⟨rfl, .inr (.inl rfl)⟩
      exact idChanges_keeper record resource (by decide) _ _
    | create isUnshared =>
      refine iff_of_true ?_ ⟨rfl, .inr (.inr rfl)⟩
      cases isUnshared with
      | false => exact hvalue (idChanges_keeper record resource (by decide) _ _)
      | true => exact hvalue (idChanges_keeper record resource (by decide) _ _)
    | _ => simp [Packing.strategy]

/-! ## Functions that lose ids -/

/-- Moving data is given up where no room in shared memory is found, and nowhere else. -/
theorem mem_exits_transfers (before made : List Expr) :
    made ∈ Stmt.listExits before (command.arguments.flatMap (transfer record command)) ↔
      made = before ∧
        ∃ argument ∈ command.arguments, argument.layout.transfer? = some .shm := by
  have hplain := isPlain_transfers record command
  constructor
  · intro hmade
    refine ⟨Stmt.eq_of_mem_listExits (Stmt.all_listParts hplain) hmade, ?_⟩
    by_contra hnone
    have hexits : ∀ stmt ∈ command.arguments.flatMap (transfer record command),
        ∀ before, stmt.exits before = [] := by
      refine List.forall_mem_flatMap.mpr fun argument hargument stmt hstmt => ?_
      have hother : argument.layout.transfer? ≠ some .shm := fun h => hnone ⟨argument, hargument, h⟩
      unfold transfer at hstmt
      split at hstmt
      · rename_i hlayout
        rw [hlayout] at hother
        exact absurd rfl hother
      · rw [List.mem_singleton.mp hstmt]
        exact fun _ => rfl
      all_goals cases hstmt
    rw [Stmt.listExits_eq_nil hexits] at hmade
    cases hmade
  · rintro ⟨rfl, argument, hargument, hlayout⟩
    unfold Layout.transfer? at hlayout
    split at hlayout
    · rename_i id offset size hshm
      have htransfer : transfer record command argument
          = [.bindOr (.some (.pair (.bind false (command.fieldIdent id))
              (.bind false (command.fieldIdent offset))))
            (.send "self" "alloc_transfer" [argument.ident])
            [report "GL_OUT_OF_MEMORY" (clientName record) "out of transfer memory",
              bail record]] := by rw [transfer, hshm]
      refine Stmt.mem_listExits hplain
        (List.mem_flatMap.mpr ⟨argument, hargument, htransfer ▸ List.mem_singleton_self _⟩) ?_ _
      exact fun before => List.cons_ne_nil _ _
    all_goals cases hlayout

/-- The function can be left behind a change of the ids: the books are changed, and then no room
is found for data. -/
theorem exists_exit_iff (implementation : Name) (record : Record) (command : Command) :
    (∃ changes ∈ (function implementation record command).exits, changes ≠ []) ↔
      (bookkeeping record command).flatMap Stmt.idChanges ≠ [] ∧
        ∃ argument ∈ command.arguments, argument.layout.transfer? = some .shm := by
  have hchecks := isPlain_early implementation record command
  have hexits : (function implementation record command).exits
      = Stmt.listExits [] (trace implementation record
          :: command.arguments.flatMap (checks record command))
        ++ Stmt.listExits ((bookkeeping record command).flatMap Stmt.idChanges)
          (command.arguments.flatMap (transfer record command)) := by
    rw [Function.exits, function, Stmt.listExits_append, Stmt.listExits_append,
      Stmt.listExits_append, Stmt.listExits_eq_nil (exits_bookkeeping record command),
      Stmt.listExits_eq_nil (exits_finish record command), List.flatMap_append,
      Stmt.idChanges_of_isPlain hchecks, List.append_nil, List.append_nil]
    rfl
  simp only [hexits, List.mem_append, mem_exits_transfers]
  constructor
  · rintro ⟨changes, hearly | ⟨rfl, hshared⟩, hchanges⟩
    · exact absurd (Stmt.eq_of_mem_listExits (Stmt.all_listParts hchecks) hearly) hchanges
    · exact ⟨hchanges, hshared⟩
  · rintro ⟨hchanges, hshared⟩
    exact ⟨_, .inr ⟨rfl, hshared⟩, hchanges⟩

/-- Only data moves, as the command is transferred, and a creation has none. -/
theorem isPointer_of_transfer? (hlaid : command.IsLaidOut)
    (hargument : argument ∈ command.arguments) {transfer : Transfer}
    (h : argument.layout.transfer? = some transfer) :
    argument.param.type.isPointer = true ∧ command.transfer = transfer ∧
      command.record.strategy ≠ .create := by
  obtain ⟨index, hindex⟩ := List.getElem?_of_mem hargument
  have hchosen := hlaid.chosen index argument hindex
  generalize argument.layout = layout at hchosen h
  cases hchosen with
  | word hkind hnarrow => cases h
  | split hkind => cases h
  | result hpointer hresult => cases h
  | data hpointer hresult hsize hdata htaken =>
    refine ⟨hpointer, Option.some.inj (htaken.symm.trans h), fun hcreate => ?_⟩
    unfold Record.strategy at hcreate
    cases hpacking : command.record.packing <;> rw [hpacking] at hcreate <;> cases hcreate
    rw [Record.dataSize, hpacking] at hsize
    cases hsize

/-- What a pointer points to moves unless the function gets values. -/
theorem transfer?_of_isPointer (hlaid : command.IsLaidOut)
    (hargument : argument ∈ command.arguments) (hpointer : argument.param.type.isPointer = true)
    (hstrategy : command.record.strategy ≠ .getN) :
    argument.layout.transfer? = some command.transfer := by
  obtain ⟨index, hindex⟩ := List.getElem?_of_mem hargument
  have hchosen := hlaid.chosen index argument hindex
  generalize argument.layout = layout at hchosen ⊢
  have hscalar {kind : ScalarKind} (hkind : ScalarKind.ofType? argument.param.type = some kind) :
      False := by
    rw [ScalarKind.isPointer_of_ofType? hkind] at hpointer
    cases hpointer
  cases hchosen with
  | word hkind hnarrow => exact (hscalar hkind).elim
  | split hkind => exact (hscalar hkind).elim
  | result hpointer hresult =>
    rw [Record.isResult, Bool.and_eq_true, beq_iff_eq] at hresult
    exact absurd hresult.1 hstrategy
  | data hpointer hresult hsize hdata htaken => exact htaken

/-- In a planned command, data moves through shared memory behind a change of the ids exactly if
it is the ids. -/
theorem sharesIds_iff (hlaid : command.IsLaidOut)
    (htransfer : command.record.preferredTransfer = some command.transfer) :
    ((bookkeeping command.record command).flatMap Stmt.idChanges ≠ [] ∧
        ∃ argument ∈ command.arguments, argument.layout.transfer? = some .shm) ↔
      command.record.SharesIds := by
  rw [changes_bookkeeping]
  constructor
  · rintro ⟨⟨hresource, hstrategy⟩, argument, hargument, hshared⟩
    obtain ⟨hpointer, htaken, hcreate⟩ := isPointer_of_transfer? hlaid hargument hshared
    refine ⟨hresource, ?_, htaken ▸ htransfer, argument.param,
      hlaid.params ▸ List.mem_map_of_mem hargument, hpointer⟩
    rcases hstrategy with hgen | hdel | hcreation
    · exact .inl hgen
    · exact .inr hdel
    · exact absurd hcreation hcreate
  · rintro ⟨hresource, hstrategy, hshared, param, hparam, hpointer⟩
    rw [← hlaid.params] at hparam
    obtain ⟨argument, hargument, rfl⟩ := List.mem_map.mp hparam
    have hget : command.record.strategy ≠ .getN := by
      rcases hstrategy with h | h <;> rw [h] <;> decide
    have hmoved := transfer?_of_isPointer hlaid hargument hpointer hget
    exact ⟨⟨hresource, hstrategy.imp id .inl⟩, argument, hargument,
      hmoved.trans (htransfer.symm.trans hshared)⟩

end Marshaling

/-- The marshaling function of a record changes client ids only where no early return can follow,
unless the ids themselves go through shared memory. -/
theorem Protocol.ids_kept_iff {protocol : Protocol} {blueprint : Blueprint}
    (hrecords : protocol.records = .ok blueprint.records)
    (hcommands : protocol.commands blueprint.records = .ok blueprint.commands) {record : Record}
    (hrecord : record ∈ blueprint.records) (hmarshaled : record.isMarshaled = true) :
    ∃ function, (Marshaling.functions blueprint).filter (·.signature.name = record.marshalName)
        = [function] ∧
      ((∀ changes ∈ function.exits, changes = []) ↔ ¬ record.SharesIds) := by
  obtain ⟨command, hentry, hfunction⟩ :=
    Marshaling.exists_function hrecords hcommands hrecord hmarshaled
  refine ⟨_, hfunction, ?_⟩
  have hlaid := Protocol.isLaidOut_of_commands hcommands command hentry.command_mem
  obtain rfl := hentry.record_eq
  rw [← Marshaling.sharesIds_iff hlaid hentry.transfer,
    ← Marshaling.exists_exit_iff (blueprint.protocolType "Implementation")]
  push Not
  rfl

/-! ## Ids that come with the command, and ids in shared memory -/

def texturesProtocol : Protocol where
  name := "Textures"
  filePrefix := "textures"
  description := "Names of textures"
  commandBase := 256
  supportPath := "crate::support"
  types := {}
  overrides := ⟨[{ name := "GenTextures", resource := some "Textures" },
    { name := "DeleteTextures", resource := some "Textures", transfers := some [.shm] }]⟩
  functions := "void GenTextures(GLsizei n, GLuint* ids);\n"
    ++ "void DeleteTextures(GLsizei n, const GLuint* ids);"

def generatedParams : List Param :=
  [⟨{ base := "GLsizei" }, "n"⟩, ⟨{ base := "GLuint", pointerDepth := 1 }, "ids"⟩]

def deletedParams : List Param :=
  [⟨{ base := "GLsizei" }, "n"⟩, ⟨{ isConst := true, base := "GLuint", pointerDepth := 1 }, "ids"⟩]

def genTextures : Record :=
  .merge { name := "GenTextures", returnType := .void, params := generatedParams, line := 1 }
    { name := "GenTextures", resource := some "Textures" } generatedParams .genN [.immediate]

def deleteTextures : Record :=
  .merge { name := "DeleteTextures", returnType := .void, params := deletedParams, line := 2 }
    { name := "DeleteTextures", resource := some "Textures", transfers := some [.shm] }
    deletedParams .delN [.shm]

def genTexturesCommand : Command where
  record := genTextures
  transfer := .immediate
  name := "GenTexturesImmediate"
  id := 256
  fields := [⟨"n", .i32⟩]
  arguments := List.zipWith Argument.mk generatedParams [.word 0 .i32, .immediate (.counted 0 1)]
  count := none
  result := none
  clientId := none

def deleteTexturesCommand : Command where
  record := deleteTextures
  transfer := .shm
  name := "DeleteTextures"
  id := 257
  fields := [⟨"n", .i32⟩, ⟨"ids_shm_id", .u32⟩, ⟨"ids_shm_offset", .u32⟩]
  arguments := List.zipWith Argument.mk deletedParams [.word 0 .i32, .shm 1 2 (.counted 0 1)]
  count := none
  result := none
  clientId := none

def texturesBlueprint : Blueprint where
  protocol := texturesProtocol
  records := [genTextures, deleteTextures]
  validators := {}
  commands := [genTexturesCommand, deleteTexturesCommand]
  support := { segments := [{ name := "crate" }, { name := "support" }] }

theorem records_textures : texturesProtocol.records = .ok texturesBlueprint.records := by
  decide +kernel

theorem commands_textures :
    texturesProtocol.commands texturesBlueprint.records = .ok texturesBlueprint.commands := by
  decide +kernel

/-- The ids of an allocation come with the command: whatever fails, none is made. -/
theorem ids_kept_generation :
    ∃ function, (Marshaling.functions texturesBlueprint).filter
        (·.signature.name = genTextures.marshalName) = [function] ∧
      (∀ changes ∈ function.exits, changes = []) ∧ function.exits.length = 2 := by
  have hrecord : genTextures ∈ texturesBlueprint.records := by decide
  obtain ⟨function, hfunction, hkept⟩ :=
    Protocol.ids_kept_iff records_textures commands_textures hrecord (by decide)
  refine ⟨function, hfunction, hkept.mpr ?_, ?_⟩
  · rintro ⟨-, -, hshared, -⟩
    exact absurd hshared (by decide)
  · have hfound : (Marshaling.functions texturesBlueprint).filter
        (·.signature.name = genTextures.marshalName)
        = [Marshaling.function "TexturesImplementation" genTextures genTexturesCommand] := rfl
    cases hfound.symm.trans hfunction
    rfl

/-- The ids of a deletion are freed before there is room to send them. -/
theorem ids_lost_deletion :
    texturesProtocol.records = .ok texturesBlueprint.records ∧
    texturesProtocol.commands texturesBlueprint.records = .ok texturesBlueprint.commands ∧
    deleteTextures ∈ texturesBlueprint.records ∧ deleteTextures.isMarshaled = true ∧
    ∃ function, (Marshaling.functions texturesBlueprint).filter
        (·.signature.name = deleteTextures.marshalName) = [function] ∧
      function.exits = [[], [], [.send (.send "self" "id_handler"
        [.path false ["IdNamespace", "Textures"]]) "free_ids" [.path false [.escaped "ids"]]]] :=
  ⟨records_textures, commands_textures, by decide, by decide, _, rfl, rfl⟩

end CommandBuffer
