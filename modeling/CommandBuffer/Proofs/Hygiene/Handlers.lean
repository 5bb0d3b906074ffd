import CommandBuffer.Artifact.Handlers
import CommandBuffer.Proofs.Hygiene.Scopes

/-! # Hygiene of handlers

A handler takes the words as `data`, views them as the command `c`, and binds the arguments one
after the other before it calls the service function. Every argument is passed as it was bound if
no later binding is called like it, and the words and the command are read from where they are if no
argument that is called like them was bound before.
-/

namespace CommandBuffer

open Code

variable {validators : ValidatorSet} {command : Command} {argument : Argument} {text : String}

namespace Handler

/-- What the handler binds for an argument. The data of a bucket is bound twice: as a whole, and
then as far as it is read. -/
def argumentBinders (argument : Argument) : List Binder :=
  match argument.layout with
  | .word .. | .split .. => [.used argument.ident]
  | .immediate .unsized | .shm _ _ .unsized | .bucket _ .unsized | .result .. => []
  | .immediate _ | .shm .. => [.used argument.ident]
  | .bucket .. => [.spent argument.ident, .used argument.ident]

/-- The vector for the result of a getter, which the service function gets if an argument asks for
it. -/
def resultBinders (command : Command) : List Binder :=
  if command.record.strategy = .getN then
    [⟨(resultVector command).1, (resultArgument? command).isSome⟩]
  else []

/-- The bindings of the handler before the arguments. -/
def viewBinders : List Binder := [.spent "data", .spent "c"]

/-- The bindings of the handler, up to the call of the service function. -/
def binders (command : Command) : List Binder :=
  viewBinders ++ command.arguments.flatMap argumentBinders ++ resultBinders command

/-- The statements behind the view of the command. -/
def handling (validators : ValidatorSet) (command : Command) : List Stmt :=
  command.arguments.flatMap (prepare validators command) ++ dispatch command

/-- Every use of an argument and of a local variable in the handler refers to its own binding. -/
structure IsHygienic (validators : ValidatorSet) (command : Command) : Prop where
  served : (function validators command).Sees (call command)
    (Binder.bindings [] (binders command))
  locals : (function validators command).Keeps ["c", "data"]

/-! ## Statements that only prepare -/

/-- A call of a service function. -/
def isServiceCall : Expr → Bool
  | .method (.path false [owner]) (.escaped _) .. => owner == .verbatim "self"
  | _ => false

/-- The statement neither opens a scope nor calls a service function. -/
structure IsQuiet (stmt : Stmt) : Prop where
  flat : stmt.IsFlat
  silent : (stmt.values.flatMap Expr.calls).all (!isServiceCall ·) = true

theorem not_isServiceCall {stmts : List Stmt} (hquiet : ∀ stmt ∈ stmts, IsQuiet stmt)
    {scope : List Name} {site : List Name × Expr} (hsite : site ∈ Stmt.listSites scope stmts)
    {use : Expr} (huse : use ∈ site.2.calls) : isServiceCall use = false := by
  obtain ⟨stmt, hstmt, hvalue⟩ :=
    Stmt.mem_listSites_of_isFlat (fun stmt hstmt => (hquiet stmt hstmt).flat) hsite
  have hall := List.all_eq_true.mp (hquiet stmt hstmt).silent use
    (List.mem_flatMap.mpr ⟨_, hvalue, huse⟩)
  simpa using hall

theorem isQuiet_gate : ∀ stmt ∈ gate command, IsQuiet stmt := by
  intro stmt hstmt
  unfold gate at hstmt
  split at hstmt
  · rw [List.mem_singleton.mp hstmt]
    exact ⟨fun _ => rfl, rfl⟩
  · cases hstmt

theorem isQuiet_viewCommand : IsQuiet (viewCommand command) := ⟨fun _ => rfl, rfl⟩

theorem isQuiet_scalar {kind : ScalarKind} :
    ∀ stmt ∈ scalar validators command argument kind, IsQuiet stmt := by
  have hdecode : IsQuiet (decode command argument kind) := by
    cases kind <;> exact ⟨fun _ => rfl, rfl⟩
  have hvalidate : ∀ validator, IsQuiet (validate command argument kind validator) := by
    intro validator
    cases henum : isEnumLike argument kind <;> simp only [validate, henum] <;>
      exact ⟨fun _ => rfl, rfl⟩
  intro stmt hstmt
  rw [scalar, List.mem_cons, Option.mem_toList, Option.map_eq_some_iff] at hstmt
  rcases hstmt with rfl | ⟨validator, -, rfl⟩
  · exact hdecode
  · exact hvalidate validator

theorem isQuiet_countCheck {size : DataSize} : ∀ stmt ∈ countCheck command size, IsQuiet stmt := by
  intro stmt hstmt
  cases size with
  | fixed | unsized => cases hstmt
  | atMost | counted =>
    rw [List.mem_singleton.mp hstmt]
    exact ⟨fun _ => rfl, rfl⟩

/-- The number of elements is computed without a call. -/
theorem calls_elementCount {size : DataSize} :
    (elementCount command size).parts.filter Expr.isCall = [] := by
  cases size with
  | fixed | atMost | unsized => rfl
  | counted counter units =>
    rw [elementCount]
    split <;> rfl

theorem values_bindAttempt (value : Expr) :
    (bindAttempt argument value).values = [.attempt value] := rfl

theorem isQuiet_fetch : ∀ stmt ∈ fetch command argument, IsQuiet stmt := by
  intro stmt hstmt
  unfold fetch at hstmt
  split at hstmt
  case h_4 | h_5 =>
    rw [List.mem_append, List.mem_singleton] at hstmt
    rcases hstmt with hcheck | rfl
    · exact isQuiet_countCheck _ hcheck
    · refine ⟨fun _ => rfl, ?_⟩
      simp only [values_bindAttempt, Expr.calls, Expr.parts, Expr.listParts, List.flatMap_cons,
        List.flatMap_nil, List.append_nil, List.filter_append, List.filter_cons,
        calls_elementCount]
      rfl
  case h_6 =>
    simp only [List.mem_append, List.mem_cons, List.not_mem_nil, or_false] at hstmt
    rcases hstmt with hcheck | rfl | rfl
    · exact isQuiet_countCheck _ hcheck
    · exact ⟨fun _ => rfl, rfl⟩
    · refine ⟨fun _ => rfl, ?_⟩
      simp only [Stmt.values, Stmt.sites, Expr.calls, Expr.parts, Expr.listParts, Expr.send,
        List.map_cons, List.flatMap_cons, List.append_nil, List.filter_append, List.filter_cons,
        calls_elementCount]
      rfl
  all_goals cases hstmt

theorem isQuiet_prepare : ∀ stmt ∈ prepare validators command argument, IsQuiet stmt := by
  intro stmt hstmt
  unfold prepare at hstmt
  split at hstmt
  · exact isQuiet_scalar stmt hstmt
  · rw [List.mem_singleton.mp hstmt]
    exact ⟨fun _ => rfl, rfl⟩
  · exact isQuiet_fetch stmt hstmt
  · exact isQuiet_fetch stmt hstmt
  · exact isQuiet_fetch stmt hstmt
  · exact isQuiet_fetch stmt hstmt

/-! ## What the handler binds -/

theorem listBinders_countCheck (size : DataSize) :
    Stmt.listBinders (countCheck command size) = [] := by
  cases size <;> rfl

/-- An argument is bound as the sequence of bindings says. -/
theorem listBinders_prepare : Stmt.listBinders (prepare validators command argument)
    = ((argumentBinders argument).map Binder.name).reverse := by
  unfold prepare argumentBinders
  cases hlayout : argument.layout with
  | word field kind =>
    have hdecode : (decode command argument kind).binders = [argument.ident] := by
      cases kind <;> rfl
    change Stmt.listBinders (scalar validators command argument kind) = [argument.ident]
    rw [scalar, Stmt.listBinders, hdecode]
    cases validators.forType? argument.param.type <;> rfl
  | split => rfl
  | result => simp only [fetch, hlayout, Stmt.listBinders, List.map_nil, List.reverse_nil]
  | shm id offset size | bucket id size | immediate size =>
    cases size <;> simp only [fetch, hlayout, Stmt.listBinders_append, listBinders_countCheck] <;>
      rfl

theorem scope_arguments (arguments : List Argument) (outer : List Name) :
    Stmt.listBinders (arguments.flatMap (prepare validators command)) ++ outer
      = Binder.scope (arguments.flatMap argumentBinders) outer := by
  induction arguments generalizing outer with
  | nil => rfl
  | cons argument rest ih =>
    rw [List.flatMap_cons, Stmt.listBinders_append, List.append_assoc, ih, listBinders_prepare,
      List.flatMap_cons, Binder.scope_append]
    rfl

/-! ## The call -/

theorem not_mem_parts {value : Expr} (hsilent : value.calls.all (!isServiceCall ·) = true) :
    call command ∉ value.parts := by
  rw [Expr.mem_parts_iff rfl]
  intro hmem
  cases List.all_eq_true.mp hsilent _ hmem

theorem not_mem_parts_resultLength : call command ∉ (resultLength command).parts := by
  rw [resultLength]
  cases selector? command <;> exact not_mem_parts rfl

/-- A getter calls the service function behind the vector for its result. -/
theorem occursAt_dispatch_getN (hstrategy : command.record.strategy = .getN)
    (scope other : List Name) :
    OccursAt (call command) (Stmt.listSites scope (dispatch command)) other ↔
      other = Binder.scope (resultBinders command) scope := by
  cases hvector : resultVector command with
  | mk result element =>
    let vector : Expr := .vector (.apply (element ++ [Name.verbatim "default"]) [])
      (resultLength command)
    let answer : Expr := .send "self" "write_sized_result"
      [stored "result_shm_id", stored "result_shm_offset", .prefixed .borrow result]
    have hsites : Stmt.listSites scope (dispatch command)
        = [(scope, vector), (result :: scope, call command), (result :: scope, answer)] := by
      rw [dispatch, hstrategy]
      simp only [hvector, Stmt.listSites, Stmt.sites_bind]
      rfl
    have hscope : Binder.scope (resultBinders command) scope = result :: scope := by
      rw [resultBinders, if_pos hstrategy, hvector]
      rfl
    have hquiet : call command ∉ vector.parts := by
      rintro (_ | ⟨_, hmem⟩)
      rcases List.mem_append.mp hmem with hdefault | hlength
      · exact not_mem_parts rfl hdefault
      · exact not_mem_parts_resultLength hlength
    have hanswer : call command ∉ answer.parts := not_mem_parts rfl
    rw [hsites, hscope, occursAt_cons_of_notMem hquiet,
      occursAt_cons_of_mem (Expr.mem_parts _) (List.forall_mem_singleton.mpr hanswer)]

/-- The service function is called once, behind the vector for the result. -/
theorem occursAt_dispatch (command : Command) (scope other : List Name) :
    OccursAt (call command) (Stmt.listSites scope (dispatch command)) other ↔
      other = Binder.scope (resultBinders command) scope := by
  by_cases hget : command.record.strategy = .getN
  · exact occursAt_dispatch_getN hget scope other
  have hself : call command ∈ (call command).parts := Expr.mem_parts _
  have hsucceed : call command ∉ succeed.parts := not_mem_parts rfl
  have hscope : Binder.scope (resultBinders command) scope = scope := by
    rw [resultBinders, if_neg hget]
    rfl
  rw [hscope]
  cases hstrategy : command.record.strategy with
  | getN => exact absurd hstrategy hget
  | custom =>
    have hsites : Stmt.listSites scope (dispatch command) = [(scope, call command)] := by
      rw [dispatch, hstrategy]
      rfl
    rw [hsites, occursAt_cons_of_mem hself (List.forall_mem_nil _)]
  | genN =>
    let fail : Expr := .apply ["Err"] [.path false ["DecodeError", "InvalidArguments"]]
    have hsites : Stmt.listSites scope (dispatch command)
        = [(scope, .prefixed .complement (call command)), (scope, fail), (scope, succeed)] := by
      rw [dispatch, hstrategy]
      rfl
    have hnegated : call command ∈ (Expr.prefixed .complement (call command)).parts :=
      List.mem_cons_of_mem _ hself
    have hfail : call command ∉ fail.parts := not_mem_parts rfl
    rw [hsites, occursAt_cons_of_mem hnegated
      (List.forall_mem_cons.mpr ⟨hfail, List.forall_mem_singleton.mpr hsucceed⟩)]
  | is =>
    let answer : Expr := .send "self" "write_result"
      [stored "result_shm_id", stored "result_shm_offset", "result"]
    have hsites : Stmt.listSites scope (dispatch command)
        = [(scope, call command), (.verbatim "result" :: scope, answer)] := by
      rw [dispatch, hstrategy]
      rfl
    have hanswer : call command ∉ answer.parts := not_mem_parts rfl
    rw [hsites, occursAt_cons_of_mem hself (List.forall_mem_singleton.mpr hanswer)]
  | noCommand | direct | put | putN | delN | create =>
    have hsites : Stmt.listSites scope (dispatch command)
        = [(scope, call command), (scope, succeed)] := by
      rw [dispatch, hstrategy]
      rfl
    rw [hsites, occursAt_cons_of_mem hself (List.forall_mem_singleton.mpr hsucceed)]

/-! ## What the names of the handler refer to -/

theorem listBinders_gate : Stmt.listBinders (gate command) = [] := by
  unfold gate
  split <;> rfl

/-- The handler binds the words and the command, then it makes the arguments ready. -/
theorem sites_function (validators : ValidatorSet) (command : Command) :
    (function validators command).sites
      = Stmt.listSites ["data"] (gate command ++ [viewCommand command])
        ++ Stmt.listSites (Binder.scope viewBinders []) (handling validators command) := by
  have hbody : (function validators command).body
      = gate command ++ [viewCommand command] ++ handling validators command := by
    simp only [function, handling, List.append_assoc, List.cons_append, List.nil_append]
  have hscope : Stmt.listBinders (gate command ++ [viewCommand command]) ++ [.verbatim "data"]
      = Binder.scope viewBinders [] := by
    rw [Stmt.listBinders_append, listBinders_gate]
    rfl
  rw [Function.sites, hbody, Stmt.listSites_append]
  exact congrArg _ (congrArg (Stmt.listSites · _) hscope)

theorem occursAt_call (validators : ValidatorSet) (command : Command) (scope : List Name) :
    OccursAt (call command) (function validators command).sites scope ↔
      scope = Binder.scope (binders command) [] := by
  have hquiet : ∀ {stmts outer}, (∀ stmt ∈ stmts, IsQuiet stmt) →
      ¬ OccursAt (call command) (Stmt.listSites outer stmts) scope := by
    rintro stmts outer hquiet ⟨value, hsite, huse⟩
    cases not_isServiceCall hquiet hsite ((Expr.mem_parts_iff rfl).mp huse)
  have hview : ∀ stmt ∈ gate command ++ [viewCommand command], IsQuiet stmt := by
    intro stmt hstmt
    rcases List.mem_append.mp hstmt with hgate | hview
    · exact isQuiet_gate stmt hgate
    · rw [List.mem_singleton.mp hview]
      exact isQuiet_viewCommand
  have hprepare : ∀ stmt ∈ command.arguments.flatMap (prepare validators command),
      IsQuiet stmt := by
    intro stmt hstmt
    obtain ⟨argument, -, hmem⟩ := List.mem_flatMap.mp hstmt
    exact isQuiet_prepare stmt hmem
  rw [sites_function, occursAt_append, or_iff_right (hquiet hview), handling,
    Stmt.listSites_append, occursAt_append, or_iff_right (hquiet hprepare), occursAt_dispatch,
    scope_arguments, binders, Binder.scope_append, Binder.scope_append]

theorem isFlat_handling (validators : ValidatorSet) (command : Command) :
    ∀ stmt ∈ handling validators command, stmt.IsFlat := by
  have hbind : ∀ pattern value, (Stmt.bind pattern none value).IsFlat := by
    intro pattern value scope
    simp only [Stmt.values, Stmt.sites_bind]
    rfl
  have hrun : ∀ value, (Stmt.run value).IsFlat := fun _ _ => rfl
  have hresult : ∀ value, (Stmt.result value).IsFlat := fun _ _ => rfl
  have hrefuse : ∀ condition error, (Stmt.when condition [fail error]).IsFlat := fun _ _ _ => rfl
  intro stmt hstmt
  rcases List.mem_append.mp hstmt with hprepare | hdispatch
  · obtain ⟨argument, -, hmem⟩ := List.mem_flatMap.mp hprepare
    exact (isQuiet_prepare stmt hmem).flat
  · unfold dispatch at hdispatch
    split at hdispatch <;>
      simp only [List.mem_cons, List.not_mem_nil, or_false, writeResult] at hdispatch <;>
      rcases hdispatch with rfl | rfl | rfl <;> simp only [hbind, hrun, hresult, hrefuse]

theorem name_of_mem_argumentBinders {binder : Binder} (h : binder ∈ argumentBinders argument) :
    binder.name = argument.ident := by
  unfold argumentBinders at h
  split at h <;> simp only [List.mem_cons, List.not_mem_nil, or_false] at h <;>
    rcases h with rfl | rfl <;> rfl

/-- The vector for the result is an argument, or called like one. -/
theorem exists_resultVector (command : Command) :
    ∃ text, (resultVector command).1 = .escaped text := by
  unfold resultVector
  split <;> exact ⟨_, rfl⟩

/-- The template binds nothing but a result behind the words and the command. -/
theorem verbatim_not_mem_binders (validators : ValidatorSet) (command : Command)
    (htext : text ≠ "result") :
    ∀ stmt ∈ handling validators command, .verbatim text ∉ stmt.binders := by
  intro stmt hstmt hname
  rcases List.mem_append.mp hstmt with hprepare | hdispatch
  · obtain ⟨argument, -, hmem⟩ := List.mem_flatMap.mp hprepare
    have hbound := Stmt.mem_listBinders hmem hname
    rw [listBinders_prepare, List.mem_reverse] at hbound
    obtain ⟨binder, hbinder, hverbatim⟩ := List.mem_map.mp hbound
    rw [name_of_mem_argumentBinders hbinder] at hverbatim
    cases hverbatim
  · obtain ⟨vector, hvector⟩ := exists_resultVector command
    have hbound := Stmt.mem_listBinders hdispatch hname
    unfold dispatch at hbound
    split at hbound
    case h_3 =>
      cases hvector.symm.trans (List.mem_singleton.mp hbound).symm
    case h_4 =>
      cases List.mem_singleton.mp hbound
      exact htext rfl
    all_goals cases hbound

/-- The gate and the view of the command see the words, and do not read a command. -/
theorem scope_view : ∀ site ∈ Stmt.listSites ["data"] (gate command ++ [viewCommand command]),
    site.1 = [.verbatim "data"] ∧ "c" ∉ site.2.localReads := by
  have hview : ∀ site ∈ Stmt.listSites ["data"] [viewCommand command],
      site.1 = [.verbatim "data"] ∧ "c" ∉ site.2.localReads :=
    List.forall_mem_singleton.mpr ⟨rfl, (by decide : "c" ∉ ["command_from_words", "data"])⟩
  unfold gate
  split
  · exact List.forall_mem_cons.mpr ⟨⟨rfl, (by decide : "c" ∉ ["self"])⟩,
      List.forall_mem_cons.mpr ⟨⟨rfl, (by decide : "c" ∉ ["Err"])⟩, hview⟩⟩
  · exact hview

/-- The handler reads the words and the command as they are exactly if no argument that is called
like them is bound before. -/
theorem keeps_iff (validators : ValidatorSet) (command : Command) :
    (function validators command).Keeps ["c", "data"] ↔
      ∀ text ∈ ["c", "data"], Stmt.Undisturbed text (handling validators command) := by
  have hlate : ∀ text ∈ ["c", "data"],
      (∀ site ∈ Stmt.listSites (Binder.scope viewBinders []) (handling validators command),
        text ∈ site.2.localReads → IsLocal text site.1) ↔
      Stmt.Undisturbed text (handling validators command) := by
    intro text htext
    have houter : IsLocal text (Binder.scope viewBinders []) := by
      simp only [List.mem_cons, List.not_mem_nil, or_false] at htext
      rcases htext with rfl | rfl <;> exact ⟨_, rfl⟩
    have hresult : text ≠ "result" := by
      rintro rfl
      revert htext
      decide
    have hiff := Stmt.forall_isLocal_iff (isFlat_handling validators command)
      (verbatim_not_mem_binders validators command hresult) houter List.not_mem_nil
    rw [List.nil_append] at hiff
    rw [hiff]
    exact and_iff_right fun hnone => absurd hnone List.not_mem_nil
  rw [Function.Keeps, sites_function]
  constructor
  · intro h text htext
    exact (hlate text htext).mp fun site hsite => h text htext site (List.mem_append_right _ hsite)
  · intro h text htext site hsite hread
    rcases List.mem_append.mp hsite with hsite | hsite
    · obtain ⟨hscope, hcommand⟩ := scope_view site hsite
      rw [hscope]
      simp only [List.mem_cons, List.not_mem_nil, or_false] at htext
      rcases htext with rfl | rfl
      · exact absurd hread hcommand
      · exact ⟨_, rfl⟩
    · exact (hlate text htext).mpr (h text htext) site hsite hread

/-- Every name in the handler refers to its own binding exactly if no argument is bound again before
the call, and none is bound like the words or the command while these are read. -/
theorem isHygienic_iff (validators : ValidatorSet) (command : Command) :
    IsHygienic validators command ↔ Binder.Unshadowed (binders command) ∧
      ∀ text ∈ ["c", "data"], Stmt.Undisturbed text (handling validators command) := by
  rw [← Binder.forall_isVisible_iff _ [], ← keeps_iff,
    ← Function.sees_iff (occursAt_call validators command)]
  exact ⟨fun h => ⟨h.served, h.locals⟩, fun h => ⟨h.1, h.2⟩⟩

end Handler
end CommandBuffer
