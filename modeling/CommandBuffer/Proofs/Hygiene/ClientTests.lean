import CommandBuffer.Artifact.ClientTests
import CommandBuffer.Proofs.Hygiene.Scopes
import CommandBuffer.Proofs.Outcome

/-! # Hygiene of the tests of marshaling functions

A test binds a value for each argument behind the fixture, calls the client function, and builds the
expected command from the same arguments. What it passes and compares is what was bound exactly if
no argument is called like a later one or like the fixture, and none that is still needed is called
like a variable that is bound behind the call.
-/

namespace CommandBuffer

open Code Success

variable {command : Command} {argument : Argument} {record : Record} {fixture : Name}

/-- The name of the data, if it is put behind the command. -/
def Argument.dataIdent? (argument : Argument) : Option Name :=
  match argument.layout with
  | .immediate _ => some argument.ident
  | .word .. | .split .. | .shm .. | .bucket .. | .result .. => none

/-- The data that a test puts behind the command: the last that there is. -/
def lastData? (arguments : List Argument) : Option Name :=
  (arguments.filterMap Argument.dataIdent?).getLast?

theorem lastData?_append (first second : List Argument) :
    lastData? (first ++ second) = (lastData? second).or (lastData? first) := by
  rw [lastData?, List.filterMap_append, List.getLast?_append]
  rfl

theorem lastData?_singleton (argument : Argument) : lastData? [argument] = argument.dataIdent? := by
  rw [lastData?, List.filterMap_cons]
  cases argument.dataIdent? <;> rfl

namespace ClientTests

/-- What the client function gets for an argument. -/
def handed (argument : Argument) : Expr :=
  match argument.layout with
  | .word .. | .split .. => argument.ident
  | .immediate _ =>
    if argument.param.type.isConst then .prefixed .borrow argument.ident
    else .prefixed .borrowMutably argument.ident
  | .shm .. | .bucket .. | .result .. => .prefixed .borrowMutably argument.ident

/-- The call of the client function. -/
def callUse (record : Record) (command : Command) : Expr :=
  .send (.send "t" "gl" []) (calledMethod record) (command.arguments.map handed)

/-- The call of `init` on the expected command. -/
def initUse (command : Command) : Expr :=
  .send "expected" "init" (command.initParams.map expectedArgument)

/-- The argument is still needed behind the call: the expected command is built from it. -/
def isExpected (argument : Argument) : Bool :=
  match argument.layout with
  | .word .. | .split .. | .immediate _ => true
  | .shm .. | .bucket .. | .result .. => false

/-- The bindings of the test, up to the call of the client function. -/
def callBinders (command : Command) : List Binder :=
  .used "t" :: command.arguments.map fun argument => .used argument.ident

/-- What the client function returns, if the test keeps it. -/
def returnBinders (record : Record) : List Binder :=
  if record.strategy = .create then [.spent "client_id"] else []

/-- The bindings of the test, up to the call of `init` on the expected command. -/
def expectedBinders (record : Record) (command : Command) : List Binder :=
  .used "t" :: command.arguments.map (fun argument => ⟨argument.ident, isExpected argument⟩)
    ++ returnBinders record ++ [.used "expected"]

/-- Every use of an argument and of a local variable in the test refers to its own binding. -/
structure IsHygienic (record : Record) (command : Command) (test : Function) : Prop where
  called : test.Sees (callUse record command) (Binder.bindings [] (callBinders command))
  init : test.Sees (initUse command) (Binder.bindings [] (expectedBinders record command))
  compared : test.Sees (expectedWords (lastData? command.arguments))
    (Binder.bindings [] (expectedBinders record command))
  locals : test.Keeps ["t", "expected"]

/-- What staging arguments adds to a setup. -/
structure Stages (before : Setup) (arguments : List Argument) (after : Setup) : Prop where
  bindings : ∃ added, after.bindings = before.bindings ++ added ∧
    Stmt.Gives added (arguments.map Argument.ident)
  passed : after.arguments = before.arguments ++ arguments.map handed
  data : after.data = (lastData? arguments).or before.data

theorem Stages.refl (setup : Setup) : Stages setup [] setup :=
  ⟨⟨[], (List.append_nil _).symm, .nil⟩, (List.append_nil _).symm, rfl⟩

theorem Stages.trans {first second third : Setup} {arguments others : List Argument}
    (h : Stages first arguments second) (h' : Stages second others third) :
    Stages first (arguments ++ others) third := by
  obtain ⟨added, hadded, hgives⟩ := h.bindings
  obtain ⟨more, hmore, hgives'⟩ := h'.bindings
  refine ⟨⟨added ++ more, ?_, ?_⟩, ?_, ?_⟩
  · rw [hmore, hadded, List.append_assoc]
  · rw [List.map_append]
    exact hgives.append hgives'
  · rw [h'.passed, h.passed, List.map_append, List.append_assoc]
  · rw [h'.data, h.data, lastData?_append, Option.or_assoc]

theorem stages_of_stage {blueprint : Blueprint} {index : Nat} {before after : Setup}
    (h : stage blueprint record command index argument before = .ok (.ok after)) :
    Stages before [argument] after := by
  obtain ⟨-, -, h⟩ := bind_eq_ok.mp h
  obtain ⟨-, -, h⟩ := bind_eq_ok.mp h
  have hgives : ∀ isMutable type value, Stmt.Gives
      [.bind (.bind isMutable argument.ident) (some type) value] ([argument].map Argument.ident) :=
    fun isMutable type value => .bind isMutable argument.name type value
  cases hlayout : argument.layout with
  | word | split =>
    simp only [hlayout] at h
    obtain ⟨value, -, h⟩ := bind_eq_ok.mp h
    cases value with
    | none => cases pure_eq_ok.mp h
    | some value =>
      cases pure_eq_ok.mp h
      exact ⟨⟨_, rfl, hgives _ _ _⟩, by simp [handed, hlayout],
        by simp [lastData?_singleton, Argument.dataIdent?, hlayout]⟩
  | immediate size =>
    have hdata : ∀ setup : Setup, setup.data = some argument.ident →
        setup.data = (lastData? [argument]).or before.data := by
      intro setup hsetup
      simp [lastData?_singleton, Argument.dataIdent?, hlayout, hsetup]
    cases hconst : argument.param.type.isConst with
    | true =>
      simp only [hlayout, hconst, if_true] at h
      cases pure_eq_ok.mp h
      exact ⟨⟨_, rfl, hgives _ _ _⟩, by simp [handed, hlayout, hconst], hdata _ rfl⟩
    | false =>
      simp only [hlayout, hconst, Bool.false_eq_true, if_false] at h
      cases pure_eq_ok.mp h
      exact ⟨⟨_, rfl, hgives _ _ _⟩, by simp [handed, hlayout, hconst], hdata _ rfl⟩
  | result =>
    simp only [hlayout] at h
    cases pure_eq_ok.mp h
    exact ⟨⟨_, rfl, hgives _ _ _⟩, by simp [handed, hlayout],
      by simp [lastData?_singleton, Argument.dataIdent?, hlayout]⟩
  | shm | bucket =>
    simp only [hlayout] at h
    cases pure_eq_ok.mp h

/-- What is staged are the arguments, in their order. -/
theorem stages_of_stageAll {blueprint : Blueprint} {index : Nat} {arguments : List Argument}
    {before after : Setup}
    (h : stageAll blueprint record command index arguments before = .ok (.ok after)) :
    Stages before arguments after := by
  induction arguments generalizing index before with
  | nil =>
    cases pure_eq_ok.mp h
    exact .refl _
  | cons argument rest ih =>
    obtain ⟨staged, hstaged, h⟩ := bind_eq_ok.mp h
    cases staged with
    | error reasons => cases pure_eq_ok.mp h
    | ok setup => exact (stages_of_stage hstaged).trans (ih h)

/-! ### What the test calls and reads -/

/-- What the client function gets holds no call and no variable of the template. -/
theorem parts_handed (arguments : List Argument) :
    ∀ part ∈ Expr.listParts (arguments.map handed),
      part.isCall = false ∧ part.localName? = none := by
  induction arguments with
  | nil =>
    intro part hpart
    cases hpart
  | cons argument rest ih =>
    have hparts : ∀ part ∈ (handed argument).parts,
        part.isCall = false ∧ part.localName? = none := by
      unfold handed
      split <;> try split
      all_goals simp [Expr.parts, Expr.isCall, Expr.localName?, Argument.ident]
    exact List.forall_mem_append.mpr ⟨hparts, ih⟩

theorem calls_callUse (record : Record) (command : Command) :
    (callUse record command).calls = [callUse record command, .send "t" "gl" []] := by
  have hhanded : (Expr.listParts (command.arguments.map handed)).filter Expr.isCall = [] :=
    List.filter_eq_nil_iff.mpr fun part hpart => by simp [parts_handed _ part hpart]
  rw [Expr.calls, callUse, Expr.send, Expr.parts, List.filter_append, hhanded]
  rfl

theorem localReads_callUse (record : Record) (command : Command) :
    (callUse record command).localReads = ["t"] := by
  have hhanded : (Expr.listParts (command.arguments.map handed)).filterMap Expr.localName? = [] :=
    List.filterMap_eq_nil_iff.mpr fun part hpart => (parts_handed _ part hpart).2
  rw [Expr.localReads, callUse, Expr.send, Expr.parts, List.filterMap_append, hhanded]
  rfl

/-- What the client function returns is bound if it is an id. -/
theorem listSites_call (record : Record) (arguments : List Expr) (scope : List Name)
    (rest : List Stmt) :
    Stmt.listSites scope (call record arguments :: rest)
      = (scope, .send (.send "t" "gl" []) (calledMethod record) arguments)
        :: Stmt.listSites (Binder.scope (returnBinders record) scope) rest := by
  unfold call returnBinders
  split
  · rfl
  · split <;> rfl

theorem sites_test (fixture : Name) (record : Record) {setup : Setup}
    (hstages : Stages {} command.arguments setup) :
    (test fixture record command setup).sites
      = [([], .apply [fixture, "new"] []),
        (Binder.scope (callBinders command) [], callUse record command),
        (Binder.scope (returnBinders record) (Binder.scope (callBinders command) []),
          .apply [command.structName, "default"] []),
        (Binder.scope (expectedBinders record command) [], initUse command),
        (Binder.scope (expectedBinders record command) [],
          .expand ["assert_eq"] [.send "t" "take_commands" [],
            expectedWords (lastData? command.arguments)])] := by
  obtain ⟨added, hadded, hgives⟩ := hstages.bindings
  have hdata : setup.data = lastData? command.arguments := by
    rw [hstages.data, Option.or_none]
  have hscope : (command.arguments.map Argument.ident).reverse ++ [.verbatim "t"]
      = Binder.scope (callBinders command) [] := by
    simp [callBinders, Binder.scope, Binder.used, Function.comp_def]
  have hexpected : Name.verbatim "expected"
        :: Binder.scope (returnBinders record) (Binder.scope (callBinders command) [])
      = Binder.scope (expectedBinders record command) [] := by
    simp [callBinders, expectedBinders, Binder.scope, Binder.used, Function.comp_def]
  have hbody : (test fixture record command setup).body
      = .bind (.bind true "t") none (.apply [fixture, "new"] []) :: (added
        ++ [call record (command.arguments.map handed),
          .bind (.bind true "expected") none (.apply [command.structName, "default"] []),
          .run (initUse command),
          .run (.expand ["assert_eq"] [.send "t" "take_commands" [],
            expectedWords (lastData? command.arguments)])]) := by
    simp [test, hadded, hstages.passed, hdata, initUse]
  rw [Function.sites, hbody, ← hexpected]
  change ([], _) :: Stmt.listSites [.verbatim "t"] (added ++ _) = _
  rw [hgives.listSites_append_right, listSites_call, hscope]
  rfl

/-- A call of a method of what another method returned. -/
def isChained : Expr → Bool
  | .method (.method ..) .. => true
  | _ => false

theorem not_isChained_initUse :
    ∀ made ∈ (initUse command).parts, isChained made = false := by
  have harguments : ∀ params : List InitParam,
      ∀ made ∈ Expr.listParts (params.map expectedArgument), isChained made = false := by
    intro params
    induction params with
    | nil =>
      intro made hmade
      cases hmade
    | cons param rest ih =>
      have hparts : ∀ made ∈ (expectedArgument param).parts, isChained made = false := by
        unfold expectedArgument
        split <;> simp [Expr.parts, Expr.send, Expr.number, Expr.listParts, isChained]
      exact List.forall_mem_append.mpr ⟨hparts, ih⟩
  exact List.forall_mem_cons.mpr ⟨rfl, List.forall_mem_cons.mpr ⟨rfl, harguments _⟩⟩

/-- A call that is made for the comparison. -/
def compares : Expr → Bool
  | .method (.path false [owner]) .. => owner == .verbatim "expected"
  | .call (.path false [_]) .. => true
  | _ => false

/-- The client function is called behind the arguments, and compared behind the expected command. -/
theorem scope_of_site {setup : Setup} (hstages : Stages {} command.arguments setup)
    {site : List Name × Expr} (hsite : site ∈ (test fixture record command setup).sites)
    {made : Expr} (hmade : made ∈ site.2.calls) :
    (isChained made = true → site.1 = Binder.scope (callBinders command) []) ∧
      (compares made = true → site.1 = Binder.scope (expectedBinders record command) []) := by
  simp only [sites_test fixture record hstages, List.mem_cons, List.not_mem_nil,
    or_false] at hsite
  rcases hsite with rfl | rfl | rfl | rfl | rfl
  · cases List.mem_singleton.mp hmade
    exact ⟨Bool.noConfusion, Bool.noConfusion⟩
  · rw [calls_callUse] at hmade
    simp only [List.mem_cons, List.not_mem_nil, or_false] at hmade
    rcases hmade with rfl | rfl
    · exact ⟨fun _ => rfl, Bool.noConfusion⟩
    · exact ⟨Bool.noConfusion, Bool.noConfusion⟩
  · cases List.mem_singleton.mp hmade
    exact ⟨Bool.noConfusion, Bool.noConfusion⟩
  · rw [not_isChained_initUse made (List.mem_filter.mp hmade).1]
    exact ⟨Bool.noConfusion, fun _ => rfl⟩
  · refine ⟨?_, fun _ => rfl⟩
    generalize lastData? command.arguments = data at hmade
    cases data <;> rcases List.mem_cons.mp hmade with rfl | hmade
    · exact Bool.noConfusion
    · cases List.mem_singleton.mp hmade
      exact Bool.noConfusion
    · exact Bool.noConfusion
    · cases List.mem_singleton.mp hmade
      exact Bool.noConfusion

section

variable {setup : Setup} (hstages : Stages {} command.arguments setup)

include hstages

theorem occursAt_callUse (scope : List Name) :
    OccursAt (callUse record command) (test fixture record command setup).sites scope ↔
      scope = Binder.scope (callBinders command) [] := by
  refine occursAt_iff rfl rfl ⟨callUse record command, ?_, Expr.mem_parts _⟩
    (fun _ hsite _ hmade => (scope_of_site hstages hsite hmade).1) scope
  simp [sites_test fixture record hstages]

theorem occursAt_initUse (scope : List Name) :
    OccursAt (initUse command) (test fixture record command setup).sites scope ↔
      scope = Binder.scope (expectedBinders record command) [] := by
  refine occursAt_iff rfl rfl ⟨initUse command, ?_, Expr.mem_parts _⟩
    (fun _ hsite _ hmade => (scope_of_site hstages hsite hmade).2) scope
  simp [sites_test fixture record hstages]

theorem occursAt_expectedWords (scope : List Name) :
    OccursAt (expectedWords (lastData? command.arguments))
        (test fixture record command setup).sites scope ↔
      scope = Binder.scope (expectedBinders record command) [] := by
  have hwords : ∀ data, (expectedWords data).isCall = true ∧
      compares (expectedWords data) = true := by
    intro data
    cases data <;> exact ⟨rfl, rfl⟩
  refine occursAt_iff (hwords _).1 (hwords _).2
    ⟨.expand ["assert_eq"] [.send "t" "take_commands" [],
      expectedWords (lastData? command.arguments)], ?_, ?_⟩
    (fun _ hsite _ hmade => (scope_of_site hstages hsite hmade).2) scope
  · simp [sites_test fixture record hstages]
  · simp [Expr.parts, Expr.listParts, Expr.mem_parts]

/-- The fixture is kept if its binding is visible at the call and behind the expected command. -/
theorem keeps_test
    (hcall : IsLocal "t" (Binder.scope (callBinders command) []))
    (hexpected : IsLocal "t" (Binder.scope (expectedBinders record command) [])) :
    (test fixture record command setup).Keeps ["t", "expected"] := by
  have hbehind : ∀ text ∈ ["t", "expected"],
      IsLocal text (Binder.scope (expectedBinders record command) []) := by
    refine List.forall_mem_cons.mpr ⟨hexpected, List.forall_mem_singleton.mpr ?_⟩
    rw [expectedBinders, Binder.scope_append]
    exact ⟨_, Name.bound_cons_of_eq rfl⟩
  intro text htext site hsite hread
  simp only [sites_test fixture record hstages, List.mem_cons, List.not_mem_nil,
    or_false] at hsite
  rcases hsite with rfl | rfl | rfl | rfl | rfl
  · cases fixture <;> cases hread
  · rw [localReads_callUse] at hread
    rw [List.mem_singleton.mp hread]
    exact hcall
  · cases hread
  · exact hbehind text htext
  · exact hbehind text htext

end

theorem exists_of_outcome {blueprint : Blueprint} {tests : List Function}
    (h : outcome blueprint fixture record command = .ok (.written tests)) :
    ∃ setup, tests = [test fixture record command setup] ∧
      Stages {} command.arguments setup := by
  obtain ⟨staged, hstaged, h⟩ := bind_eq_ok.mp h
  cases staged with
  | error reasons => cases pure_eq_ok.mp h
  | ok setup =>
    obtain ⟨-, -, h⟩ := bind_eq_ok.mp h
    obtain ⟨-, -, h⟩ := bind_eq_ok.mp h
    cases pure_eq_ok.mp h
    exact ⟨setup, rfl, stages_of_stageAll hstaged⟩

/-- The names in the test refer to their own bindings exactly if no argument is called like a later
one or like the fixture, and no argument that is still needed is called like a variable behind the
call. -/
theorem isHygienic_iff {blueprint : Blueprint} {test : Function}
    (h : outcome blueprint fixture record command = .ok (.written [test])) :
    IsHygienic record command test ↔
      Binder.Unshadowed (callBinders command) ∧
        Binder.Unshadowed (expectedBinders record command) := by
  obtain ⟨setup, htest, hstages⟩ := exists_of_outcome h
  cases List.singleton_inj.mp htest
  rw [← Binder.forall_isVisible_iff _ [], ← Binder.forall_isVisible_iff _ []]
  constructor
  · intro h
    exact ⟨(Function.sees_iff (occursAt_callUse hstages)).mp h.called,
      (Function.sees_iff (occursAt_initUse hstages)).mp h.init⟩
  · rintro ⟨hcall, hexpected⟩
    have hfixture : IsVisible [.verbatim "t"] (Binder.scope (callBinders command) []) :=
      hcall _ List.mem_cons_self
    have hkept : IsVisible [.verbatim "t"] (Binder.scope (expectedBinders record command) []) :=
      hexpected _ List.mem_cons_self
    exact {
      called := (Function.sees_iff (occursAt_callUse hstages)).mpr hcall
      init := (Function.sees_iff (occursAt_initUse hstages)).mpr hexpected
      compared := (Function.sees_iff (occursAt_expectedWords hstages)).mpr hexpected
      locals := keeps_test hstages hfixture.isLocal hkept.isLocal }

end ClientTests

end CommandBuffer
