import CommandBuffer.Artifact.HandlerTests
import CommandBuffer.Proofs.Hygiene.ClientTests
import Mathlib.Data.List.Pairwise

/-! # Hygiene of the tests of handlers

A test binds a value for each argument that it can stage, builds the command and runs it. A test of
an illegal value binds the argument once more, in the place of its valid value. The tests of a
record use what was bound exactly if no staged argument is called like a later one, like the fixture
or like the command.
-/

namespace CommandBuffer

open Code Success

variable {command : Command} {argument : Argument} {record : Record} {registry : Registry}
  {fixture : Name}

namespace HandlerTests

/-- The test binds a value for the argument. -/
def isStaged (argument : Argument) : Bool :=
  match argument.layout with
  | .word .. | .split .. | .immediate _ => true
  | .shm .. | .bucket .. | .result .. => false

/-- The arguments that a test binds. -/
def stagedArguments (command : Command) : List Argument := command.arguments.filter isStaged

/-- The call of `init` on the command under test. -/
def initUse (command : Command) : Expr :=
  .send "cmd" "init" (command.initParams.map initArgument)

/-- The run of the command under test. -/
def runUse (command : Command) : Expr := execute { data := lastData? command.arguments }

/-- The bindings of the test with valid arguments. -/
def validBinders (command : Command) : List Binder :=
  .used "t" :: (stagedArguments command).map (fun argument => .used argument.ident)
    ++ [.spent "cmd"]

/-- The bindings of the test with an illegal value of the argument, which is bound in the place of
the valid one. -/
def invalidBinders (command : Command) (argument : Argument) : List Binder :=
  .used "t" :: (stagedArguments command).map (fun other => ⟨other.ident, other ≠ argument⟩)
    ++ [.used argument.ident, .spent "cmd"]

/-- Every use of an argument and of a local variable in the test refers to its own binding. -/
structure IsHygienic (command : Command) (binders : List Binder) (test : Function) : Prop where
  init : test.Sees (initUse command) (Binder.bindings [] binders)
  run : test.Sees (runUse command) (Binder.bindings [] binders)
  locals : test.Keeps ["t", "cmd"]

/-- All tests of a record use the arguments as they were bound; a test of an illegal value uses
that value. -/
def AreHygienic (fixture : Name) (record : Record) (command : Command) (tests : List Function) :
    Prop :=
  ∃ valid invalid, tests = valid :: invalid ∧ IsHygienic command (validBinders command) valid ∧
    ∀ test ∈ invalid, ∃ setup illegal,
      invalidTest fixture record command setup illegal = .ok test ∧
        IsHygienic command (invalidBinders command illegal.argument) test

/-! ### What is staged -/

/-- What staging arguments adds to a setup. -/
structure Stages (before : Setup) (arguments : List Argument) (after : Setup) : Prop where
  bindings : ∃ added, after.bindings = before.bindings ++ added ∧
    Stmt.Gives added ((arguments.filter isStaged).map Argument.ident)
  data : after.data = (lastData? arguments).or before.data

theorem Stages.refl (setup : Setup) : Stages setup [] setup :=
  ⟨⟨[], (List.append_nil _).symm, .nil⟩, rfl⟩

theorem Stages.trans {first second third : Setup} {arguments others : List Argument}
    (h : Stages first arguments second) (h' : Stages second others third) :
    Stages first (arguments ++ others) third := by
  obtain ⟨added, hadded, hgives⟩ := h.bindings
  obtain ⟨more, hmore, hgives'⟩ := h'.bindings
  refine ⟨⟨added ++ more, ?_, ?_⟩, ?_⟩
  · rw [hmore, hadded, List.append_assoc]
  · rw [List.filter_append, List.map_append]
    exact hgives.append hgives'
  · rw [h'.data, h.data, lastData?_append, Option.or_assoc]

theorem stages_of_stage {index : Nat} {before after : Setup}
    (h : stage registry command index argument before = .ok (some after)) :
    Stages before [argument] after := by
  obtain ⟨-, -, h⟩ := bind_eq_ok.mp h
  obtain ⟨-, -, h⟩ := bind_eq_ok.mp h
  have hgives : isStaged argument = true → ∀ type value, Stmt.Gives
      [.bind (.bind false argument.ident) (some type) value]
      (([argument].filter isStaged).map Argument.ident) := by
    intro hstaged type value
    rw [List.filter_cons, if_pos hstaged]
    exact .bind false argument.name type value
  have hnone : isStaged argument = false →
      Stmt.Gives [] (([argument].filter isStaged).map Argument.ident) := by
    intro hstaged
    simp only [List.filter_cons, hstaged]
    exact .nil
  cases hlayout : argument.layout with
  | word | split =>
    simp only [hlayout] at h
    obtain ⟨value, -, h⟩ := bind_eq_ok.mp h
    cases value with
    | none => cases pure_eq_ok.mp h
    | some value =>
      cases pure_eq_ok.mp h
      exact ⟨⟨_, rfl, hgives (by rw [isStaged, hlayout]) _ _⟩,
        by simp [lastData?_singleton, Argument.dataIdent?, hlayout]⟩
  | immediate size =>
    cases size with
    | unsized =>
      simp only [hlayout] at h
      cases pure_eq_ok.mp h
    | fixed | atMost | counted =>
      simp only [hlayout] at h
      cases pure_eq_ok.mp h
      exact ⟨⟨_, rfl, hgives (by rw [isStaged, hlayout]) _ _⟩,
        by simp [lastData?_singleton, Argument.dataIdent?, hlayout]⟩
  | shm | result =>
    simp only [hlayout] at h
    cases pure_eq_ok.mp h
    exact ⟨⟨[], (List.append_nil _).symm, hnone (by rw [isStaged, hlayout])⟩,
      by simp [lastData?_singleton, Argument.dataIdent?, hlayout]⟩
  | bucket =>
    simp only [hlayout] at h
    cases pure_eq_ok.mp h

/-- What is staged are the arguments that can be, in their order. -/
theorem stages_of_stageAll {index : Nat} {arguments : List Argument} {before after : Setup}
    (h : stageAll registry command index arguments before = .ok (some after)) :
    Stages before arguments after := by
  induction arguments generalizing index before with
  | nil =>
    cases pure_eq_ok.mp h
    exact .refl _
  | cons argument rest ih =>
    obtain ⟨staged, hstaged, h⟩ := bind_eq_ok.mp h
    cases staged with
    | none => cases pure_eq_ok.mp h
    | some setup => exact (stages_of_stage hstaged).trans (ih h)

/-! ### What the tests call and read -/

/-- The call that announces what the test waits for. -/
def announceUse (record : Record) : Expr :=
  .send "t" "expect_call" [.quoted (record.expectedCall.getD record.decoderName)]

/-- The scope behind the fixture and the given values. -/
def valueScope (names : List Name) : List Name := names.reverse ++ [.verbatim "t"]

/-- The test binds the names, and runs the command behind all bindings. -/
def RunsBehind (fixture : Name) (record : Record) (command : Command) (names : List Name)
    (test : Function) : Prop :=
  ∃ announced error, announced ⊆ [announceUse record] ∧
    test.sites = ([], fixtureFor fixture record) :: (announced.map ([.verbatim "t"], ·)
      ++ [(valueScope names, .apply [command.structName, "default"] []),
        (.verbatim "cmd" :: valueScope names, initUse command),
        (.verbatim "cmd" :: valueScope names,
          .expand ["assert_eq"] [runUse command, .apply ["Ok"] [.tuple [] false]]),
        (.verbatim "cmd" :: valueScope names,
          .expand ["assert_eq"] [.send "t" "gl_error" [], error])])

/-- A test announces a call or not, binds the values, and runs the command. -/
theorem runsBehind_of_body {test : Function} {early added : List Stmt} {names : List Name}
    {setup : Setup} {error : Name} (hearly : early = [] ∨ early = expectation record)
    (hgives : Stmt.Gives added names) (hdata : setup.data = lastData? command.arguments)
    (hparameters : test.signature.parameters = [])
    (hbody : test.body = bindFixture fixture record
      :: (early ++ (added ++ runCommand command setup error))) :
    RunsBehind fixture record command names test := by
  have hannounced : ∀ rest, ∃ announced ⊆ [announceUse record],
      Stmt.listSites [.verbatim "t"] (early ++ rest)
        = announced.map ([.verbatim "t"], ·) ++ Stmt.listSites [.verbatim "t"] rest := by
    intro rest
    rcases hearly with rfl | rfl
    · exact ⟨[], List.nil_subset _, rfl⟩
    · unfold expectation
      split
      · exact ⟨[announceUse record], List.Subset.refl _, rfl⟩
      · exact ⟨[], List.nil_subset _, rfl⟩
  have hrun : runUse command = execute setup := by rw [runUse, execute, execute, hdata]
  obtain ⟨announced, hsubset, hsites⟩ := hannounced (added ++ runCommand command setup error)
  refine ⟨announced, error, hsubset, ?_⟩
  rw [Function.sites, hparameters, hbody, hrun]
  change ([], _) :: Stmt.listSites [.verbatim "t"] _ = _
  rw [hsites, hgives.listSites_append_right]
  rfl

/-- A call that builds or runs the command under test. -/
def runs : Expr → Bool
  | .method (.path ..) name .. => name != .verbatim "expect_call"
  | _ => false

namespace RunsBehind

variable {test : Function} {names : List Name}
  (h : RunsBehind fixture record command names test)

include h

theorem scope_of_runs {site : List Name × Expr} (hsite : site ∈ test.sites) {made : Expr}
    (hmade : made ∈ site.2.calls) (hruns : runs made = true) :
    site.1 = .verbatim "cmd" :: valueScope names := by
  obtain ⟨announced, error, hannounced, hsites⟩ := h
  simp only [hsites, List.mem_cons, List.mem_append, List.mem_map, List.not_mem_nil,
    or_false] at hsite
  rcases hsite with rfl | ⟨call, hcall, rfl⟩ | rfl | rfl | rfl | rfl
  · unfold fixtureFor at hmade
    split at hmade <;> cases List.mem_singleton.mp hmade <;> cases hruns
  · cases List.mem_singleton.mp (hannounced hcall)
    cases List.mem_singleton.mp hmade
    cases hruns
  · cases List.mem_singleton.mp hmade
    cases hruns
  · rfl
  · rfl
  · rfl

theorem occursAt_initUse (scope : List Name) :
    OccursAt (initUse command) test.sites scope ↔
      scope = .verbatim "cmd" :: valueScope names := by
  refine occursAt_iff rfl rfl ⟨initUse command, ?_, Expr.mem_parts _⟩
    (fun _ hsite _ => h.scope_of_runs hsite) scope
  obtain ⟨announced, error, -, hsites⟩ := h
  simp [hsites]

theorem occursAt_runUse (scope : List Name) :
    OccursAt (runUse command) test.sites scope ↔
      scope = .verbatim "cmd" :: valueScope names := by
  have hrun : (runUse command).isCall = true ∧ runs (runUse command) = true := by
    unfold runUse execute
    split <;> exact ⟨rfl, rfl⟩
  refine occursAt_iff hrun.1 hrun.2 ⟨.expand ["assert_eq"] [runUse command,
    .apply ["Ok"] [.tuple [] false]], ?_, ?_⟩ (fun _ hsite _ => h.scope_of_runs hsite) scope
  · obtain ⟨announced, error, -, hsites⟩ := h
    simp [hsites]
  · simp [Expr.parts, Expr.listParts, Expr.mem_parts]

theorem keeps (hkept : IsLocal "t" (.verbatim "cmd" :: valueScope names)) :
    test.Keeps ["t", "cmd"] := by
  have hbehind : ∀ text ∈ ["t", "cmd"], IsLocal text (.verbatim "cmd" :: valueScope names) :=
    List.forall_mem_cons.mpr
      ⟨hkept, List.forall_mem_singleton.mpr ⟨_, Name.bound_cons_of_eq rfl⟩⟩
  obtain ⟨announced, error, hannounced, hsites⟩ := h
  intro text htext site hsite hread
  simp only [hsites, List.mem_cons, List.mem_append, List.mem_map, List.not_mem_nil,
    or_false] at hsite
  rcases hsite with rfl | ⟨call, hcall, rfl⟩ | rfl | rfl | rfl | rfl
  · unfold fixtureFor at hread
    split at hread <;> cases fixture <;> cases hread
  · cases List.mem_singleton.mp (hannounced hcall)
    cases List.mem_singleton.mp hread
    exact ⟨[], rfl⟩
  · cases hread
  · exact hbehind text htext
  · exact hbehind text htext
  · exact hbehind text htext

/-- The names in the test refer to their own bindings exactly if the sequence of bindings is
unshadowed. -/
theorem isHygienic_iff {binders : List Binder} (hfixture : binders.head? = some (.used "t"))
    (hscope : Binder.scope binders [] = .verbatim "cmd" :: valueScope names) :
    IsHygienic command binders test ↔ Binder.Unshadowed binders := by
  rw [← Binder.forall_isVisible_iff _ [], hscope]
  constructor
  · intro hhygienic
    exact (Function.sees_iff h.occursAt_initUse).mp hhygienic.init
  · intro hvisible
    obtain ⟨rest, rfl⟩ := List.head?_eq_some_iff.mp hfixture
    have hkept : IsVisible [.verbatim "t"] (.verbatim "cmd" :: valueScope names) :=
      hvisible _ List.mem_cons_self
    exact {
      init := (Function.sees_iff h.occursAt_initUse).mpr hvisible
      run := (Function.sees_iff h.occursAt_runUse).mpr hvisible
      locals := h.keeps hkept.isLocal }

end RunsBehind

/-! ### The tests of a record -/

variable {setup : Setup} {test : Function}

theorem isHygienic_validTest_iff (hstages : Stages {} command.arguments setup) :
    IsHygienic command (validBinders command) (validTest fixture record command setup) ↔
      Binder.Unshadowed (validBinders command) := by
  obtain ⟨added, hadded, hgives⟩ := hstages.bindings
  have hdata : setup.data = lastData? command.arguments := by rw [hstages.data, Option.or_none]
  have hbody : (validTest fixture record command setup).body = bindFixture fixture record
      :: (expectation record ++ (added ++ runCommand command setup "GL_NO_ERROR")) := by
    simp [validTest, hadded]
  refine (runsBehind_of_body (.inr rfl) hgives hdata rfl hbody).isHygienic_iff rfl ?_
  simp [validBinders, Binder.scope, Binder.used, Binder.spent, valueScope, stagedArguments,
    Function.comp_def]

theorem isHygienic_invalidTest_iff (hstages : Stages {} command.arguments setup)
    {illegal : IllegalValue}
    (htest : invalidTest fixture record command setup illegal = .ok test) :
    IsHygienic command (invalidBinders command illegal.argument) test ↔
      Binder.Unshadowed (invalidBinders command illegal.argument) := by
  obtain ⟨value, -, htest⟩ := bind_eq_ok.mp htest
  cases pure_eq_ok.mp htest
  obtain ⟨added, hadded, hgives⟩ := hstages.bindings
  have hdata : setup.data = lastData? command.arguments := by rw [hstages.data, Option.or_none]
  have hillegal := hgives.append
    (.bind false illegal.argument.name illegal.argument.valueType value)
  have hbody : bindFixture fixture record :: setup.bindings
        ++ .bind (.bind false illegal.argument.ident) (some illegal.argument.valueType) value
          :: runCommand command setup (reportedError illegal.argument illegal.kind)
      = bindFixture fixture record :: ([] ++ (added
        ++ [.bind (.bind false illegal.argument.ident) (some illegal.argument.valueType) value]
        ++ runCommand command setup (reportedError illegal.argument illegal.kind))) := by
    simp [hadded]
  refine (runsBehind_of_body (.inl rfl) hillegal hdata rfl hbody).isHygienic_iff rfl ?_
  simp [invalidBinders, Binder.scope, Binder.used, Binder.spent, valueScope, stagedArguments,
    Argument.ident, Function.comp_def]

/-- An illegal value of a bound argument shadows nothing but its valid value. -/
theorem unshadowed_invalidBinders (hargument : argument ∈ stagedArguments command)
    (h : Binder.Unshadowed (validBinders command)) :
    Binder.Unshadowed (invalidBinders command argument) := by
  obtain ⟨hfixture, hrest⟩ := List.pairwise_cons.mp h
  obtain ⟨hnames, -, hlast⟩ := List.pairwise_append.mp hrest
  have hnotFixture : ∀ other ∈ stagedArguments command, other.ident.spelling ≠ "t" :=
    fun other hother =>
      hfixture _ (List.mem_append_left _ (List.mem_map_of_mem hother)) rfl
  have hnotCommand : ∀ other ∈ stagedArguments command, "cmd" ≠ other.ident.spelling :=
    fun other hother => hlast _ (List.mem_map_of_mem hother) _ (List.mem_singleton.mpr rfl) rfl
  have hapart : (stagedArguments command).Pairwise fun first second =>
      second.ident.spelling ≠ first.ident.spelling :=
    (List.pairwise_map.mp hnames).imp fun hne => hne rfl
  have hsymm : Std.Symm fun first second : Argument =>
      second.ident.spelling ≠ first.ident.spelling := ⟨fun _ _ => Ne.symm⟩
  have hown : ∀ other ∈ stagedArguments command, other ≠ argument →
      argument.ident.spelling ≠ other.ident.spelling :=
    fun other hother hne => hapart.forall hother hargument hne
  refine List.pairwise_cons.mpr ⟨?_, List.pairwise_append.mpr ⟨?_, ?_, ?_⟩⟩
  · intro binder hbinder _
    rcases List.mem_append.mp hbinder with hmem | hmem
    · obtain ⟨other, hother, rfl⟩ := List.mem_map.mp hmem
      exact hnotFixture other hother
    · simp only [List.mem_cons, List.not_mem_nil, or_false] at hmem
      rcases hmem with rfl | rfl
      · exact hnotFixture argument hargument
      · decide
  · refine List.pairwise_map.mpr (hapart.imp ?_)
    intro first second hne _
    exact hne
  · exact List.pairwise_pair.mpr fun _ => hnotCommand argument hargument
  · refine List.forall_mem_map.mpr fun other hother => List.forall_mem_cons.mpr ⟨?_, ?_⟩
    · exact fun hused => hown other hother (of_decide_eq_true hused)
    · exact List.forall_mem_singleton.mpr fun _ => hnotCommand other hother

theorem exists_of_outcome {blueprint : Blueprint} {tests : List Function}
    (h : outcome blueprint fixture record command = .ok (.written tests)) :
    ∃ setup invalid, Stages {} command.arguments setup ∧
      tests = validTest fixture record command setup :: invalid ∧
      ∀ test ∈ invalid, ∃ illegal, illegal.argument ∈ stagedArguments command ∧
        invalidTest fixture record command setup illegal = .ok test := by
  obtain ⟨staged, hstaged, h⟩ := bind_eq_ok.mp h
  cases staged with
  | none => cases pure_eq_ok.mp h
  | some setup =>
    obtain ⟨-, -, h⟩ := bind_eq_ok.mp h
    obtain ⟨-, -, h⟩ := bind_eq_ok.mp h
    obtain ⟨invalid, hinvalid, h⟩ := bind_eq_ok.mp h
    cases pure_eq_ok.mp h
    refine ⟨setup, invalid, stages_of_stageAll hstaged, rfl, ?_⟩
    intro test htest
    unfold invalidTests at hinvalid
    split at hinvalid
    · obtain ⟨illegal, hillegal, hwritten⟩ := exists_of_mem_mapM hinvalid htest
      obtain ⟨⟨argument, index⟩, hmem, hillegal⟩ := List.mem_flatMap.mp hillegal
      refine ⟨illegal, ?_, hwritten⟩
      change illegal ∈ illegalValues blueprint.validators argument index at hillegal
      unfold illegalValues at hillegal
      split at hillegal
      · rename_i hlayout _
        obtain ⟨⟨value, position⟩, -, rfl⟩ := List.mem_map.mp hillegal
        refine List.mem_filter.mpr ⟨?_, by rw [isStaged, hlayout]⟩
        exact List.mem_of_getElem? (List.mem_zipIdx_iff_getElem?.mp hmem)
      · cases hillegal
    · cases pure_eq_ok.mp hinvalid
      cases htest

/-- The names in the tests of a record refer to their own bindings exactly if no bound argument is
called like a later one, like the fixture or like the command. -/
theorem areHygienic_iff {blueprint : Blueprint} {tests : List Function}
    (h : outcome blueprint fixture record command = .ok (.written tests)) :
    AreHygienic fixture record command tests ↔ Binder.Unshadowed (validBinders command) := by
  obtain ⟨setup, invalid, hstages, rfl, hinvalid⟩ := exists_of_outcome h
  constructor
  · rintro ⟨valid, others, htests, hvalid, -⟩
    cases htests
    exact (isHygienic_validTest_iff hstages).mp hvalid
  · intro hunshadowed
    refine ⟨_, _, rfl, (isHygienic_validTest_iff hstages).mpr hunshadowed, ?_⟩
    intro test htest
    obtain ⟨illegal, hargument, hwritten⟩ := hinvalid test htest
    exact ⟨setup, illegal, hwritten, (isHygienic_invalidTest_iff hstages hwritten).mpr
      (unshadowed_invalidBinders hargument hunshadowed)⟩

end HandlerTests

end CommandBuffer
