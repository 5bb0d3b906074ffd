import CommandBuffer.Proofs.Emission
import CommandBuffer.Proofs.HandlerTests.Supply
import CommandBuffer.Proofs.Marshaling.Entries
import CommandBuffer.Proofs.Registration

/-! # Which tests are left out

A test value can be chosen for every argument but those of a named type with a representation of its
own that has no legal value, where the directives give none either. A test is left out exactly if its
command has such an argument, or data that the test cannot stage. All other tests are written, and
counted in the documentation of their file.
-/

namespace CommandBuffer

open Code Success

/-! ## Arguments without a test value -/

/-- No value of the argument at a position is known: its type has a representation of its own, the
directives give no value, and the named type has no legal one. -/
def Argument.isValueless (registry : Registry) (record : Record) (index : Nat)
    (argument : Argument) : Bool :=
  match argument.layout with
  | .word _ .enum => (record.testValues.lookup index).isNone
      && (argument.param.type.named.bind registry.get?).any (·.legal.isEmpty)
  | _ => false

section

variable {registry : Registry} {record : Record} {param : Param} {index : Nat}

/-- A type of a representation of its own is a named one. -/
theorem ScalarKind.named_of_enum {type : CType} (h : ofType? type = some .enum) :
    ∃ id, type.named = some id := by
  have hbase : ∀ base, ofBase? base ≠ some .enum := by
    intro base
    unfold ofBase?
    repeat' split
    all_goals simp
  unfold ofType? at h
  split at h
  · cases h
  · rw [Option.orElse_eq_orElse, Option.orElse_eq_or, Option.or_eq_some_iff] at h
    rcases h with hknown | ⟨-, hnamed⟩
    · exact absurd hknown (hbase type.base)
    · obtain ⟨id, hid, -⟩ := Option.map_eq_some_iff.mp hnamed
      exact ⟨id, hid⟩

theorem syntheticValue?_eq_none_iff {kind : ScalarKind} {base : String} :
    syntheticValue? index kind base = none ↔ kind = .enum := by
  cases kind <;> simp [syntheticValue?]

theorem map_some_ne_ok_none {outcome : Except EmitError Expr} :
    (some <$> outcome : Except EmitError (Option Expr)) ≠ .ok none := by
  cases outcome <;> rintro ⟨⟩

/-- A scalar has no value exactly if nothing gives one and none can be made up. -/
theorem Record.testValue?_eq_none_iff {kind : ScalarKind}
    (hkind : ScalarKind.ofType? param.type = some kind) :
    record.testValue? registry index param = .ok none ↔
      kind = .enum ∧ record.testValues.lookup index = none ∧
        (param.type.named.bind registry.get?).bind (·.legal.head?) = none := by
  simp only [testValue?, hkind]
  split
  · rename_i value hgiven
    exact iff_of_false map_some_ne_ok_none fun h => by simp [hgiven] at h
  · rename_i hnone
    split
    · rename_i value hlegal
      exact iff_of_false map_some_ne_ok_none fun h => by simp [hlegal] at h
    · rename_i hillegal
      rw [Except.ok.injEq, syntheticValue?_eq_none_iff]
      simp [hnone, hillegal]

end

section

variable {registry : Registry} {command : Command} {argument : Argument} {index : Nat}

/-- What takes one word or two is plain. -/
theorem Command.IsLaidOut.isPointer_of_value (hlaid : command.IsLaidOut)
    (hargument : command.arguments[index]? = some argument)
    (h : (∃ field kind, argument.layout = .word field kind) ∨
      ∃ low high, argument.layout = .split low high) :
    argument.param.type.isPointer = false := by
  rcases h with ⟨field, kind, hword⟩ | ⟨low, high, hsplit⟩
  · exact ScalarKind.isPointer_of_ofType? (hlaid.kind_of_word hargument hword).1
  · exact ScalarKind.isPointer_of_ofType? (hlaid.kind_of_split hargument hsplit)

theorem Command.IsLaidOut.isPointer_of_isValueless {record : Record} (hlaid : command.IsLaidOut)
    (hargument : command.arguments[index]? = some argument)
    (h : argument.isValueless registry record index = true) :
    argument.param.type.isPointer = false := by
  unfold Argument.isValueless at h
  split at h
  · rename_i field hword
    exact hlaid.isPointer_of_value hargument (.inl ⟨field, _, hword⟩)
  · cases h

/-- A plain argument of a planned command has no test value exactly if it is valueless. -/
theorem Command.IsLaidOut.testValue?_eq_none_iff (hlaid : command.IsLaidOut)
    (hargument : command.arguments[index]? = some argument)
    (hscalar : argument.param.type.isPointer = false) (hholds : registry.Holds argument.param.type) :
    command.testValue? registry index argument = .ok none ↔
      argument.isValueless registry command.record index = true := by
  by_cases hcounting : command.isCounting index = true
  · -- What counts data is a number.
    obtain ⟨found, field, hfound, -, hword⟩ := HandlerTests.exists_counting hlaid hcounting
    cases hfound.symm.trans hargument
    simp [HandlerTests.testValue?_of_isCounting hcounting, Argument.isValueless, hword]
  · rw [testValue?, if_neg hcounting]
    rcases hlaid.layout_of_scalar hargument hscalar with ⟨field, kind, hword⟩ | ⟨low, high, hsplit⟩
    · obtain ⟨hkind, -⟩ := hlaid.kind_of_word hargument hword
      rw [Record.testValue?_eq_none_iff hkind]
      by_cases henum : kind = .enum
      · subst henum
        obtain ⟨id, hid⟩ := ScalarKind.named_of_enum hkind
        obtain ⟨type, htype⟩ := hholds id hid
        simp [Argument.isValueless, hword, hid, htype]
      · rw [Argument.isValueless, hword]
        cases kind <;> simp at henum ⊢
    · rw [Record.testValue?_eq_none_iff (hlaid.kind_of_split hargument hsplit)]
      simp [Argument.isValueless, hsplit]

end

/-! ## Commands that can be tested -/

/-- The test stages each of these arguments and knows a value for it. -/
def isTestable (stages : Layout → Bool) (registry : Registry) (record : Record)
    (arguments : List (Argument × Nat)) : Bool :=
  arguments.all fun item =>
    stages item.1.layout && !item.1.isValueless registry record item.2

/-- Every argument of the command can be tested. -/
def Command.isTestable (stages : Layout → Bool) (registry : Registry) (command : Command) : Bool :=
  CommandBuffer.isTestable stages registry command.record command.arguments.zipIdx

section

variable {stages : Layout → Bool} {registry : Registry} {command : Command}

theorem isTestable_cons_iff {record : Record} {argument : Argument} {index : Nat}
    {rest : List (Argument × Nat)} :
    isTestable stages registry record ((argument, index) :: rest) = true ↔
      (stages argument.layout = true ∧ argument.isValueless registry record index = false) ∧
        isTestable stages registry record rest = true := by
  simp [isTestable]

theorem Command.isTestable_iff : command.isTestable stages registry = true ↔
    ∀ (index : Nat) (argument : Argument), command.arguments[index]? = some argument →
      stages argument.layout = true ∧
        argument.isValueless registry command.record index = false := by
  simp only [isTestable, CommandBuffer.isTestable, List.all_eq_true, Prod.forall,
    List.mem_zipIdx_iff_getElem?, Bool.and_eq_true, Bool.not_eq_true']
  exact forall_comm

end

section

variable {registry : Registry} {command : Command}
  (hlaid : command.IsLaidOut)
  (hholds : ∀ argument ∈ command.arguments, registry.Holds argument.param.type)

/-! ### Tests of a command struct -/

namespace FormatTests

/-- The parameter takes an argument without a test value. -/
def Lacks (registry : Registry) (command : Command) (param : InitParam) : Prop :=
  ∃ index, param.source = .argument index ∧
    ∀ argument, command.arguments[index]? = some argument →
      command.testValue? registry index argument = .ok none

/-- The values of parameters are known unless one of them lacks a value. -/
theorem values?_eq_none_iff {location : Nat} {params : List InitParam} {values : Option (List Expr)}
    (h : values? command registry location params = .ok values) :
    values = none ↔ ∃ param ∈ params, Lacks registry command param := by
  induction params generalizing location values with
  | nil =>
    cases h
    simp
  | cons param rest ih =>
    -- A value is put in front of those of the other parameters.
    have hkept : ∀ {location : Nat} {value : Expr}, ¬ Lacks registry command param →
        (do return (← values? command registry location rest).map (value :: ·)
          : Except EmitError (Option (List Expr))) = .ok values →
        (values = none ↔ ∃ other ∈ param :: rest, Lacks registry command other) := by
      intro location value hgiven h
      obtain ⟨others, hothers, h⟩ := bind_eq_ok.mp h
      rw [← pure_eq_ok.mp h, Option.map_eq_none_iff, ih hothers, List.exists_mem_cons_iff]
      exact (or_iff_right hgiven).symm
    rw [values?] at h
    cases hsource : param.source with
    | argument index =>
      rw [hsource] at h
      cases hargument : command.arguments[index]? with
      | none =>
        simp only [hargument] at h
        cases h
        refine iff_of_true rfl ⟨param, List.mem_cons_self, index, hsource, fun argument hfound => ?_⟩
        cases hargument.symm.trans hfound
      | some argument =>
        simp only [hargument] at h
        obtain ⟨value, hvalue, h⟩ := bind_eq_ok.mp h
        cases value with
        | none =>
          cases pure_eq_ok.mp h
          refine iff_of_true rfl ⟨param, List.mem_cons_self, index, hsource, fun other hother => ?_⟩
          cases hargument.symm.trans hother
          exact hvalue
        | some value =>
          refine hkept ?_ h
          rintro ⟨found, hfound, hlacks⟩
          cases hsource.symm.trans hfound
          cases hvalue.symm.trans (hlacks argument hargument)
    | _ =>
      rw [hsource] at h
      refine hkept ?_ h
      rintro ⟨index, hindex, -⟩
      cases hsource.symm.trans hindex

include hlaid hholds in
/-- A struct can be tested exactly if every argument has a value. -/
theorem isSome_values?_iff {values : Option (List Expr)}
    (h : values? command registry firstLocation command.initParams = .ok values) :
    (∃ found, values = some found) ↔ command.isTestable (fun _ => true) registry = true := by
  rw [← Option.ne_none_iff_exists', Ne, values?_eq_none_iff h, Command.isTestable_iff]
  constructor
  · intro hnone index argument hargument
    refine ⟨rfl, Bool.eq_false_iff.mpr fun hvalueless => hnone ?_⟩
    have hscalar := hlaid.isPointer_of_isValueless hargument hvalueless
    refine ⟨_, hlaid.param_of_scalar hargument hscalar, index, rfl, fun other hother => ?_⟩
    cases hargument.symm.trans hother
    exact (hlaid.testValue?_eq_none_iff hargument hscalar
      (hholds argument (List.mem_of_getElem? hargument))).mpr hvalueless
  · rintro hall ⟨param, hparam, index, hsource, hlacks⟩
    obtain ⟨argument, hargument, hscalar, -⟩ := hlaid.exists_argument_of_source hparam hsource
    have hvalueless := (hlaid.testValue?_eq_none_iff hargument hscalar
      (hholds argument (List.mem_of_getElem? hargument))).mp (hlacks argument hargument)
    rw [(hall index argument hargument).2] at hvalueless
    cases hvalueless

end FormatTests

/-! ### Tests of a call -/

include hlaid hholds in
/-- The value of a plain argument is known unless the argument is valueless. -/
theorem Command.IsLaidOut.value_known_iff {index : Nat} {argument : Argument} {value : Option Expr}
    (hargument : command.arguments[index]? = some argument)
    (hscalar : argument.param.type.isPointer = false)
    (h : command.testValue? registry index argument = .ok value) :
    (∃ found, value = some found) ↔
      argument.isValueless registry command.record index = false := by
  rw [← Bool.not_eq_true, ← hlaid.testValue?_eq_none_iff hargument hscalar
    (hholds argument (List.mem_of_getElem? hargument)), h, Except.ok.injEq,
    ← Option.ne_none_iff_exists']

namespace ClientTests

/-- The layouts that a call can be compared for. -/
def stages : Layout → Bool
  | .shm .. | .bucket .. => false
  | .word .. | .split .. | .immediate _ | .result .. => true

end ClientTests

namespace HandlerTests

/-- The layouts whose data a test can hand to the service. -/
def stages : Layout → Bool
  | .immediate .unsized | .bucket .. => false
  | .word .. | .split .. | .immediate _ | .shm .. | .result .. => true

end HandlerTests

/-! ### Staging arguments -/

section

variable {index : Nat} {argument : Argument}
  (hargument : command.arguments[index]? = some argument)

include hlaid hholds hargument

theorem ClientTests.stage_eq_ok_iff {blueprint : Blueprint} {record : Record} {before : Setup}
    {staged : Staged} (hregistry : blueprint.protocol.types = registry)
    (h : stage blueprint record command index argument before = .ok staged) :
    (∃ after, staged = .ok after) ↔ stages argument.layout = true ∧
      argument.isValueless registry command.record index = false := by
  subst hregistry
  obtain ⟨-, -, h⟩ := bind_eq_ok.mp h
  obtain ⟨-, -, h⟩ := bind_eq_ok.mp h
  cases hlayout : argument.layout with
  | word | split =>
    simp only [hlayout] at h
    obtain ⟨value, hvalue, h⟩ := bind_eq_ok.mp h
    rw [Emission.rejecting, mapError_eq_ok] at hvalue
    rw [← hlaid.value_known_iff hholds hargument (hlaid.isPointer_of_value hargument
      (by simp [hlayout])) hvalue]
    cases value with
    | none =>
      cases pure_eq_ok.mp h
      simp
    | some value =>
      cases pure_eq_ok.mp h
      simp [stages]
  | immediate size =>
    simp only [hlayout] at h
    split at h
    · cases pure_eq_ok.mp h
      simp [stages, Argument.isValueless, hlayout]
    · cases pure_eq_ok.mp h
      simp [stages, Argument.isValueless, hlayout]
  | result =>
    simp only [hlayout] at h
    cases pure_eq_ok.mp h
    simp [stages, Argument.isValueless, hlayout]
  | shm | bucket =>
    simp only [hlayout] at h
    cases pure_eq_ok.mp h
    simp [stages]

theorem HandlerTests.stage_eq_some_iff {before : Setup} {staged : Option Setup}
    (h : stage registry command index argument before = .ok staged) :
    (∃ after, staged = some after) ↔ stages argument.layout = true ∧
      argument.isValueless registry command.record index = false := by
  obtain ⟨-, -, h⟩ := bind_eq_ok.mp h
  obtain ⟨-, -, h⟩ := bind_eq_ok.mp h
  cases hlayout : argument.layout with
  | word | split =>
    simp only [hlayout] at h
    obtain ⟨value, hvalue, h⟩ := bind_eq_ok.mp h
    rw [Emission.rejecting, mapError_eq_ok] at hvalue
    rw [← hlaid.value_known_iff hholds hargument (hlaid.isPointer_of_value hargument
      (by simp [hlayout])) hvalue]
    cases value with
    | none =>
      cases pure_eq_ok.mp h
      simp
    | some value =>
      cases pure_eq_ok.mp h
      simp [stages]
  | immediate size =>
    cases size with
    | unsized =>
      simp only [hlayout] at h
      cases pure_eq_ok.mp h
      simp [stages]
    | fixed | atMost | counted =>
      simp only [hlayout] at h
      cases pure_eq_ok.mp h
      simp [stages, Argument.isValueless, hlayout]
  | shm | result =>
    simp only [hlayout] at h
    cases pure_eq_ok.mp h
    simp [stages, Argument.isValueless, hlayout]
  | bucket =>
    simp only [hlayout] at h
    cases pure_eq_ok.mp h
    simp [stages]

end

/-- The arguments stand at these positions. -/
def Command.AreOwn (command : Command) (arguments : List (Argument × Nat)) : Prop :=
  ∀ item ∈ arguments, command.arguments[item.2]? = some item.1

theorem Command.areOwn_zipIdx (command : Command) : command.AreOwn command.arguments.zipIdx :=
  fun _ hitem => List.mem_zipIdx_iff_getElem?.mp hitem

include hlaid hholds

/-- The setup of a call succeeds exactly if each argument can be tested. -/
theorem ClientTests.stageAll_eq_ok_iff {blueprint : Blueprint} {record : Record} {before : Setup}
    {staged : Staged} (hregistry : blueprint.protocol.types = registry)
    {arguments : List Argument} {index : Nat} (hown : command.AreOwn (arguments.zipIdx index))
    (h : stageAll blueprint record command index arguments before = .ok staged) :
    (∃ after, staged = .ok after) ↔
      isTestable stages registry command.record (arguments.zipIdx index) = true := by
  induction arguments generalizing index before with
  | nil =>
    cases pure_eq_ok.mp h
    simp [isTestable]
  | cons argument rest ih =>
    rw [List.zipIdx_cons] at hown ⊢
    obtain ⟨hargument, hrest⟩ := List.forall_mem_cons.mp hown
    obtain ⟨first, hfirst, h⟩ := bind_eq_ok.mp h
    have hstage := ClientTests.stage_eq_ok_iff hlaid hholds hargument hregistry hfirst
    rw [isTestable_cons_iff, ← hstage]
    cases first with
    | error reasons =>
      cases pure_eq_ok.mp h
      simp
    | ok setup => simp [ih hrest h]

/-- The setup of a test succeeds exactly if each argument can be tested. -/
theorem HandlerTests.stageAll_eq_some_iff {before : Setup} {staged : Option Setup}
    {arguments : List Argument} {index : Nat} (hown : command.AreOwn (arguments.zipIdx index))
    (h : stageAll registry command index arguments before = .ok staged) :
    (∃ after, staged = some after) ↔
      isTestable stages registry command.record (arguments.zipIdx index) = true := by
  induction arguments generalizing index before with
  | nil =>
    cases pure_eq_ok.mp h
    simp [isTestable]
  | cons argument rest ih =>
    rw [List.zipIdx_cons] at hown ⊢
    obtain ⟨hargument, hrest⟩ := List.forall_mem_cons.mp hown
    obtain ⟨first, hfirst, h⟩ := bind_eq_ok.mp h
    have hstage := HandlerTests.stage_eq_some_iff hlaid hholds hargument hfirst
    rw [isTestable_cons_iff, ← hstage]
    cases first with
    | none =>
      cases pure_eq_ok.mp h
      simp
    | some setup => simp [ih hrest h]

end

/-! ## Written tests -/

namespace TestOutcome

/-- What is selected has a group of tests, and what is not has none. -/
structure Fits (outcome : TestOutcome) (selected : Bool) (isGroup : List Function → Prop) : Prop where
  tests : selected = true → isGroup outcome.tests
  none : selected = false → outcome.tests = []

theorem fits_omitted {reasons : List Omission} {selected : Bool} {isGroup : List Function → Prop}
    (h : selected ≠ true) : (omitted reasons).Fits selected isGroup :=
  ⟨fun hselected => absurd hselected h, fun _ => rfl⟩

theorem fits_written {tests : List Function} {selected : Bool} {isGroup : List Function → Prop}
    (h : selected = true) (hgroup : isGroup tests) : (written tests).Fits selected isGroup :=
  ⟨fun _ => hgroup, fun hselected => absurd (h.symm.trans hselected) Bool.true_eq_false.mp⟩

/-- If the selected items have groups of tests and the others none, then the tests of all items are
these groups in order. -/
theorem exists_groups {α : Type} {run : α → Emission TestOutcome} {selects : α → Bool}
    {isGroup : α → List Function → Prop} {items : List α} {tests : List Function}
    (hrun : ∀ item ∈ items, ∀ outcome, run item = .ok outcome →
      outcome.Fits (selects item) (isGroup item))
    (h : functions (items.map run) = .ok tests) :
    ∃ groups, tests = groups.flatten ∧ List.Forall₂ isGroup (items.filter selects) groups := by
  rw [functions, bind_eq_ok] at h
  obtain ⟨outcomes, houtcomes, h⟩ := h
  rw [Pairing.mapM_eq_ok_iff, List.forall₂_map_left_iff] at houtcomes
  rw [← pure_eq_ok.mp h]
  clear h
  induction houtcomes with
  | nil => exact ⟨[], rfl, .nil⟩
  | @cons item outcome items outcomes houtcome _ ih =>
    obtain ⟨hitem, hitems⟩ := List.forall_mem_cons.mp hrun
    obtain ⟨groups, hgroups, hrelated⟩ := ih hitems
    have hown := hitem outcome houtcome
    cases hselects : selects item with
    | true =>
      refine ⟨outcome.tests :: groups, by simp [hgroups], ?_⟩
      rw [List.filter_cons_of_pos hselects]
      exact .cons (hown.tests hselects) hrelated
    | false =>
      refine ⟨groups, by simp [hgroups, hown.none hselects], ?_⟩
      rw [List.filter_cons_of_neg (by simp [hselects])]
      exact hrelated

/-- Groups of one test each are the tests. -/
theorem forall₂_flatten {α : Type} {isTest : α → Function → Prop} {items : List α}
    {groups : List (List Function)}
    (h : List.Forall₂ (fun item group => ∃ test, group = [test] ∧ isTest item test) items groups) :
    List.Forall₂ isTest items groups.flatten := by
  induction h with
  | nil => exact .nil
  | cons hgroup _ ih =>
    obtain ⟨test, rfl, htest⟩ := hgroup
    exact .cons htest ih

end TestOutcome

namespace Blueprint

variable {blueprint : Blueprint}

/-- The records that are asked for and whose preferred command is selected. -/
def preferring (blueprint : Blueprint) (asks : Record → Bool) (selects : Command → Bool) :
    List Record :=
  blueprint.records.filter fun record =>
    asks record && (blueprint.preferredCommand? record).any selects

/-- What is related to the selected ones of the records with their preferred commands is related to
the records. -/
theorem forall₂_preferring {β : Type} {asks : Record → Bool} {selects : Command → Bool}
    {related : Record × Command → β → Prop} {values : List β}
    (h : List.Forall₂ related (((blueprint.records.filter asks).filterMap fun record =>
      (blueprint.preferredCommand? record).map (record, ·)).filter (selects ·.2)) values) :
    List.Forall₂ (fun record value => ∃ command,
        blueprint.preferredCommand? record = some command ∧ related (record, command) value)
      (blueprint.preferring asks selects) values := by
  unfold preferring
  generalize blueprint.records = records at h ⊢
  induction records generalizing values with
  | nil =>
    cases h
    exact .nil
  | cons record records ih =>
    cases hasks : asks record with
    | false =>
      rw [List.filter_cons_of_neg (by simp [hasks])] at h ⊢
      exact ih h
    | true =>
      rw [List.filter_cons_of_pos hasks] at h
      cases hcommand : blueprint.preferredCommand? record with
      | none =>
        rw [List.filterMap_cons_none (by rw [hcommand]; rfl)] at h
        rw [List.filter_cons_of_neg (by simp [hcommand])]
        exact ih h
      | some command =>
        rw [List.filterMap_cons_some (by rw [hcommand]; rfl)] at h
        cases hselects : selects command with
        | false =>
          rw [List.filter_cons_of_neg (by simp [hselects])] at h
          rw [List.filter_cons_of_neg (by simp [hcommand, hselects])]
          exact ih h
        | true =>
          rw [List.filter_cons_of_pos (by simpa using hselects)] at h
          rw [List.filter_cons_of_pos (by simp [hasks, hcommand, hselects])]
          cases h with
          | cons hfirst hrest => exact .cons ⟨command, hcommand, hfirst⟩ (ih hrest)

end Blueprint

/-- The functions of a file. -/
def Code.SourceFile.functions (file : SourceFile) : List Function :=
  file.items.filterMap fun
    | .function function => some function
    | _ => none

/-- The documentation of the file says how many tests it has. -/
def Blueprint.CountsTests (blueprint : Blueprint) (title : String) (file : SourceFile) : Prop :=
  file.docs = blueprint.protocol.documentation title [s!"{file.functions.length} tests"]

/-- A finished file of tests has these tests and counts them. -/
theorem Blueprint.functions_of_finish {blueprint : Blueprint} {title : String}
    {tests : List Function} {file : SourceFile}
    (h : Emission.finish []
      (blueprint.file title [s!"{tests.length} tests"] (tests.map .function)) = .ok file) :
    file.functions = tests ∧ blueprint.CountsTests title file := by
  obtain ⟨rfl, -, -⟩ := Emission.finish_eq_ok_iff.mp h
  have hfunctions : (blueprint.file title [s!"{tests.length} tests"]
      (tests.map .function)).functions = tests := by
    simp [SourceFile.functions, Blueprint.file, Blueprint.supportImport, List.filterMap_map]
  exact ⟨hfunctions, by rw [CountsTests, hfunctions]; rfl⟩

namespace FormatTests

/-- The test of a command with a value for each parameter of `init`. -/
def IsTest (blueprint : Blueprint) (command : Command) (test : Function) : Prop :=
  ∃ values, values? command blueprint.protocol.types firstLocation command.initParams
    = .ok (some values) ∧ test = FormatTests.test command values

end FormatTests

namespace ClientTests

/-- The test of a record whose arguments were all staged. -/
def IsTest (blueprint : Blueprint) (record : Record) (command : Command) (test : Function) : Prop :=
  ∃ setup, stageAll blueprint record command 0 command.arguments {} = .ok (.ok setup) ∧
    test = ClientTests.test (fixture blueprint) record command setup

end ClientTests

namespace HandlerTests

/-- The tests of illegal values of an argument: one for each that the validator of a word has, and
none for other arguments. -/
structure AreInvalidTests (blueprint : Blueprint) (record : Record) (command : Command)
    (setup : Setup) (argument : Argument) (index : Nat) (tests : List Function) : Prop where
  checked : ∀ field kind validator, argument.layout = .word field kind →
    blueprint.validators.forType? argument.param.type = some validator →
    List.Forall₂ (fun illegal test => invalidTest (fixture blueprint) record command setup
        { argument, kind, value := illegal.1, suffix := s!"{index}_{illegal.2}" } = .ok test)
      validator.illegal.zipIdx tests
  unchecked : (∀ field kind, argument.layout = .word field kind →
    blueprint.validators.forType? argument.param.type = none) → tests = []

/-- A test with valid arguments, and behind it those of the illegal values of each argument if the
record asks for them. -/
def AreTests (blueprint : Blueprint) (record : Record) (command : Command) (tests : List Function) :
    Prop :=
  ∃ setup invalid,
    stageAll blueprint.protocol.types command 0 command.arguments {} = .ok (some setup) ∧
      tests = validTest (fixture blueprint) record command setup :: invalid.flatten ∧
      if record.hasInvalidTest then
        List.Forall₂ (fun item block =>
            AreInvalidTests blueprint record command setup item.1 item.2 block)
          command.arguments.zipIdx invalid
      else invalid = []

/-- The tests of the illegal values of an argument are those of the model, one by one. -/
theorem areInvalidTests_of_forall₂ {blueprint : Blueprint} {record : Record} {command : Command}
    {setup : Setup} {argument : Argument} {index : Nat} {tests : List Function}
    (h : List.Forall₂ (fun illegal test =>
        invalidTest (fixture blueprint) record command setup illegal = .ok test)
      (illegalValues blueprint.validators argument index) tests) :
    AreInvalidTests blueprint record command setup argument index tests where
  checked field kind validator hword hvalidator := by
    rw [illegalValues, hword, hvalidator, List.forall₂_map_left_iff] at h
    exact h
  unchecked hnone := by
    have hempty : illegalValues blueprint.validators argument index = [] := by
      unfold illegalValues
      split
      · rename_i hword hvalidator
        rw [hnone _ _ hword] at hvalidator
        cases hvalidator
      · rfl
    rw [hempty] at h
    exact List.forall₂_nil_left_iff.mp h

theorem exists_invalid_of_invalidTests {blueprint : Blueprint} {record : Record} {command : Command}
    {setup : Setup} {tests : List Function}
    (h : invalidTests blueprint (fixture blueprint) record command setup = .ok tests) :
    ∃ invalid : List (List Function), tests = invalid.flatten ∧
      if record.hasInvalidTest then
        List.Forall₂ (fun item block =>
            AreInvalidTests blueprint record command setup item.1 item.2 block)
          command.arguments.zipIdx invalid
      else invalid = [] := by
  unfold invalidTests at h
  split at h
  · rename_i hasks
    obtain ⟨invalid, hinvalid, hblocks⟩ :=
      Pairing.exists_blocks_of_forall₂ (Pairing.mapM_eq_ok_iff.mp h)
    refine ⟨invalid, hinvalid, ?_⟩
    rw [if_pos hasks]
    exact hblocks.imp fun _ _ => areInvalidTests_of_forall₂
  · rename_i hasks
    refine ⟨[], (pure_eq_ok.mp h).symm, ?_⟩
    rw [if_neg hasks]

end HandlerTests

section

variable {blueprint : Blueprint} {record : Record} {command : Command} {outcome : TestOutcome}
  (hlaid : command.IsLaidOut)
  (hholds : ∀ argument ∈ command.arguments, blueprint.protocol.types.Holds argument.param.type)

include hlaid hholds

/-- A command struct has one test if each argument has a value, and none otherwise. -/
theorem FormatTests.tests_of_outcome
    (h : FormatTests.outcome blueprint.protocol.types command = .ok outcome) :
    outcome.Fits (command.isTestable (fun _ => true) blueprint.protocol.types) fun tests =>
      ∃ test, tests = [test] ∧ IsTest blueprint command test := by
  obtain ⟨-, -, h⟩ := bind_eq_ok.mp h
  obtain ⟨values, hvalues, h⟩ := bind_eq_ok.mp h
  rw [Emission.rejecting, mapError_eq_ok] at hvalues
  have hknown := isSome_values?_iff hlaid hholds hvalues
  cases values with
  | none =>
    cases pure_eq_ok.mp h
    exact TestOutcome.fits_omitted fun htestable => by simpa using hknown.mpr htestable
  | some values =>
    obtain ⟨-, -, h⟩ := bind_eq_ok.mp h
    cases pure_eq_ok.mp h
    exact TestOutcome.fits_written (hknown.mp ⟨values, rfl⟩) ⟨_, rfl, values, hvalues, rfl⟩

/-- A record has one test of its call if each argument can be tested, and none otherwise. -/
theorem ClientTests.tests_of_outcome
    (h : ClientTests.outcome blueprint (fixture blueprint) record command = .ok outcome) :
    outcome.Fits (command.isTestable stages blueprint.protocol.types) fun tests =>
      ∃ test, tests = [test] ∧ IsTest blueprint record command test := by
  obtain ⟨staged, hstaged, h⟩ := bind_eq_ok.mp h
  have hknown := stageAll_eq_ok_iff hlaid hholds rfl command.areOwn_zipIdx hstaged
  cases staged with
  | error reasons =>
    cases pure_eq_ok.mp h
    exact TestOutcome.fits_omitted fun htestable => by simpa using hknown.mpr htestable
  | ok setup =>
    obtain ⟨-, -, h⟩ := bind_eq_ok.mp h
    obtain ⟨-, -, h⟩ := bind_eq_ok.mp h
    cases pure_eq_ok.mp h
    exact TestOutcome.fits_written (hknown.mp ⟨setup, rfl⟩) ⟨_, rfl, setup, hstaged, rfl⟩

/-- A record has tests of its handler if each argument can be tested, and none otherwise. -/
theorem HandlerTests.tests_of_outcome
    (h : HandlerTests.outcome blueprint (fixture blueprint) record command = .ok outcome) :
    outcome.Fits (command.isTestable stages blueprint.protocol.types)
      (AreTests blueprint record command) := by
  obtain ⟨staged, hstaged, h⟩ := bind_eq_ok.mp h
  have hknown := stageAll_eq_some_iff hlaid hholds command.areOwn_zipIdx hstaged
  cases staged with
  | none =>
    cases pure_eq_ok.mp h
    exact TestOutcome.fits_omitted fun htestable => by simpa using hknown.mpr htestable
  | some setup =>
    obtain ⟨-, -, h⟩ := bind_eq_ok.mp h
    obtain ⟨-, -, h⟩ := bind_eq_ok.mp h
    obtain ⟨tests, htests, h⟩ := bind_eq_ok.mp h
    cases pure_eq_ok.mp h
    obtain ⟨invalid, rfl, hinvalid⟩ := exists_invalid_of_invalidTests htests
    exact TestOutcome.fits_written (hknown.mp ⟨setup, rfl⟩)
      ⟨setup, invalid, hstaged, rfl, hinvalid⟩

end

/-! ## Files of tests -/

/-- Every type of a wire argument leads to the named type that it refers to. -/
theorem Protocol.holds_of_commands {protocol : Protocol} {records : List Record}
    {commands : List Command} (hrecords : protocol.records = .ok records)
    (hcommands : protocol.commands records = .ok commands) :
    ∀ command ∈ commands, ∀ argument ∈ command.arguments,
      protocol.types.Holds argument.param.type := by
  intro command hcommand argument hargument
  have hplanned := isPlanned_of_commands hcommands command hcommand
  obtain ⟨text, htext⟩ := exists_readParams_of_records hrecords _ hplanned.mem
  refine protocol.types.staysValid.params text _ htext _ ?_
  rw [← (isLaidOut_of_commands hcommands command hcommand).params]
  exact List.mem_map_of_mem hargument

namespace Blueprint

/-- The file has one test for each command whose arguments all have a value. -/
structure FormatTestsExact (blueprint : Blueprint) (file : SourceFile) : Prop where
  tests : List.Forall₂ (FormatTests.IsTest blueprint)
    (blueprint.commands.filter (·.isTestable (fun _ => true) blueprint.protocol.types))
    file.functions
  counted : blueprint.CountsTests "Wire-format tests" file

/-- The file has one test for each marshaled record that asks for one, if the arguments of its
preferred command have values and none is data in shared memory or in a bucket. -/
structure ClientTestsExact (blueprint : Blueprint) (file : SourceFile) : Prop where
  tests : List.Forall₂ (fun record test => ∃ command,
      blueprint.preferredCommand? record = some command ∧
        ClientTests.IsTest blueprint record command test)
    (blueprint.preferring (fun record => record.isMarshaled && record.hasClientTest)
      (·.isTestable ClientTests.stages blueprint.protocol.types))
    file.functions
  counted : blueprint.CountsTests "Client marshaling tests" file

/-- The file has a group of tests for each record with commands that asks for tests, if the arguments
of its preferred command have values and none is data in a bucket or immediate data of unknown
size. -/
structure HandlerTestsExact (blueprint : Blueprint) (file : SourceFile) : Prop where
  tests : ∃ groups, file.functions = groups.flatten ∧
    List.Forall₂ (fun record group => ∃ command,
        blueprint.preferredCommand? record = some command ∧
          HandlerTests.AreTests blueprint record command group)
      (blueprint.preferring (fun record => record.hasCommands && record.hasUnitTest)
        (·.isTestable HandlerTests.stages blueprint.protocol.types))
      groups
  counted : blueprint.CountsTests "Service decoder tests" file

section

variable {blueprint : Blueprint} {file : SourceFile}
  (hrecords : blueprint.protocol.records = .ok blueprint.records)
  (hcommands : blueprint.protocol.commands blueprint.records = .ok blueprint.commands)

include hrecords hcommands

theorem formatTestsExact (h : blueprint.formatTests = .ok file) :
    blueprint.FormatTestsExact file := by
  obtain ⟨tests, htests, hfinish⟩ := bind_eq_ok.mp h
  obtain ⟨rfl, hcounted⟩ := functions_of_finish hfinish
  obtain ⟨groups, hgroups, hrelated⟩ := TestOutcome.exists_groups (fun command hcommand _ houtcome =>
    FormatTests.tests_of_outcome (Protocol.isLaidOut_of_commands hcommands command hcommand)
      (Protocol.holds_of_commands hrecords hcommands command hcommand) houtcome) htests
  exact ⟨hgroups ▸ TestOutcome.forall₂_flatten hrelated, hcounted⟩

/-- The records that are asked for, with their preferred commands, have groups of tests where the
command is selected. -/
theorem exists_groups_preferring {asks : Record → Bool} {selects : Command → Bool}
    {run : Record × Command → Emission TestOutcome}
    {isGroup : Record → Command → List Function → Prop} {tests : List Function}
    (hasks : ∀ record, asks record = true → record.hasCommands = true)
    (hrun : ∀ record, ∀ command ∈ blueprint.commands, ∀ outcome,
      run (record, command) = .ok outcome →
        outcome.Fits (selects command) (isGroup record command))
    (h : TestOutcome.functions (((blueprint.records.filter asks).filterMap fun record =>
      (blueprint.preferredCommand? record).map (record, ·)).map run) = .ok tests) :
    ∃ groups, tests = groups.flatten ∧
      List.Forall₂ (fun record group => ∃ command,
          blueprint.preferredCommand? record = some command ∧ isGroup record command group)
        (blueprint.preferring asks selects) groups := by
  have hfits : ∀ entry ∈ (blueprint.records.filter asks).filterMap (fun record =>
      (blueprint.preferredCommand? record).map (record, ·)), ∀ outcome, run entry = .ok outcome →
        outcome.Fits (selects entry.2) (isGroup entry.1 entry.2) := by
    intro entry hentry outcome houtcome
    obtain ⟨record, hrecord, hpair⟩ := List.mem_filterMap.mp hentry
    obtain ⟨hmem, hasked⟩ := List.mem_filter.mp hrecord
    obtain ⟨command, hcommand, hpreferred, -⟩ :=
      blueprint.exists_preferredCommand hrecords hcommands hmem (hasks record hasked)
    rw [hpreferred, Option.map_some, Option.some.injEq] at hpair
    subst hpair
    exact hrun record command hcommand outcome houtcome
  obtain ⟨groups, hgroups, hrelated⟩ := TestOutcome.exists_groups hfits h
  exact ⟨groups, hgroups, forall₂_preferring hrelated⟩

theorem clientTestsExact (h : blueprint.clientTests = .ok file) :
    blueprint.ClientTestsExact file := by
  obtain ⟨-, -, h⟩ := bind_eq_ok.mp h
  obtain ⟨tests, htests, hfinish⟩ := bind_eq_ok.mp h
  obtain ⟨rfl, hcounted⟩ := functions_of_finish hfinish
  obtain ⟨groups, hgroups, hrelated⟩ := exists_groups_preferring hrecords hcommands
    (fun record hasks => Marshaling.hasCommands_of_isMarshaled (Bool.and_eq_true_iff.mp hasks).1)
    (fun record command hcommand outcome houtcome =>
      ClientTests.tests_of_outcome (Protocol.isLaidOut_of_commands hcommands command hcommand)
        (Protocol.holds_of_commands hrecords hcommands command hcommand) houtcome) htests
  refine ⟨?_, hcounted⟩
  rw [hgroups]
  refine TestOutcome.forall₂_flatten (hrelated.imp ?_)
  rintro record group ⟨command, hpreferred, test, rfl, htest⟩
  exact ⟨test, rfl, command, hpreferred, htest⟩

theorem handlerTestsExact (h : blueprint.handlerTests = .ok file) :
    blueprint.HandlerTestsExact file := by
  obtain ⟨-, -, h⟩ := bind_eq_ok.mp h
  obtain ⟨tests, htests, hfinish⟩ := bind_eq_ok.mp h
  obtain ⟨rfl, hcounted⟩ := functions_of_finish hfinish
  exact ⟨exists_groups_preferring hrecords hcommands
    (fun record hasks => (Bool.and_eq_true_iff.mp hasks).1)
    (fun record command hcommand outcome houtcome =>
      HandlerTests.tests_of_outcome (Protocol.isLaidOut_of_commands hcommands command hcommand)
        (Protocol.holds_of_commands hrecords hcommands command hcommand) houtcome) htests, hcounted⟩

end

/-- Exactly the tests that cannot be written are left out, and each file says how many tests it has.
Every record with commands has a preferred command, so that each record that asks for tests is
decided by the arguments of a command. -/
theorem omits_exactly_untestable {blueprint : Blueprint}
    (hrecords : blueprint.protocol.records = .ok blueprint.records)
    (hcommands : blueprint.protocol.commands blueprint.records = .ok blueprint.commands) :
    (∀ file, blueprint.formatTests = .ok file → blueprint.FormatTestsExact file) ∧
    (∀ file, blueprint.clientTests = .ok file → blueprint.ClientTestsExact file) ∧
    (∀ file, blueprint.handlerTests = .ok file → blueprint.HandlerTestsExact file) ∧
    ∀ record ∈ blueprint.records, record.hasCommands = true →
      ∃ command ∈ blueprint.commands,
        blueprint.preferredCommand? record = some command ∧ command.record = record :=
  ⟨fun _ => formatTestsExact hrecords hcommands, fun _ => clientTestsExact hrecords hcommands,
    fun _ => handlerTestsExact hrecords hcommands, fun _ hrecord hhas => by
      obtain ⟨command, hcommand, hpreferred, hown, -⟩ :=
        blueprint.exists_preferredCommand hrecords hcommands hrecord hhas
      exact ⟨command, hcommand, hpreferred, hown⟩⟩

end Blueprint

/-! ### A type without legal values -/

def shapeType : NamedType :=
  { name := "Shape", underlying := "Shape", legal := [], illegal := [], hasValidator := false }

def toneType : NamedType :=
  { name := "Tone", underlying := "GLenum", legal := ["GL_ONE"], illegal := ["GL_TWO", "GL_NONE"] }

/-- The first function takes a type that no value is known of. -/
def shapesProtocol : Protocol where
  name := "Shapes"
  filePrefix := "shapes"
  description := "A type without legal values"
  commandBase := 256
  supportPath := "crate::support"
  types := { types := [shapeType, toneType] }
  overrides := ⟨[]⟩
  functions := "void Draw(Shape shape);
void SetTone(GLenum<Tone> tone);"

def shapesRecord (name : String) (param : Param) (line : Nat) : Record :=
  .merge { name, returnType := .void, params := [param], line } { name } [param] .direct [.shm]

def shapesCommand (name : String) (param : Param) (line : Nat) (kind : ScalarKind) : Command where
  record := shapesRecord name param line
  transfer := .shm
  name
  id := 255 + line
  fields := [⟨param.name, .u32⟩]
  arguments := [⟨param, .word 0 kind⟩]
  count := none
  result := none
  clientId := none

def shapeParam : Param := ⟨{ base := "Shape", named := some ⟨0⟩ }, "shape"⟩

def toneParam : Param := ⟨{ base := "GLenum", named := some ⟨1⟩ }, "tone"⟩

def shapesBlueprint : Blueprint where
  protocol := shapesProtocol
  records := [shapesRecord "Draw" shapeParam 1, shapesRecord "SetTone" toneParam 2]
  validators := ⟨[.ofType ⟨1⟩ toneType]⟩
  commands := [shapesCommand "Draw" shapeParam 1 .enum, shapesCommand "SetTone" toneParam 2 .u32]
  support := { segments := [{ name := "crate" }, { name := "support" }] }

theorem records_shapes :
    shapesBlueprint.protocol.records = .ok shapesBlueprint.records := by decide +kernel

theorem commands_shapes : shapesBlueprint.protocol.commands shapesBlueprint.records
    = .ok shapesBlueprint.commands := rfl

theorem length_formatTests_shapes :
    shapesBlueprint.formatTests.map (·.functions.length) = .ok 1 := by cbv

theorem length_clientTests_shapes :
    shapesBlueprint.clientTests.map (·.functions.length) = .ok 1 := by cbv

theorem length_handlerTests_shapes :
    shapesBlueprint.handlerTests.map (·.functions.length) = .ok 3 := by cbv

/-- The first function has no tests; the second has one of each kind, and two of illegal values. -/
theorem omits_exactly_shapes :
    (∃ file, shapesBlueprint.formatTests = .ok file ∧ shapesBlueprint.FormatTestsExact file ∧
      file.functions.length = 1) ∧
    (∃ file, shapesBlueprint.clientTests = .ok file ∧ shapesBlueprint.ClientTestsExact file ∧
      file.functions.length = 1) ∧
    (∃ file, shapesBlueprint.handlerTests = .ok file ∧ shapesBlueprint.HandlerTestsExact file ∧
      file.functions.length = 3) ∧
    shapesBlueprint.commands.map (·.isTestable (fun _ => true) shapesBlueprint.protocol.types)
      = [false, true] := by
  obtain ⟨hformat, hclient, hhandler, -⟩ :=
    Blueprint.omits_exactly_untestable records_shapes commands_shapes
  obtain ⟨formatFile, hformatFile, hbuilt⟩ := map_eq_ok.mp length_formatTests_shapes
  obtain ⟨clientFile, hclientFile, hcalled⟩ := map_eq_ok.mp length_clientTests_shapes
  obtain ⟨handlerFile, hhandlerFile, hserved⟩ := map_eq_ok.mp length_handlerTests_shapes
  exact ⟨⟨formatFile, hformatFile, hformat _ hformatFile, hbuilt⟩,
    ⟨clientFile, hclientFile, hclient _ hclientFile, hcalled⟩,
    ⟨handlerFile, hhandlerFile, hhandler _ hhandlerFile, hserved⟩, by decide⟩

end CommandBuffer
