import CommandBuffer.Proofs.ElementCount
import CommandBuffer.Proofs.HandlerTests.Supply
import CommandBuffer.Proofs.Marshaling.Entries

/-! # When a test with valid arguments passes

The values of a test come from the definitions and from a test count that is always the same; the
checks of the handler come from the validators and from the sizes of the data. Both agree unless the
test count is more than the data may have, or no legal value of an argument that counts data.
-/

namespace CommandBuffer

open Code Success

variable {support : Support}

/-! ## What the handler asks for -/

/-- The value is a legal one, written like a value of the argument. -/
def Validator.Lists (validator : Validator) (meaning : Meaning support) (function : String)
    (argument : Argument) (value : Value support) : Prop :=
  ∃ text ∈ validator.legal, ∃ kind source, ScalarKind.ofType? argument.param.type = some kind ∧
    typedLiteral function text kind argument.base = .ok source ∧ meaning.value? source = some value

namespace HandlerTests

/-- Each plain argument with a validator is bound to a legal value. -/
def BindsListed (validators : ValidatorSet) (meaning : Meaning support) (command : Command)
    (setup : Setup) : Prop :=
  ∀ index argument validator, command.arguments[index]? = some argument →
    argument.param.type.isPointer = false →
    validators.forType? argument.param.type = some validator →
    ∃ source value, setup.Binds command index source ∧ meaning.value? source = some value ∧
      validator.Lists meaning command.record.name argument value

/-- The validators of the arguments accept the values that they list. -/
def AcceptsListed (validators : ValidatorSet) (meaning : Meaning support) (command : Command)
    (accepts : String → Value support → Bool) : Prop :=
  ∀ argument ∈ command.arguments, ∀ validator value,
    validators.forType? argument.param.type = some validator →
    validator.Lists meaning command.record.name argument value →
    accepts validator.fieldName.spelling value = true

/-- The checks of the handler let the argument through, and the data behind the command has as many
elements as the handler reads. -/
structure Admits (validators : ValidatorSet) (command : Command) (setup : Setup)
    (host : Host support) (handler : Scope support) (index : Nat) (argument : Argument) : Prop where
  scalar : argument.param.type.isPointer = false → ∃ next,
    Stmt.runAll? host handler (Handler.prepare validators command argument) = some (.onward next)
  data : ∀ size, argument.layout.dataSize? = some size → size ≠ .unsized → ∃ next, ∃ k : Nat,
    Stmt.runAll? host handler (Handler.counting command size) = some (.onward next) ∧
    (Handler.elementCount command size).value? host next = some (.int support.usize k) ∧
    (argument.layout = .immediate size →
      setup.binding? command index = some (ClientTests.bindData argument k))

/-- The call of `init` fills the struct, and the handler admits every argument of what is stored. -/
def IsServed (validators : ValidatorSet) (command : Command) (setup : Setup) (host : Host support)
    (call : Scope support) : Prop :=
  ∃ stored, Stmt.runAll? host call (CommandFormat.assignments command)
      = some (.onward (call.set "self" (.record stored))) ∧
    ∀ handler : Scope support, handler "self" = some .decoder →
      handler "c" = some (.record stored) →
      ∀ index argument, command.arguments[index]? = some argument →
        Admits validators command setup host handler index argument

/-- The test satisfies the handler that it has run. -/
structure Passes (blueprint : Blueprint) (meaning : Meaning support) (command : Command)
    (setup : Setup) (test : Function) : Prop where
  /-- The test uses what it has bound, and each parameter of `init` is a variable of its own. -/
  own : IsHygienic command (validBinders command) test
  callable : (command.initParams.map InitParam.name).Nodup
  /-- The fixture has the feature that the handler asks for. -/
  featured : ∀ flag, command.record.featureFlag = some flag → ∃ rest,
    test.body = .bind (.bind true "t") none (.apply [fixture blueprint, "with_features"]
      [.prefixed .borrow (.array [.quoted flag] false)]) :: rest
  listed : BindsListed blueprint.validators meaning command setup
  /-- Whatever struct `init` is called on, the command is served if the validators accept what they
  list. -/
  admitted : ∀ accepts, AcceptsListed blueprint.validators meaning command accepts →
    ∀ fields values, command.IsStruct fields →
      List.Forall₂ (Hands meaning command setup) command.initParams values →
      IsServed blueprint.validators command setup (Host.service command accepts)
        (command.initScope fields values)

/-- The test count is a legal number of elements, and a legal value wherever it is bound. -/
structure CountFits (validators : ValidatorSet) (meaning : Meaning support) (command : Command) :
    Prop where
  bounded : ∀ argument ∈ command.arguments, ∀ max,
    argument.layout.dataSize? = some (.atMost max) → testCount ≤ max
  legal : ∀ index argument validator, command.arguments[index]? = some argument →
    command.isCounting index = true →
    validators.forType? argument.param.type = some validator →
    validator.Lists meaning command.record.name argument (.int .i32 testCount)

section

variable {registry : Registry} {command : Command} {setup : Setup} {index : Nat}
  {argument : Argument} {meaning : Meaning support} {stored fields : Scope support}
  {values : List (Value support)} {validators : ValidatorSet}

/-! ## The checks -/

/-- What was restored from the struct passes the validator that lists it. -/
theorem exists_next_of_scalar {accepts : String → Value support → Bool} {value : Value support}
    {handler : Scope support} (hlaid : command.IsLaidOut)
    (hrestores : command.Restores stored argument value)
    (hargument : command.arguments[index]? = some argument)
    (hscalar : argument.param.type.isPointer = false)
    (haccepts : ∀ validator, validators.forType? argument.param.type = some validator →
      accepts validator.fieldName.spelling value = true)
    (hself : handler "self" = some .decoder) (hc : handler "c" = some (.record stored)) :
    ∃ next, Stmt.runAll? (Host.service command accepts) handler
      (Handler.prepare validators command argument) = some (.onward next) := by
  obtain ⟨decode, rest, hprepare, hdecode⟩ := hrestores accepts validators handler hc
  have hnext : (handler.set argument.ident.spelling value) "self" = some .decoder :=
    (Scope.set_of_ne (Name.escaped_spelling_ne_self argument.name).symm).trans hself
  refine ⟨handler.set argument.ident.spelling value, ?_⟩
  rw [hprepare, Stmt.runAll?, hdecode, Option.bind_some]
  rcases hlaid.layout_of_scalar hargument hscalar with ⟨field, kind, hlayout⟩ | ⟨low, high, hlayout⟩
  · rw [Handler.prepare_of_word hlayout] at hprepare
    rw [← (List.cons.inj hprepare).2]
    cases hvalidator : validators.forType? argument.param.type with
    | none => rfl
    | some validator =>
      change Stmt.runAll? _ _ [Handler.validate command argument kind validator] = _
      rw [Stmt.runAll?_singleton, Handler.run?_of_isCheck Handler.isCheck_validate _ hnext
        (Scope.set_self _ _ _)]
      exact congrArg some (if_pos (haccepts validator hvalidator))
  · rw [Handler.prepare_of_split hlayout] at hprepare
    rw [← (List.cons.inj hprepare).2]
    rfl

/-! ## The test as a whole -/

variable {blueprint : Blueprint}

/-- An argument that counts nothing is bound to its first legal value. -/
theorem bindsListed_of_countFits (hlaid : command.IsLaidOut)
    (hstaged : stageAll registry command 0 command.arguments {} = .ok (some setup))
    (huntouched : command.record.testValues = [])
    (hlegal : ∀ id validator, validators.get? id = some validator → ∃ type first rest,
      registry.get? id = some type ∧ type.legal = first :: rest ∧ validator.legal = type.legal)
    (htyped : setup.IsTyped meaning command) (hfits : CountFits validators meaning command) :
    BindsListed validators meaning command setup := by
  intro index argument validator hargument hscalar hvalidator
  obtain ⟨source, htest, hbinds⟩ := exists_binds hstaged hlaid hargument hscalar
  cases hcounting : command.isCounting index with
  | true =>
    exact ⟨source, _, hbinds, value?_of_isCounting hlaid hstaged hargument hcounting hbinds,
      hfits.legal index argument validator hargument hcounting hvalidator⟩
  | false =>
    obtain ⟨value, hvalue, -⟩ := htyped index argument source hargument hscalar hbinds
    obtain ⟨id, hnamed, hget⟩ := Option.bind_eq_some_iff.mp hvalidator
    obtain ⟨type, first, rest, htype, hfirst, hsame⟩ := hlegal id validator hget
    obtain ⟨kind, hkind, hliteral⟩ :=
      typedLiteral_of_testValue? htest hcounting huntouched hnamed htype hfirst
    refine ⟨source, value, hbinds, hvalue, first, ?_, kind, source, hkind, hliteral, hvalue⟩
    rw [hsame, hfirst]
    exact List.mem_cons_self

/-- The data of the command has a size of its own, and its test data one of 32 bits. -/
def IsMeasured (command : Command) : Prop :=
  ∀ index argument size, command.arguments[index]? = some argument →
    argument.layout.dataSize? = some size → size ≠ .unsized →
    command.IsSized index size ∧ size.testLength < 2 ^ 32

section

variable (hlaid : command.IsLaidOut) (hnamed : command.IsNamed)
  (hstaged : stageAll registry command 0 command.arguments {} = .ok (some setup))
  (hmeasured : IsMeasured command) (htyped : setup.IsTyped meaning command)

include hlaid hnamed hstaged hmeasured htyped

/-- A handler that admits the test count admits no less than that. -/
theorem Passes.bounded {test : Function} (h : Passes blueprint meaning command setup test) :
    ∀ argument ∈ command.arguments, ∀ max,
      argument.layout.dataSize? = some (.atMost max) → testCount ≤ max := by
  intro argument hmem max hsize
  obtain ⟨index, hargument⟩ := List.getElem?_of_mem hmem
  obtain ⟨fields, hstruct⟩ : ∃ fields : Scope support, command.IsStruct fields :=
    exists_struct hlaid hnamed
  obtain ⟨values, hvalues⟩ := exists_hands hlaid hstaged htyped
  obtain ⟨hcalled, hsupplied⟩ := supplied_initScope hlaid hnamed h.callable htyped hstruct hvalues
  let accepts : String → Value support → Bool := fun _ _ => true
  obtain ⟨stored, hrun, hadmitted⟩ := h.admitted accepts (fun _ _ _ _ _ _ => rfl) fields values
    hstruct hvalues
  obtain ⟨held, hheld, -, hholds⟩ :=
    hcalled.runAll?_assignments (Host.service command accepts) hlaid hnamed
  -- Both runs are the same one.
  have hself := congrFun (Flow.onward.inj (Option.some.inj (hheld.symm.trans hrun))) "self"
  rw [Scope.set_self, Scope.set_self] at hself
  obtain rfl : held = stored := Value.record.inj (Option.some.inj hself)
  let handler : Scope support := Scope.setAll (fun _ => none)
    [("self", .decoder), ("c", .record held)]
  obtain ⟨next, k, hchecked, -⟩ :=
    (hadmitted handler rfl rfl index argument hargument).data _ hsize (by simp)
  cases (hmeasured index argument _ hargument hsize (by simp)).1 with
  | @atMost max field hconstant hcount hmax =>
    have hstored : handler "c" = some (.record held) := rfl
    have hcheck := Handler.runAll?_countCheck_atMost accepts hconstant hmax hstored
      ((hlaid.stored_count hcount hholds).trans (hsupplied.count hcount))
    by_contra hexceeds
    rw [if_neg hexceeds] at hcheck
    cases hcheck.symm.trans hchecked

/-- The handler serves the test if legal values are bound and the test count is not too large. -/
theorem isServed_of_bindsListed (hdistinct : (command.initParams.map InitParam.name).Nodup)
    (hbounded : ∀ argument ∈ command.arguments, ∀ max,
      argument.layout.dataSize? = some (.atMost max) → testCount ≤ max)
    (hlisted : BindsListed validators meaning command setup)
    {accepts : String → Value support → Bool}
    (haccepts : AcceptsListed validators meaning command accepts) (hstruct : command.IsStruct fields)
    (hvalues : List.Forall₂ (Hands meaning command setup) command.initParams values) :
    IsServed validators command setup (Host.service command accepts)
      (command.initScope fields values) := by
  obtain ⟨hcalled, hsupplied⟩ := supplied_initScope hlaid hnamed hdistinct htyped hstruct hvalues
  obtain ⟨stored, hrun, -, hholds⟩ :=
    hcalled.runAll?_assignments (Host.service command accepts) hlaid hnamed
  refine ⟨stored, hrun, fun handler hself hc index argument hargument => ?_⟩
  have hmem := List.mem_of_getElem? hargument
  refine ⟨?_, ?_⟩
  · intro hscalar
    obtain ⟨source, value, hbinds, hsource, hvalue⟩ :=
      hsupplied.exists_bound hlaid hargument hscalar
    obtain ⟨restored, hsame, hrestores⟩ :=
      Command.restores_of_scalar hlaid hnamed hdistinct hcalled hholds hargument hscalar
    cases hsame.symm.trans hvalue
    refine exists_next_of_scalar hlaid hrestores hargument hscalar (fun validator hvalidator => ?_)
      hself hc
    obtain ⟨other, legal, hother, hlegal, hlists⟩ :=
      hlisted index argument validator hargument hscalar hvalidator
    rw [hbinds.eq hother] at hsource
    cases hsource.symm.trans hlegal
    exact haccepts argument hmem validator value hvalidator hlists
  · intro size hsize hknown
    obtain ⟨hsized, hlength⟩ := hmeasured index argument size hargument hsize hknown
    have hpasses := hsupplied.passes hlaid hstaged hargument hsize hsized
      (fun max hmax => hbounded argument hmem max (hmax ▸ hsize)) hlength
    obtain ⟨next, hnext, hcount⟩ :=
      hsized.runAll?_counting hlaid accepts hcalled hpasses hholds hc
    exact ⟨next, size.testLength, hnext, hcount, fun hlayout =>
      binding?_of_immediate hstaged hargument hlayout⟩

/-- The test satisfies the handler exactly if its names are its own, the parameters of `init` are
different, and the test count fits. -/
theorem passes_iff (huntouched : command.record.testValues = [])
    (hlegal : ∀ id validator, blueprint.validators.get? id = some validator →
      ∃ type first rest, registry.get? id = some type ∧ type.legal = first :: rest ∧
        validator.legal = type.legal) :
    Passes blueprint meaning command setup
        (validTest (fixture blueprint) command.record command setup) ↔
      Binder.Unshadowed (validBinders command) ∧
        (command.initParams.map InitParam.name).Nodup ∧
        CountFits blueprint.validators meaning command := by
  have hown : IsHygienic command (validBinders command)
      (validTest (fixture blueprint) command.record command setup) ↔ _ :=
    isHygienic_validTest_iff (stages_of_stageAll hstaged)
  constructor
  · intro h
    refine ⟨hown.mp h.own, h.callable, h.bounded hlaid hnamed hstaged hmeasured htyped, ?_⟩
    intro index argument validator hargument hcounting hvalidator
    obtain ⟨found, field, hfound, -, hword⟩ := exists_counting hlaid hcounting
    cases hfound.symm.trans hargument
    have hscalar := ScalarKind.isPointer_of_ofType? (hlaid.kind_of_word hargument hword).1
    obtain ⟨source, value, hbinds, hvalue, hlisted⟩ :=
      h.listed index argument validator hargument hscalar hvalidator
    cases hvalue.symm.trans (value?_of_isCounting hlaid hstaged hargument hcounting hbinds)
    exact hlisted
  · rintro ⟨hunshadowed, hdistinct, hfits⟩
    have hlisted := bindsListed_of_countFits hlaid hstaged huntouched hlegal htyped hfits
    refine ⟨hown.mpr hunshadowed, hdistinct, ?_, hlisted, ?_⟩
    · intro flag hflag
      have hfixture : bindFixture (fixture blueprint) command.record = .bind (.bind true "t") none
          (.apply [fixture blueprint, "with_features"]
            [.prefixed .borrow (.array [.quoted flag] false)]) := by
        rw [bindFixture, fixtureFor, hflag]
      exact ⟨_, congrArg (· :: _) hfixture⟩
    · intro accepts haccepts fields values hstruct hvalues
      exact isServed_of_bindsListed hlaid hnamed hstaged hmeasured htyped hdistinct hfits.bounded
        hlisted haccepts hstruct hvalues

end

end

theorem exists_setup_of_outcome {blueprint : Blueprint} {name : Name} {record : Record}
    {command : Command} {tests : List Function}
    (h : outcome blueprint name record command = .ok (.written tests)) :
    ∃ setup, stageAll blueprint.protocol.types command 0 command.arguments {} = .ok (some setup) ∧
      ∃ invalid, tests = validTest name record command setup :: invalid := by
  obtain ⟨staged, hstaged, h⟩ := bind_eq_ok.mp h
  cases staged with
  | none => cases pure_eq_ok.mp h
  | some setup =>
    obtain ⟨-, -, h⟩ := bind_eq_ok.mp h
    obtain ⟨-, -, h⟩ := bind_eq_ok.mp h
    obtain ⟨invalid, -, h⟩ := bind_eq_ok.mp h
    cases pure_eq_ok.mp h
    exact ⟨setup, hstaged, invalid, rfl⟩

end HandlerTests

/-! ## Protocols -/

/-- Every validator lists the legal values of its type, and there is one. -/
theorem ValidatorSet.exists_legal {types : List NamedType} {registry : Registry}
    (hregistry : Registry.ofList types = .ok registry) {records : List Record} {id : TypeId}
    {validator : Validator} (hget : (synthesize registry records).get? id = some validator) :
    ∃ type first rest, registry.get? id = some type ∧ type.legal = first :: rest ∧
      validator.legal = type.legal := by
  obtain ⟨⟨type, htype, hasks, rfl⟩, -⟩ := get?_synthesize.mp hget
  have hsound := Registry.isSound_of_ofList hregistry type (List.mem_of_getElem? htype)
  obtain ⟨first, rest, hlegal⟩ := List.exists_cons_of_ne_nil (hsound.valued hasks)
  exact ⟨type, first, rest, htype, hlegal, rfl⟩

namespace Protocol

/-- The directives ask for counts whose test data has a length of 32 bits. -/
def TestLengthsFit (protocol : Protocol) : Prop :=
  ∀ directives ∈ protocol.overrides.entries, ∀ count, directives.count = some count →
    testCount * count < 2 ^ 32

theorem isMeasured_of_commands {protocol : Protocol} {records : List Record}
    {commands : List Command} (hrecords : protocol.records = .ok records)
    (hcommands : protocol.commands records = .ok commands) (hfit : protocol.TestLengthsFit)
    {command : Command} (hcommand : command ∈ commands) : HandlerTests.IsMeasured command := by
  have hplanned := isPlanned_of_commands hcommands command hcommand
  have hlaid := isLaidOut_of_commands hcommands command hcommand
  have hunits : ∀ sizing units, command.record.packing.putSizing = some sizing →
      sizing.count = some units → testCount * units < 2 ^ 32 := by
    intro sizing units hsizing hunits
    obtain ⟨directives, hdirectives, hcount⟩ :=
      (isBuilt_of_records hrecords _ hplanned.mem).countRequested sizing units hsizing hunits
    exact hfit directives hdirectives units hcount
  have hsingle : ∀ sizing units, command.record.packing.putSizing = some sizing →
      sizing.count = some units → units < 2 ^ 32 := by
    intro sizing units hsizing hcount
    have hless : units ≤ testCount * units := Nat.le_mul_of_pos_left units (by decide)
    exact Nat.lt_of_le_of_lt hless (hunits sizing units hsizing hcount)
  intro index argument size hargument hsize hknown
  refine ⟨hlaid.isSized hsingle hargument hsize hknown, ?_⟩
  obtain ⟨-, hsizes, -⟩ := hlaid.sizes_of_dataSize? hargument hsize
  cases hsizes with
  | fixed hpacking => exact hsingle _ _ (by rw [hpacking]; rfl) rfl
  | atMost hpacking => exact (by decide : testCount < 2 ^ 32)
  | units hpacking hcounter => exact hunits _ _ (by rw [hpacking]; rfl) rfl
  | ids hpacking hcounter => exact (by decide : testCount * 1 < 2 ^ 32)
  | unsized hpacking => exact absurd rfl hknown

end Protocol

/-- The test with valid arguments that is written for a record satisfies the handler of its command
exactly if the names in it are its own, the parameters of `init` are different, and the test count
is neither more than data of a run-time size may have nor an illegal value of an argument that it is
bound to. -/
theorem Blueprint.valid_test_passes_iff {blueprint : Blueprint} {types : List NamedType}
    (hregistry : Registry.ofList types = .ok blueprint.protocol.types)
    (hrecords : blueprint.protocol.records = .ok blueprint.records)
    (hcommands : blueprint.protocol.commands blueprint.records = .ok blueprint.commands)
    (hvalidators : blueprint.validators = blueprint.protocol.validators blueprint.records)
    (hlengths : blueprint.protocol.TestLengthsFit) {record : Record} {command : Command}
    {tests : List Function} (hentry : (record, command) ∈ HandlerTests.entries blueprint)
    (huntouched : record.testValues = [])
    (houtcome : HandlerTests.outcome blueprint (HandlerTests.fixture blueprint) record command
      = .ok (.written tests)) :
    ∃ setup, HandlerTests.stageAll blueprint.protocol.types command 0 command.arguments {}
        = .ok (some setup) ∧
      (∃ invalid, tests = HandlerTests.validTest (HandlerTests.fixture blueprint) record command
        setup :: invalid) ∧
      ∀ {support : Support} (meaning : Meaning support), setup.IsTyped meaning command →
        (HandlerTests.Passes blueprint meaning command setup
            (HandlerTests.validTest (HandlerTests.fixture blueprint) record command setup) ↔
          Binder.Unshadowed (HandlerTests.validBinders command) ∧
            (command.initParams.map InitParam.name).Nodup ∧
            HandlerTests.CountFits blueprint.validators meaning command) := by
  obtain ⟨setup, hstaged, htests⟩ := HandlerTests.exists_setup_of_outcome houtcome
  refine ⟨setup, hstaged, htests, fun meaning htyped => ?_⟩
  obtain ⟨entry, hentry, hsame⟩ := List.mem_filterMap.mp hentry
  obtain ⟨hmem, hasks⟩ := List.mem_filter.mp hentry
  obtain ⟨preferred, hpreferred, hpair⟩ := Option.map_eq_some_iff.mp hsame
  cases hpair
  obtain ⟨found, hcommand, hfound, rfl, -⟩ := blueprint.exists_preferredCommand hrecords hcommands
    hmem (Bool.and_eq_true_iff.mp hasks).1
  cases hfound.symm.trans hpreferred
  refine HandlerTests.passes_iff (Protocol.isLaidOut_of_commands hcommands _ hcommand)
    (Protocol.isNamed_of_commands hrecords hcommands _ hcommand) hstaged
    (Protocol.isMeasured_of_commands hrecords hcommands hlengths hcommand) htyped huntouched ?_
  intro id validator hget
  rw [hvalidators] at hget
  exact ValidatorSet.exists_legal hregistry hget

/-! ## A counted and a run-time size -/

def stepType : NamedType :=
  { name := "Step", underlying := "GLsizei", legal := ["1", "2"], illegal := [] }

def levelType : NamedType :=
  { name := "Level", underlying := "GLint", legal := ["4"], illegal := [] }

/-- The counter of the first function has a legal value that is the test count; the second function
takes at most one element. -/
def samplesProtocol : Protocol where
  name := "Samples"
  filePrefix := "samples"
  description := "Data of a counted and of a run-time size"
  commandBase := 256
  supportPath := "crate::support"
  types := { types := [stepType, levelType] }
  overrides := ⟨[{ name := "SetSamples", strategy := some .putN, count := some 4 },
    { name := "SetSeal", strategy := some .put, count := some 1, hasRuntimeCount := true }]⟩
  functions := "void SetSamples(GLint<Level> level, GLsizei<Step> n, const GLfloat* values);
void SetSeal(GLuint texture, const GLbyte* seal);"

def samplesParams : List Param := [
  ⟨{ base := "GLint", named := some ⟨1⟩ }, "level"⟩,
  ⟨{ base := "GLsizei", named := some ⟨0⟩ }, "n"⟩,
  ⟨{ isConst := true, base := "GLfloat", pointerDepth := 1 }, "values"⟩]

def samplesRecord : Record :=
  .merge { name := "SetSamples", returnType := .void, params := samplesParams, line := 1 }
    { name := "SetSamples", count := some 4 } samplesParams .putN [.immediate]

def samplesCommand : Command where
  record := samplesRecord
  transfer := .immediate
  name := "SetSamplesImmediate"
  id := 256
  fields := [⟨"level", .i32⟩, ⟨"n", .i32⟩]
  arguments := List.zipWith Argument.mk samplesParams
    [.word 0 .i32, .word 1 .i32, .immediate (.counted 1 4)]
  count := none
  result := none
  clientId := none

def sealParams : List Param := [
  ⟨{ base := "GLuint" }, "texture"⟩,
  ⟨{ isConst := true, base := "GLbyte", pointerDepth := 1 }, "seal"⟩]

def sealRecord : Record :=
  .merge { name := "SetSeal", returnType := .void, params := sealParams, line := 2 }
    { name := "SetSeal", count := some 1, hasRuntimeCount := true } sealParams .put [.immediate]

def sealArgument : Argument :=
  ⟨⟨{ isConst := true, base := "GLbyte", pointerDepth := 1 }, "seal"⟩, .immediate (.atMost 1)⟩

def sealCommand : Command where
  record := sealRecord
  transfer := .immediate
  name := "SetSealImmediate"
  id := 257
  fields := [⟨"texture", .u32⟩, ⟨"count", .u32⟩]
  arguments := [⟨⟨{ base := "GLuint" }, "texture"⟩, .word 0 .u32⟩, sealArgument]
  count := some 1
  result := none
  clientId := none

def samplesBlueprint : Blueprint where
  protocol := samplesProtocol
  records := [samplesRecord, sealRecord]
  validators := ⟨[.ofType ⟨0⟩ stepType, .ofType ⟨1⟩ levelType]⟩
  commands := [samplesCommand, sealCommand]
  support := { segments := [{ name := "crate" }, { name := "support" }] }

def samplesSetup : HandlerTests.Setup where
  bindings := [
    .bind (.bind false (.escaped "level")) (some (valueType "GLint"))
      (.cast (.literal "4") (valueType "GLint")),
    .bind (.bind false (.escaped "n")) (some (valueType "GLsizei"))
      (.cast (.number testCount) (valueType "GLsizei")),
    .bind (.bind false (.escaped "values")) (some (.array (valueType "GLfloat") 8))
      (.apply ["std", "array", "from_fn"] [.closure "i"
        (.cast (.paren (.infixed .add "i" (.number 1))) (valueType "GLfloat"))])]
  data := some (.escaped "values")

def sealSetup : HandlerTests.Setup where
  bindings := [
    .bind (.bind false (.escaped "texture")) (some (valueType "GLuint"))
      (.cast (.number 11) (valueType "GLuint")),
    ClientTests.bindData sealArgument testCount]
  data := some (.escaped "seal")

theorem registry_samples :
    Registry.ofList [stepType, levelType] = .ok samplesBlueprint.protocol.types := by
  decide +kernel

theorem records_samples :
    samplesBlueprint.protocol.records = .ok samplesBlueprint.records := by decide +kernel

theorem commands_samples : samplesBlueprint.protocol.commands samplesBlueprint.records
    = .ok samplesBlueprint.commands := rfl

theorem validators_samples : samplesBlueprint.validators
    = samplesBlueprint.protocol.validators samplesBlueprint.records := rfl

theorem testLengthsFit_samples : samplesBlueprint.protocol.TestLengthsFit := by
  intro directives hdirectives count hcount
  simp only [samplesBlueprint, samplesProtocol, List.mem_cons, List.not_mem_nil,
    or_false] at hdirectives
  rcases hdirectives with rfl | rfl <;> cases hcount <;> decide

theorem stageAll_samples : HandlerTests.stageAll samplesBlueprint.protocol.types samplesCommand 0
    samplesCommand.arguments {} = .ok (some samplesSetup) := by cbv

theorem stageAll_seal : HandlerTests.stageAll samplesBlueprint.protocol.types sealCommand 0
    sealCommand.arguments {} = .ok (some sealSetup) := rfl

theorem entries_samples : HandlerTests.entries samplesBlueprint
    = [(samplesRecord, samplesCommand), (sealRecord, sealCommand)] := rfl

def samplesTest : Function :=
  HandlerTests.validTest (HandlerTests.fixture samplesBlueprint) samplesRecord samplesCommand
    samplesSetup

def sealTest : Function :=
  HandlerTests.validTest (HandlerTests.fixture samplesBlueprint) sealRecord sealCommand sealSetup

theorem outcome_samples : HandlerTests.outcome samplesBlueprint
    (HandlerTests.fixture samplesBlueprint) samplesRecord samplesCommand
      = .ok (.written [samplesTest]) := by
  cbv

theorem outcome_seal : HandlerTests.outcome samplesBlueprint
    (HandlerTests.fixture samplesBlueprint) sealRecord sealCommand = .ok (.written [sealTest]) :=
  rfl

theorem isTyped_samples : samplesSetup.IsTyped (.ofNumbers modeSupport) samplesCommand := by
  rintro index argument source hargument hscalar ⟨found, hfound, hbinding⟩
  match index with
  | 0 =>
    cases hfound
    cases hargument
    cases hbinding
    exact ⟨.int .i32 4, rfl, .int .i32, rfl, rfl, by decide⟩
  | 1 =>
    cases hfound
    cases hargument
    cases hbinding
    exact ⟨.int .i32 2, rfl, .int .i32, rfl, rfl, by decide⟩
  | 2 =>
    cases hargument
    cases hscalar
  | index + 3 => cases hargument

theorem isTyped_seal : sealSetup.IsTyped (.ofNumbers modeSupport) sealCommand := by
  rintro index argument source hargument hscalar ⟨found, hfound, hbinding⟩
  match index with
  | 0 =>
    cases hfound
    cases hargument
    cases hbinding
    exact ⟨.int .u32 11, rfl, .int .u32, rfl, rfl, by decide⟩
  | 1 =>
    cases hargument
    cases hscalar
  | index + 2 => cases hargument

/-- The test count is a legal value of the counter. -/
theorem countFits_samples :
    HandlerTests.CountFits samplesBlueprint.validators (.ofNumbers modeSupport) samplesCommand where
  bounded := by
    intro argument hargument max hsize
    simp only [samplesCommand, samplesParams, List.zipWith, List.mem_cons, List.not_mem_nil,
      or_false] at hargument
    rcases hargument with rfl | rfl | rfl <;> cases hsize
  legal := by
    intro index argument validator hargument hcounting hvalidator
    match index with
    | 0 => cases hcounting
    | 1 =>
      cases hargument
      cases hvalidator
      exact ⟨"2", by decide, .i32, .cast (.literal "2") (valueType "GLsizei"), rfl, by cbv, rfl⟩
    | 2 => cases hcounting
    | index + 3 => cases hargument

/-- The test of the counted data passes. -/
theorem valid_test_passes_samples : HandlerTests.Passes samplesBlueprint (.ofNumbers modeSupport)
    samplesCommand samplesSetup samplesTest := by
  have hentry : (samplesRecord, samplesCommand) ∈ HandlerTests.entries samplesBlueprint := by
    rw [entries_samples]
    exact List.mem_cons_self
  obtain ⟨setup, hstaged, -, hpasses⟩ := Blueprint.valid_test_passes_iff registry_samples
    records_samples commands_samples validators_samples testLengthsFit_samples hentry rfl
    outcome_samples
  cases hstaged.symm.trans stageAll_samples
  exact (hpasses (.ofNumbers modeSupport) isTyped_samples).mpr
    ⟨by decide, by decide, countFits_samples⟩

/-- The test of the data with at most one element has two of them, and says so to `init`, so the
handler refuses the command. -/
theorem oversized_test_of_seal :
    Registry.ofList [stepType, levelType] = .ok samplesBlueprint.protocol.types ∧
    samplesBlueprint.protocol.records = .ok samplesBlueprint.records ∧
    samplesBlueprint.protocol.commands samplesBlueprint.records = .ok samplesBlueprint.commands ∧
    samplesBlueprint.validators
      = samplesBlueprint.protocol.validators samplesBlueprint.records ∧
    (sealRecord, sealCommand) ∈ HandlerTests.entries samplesBlueprint ∧
    sealRecord.testValues = [] ∧
    HandlerTests.outcome samplesBlueprint (HandlerTests.fixture samplesBlueprint) sealRecord
      sealCommand = .ok (.written [sealTest]) ∧
    sealSetup.IsTyped (.ofNumbers modeSupport) sealCommand ∧
    CommandFormat.unitConstant? sealCommand = some (unitsConstant "MAX_DATA_UNITS" 1) ∧
    sealCommand.initParams.map HandlerTests.initArgument
      = [.path false [.escaped "texture"], .number 2] ∧
    sealSetup.binding? sealCommand 1 = some (ClientTests.bindData sealArgument 2) ∧
    ¬ HandlerTests.Passes samplesBlueprint (.ofNumbers modeSupport) sealCommand sealSetup
      sealTest := by
  have hentry : (sealRecord, sealCommand) ∈ HandlerTests.entries samplesBlueprint := by
    rw [entries_samples]
    exact List.mem_cons_of_mem _ List.mem_cons_self
  have hcommand : sealCommand ∈ samplesBlueprint.commands := by decide
  have hlaid := Protocol.isLaidOut_of_commands commands_samples sealCommand hcommand
  have hnamed := Protocol.isNamed_of_commands records_samples commands_samples sealCommand hcommand
  have hmeasured := Protocol.isMeasured_of_commands records_samples commands_samples
    testLengthsFit_samples hcommand
  refine ⟨registry_samples, records_samples, commands_samples, validators_samples, hentry, rfl,
    outcome_seal, isTyped_seal, rfl, rfl, rfl, fun hpasses => ?_⟩
  have hbounded := hpasses.bounded hlaid hnamed stageAll_seal hmeasured isTyped_seal sealArgument
    (by decide) 1 rfl
  exact absurd hbounded (by decide)

end CommandBuffer
