import CommandBuffer.Proofs.Spelling.Client

/-! # Names in the artifacts of the service

Dispatch and handlers, their tests and the validators make no demand but those that any artifact can
make. Comparing values with the legal ones puts operators next to those of the legal values,
whatever these are.
-/

namespace CommandBuffer

open Code

namespace Blueprint

variable {blueprint : Blueprint} {record : Record} {command : Command} {argument : Argument}

/-! ## Handlers -/

section Handler

open Handler

variable (hplanned : blueprint.IsPlanned) (hcommand : command ∈ blueprint.commands)

theorem mem_of_forType? {type : CType} {validator : Validator}
    (h : blueprint.validators.forType? type = some validator) :
    validator ∈ blueprint.validators.validators := by
  obtain ⟨id, -, hget⟩ := Option.bind_eq_some_iff.mp h
  exact List.mem_of_find?_eq_some hget

include hplanned hcommand in
theorem IsCovered.handlerName {place : Place} :
    blueprint.IsCovered (.named place command.handlerName) :=
  .named (Name.isPossible_append_snakeName (by decide) (hplanned.commands command hcommand))
    (Name.isBare_of_start (by decide) (by decide))

theorem covers_fail {error : Name} (herror : blueprint.IsCovered (.named .segment error)) :
    blueprint.Covers (fail error).demands := by
  simp (disch := decide) [fail, herror]

theorem covers_consume : blueprint.Covers consume.demands := by
  simp (disch := decide) [consume, succeed]

theorem covers_reportInvalidValue {message : String} :
    blueprint.Covers (reportInvalidValue command message).demands := by
  simp (disch := decide) [reportInvalidValue]

include hcommand in
theorem covers_reportInvalidEnum (hargument : argument ∈ command.arguments) :
    blueprint.Covers (reportInvalidEnum command argument).demands := by
  simp (disch := decide) [reportInvalidEnum, stored, IsCovered.ident hcommand hargument]

include hcommand in
theorem covers_gate : ∀ stmt ∈ gate command, blueprint.Covers stmt.demands := by
  unfold gate
  split
  · rename_i flag hflag
    have hname : blueprint.IsCovered (.named .plain (.escaped flag)) :=
      .supplied (.flag hcommand hflag) rfl
    simp (disch := decide) [hname]
    exact covers_fail (.fixed (by decide))
  · simp

include hcommand in
theorem covers_viewCommand : blueprint.Covers (viewCommand command).demands := by
  simp (disch := decide) [viewCommand, IsCovered.struct hcommand]

include hcommand in
theorem covers_decode (hargument : argument ∈ command.arguments) (kind : ScalarKind) :
    blueprint.Covers (decode command argument kind).demands := by
  have hident : ∀ {place}, blueprint.IsCovered (.named place argument.ident) :=
    .ident hcommand hargument
  have htype : blueprint.Covers (valueType argument.base).demands :=
    covers_argumentType hcommand hargument
  cases kind with
  | enum =>
    have hpath : blueprint.Covers
        (Expr.path false (valuePath argument.base ++ [Name.verbatim "from_wire"])).demands := by
      refine covers_pathDemands (List.forall_mem_append.mpr ⟨?_, ?_⟩)
      · exact fun segment hsegment _ => .segment (.argument hcommand hargument) hsegment
      · exact List.forall_mem_singleton.mpr fun place => .named (by decide) (by decide)
    simp (disch := decide) [decode, stored, hident, hpath, covers_consume,
      covers_reportInvalidEnum hcommand hargument]
  | u32 | i32 | f32 | bool | u64 =>
    simp (disch := decide) [decode, decodeWord, stored, hident, htype, Expr.exposed]

include hcommand in
theorem covers_scalar (hargument : argument ∈ command.arguments) (kind : ScalarKind) :
    ∀ stmt ∈ scalar blueprint.validators command argument kind, blueprint.Covers stmt.demands := by
  refine List.forall_mem_cons.mpr ⟨covers_decode hcommand hargument kind, ?_⟩
  intro stmt hstmt
  obtain ⟨validator, hvalidator, rfl⟩ := Option.map_eq_some_iff.mp (Option.mem_toList.mp hstmt)
  have hfield : ∀ {place}, blueprint.IsCovered (.named place (.escaped validator.field)) :=
    .supplied (.validatorField (mem_of_forType? hvalidator)) rfl
  have hident : ∀ {place}, blueprint.IsCovered (.named place argument.ident) :=
    .ident hcommand hargument
  unfold validate
  dsimp only
  split <;> simp (disch := decide) [hfield, hident, covers_consume, covers_reportInvalidValue,
    covers_reportInvalidEnum hcommand hargument]

include hplanned hcommand in
theorem covers_countCheck (hargument : argument ∈ command.arguments) {size : DataSize}
    (hsize : argument.layout.dataSize? = some size) :
    ∀ stmt ∈ countCheck command size, blueprint.Covers stmt.demands := by
  cases size with
  | counted counter units =>
    have hcounter : ∀ {place}, blueprint.IsCovered (.named place (command.argumentIdent counter)) :=
      .counter hplanned hcommand hargument hsize
    simp (disch := decide) [countCheck, hcounter, covers_reportInvalidValue, covers_consume,
      Expr.exposed]
  | atMost max =>
    simp (disch := decide) [countCheck, stored, IsCovered.struct hcommand, Expr.exposed]
    exact covers_fail (.fixed (by decide))
  | fixed | unsized => simp [countCheck]

include hplanned hcommand in
theorem covers_elementCount (hargument : argument ∈ command.arguments) {size : DataSize}
    (hsize : argument.layout.dataSize? = some size) :
    blueprint.Covers (elementCount command size).demands := by
  cases size with
  | counted counter units =>
    have hcounter : ∀ {place}, blueprint.IsCovered (.named place (command.argumentIdent counter)) :=
      .counter hplanned hcommand hargument hsize
    simp only [elementCount]
    split <;> simp (disch := decide) [hcounter, Expr.exposed]
  | fixed count => simp (disch := decide) [elementCount, IsCovered.struct hcommand]
  | atMost | unsized => simp (disch := decide) [elementCount, stored]

include hplanned hcommand in
theorem covers_fetch (hargument : argument ∈ command.arguments) :
    ∀ stmt ∈ fetch command argument, blueprint.Covers stmt.demands := by
  have hident : ∀ {place}, blueprint.IsCovered (.named place argument.ident) :=
    .ident hcommand hargument
  have htype := covers_argumentType hcommand hargument
  have hlocation : ∀ index ∈ argument.layout.fields, ∀ place,
      blueprint.IsCovered (.named place (command.fieldIdent index)) :=
    fun index hindex place => .location hplanned hcommand hargument hindex
  have hcheck : ∀ {size}, argument.layout.dataSize? = some size →
      (∀ stmt ∈ countCheck command size, blueprint.Covers stmt.demands) ∧
        blueprint.Covers (elementCount command size).demands := fun hsize =>
    ⟨covers_countCheck hplanned hcommand hargument hsize,
      covers_elementCount hplanned hcommand hargument hsize⟩
  unfold fetch
  split
  · simp
  · simp
  · simp
  · rename_i size _ hlayout
    obtain ⟨hcount, hlength⟩ := hcheck (by rw [hlayout]; rfl)
    refine List.forall_mem_append.mpr ⟨hcount, ?_⟩
    simp (disch := decide) [bindAttempt, hident, htype, hlength, IsCovered.struct hcommand]
  · rename_i id offset size _ hlayout
    obtain ⟨hcount, hlength⟩ := hcheck (by rw [hlayout]; rfl)
    simp only [hlayout, Layout.fields, List.mem_cons, List.not_mem_nil, or_false,
      forall_eq_or_imp, forall_eq] at hlocation
    refine List.forall_mem_append.mpr ⟨hcount, ?_⟩
    simp (disch := decide) [bindAttempt, stored, hident, htype, hlength, hlocation]
  · rename_i id size _ hlayout
    obtain ⟨hcount, hlength⟩ := hcheck (by rw [hlayout]; rfl)
    simp only [hlayout, Layout.fields, List.mem_singleton, forall_eq] at hlocation
    refine List.forall_mem_append.mpr ⟨hcount, ?_⟩
    simp (disch := decide) [bindAttempt, stored, hident, htype, hlength, hlocation]
    exact covers_fail (.fixed (by decide))
  all_goals simp

include hplanned hcommand in
theorem covers_prepare (hargument : argument ∈ command.arguments) :
    ∀ stmt ∈ prepare blueprint.validators command argument, blueprint.Covers stmt.demands := by
  have hident : ∀ {place}, blueprint.IsCovered (.named place argument.ident) :=
    .ident hcommand hargument
  unfold prepare
  cases argument.layout with
  | word field kind => exact covers_scalar hcommand hargument kind
  | split => simp (disch := decide) [hident]
  | immediate | shm | bucket | result => exact covers_fetch hplanned hcommand hargument

include hplanned hcommand in
theorem covers_passed (hargument : argument ∈ command.arguments) :
    ∀ value ∈ passed command argument, blueprint.Covers value.demands := by
  have hident : ∀ {place}, blueprint.IsCovered (.named place argument.ident) :=
    .ident hcommand hargument
  have hlocation : ∀ index ∈ argument.layout.fields, ∀ place,
      blueprint.IsCovered (.named place (command.fieldIdent index)) :=
    fun index hindex place => .location hplanned hcommand hargument hindex
  unfold passed
  split
  case h_3 => simp (disch := decide) [IsCovered.struct hcommand]
  case h_5 id offset hlayout =>
    simp only [hlayout, Layout.fields, List.mem_cons, List.not_mem_nil, or_false,
      forall_eq_or_imp, forall_eq] at hlocation
    simp (disch := decide) [stored, hlocation]
  case h_7 id hlayout =>
    simp only [hlayout, Layout.fields, List.mem_singleton, forall_eq] at hlocation
    simp (disch := decide) [stored, hlocation]
  all_goals simp [hident]

include hplanned hcommand in
theorem covers_serviceCall : blueprint.Covers (Handler.call command).demands := by
  have hname : blueprint.IsCovered (.named .plain (.escaped command.record.decoderName)) :=
    .supplied (.decoder hcommand) rfl
  refine covers_send.mpr ⟨by simp (disch := decide), hname, List.forall_mem_append.mpr ⟨?_, ?_⟩⟩
  · intro value hvalue
    obtain ⟨argument, hargument, hvalue⟩ := List.mem_flatMap.mp hvalue
    exact covers_passed hplanned hcommand hargument value hvalue
  · cases command.clientId <;> simp (disch := decide) [stored]

include hcommand in
theorem covers_resultVector :
    blueprint.IsCovered (.named .plain (resultVector command).1) ∧
      blueprint.IsCovered (.named .segment (resultVector command).1) ∧
      ∀ segment ∈ (resultVector command).2,
        ∀ place, blueprint.IsCovered (.named place segment) := by
  unfold resultVector
  split
  · rename_i argument hresult
    have hargument := List.mem_of_mem_filter (List.mem_of_getLast? hresult)
    exact ⟨.ident hcommand hargument, .ident hcommand hargument,
      fun segment hsegment _ => .segment (.argument hcommand hargument) hsegment⟩
  · refine ⟨.fixed (by decide), .fixed (by decide), List.forall_mem_singleton.mpr fun _ => ?_⟩
    exact .named (by decide) (by decide)

include hcommand in
theorem covers_resultLength : blueprint.Covers (resultLength command).demands := by
  unfold resultLength
  split
  · rename_i selector hselector
    obtain ⟨argument, hargument, hfound⟩ := List.exists_of_findSome?_eq_some hselector
    split at hfound
    · cases hfound
      simp (disch := decide) [IsCovered.ident hcommand hargument]
    · cases hfound
  · simp

theorem covers_writeResult {method : Name} {result : Expr}
    (hmethod : blueprint.IsCovered (.named .plain method))
    (hresult : blueprint.Covers result.demands) :
    blueprint.Covers (writeResult method result).demands := by
  simp (disch := decide) [writeResult, stored, hmethod, hresult]

include hplanned hcommand in
theorem covers_dispatch : ∀ stmt ∈ dispatch command, blueprint.Covers stmt.demands := by
  have hcall := covers_serviceCall hplanned hcommand
  have hsucceed : blueprint.Covers succeed.demands := by simp (disch := decide) [succeed]
  unfold dispatch
  split
  · simp [hcall]
  · simp [hcall, hsucceed]
    exact covers_fail (.fixed (by decide))
  · obtain ⟨hplain, hsegment, helement⟩ := covers_resultVector hcommand
    dsimp only
    simp only [List.forall_mem_cons]
    refine ⟨?_, hcall, covers_writeResult (.fixed (by decide)) ?_,
      fun _ h => absurd h List.not_mem_nil⟩
    · have hdefault : blueprint.Covers
          (Expr.path false ((resultVector command).2 ++ [Name.verbatim "default"])).demands :=
        covers_pathDemands (List.forall_mem_append.mpr ⟨helement,
          List.forall_mem_singleton.mpr fun place => .named (by decide) (by decide)⟩)
      refine covers_bind.mpr ⟨covers_bindPattern.mpr hplain, fun _ h => (by cases h),
        covers_vector ?_ (covers_resultLength hcommand)⟩
      simp [hdefault]
    · simp [hsegment]
  · simp (disch := decide) [hcall]
    exact covers_writeResult (.fixed (by decide)) (by simp (disch := decide))
  all_goals simp [hcall, hsucceed]

theorem covers_words : blueprint.Covers words.demands := by
  simp (disch := decide) [words]

theorem covers_outcomeType : blueprint.Covers outcomeType.demands := by
  simp (disch := decide) [outcomeType]

include hplanned hcommand in
theorem covers_handler :
    blueprint.Covers (Handler.function blueprint.validators command).demands := by
  refine covers_function.mpr ⟨?_, ?_⟩
  · refine covers_signature.mpr ⟨.handlerName hplanned hcommand,
      List.forall_mem_singleton.mpr covers_words, ?_⟩
    rintro _ ⟨⟩
    exact covers_outcomeType
  · simp only [Handler.function, List.append_assoc, List.cons_append, List.forall_mem_append,
      List.forall_mem_cons]
    refine ⟨covers_gate hcommand, covers_viewCommand hcommand, ?_,
      covers_dispatch hplanned hcommand⟩
    intro stmt hstmt
    obtain ⟨argument, hargument, hstmt⟩ := List.mem_flatMap.mp hstmt
    exact covers_prepare hplanned hcommand hargument stmt hstmt

include hplanned in
theorem covers_execute : blueprint.Covers (execute blueprint.commands).demands := by
  have hname : blueprint.IsCovered (.named .plain "execute_generated") := .fixed (by decide)
  refine covers_function.mpr ⟨covers_signature.mpr ⟨hname, ?_, ?_⟩, ?_⟩
  · exact List.forall_mem_cons.mpr ⟨by simp (disch := decide),
      List.forall_mem_singleton.mpr covers_words⟩
  · rintro _ ⟨⟩
    exact covers_outcomeType
  · refine List.forall_mem_singleton.mpr (covers_select.mpr ⟨by simp (disch := decide),
      List.forall_mem_map.mpr fun command hcommand => ?_⟩)
    simp (disch := decide) [arm, IsCovered.struct hcommand,
      IsCovered.handlerName hplanned hcommand]

include hplanned in
theorem emits_handlers :
    blueprint.Emits (fun code => blueprint.Covers code.demands) blueprint.handlers := by
  refine emits_finish hplanned ?_ (covers_file (List.forall_mem_singleton.mpr
    (covers_implement.mpr ⟨fun _ h => (by cases h), .protocolType (by decide), ?_⟩)))
  · intro name hname
    obtain ⟨command, hcommand, hname⟩ := List.mem_flatMap.mp hname
    obtain ⟨argument, hargument, rfl⟩ := List.mem_map.mp hname
    exact fun _ => .argument hcommand hargument
  · simp only [List.forall_mem_map, List.map_cons, List.forall_mem_cons, covers_memberFunction]
    exact ⟨covers_execute hplanned, fun command hcommand => covers_handler hplanned hcommand⟩

end Handler

/-! ## Tests of the handlers -/

section HandlerTests

open HandlerTests

variable (hplanned : blueprint.IsPlanned) (hcommand : command ∈ blueprint.commands)

/-- Whatever the setup has collected can be demanded. -/
structure CoversStaged (blueprint : Blueprint) (setup : HandlerTests.Setup) : Prop where
  bindings : ∀ stmt ∈ setup.bindings, blueprint.Covers stmt.demands
  data : ∀ data ∈ setup.data, ∀ place, blueprint.IsCovered (.named place data)

theorem coversStaged_empty : blueprint.CoversStaged {} where
  bindings := fun _ h => absurd h List.not_mem_nil
  data := fun _ h => by cases h

include hplanned hcommand in
theorem emits_handlerStage {registry : Registry} {index : Nat}
    (hargument : argument ∈ command.arguments) {setup : HandlerTests.Setup}
    (hsetup : blueprint.CoversStaged setup) :
    blueprint.Emits (fun staged => ∀ after ∈ staged, blueprint.CoversStaged after)
      (stage registry command index argument setup) := by
  have hident : ∀ {place}, blueprint.IsCovered (.named place argument.ident) :=
    .ident hcommand hargument
  have htype := covers_argumentType hcommand hargument
  refine (emits_requireNames (List.forall_mem_singleton.mpr fun _ =>
    .argument hcommand hargument)).bind fun _ _ =>
      (emits_requireWritable hplanned htype).bind fun _ _ => ?_
  split
  case h_1 | h_2 =>
    refine (emits_testValue? hcommand hargument).bind ?_
    rintro (_ | value) hvalue
    · exact .pure fun _ h => by cases h
    · refine .pure ?_
      rintro _ ⟨⟩
      refine ⟨List.forall_mem_append.mpr ⟨hsetup.bindings, List.forall_mem_singleton.mpr ?_⟩,
        hsetup.data⟩
      simp [hident, htype, hvalue value rfl]
  case h_5 size _ =>
    refine .pure ?_
    rintro _ ⟨⟩
    refine ⟨List.forall_mem_append.mpr ⟨hsetup.bindings,
      List.forall_mem_singleton.mpr (covers_bindData hcommand hargument _)⟩, ?_⟩
    rintro _ ⟨⟩ place
    exact hident
  case h_6 | h_7 =>
    refine .pure ?_
    rintro _ ⟨⟩
    exact hsetup
  all_goals exact .pure fun _ h => by cases h

include hplanned hcommand in
theorem emits_handlerStageAll {registry : Registry} {index : Nat} {arguments : List Argument}
    (harguments : arguments ⊆ command.arguments) {setup : HandlerTests.Setup}
    (hsetup : blueprint.CoversStaged setup) :
    blueprint.Emits (fun staged => ∀ after ∈ staged, blueprint.CoversStaged after)
      (stageAll registry command index arguments setup) := by
  induction arguments generalizing index setup with
  | nil =>
    refine .pure ?_
    rintro _ ⟨⟩
    exact hsetup
  | cons argument rest ih =>
    rw [List.cons_subset] at harguments
    refine (emits_handlerStage hplanned hcommand harguments.1 hsetup).bind ?_
    rintro (_ | next) hnext
    · exact .pure fun _ h => by cases h
    · exact ih harguments.2 (hnext next rfl)

include hplanned hcommand in
theorem covers_runCommand {setup : HandlerTests.Setup} (hsetup : blueprint.CoversStaged setup)
    {error : Name} (herror : blueprint.IsCovered (.named .segment error)) :
    ∀ stmt ∈ runCommand command setup error, blueprint.Covers stmt.demands := by
  have hargument : ∀ param ∈ command.initParams, blueprint.Covers (initArgument param).demands := by
    intro param hparam
    have hname := (covers_param hplanned hcommand hparam).1
    unfold initArgument
    split <;> simp (disch := decide) [hname]
  have hexecute : blueprint.Covers (HandlerTests.execute setup).demands := by
    unfold HandlerTests.execute
    split
    · rename_i data hdata
      simp (disch := decide) [hsetup.data data hdata]
    · simp (disch := decide)
  have hmacro : ∀ name ∈ (["assert_eq"] : List Name), blueprint.IsCovered (.named .segment name) :=
    List.forall_mem_singleton.mpr (.fixed (by decide))
  simp only [runCommand, List.forall_mem_cons]
  refine ⟨?_, ?_, covers_run.mpr (covers_expand hmacro ?_),
    covers_run.mpr (covers_expand hmacro ?_), fun _ h => absurd h List.not_mem_nil⟩
  · simp (disch := decide) [IsCovered.struct hcommand]
  · simpa (disch := decide) using hargument
  · simp (disch := decide) [hexecute]
  · simp (disch := decide) [herror]

theorem covers_bindFixture : blueprint.Covers (bindFixture (fixture blueprint) record).demands := by
  have hfixture : ∀ {place}, blueprint.IsCovered (.named place (fixture blueprint)) :=
    .protocolType (by decide)
  unfold bindFixture fixtureFor
  split <;> simp (disch := decide) [hfixture]

theorem covers_expectation : ∀ stmt ∈ expectation record, blueprint.Covers stmt.demands := by
  unfold expectation
  split <;> simp (disch := decide)

include hplanned hcommand in
theorem covers_validTest (hrecord : record ∈ blueprint.records)
    (htested : record.hasCommands = true ∧ record.hasUnitTest = true)
    {setup : HandlerTests.Setup} (hsetup : blueprint.CoversStaged setup) :
    blueprint.Covers (validTest (fixture blueprint) record command setup).demands := by
  have hname : blueprint.IsCovered
      (.named .plain (.verbatim (record.methodName ++ "_valid_args"))) :=
    .supplied (.validTest hrecord htested) (Name.isBare_append (by decide))
  refine covers_function.mpr ⟨by simp [validTest, hname], ?_⟩
  simp only [validTest, List.cons_append, List.forall_mem_cons, List.forall_mem_append]
  exact ⟨covers_bindFixture, ⟨covers_expectation, hsetup.bindings⟩,
    covers_runCommand hplanned hcommand hsetup (.fixed (by decide))⟩

/-- An illegal value is one of an argument at its position. -/
theorem mem_of_illegalValues {illegal : IllegalValue} {index : Nat}
    (h : illegal ∈ illegalValues blueprint.validators argument index) :
    illegal.argument = argument := by
  unfold illegalValues at h
  split at h
  · obtain ⟨⟨value, position⟩, -, rfl⟩ := List.mem_map.mp h
    rfl
  · cases h

include hplanned hcommand in
theorem emits_invalidTest (hrecord : record ∈ blueprint.records)
    (htested : record.hasCommands = true ∧ record.hasUnitTest = true)
    {setup : HandlerTests.Setup} (hsetup : blueprint.CoversStaged setup) {illegal : IllegalValue}
    {index : Nat} (hargument : argument ∈ command.arguments)
    (hillegal : illegal ∈ illegalValues blueprint.validators argument index) :
    blueprint.Emits (fun test => blueprint.Covers test.demands)
      (invalidTest (fixture blueprint) record command setup illegal) := by
  obtain rfl := mem_of_illegalValues hillegal
  have hident : ∀ {place}, blueprint.IsCovered (.named place illegal.argument.ident) :=
    .ident hcommand hargument
  have htype := covers_argumentType hcommand hargument
  have hname : blueprint.IsCovered
      (.named .plain (.verbatim s!"{record.methodName}_invalid_args_{illegal.suffix}")) := by
    have hbare : (Name.verbatim (record.methodName ++ "_invalid_args_" ++ illegal.suffix)).isBare
        = false := by
      refine Name.isBare_of_start ?_ ?_
      · rw [String.toList_append]
        exact List.mem_append_right _ (by decide)
      · rw [String.toList_append, List.length_append]
        exact Nat.lt_add_left _ (by decide)
    exact .supplied (.invalidTest hrecord htested hillegal) hbare
  have herror : blueprint.IsCovered
      (.named .segment (reportedError illegal.argument illegal.kind)) := by
    unfold reportedError
    split <;> exact .fixed (by decide)
  refine (emits_rejecting fun value hvalue =>
    covers_typedLiteral (.argument hcommand hargument) hvalue).bind fun value hvalue => .pure ?_
  refine covers_function.mpr ⟨by simp [hname], ?_⟩
  simp only [List.cons_append, List.forall_mem_cons, List.forall_mem_append]
  refine ⟨covers_bindFixture, hsetup.bindings, ?_,
    covers_runCommand hplanned hcommand hsetup herror⟩
  simp [hident, htype, hvalue]

include hplanned hcommand in
theorem emits_handlerOutcome (hrecord : record ∈ blueprint.records)
    (htested : record.hasCommands = true ∧ record.hasUnitTest = true) :
    blueprint.Emits (fun outcome => ∀ test ∈ outcome.tests, blueprint.Covers test.demands)
      (outcome blueprint (fixture blueprint) record command) := by
  refine (emits_handlerStageAll hplanned hcommand (List.Subset.refl _) coversStaged_empty).bind
    fun staged hstaged => ?_
  cases staged with
  | none => exact .pure fun _ h => absurd h List.not_mem_nil
  | some setup =>
    have hsetup := hstaged setup rfl
    have hvalid := covers_validTest hplanned hcommand hrecord htested hsetup
    have hnames : ∀ name ∈ command.initParams.map InitParam.name, name.isPossible = false →
        blueprint.Supplies name :=
      List.forall_mem_map.mpr fun param hparam himpossible =>
        ((covers_param hplanned hcommand hparam).1 .plain).supplies hplanned rfl himpossible
    refine (emits_requireNames hnames).bind fun _ _ => ?_
    refine (emits_requireWritable hplanned hvalid).bind fun _ _ => ?_
    have hinvalid : blueprint.Emits (fun tests => ∀ test ∈ tests, blueprint.Covers test.demands)
        (invalidTests blueprint (fixture blueprint) record command setup) := by
      unfold invalidTests
      split
      · refine emits_mapM fun illegal hillegal => ?_
        obtain ⟨⟨argument, index⟩, hindexed, hillegal⟩ := List.mem_flatMap.mp hillegal
        have hargument := List.mem_of_getElem? (List.mem_zipIdx_iff_getElem?.mp hindexed)
        exact emits_invalidTest hplanned hcommand hrecord htested hsetup hargument hillegal
      · exact .pure fun _ h => absurd h List.not_mem_nil
    exact hinvalid.bind fun tests htests => .pure (List.forall_mem_cons.mpr ⟨hvalid, htests⟩)

include hplanned in
theorem emits_handlerTests :
    blueprint.Emits (fun code => blueprint.Covers code.demands) blueprint.handlerTests := by
  refine (emits_requireNames (List.forall_mem_singleton.mpr fun _ =>
    .protocolType (by decide))).bind fun _ _ =>
      (emits_functions (List.forall_mem_map.mpr ?_)).bind fun tests htests =>
        emits_finish hplanned (fun _ h => absurd h List.not_mem_nil) (covers_tests htests)
  rintro ⟨record, command⟩ hentry
  obtain ⟨hmem, hrecord, hcommand⟩ :=
    mem_of_preferredCommand? (fun _ => List.mem_of_mem_filter) hentry
  have htested := (List.mem_filter.mp hmem).2
  rw [Bool.and_eq_true] at htested
  exact emits_handlerOutcome hplanned hcommand hrecord htested

end HandlerTests

/-! ## Validators -/

section Validators

open Validator

variable {validator : Validator} (hvalidator : validator ∈ blueprint.validators.validators)

include hvalidator in
theorem IsCovered.fieldName {place : Place} :
    blueprint.IsCovered (.named place validator.fieldName) :=
  .supplied (.validatorField hvalidator) rfl

include hvalidator in
theorem IsCovered.validatorType {place : Place} (hplanned : blueprint.IsPlanned) :
    blueprint.IsCovered (.named place validator.type) := by
  refine .supplied (.validatorType hvalidator) ?_
  obtain ⟨start, htype⟩ := hplanned.validators validator hvalidator
  rw [Validator.type, htype]
  exact Name.isBare_append (by decide)

theorem emits_validatorTypes (hplanned : blueprint.IsPlanned) :
    blueprint.Emits (fun code => blueprint.Covers code.demands) blueprint.validatorTypes := by
  refine emits_finish hplanned (fun _ h => absurd h List.not_mem_nil) (covers_file ?_)
  have hname : blueprint.IsCovered (.named .plain "Validators") := .fixed (by decide)
  refine List.forall_mem_cons.mpr ⟨covers_struct.mpr ⟨hname, List.forall_mem_map.mpr ?_⟩,
    List.forall_mem_map.mpr ?_⟩
  · intro validator hvalidator
    simp [containerField, IsCovered.fieldName hvalidator,
      IsCovered.validatorType hvalidator hplanned]
  · intro validator hvalidator
    have htype : ∀ {place}, blueprint.IsCovered (.named place validator.type) :=
      .validatorType hvalidator hplanned
    unfold declaration
    dsimp only
    split
    · simp [htype]
    · simp (disch := decide) [htype, covers_valueType (.underlying hvalidator)]

theorem forall_demands_infixed {property : Demand → Prop} {op : InfixOp} {left right : Expr}
    (hops : ∀ ops, property (.operators ops)) (hleft : ∀ demand ∈ left.demands, property demand)
    (hright : ∀ demand ∈ right.demands, property demand) :
    ∀ demand ∈ (Expr.infixed op left right).demands, property demand :=
  List.forall_mem_append.mpr ⟨List.forall_mem_cons.mpr ⟨hops _, hleft⟩, hright⟩

/-- Comparisons with all legal values demand what the values demand, and operators in order. -/
theorem forall_demands_membership {property : Demand → Prop} {values : List Expr}
    (hops : ∀ ops, property (.operators ops))
    (hvalue : property (.named .segment (.verbatim "value")))
    (hvalues : ∀ value ∈ values, ∀ demand ∈ value.demands, property demand) :
    ∀ demand ∈ (membership values).demands, property demand := by
  have hcomparison : ∀ value ∈ values,
      ∀ demand ∈ (Expr.infixed .eq "value" value).demands, property demand := fun value hmem =>
    forall_demands_infixed hops (List.forall_mem_singleton.mpr hvalue) (hvalues value hmem)
  cases values with
  | nil => exact fun _ h => absurd h List.not_mem_nil
  | cons first rest =>
    rw [List.forall_mem_cons] at hcomparison
    have hfold : ∀ {found : Expr}, (∀ demand ∈ found.demands, property demand) →
        ∀ demand ∈ (rest.foldl (fun found value =>
          .infixed .either found (.infixed .eq "value" value)) found).demands, property demand := by
      have hrest := hcomparison.2
      clear hcomparison hvalues
      intro found hfound
      induction rest generalizing found with
      | nil => exact hfound
      | cons value rest ih =>
        rw [List.forall_mem_cons] at hrest
        exact ih hrest.2 (forall_demands_infixed hops hfound hrest.1)
    exact hfold hcomparison.1

theorem covers_membership {values : List Expr}
    (hvalidator : validator ∈ blueprint.validators.validators)
    (hcomplete : validator.isComplete = true) (hvalues : validator.legalValues = .ok values)
    (hsound : ∀ value ∈ values, blueprint.Covers value.demands) :
    blueprint.Covers (membership values).demands := by
  have hmade : ∀ demand ∈ (membership values).demands,
      (∃ ops, demand = .operators ops) ∨ blueprint.IsCovered demand := by
    refine forall_demands_membership ?_ ?_ ?_
    · exact fun ops => .inl ⟨ops, rfl⟩
    · exact .inr (.fixed (by decide))
    · exact fun value hvalue demand hmem => .inr (hsound value hvalue demand hmem)
  intro demand hdemand
  rcases hmade demand hdemand with ⟨ops, rfl⟩ | hcovered
  · exact .membership hvalidator hcomplete hvalues hdemand
  · exact hcovered

theorem covers_legalValues {values : List Expr} (hvalues : validator.legalValues = .ok values) :
    ∀ value ∈ values, blueprint.Covers value.demands := by
  intro value hvalue
  obtain ⟨text, -, hliteral⟩ := Success.exists_of_mem_mapM hvalues hvalue
  exact covers_literalValue hliteral

theorem emits_valued (hplanned : blueprint.IsPlanned) :
    blueprint.Emits (fun valued => ∀ entry ∈ valued,
      entry.1 ∈ blueprint.validators.validators ∧ entry.1.legalValues = .ok entry.2)
      blueprint.valued := by
  refine emits_mapM fun validator hvalidator => ?_
  refine (emits_requireWritable hplanned ?_).bind fun _ _ =>
    (emits_rejecting fun values hvalues => hvalues).bind fun values hvalues =>
      .pure ⟨hvalidator, hvalues⟩
  refine covers_append.mpr ⟨covers_names.mpr ?_, ?_⟩
  · exact List.forall_mem_cons.mpr ⟨.fieldName hvalidator,
      List.forall_mem_singleton.mpr (.validatorType hvalidator hplanned)⟩
  · split
    · exact covers_valueType (.underlying hvalidator)
    · exact covers_nil

theorem covers_initial {values : List Expr} (hplanned : blueprint.IsPlanned)
    (hvalidator : validator ∈ blueprint.validators.validators)
    (hvalues : ∀ value ∈ values, blueprint.Covers value.demands) :
    blueprint.Covers (initial validator values).demands := by
  unfold initial
  split
  · simp [IsCovered.validatorType hvalidator hplanned]
  · simpa (disch := decide) using hvalues

theorem covers_check {values : List Expr} (hplanned : blueprint.IsPlanned)
    (hvalidator : validator ∈ blueprint.validators.validators)
    (hmembership : blueprint.Covers (membership values).demands) :
    blueprint.Covers (check validator values).demands := by
  simp (disch := decide) [check, IsCovered.validatorType hvalidator hplanned,
    covers_valueType (.underlying hvalidator), hmembership]

theorem emits_validatorBodies (hplanned : blueprint.IsPlanned) :
    blueprint.Emits (fun code => blueprint.Covers code.demands) blueprint.validatorBodies := by
  refine (emits_valued hplanned).bind fun valued hvalued => ?_
  refine emits_finish hplanned (fun _ h => absurd h List.not_mem_nil) (covers_file ?_)
  have hname : blueprint.IsCovered (.named .segment "Validators") := .fixed (by decide)
  refine List.forall_mem_append.mpr ⟨?_, List.forall_mem_map.mpr ?_⟩
  · have hfields : ∀ field ∈ valued.map fun entry => entry.1.fieldName,
        blueprint.IsCovered (.named .plain field) :=
      List.forall_mem_map.mpr fun entry hentry => .fieldName (hvalued entry hentry).1
    have hinitials : ∀ value ∈ valued.map fun entry => entry.1.initial entry.2,
        blueprint.Covers value.demands :=
      List.forall_mem_map.mpr fun entry hentry => covers_initial hplanned (hvalued entry hentry).1
        (covers_legalValues (hvalued entry hentry).2)
    have hnew : blueprint.Covers (Expr.construct "Self" (valued.map fun entry => entry.1.fieldName)
        (valued.map fun entry => entry.1.initial entry.2)).demands :=
      covers_construct.mpr ⟨.fixed (by decide), hfields, hinitials⟩
    simp (disch := decide) [containerItems, -covers_construct, hnew]
  · intro entry hentry
    obtain ⟨hmem, hcomplete⟩ := List.mem_filter.mp hentry
    obtain ⟨hvalidator, hvalues⟩ := hvalued entry hmem
    exact covers_check hplanned hvalidator
      (covers_membership hvalidator hcomplete hvalues (covers_legalValues hvalues))

end Validators

end Blueprint
end CommandBuffer
