import CommandBuffer.Proofs.Reading.Reader
import CommandBuffer.Proofs.Spelling.Commands

/-! # Names in the shared artifacts

The table of command ids, the command structs and their tests make no demand but those that any
artifact can make. The test values are expressions as they were read, so they can be written and are
read back.
-/

namespace CommandBuffer

open Code

namespace Blueprint

variable {blueprint : Blueprint} {command : Command} {argument : Argument}

/-! ## The command table -/

theorem covers_commandTable : blueprint.Covers (CommandTable.file blueprint).demands := by
  have hstruct : ∀ command ∈ blueprint.commands, ∀ place,
      blueprint.IsCovered (.named place command.structName) := fun _ hcommand _ => .struct hcommand
  simp (disch := decide) [-Prod.forall, SourceFile.demands, CommandTable.file, CommandTable.firstId,
    CommandTable.size, CommandTable.enumeration, CommandTable.everyCommand, CommandTable.lookup,
    CommandTable.lookupArm, CommandTable.nameOf, CommandTable.nameArm, Command.variant,
    Command.ownVariant, or_imp, forall_and]
  exact ⟨fun command hcommand => hstruct command hcommand _,
    fun command hcommand => hstruct command hcommand _⟩

theorem emits_commandTable (hplanned : blueprint.IsPlanned) :
    blueprint.Emits (fun code => blueprint.Covers code.demands) blueprint.commandTable := by
  unfold commandTable
  split
  · exact emits_rejected
  · exact emits_finish hplanned (fun _ h => absurd h List.not_mem_nil) covers_commandTable

/-! ## Command structs -/

section CommandFormat

open CommandFormat

variable (hplanned : blueprint.IsPlanned) (hcommand : command ∈ blueprint.commands)

include hplanned hcommand in
theorem covers_declaration : blueprint.Covers (Item.struct (declaration command)).demands := by
  simp (disch := decide) [declaration, fields, IsCovered.struct hcommand, covers_storageType,
    -covers_pathType]
  exact ⟨by simp (disch := decide), fun field hfield => .field hplanned hcommand hfield⟩

include hcommand in
theorem covers_identity : ∀ member ∈ identity command, blueprint.Covers member.demands := by
  simp (disch := decide) [identity, IsCovered.struct hcommand]
  cases command.isImmediate <;> exact .fixed (by decide)

theorem covers_unitConstant? :
    ∀ constant ∈ unitConstant? command, blueprint.Covers constant.demands := by
  intro constant hconstant
  unfold unitConstant? at hconstant
  split at hconstant
  · cases hconstant
    split <;> simp (disch := decide)
  · cases hconstant

theorem covers_headerFunction {parameters : List Parameter} {value : Expr}
    (hparameters : ∀ parameter ∈ parameters, blueprint.Covers parameter.demands)
    (hvalue : blueprint.Covers value.demands) :
    blueprint.Covers (headerFunction parameters value).demands := by
  simpa (disch := decide) [-covers_parameter, headerFunction, hvalue] using hparameters

/-- The functions for data demand what their parameters, arguments and number of bytes do. -/
theorem covers_dataFunctions {parameters : List Parameter} {arguments : List Expr} {bytes : Expr}
    (hparameters : ∀ parameter ∈ parameters, blueprint.Covers parameter.demands)
    (harguments : ∀ argument ∈ arguments, blueprint.Covers argument.demands)
    (hbytes : blueprint.Covers bytes.demands) :
    ∀ function ∈ dataFunctions parameters arguments bytes, blueprint.Covers function.demands := by
  have hsize : ∀ {name : Name} {value : Expr}, blueprint.IsCovered (.named .plain name) →
      blueprint.Covers value.demands →
      blueprint.Covers (sizeFunction name parameters value).demands := by
    intro name value hname hvalue
    simpa (disch := decide) [-covers_parameter, sizeFunction, hname, hvalue] using hparameters
  refine List.forall_mem_cons.mpr ⟨hsize (.fixed (by decide)) hbytes,
    List.forall_mem_cons.mpr ⟨hsize (.fixed (by decide)) ?_, List.forall_mem_singleton.mpr
      (covers_headerFunction hparameters ?_)⟩⟩
  · simpa (disch := decide) [dataSize, CommandFormat.sizeOf, Expr.exposed] using harguments
  · simpa (disch := decide) [ownField] using harguments

include hcommand in
theorem covers_sizeFunctions : ∀ function ∈ sizeFunctions command,
    blueprint.Covers function.demands := by
  unfold sizeFunctions
  have htype : ∀ {argument size}, command.immediate? = some (argument, size) →
      blueprint.Covers argument.valueType.demands := by
    intro argument size himmediate
    obtain ⟨index, hindex, -⟩ := Command.IsLaidOut.exists_of_immediate? himmediate
    exact covers_argumentType hcommand (List.mem_of_getElem? hindex)
  split
  · exact List.forall_mem_singleton.mpr (covers_headerFunction
      (fun _ h => absurd h List.not_mem_nil) (by simp (disch := decide) [ownField]))
  all_goals
    rename_i himmediate
    refine covers_dataFunctions ?_ ?_ ?_
    all_goals simp (disch := decide) [CommandFormat.sizeOf, Expr.exposed, htype himmediate]

include hplanned hcommand in
theorem covers_store (hargument : argument ∈ command.arguments) :
    ∀ stmt ∈ store command argument, blueprint.Covers stmt.demands := by
  have hlocation : ∀ index ∈ argument.layout.fields, ∀ place,
      blueprint.IsCovered (.named place (command.fieldIdent index)) :=
    fun index hindex place => .location hplanned hcommand hargument hindex
  have hident : ∀ {place}, blueprint.IsCovered (.named place argument.ident) :=
    .ident hcommand hargument
  unfold store
  cases hlayout : argument.layout with
  | word field kind =>
    simp only [hlayout, Layout.fields, List.mem_singleton, forall_eq] at hlocation
    cases kind <;>
      simp (disch := decide) [ownField, encodeWord, hlocation, hident, covers_storageType]
  | split | shm | bucket | immediate | result =>
    simp only [hlayout, Layout.fields, List.mem_cons, List.not_mem_nil, or_false,
      forall_eq_or_imp, forall_eq] at hlocation
    simp (disch := decide) [ownField, keep, hlocation, hident, Expr.exposed]

include hplanned hcommand in
theorem covers_paramCount? : ∀ count ∈ command.paramCount?, blueprint.Covers count.demands := by
  intro count hcount
  unfold Command.paramCount? Command.dataCount? at hcount
  split at hcount
  · rename_i found counter units himmediate
    obtain ⟨index, hindex, hlayout⟩ := Command.IsLaidOut.exists_of_immediate? himmediate
    have hcounter : ∀ {place}, blueprint.IsCovered (.named place (command.argumentIdent counter)) :=
      .counter hplanned hcommand (List.mem_of_getElem? hindex) (by rw [hlayout]; rfl)
    cases hcount
    split <;> simp (disch := decide) [hcounter, Expr.exposed]
  · cases hcount
    simp (disch := decide)
  · cases hcount
    simp (disch := decide)
  · cases hcount
  · cases hcount

include hplanned hcommand in
theorem covers_init : blueprint.Covers (CommandFormat.init command).demands := by
  have hparams : ∀ param ∈ command.initParams, blueprint.Covers param.parameter.demands :=
    fun param hparam => covers_parameter.mpr
      ⟨(covers_param hplanned hcommand hparam).1 _, (covers_param hplanned hcommand hparam).2⟩
  have htrailing : ∀ field ∈ command.trailingFields, ∀ place,
      blueprint.IsCovered (.named place (command.fieldIdent field)) :=
    fun field hfield place => .trailing hplanned hcommand hfield
  refine covers_function.mpr ⟨?_, ?_⟩
  · simp (disch := decide) [CommandFormat.init]
    exact fun param hparam => covers_parameter.mp (hparams param hparam)
  · refine List.forall_mem_cons.mpr ⟨?_, List.forall_mem_append.mpr ⟨?_, ?_⟩⟩
    · simpa (disch := decide) using covers_paramCount? hplanned hcommand
    · intro stmt hstmt
      obtain ⟨argument, hargument, hstmt⟩ := List.mem_flatMap.mp hstmt
      exact covers_store hplanned hcommand hargument stmt hstmt
    · refine List.forall_mem_map.mpr fun field hfield => ?_
      simp (disch := decide) [keep, ownField, htrailing field hfield]

include hplanned hcommand in
theorem covers_accessor? (hargument : argument ∈ command.arguments) :
    ∀ function ∈ accessor? command argument, blueprint.Covers function.demands := by
  intro function hfunction
  unfold accessor? at hfunction
  split at hfunction
  · rename_i low high hlayout
    have hlow : ∀ {place}, blueprint.IsCovered (.named place (command.fieldIdent low)) :=
      .location hplanned hcommand hargument (by rw [hlayout]; exact List.mem_cons_self)
    have hhigh : ∀ {place}, blueprint.IsCovered (.named place (command.fieldIdent high)) :=
      .location hplanned hcommand hargument
        (by rw [hlayout]; exact List.mem_cons_of_mem _ List.mem_cons_self)
    cases hfunction
    simp (disch := decide) [ownField, Expr.exposed, hlow, hhigh, IsCovered.ident hcommand hargument,
      covers_argumentType hcommand hargument]
  · cases hfunction

include hplanned hcommand in
theorem covers_members : ∀ member ∈ members command, blueprint.Covers member.demands := by
  simp only [members, List.forall_mem_append, List.forall_mem_map, Option.mem_toList,
    List.map_append, covers_memberConstant, covers_memberFunction]
  refine ⟨covers_unitConstant?, ⟨covers_sizeFunctions hcommand,
    List.forall_mem_singleton.mpr (covers_init hplanned hcommand)⟩, ?_⟩
  intro function hfunction
  obtain ⟨argument, hargument, hfunction⟩ := List.mem_filterMap.mp hfunction
  exact covers_accessor? hplanned hcommand hargument function hfunction

include hplanned hcommand in
theorem covers_assertions : ∀ item ∈ assertions command, blueprint.Covers item.demands := by
  have hensure : ∀ {name : Name} {offset : Nat}, blueprint.IsCovered (.named .segment name) →
      blueprint.Covers (ensureOffset command name offset).demands := by
    intro name offset hname
    refine covers_ensure (covers_infixed.mpr ⟨.fixed rfl, covers_expand ?_ ?_, covers_number⟩)
    · simp (disch := decide)
    · simp (disch := decide) [IsCovered.struct hcommand, hname]
  refine List.forall_mem_cons.mpr ⟨covers_ensure ?_, List.forall_mem_cons.mpr
    ⟨hensure (.fixed (by decide)), List.forall_mem_map.mpr ?_⟩⟩
  · simp (disch := decide) [CommandFormat.sizeOf, Expr.exposed, IsCovered.struct hcommand]
  · rintro ⟨field, index⟩ hindexed
    exact hensure (.field hplanned hcommand
      (List.mem_of_getElem? (List.mem_zipIdx_iff_getElem?.mp hindexed)))

end CommandFormat

theorem emits_commandFormat (hplanned : blueprint.IsPlanned) :
    blueprint.Emits (fun code => blueprint.Covers code.demands) blueprint.commandFormat := by
  refine emits_finish hplanned ?_ (covers_file ?_)
  · intro name hname
    obtain ⟨command, hcommand, hname⟩ := List.mem_flatMap.mp hname
    obtain ⟨argument, hargument, rfl⟩ := List.mem_map.mp hname
    exact fun _ => .argument hcommand hargument
  · intro item hitem
    obtain ⟨command, hcommand, hitem⟩ := List.mem_flatMap.mp hitem
    have hitems : ∀ item ∈ CommandFormat.items command, blueprint.Covers item.demands := by
      refine List.forall_mem_append.mpr ⟨?_, covers_assertions hplanned hcommand⟩
      refine List.forall_mem_cons.mpr ⟨covers_declaration hplanned hcommand, ?_⟩
      simp (disch := decide) [-covers_memberConstant, IsCovered.struct hcommand]
      exact ⟨covers_identity hcommand, covers_members hplanned hcommand⟩
    exact hitems item hitem

/-! ## Test values -/

theorem covers_literalValue {function value : String} {expr : Expr}
    (h : literal function value = .ok expr) : blueprint.Covers expr.demands :=
  covers_of_isSound (isRead_of_literal h).sound

theorem covers_typedLiteral {function value base : String} {kind : ScalarKind} {expr : Expr}
    (hbase : blueprint.UsesType base) (h : typedLiteral function value kind base = .ok expr) :
    blueprint.Covers expr.demands := by
  obtain ⟨plain, hplain, h⟩ := Success.bind_eq_ok.mp h
  have hvalue : blueprint.Covers plain.demands := covers_literalValue hplain
  cases kind <;> cases Success.pure_eq_ok.mp h
  all_goals first | exact hvalue | exact covers_cast.mpr ⟨hvalue, covers_valueType hbase⟩

theorem covers_syntheticValue? {index : Nat} {kind : ScalarKind} {base : String}
    (hbase : blueprint.UsesType base) :
    ∀ value ∈ syntheticValue? index kind base, blueprint.Covers value.demands := by
  cases kind <;> simp [syntheticValue?, covers_valueType hbase]

theorem covers_testValue? {registry : Registry} {index : Nat}
    (hcommand : command ∈ blueprint.commands) (hargument : argument ∈ command.arguments)
    {found : Option Expr} (h : command.testValue? registry index argument = .ok found) :
    ∀ value ∈ found, blueprint.Covers value.demands := by
  have hbase : blueprint.UsesType argument.base := .argument hcommand hargument
  have hwritten : ∀ {function text kind found},
      some <$> typedLiteral function text kind argument.base = .ok found →
      ∀ value ∈ found, blueprint.Covers value.demands := by
    intro function text kind found h
    obtain ⟨value, hvalue, rfl⟩ := Success.map_eq_ok.mp h
    rintro _ ⟨⟩
    exact covers_typedLiteral hbase hvalue
  unfold Command.testValue? at h
  split at h
  · cases h
    simp [covers_argumentType hcommand hargument]
  · unfold Record.testValue? at h
    split at h
    · cases h
      simp
    · split at h
      · exact hwritten h
      · split at h
        · exact hwritten h
        · cases h
          exact covers_syntheticValue? hbase

theorem emits_testValue? {registry : Registry} {index : Nat}
    (hcommand : command ∈ blueprint.commands) (hargument : argument ∈ command.arguments) :
    blueprint.Emits (fun found => ∀ value ∈ found, blueprint.Covers value.demands)
      (Emission.rejecting (command.testValue? registry index argument)) :=
  emits_rejecting fun _ hfound => covers_testValue? hcommand hargument hfound

/-! ## Tests of command structs -/

section FormatTests

open FormatTests

theorem covers_values? {registry : Registry} (hcommand : command ∈ blueprint.commands)
    {location : Nat} {params : List InitParam} {values : List Expr}
    (h : values? command registry location params = .ok (some values)) :
    ∀ value ∈ values, blueprint.Covers value.demands := by
  induction params generalizing location values with
  | nil =>
    cases h
    exact fun _ h => absurd h List.not_mem_nil
  | cons param rest ih =>
    have hrest : ∀ {location} {value : Expr} {values}, blueprint.Covers value.demands →
        (values? command registry location rest >>= fun found =>
          pure (found.map (value :: ·))) = Except.ok (some values) →
        ∀ value ∈ values, blueprint.Covers value.demands := by
      intro location value values hvalue h
      obtain ⟨found, hfound, h⟩ := Success.bind_eq_ok.mp h
      obtain ⟨others, rfl, rfl⟩ := Option.map_eq_some_iff.mp (Success.pure_eq_ok.mp h)
      exact List.forall_mem_cons.mpr ⟨hvalue, ih hfound⟩
    unfold values? at h
    split at h
    case h_1 =>
      split at h
      · cases h
      · rename_i argument hargument
        obtain ⟨value, hvalue, h⟩ := Success.bind_eq_ok.mp h
        cases value with
        | none => cases Success.pure_eq_ok.mp h
        | some value =>
          exact hrest (covers_testValue? hcommand (List.mem_of_getElem? hargument) hvalue _ rfl) h
    all_goals exact hrest covers_number h

variable (hplanned : blueprint.IsPlanned) (hcommand : command ∈ blueprint.commands)

theorem covers_assertEqual {left right : Expr} (hleft : blueprint.Covers left.demands)
    (hright : blueprint.Covers right.demands) :
    blueprint.Covers (assertEqual left right).demands := by
  refine covers_run.mpr (covers_expand (by simp (disch := decide)) ?_)
  simp [hleft, hright]

include hplanned hcommand in
theorem covers_sizeCheck : blueprint.Covers (sizeCheck command).demands := by
  unfold sizeCheck
  split
  · refine covers_assertEqual (by simp (disch := decide) [header, builtField]) ?_
    simpa (disch := decide) [IsCovered.struct hcommand] using covers_paramCount? hplanned hcommand
  · refine covers_assertEqual ?_ ?_
    · simp (disch := decide) [header, builtField, Expr.exposed]
    · simp (disch := decide) [CommandFormat.sizeOf, IsCovered.struct hcommand]

include hplanned hcommand in
theorem covers_argumentChecks (hargument : argument ∈ command.arguments) :
    ∀ stmt ∈ argumentChecks command argument, blueprint.Covers stmt.demands := by
  have hkept : ∀ index ∈ argument.layout.fields,
      blueprint.Covers (kept (command.fieldIdent index)).demands := by
    intro index hindex
    have hname : ∀ {place}, blueprint.IsCovered (.named place (command.fieldIdent index)) :=
      .location hplanned hcommand hargument hindex
    refine covers_assertEqual ?_ ?_ <;> simp (disch := decide) [builtField, hname]
  have hident : ∀ {place}, blueprint.IsCovered (.named place argument.ident) :=
    .ident hcommand hargument
  unfold argumentChecks
  cases hlayout : argument.layout with
  | word field kind =>
    have hfield : ∀ {place}, blueprint.IsCovered (.named place (command.fieldIdent field)) :=
      .location hplanned hcommand hargument (by rw [hlayout]; exact List.mem_cons_self)
    refine List.forall_mem_singleton.mpr (covers_assertEqual ?_ ?_)
    · simp (disch := decide) [builtField, hfield]
    · cases kind <;> simp (disch := decide) [encodeWord, hident, covers_storageType]
  | split =>
    refine List.forall_mem_singleton.mpr (covers_assertEqual ?_ ?_) <;>
      simp (disch := decide) [hident]
  | shm | bucket | result =>
    simp only [hlayout, Layout.fields, List.mem_cons, List.not_mem_nil, or_false,
      forall_eq_or_imp, forall_eq] at hkept
    simp [hkept]
  | immediate => simp

include hplanned hcommand in
theorem covers_formatTest {values : List Expr}
    (hvalues : ∀ value ∈ values, blueprint.Covers value.demands) :
    blueprint.Covers (test command values).demands := by
  have hparam : ∀ param ∈ command.initParams, (∀ place,
      blueprint.IsCovered (.named place param.name)) ∧ blueprint.Covers param.type.demands :=
    fun param hparam => covers_param hplanned hcommand hparam
  refine covers_function.mpr ⟨?_, ?_⟩
  · have hname : blueprint.IsCovered (.named .plain (.escaped command.snakeName)) :=
      .supplied (.writer hcommand) rfl
    simp [test, hname]
  · refine List.forall_mem_append.mpr ⟨List.forall_mem_append.mpr ⟨?_, ?_⟩, ?_⟩
    · intro stmt hstmt
      rw [← List.map_uncurry_zip_eq_zipWith] at hstmt
      obtain ⟨⟨param, value⟩, hpair, rfl⟩ := List.mem_map.mp hstmt
      obtain ⟨hmem, hvalue⟩ := List.of_mem_zip hpair
      simp [Function.uncurry, bindParam, hparam param hmem, hvalues value hvalue]
    · simp only [List.forall_mem_cons]
      refine ⟨?_, ?_, ?_, covers_sizeCheck hplanned hcommand, fun _ h => absurd h List.not_mem_nil⟩
      · simp (disch := decide) [IsCovered.struct hcommand]
      · simp (disch := decide)
        exact fun param hmem => (hparam param hmem).1 _
      · refine covers_assertEqual (by simp (disch := decide) [header, builtField]) ?_
        simp (disch := decide) [IsCovered.struct hcommand]
    · refine List.forall_mem_append.mpr ⟨?_, List.forall_mem_map.mpr fun field hfield => ?_⟩
      · intro stmt hstmt
        obtain ⟨argument, hargument, hstmt⟩ := List.mem_flatMap.mp hstmt
        exact covers_argumentChecks hplanned hcommand hargument stmt hstmt
      · have hname : ∀ {place}, blueprint.IsCovered
            (.named place (.verbatim (command.fieldName field))) := by
          have hwords : ∀ text ∈ ["count", "result_shm_id", "result_shm_offset", "client_id"],
              (Name.verbatim text).isPossible = true ∧ (Name.verbatim text).isBare = false := by
            decide
          have hword := hwords _ ((hplanned.laid command hcommand).fieldName_of_trailing hfield)
          exact fun {_} => .named hword.1 hword.2
        refine covers_assertEqual ?_ ?_ <;> simp (disch := decide) [builtField, hname]

include hplanned hcommand in
theorem emits_formatTestOutcome (registry : Registry) :
    blueprint.Emits (fun outcome => ∀ test ∈ outcome.tests, blueprint.Covers test.demands)
      (outcome registry command) := by
  have hvalues : blueprint.Emits
      (fun found => ∀ values ∈ found, ∀ value ∈ values, blueprint.Covers value.demands)
      (Emission.rejecting (values? command registry firstLocation command.initParams)) := by
    refine emits_rejecting ?_
    rintro found hfound values ⟨⟩
    exact covers_values? hcommand hfound
  refine (emits_requireWritable hplanned ?_).bind fun _ _ => hvalues.bind ?_
  · refine covers_append.mpr ⟨covers_names.mpr ?_, covers_flatMap.mpr fun param hparam =>
      covers_cons.mpr ⟨(covers_param hplanned hcommand hparam).1 _,
        (covers_param hplanned hcommand hparam).2⟩⟩
    simp only [List.forall_mem_cons]
    exact ⟨.struct hcommand, .supplied (.writer hcommand) rfl,
      fun _ h => absurd h List.not_mem_nil⟩
  · rintro (_ | values) hvalues
    · exact .pure fun _ h => absurd h List.not_mem_nil
    · have htest := covers_formatTest hplanned hcommand (hvalues values rfl)
      refine (emits_requireNames ?_).bind fun _ _ => .pure (List.forall_mem_singleton.mpr htest)
      exact List.forall_mem_map.mpr fun argument hargument _ => .argument hcommand hargument

end FormatTests

/-- The tests of all outcomes are covered if those of each are. -/
theorem emits_functions {outcomes : List (Emission TestOutcome)}
    (h : ∀ outcome ∈ outcomes, blueprint.Emits
      (fun outcome => ∀ test ∈ outcome.tests, blueprint.Covers test.demands) outcome) :
    blueprint.Emits (fun tests => ∀ test ∈ tests, blueprint.Covers test.demands)
      (TestOutcome.functions outcomes) := by
  refine (emits_mapM h).bind fun written hwritten => .pure fun test htest => ?_
  obtain ⟨outcome, houtcome, htest⟩ := List.mem_flatMap.mp htest
  exact hwritten outcome houtcome test htest

theorem covers_tests {title : String} {contents : List String} {tests : List Function}
    (h : ∀ test ∈ tests, blueprint.Covers test.demands) :
    blueprint.Covers (blueprint.file title contents (tests.map .function)).demands :=
  covers_file (List.forall_mem_map.mpr h)

theorem emits_formatTests (hplanned : blueprint.IsPlanned) :
    blueprint.Emits (fun code => blueprint.Covers code.demands) blueprint.formatTests := by
  refine (emits_functions (List.forall_mem_map.mpr fun command hcommand =>
    emits_formatTestOutcome hplanned hcommand _)).bind fun tests htests => ?_
  exact emits_finish hplanned (fun _ h => absurd h List.not_mem_nil) (covers_tests htests)

end Blueprint
end CommandBuffer
