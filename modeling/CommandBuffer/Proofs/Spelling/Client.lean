import CommandBuffer.Proofs.Spelling.Shared

/-! # Names in the artifacts of the client

The interface, the functions behind it, the writers and their tests make no demand but those that
any artifact can make. A marshaling function is a name whatever its method is called, since it
starts with a word of the generator.
-/

namespace CommandBuffer

open Code

namespace Blueprint

variable {blueprint : Blueprint} {record : Record} {command : Command} {argument : Argument}

theorem IsCovered.protocolType {place : Place} {suffix : String} (hsuffix : suffix ∈ typeSuffixes) :
    blueprint.IsCovered (.named place (blueprint.protocolType suffix)) :=
  .supplied (.protocolType hsuffix) (Name.isBare_append (by revert suffix; decide))

/-! ## The interface -/

theorem covers_clientParameters (hrecord : record ∈ blueprint.records)
    (hoffered : record.IsOffered) :
    ∀ parameter ∈ record.clientParameters, blueprint.Covers parameter.demands := by
  refine List.forall_mem_map.mpr fun param hparam => covers_parameter.mpr ⟨?_, ?_⟩
  · exact .supplied (.parameter hrecord hoffered hparam) rfl
  · exact covers_clientType (.parameter hrecord hoffered hparam)

theorem covers_clientSignature (hrecord : record ∈ blueprint.records) (hoffered : record.IsOffered)
    {name : Name} (hname : blueprint.IsCovered (.named .plain name)) :
    blueprint.Covers (record.clientSignature name).demands := by
  refine covers_signature.mpr ⟨hname, covers_clientParameters hrecord hoffered, ?_⟩
  intro type htype
  change type ∈ record.returnType.resultType? at htype
  unfold CType.resultType? at htype
  split at htype
  · cases htype
  · cases htype
    exact covers_clientType (.result hrecord hoffered)

theorem of_mem_entries (hmem : record ∈ Interface.entries blueprint) :
    record ∈ blueprint.records ∧ record.isPublic = true := List.mem_filter.mp hmem

theorem emits_interface (hplanned : blueprint.IsPlanned) :
    blueprint.Emits (fun code => blueprint.Covers code.demands) blueprint.interface := by
  refine emits_finish hplanned (fun _ h => absurd h List.not_mem_nil) (covers_file ?_)
  refine List.forall_mem_singleton.mpr (covers_interface.mpr ⟨.protocolType (by decide), ?_⟩)
  refine List.forall_mem_map.mpr fun record hmem => ?_
  obtain ⟨hrecord, hpublic⟩ := of_mem_entries hmem
  exact covers_clientSignature hrecord (.inl hpublic)
    (.supplied (.method hrecord (.inl hpublic)) rfl)

theorem IsCovered.marshalName {place : Place} (hplanned : blueprint.IsPlanned)
    (hrecord : record ∈ blueprint.records) :
    blueprint.IsCovered (.named place record.marshalName) :=
  .named (Name.isPossible_append_snakeName (by decide) (hplanned.records record hrecord))
    (Name.isBare_of_start (by decide) (by decide))

theorem IsCovered.target {place : Place} (hplanned : blueprint.IsPlanned)
    (hrecord : record ∈ blueprint.records) (hpublic : record.isPublic = true) :
    blueprint.IsCovered (.named place (Interface.target record)) := by
  unfold Interface.target
  split
  · exact .marshalName hplanned hrecord
  · rename_i hcommands
    rw [Bool.not_eq_true] at hcommands
    exact .supplied (.direct hrecord hpublic hcommands) (Name.isBare_append (by decide))

theorem emits_implementation (hplanned : blueprint.IsPlanned) :
    blueprint.Emits (fun code => blueprint.Covers code.demands) blueprint.implementation := by
  refine emits_finish hplanned (fun _ h => absurd h List.not_mem_nil) (covers_file ?_)
  refine List.forall_mem_singleton.mpr (covers_implement.mpr ⟨?_, .protocolType (by decide), ?_⟩)
  · rintro _ ⟨⟩
    exact .protocolType (by decide)
  · refine List.forall_mem_map.mpr fun record hmem => ?_
    obtain ⟨hrecord, hpublic⟩ := of_mem_entries hmem
    refine covers_function.mpr ⟨covers_clientSignature hrecord (.inl hpublic)
      (.supplied (.method hrecord (.inl hpublic)) rfl), List.forall_mem_singleton.mpr ?_⟩
    simp (disch := decide) [IsCovered.target hplanned hrecord hpublic, Record.clientParameters]
    exact fun param hparam => .supplied (.parameter hrecord (.inl hpublic) hparam) rfl

/-! ## Writers -/

section Writers

variable (hplanned : blueprint.IsPlanned) (hcommand : command ∈ blueprint.commands)

include hplanned hcommand in
theorem covers_writerParams : ∀ parameter ∈ command.writerParams,
    (∀ place, blueprint.IsCovered (.named place parameter.name)) ∧
      blueprint.Covers parameter.type.demands := by
  refine List.forall_mem_append.mpr ⟨List.forall_mem_map.mpr fun param hparam =>
    covers_param hplanned hcommand (List.mem_of_mem_filter hparam), ?_⟩
  intro parameter hparameter
  obtain ⟨⟨argument, size⟩, himmediate, rfl⟩ :=
    Option.map_eq_some_iff.mp (Option.mem_toList.mp hparameter)
  obtain ⟨index, hindex, -⟩ := Command.IsLaidOut.exists_of_immediate? himmediate
  have hargument := List.mem_of_getElem? hindex
  exact ⟨fun _ => .ident hcommand hargument, covers_argumentType hcommand hargument⟩

include hplanned hcommand in
theorem covers_initCall : blueprint.Covers command.initCall.demands := by
  simp (disch := decide) [Command.initCall]
  exact fun param hparam => (covers_param hplanned hcommand hparam).1 _

include hplanned hcommand in
theorem covers_writerBody : ∀ stmt ∈ command.writerBody, blueprint.Covers stmt.demands := by
  unfold Command.writerBody
  split
  · simp (disch := decide) [IsCovered.struct hcommand, covers_initCall hplanned hcommand]
  · rename_i argument size himmediate
    obtain ⟨index, hindex, -⟩ := Command.IsLaidOut.exists_of_immediate? himmediate
    have hident : ∀ {place}, blueprint.IsCovered (.named place argument.ident) :=
      .ident hcommand (List.mem_of_getElem? hindex)
    refine List.forall_mem_append.mpr ⟨?_, ?_⟩
    · cases size <;> simp (disch := decide) [Command.countBinding, hident]
    · simpa (disch := decide) [IsCovered.struct hcommand, covers_initCall hplanned hcommand, hident]
        using covers_paramCount? hplanned hcommand

include hplanned in
theorem emits_writers : blueprint.Emits (fun code => blueprint.Covers code.demands)
    blueprint.writers := by
  refine emits_finish hplanned (fun _ h => absurd h List.not_mem_nil) (covers_file ?_)
  refine List.forall_mem_singleton.mpr (covers_implement.mpr
    ⟨fun _ h => (by cases h), .protocolType (by decide), List.forall_mem_map.mpr ?_⟩)
  intro command hcommand
  refine covers_function.mpr ⟨covers_signature.mpr ⟨.supplied (.writer hcommand) rfl,
    fun parameter hparameter => ?_, fun _ h => (by cases h)⟩, covers_writerBody hplanned hcommand⟩
  obtain ⟨hname, htype⟩ := covers_writerParams hplanned hcommand parameter hparameter
  exact covers_parameter.mpr ⟨hname _, htype⟩

end Writers

/-! ## Marshaling functions -/

section Marshaling

open Marshaling

variable (hplanned : blueprint.IsPlanned)

theorem covers_report {code : Name} {function message : String}
    (hcode : blueprint.IsCovered (.named .segment code)) :
    blueprint.Covers (report code function message).demands := by
  simp (disch := decide) [report, hcode]

theorem covers_bail : blueprint.Covers (bail record).demands := by
  unfold bail
  split <;> simp (disch := decide)

theorem covers_refuse {message : String} :
    ∀ stmt ∈ refuse record message, blueprint.Covers stmt.demands :=
  List.forall_mem_cons.mpr ⟨covers_report (.fixed (by decide)),
    List.forall_mem_singleton.mpr covers_bail⟩

theorem covers_keepFirst {length : Expr} (hcommand : command ∈ blueprint.commands)
    (hargument : argument ∈ command.arguments) (hlength : blueprint.Covers length.demands) :
    blueprint.Covers (keepFirst record argument length).demands := by
  have hident : ∀ {place}, blueprint.IsCovered (.named place argument.ident) :=
    .ident hcommand hargument
  have hgetter : ∀ isConst : Bool, blueprint.IsCovered
      (.named .plain (if isConst then "get" else "get_mut" : Name)) := fun isConst => by
    cases isConst <;> exact .fixed (by decide)
  simpa (disch := decide) [keepFirst, hident, hlength, hgetter] using covers_refuse

include hplanned in
theorem covers_checks (hcommand : command ∈ blueprint.commands)
    (hargument : argument ∈ command.arguments) :
    ∀ stmt ∈ checks record command argument, blueprint.Covers stmt.demands := by
  have hident : ∀ {place}, blueprint.IsCovered (.named place argument.ident) :=
    .ident hcommand hargument
  unfold checks
  split
  · rename_i counter units hsize
    have hcounter : ∀ {place}, blueprint.IsCovered (.named place (command.argumentIdent counter)) :=
      .counter hplanned hcommand hargument hsize
    refine List.forall_mem_cons.mpr ⟨?_, List.forall_mem_singleton.mpr
      (covers_keepFirst hcommand hargument ?_)⟩
    · simpa (disch := decide) [hcounter, Expr.exposed] using covers_refuse
    · unfold countedLength
      split <;> simp (disch := decide) [hcounter, Expr.exposed]
  · exact List.forall_mem_singleton.mpr (covers_keepFirst hcommand hargument covers_number)
  · simpa (disch := decide) [hident] using covers_refuse
  · simp
  · simp

theorem covers_idArguments (hcommand : command ∈ blueprint.commands) :
    ∀ value ∈ idArguments command, blueprint.Covers value.demands := by
  intro value hvalue
  obtain ⟨argument, hfound, rfl⟩ := Option.map_eq_some_iff.mp (Option.mem_toList.mp hvalue)
  have hargument := List.mem_of_find?_eq_some hfound
  simp [IsCovered.ident hcommand hargument]

theorem covers_bookkeeping (hentry : (record, command) ∈ Marshaling.entries blueprint)
    (hcommand : command ∈ blueprint.commands) :
    ∀ stmt ∈ bookkeeping record command, blueprint.Covers stmt.demands := by
  have hkeeper : ∀ {resource}, record.resource = some resource → record.packing.keepsIds = true →
      blueprint.Covers (keeper record resource).demands := by
    intro resource hresource hkept
    have hname := IsCovered.resource hentry hkept hresource
    unfold keeper
    split <;> simp (disch := decide) [namespacePath, hname]
  have hids := covers_idArguments hcommand
  unfold bookkeeping
  split
  case h_6 => simp
  all_goals
    rename_i resource hresource hpacking
    have hkept := hkeeper hresource (by rw [hpacking]; rfl)
    simp (disch := decide) [hkept]
  all_goals exact hids

include hplanned in
theorem covers_transfer (hcommand : command ∈ blueprint.commands)
    (hargument : argument ∈ command.arguments) :
    ∀ stmt ∈ transfer record command argument, blueprint.Covers stmt.demands := by
  have hlocation : ∀ index ∈ argument.layout.fields, ∀ place,
      blueprint.IsCovered (.named place (command.fieldIdent index)) :=
    fun index hindex place => .location hplanned hcommand hargument hindex
  have hident : ∀ {place}, blueprint.IsCovered (.named place argument.ident) :=
    .ident hcommand hargument
  unfold transfer
  cases hlayout : argument.layout with
  | shm id offset size =>
    simp only [hlayout, Layout.fields, List.mem_cons, List.not_mem_nil, or_false,
      forall_eq_or_imp, forall_eq] at hlocation
    simp (disch := decide) [hlocation, hident, covers_bail]
    exact covers_report (.fixed (by decide))
  | bucket id size =>
    simp only [hlayout, Layout.fields, List.mem_singleton, forall_eq] at hlocation
    simp (disch := decide) [hlocation, hident]
  | word | split | immediate | result => simp

theorem covers_resultLocation : ∀ stmt ∈ resultLocation, blueprint.Covers stmt.demands := by
  simp (disch := decide) [resultLocation]

include hplanned in
theorem covers_write (hcommand : command ∈ blueprint.commands) :
    blueprint.Covers (write command).demands := by
  have hname : blueprint.IsCovered (.named .plain command.writerName) :=
    .supplied (.writer hcommand) rfl
  simp (disch := decide) [write, hname]
  exact fun parameter hparameter => (covers_writerParams hplanned hcommand parameter hparameter).1 _

theorem covers_wait : blueprint.Covers wait.demands := by
  simp (disch := decide) [wait]

include hplanned in
theorem covers_finish (hrecord : record ∈ blueprint.records)
    (hmarshaled : record.isMarshaled = true) (hcommand : command ∈ blueprint.commands) :
    ∀ stmt ∈ finish record command, blueprint.Covers stmt.demands := by
  have hwrite := covers_write hplanned hcommand
  unfold finish
  split
  · have hlast : ∀ argument ∈ command.arguments.getLast?,
        (∀ place, blueprint.IsCovered (.named place argument.ident)) ∧
          blueprint.Covers argument.valueType.demands := fun argument hargument =>
      have hmem := List.mem_of_getLast? hargument
      ⟨fun _ => .ident hcommand hmem, covers_argumentType hcommand hmem⟩
    simp only [List.forall_mem_append, List.forall_mem_cons]
    refine ⟨⟨⟨?_, fun _ h => absurd h List.not_mem_nil⟩, covers_resultLocation⟩, hwrite,
      covers_wait, ?_, fun _ h => absurd h List.not_mem_nil⟩
    · cases hresult : command.arguments.getLast? with
      | none => simp (disch := decide)
      | some result => simp (disch := decide) [(hlast result hresult).2]
    · cases hresult : command.arguments.getLast? with
      | none => simp (disch := decide)
      | some result => simp (disch := decide) [(hlast result hresult).1]
  · simp only [List.forall_mem_append, List.forall_mem_cons]
    refine ⟨covers_resultLocation, hwrite, covers_wait, ?_, fun _ h => absurd h List.not_mem_nil⟩
    simp (disch := decide) [covers_valueType (.result hrecord (.inr hmarshaled))]
  · simp (disch := decide) [hwrite]
  all_goals exact List.forall_mem_singleton.mpr hwrite

theorem covers_trace {implementation : Name} :
    blueprint.Covers (trace implementation record).demands := by
  simp (disch := decide) [trace]

theorem of_mem_marshalingEntries (hentry : (record, command) ∈ Marshaling.entries blueprint) :
    record.isMarshaled = true ∧ record ∈ blueprint.records ∧ command ∈ blueprint.commands := by
  obtain ⟨hmem, hrecord, hcommand⟩ :=
    mem_of_preferredCommand? (fun _ => List.mem_of_mem_filter) hentry
  exact ⟨(List.mem_filter.mp hmem).2, hrecord, hcommand⟩

include hplanned in
theorem covers_marshalingFunction (hentry : (record, command) ∈ Marshaling.entries blueprint)
    (implementation : Name) :
    blueprint.Covers (Marshaling.function implementation record command).demands := by
  obtain ⟨hmarshaled, hrecord, hcommand⟩ := of_mem_marshalingEntries hentry
  refine covers_function.mpr ⟨covers_clientSignature hrecord (.inr hmarshaled)
    (.marshalName hplanned hrecord), ?_⟩
  simp only [Marshaling.function, List.cons_append, List.forall_mem_cons, List.forall_mem_append]
  refine ⟨covers_trace, ⟨⟨?_, covers_bookkeeping hentry hcommand⟩, ?_⟩,
    covers_finish hplanned hrecord hmarshaled hcommand⟩
  · intro stmt hstmt
    obtain ⟨argument, hargument, hstmt⟩ := List.mem_flatMap.mp hstmt
    exact covers_checks hplanned hcommand hargument stmt hstmt
  · intro stmt hstmt
    obtain ⟨argument, hargument, hstmt⟩ := List.mem_flatMap.mp hstmt
    exact covers_transfer hplanned hcommand hargument stmt hstmt

include hplanned in
theorem emits_marshaling :
    blueprint.Emits (fun code => blueprint.Covers code.demands) blueprint.marshaling := by
  refine emits_finish hplanned ?_ (covers_file (List.forall_mem_singleton.mpr
    (covers_implement.mpr ⟨fun _ h => (by cases h), .protocolType (by decide), ?_⟩)))
  · intro name hname
    obtain ⟨⟨record, command⟩, hentry, hname⟩ := List.mem_filterMap.mp hname
    obtain ⟨resource, hresource, rfl⟩ := Option.map_eq_some_iff.mp hname
    obtain ⟨hmarshaled, hrecord, -⟩ := of_mem_marshalingEntries hentry
    exact fun _ => .resource hrecord hmarshaled hresource
  · simp only [List.forall_mem_map, covers_memberFunction, Marshaling.functions]
    exact fun entry hentry => covers_marshalingFunction hplanned hentry _

end Marshaling

/-! ## Tests of the marshaling functions -/

section ClientTests

open ClientTests

variable (hplanned : blueprint.IsPlanned) (hcommand : command ∈ blueprint.commands)

/-- Whatever the setup has collected can be demanded. -/
structure CoversSetup (blueprint : Blueprint) (setup : ClientTests.Setup) : Prop where
  bindings : ∀ stmt ∈ setup.bindings, blueprint.Covers stmt.demands
  arguments : ∀ value ∈ setup.arguments, blueprint.Covers value.demands
  data : ∀ data ∈ setup.data, ∀ place, blueprint.IsCovered (.named place data)

theorem coversSetup_empty : blueprint.CoversSetup {} where
  bindings := fun _ h => absurd h List.not_mem_nil
  arguments := fun _ h => absurd h List.not_mem_nil
  data := fun _ h => by cases h

include hcommand in
theorem covers_bindData (hargument : argument ∈ command.arguments) (length : Nat) :
    blueprint.Covers (bindData argument length).demands := by
  have hident : ∀ {place}, blueprint.IsCovered (.named place argument.ident) :=
    .ident hcommand hargument
  have htype := covers_argumentType hcommand hargument
  simp (disch := decide) [bindData, arrayType, countingArray, hident, htype, Expr.exposed]

include hcommand in
theorem covers_bindRoom (hargument : argument ∈ command.arguments) (length : Nat) :
    blueprint.Covers (bindRoom argument length).demands := by
  have hident : ∀ {place}, blueprint.IsCovered (.named place argument.ident) :=
    .ident hcommand hargument
  simp [bindRoom, arrayType, hident, covers_argumentType hcommand hargument]

include hplanned hcommand in
/-- An argument adds what can be demanded to the setup. -/
theorem emits_clientStage {index : Nat} (hargument : argument ∈ command.arguments)
    {setup : ClientTests.Setup} (hsetup : blueprint.CoversSetup setup) :
    blueprint.Emits (fun staged => ∀ after, staged = .ok after → blueprint.CoversSetup after)
      (stage blueprint record command index argument setup) := by
  have hident : ∀ {place}, blueprint.IsCovered (.named place argument.ident) :=
    .ident hcommand hargument
  have htype := covers_argumentType hcommand hargument
  -- Every kind of argument adds one binding, and passes a value made from its name.
  have hadded : ∀ (data : Option Name) {stmt value}, blueprint.Covers (Stmt.demands stmt) →
      blueprint.Covers (Expr.demands value) → (∀ name ∈ data, name = argument.ident) →
      blueprint.Emits (fun staged => ∀ after, staged = .ok after → blueprint.CoversSetup after)
        (Pure.pure (.ok ⟨setup.bindings ++ [stmt], setup.arguments ++ [value],
          data.or setup.data⟩) : Emission Staged) := by
    intro data stmt value hstmt hvalue hdata
    refine .pure ?_
    rintro _ ⟨⟩
    refine ⟨List.forall_mem_append.mpr ⟨hsetup.bindings, List.forall_mem_singleton.mpr hstmt⟩,
      List.forall_mem_append.mpr ⟨hsetup.arguments, List.forall_mem_singleton.mpr hvalue⟩, ?_⟩
    intro name hname place
    rcases Option.or_eq_some_iff.mp hname with hown | ⟨-, hearlier⟩
    · rw [hdata name hown]
      exact hident
    · exact hsetup.data name hearlier place
  refine (emits_requireNames (List.forall_mem_singleton.mpr fun _ =>
    .argument hcommand hargument)).bind fun _ _ =>
      (emits_requireWritable hplanned htype).bind fun _ _ => ?_
  cases argument.layout with
  | word | split =>
    refine (emits_testValue? hcommand hargument).bind ?_
    rintro (_ | value) hvalue
    · exact .pure fun _ h => by cases h
    · exact hadded none (by simp [hident, htype, hvalue value rfl])
        (by simp [hident]) (fun _ h => by cases h)
  | immediate size =>
    dsimp only
    split
    · exact hadded (some argument.ident) (covers_bindData hcommand hargument _)
        (by simp [hident]) (fun _ h => (Option.some.inj h).symm)
    · exact hadded (some argument.ident) (covers_bindRoom hcommand hargument _)
        (by simp [hident]) (fun _ h => (Option.some.inj h).symm)
  | result =>
    exact hadded none (covers_bindRoom hcommand hargument _)
      (by simp [hident]) (fun _ h => by cases h)
  | shm | bucket => exact .pure fun _ h => by cases h

include hplanned hcommand in
theorem emits_clientStageAll {index : Nat} {arguments : List Argument}
    (harguments : arguments ⊆ command.arguments) {setup : ClientTests.Setup}
    (hsetup : blueprint.CoversSetup setup) :
    blueprint.Emits (fun staged => ∀ after, staged = .ok after → blueprint.CoversSetup after)
      (stageAll blueprint record command index arguments setup) := by
  induction arguments generalizing index setup with
  | nil =>
    refine .pure ?_
    rintro _ ⟨⟩
    exact hsetup
  | cons argument rest ih =>
    rw [List.cons_subset] at harguments
    refine (emits_clientStage hplanned hcommand harguments.1 hsetup).bind ?_
    rintro (reasons | next) hnext
    · exact .pure fun _ h => by cases h
    · exact ih harguments.2 (hnext next rfl)

include hplanned hcommand in
theorem covers_clientTest (hrecord : record ∈ blueprint.records)
    (htested : record.isMarshaled = true ∧ record.hasClientTest = true)
    {setup : ClientTests.Setup} (hsetup : blueprint.CoversSetup setup) :
    blueprint.Covers (test (fixture blueprint) record command setup).demands := by
  have hmethod : ∀ {place}, blueprint.IsCovered (.named place record.method) :=
    .supplied (.method hrecord (.inr htested)) rfl
  have hcalled : blueprint.IsCovered (.named .plain (calledMethod record)) := by
    unfold calledMethod
    split
    · exact hmethod
    · exact .marshalName hplanned hrecord
  have hcall : blueprint.Covers (call record setup.arguments).demands := by
    unfold call
    dsimp only
    split
    · simpa (disch := decide) [hcalled] using hsetup.arguments
    · split
      · simpa (disch := decide) [hcalled] using hsetup.arguments
      · simpa (disch := decide) [hcalled] using hsetup.arguments
  have hexpected : ∀ param ∈ command.initParams,
      blueprint.Covers (expectedArgument param).demands := by
    intro param hparam
    have hname := (covers_param hplanned hcommand hparam).1
    unfold expectedArgument
    split <;> simp (disch := decide) [hname]
  have hfixture : ∀ {place}, blueprint.IsCovered (.named place (fixture blueprint)) :=
    .protocolType (by decide)
  refine covers_function.mpr ⟨by simp [test, hmethod], ?_⟩
  simp only [test, List.cons_append, List.forall_mem_cons, List.forall_mem_append]
  refine ⟨?_, hsetup.bindings, hcall, ?_, ?_, ?_, fun _ h => absurd h List.not_mem_nil⟩
  · simp (disch := decide) [hfixture]
  · simp (disch := decide) [IsCovered.struct hcommand]
  · simpa (disch := decide) using hexpected
  · refine covers_run.mpr (covers_expand (by simp (disch := decide)) ?_)
    cases hdata : setup.data with
    | none => simp (disch := decide) [expectedWords]
    | some data => simp (disch := decide) [expectedWords, hsetup.data data hdata]

include hplanned hcommand in
theorem emits_clientOutcome (hrecord : record ∈ blueprint.records)
    (htested : record.isMarshaled = true ∧ record.hasClientTest = true) :
    blueprint.Emits (fun outcome => ∀ test ∈ outcome.tests, blueprint.Covers test.demands)
      (outcome blueprint (fixture blueprint) record command) := by
  refine (emits_clientStageAll hplanned hcommand (List.Subset.refl _) coversSetup_empty).bind
    fun staged hstaged => ?_
  cases staged with
  | error reasons => exact .pure fun _ h => absurd h List.not_mem_nil
  | ok setup =>
    have hcovered := covers_clientTest hplanned hcommand hrecord htested (hstaged setup rfl)
    have hnames : ∀ name ∈ command.initParams.map InitParam.name, name.isPossible = false →
        blueprint.Supplies name :=
      List.forall_mem_map.mpr fun param hparam himpossible =>
        ((covers_param hplanned hcommand hparam).1 .plain).supplies hplanned rfl himpossible
    refine (emits_requireNames hnames).bind fun _ _ => ?_
    refine (emits_requireWritable hplanned hcovered).bind fun _ _ => ?_
    exact .pure (List.forall_mem_singleton.mpr hcovered)

include hplanned in
theorem emits_clientTests :
    blueprint.Emits (fun code => blueprint.Covers code.demands) blueprint.clientTests := by
  refine (emits_requireNames (List.forall_mem_singleton.mpr fun _ =>
    .protocolType (by decide))).bind fun _ _ =>
      (emits_functions (List.forall_mem_map.mpr ?_)).bind fun tests htests =>
        emits_finish hplanned (fun _ h => absurd h List.not_mem_nil) (covers_tests htests)
  rintro ⟨record, command⟩ hentry
  obtain ⟨hmem, hrecord, hcommand⟩ :=
    mem_of_preferredCommand? (fun _ => List.mem_of_mem_filter) hentry
  have htested := (List.mem_filter.mp hmem).2
  rw [Bool.and_eq_true] at htested
  exact emits_clientOutcome hplanned hcommand hrecord htested

end ClientTests

end Blueprint
end CommandBuffer
