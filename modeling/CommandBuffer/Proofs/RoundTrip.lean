import CommandBuffer.Proofs.Execution.Init
import CommandBuffer.Proofs.Execution.Service
import CommandBuffer.Proofs.Records
import Mathlib

/-! # What `init` stores, a handler reads back

The client runs the assignments of `init` on a command struct, and the service runs
the first statements of a handler on the same struct. Both were emitted from the
layouts of the command, so every scalar argument reaches the service as it was.
-/

namespace CommandBuffer

open Code

variable {support : Support} {command : Command}

/-! ## The parameters of `init` -/

namespace Command

/-- The names of the parameters with their values. -/
def bindings (command : Command) (values : List (Value support)) :
    List (String × Value support) :=
  (command.initParams.zip values).map fun (param, value) => (param.name.spelling, value)

/-- The scope of `init` on a struct, with the values of its parameters. -/
def initScope (command : Command) (fields : Scope support) (values : List (Value support)) :
    Scope support :=
  Scope.setAll (fun name => if name = "self" then some (.record fields) else none)
    (command.bindings values)

/-- The name of every parameter is escaped, and nothing in it looks escaped already. -/
theorem IsNamed.escaped_of_mem_initParams (hnamed : command.IsNamed) (hlaid : command.IsLaidOut)
    {param : InitParam} (hparam : param ∈ command.initParams) :
    ∃ text, param.name = .escaped text ∧ Name.IsUnmarked text := by
  have hunsigned : ∀ field source, ∃ text,
      (InitParam.unsigned (command.fieldName field) source).name = .escaped text ∧
        Name.IsUnmarked text :=
    fun field _ => ⟨_, rfl, hnamed.fieldName hlaid field⟩
  have hcount : ∃ text, countParam.name = .escaped text ∧ Name.IsUnmarked text :=
    ⟨"count", rfl, by decide⟩
  rcases List.mem_append.mp hparam with hargument | htrailing
  · obtain ⟨⟨argument, index⟩, hmem, hparam⟩ := List.mem_flatMap.mp hargument
    have hname : Name.IsUnmarked argument.name :=
      hnamed argument (List.mem_of_getElem? (List.mem_zipIdx_iff_getElem?.mp hmem))
    cases hlayout : argument.layout <;>
      simp only [argumentParams, hlayout, List.mem_cons, List.not_mem_nil, or_false] at hparam
    case word | split =>
      rw [hparam]
      exact ⟨_, rfl, hname⟩
    case bucket =>
      rw [hparam]
      exact hunsigned _ _
    case shm | result =>
      rcases hparam with rfl | rfl <;> exact hunsigned _ _
  · simp only [trailingParams, List.mem_append, Option.mem_toList, Option.map_eq_some_iff,
      List.mem_flatMap, List.mem_cons, List.not_mem_nil, or_false] at htrailing
    rcases htrailing with ((⟨field, -, rfl⟩ | ⟨result, -, rfl | rfl⟩) | ⟨field, -, rfl⟩) | hunsized
    · exact hcount
    · exact hunsigned _ _
    · exact hunsigned _ _
    · exact hunsigned _ _
    · split at hunsized
      · rw [List.mem_singleton.mp hunsized]
        exact hcount
      · cases hunsized

/-- Different parameters are different bindings. -/
theorem IsNamed.nodup_params (hnamed : command.IsNamed) (hlaid : command.IsLaidOut)
    (hdistinct : (command.initParams.map InitParam.name).Nodup) :
    (command.initParams.map (·.name.spelling)).Nodup := by
  rw [List.Nodup, List.pairwise_map] at hdistinct ⊢
  apply hdistinct.imp_of_mem
  intro first second hfirst hsecond hne hsame
  obtain ⟨text, hname, hunmarked⟩ := hnamed.escaped_of_mem_initParams hlaid hfirst
  obtain ⟨other, hother, hotherUnmarked⟩ := hnamed.escaped_of_mem_initParams hlaid hsecond
  rw [hname, hother] at hsame hne
  exact hne (congrArg Name.escaped (Name.escaped_spelling_inj hunmarked hotherUnmarked hsame))

variable {fields : Scope support} {values : List (Value support)}

/-- Calling `init` with values of the declared types is a call as the assignments expect it. -/
theorem isCalled_initScope (hlaid : command.IsLaidOut) (hnamed : command.IsNamed)
    (hdistinct : (command.initParams.map InitParam.name).Nodup)
    (hstruct : command.IsStruct fields)
    (hvalues : List.Forall₂ command.Accepts command.initParams values) :
    command.IsCalled (command.initScope fields values) fields ∧
      ∀ param ∈ command.initParams, ∃ value, (param, value) ∈ command.initParams.zip values ∧
        command.initScope fields values param.name.spelling = some value := by
  obtain ⟨hlength, haccepts⟩ := List.forall₂_iff_zip.mp hvalues
  have hnames : (command.bindings values).map Prod.fst
      = command.initParams.map (·.name.spelling) := by
    rw [bindings, List.map_map]
    conv_rhs => rw [← List.map_fst_zip (Nat.le_of_eq hlength), List.map_map]
    rfl
  have hbound : ∀ param ∈ command.initParams, ∃ value,
      (param, value) ∈ command.initParams.zip values ∧
        command.initScope fields values param.name.spelling = some value := by
    intro param hparam
    obtain ⟨position, hposition, rfl⟩ := List.getElem_of_mem hparam
    have hlt : position < values.length := hlength ▸ hposition
    have hmem : (command.initParams[position], values[position])
        ∈ command.initParams.zip values :=
      List.mem_of_getElem? (List.getElem?_zip_eq_some.mpr
        ⟨List.getElem?_eq_getElem hposition, List.getElem?_eq_getElem hlt⟩)
    refine ⟨_, hmem, Scope.setAll_of_mem ?_ (List.mem_map.mpr ⟨_, hmem, rfl⟩)⟩
    rw [hnames]
    exact hnamed.nodup_params hlaid hdistinct
  refine ⟨⟨?_, hstruct, ?_⟩, hbound⟩
  · refine (Scope.setAll_of_not_mem ?_).trans rfl
    rw [hnames]
    intro hself
    obtain ⟨param, hparam, hname⟩ := List.mem_map.mp hself
    obtain ⟨text, htext, -⟩ := hnamed.escaped_of_mem_initParams hlaid hparam
    rw [htext] at hname
    exact Name.escaped_spelling_ne_self text hname
  · intro param hparam
    obtain ⟨value, hmem, hvalue⟩ := hbound param hparam
    exact ⟨value, hvalue, haccepts hmem⟩

/-! ## Reading back -/

/-- The reader of a 64-bit argument. -/
def accessor (command : Command) (argument : Argument) (low high : Nat) : Function where
  visibility := .everywhere
  signature :=
    { name := argument.ident, receiver := some .shared, result := some argument.valueType }
  body := [.result (joinedWords (CommandFormat.ownField (command.fieldIdent low))
    (CommandFormat.ownField (command.fieldIdent high)) argument.valueType)]

theorem accessor?_of_split {argument : Argument} {low high : Nat}
    (hlayout : argument.layout = .split low high) :
    CommandFormat.accessor? command argument = some (command.accessor argument low high) := by
  rw [CommandFormat.accessor?, hlayout]
  rfl

theorem exists_split_of_accessor? {argument : Argument} {method : Function}
    (h : CommandFormat.accessor? command argument = some method) :
    ∃ low high, argument.layout = .split low high ∧
      method = command.accessor argument low high := by
  cases hlayout : argument.layout with
  | split low high =>
    rw [accessor?_of_split hlayout] at h
    exact ⟨low, high, rfl, (Option.some.inj h).symm⟩
  | _ =>
    rw [CommandFormat.accessor?, hlayout] at h
    cases h

/-- Two scalar arguments of one name are one argument. -/
theorem argument_of_spelling (hlaid : command.IsLaidOut) (hnamed : command.IsNamed)
    (hdistinct : (command.initParams.map InitParam.name).Nodup) {index other : Nat}
    {first second : Argument} (hfirst : command.arguments[index]? = some first)
    (hsecond : command.arguments[other]? = some second)
    (hfirstScalar : first.param.type.isPointer = false)
    (hsecondScalar : second.param.type.isPointer = false)
    (hname : first.ident.spelling = second.ident.spelling) : first = second := by
  have hsame := List.inj_on_of_nodup_map (hnamed.nodup_params hlaid hdistinct)
    (hlaid.param_of_scalar hfirst hfirstScalar) (hlaid.param_of_scalar hsecond hsecondScalar) hname
  obtain rfl : index = other := InitSource.argument.inj (congrArg InitParam.source hsame)
  exact Option.some.inj (hfirst.symm.trans hsecond)

/-- The method that a handler calls for a 64-bit argument is the reader of that argument. -/
theorem find?_accessors (hlaid : command.IsLaidOut) (hnamed : command.IsNamed)
    (hdistinct : (command.initParams.map InitParam.name).Nodup) {index : Nat} {argument : Argument}
    (hargument : command.arguments[index]? = some argument) {low high : Nat}
    (hlayout : argument.layout = .split low high) :
    (CommandFormat.accessors command).find?
        (fun method => decide (method.signature.name.spelling = argument.ident.spelling))
      = some (command.accessor argument low high) := by
  have hscalar : ∀ {position : Nat} {found : Argument} {low high : Nat},
      command.arguments[position]? = some found → found.layout = .split low high →
      found.param.type.isPointer = false := fun hfound hsplit =>
    ScalarKind.isPointer_of_ofType? (hlaid.kind_of_split hfound hsplit)
  cases hfind : (CommandFormat.accessors command).find? _ with
  | none =>
    have hmem : command.accessor argument low high ∈ CommandFormat.accessors command :=
      List.mem_filterMap.mpr
        ⟨argument, List.mem_of_getElem? hargument, accessor?_of_split hlayout⟩
    exact absurd (List.find?_eq_none.mp hfind _ hmem) (by simp [accessor])
  | some method =>
    obtain ⟨found, hfound, hmethod⟩ := List.mem_filterMap.mp (List.mem_of_find?_eq_some hfind)
    obtain ⟨otherLow, otherHigh, hother, rfl⟩ := exists_split_of_accessor? hmethod
    obtain ⟨position, hposition⟩ := List.getElem?_of_mem hfound
    have hname : found.ident.spelling = argument.ident.spelling :=
      of_decide_eq_true (List.find?_some (p := fun method : Function =>
        decide (method.signature.name.spelling = argument.ident.spelling)) hfind)
    obtain rfl := argument_of_spelling hlaid hnamed hdistinct hposition hargument
      (hscalar hposition hother) (hscalar hargument hlayout) hname
    rw [hlayout] at hother
    cases hother
    rfl

/-- The statement by which a handler reads an argument binds the value to its name. -/
def Restores (command : Command) (stored : Scope support) (argument : Argument)
    (value : Value support) : Prop :=
  ∀ (accepts : String → Value support → Bool) (validators : ValidatorSet) (scope : Scope support),
    scope "c" = some (.record stored) →
    ∃ decode rest, Handler.prepare validators command argument = decode :: rest ∧
      decode.run? (Host.service command accepts) scope
        = some (.onward (scope.set argument.ident.spelling value))

variable {scope stored : Scope support} {index : Nat} {argument : Argument}

theorem restores_word (hlaid : command.IsLaidOut) {host : Host support}
    (hcalled : command.IsCalled scope fields) (hstored : command.Holds host scope stored)
    (hargument : command.arguments[index]? = some argument) {field : Nat} {kind : ScalarKind}
    (hlayout : argument.layout = .word field kind) :
    ∃ value, scope argument.ident.spelling = some value ∧
      command.Restores stored argument value := by
  have hmem := List.mem_of_getElem? hargument
  obtain ⟨hkind, hnarrow⟩ := hlaid.kind_of_word hargument hlayout
  obtain ⟨value, hvalue, hcarries⟩ := hcalled.carries hlaid hargument hkind
  obtain ⟨word, hword⟩ := hcarries.exists_word hnarrow
  have hfield : stored argument.ident.spelling = some word := by
    refine (hstored argument.ident _ ?_).trans (hword.encode host scope hvalue)
    refine List.mem_append_left _ (List.mem_flatMap.mpr ⟨argument, hmem, ?_⟩)
    rw [store_of_word hlaid hmem hlayout]
    exact List.mem_cons_self
  exact ⟨value, hvalue, fun accepts validators scope hscope =>
    ⟨Handler.decode command argument kind, _, Handler.prepare_of_word hlayout,
      hword.decode (Host.service command accepts) scope stored command hscope hfield⟩⟩

theorem restores_split (hlaid : command.IsLaidOut) (hnamed : command.IsNamed)
    (hdistinct : (command.initParams.map InitParam.name).Nodup) {host : Host support}
    (hcalled : command.IsCalled scope fields) (hstored : command.Holds host scope stored)
    (hargument : command.arguments[index]? = some argument) {low high : Nat}
    (hlayout : argument.layout = .split low high) :
    ∃ value, scope argument.ident.spelling = some value ∧
      command.Restores stored argument value := by
  have hmem := List.mem_of_getElem? hargument
  obtain ⟨value, hvalue, hcarries⟩ :=
    hcalled.carries hlaid hargument (hlaid.kind_of_split hargument hlayout)
  obtain ⟨type, n, rfl, htype, hwidth, hn⟩ := hcarries.exists_wide
  have hident : (Expr.path false [argument.ident]).value? host scope = some (.int type n) :=
    (Expr.value?_variable host scope _).trans hvalue
  have hassigned : ∀ stmt ∈ CommandFormat.store command argument,
      stmt ∈ CommandFormat.assignments command := fun stmt hstmt =>
    List.mem_append_left _ (List.mem_flatMap.mpr ⟨argument, hmem, hstmt⟩)
  rw [store_of_split hlayout] at hassigned
  have hlow := hstored _ _ (hassigned _ List.mem_cons_self)
  have hhigh := hstored _ _ (hassigned _ (List.mem_cons_of_mem _ List.mem_cons_self))
  rw [value?_lowWord host hident] at hlow
  rw [value?_highWord host hident] at hhigh
  refine ⟨.int type n, hvalue, fun accepts validators scope hscope =>
    ⟨_, _, Handler.prepare_of_split hlayout, run?_bind _ ?_⟩⟩
  have haccessor : (Host.service command accepts).accessor stored argument.ident.spelling
      = some (.int type n) := by
    rw [Host.service]
    simp only
    rw [find?_accessors hlaid hnamed hdistinct hargument hlayout, Option.bind_some]
    exact value?_joinedWords _ ((value?_field _ rfl).trans hlow)
      ((value?_field _ rfl).trans hhigh) htype hwidth hn
  have hstruct : (Expr.path false ["c"]).value? (Host.service command accepts) scope
      = some (.record stored) := hscope
  rw [Expr.send, Expr.value?, hstruct]
  exact haccessor

/-- A plain argument is restored from what `init` stored. -/
theorem restores_of_scalar (hlaid : command.IsLaidOut) (hnamed : command.IsNamed)
    (hdistinct : (command.initParams.map InitParam.name).Nodup) {host : Host support}
    (hcalled : command.IsCalled scope fields) (hstored : command.Holds host scope stored)
    (hargument : command.arguments[index]? = some argument)
    (hscalar : argument.param.type.isPointer = false) :
    ∃ value, scope argument.ident.spelling = some value ∧
      command.Restores stored argument value := by
  rcases hlaid.layout_of_scalar hargument hscalar with ⟨field, kind, hlayout⟩ | ⟨low, high, hlayout⟩
  · exact restores_word hlaid hcalled hstored hargument hlayout
  · exact restores_split hlaid hnamed hdistinct hcalled hstored hargument hlayout

end Command

/-! ## Protocols -/

namespace Protocol

variable {protocol : Protocol} {records : List Record} {commands : List Command}

theorem isNamed_of_commands (hrecords : protocol.records = .ok records)
    (hcommands : protocol.commands records = .ok commands) :
    ∀ command ∈ commands, command.IsNamed := by
  intro command hcommand argument hargument
  have hplanned := isPlanned_of_commands hcommands command hcommand
  have hbuilt := isBuilt_of_records hrecords _ hplanned.mem
  refine Name.isUnmarked_of_isIdentifier (hbuilt.isIdentifier argument.param ?_)
  rw [← (isLaidOut_of_commands hcommands command hcommand).params]
  exact List.mem_map_of_mem hargument

/-- Whatever `init` is called with, its assignments succeed, and each scalar argument is read back
by the handler as it was. -/
theorem handler_restores_arguments (hrecords : protocol.records = .ok records)
    (hcommands : protocol.commands records = .ok commands) {command : Command}
    (hcommand : command ∈ commands)
    (hdistinct : (command.initParams.map InitParam.name).Nodup)
    (support : Support) (host : Host support) (fields : Scope support)
    (hstruct : command.IsStruct fields) (values : List (Value support))
    (hvalues : List.Forall₂ command.Accepts command.initParams values) :
    ∃ stored,
      Stmt.runAll? host (command.initScope fields values) (CommandFormat.assignments command)
        = some (.onward ((command.initScope fields values).set "self" (.record stored))) ∧
      command.IsStruct stored ∧
      ∀ index argument, command.arguments[index]? = some argument →
        argument.param.type.isPointer = false →
        ∃ value, (⟨argument.ident, argument.valueType, .argument index⟩, value)
            ∈ command.initParams.zip values ∧
          command.Restores stored argument value := by
  have hlaid := isLaidOut_of_commands hcommands command hcommand
  have hnamed := isNamed_of_commands hrecords hcommands command hcommand
  obtain ⟨hcalled, hbound⟩ :=
    Command.isCalled_initScope hlaid hnamed hdistinct hstruct hvalues
  obtain ⟨stored, hrun, hstored, hholds⟩ := hcalled.runAll?_assignments host hlaid hnamed
  refine ⟨stored, hrun, hstored, fun index argument hargument hscalar => ?_⟩
  obtain ⟨value, hvalue, hrestores⟩ := Command.restores_of_scalar hlaid hnamed hdistinct hcalled
    hholds hargument hscalar
  obtain ⟨bound, hmem, hsame⟩ := hbound _ (hlaid.param_of_scalar hargument hscalar)
  obtain rfl : value = bound := Option.some.inj (hvalue.symm.trans hsame)
  exact ⟨value, hmem, hrestores⟩

end Protocol

/-! ## One scalar of each size -/

/-- A support module with three modes, on a platform with lengths of 64 bits. -/
def modeSupport : Support where
  Carrier _ := { word : UInt32 // word < 3 }
  toWire value := value.val
  fromWire _ word := if h : word < 3 then some ⟨word, h⟩ else none
  fromWire_toWire value := dif_pos value.property
  lengthWidth := 64
  lengthWidth_ge := by decide

def probeProtocol : Protocol where
  name := "Probe"
  filePrefix := "probe"
  description := "One scalar of each size"
  commandBase := 256
  supportPath := "crate::support"
  types := { types := [
    { name := "Mode", underlying := "Mode", legal := ["Mode::Off"], illegal := [] }] }
  overrides := {}
  functions := "void Probe(GLuint64 fence, Mode mode, GLbyte delta, bool enabled);"

def probeParams : List Param := [
  ⟨{ base := "GLuint64" }, "fence"⟩, ⟨{ base := "Mode", named := some ⟨0⟩ }, "mode"⟩,
  ⟨{ base := "GLbyte" }, "delta"⟩, ⟨{ base := "bool" }, "enabled"⟩]

def probeRecord : Record :=
  .merge { name := "Probe", returnType := .void, params := probeParams, line := 1 }
    { name := "Probe" } probeParams .direct [.shm]

def probeCommand : Command where
  record := probeRecord
  transfer := .shm
  name := "Probe"
  id := 256
  fields := [⟨"fence_0", .u32⟩, ⟨"fence_1", .u32⟩, ⟨"mode", .u32⟩, ⟨"delta", .i32⟩,
    ⟨"enabled", .u32⟩]
  arguments := List.zipWith Argument.mk probeParams
    [.split 0 1, .word 2 .enum, .word 3 .i32, .word 4 .bool]
  count := none
  result := none
  clientId := none

theorem records_probe : probeProtocol.records = .ok [probeRecord] := by decide +kernel

theorem commands_probe : probeProtocol.commands [probeRecord] = .ok [probeCommand] := by
  decide +kernel

def probeFields : Scope modeSupport := Scope.setAll (fun _ => none)
  [("fence_0", .int .u32 0), ("fence_1", .int .u32 0), ("mode", .int .u32 0),
    ("delta", .int .i32 0), ("enabled", .int .u32 0)]

def probeValues : List (Value modeSupport) :=
  [.int .u64 (2 ^ 63 + 5), .foreign (valuePath "Mode") ⟨2, by decide⟩, .int .i8 (-3), .boolean true]

theorem isStruct_probeFields : probeCommand.IsStruct probeFields := by
  intro field hfield
  simp only [probeCommand, List.mem_cons, List.not_mem_nil, or_false] at hfield
  rcases hfield with rfl | rfl | rfl | rfl | rfl <;> rfl

theorem accepts_probeValues :
    List.Forall₂ probeCommand.Accepts probeCommand.initParams probeValues := by
  refine .cons ⟨_, rfl, ?_⟩ (.cons ⟨_, rfl, ?_⟩ (.cons ⟨_, rfl, ?_⟩ (.cons ⟨_, rfl, ?_⟩ .nil)))
  · exact ⟨.int .u64, rfl, rfl, by decide⟩
  · exact ⟨_, rfl⟩
  · exact ⟨.int .i8, rfl, rfl, by decide⟩
  · exact ⟨.boolean, rfl, trivial⟩

theorem handler_restores_probe : ∃ stored,
      Stmt.runAll? (Host.bare modeSupport) (probeCommand.initScope probeFields probeValues)
          (CommandFormat.assignments probeCommand)
        = some (.onward ((probeCommand.initScope probeFields probeValues).set "self"
          (.record stored))) ∧
      probeCommand.IsStruct stored ∧
      ∀ index argument, probeCommand.arguments[index]? = some argument →
        argument.param.type.isPointer = false →
        ∃ value, (⟨argument.ident, argument.valueType, .argument index⟩, value)
            ∈ probeCommand.initParams.zip probeValues ∧
          probeCommand.Restores stored argument value :=
  Protocol.handler_restores_arguments records_probe commands_probe List.mem_cons_self
    (by decide) modeSupport (.bare modeSupport) probeFields isStruct_probeFields probeValues
    accepts_probeValues

end CommandBuffer
