import CommandBuffer.Proofs.InferredStrategies
import CommandBuffer.Proofs.NegativeCounts
import CommandBuffer.Proofs.Validation

/-! # Sizes of getter results

Inference recognises a getter by its last two arguments: a selector, and the pointer that the result
goes to. The handler allocates the result by a selector that it looks for among all arguments, and
takes the first that fills a single word. Both are the same argument exactly if whatever stands
before the selector fills two words.
-/

namespace CommandBuffer

open Code Success

/-- The vector that the statement makes: its variable, the initial element and the length. -/
def Code.Stmt.vector? : Stmt → Option (Name × Expr × Expr)
  | .bind (.bind true name) _ (.vector element length) => some (name, element, length)
  | _ => none

namespace Argument

/-- The argument fills one word of the command. -/
def isWord (argument : Argument) : Bool :=
  match argument.layout with
  | .word .. => true
  | _ => false

/-- The result of the service is written through the argument. -/
def isResult (argument : Argument) : Bool :=
  match argument.layout with
  | .result .. => true
  | _ => false

theorem exists_word {argument : Argument} (h : argument.isWord = true) :
    ∃ field kind, argument.layout = .word field kind := by
  unfold isWord at h
  split at h
  · rename_i field kind hlayout
    exact ⟨field, kind, hlayout⟩
  · cases h

end Argument

namespace Handler

variable {validators : ValidatorSet} {command : Command} {argument result selector first : Argument}
  {before : List Argument}

/-- The function makes one vector, for the result, whose length is that for the selector. -/
def SizesBy (function : Function) (result selector : Argument) : Prop :=
  function.body.filterMap Stmt.vector?
    = [(result.ident, .apply (valuePath result.base ++ [Name.verbatim "default"]) [],
      .send "self" "num_values" [selector.ident])]

/-! ## The one vector -/

theorem filterMap_vector?_gate : (gate command).filterMap Stmt.vector? = [] := by
  unfold gate
  split <;> rfl

theorem filterMap_vector?_scalar (kind : ScalarKind) :
    (scalar validators command argument kind).filterMap Stmt.vector? = [] := by
  rw [scalar]
  cases validators.forType? argument.param.type <;> cases kind <;> rfl

theorem filterMap_vector?_countCheck (size : DataSize) :
    (countCheck command size).filterMap Stmt.vector? = [] := by
  cases size <;> rfl

theorem filterMap_vector?_fetch : (fetch command argument).filterMap Stmt.vector? = [] := by
  unfold fetch
  split
  case h_4 | h_5 | h_6 =>
    rw [List.filterMap_append, filterMap_vector?_countCheck]
    rfl
  all_goals rfl

/-- What makes the arguments ready makes no vector. -/
theorem filterMap_vector?_prepare :
    (prepare validators command argument).filterMap Stmt.vector? = [] := by
  unfold prepare
  split
  · exact filterMap_vector?_scalar _
  · rfl
  all_goals exact filterMap_vector?_fetch

/-- A getter makes the vector of the result that it returns. -/
theorem filterMap_vector?_function (hstrategy : command.record.strategy = .getN)
    (hresult : resultArgument? command = some result) :
    (function validators command).body.filterMap Stmt.vector?
      = [(result.ident, .apply (valuePath result.base ++ [Name.verbatim "default"]) [],
        resultLength command)] := by
  have hprepare : (command.arguments.flatMap (prepare validators command)).filterMap Stmt.vector?
      = [] := by
    rw [List.filterMap_flatMap]
    exact List.flatMap_eq_nil_iff.mpr fun argument _ => filterMap_vector?_prepare
  have hdispatch : (dispatch command).filterMap Stmt.vector?
      = [(result.ident, .apply (valuePath result.base ++ [Name.verbatim "default"]) [],
        resultLength command)] := by
    rw [dispatch, hstrategy]
    simp only [resultVector, hresult]
    rfl
  have hview : [viewCommand command].filterMap Stmt.vector? = [] := rfl
  change (gate command ++ ([viewCommand command]
    ++ command.arguments.flatMap (prepare validators command)) ++ dispatch command).filterMap _ = _
  simp only [List.filterMap_append, filterMap_vector?_gate, hview, hprepare, hdispatch,
    List.nil_append]

theorem selector?_eq : selector? command = (command.arguments.find? Argument.isWord).map
    Argument.ident := by
  rw [selector?]
  induction command.arguments with
  | nil => rfl
  | cons head rest ih =>
    rw [List.findSome?_cons, List.find?_cons, ih]
    cases hlayout : head.layout <;> simp [Argument.isWord, hlayout]

theorem resultArgument?_eq (harguments : command.arguments = before ++ [result])
    (hresult : result.isResult = true) : resultArgument? command = some result := by
  have hfilter : command.arguments.filter Argument.isResult
      = before.filter Argument.isResult ++ [result] := by
    rw [harguments, List.filter_append, List.filter_singleton, hresult]
    rfl
  change (command.arguments.filter Argument.isResult).getLast? = _
  rw [hfilter, List.getLast?_concat]

theorem prepare_of_isResult (h : argument.isResult = true) :
    prepare validators command argument = [] := by
  unfold Argument.isResult at h
  split at h
  · rename_i id offset hlayout
    rw [prepare, hlayout]
    simp only [fetch, hlayout]
  · cases h

/-- The argument that the vector is sized by is the first of one word. -/
theorem sizesBy_iff (hstrategy : command.record.strategy = .getN)
    (hresult : resultArgument? command = some result)
    (hfirst : command.arguments.find? Argument.isWord = some first) :
    SizesBy (function validators command) result argument ↔ first.ident = argument.ident := by
  rw [SizesBy, filterMap_vector?_function hstrategy hresult, resultLength, selector?_eq, hfirst]
  simp [Expr.send]

end Handler

/-! ## The selector -/

/-- A getter ends in a selector and the pointer that the result goes to. -/
theorem exists_selector_of_inferStrategy {returnType : CType} {arguments : List Param}
    (h : inferStrategy returnType arguments = some .getN) :
    ∃ front selector result, arguments = front ++ [selector, result] ∧
      (∀ param ∈ front, param.type.isPointer = false) ∧ selector.isSelector = true ∧
      result.type.isPointer = true := by
  cases hasShape_of_inferStrategy h with
  | plain hplain =>
    have hnone : arguments.countP (·.type.isPointer) = 0 :=
      Record.pointerCount_eq_zero_iff.mpr hplain
    unfold inferStrategy at h
    simp only at h
    rw [if_pos hnone] at h
    split at h <;> cases h
  | trailing harguments hbefore hdepth hinfer =>
    rename_i before result
    have hselector : before.getLast?.any Param.isSelector = true := by
      unfold inferTrailing at hinfer
      split at hinfer
      · split at hinfer <;> cases hinfer
      · split at hinfer
        · split at hinfer
          · assumption
          · cases hinfer
        · split at hinfer <;> cases hinfer
    obtain ⟨selector, hlast, hselects⟩ := (Option.any_eq_true _ _).mp hselector
    obtain ⟨front, rfl⟩ := List.getLast?_eq_some_iff.mp hlast
    refine ⟨front, selector, result, by rw [harguments, List.append_assoc]; rfl, ?_, hselects,
      by simp [CType.isPointer, hdepth]⟩
    intro param hparam
    exact hbefore param (List.mem_append_left _ hparam)

/-- A record without an explicit strategy has the inferred one. -/
theorem Record.inferStrategy_of_build {registry : Registry} {declaration : Declaration}
    {directives : Override} {record : Record}
    (h : build registry declaration directives = .ok record) (hnone : directives.strategy = none) :
    inferStrategy declaration.returnType record.arguments = some record.strategy := by
  rcases ((build_iff_admits registry declaration directives).2 record h).1.chosen with
    hexplicit | ⟨-, hinferred⟩
  · rw [hnone] at hexplicit
    cases hexplicit
  · exact hinferred

namespace Command.IsLaidOut

variable {command : Command} {before : List Argument} {argument selector result : Argument}

/-- A plain argument fills a word unless its base has 64 bits. -/
theorem isWord_eq_false_iff (hlaid : command.IsLaidOut) (hargument : argument ∈ command.arguments)
    (hplain : argument.param.type.isPointer = false) :
    argument.isWord = false ↔ ScalarKind.ofBase? argument.base = some .u64 := by
  obtain ⟨index, hindex⟩ := List.getElem?_of_mem hargument
  rcases hlaid.layout_of_scalar hindex hplain with ⟨field, kind, hword⟩ | ⟨low, high, hsplit⟩
  · obtain ⟨hkind, hnarrow⟩ := hlaid.kind_of_word hindex hword
    refine iff_of_false (by simp [Argument.isWord, hword]) ?_
    intro hwide
    rw [ScalarKind.ofType?_of_ofBase? hplain hwide] at hkind
    exact hnarrow (Option.some.inj hkind).symm
  · have hwide := ScalarKind.ofBase?_of_ofType? (hlaid.kind_of_split hindex hsplit) (by simp)
    exact iff_of_true (by simp [Argument.isWord, hsplit]) hwide

theorem isWord_of_isSelector (hlaid : command.IsLaidOut) (hargument : argument ∈ command.arguments)
    (hselector : argument.param.isSelector = true) :
    argument.base = "GLenum" ∧ argument.isWord = true := by
  rw [Param.isSelector, Bool.and_eq_true, beq_iff_eq, Bool.not_eq_true'] at hselector
  obtain ⟨hbase, hplain⟩ := hselector
  refine ⟨hbase, ?_⟩
  rw [← Bool.not_eq_false, hlaid.isWord_eq_false_iff hargument hplain, Argument.base, hbase]
  decide

/-- The last pointer of a getter is the result. -/
theorem isResult_of_getN (hlaid : command.IsLaidOut) (hgetter : command.record.strategy = .getN)
    (harguments : command.arguments = before ++ [result])
    (hpointer : result.param.type.isPointer = true) : result.isResult = true := by
  have hindex : command.arguments[before.length]? = some result := by simp [harguments]
  have hlast : command.record.isResult before.length = true := by
    simp [Record.isResult, hgetter, ← hlaid.length_arguments, harguments]
  have hchosen := hlaid.chosen before.length result hindex
  unfold Argument.isResult
  generalize result.layout = layout at hchosen
  cases hchosen with
  | word hkind hnarrow =>
    rw [ScalarKind.isPointer_of_ofType? hkind] at hpointer
    cases hpointer
  | split hkind =>
    rw [ScalarKind.isPointer_of_ofType? hkind] at hpointer
    cases hpointer
  | result => rfl
  | data hpointer hresult hsize hlayout htransfer =>
    rw [hlast] at hresult
    cases hresult

/-- The first word of the arguments is the selector exactly if no argument before it is a word. -/
theorem ident_first_iff (hlaid : command.IsLaidOut)
    (harguments : command.arguments = before ++ [selector, result])
    (hselector : selector.isWord = true) {first : Argument}
    (hfirst : command.arguments.find? Argument.isWord = some first) :
    first.ident = selector.ident ↔ ∀ argument ∈ before, argument.isWord = false := by
  rw [harguments, List.find?_append] at hfirst
  cases hearlier : before.find? Argument.isWord with
  | none =>
    rw [hearlier, Option.none_or, List.find?_cons, hselector] at hfirst
    cases hfirst
    exact iff_of_true rfl fun argument hargument => by
      simpa using List.find?_eq_none.mp hearlier argument hargument
  | some earlier =>
    rw [hearlier, Option.some_or] at hfirst
    cases hfirst
    have hmem := List.mem_of_find?_eq_some hearlier
    have hword : first.isWord = true := List.find?_some hearlier
    obtain ⟨i, hi⟩ := List.getElem?_of_mem hmem
    obtain ⟨hlt, -⟩ := List.getElem?_eq_some_iff.mp hi
    have hat : command.arguments[i]? = some first := by
      rw [harguments, List.getElem?_append_left hlt, hi]
    have hbehind : command.arguments[before.length]? = some selector := by simp [harguments]
    refine iff_of_false ?_ ?_
    · intro hident
      obtain ⟨low, kind, hlayout⟩ := Argument.exists_word hword
      obtain ⟨high, other, hlayout'⟩ := Argument.exists_word hselector
      -- Two words of one name would be one argument.
      have hposition := hlaid.index_of_word hat hbehind hlayout hlayout' (Name.escaped.inj hident)
      omega
    · intro hwide
      rw [hwide first hmem] at hword
      cases hword

end Command.IsLaidOut

namespace Record

/-- A getter with an inferred strategy ends in a selector and a result, and the handler goes from
the selector right to the vector. Its length is that for the first word among the arguments, which
is the selector exactly if every argument before the selector has 64 bits. -/
theorem getter_sizes_iff (registry : Registry) (declaration : Declaration) (directives : Override)
    (record : Record) (hbuild : build registry declaration directives = .ok record)
    (hinferred : directives.strategy = none) (hgetter : record.strategy = .getN)
    (transfer : Transfer) (id : Nat) (command : Command)
    (hplan : record.plan transfer id = .ok command) (validators : ValidatorSet) :
    ∃ before selector result, command.arguments = before ++ [selector, result] ∧
      selector.base = "GLenum" ∧ selector.isWord = true ∧ result.isResult = true ∧
      (∃ front, (Handler.function validators command).body
        = front ++ Handler.prepare validators command selector ++ Handler.dispatch command) ∧
      (∃ first, (before ++ [selector]).find? Argument.isWord = some first ∧
        Handler.SizesBy (Handler.function validators command) result first) ∧
      (Handler.SizesBy (Handler.function validators command) result selector ↔
        ∀ argument ∈ before, ScalarKind.ofBase? argument.base = some .u64) := by
  have hlaid := isLaidOut_of_plan hplan
  obtain ⟨rfl, -, -⟩ := record_of_plan hplan
  have hshape := inferStrategy_of_build hbuild hinferred
  rw [hgetter] at hshape
  obtain ⟨front, pname, params, hparams, hfront, hselects, hpointer⟩ :=
    exists_selector_of_inferStrategy hshape
  rw [← hlaid.params] at hparams
  obtain ⟨before, last, harguments, rfl, hlast⟩ := List.map_eq_append_iff.mp hparams
  obtain ⟨selector, rest, rfl, rfl, hrest⟩ := List.map_eq_cons_iff.mp hlast
  obtain ⟨result, rfl, rfl⟩ := List.map_eq_singleton_iff.mp hrest
  obtain ⟨hbase, hword⟩ := hlaid.isWord_of_isSelector (by simp [harguments]) hselects
  have hconcat : command.arguments = (before ++ [selector]) ++ [result] := by
    rw [harguments, List.append_assoc]
    rfl
  have hresult := hlaid.isResult_of_getN hgetter hconcat hpointer
  have hvector := Handler.resultArgument?_eq hconcat hresult
  -- The selector is a word, so a first word exists, and the result is not one.
  obtain ⟨first, hfirst⟩ : ∃ first, (before ++ [selector]).find? Argument.isWord = some first :=
    Option.isSome_iff_exists.mp (List.find?_isSome.mpr ⟨selector, by simp, hword⟩)
  have hfound : command.arguments.find? Argument.isWord = some first := by
    rw [hconcat, List.find?_append, hfirst, Option.some_or]
  have hsizes : ∀ argument, Handler.SizesBy (Handler.function validators command) result argument ↔
      first.ident = argument.ident := fun argument => Handler.sizesBy_iff hgetter hvector hfound
  refine ⟨before, selector, result, harguments, hbase, hword, hresult, ?_,
    ⟨first, hfirst, (hsizes first).mpr rfl⟩, ?_⟩
  · refine ⟨Handler.gate command ++ Handler.viewCommand command
      :: before.flatMap (Handler.prepare validators command), ?_⟩
    have hnothing : Handler.prepare validators command result = [] :=
      Handler.prepare_of_isResult hresult
    simp only [Handler.function, harguments, List.flatMap_append, List.flatMap_cons,
      List.flatMap_nil, hnothing, List.append_nil, List.append_assoc, List.cons_append]
  · rw [hsizes, hlaid.ident_first_iff harguments hword hfound]
    refine forall₂_congr fun argument hargument => ?_
    exact hlaid.isWord_eq_false_iff (by simp [harguments, hargument])
      (hfront _ (List.mem_map_of_mem hargument))

/-! ## Getters with an argument before the selector -/

/-- The object of the first getter has 64 bits. -/
def fenceDeclaration : Declaration where
  name := "GetFenceParameters"
  returnType := .void
  params := [⟨{ base := "GLuint64" }, "fence"⟩, ⟨{ base := "GLenum" }, "pname"⟩,
    ⟨{ base := "GLint", pointerDepth := 1 }, "params"⟩]
  line := 1

def fenceDirectives : Override := { name := "GetFenceParameters" }

def fenceRecord : Record :=
  .merge fenceDeclaration fenceDirectives fenceDeclaration.params .getN [.shm]

def fenceArgument : Argument := ⟨⟨{ base := "GLuint64" }, "fence"⟩, .split 0 1⟩

def fenceCommand : Command where
  record := fenceRecord
  transfer := .shm
  name := "GetFenceParameters"
  id := 256
  fields := [⟨"fence_0", .u32⟩, ⟨"fence_1", .u32⟩, ⟨"pname", .u32⟩, ⟨"result_shm_id", .u32⟩,
    ⟨"result_shm_offset", .u32⟩]
  arguments := [fenceArgument, ⟨⟨{ base := "GLenum" }, "pname"⟩, .word 2 .u32⟩,
    ⟨⟨{ base := "GLint", pointerDepth := 1 }, "params"⟩, .result 3 4⟩]
  count := none
  result := none
  clientId := none

/-- An object of two words leaves the selector the first word. -/
theorem getter_sizes_fence :
    build {} fenceDeclaration fenceDirectives = .ok fenceRecord ∧ fenceRecord.strategy = .getN ∧
    fenceRecord.plan .shm 256 = .ok fenceCommand ∧
    ∃ selector result, fenceCommand.arguments = [fenceArgument, selector, result] ∧
      selector.base = "GLenum" ∧
      Handler.SizesBy (Handler.function {} fenceCommand) result selector := by
  obtain ⟨before, selector, result, harguments, hbase, -, -, -, -, hsizes⟩ :=
    getter_sizes_iff {} fenceDeclaration fenceDirectives fenceRecord rfl rfl rfl .shm 256
      fenceCommand rfl {}
  obtain rfl : [fenceArgument] = before := List.append_inj_left' harguments rfl
  refine ⟨rfl, rfl, rfl, selector, result, harguments, hbase, hsizes.mpr ?_⟩
  decide

/-- The object of the second getter is a name of one word. -/
def queryDeclaration : Declaration where
  name := "GetQueryObjectuiv"
  returnType := .void
  params := [⟨{ base := "GLuint" }, "id"⟩, ⟨{ base := "GLenum" }, "pname"⟩,
    ⟨{ base := "GLuint", pointerDepth := 1 }, "params"⟩]
  line := 1

def queryDirectives : Override := { name := "GetQueryObjectuiv" }

def queryRecord : Record :=
  .merge queryDeclaration queryDirectives queryDeclaration.params .getN [.shm]

def queryArgument : Argument := ⟨⟨{ base := "GLuint" }, "id"⟩, .word 0 .u32⟩

def queryPname : Argument := ⟨⟨{ base := "GLenum" }, "pname"⟩, .word 1 .u32⟩

def queryParams : Argument := ⟨⟨{ base := "GLuint", pointerDepth := 1 }, "params"⟩, .result 2 3⟩

def queryCommand : Command where
  record := queryRecord
  transfer := .shm
  name := "GetQueryObjectuiv"
  id := 256
  fields := [⟨"id", .u32⟩, ⟨"pname", .u32⟩, ⟨"result_shm_id", .u32⟩, ⟨"result_shm_offset", .u32⟩]
  arguments := [queryArgument, queryPname, queryParams]
  count := none
  result := none
  clientId := none

/-- The result is as long as the name of the object says, not as the selector does. -/
theorem getter_sized_by_object :
    build {} queryDeclaration queryDirectives = .ok queryRecord ∧
    inferStrategy queryDeclaration.returnType queryRecord.arguments = some .getN ∧
    queryRecord.plan .shm 256 = .ok queryCommand ∧
    Handler.SizesBy (Handler.function {} queryCommand) queryParams queryArgument ∧
    ¬ Handler.SizesBy (Handler.function {} queryCommand) queryParams queryPname := by
  have hfirst : queryCommand.arguments.find? Argument.isWord = some queryArgument := rfl
  have hresult : Handler.resultArgument? queryCommand = some queryParams := rfl
  refine ⟨rfl, rfl, rfl, rfl, ?_⟩
  rw [Handler.sizesBy_iff rfl hresult hfirst]
  decide

end Record
end CommandBuffer
