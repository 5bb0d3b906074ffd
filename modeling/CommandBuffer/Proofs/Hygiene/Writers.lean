import CommandBuffer.Artifact.Writers
import CommandBuffer.Proofs.Hygiene.Scopes
import CommandBuffer.Proofs.RoundTrip

/-! # Hygiene of writers

A writer takes the parameters of `init` and the data, and binds a count, the size and the reserved
space around them. It passes on what it was called with exactly if none of its parameters is called
like a later one or like one of these.
-/

namespace CommandBuffer

open Code

variable {command : Command} {argument : Argument} {size : DataSize}

namespace Command

/-- The call of `init` on the reserved space. -/
def initUse (command : Command) : Expr :=
  .send "cmd" "init" (command.initParams.map fun param => (param.name : Expr))

/-- The call that copies the data into the reserved space. -/
def copyUse (argument : Argument) : Expr :=
  .apply ["copy_immediate_data"] ["data", argument.ident]

/-- The parameters that the writer passes on to `init`. -/
def sharedBinders (command : Command) : List Binder :=
  (command.initParams.filter (·.source != .count)).map fun param => .used param.name

/-- The parameter that the writer copies. -/
def dataBinders (command : Command) : List Binder :=
  command.immediate?.toList.map fun (argument, _) => .used argument.ident

/-- The count that the writer takes from the data. -/
def countBinders : DataSize → List Binder
  | .atMost _ | .unsized => [.spent "count"]
  | .fixed _ | .counted _ _ => []

/-- What the writer binds itself. -/
def writerLocals (command : Command) : List Binder :=
  match command.immediate? with
  | none => [.spent "cmd"]
  | some (_, size) => countBinders size ++ [.spent "size", .spent "cmd", .spent "data"]

/-- The bindings of the writer, up to the call of `init`. -/
def writerBinders (command : Command) : List Binder :=
  command.sharedBinders ++ command.dataBinders ++ command.writerLocals

/-- Every use of a parameter and of a local variable in the writer refers to its own binding. -/
structure WriterIsHygienic (command : Command) : Prop where
  init : command.writer.Sees command.initUse (Binder.bindings [] command.sharedBinders)
  copied : ∀ argument size, command.immediate? = some (argument, size) →
    command.writer.Sees (copyUse argument) [argument.ident :: Binder.scope command.sharedBinders []]
  locals : command.writer.Keeps ["cmd", "size", "data"]

/-! ## What the writer calls -/

/-- The number of elements is computed without a call. -/
theorem calls_paramCount? (command : Command) :
    (Expr.listParts command.paramCount?.toList).filter Expr.isCall = [] := by
  unfold paramCount? dataCount?
  split
  · split <;> rfl
  all_goals rfl

/-- The size is computed by a call. -/
def sizeUse (command : Command) : Expr :=
  .apply [command.structName, "compute_data_size"] command.paramCount?.toList

theorem calls_sizeUse (command : Command) : command.sizeUse.calls = [command.sizeUse] := by
  rw [Expr.calls, sizeUse, Expr.apply, Expr.parts, List.filter_append, calls_paramCount?]
  rfl

/-! ## What the writer reads -/

theorem localReads_initUse (hlaid : command.IsLaidOut) (hnamed : command.IsNamed) :
    command.initUse.localReads = ["cmd"] := by
  have hnames : ∀ params ⊆ command.initParams,
      (Expr.listParts (params.map fun param => (param.name : Expr))).filterMap Expr.localName?
        = [] := by
    intro params hparams
    induction params with
    | nil => rfl
    | cons param rest ih =>
      obtain ⟨text, hname, -⟩ :=
        hnamed.escaped_of_mem_initParams hlaid (hparams List.mem_cons_self)
      rw [List.map_cons, hname]
      exact ih (List.subset_of_cons_subset hparams)
  rw [Expr.localReads, initUse, Expr.send, Expr.parts, List.filterMap_append,
    hnames _ (List.Subset.refl _)]
  rfl

theorem localReads_sizeUse (command : Command) : command.sizeUse.localReads ⊆ ["count"] := by
  unfold sizeUse paramCount? dataCount?
  split
  · split <;> exact List.nil_subset _
  · exact List.Subset.refl _
  · exact List.Subset.refl _
  · exact List.nil_subset _
  · exact List.nil_subset _

/-! ## The sites of the writer -/

theorem scope_writerParams (command : Command) :
    (command.writer.signature.parameters.map Parameter.name).reverse
      = Binder.scope (command.sharedBinders ++ command.dataBinders) [] := by
  have hnames : command.writer.signature.parameters.map Parameter.name
      = (command.sharedBinders ++ command.dataBinders).map Binder.name := by
    rw [writer, writerParams, sharedBinders, dataBinders]
    cases command.immediate? <;> simp [InitParam.parameter, Binder.used]
  rw [Binder.scope, hnames, List.append_nil]

/-- Without data, the space is reserved and the command is built there. -/
theorem sites_writer_of_none (hnone : command.immediate? = none) :
    command.writer.sites
      = [(Binder.scope (command.sharedBinders ++ command.dataBinders) [],
          .method "self" "get_cmd_space" [command.structName] [] false),
        (Binder.scope command.writerBinders [], command.initUse)] := by
  have hlocals : command.writerLocals = [.spent "cmd"] := by rw [writerLocals, hnone]
  have hbody : command.writer.body = [.whenMatches (.some (.bind false "cmd"))
      (.method "self" "get_cmd_space" [command.structName] [] false) [command.initCall]] := by
    rw [writer, writerBody, hnone]
  rw [Function.sites, scope_writerParams, hbody, writerBinders, Binder.scope_append _
    command.writerLocals, hlocals]
  rfl

/-- The count of the data, if the writer takes it. -/
def countSites (scope : List Name) (argument : Argument) : DataSize → List (List Name × Expr)
  | .atMost _ | .unsized => [(scope, .cast (Expr.send argument.ident "len" []) "u32")]
  | .fixed _ | .counted _ _ => []

/-- With data, its size is computed before the space is reserved, and the data is copied there. -/
theorem sites_writer_of_some (himmediate : command.immediate? = some (argument, size)) :
    command.writer.sites
      = countSites (Binder.scope (command.sharedBinders ++ command.dataBinders) []) argument size
        ++ [(Binder.scope (command.sharedBinders ++ command.dataBinders ++ countBinders size) [],
          command.sizeUse),
        (.verbatim "size" ::
            Binder.scope (command.sharedBinders ++ command.dataBinders ++ countBinders size) [],
          .method "self" "get_immediate_cmd_space" [command.structName] ["size"] false),
        (Binder.scope command.writerBinders [], command.initUse),
        (Binder.scope command.writerBinders [], copyUse argument)] := by
  have hlocals : command.writerLocals
      = countBinders size ++ [.spent "size", .spent "cmd", .spent "data"] := by
    rw [writerLocals, himmediate]
  have hbody : command.writer.body = countBinding argument size
      ++ [.bind (.bind false "size") none command.sizeUse,
        .whenMatches (.some (.pair (.bind false "cmd") (.bind false "data")))
          (.method "self" "get_immediate_cmd_space" [command.structName] ["size"] false)
          [command.initCall, .run (copyUse argument)]] := by
    rw [writer, writerBody, himmediate]
    rfl
  rw [Function.sites, scope_writerParams, hbody, writerBinders, hlocals, ← List.append_assoc,
    Binder.scope_append _ [_, _, _], Binder.scope_append _ (countBinders size)]
  cases size <;> rfl

/-! ## What the names of the writer refer to -/

theorem mem_countSites {scope other : List Name} {value : Expr}
    (hsite : (other, value) ∈ countSites scope argument size) :
    value = .cast (Expr.send argument.ident "len" []) "u32" := by
  cases size with
  | atMost | unsized => exact (Prod.mk.inj (List.mem_singleton.mp hsite)).2
  | fixed | counted => cases hsite

/-- A call that fills the reserved space. -/
def fillsSpace : Expr → Bool
  | .method (.path false [owner]) .. => owner == .verbatim "cmd"
  | .call (.path false [_]) .. => true
  | _ => false

/-- The reserved space is filled behind all bindings. -/
theorem scope_of_fillsSpace {site : List Name × Expr} (hsite : site ∈ command.writer.sites)
    {made : Expr} (hmade : made ∈ site.2.calls) (hfills : fillsSpace made = true) :
    site.1 = Binder.scope command.writerBinders [] := by
  cases himmediate : command.immediate? with
  | none =>
    simp only [sites_writer_of_none himmediate, List.mem_cons, List.not_mem_nil,
      or_false] at hsite
    rcases hsite with rfl | rfl
    · cases List.mem_singleton.mp hmade
      cases hfills
    · rfl
  | some found =>
    simp only [sites_writer_of_some himmediate, List.mem_append, List.mem_cons, List.not_mem_nil,
      or_false] at hsite
    rcases hsite with hcount | rfl | rfl | rfl | rfl
    · rw [mem_countSites hcount] at hmade
      cases List.mem_singleton.mp hmade
      cases hfills
    · rw [calls_sizeUse] at hmade
      cases List.mem_singleton.mp hmade
      cases hfills
    · cases List.mem_singleton.mp hmade
      cases hfills
    · rfl
    · rfl

theorem occursAt_initUse (command : Command) (scope : List Name) :
    OccursAt command.initUse command.writer.sites scope ↔
      scope = Binder.scope command.writerBinders [] := by
  refine occursAt_iff rfl rfl ⟨command.initUse, ?_, Expr.mem_parts _⟩
    (fun _ hsite _ => scope_of_fillsSpace hsite) scope
  cases himmediate : command.immediate? with
  | none => simp [sites_writer_of_none himmediate]
  | some found => simp [sites_writer_of_some himmediate]

theorem occursAt_copyUse (himmediate : command.immediate? = some (argument, size))
    (scope : List Name) :
    OccursAt (copyUse argument) command.writer.sites scope ↔
      scope = Binder.scope command.writerBinders [] :=
  occursAt_iff rfl rfl
    ⟨copyUse argument, by simp [sites_writer_of_some himmediate], Expr.mem_parts _⟩
    (fun _ hsite _ => scope_of_fillsSpace hsite) scope

/-- The local variables are bound in the innermost scope. -/
theorem keeps_writer (hlaid : command.IsLaidOut) (hnamed : command.IsNamed) :
    command.writer.Keeps ["cmd", "size", "data"] := by
  intro text htext site hsite hread
  cases himmediate : command.immediate? with
  | none =>
    simp only [sites_writer_of_none himmediate, List.mem_cons, List.not_mem_nil,
      or_false] at hsite
    rcases hsite with rfl | rfl
    · have hself : text ∈ ["self"] := hread
      rw [List.mem_singleton.mp hself] at htext
      exact absurd htext (by decide)
    · rw [localReads_initUse hlaid hnamed, List.mem_singleton] at hread
      rw [hread, writerBinders, Binder.scope_append, writerLocals, himmediate]
      exact ⟨_, Name.bound_cons_of_eq rfl⟩
  | some found =>
    have hlocals : command.writerLocals
        = countBinders found.2 ++ [.spent "size", .spent "cmd", .spent "data"] := by
      rw [writerLocals, himmediate]
    have hbehind : IsLocal text (Binder.scope command.writerBinders []) := by
      rw [writerBinders, hlocals, ← List.append_assoc, Binder.scope_append]
      simp only [List.mem_cons, List.not_mem_nil, or_false] at htext
      rcases htext with rfl | rfl | rfl <;> exact ⟨_, rfl⟩
    simp only [sites_writer_of_some himmediate, List.mem_append, List.mem_cons, List.not_mem_nil,
      or_false] at hsite
    rcases hsite with hcount | rfl | rfl | rfl | rfl
    · rw [mem_countSites hcount] at hread
      cases hread
    · rw [List.mem_singleton.mp (localReads_sizeUse command hread)] at htext
      exact absurd htext (by decide)
    · have hsize : text ∈ ["self", "size"] := hread
      simp only [List.mem_cons, List.not_mem_nil, or_false] at hsize
      rcases hsize with rfl | rfl
      · exact absurd htext (by decide)
      · exact ⟨_, Name.bound_cons_of_eq rfl⟩
    · exact hbehind
    · exact hbehind

/-- The names of the writer refer to their own bindings exactly if no parameter is called like a
later one or like what the writer binds itself. -/
theorem writerIsHygienic_iff (hlaid : command.IsLaidOut) (hnamed : command.IsNamed) :
    command.WriterIsHygienic ↔ Binder.Unshadowed command.writerBinders := by
  have hspent : ∀ outer, Binder.bindings outer command.writerLocals = [] := by
    intro outer
    unfold writerLocals
    split
    · rfl
    · rename_i size _
      cases size <;> rfl
  rw [← Binder.forall_isVisible_iff _ [], writerBinders, Binder.bindings_append, hspent,
    List.append_nil, Binder.bindings_append, List.forall_mem_append, ← writerBinders]
  constructor
  · intro h
    refine ⟨(Function.sees_iff (occursAt_initUse command)).mp h.init, ?_⟩
    cases himmediate : command.immediate? with
    | none =>
      rw [dataBinders, himmediate]
      intro binding hbinding
      cases hbinding
    | some found =>
      rw [dataBinders, himmediate]
      exact (Function.sees_iff (occursAt_copyUse himmediate)).mp (h.copied _ _ himmediate)
  · rintro ⟨hshared, hdata⟩
    refine ⟨(Function.sees_iff (occursAt_initUse command)).mpr hshared, ?_,
      keeps_writer hlaid hnamed⟩
    intro argument size himmediate
    rw [dataBinders, himmediate] at hdata
    exact (Function.sees_iff (occursAt_copyUse himmediate)).mpr hdata

end Command
end CommandBuffer
