import CommandBuffer.Proofs.Bundles
import CommandBuffer.Proofs.Spelling.Coverage
import CommandBuffer.Artifact.Bundle

/-! # What the artifacts hold

Whatever the definition supplies, its names stand in the artifacts. So a finished artifact shows
that they can be spelled, and one that is read back shows where they can stand.
-/

namespace CommandBuffer

open Code Success

namespace Code

theorem Stmt.mem_listDemands {stmts : List Stmt} {stmt : Stmt} {demand : Demand}
    (hstmt : stmt ∈ stmts) (hdemand : demand ∈ stmt.demands) : demand ∈ Stmt.listDemands stmts := by
  induction stmts with
  | nil => cases hstmt
  | cons first rest ih =>
    rcases List.mem_cons.mp hstmt with rfl | hmem
    · exact List.mem_append_left _ hdemand
    · exact List.mem_append_right _ (ih hmem)

theorem Stmt.exists_of_mem_listDemands {stmts : List Stmt} {demand : Demand}
    (hdemand : demand ∈ Stmt.listDemands stmts) : ∃ stmt ∈ stmts, demand ∈ stmt.demands := by
  induction stmts with
  | nil => cases hdemand
  | cons first rest ih =>
    rcases List.mem_append.mp hdemand with h | h
    · exact ⟨first, List.mem_cons_self, h⟩
    · obtain ⟨stmt, hstmt, hmem⟩ := ih h
      exact ⟨stmt, List.mem_cons_of_mem _ hstmt, hmem⟩

theorem Function.mem_demands {function : Function} {stmt : Stmt} {demand : Demand}
    (hstmt : stmt ∈ function.body) (hdemand : demand ∈ stmt.demands) :
    demand ∈ function.demands :=
  List.mem_append_right _ (Stmt.mem_listDemands hstmt hdemand)

theorem Function.name_mem_demands {function : Function} :
    .named .plain function.signature.name ∈ function.demands := by
  simp [Function.demands, Signature.demands]

end Code

namespace Blueprint

variable {blueprint : Blueprint} {demand : Demand} {title : String} {contents : List String}

theorem mem_demands_file {items : List Item} {item : Item} (hitem : item ∈ items)
    (hdemand : demand ∈ item.demands) : demand ∈ (blueprint.file title contents items).demands :=
  List.mem_flatMap_of_mem (List.mem_cons_of_mem _ hitem) hdemand

/-- The functions of a file that implements a type. -/
theorem mem_demands_functions {trait? : Option Name} {target : Name} {functions : List Function}
    {function : Function} (hfunction : function ∈ functions) (hdemand : demand ∈ function.demands) :
    demand ∈ (blueprint.file title contents
      [.implement trait? target (functions.map .function)]).demands :=
  mem_demands_file List.mem_cons_self (List.mem_append_right _
    (List.mem_flatMap_of_mem (List.mem_map_of_mem hfunction) hdemand))

theorem importable_mem_demands {items : List Item} :
    .importable blueprint.support ∈ (blueprint.file title contents items).demands :=
  List.mem_flatMap_of_mem List.mem_cons_self List.mem_cons_self

/-! ## The client -/

theorem method_mem_demands {record : Record} (hrecord : record ∈ blueprint.records)
    (hpublic : record.isPublic = true) :
    .named .plain record.method ∈ (Interface.file blueprint).demands := by
  refine mem_demands_file List.mem_cons_self (List.mem_cons_of_mem _ ?_)
  refine List.mem_flatMap_of_mem
    (List.mem_map_of_mem (List.mem_filter.mpr ⟨hrecord, hpublic⟩)) ?_
  exact List.mem_cons_self

theorem interface_mem_demands :
    .named .plain (blueprint.protocolType "Interface") ∈ (Interface.file blueprint).demands :=
  mem_demands_file List.mem_cons_self List.mem_cons_self

theorem writerName_mem_demands {command : Command} (hcommand : command ∈ blueprint.commands)
    {target : Name} :
    .named .plain command.writerName ∈ (blueprint.file title contents [.implement none target
      (blueprint.commands.map fun command => .function command.writer)]).demands := by
  have hmembers : blueprint.commands.map (fun command => Member.function command.writer) =
      (blueprint.commands.map Command.writer).map .function := List.map_map.symm
  rw [hmembers]
  exact mem_demands_functions (List.mem_map_of_mem hcommand) Function.name_mem_demands

theorem resource_mem_demands {record : Record} {command : Command} {resource : String}
    (hentry : (record, command) ∈ Marshaling.entries blueprint)
    (hkept : record.packing.keepsIds = true) (hresource : record.resource = some resource) :
    .named .segment (.verbatim resource) ∈ (blueprint.file title contents
      [.implement none (blueprint.protocolType "Implementation")
        ((Marshaling.functions blueprint).map .function)]).demands := by
  have hkeeper : .named .segment (.verbatim resource) ∈
      (Marshaling.keeper record resource).demands := by
    simp [Marshaling.keeper, Marshaling.namespacePath, Expr.send, Expr.demands, Expr.listDemands,
      Expr.pathDemands, Demand.names]
  have hbody : .named .segment (.verbatim resource) ∈
      Stmt.listDemands (Marshaling.bookkeeping record command) := by
    unfold Marshaling.bookkeeping
    cases hpacking : record.packing with
    | genN isUnshared | create isUnshared =>
      cases isUnshared <;>
        simp [hresource, Stmt.listDemands, Stmt.demands, Expr.send, Expr.demands, hkeeper]
    | delN => simp [hresource, Stmt.listDemands, Stmt.demands, Expr.send, Expr.demands, hkeeper]
    | noCommand | direct | custom | put | putN | getN | is =>
      rw [hpacking] at hkept
      cases hkept
  obtain ⟨stmt, hstmt, hdemand⟩ := Stmt.exists_of_mem_listDemands hbody
  refine mem_demands_functions (List.mem_map.mpr ⟨(record, command), hentry, rfl⟩)
    (Function.mem_demands ?_ hdemand)
  simp only [Marshaling.function, List.mem_append, List.mem_cons]
  exact .inl (.inl (.inr hstmt))

/-! ## The service -/

variable {command : Command}

theorem decoder_mem_demands : .named .plain (.escaped command.record.decoderName) ∈
    (Handler.function blueprint.validators command).demands := by
  have hcall : .named .plain (.escaped command.record.decoderName) ∈
      (Handler.call command).demands := by
    simp [Handler.call, Expr.send, Expr.demands]
  have hdispatch : ∃ stmt ∈ Handler.dispatch command,
      .named .plain (.escaped command.record.decoderName) ∈ stmt.demands := by
    unfold Handler.dispatch
    cases command.record.strategy <;> simp [Stmt.demands, Expr.demands, hcall]
  obtain ⟨stmt, hstmt, hdemand⟩ := hdispatch
  refine Function.mem_demands ?_ hdemand
  simp only [Handler.function, List.mem_append, List.mem_cons]
  exact .inr hstmt

theorem flag_mem_demands {flag : String} (hflag : command.record.featureFlag = some flag) :
    .named .plain (.escaped flag) ∈ (Handler.function blueprint.validators command).demands := by
  have hgate : ∃ stmt ∈ Handler.gate command, .named .plain (.escaped flag) ∈ stmt.demands := by
    simp [Handler.gate, hflag, Stmt.demands, Expr.demands]
  obtain ⟨stmt, hstmt, hdemand⟩ := hgate
  refine Function.mem_demands ?_ hdemand
  simp only [Handler.function, List.mem_append, List.mem_cons]
  exact .inl (.inl hstmt)

theorem validatorField_mem_demands {validator : Validator}
    (hvalidator : validator ∈ blueprint.validators.validators) :
    .named .plain validator.fieldName ∈ blueprint.validatorFile.demands := by
  refine mem_demands_file List.mem_cons_self (List.mem_cons_of_mem _ ?_)
  exact List.mem_flatMap_of_mem (List.mem_map_of_mem hvalidator) List.mem_cons_self

theorem validatorType_mem_demands {validator : Validator}
    (hvalidator : validator ∈ blueprint.validators.validators) :
    .named .plain validator.type ∈ blueprint.validatorFile.demands := by
  refine mem_demands_file (List.mem_cons_of_mem _ (List.mem_map_of_mem hvalidator)) ?_
  unfold Validator.declaration
  split
  · exact List.mem_cons_self
  · exact List.mem_cons_self

theorem check_mem_demands {validator : Validator} {values : List Expr}
    (hdemand : demand ∈ (Validator.membership values).demands) :
    demand ∈ (validator.check values).demands := by
  simp [Validator.check, Item.demands, Member.demands, Function.demands, Stmt.listDemands,
    Stmt.demands, hdemand]

/-- The table names every command struct. -/
theorem struct_mem_demands (hcommand : command ∈ blueprint.commands) :
    .named .plain command.structName ∈ (CommandTable.file blueprint).demands := by
  refine List.mem_flatMap_of_mem
    (List.mem_cons_of_mem _ (List.mem_cons_of_mem _ List.mem_cons_self)) ?_
  refine List.mem_cons_of_mem _ ?_
  rw [List.map_map]
  exact List.mem_map_of_mem hcommand

end Blueprint
end CommandBuffer
