import CommandBuffer.Artifact.Marshaling
import CommandBuffer.Proofs.Reads

/-! # Plain steps

Only two kinds of calls in a marshaling function are made on what another call gives: changes of the
client ids, on their keeper, and the call of the writer. All other statements are plain. They check,
move data, or leave the function.
-/

namespace CommandBuffer

open Code

namespace Code

/-- Neither an early return inside an expression nor a call on what another call gives. -/
def Expr.isPlain : Expr → Bool
  | attempt _ | method (method ..) .. => false
  | _ => true

/-- Everything inside the statement is plain. -/
def Stmt.IsPlain (stmt : Stmt) : Prop := stmt.parts.all Expr.isPlain = true

namespace Stmt

theorem all_parts {stmts : List Stmt} (h : ∀ stmt ∈ stmts, stmt.IsPlain) :
    (stmts.flatMap parts).all Expr.isPlain = true := by
  rw [List.all_flatMap, List.all_eq_true]
  exact h

theorem all_listParts {stmts : List Stmt} (h : ∀ stmt ∈ stmts, stmt.IsPlain) :
    (listParts stmts).all Expr.isPlain = true := by
  rw [listParts_eq_flatMap]
  exact all_parts h

theorem IsPlain.when {condition : Expr} {body : List Stmt}
    (hcondition : condition.parts.all Expr.isPlain = true) (hbody : ∀ stmt ∈ body, stmt.IsPlain) :
    (Stmt.when condition body).IsPlain := by
  rw [IsPlain, parts, List.all_append, hcondition, all_listParts hbody]
  rfl

theorem IsPlain.bindOr {pattern : Pattern} {value : Expr} {otherwise : List Stmt}
    (hvalue : value.parts.all Expr.isPlain = true) (hotherwise : ∀ stmt ∈ otherwise, stmt.IsPlain) :
    (Stmt.bindOr pattern value otherwise).IsPlain := by
  rw [IsPlain, parts, List.all_append, hvalue, all_listParts hotherwise]
  rfl

end Stmt
end Code

namespace Marshaling

theorem isPlain_trace (implementation : Name) (record : Record) :
    (trace implementation record).IsPlain := by
  rw [trace, Stmt.IsPlain]
  rfl

theorem isPlain_report (code : Name) (function message : String) :
    (report code function message).IsPlain := by
  rw [report, Stmt.IsPlain]
  rfl

theorem isPlain_bail (record : Record) : (bail record).IsPlain := by
  rw [bail, Stmt.IsPlain]
  cases record.returnType.isVoid <;> rfl

theorem isPlain_refuse (record : Record) (message : String) :
    ∀ stmt ∈ refuse record message, stmt.IsPlain := by
  simp [refuse, isPlain_report, isPlain_bail]

theorem isPlain_keepFirst (record : Record) (argument : Argument) {length : Expr}
    (hlength : length.parts.all Expr.isPlain = true) :
    (keepFirst record argument length).IsPlain := by
  refine .bindOr ?_ (isPlain_refuse record _)
  rw [Expr.send, Expr.parts, Expr.listParts, Expr.listParts, Expr.parts, List.append_nil]
  exact hlength

theorem isPlain_countedLength (counter : Name) (units : Nat) :
    (countedLength counter units).parts.all Expr.isPlain = true := by
  rw [countedLength]
  split <;> rfl

/-- Checks look at counts and data only. -/
theorem isPlain_checks (record : Record) (command : Command) (argument : Argument) :
    ∀ stmt ∈ checks record command argument, stmt.IsPlain := by
  unfold checks
  split
  · rw [List.forall_mem_cons, List.forall_mem_singleton]
    exact ⟨.when rfl (isPlain_refuse record _),
      isPlain_keepFirst record argument (isPlain_countedLength _ _)⟩
  · rw [List.forall_mem_singleton]
    exact isPlain_keepFirst record argument rfl
  · rw [List.forall_mem_singleton]
    exact .when rfl (isPlain_refuse record _)
  · exact fun _ h => absurd h List.not_mem_nil
  · exact fun _ h => absurd h List.not_mem_nil

/-- Data is moved by one call, which may find no room. -/
theorem isPlain_transfer (record : Record) (command : Command) (argument : Argument) :
    ∀ stmt ∈ transfer record command argument, stmt.IsPlain := by
  unfold transfer
  split
  · rw [List.forall_mem_singleton]
    refine .bindOr rfl ?_
    rw [List.forall_mem_cons, List.forall_mem_singleton]
    exact ⟨isPlain_report _ _ _, isPlain_bail record⟩
  · rw [List.forall_mem_singleton]
    exact rfl
  all_goals exact fun _ h => absurd h List.not_mem_nil

section

variable (implementation : Name) (record : Record) (command : Command)

/-- All that stands in front of the changes of the client ids is plain. -/
theorem isPlain_early : ∀ stmt ∈ trace implementation record
    :: command.arguments.flatMap (checks record command), stmt.IsPlain := by
  rw [List.forall_mem_cons, List.forall_mem_flatMap]
  exact ⟨isPlain_trace _ _, fun argument _ => isPlain_checks record command argument⟩

theorem isPlain_transfers :
    ∀ stmt ∈ command.arguments.flatMap (transfer record command), stmt.IsPlain :=
  List.forall_mem_flatMap.mpr fun argument _ => isPlain_transfer record command argument

end

theorem isPlain_resultLocation : ∀ stmt ∈ resultLocation, stmt.IsPlain := by
  rw [resultLocation, List.forall_mem_map]
  exact fun _ _ => rfl

end Marshaling
end CommandBuffer
