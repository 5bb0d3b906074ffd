import CommandBuffer.Proofs.InferredStrategies
import CommandBuffer.Proofs.Marshaling.Entries

/-! # What marshaling functions give back

The signature of a marshaling function takes the result from the declaration, and so do its early
returns. The end of its body goes by the strategy: a query gives back what it reads, a creation the
id that it made, and every other function nothing. Inference ties the two to each other, an explicit
strategy does not.
-/

namespace CommandBuffer

open Code

namespace Code

namespace Stmt

mutual

/-- What the early returns inside the statement give back. -/
def givenBack : Stmt → List (Option Expr)
  | bindOr _ _ otherwise => listGivenBack otherwise
  | when _ body | whenMatches _ _ body => listGivenBack body
  | exit value => [value]
  | bind .. | assign .. | run _ | result _ | select .. => []

def listGivenBack : List Stmt → List (Option Expr)
  | [] => []
  | stmt :: rest => givenBack stmt ++ listGivenBack rest

end

theorem listGivenBack_eq_flatMap (stmts : List Stmt) :
    listGivenBack stmts = stmts.flatMap givenBack := by
  induction stmts with
  | nil => rfl
  | cons stmt rest ih => rw [listGivenBack, ih, List.flatMap_cons]

/-- The statement is the value of the block that it ends. -/
def isValue : Stmt → Bool
  | result _ | select .. => true
  | bind .. | bindOr .. | when .. | whenMatches .. | assign .. | run _ | exit _ => false

end Stmt

namespace Function

/-- What the early returns of the function give back. -/
def givenBack (function : Function) : List (Option Expr) := Stmt.listGivenBack function.body

/-- The body of the function ends in a value. -/
def EndsInValue (function : Function) : Prop :=
  function.body.getLast?.any Stmt.isValue = true

instance (function : Function) : Decidable function.EndsInValue :=
  inferInstanceAs (Decidable (_ = true))

end Function
end Code

namespace Marshaling

variable {record : Record} {command : Command} {argument : Argument} {value : Option Expr}

/-! ## Early returns -/

theorem givenBack_refuse (message : String) :
    Stmt.listGivenBack (refuse record message) = (bail record).givenBack := by
  rw [refuse, Stmt.listGivenBack, Stmt.listGivenBack, Stmt.listGivenBack, List.append_nil]
  rfl

theorem isSome_of_mem_bail (h : value ∈ (bail record).givenBack) :
    value.isSome = !record.returnType.isVoid := by
  rw [List.mem_singleton.mp h]
  cases record.returnType.isVoid <;> rfl

theorem givenBack_keepFirst (kept : Expr) :
    (keepFirst record argument kept).givenBack = (bail record).givenBack :=
  givenBack_refuse _

/-- A check that fails gives back what the declaration asks for. -/
theorem mem_bail_of_mem_checks {check : Stmt} (hcheck : check ∈ checks record command argument)
    (hvalue : value ∈ check.givenBack) : value ∈ (bail record).givenBack := by
  unfold checks at hcheck
  split at hcheck
  · rcases List.mem_pair.mp hcheck with rfl | rfl
    · rwa [Stmt.givenBack, givenBack_refuse] at hvalue
    · rwa [givenBack_keepFirst] at hvalue
  · rw [List.mem_singleton.mp hcheck, givenBack_keepFirst] at hvalue
    exact hvalue
  · rw [List.mem_singleton.mp hcheck, Stmt.givenBack, givenBack_refuse] at hvalue
    exact hvalue
  · cases hcheck
  · cases hcheck

theorem mem_bail_of_mem_transfer {move : Stmt} (hmove : move ∈ transfer record command argument)
    (hvalue : value ∈ move.givenBack) : value ∈ (bail record).givenBack := by
  unfold transfer at hmove
  split at hmove
  · rw [List.mem_singleton.mp hmove] at hvalue
    exact hvalue
  · rw [List.mem_singleton.mp hmove] at hvalue
    cases hvalue
  all_goals cases hmove

theorem givenBack_bookkeeping : (bookkeeping record command).flatMap Stmt.givenBack = [] := by
  unfold bookkeeping
  split <;> rfl

theorem givenBack_finish : (finish record command).flatMap Stmt.givenBack = [] := by
  unfold finish
  split <;> rfl

/-- An early return gives back a value exactly if the declaration has a result. -/
theorem isSome_of_mem_givenBack (implementation : Name)
    (h : value ∈ (function implementation record command).givenBack) :
    value.isSome = !record.returnType.isVoid := by
  rw [Function.givenBack, Stmt.listGivenBack_eq_flatMap, function, List.flatMap_append,
    List.flatMap_append, List.flatMap_append, givenBack_bookkeeping, givenBack_finish,
    List.append_nil, List.append_nil, List.mem_append] at h
  rcases h with hcheck | htransfer
  · obtain ⟨check, hmem, hvalue⟩ := List.mem_flatMap.mp hcheck
    rcases List.mem_cons.mp hmem with rfl | hmem
    · cases hvalue
    · obtain ⟨argument, -, hmem⟩ := List.mem_flatMap.mp hmem
      exact isSome_of_mem_bail (mem_bail_of_mem_checks hmem hvalue)
  · obtain ⟨move, hmem, hvalue⟩ := List.mem_flatMap.mp htransfer
    obtain ⟨argument, -, hmem⟩ := List.mem_flatMap.mp hmem
    exact isSome_of_mem_bail (mem_bail_of_mem_transfer hmem hvalue)

/-! ## The end of the body -/

/-- The body ends like the part that writes the command. -/
theorem getLast?_body (implementation : Name) :
    (function implementation record command).body.getLast? = (finish record command).getLast? := by
  have hfinish : finish record command ≠ [] := by
    unfold finish
    split <;> simp
  rw [function, List.getLast?_append_of_ne_nil _ hfinish]

/-- Only queries and creations end in a value. -/
theorem endsInValue_iff (implementation : Name) :
    (function implementation record command).EndsInValue ↔
      record.strategy = .is ∨ record.strategy = .create := by
  rw [Function.EndsInValue, getLast?_body, finish]
  cases record.strategy <;> simp [write, resultLocation, Stmt.isValue]

end Marshaling

/-- Inference takes a function for a query exactly if it has a result, and never for a creation. -/
theorem answers_iff_of_inferStrategy {returnType : CType} {arguments : List Param}
    {strategy : Strategy} (h : inferStrategy returnType arguments = some strategy) :
    (strategy = .is ∨ strategy = .create) ↔ returnType.isVoid = false := by
  unfold inferStrategy at h
  simp only at h
  split at h
  · cases hvoid : returnType.isVoid <;> rw [hvoid] at h <;> cases h <;> simp
  · split at h
    · cases h
    · rename_i hshape
      have hvoid : returnType.isVoid = true := by simp at hshape; exact hshape.1
      split at h
      · cases h
      · split at h
        · cases h
        · rcases trailing_cases h with rfl | rfl | ⟨rfl | rfl | rfl, -⟩ <;> simp [hvoid]

/-- The signature and the early returns of a marshaling function follow the declaration, the end of
its body the strategy. They agree exactly if the functions with a result are the queries and the
creations, as they are where the strategy is inferred. -/
theorem Protocol.results_declared_iff {protocol : Protocol} {blueprint : Blueprint}
    (hrecords : protocol.records = .ok blueprint.records)
    (hcommands : protocol.commands blueprint.records = .ok blueprint.commands) {record : Record}
    (hrecord : record ∈ blueprint.records) (hmarshaled : record.isMarshaled = true) :
    ∃ function, (Marshaling.functions blueprint).filter (·.signature.name = record.marshalName)
        = [function] ∧
      function.signature.result.isSome = (!record.returnType.isVoid) ∧
      (∀ value ∈ function.givenBack, value.isSome = !record.returnType.isVoid) ∧
      (function.EndsInValue ↔ record.strategy = .is ∨ record.strategy = .create) ∧
      ((function.EndsInValue ↔ record.returnType.isVoid = false) ↔
        ((record.strategy = .is ∨ record.strategy = .create) ↔ record.returnType.isVoid = false)) ∧
      (inferStrategy record.returnType record.arguments = some record.strategy →
        (function.EndsInValue ↔ record.returnType.isVoid = false)) := by
  obtain ⟨command, -, hfunction⟩ :=
    Marshaling.exists_function hrecords hcommands hrecord hmarshaled
  let implementation := blueprint.protocolType "Implementation"
  have hends : (Marshaling.function implementation record command).EndsInValue ↔ _ :=
    Marshaling.endsInValue_iff implementation
  refine ⟨_, hfunction, ?_, fun value => Marshaling.isSome_of_mem_givenBack implementation, hends,
    iff_congr hends Iff.rfl, fun hinferred => hends.trans (answers_iff_of_inferStrategy hinferred)⟩
  change record.returnType.resultType?.isSome = _
  rw [CType.resultType?]
  cases record.returnType.isVoid <;> rfl

/-! ## Queries with and without a result -/

def pollDirectives : Override := { name := "Poll", strategy := some .is, decoder := some "poll" }

/-- The first function is explicitly a query, the second is inferred to be one. -/
def pollProtocol : Protocol where
  name := "Poll"
  filePrefix := "poll"
  description := "Queries"
  commandBase := 256
  supportPath := "crate::support"
  types := {}
  overrides := ⟨[pollDirectives, { name := "IsSync", decoder := some "is_sync" }]⟩
  functions := "void Poll();
GLboolean IsSync(GLuint sync);"

def pollRecord : Record :=
  .merge { name := "Poll", returnType := .void, params := [], line := 1 } pollDirectives [] .is
    [.shm]

def syncParams : List Param := [⟨{ base := "GLuint" }, "sync"⟩]

def isSyncRecord : Record :=
  .merge ⟨"IsSync", { base := "GLboolean" }, syncParams, 2⟩
    { name := "IsSync", decoder := some "is_sync" } syncParams .is [.shm]

def pollCommand : Command where
  record := pollRecord
  transfer := .shm
  name := "Poll"
  id := 256
  fields := [⟨"result_shm_id", .u32⟩, ⟨"result_shm_offset", .u32⟩]
  arguments := []
  count := none
  result := some ⟨0, 1⟩
  clientId := none

def isSyncCommand : Command where
  record := isSyncRecord
  transfer := .shm
  name := "IsSync"
  id := 257
  fields := [⟨"sync", .u32⟩, ⟨"result_shm_id", .u32⟩, ⟨"result_shm_offset", .u32⟩]
  arguments := List.zipWith Argument.mk syncParams [.word 0 .u32]
  count := none
  result := some ⟨1, 2⟩
  clientId := none

def pollBlueprint : Blueprint where
  protocol := pollProtocol
  records := [pollRecord, isSyncRecord]
  validators := {}
  commands := [pollCommand, isSyncCommand]
  support := { segments := [{ name := "crate" }, { name := "support" }] }

theorem records_poll : pollProtocol.records = .ok pollBlueprint.records := by decide +kernel

theorem commands_poll :
    pollProtocol.commands pollBlueprint.records = .ok pollBlueprint.commands := rfl

/-- The inferred query ends in the value that it declares. -/
theorem results_declared_sync : ∃ function,
    (Marshaling.functions pollBlueprint).filter (·.signature.name = isSyncRecord.marshalName)
      = [function] ∧ function.signature.result.isSome = true ∧ function.EndsInValue := by
  have hrecord : isSyncRecord ∈ pollBlueprint.records := by decide
  obtain ⟨function, hfunction, hresult, -, -, -, hinferred⟩ :=
    Protocol.results_declared_iff records_poll commands_poll hrecord rfl
  exact ⟨function, hfunction, hresult, (hinferred rfl).mpr rfl⟩

/-- The explicit query ends in a value although its function is declared without a result. -/
theorem undeclared_result_of_poll :
    pollProtocol.records = .ok pollBlueprint.records ∧
    pollProtocol.commands pollBlueprint.records = .ok pollBlueprint.commands ∧
    pollRecord ∈ pollBlueprint.records ∧ pollRecord.isMarshaled = true ∧
    pollRecord.returnType.isVoid = true ∧
    ∃ function, (Marshaling.functions pollBlueprint).filter
        (·.signature.name = pollRecord.marshalName) = [function] ∧
      function.signature.result.isSome = false ∧ function.EndsInValue := by
  have hrecord : pollRecord ∈ pollBlueprint.records := by decide
  obtain ⟨command, -, hfunction⟩ :=
    Marshaling.exists_function records_poll commands_poll hrecord rfl
  exact ⟨records_poll, commands_poll, hrecord, rfl, rfl, _, hfunction, rfl,
    (Marshaling.endsInValue_iff _).mpr (.inl rfl)⟩

end CommandBuffer
