import CommandBuffer.Proofs.Execution.Run

/-! # Filling a struct

A run of assignments to different fields of one struct, from values that do not
depend on the struct, stores each value and keeps every other field.
-/

namespace CommandBuffer.Code

variable {support : Support}

namespace Scope

theorem set_set (scope : Scope support) (name : String) (first second : Value support) :
    (scope.set name first).set name second = scope.set name second := by
  funext other
  by_cases h : other = name
  · rw [h, set_self, set_self]
  · rw [set_of_ne h, set_of_ne h, set_of_ne h]

theorem set_eq_self {scope : Scope support} {name : String} {value : Value support}
    (h : scope name = some value) : scope.set name value = scope := by
  funext other
  by_cases hother : other = name
  · rw [hother, set_self, h]
  · rw [set_of_ne hother]

end Scope

namespace Expr

/-- An expression that does not read a variable does not notice its change. -/
theorem value?_set (host : Host support) {scope : Scope support} {value : Expr} {name : String}
    {bound : Value support} (h : name ∉ value.reads) :
    value.value? host (scope.set name bound) = value.value? host scope := by
  refine value?_congr host value fun other hother => Scope.set_of_ne ?_
  rintro rfl
  exact h hother

end Expr

namespace Stmt

/-- The field that an assignment stores. -/
def storedName? : Stmt → Option String
  | assign (.field _ name) _ => some name.spelling
  | _ => none

/-- The statement stores a value of the right type in a field of the struct. -/
inductive IsStore (host : Host support) (scope fields : Scope support) : Stmt → Prop where
  | intro {name : Name} {source : Expr} {old value : Value support}
      (hold : fields name.spelling = some old) (hvalue : source.value? host scope = some value)
      (htype : old.type? = value.type?) (hself : "self" ∉ source.reads) :
      IsStore host scope fields (.assign (.field "self" name) source)

theorem IsStore.set {host : Host support} {scope fields : Scope support} {stmt : Stmt}
    {field : String} {value struct : Value support} (h : IsStore host scope fields stmt)
    (hfield : storedName? stmt ≠ some field) :
    IsStore host (scope.set "self" struct) (fields.set field value) stmt := by
  cases h with
  | intro hold hvalue htype hself =>
    refine .intro ?_ (by rw [Expr.value?_set host hself]; exact hvalue) htype hself
    rw [Scope.set_of_ne fun hsame => hfield (congrArg some hsame)]
    exact hold

/-- What a run of assignments to different fields leaves behind. -/
theorem runAll?_stores (host : Host support) {scope fields : Scope support}
    (hself : scope "self" = some (.record fields)) {stmts : List Stmt}
    (hnodup : (stmts.map storedName?).Nodup) (h : ∀ stmt ∈ stmts, IsStore host scope fields stmt) :
    ∃ stored, runAll? host scope stmts = some (.onward (scope.set "self" (.record stored))) ∧
      (∀ name source, .assign (.field "self" name) source ∈ stmts →
        stored name.spelling = source.value? host scope) ∧
      (∀ name, some name ∉ stmts.map storedName? → stored name = fields name) ∧
      ∀ name, (stored name).bind Value.type? = (fields name).bind Value.type? := by
  induction stmts generalizing scope fields with
  | nil =>
    refine ⟨fields, ?_, ?_, fun _ _ => rfl, fun _ => rfl⟩
    · rw [runAll?, Scope.set_eq_self hself]
    · intro name source hmem
      cases hmem
  | cons stmt rest ih =>
    rw [List.map_cons, List.nodup_cons] at hnodup
    have hfirst := h stmt List.mem_cons_self
    cases hfirst with
    | @intro name source old value hold hvalue htype hreads =>
      -- The other assignments are run on the struct that the first one leaves.
      have hrest : ∀ stmt ∈ rest,
          IsStore host (scope.set "self" (.record (fields.set name.spelling value)))
            (fields.set name.spelling value) stmt := by
        intro stmt hstmt
        refine (h stmt (List.mem_cons_of_mem _ hstmt)).set fun hsame => hnodup.1 ?_
        rw [← show storedName? stmt = storedName? (.assign (.field "self" name) source) from hsame]
        exact List.mem_map_of_mem hstmt
      obtain ⟨stored, hrun, hstored, hkept, htypes⟩ := ih (Scope.set_self _ _ _) hnodup.2 hrest
      refine ⟨stored, ?_, ?_, ?_, ?_⟩
      · rw [runAll?, run?, hvalue, Option.bind_some, store]
        have howner : scope (Name.spelling "self") = some (.record fields) := hself
        rw [howner]
        simp only [hold, htype, if_true, Option.bind_some]
        rw [Scope.set_set] at hrun
        exact hrun
      · intro other otherSource hmem
        rcases List.mem_cons.mp hmem with hsame | hmem
        · cases hsame
          rw [hkept _ hnodup.1, Scope.set_self, hvalue]
        · rw [hstored other otherSource hmem]
          refine Expr.value?_set host ?_
          cases h _ (List.mem_cons_of_mem _ hmem) with
          | intro _ _ _ hself => exact hself
      · intro other hother
        rw [List.map_cons, List.mem_cons, not_or] at hother
        rw [hkept other hother.2, Scope.set_of_ne fun hsame => hother.1 (congrArg some hsame)]
      · intro other
        rw [htypes other]
        by_cases hsame : other = name.spelling
        · rw [hsame, Scope.set_self, hold, Option.bind_some, Option.bind_some, htype]
        · rw [Scope.set_of_ne hsame]

end Stmt
end CommandBuffer.Code
