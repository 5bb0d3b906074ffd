import CommandBuffer.Code.Demand
import CommandBuffer.Code.Reader

/-! # Operators in order

An expression whose operators are grouped by their levels is read back: an operator has on its left
only operators that bind at least as tightly, and on its right only those that bind more tightly. So
no two comparisons stand in a row unless one of them is an operand of the other.
-/

namespace CommandBuffer.Code

/-- The demand keeps a tree neither from being written nor from being read back. -/
def Demand.IsSound (demand : Demand) : Prop :=
  demand.isWritable = true ∧ demand.isReadable = true

namespace InfixOp

theorem level_lt (op : InfixOp) : op.level < Reader.castLevel := by
  cases op <;> decide

end InfixOp

/-! ## Comparisons in a row -/

namespace Demand

/-- Operators that bind more tightly than comparisons start and end no run. -/
theorem groups_append_of_tight {tight rest : List InfixOp} (h : ∀ op ∈ tight, 3 < op.level)
    (isCompared : Bool) : groups (tight ++ rest) isCompared = groups rest isCompared := by
  induction tight with
  | nil => rfl
  | cons op tight ih =>
    rw [List.forall_mem_cons] at h
    have hplain : op.isComparison = false ∧ (op != .both) = true ∧ (op != .either) = true := by
      have hop := h.1
      revert hop
      cases op <;> decide
    rw [List.cons_append, groups, hplain.1, hplain.2.1, hplain.2.2, Bool.and_true, Bool.and_true]
    exact ih h.2

/-- A logical operator ends the run before it. -/
theorem groups_append_of_logical {op : InfixOp} (hop : op.level < 3) (left right : List InfixOp)
    (isCompared : Bool) :
    groups (left ++ op :: right) isCompared = (groups left isCompared && groups right false) := by
  induction left generalizing isCompared with
  | nil =>
    have hlogical : op = .both ∨ op = .either := by
      revert hop
      cases op <;> decide
    rcases hlogical with rfl | rfl <;> cases isCompared <;> rfl
  | cons first left ih =>
    rw [List.cons_append, groups, groups]
    split
    · rw [ih, Bool.and_assoc]
    · exact ih _

end Demand

/-! ## Expressions as they are grouped -/

namespace Expr

/-- How tightly the parts of the expression are bound. -/
def strength : Expr → Nat
  | infixed op _ _ => op.level
  | cast .. => Reader.castLevel
  | _ => Reader.castLevel + 1

/-- An expression that can be written and is read back, with its operators in order. -/
structure IsRead (value : Expr) : Prop where
  sound : ∀ demand ∈ value.demands, demand.IsSound
  exposed : ∀ op ∈ value.exposed, value.strength ≤ op.level

namespace IsRead

variable {value left right : Expr} {op : InfixOp}

/-- Only operators leave operators exposed. -/
theorem exposed_eq_nil (h : value.IsRead) (hstrength : Reader.castLevel ≤ value.strength) :
    value.exposed = [] := by
  rw [List.eq_nil_iff_forall_not_mem]
  intro op hop
  have hexposed := h.exposed op hop
  have hlevel := op.level_lt
  omega

theorem groups_exposed (h : value.IsRead) : Demand.groups value.exposed false = true := by
  cases value with
  | infixed op left right => exact (h.sound _ List.mem_cons_self).2
  | cast => rw [h.exposed_eq_nil (Nat.le_refl _)]; rfl
  | _ => rw [h.exposed_eq_nil (Nat.le_succ _)]; rfl

theorem infixed (hleft : left.IsRead) (hright : right.IsRead) (hlevel : op.level ≤ left.strength)
    (htighter : op.level < right.strength)
    (hcompared : (op.isComparison && Reader.isComparison left) = false) :
    (Expr.infixed op left right).IsRead := by
  have hrightLevels : ∀ other ∈ right.exposed, op.level < other.level :=
    fun other hother => Nat.lt_of_lt_of_le htighter (hright.exposed other hother)
  have hleftLevels : ∀ other ∈ left.exposed, op.level ≤ other.level :=
    fun other hother => Nat.le_trans hlevel (hleft.exposed other hother)
  have hgroups : Demand.groups (left.exposed ++ op :: right.exposed) false = true := by
    rcases Nat.lt_trichotomy op.level 3 with hlogical | hcomparison | htight
    · rw [Demand.groups_append_of_logical hlogical, hleft.groups_exposed, hright.groups_exposed]
      rfl
    · -- What is compared is no comparison itself.
      have hop : op.isComparison = true := beq_iff_eq.mpr hcomparison
      rw [hop, Bool.true_and] at hcompared
      have hstrength : 3 < left.strength := by
        refine Nat.lt_of_le_of_ne (hcomparison ▸ hlevel) fun hsame => ?_
        cases left with
        | infixed first _ _ =>
          rw [Reader.isComparison, InfixOp.isComparison, beq_eq_false_iff_ne] at hcompared
          exact hcompared hsame.symm
        | _ => cases hsame
      rw [Demand.groups_append_of_tight fun other hother =>
          Nat.lt_of_lt_of_le hstrength (hleft.exposed other hother),
        Demand.groups, hop, ← List.append_nil right.exposed,
        Demand.groups_append_of_tight fun other hother => hcomparison ▸ hrightLevels other hother]
      rfl
    · rw [Demand.groups_append_of_tight fun other hother =>
          Nat.lt_of_lt_of_le htight (hleftLevels other hother),
        ← List.append_nil (op :: right.exposed), Demand.groups_append_of_tight]
      · rfl
      · rw [List.forall_mem_cons]
        exact ⟨htight, fun other hother => Nat.lt_trans htight (hrightLevels other hother)⟩
  constructor
  · rw [demands, List.forall_mem_append, List.forall_mem_cons]
    exact ⟨⟨⟨rfl, hgroups⟩, hleft.sound⟩, hright.sound⟩
  · rw [Expr.exposed, List.forall_mem_append, List.forall_mem_cons]
    exact ⟨hleftLevels, Nat.le_refl _, fun other hother => Nat.le_of_lt (hrightLevels other hother)⟩

/-- An expression without operators that no bracket encloses. -/
theorem of_exposed_eq_nil (hsound : ∀ demand ∈ value.demands, demand.IsSound)
    (hexposed : value.exposed = []) : value.IsRead :=
  ⟨hsound, by rw [hexposed]; exact fun _ h => absurd h List.not_mem_nil⟩

theorem cast {type : Ty} (h : value.IsRead) (hstrength : Reader.castLevel ≤ value.strength)
    (htype : ∀ demand ∈ type.demands, demand.IsSound) : (Expr.cast value type).IsRead := by
  refine of_exposed_eq_nil ?_ (h.exposed_eq_nil hstrength)
  rw [demands, List.forall_mem_append]
  exact ⟨h.sound, htype⟩

end IsRead

/-- The expression is read without a bracket around it wherever an operand may stand. -/
structure IsOperand (value : Expr) : Prop where
  isRead : value.IsRead
  strength : Reader.castLevel < value.strength

/-- Every one of the expressions is read. -/
def AllRead (values : List Expr) : Prop := ∀ value ∈ values, value.IsRead

theorem sound_listDemands {values : List Expr} (h : AllRead values) :
    ∀ demand ∈ listDemands values, demand.IsSound := by
  induction values with
  | nil => exact fun _ h => absurd h List.not_mem_nil
  | cons value rest ih =>
    rw [AllRead, List.forall_mem_cons] at h
    rw [listDemands, List.forall_mem_append]
    exact ⟨h.1.sound, ih h.2⟩

end Expr

end CommandBuffer.Code
