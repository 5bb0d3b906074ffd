import CommandBuffer.Artifact.Validators
import CommandBuffer.Proofs.Pairing
import CommandBuffer.Proofs.Reading.ReadBack
import Mathlib

/-! # Expressions of definitions inside generated code

The artifacts cast the expressions of a definition and compare them with a value, and write no
brackets around them. What is read back from the tokens casts or compares the whole expression
exactly if the operators of the expression bind tightly enough. A weaker operator takes the place of
the cast or of the comparison, which then concern an operand only.
-/

namespace CommandBuffer.Code

namespace Expr

open Reader

/-! ## Casts -/

/-- What is read back if the type is put behind the expression: a cast of its last operand. -/
def castLast (type : Ty) : Expr → Expr
  | infixed op left right => infixed op left (castLast type right)
  | value => cast value type

theorem tokens_castLast (type : Ty) (value : Expr) :
    (castLast type value).tokens = (cast value type).tokens := by
  fun_induction castLast type value with
  | case1 op left right ih =>
    rw [tokens_infixed, ih, tokens_cast, tokens_cast, tokens_infixed, List.append_assoc,
      List.append_assoc]
  | case2 => rfl

/-- Only operators bind less tightly than a cast. -/
theorem castLevel_le_strength {value : Expr} (h : ∀ op left right, value ≠ infixed op left right) :
    castLevel ≤ value.strength := by
  cases value with
  | infixed op left right => exact absurd rfl (h op left right)
  | cast => exact Nat.le_refl _
  | _ => exact Nat.le_succ _

theorem castLast_eq_cast_iff {type other : Ty} {value : Expr} :
    castLast type value = cast value other ↔ castLevel ≤ value.strength ∧ type = other := by
  fun_cases castLast type value with
  | case1 op left right =>
    have hlevel := op.level_lt
    refine ⟨fun h => ?_, fun h => absurd h.1 (Nat.not_le_of_lt hlevel)⟩
    cases h
  | case2 _ hother =>
    have hstrength := castLevel_le_strength fun op left right h => hother op left right h
    rw [cast.injEq]
    exact ⟨fun h => ⟨hstrength, h.2⟩, fun h => ⟨rfl, h.2⟩⟩

theorem strength_castLast {type : Ty} {value : Expr} :
    min value.strength castLevel ≤ (castLast type value).strength := by
  fun_cases castLast type value with
  | case1 => exact Nat.min_le_left _ _
  | case2 => exact Nat.min_le_right _ _

theorem isGrouped_castLast {isGlobal : Bool} {segments : List Name} (hne : segments ≠ [])
    (hsegments : AreSegments segments) {value : Expr} (h : value.IsGrouped) :
    (castLast (.path isGlobal segments) value).IsGrouped := by
  fun_induction castLast (.path isGlobal segments) value with
  | case1 op left right ih =>
    cases h with
    | infixed hleft hright hlevel htighter hcompared hends =>
      refine .infixed hleft (ih hright) hlevel (Nat.lt_of_lt_of_le ?_ strength_castLast) hcompared
        hends
      exact Nat.lt_min.mpr ⟨htighter, op.level_lt⟩
  | case2 value hother =>
    have hstrength := castLevel_le_strength fun op left right h => hother op left right h
    exact .cast h hstrength hne hsegments

/-! ## Disjunctions -/

/-- No operator binds less tightly than a disjunction. -/
theorem level_either_le (value : Expr) : InfixOp.either.level ≤ value.strength := by
  cases value with
  | infixed op =>
    have hop : InfixOp.either.level ≤ op.level := by cases op <;> decide
    exact hop
  | _ => exact Nat.le_add_left 1 _

/-- What the expression is a disjunction of. -/
def disjuncts : Expr → List Expr
  | infixed .either left right => disjuncts left ++ [right]
  | literal "false" => []
  | value => [value]

theorem isGrouped_of_mem_disjuncts {value disjunct : Expr} (h : value.IsGrouped)
    (hdisjunct : disjunct ∈ value.disjuncts) : disjunct.IsGrouped := by
  fun_induction disjuncts value with
  | case1 left right ih =>
    cases h with
    | infixed hleft hright =>
      rcases List.mem_append.mp hdisjunct with hmem | hmem
      · exact ih hleft hmem
      · cases List.mem_singleton.mp hmem
        exact hright
  | case2 => cases hdisjunct
  | case3 =>
    cases List.mem_singleton.mp hdisjunct
    exact h

end Expr

/-! ## Results -/

/-- What the functions of an implementation end in. -/
def Item.results : Item → List Expr
  | .implement _ _ members => members.flatMap fun
    | .function method => method.body.filterMap fun
      | .result value => some value
      | _ => none
    | .constant _ => []
  | _ => []

end CommandBuffer.Code

namespace CommandBuffer

open Code Success

/-! ## Types of arguments -/

/-- The path with its names as they are spelled. -/
def spelledPath (base : String) : List Name :=
  (valuePath base).map fun name => .verbatim name.spelling

theorem pathTokens_spelled (segments : List Name) :
    pathTokens (segments.map fun name => .verbatim name.spelling) = pathTokens segments := by
  rw [pathTokens, pathTokens, List.map_map]
  rfl

theorem tokens_spelledPath (base : String) :
    (Ty.path false (spelledPath base)).tokens = (valueType base).tokens := by
  rw [Ty.tokens, valueType, Ty.tokens, rootedPathTokens, rootedPathTokens, spelledPath,
    pathTokens_spelled]

theorem ofBase?_of_ofType? {type : CType} {kind : ScalarKind}
    (h : ScalarKind.ofType? type = some kind) (hkind : kind ≠ .enum) :
    ScalarKind.ofBase? type.base = some kind := by
  unfold ScalarKind.ofType? at h
  split at h
  · cases h
  · rw [Option.orElse_eq_orElse, Option.orElse_eq_or, Option.or_eq_some_iff] at h
    rcases h with h | ⟨-, h⟩
    · exact h
    · obtain ⟨id, -, rfl⟩ := Option.map_eq_some_iff.mp h
      exact absurd rfl hkind

open ScalarKind in
/-- The type of a scalar on the wire is a path that is read back. -/
theorem isPath_of_ofBase? {base : String} {kind : ScalarKind}
    (h : ofBase? base = some kind) :
    spelledPath base ≠ [] ∧ Reader.AreSegments (spelledPath base) := by
  have hbases : ∀ base ∈ unsignedBases ++ signedBases ++ floatBases ++ "bool" :: wideBases,
      valuePath base ≠ [] ∧ ∀ name ∈ valuePath base,
        isSpelling name.spelling.toList = true ∧ Reader.isSegment name.spelling = true := by
    decide
  have hbase : base ∈ unsignedBases ++ signedBases ++ floatBases ++ "bool" :: wideBases := by
    unfold ofBase? at h
    grind
  obtain ⟨hne, hnames⟩ := hbases base hbase
  refine ⟨fun h => hne (List.map_eq_nil_iff.mp h), fun name hmem => ?_⟩
  obtain ⟨segment, hsegment, rfl⟩ := List.mem_map.mp hmem
  exact ⟨segment.spelling, rfl, hnames segment hsegment⟩

/-! ## Typed values -/

/-- Behind an expression, the type casts the last operand that is not in brackets. -/
theorem read?_typedLiteral {function text : String} {type : CType} {kind : ScalarKind} {expr : Expr}
    (hliteral : literal function text = .ok expr) (hkind : ScalarKind.ofType? type = some kind)
    (henum : kind ≠ .enum) (hbool : kind ≠ .bool) :
    ∃ typed, typedLiteral function text kind type.base = .ok typed ∧
      Reader.read? typed.tokens
        = some (expr.castLast (.path false (spelledPath type.base))) := by
  obtain ⟨hne, hsegments⟩ := isPath_of_ofBase? (ofBase?_of_ofType? hkind henum)
  refine ⟨.cast expr (valueType type.base), ?_, ?_⟩
  · rw [typedLiteral, hliteral]
    cases kind with
    | enum => exact absurd rfl henum
    | bool => exact absurd rfl hbool
    | _ => rfl
  · have htokens : (Expr.cast expr (valueType type.base)).tokens
        = (expr.castLast (.path false (spelledPath type.base))).tokens := by
      rw [Expr.tokens_castLast, Expr.tokens_cast, Expr.tokens_cast, tokens_spelledPath]
    rw [htokens]
    exact Reader.read?_tokens
      (Expr.isGrouped_castLast hne hsegments (isGrouped_of_literal hliteral))

/-! ## Legal values -/

namespace Validator

/-- The comparison of the value with a legal one. -/
def comparison (legal : Expr) : Expr := .infixed .eq "value" legal

theorem membership_snoc (values : List Expr) (last : Expr) (hne : values ≠ []) :
    membership (values ++ [last]) = .infixed .either (membership values) (comparison last) := by
  obtain ⟨first, rest, rfl⟩ := List.exists_cons_of_ne_nil hne
  rw [List.cons_append, membership, List.foldl_append]
  rfl

/-- The check compares with each of the values, in their order. -/
theorem disjuncts_membership (values : List Expr) :
    (membership values).disjuncts = values.map comparison := by
  induction values using List.reverseRecOn with
  | nil => rfl
  | append_singleton values last ih =>
    by_cases hempty : values = []
    · subst hempty
      rfl
    · rw [membership_snoc values last hempty, Expr.disjuncts, ih, List.map_append]
      rfl

theorem isGrouped_comparison {legal : Expr} (h : legal.IsGrouped)
    (hstrength : InfixOp.eq.level < legal.strength) : (comparison legal).IsGrouped := by
  have hvalue : ("value" : Expr).IsGrouped :=
    .path (List.cons_ne_nil _ _)
      (List.forall_mem_singleton.mpr ⟨"value", rfl, by decide, by decide⟩)
  exact .infixed hvalue h (by decide) hstrength rfl fun hcast => by cases hcast

theorem isGrouped_membership {values : List Expr} (h : ∀ value ∈ values, value.IsGrouped)
    (hstrength : ∀ value ∈ values, InfixOp.eq.level < value.strength) :
    (membership values).IsGrouped := by
  induction values using List.reverseRecOn with
  | nil => exact .literal _
  | append_singleton values last ih =>
    rw [List.forall_mem_append, List.forall_mem_singleton] at h hstrength
    have hlast := isGrouped_comparison h.2 hstrength.2
    by_cases hempty : values = []
    · subst hempty
      exact hlast
    · rw [membership_snoc values last hempty]
      have hweaker : InfixOp.either.level < InfixOp.eq.level := by decide
      exact .infixed (ih h.1 hstrength.1) hlast (Expr.level_either_le _) hweaker rfl
        fun _ => by decide

theorem areSpelled_membership {values : List Expr} (h : ∀ value ∈ values, value.IsGrouped) :
    Reader.AreSpelled (membership values).tokens := by
  have hcomparison : ∀ value : Expr, value.IsGrouped →
      Reader.AreSpelled (comparison value).tokens := by
    intro value hvalue
    rw [comparison, Expr.tokens_infixed, Reader.areSpelled_append, Reader.areSpelled_append]
    exact ⟨Reader.areSpelled_word (by decide), Reader.areSpelled_operator _,
      Reader.areSpelled_tokens hvalue⟩
  induction values using List.reverseRecOn with
  | nil => exact Reader.areSpelled_tokens (.literal _)
  | append_singleton values last ih =>
    rw [List.forall_mem_append, List.forall_mem_singleton] at h
    by_cases hempty : values = []
    · subst hempty
      exact hcomparison last h.2
    · rw [membership_snoc values last hempty, Expr.tokens_infixed, Reader.areSpelled_append,
        Reader.areSpelled_append]
      exact ⟨ih h.1, Reader.areSpelled_operator _, hcomparison last h.2⟩

/-- The check is read back as comparisons with all of each value exactly if every value binds more
tightly than a comparison. -/
theorem membership_read_iff {values : List Expr} (h : ∀ value ∈ values, value.IsGrouped) :
    (∃ condition, Reader.read? (membership values).tokens = some condition ∧
        condition.disjuncts = values.map comparison) ↔
      ∀ value ∈ values, InfixOp.eq.level < value.strength := by
  constructor
  · rintro ⟨condition, hread, hdisjuncts⟩ value hvalue
    have hcondition := Reader.isGrouped_of_read? (areSpelled_membership h) hread
    have hcompared := Expr.isGrouped_of_mem_disjuncts hcondition
      (hdisjuncts ▸ List.mem_map_of_mem hvalue)
    cases hcompared with
    | infixed _ _ _ htighter => exact htighter
  · intro hstrength
    exact ⟨_, Reader.read?_tokens (isGrouped_membership h hstrength), disjuncts_membership values⟩

theorem isGrouped_of_legalValues {validator : Validator} {values : List Expr}
    (h : validator.legalValues = .ok values) : ∀ value ∈ values, value.IsGrouped := by
  intro value hvalue
  obtain ⟨text, -, hliteral⟩ := Pairing.exists_of_mem_forall₂ (Pairing.mapM_eq_ok_iff.mp h) hvalue
  exact isGrouped_of_literal hliteral

/-- The expression is a disjunction of comparisons with all of each legal value, in their order. -/
def IsMembership (validator : Validator) (condition : Expr) : Prop :=
  List.Forall₂ (fun text disjunct =>
      ∃ value, literal validator.name text = .ok value ∧ disjunct = comparison value)
    validator.legal condition.disjuncts

theorem isMembership_iff {validator : Validator} {values : List Expr} {condition : Expr}
    (h : validator.legalValues = .ok values) :
    validator.IsMembership condition ↔ condition.disjuncts = values.map comparison := by
  have hcomparisons : ∀ {values disjuncts : List Expr},
      List.Forall₂ (fun value disjunct => disjunct = comparison value) values disjuncts ↔
        disjuncts = values.map comparison := by
    intro values disjuncts
    rw [eq_comm, ← List.forall₂_eq_eq_eq, List.forall₂_map_left_iff]
    simp only [eq_comm]
  rw [IsMembership, Pairing.forall₂_exists_iff]
  constructor
  · rintro ⟨found, hfound, hdisjuncts⟩
    have hsame : Except.ok found = Except.ok values :=
      (Pairing.mapM_eq_ok_iff.mpr hfound).symm.trans h
    cases hsame
    exact hcomparisons.mp hdisjuncts
  · exact fun hdisjuncts => ⟨values, Pairing.mapM_eq_ok_iff.mp h, hcomparisons.mpr hdisjuncts⟩

end Validator

end CommandBuffer
