import CommandBuffer.Artifact.TestValue
import CommandBuffer.Proofs.Outcome
import CommandBuffer.Proofs.Reading.Shapes

/-! # What the reader accepts

Whatever the reader accepts is grouped, so that it can be written and is read back once more. Its
names are spelled as identifiers, no keyword stands where a name must stand, and its operators are
in order. All parts of the reader are followed at once, by induction on the steps that they may take.
-/

namespace CommandBuffer.Code

namespace Reader

/-- Every name among the tokens is spelled as one. -/
def AreSpelled (tokens : List Token) : Prop :=
  ∀ spelling, .name spelling ∈ tokens → isSpelling spelling.toList = true

theorem AreSpelled.tail {token : Token} {tokens : List Token} (h : AreSpelled (token :: tokens)) :
    AreSpelled tokens := fun spelling hmem => h spelling (List.mem_cons_of_mem _ hmem)

theorem AreSpelled.head {spelling : String} {tokens : List Token}
    (h : AreSpelled (.name spelling :: tokens)) : isSpelling spelling.toList = true :=
  h spelling List.mem_cons_self

variable {tokens rest : List Token} {fuel : Nat}

theorem areSpelled_of_afterMarks? {signs : List Char} (h : AreSpelled tokens)
    (hafter : afterMarks? signs tokens = some rest) : AreSpelled rest := by
  fun_induction afterMarks? signs tokens with
  | case1 tokens => exact Option.some.inj hafter ▸ h
  | case2 sign c isJoint tail hsame => exact Option.some.inj hafter ▸ h.tail
  | case3 => cases hafter
  | case4 sign next signs c tail hsame ih => exact ih h.tail hafter
  | case5 => cases hafter
  | case6 => cases hafter

theorem level_le (next : Continuation) : next.level ≤ castLevel := by
  cases next with
  | infixed op => exact Nat.le_of_lt op.level_lt
  | cast => exact Nat.le_refl _

theorem exists_of_afterMarks? {sign : Char} {signs : List Char}
    (h : afterMarks? (sign :: signs) tokens = some rest) :
    ∃ isJoint after, tokens = .mark sign isJoint :: after ∧
      (signs ≠ [] → isJoint = true) ∧ afterMarks? signs after = some rest := by
  unfold afterMarks? at h
  split at h
  · cases ‹sign :: signs = []›
  · rename_i c isJoint after hsigns
    obtain ⟨rfl, rfl⟩ := List.cons.inj hsigns
    split at h
    · rename_i hsame
      cases h
      exact ⟨isJoint, _, by rw [eq_of_beq hsame], fun hne => absurd rfl hne, by rw [afterMarks?]⟩
    · cases h
  · rename_i next others c after hsigns
    obtain ⟨rfl, rfl⟩ := List.cons.inj hsigns
    split at h
    · rename_i hsame
      exact ⟨true, after, by rw [eq_of_beq hsame], fun _ => rfl, h⟩
    · cases h
  · cases h

theorem afterMarks?_of_continuation? {op : InfixOp}
    (h : continuation? tokens = some (.infixed op, rest)) :
    afterMarks? op.text.toList tokens = some rest := by
  unfold continuation? at h
  split at h
  · cases h
  · split at h
    · cases h
    · obtain ⟨other, -, hother⟩ := List.exists_of_findSome?_eq_some h
      obtain ⟨after, hafter, hpair⟩ := Option.map_eq_some_iff.mp hother
      cases hpair
      exact hafter

theorem eq_of_continuation?_cast (h : continuation? tokens = some (.cast, rest)) :
    tokens = .name "as" :: rest := by
  unfold continuation? at h
  split at h
  · cases h
    rfl
  · split at h
    · cases h
    · obtain ⟨op, -, hop⟩ := List.exists_of_findSome?_eq_some h
      obtain ⟨after, -, hpair⟩ := Option.map_eq_some_iff.mp hop
      cases hpair

theorem areSpelled_of_continuation? {next : Continuation} (h : AreSpelled tokens)
    (hnext : continuation? tokens = some (next, rest)) : AreSpelled rest := by
  cases next with
  | infixed => exact areSpelled_of_afterMarks? h (afterMarks?_of_continuation? hnext)
  | cast =>
    cases eq_of_continuation?_cast hnext
    exact h.tail

theorem areSpelled_of_prefix? {op : PrefixOp} (h : AreSpelled tokens)
    (hprefixed : prefix? tokens = some (op, rest)) : AreSpelled rest := by
  unfold prefix? at hprefixed
  split at hprefixed <;> cases hprefixed
  · exact h.tail.tail
  all_goals exact h.tail

/-! ### Paths -/

theorem segments_of_furtherSegments (h : AreSpelled tokens) :
    AreSegments (furtherSegments tokens).1 ∧ AreSpelled (furtherSegments tokens).2 := by
  fun_induction furtherSegments tokens with
  | case1 isJoint spelling tail hsegment segments rest hfurther ih =>
    rw [hfurther] at ih
    obtain ⟨hsegments, hrest⟩ := ih h.tail.tail.tail
    exact ⟨List.forall_mem_cons.mpr ⟨⟨spelling, rfl, h.tail.tail.head, hsegment⟩, hsegments⟩, hrest⟩
  | case2 isJoint spelling tail hsegment => exact ⟨fun _ h => absurd h List.not_mem_nil, h⟩
  | case3 tokens => exact ⟨fun _ h => absurd h List.not_mem_nil, h⟩

theorem segments_of_path? {isGlobal : Bool} {segments : List Name} (h : AreSpelled tokens)
    (hpath : path? tokens = some ((isGlobal, segments), rest)) :
    segments ≠ [] ∧ AreSegments segments ∧ AreSpelled rest := by
  unfold path? at hpath
  split at hpath
  rename_i isRooted start hmarks
  have hstart : AreSpelled start := by
    split at hmarks
    · rename_i after hmark
      cases hmarks
      exact areSpelled_of_afterMarks? h hmark
    · cases hmarks
      exact h
  split at hpath
  · rename_i spelling tail
    obtain ⟨hfurther, hrest⟩ := segments_of_furtherSegments hstart.tail
    split at hpath
    · rename_i hsegment
      simp only at hpath
      split at hpath
      · cases hpath
      · cases hpath
        exact ⟨List.cons_ne_nil _ _,
          List.forall_mem_cons.mpr ⟨⟨spelling, rfl, hstart.head, hsegment⟩, hfurther⟩, hrest⟩
    · cases hpath
  · cases hpath

theorem exists_of_castType? {type : Ty} (h : AreSpelled tokens)
    (htype : castType? tokens = some (type, rest)) :
    (∃ isGlobal segments, type = .path isGlobal segments ∧ segments ≠ [] ∧ AreSegments segments) ∧
      extendsCast rest = false ∧ AreSpelled rest := by
  unfold castType? at htype
  split at htype
  · rename_i isGlobal segments after hpath
    obtain ⟨hne, hsegments, hrest⟩ := segments_of_path? h hpath
    split at htype
    · cases htype
    · rename_i hends
      cases htype
      exact ⟨⟨isGlobal, segments, rfl, hne, hsegments⟩, by simpa using hends, hrest⟩
  · cases htype

/-! ### Values and operators -/

/-- What the continuation of the tokens binds to is at least as strong. -/
def Continues (bound : Nat) (tokens : List Token) : Prop :=
  ∀ next after, continuation? tokens = some (next, after) → next.level ≤ bound

theorem Continues.mono {bound other : Nat} (h : Continues bound tokens) (hle : bound ≤ other) :
    Continues other tokens := fun next after hnext => Nat.le_trans (h next after hnext) hle

theorem continues_castLevel (tokens : List Token) : Continues castLevel tokens :=
  fun next _ _ => level_le next

/-- What ends in the type of a cast is not gone on with. -/
def EndsBefore (value : Expr) (tokens : List Token) : Prop :=
  value.endsInCast = true → extendsCast tokens = false

theorem endsBefore_of_strength {value : Expr} (h : castLevel < value.strength)
    (tokens : List Token) : EndsBefore value tokens := by
  intro hcast
  cases value with
  | infixed op =>
    have hlevel := op.level_lt
    exact absurd h (Nat.not_lt.mpr (Nat.le_of_lt hlevel))
  | cast => exact absurd h (Nat.lt_irrefl _)
  | _ => cases hcast

/-- An operator that goes on behind the type of a cast would not start type arguments. -/
theorem ne_of_extendsCast {op : InfixOp} (hends : extendsCast tokens = false)
    (hop : continuation? tokens = some (.infixed op, rest)) : op ≠ .lt ∧ op ≠ .shiftLeft := by
  constructor
  · rintro rfl
    have hmarks : afterMarks? ['<'] tokens = some rest := afterMarks?_of_continuation? hop
    obtain ⟨isJoint, after, rfl, -, -⟩ := exists_of_afterMarks? hmarks
    have hle : startsWith ['<', '='] (.mark '<' isJoint :: after) = true := by
      rw [extendsCast, Bool.or_eq_false_iff, Bool.or_eq_false_iff, Bool.or_eq_false_iff] at hends
      · simpa [startsWith, afterMarks?] using hends.1.1.1
      · exact fun _ _ htokens => by cases htokens
    obtain ⟨behind, hbehind⟩ := Option.isSome_iff_exists.mp hle
    obtain ⟨_, _, heq, hjoint, hmore⟩ := exists_of_afterMarks? hbehind
    obtain ⟨isLastJoint, last, rfl, -, -⟩ := exists_of_afterMarks? hmore
    cases heq
    cases hjoint (List.cons_ne_nil _ _)
    -- The longer operator is read first.
    have hother : continuation? (.mark '<' true :: .mark '=' isLastJoint :: last)
        = some (.infixed .le, last) := by
      cases isLastJoint <;> rfl
    rw [hother] at hop
    cases hop
  · rintro rfl
    have hmarks : afterMarks? ['<', '<'] tokens = some rest := afterMarks?_of_continuation? hop
    obtain ⟨isJoint, after, rfl, hjoint, hmore⟩ := exists_of_afterMarks? hmarks
    obtain ⟨isNextJoint, behind, rfl, -, -⟩ := exists_of_afterMarks? hmore
    cases hjoint (List.cons_ne_nil _ _)
    cases hends

/-- What all parts of the reader give with so many steps. -/
structure IsFaithful (fuel : Nat) : Prop where
  expr : ∀ {tokens value rest}, AreSpelled tokens → expr? fuel tokens = some (value, rest) →
    value.IsGrouped ∧ AreSpelled rest
  continued : ∀ {level start tokens value rest}, AreSpelled tokens → start.IsGrouped →
    EndsBefore start tokens → level ≤ start.strength → level ≤ castLevel →
    Continues start.strength tokens → continue? fuel level start tokens = some (value, rest) →
    value.IsGrouped ∧ EndsBefore value rest ∧ AreSpelled rest ∧ level ≤ value.strength ∧
      ∀ next after, continuation? rest = some (next, after) → next.level < level
  tightened : ∀ {level start tokens value rest}, AreSpelled tokens → start.IsGrouped →
    EndsBefore start tokens → level < start.strength → Continues start.strength tokens →
    tighten? fuel level start tokens = some (value, rest) →
    value.IsGrouped ∧ EndsBefore value rest ∧ AreSpelled rest ∧ level < value.strength ∧
      Continues level rest
  operand : ∀ {tokens value rest}, AreSpelled tokens → operand? fuel tokens = some (value, rest) →
    value.IsGrouped ∧ castLevel < value.strength ∧ AreSpelled rest
  atom : ∀ {tokens value rest}, AreSpelled tokens → atom? fuel tokens = some (value, rest) →
    value.IsGrouped ∧ value.takesMembers = true ∧ value.isField = false ∧ AreSpelled rest
  members : ∀ {start tokens value rest}, AreSpelled tokens → start.IsGrouped →
    start.takesMembers = true →
    (start.isField = true → ∀ tail, tokens ≠ .opening .round :: tail) →
    members? fuel start tokens = some (value, rest) →
    value.IsGrouped ∧ value.takesMembers = true ∧ AreSpelled rest
  named : ∀ {start tokens value rest}, AreSpelled tokens → start.IsGrouped →
    start.takesMembers = true → named? fuel start tokens = some (value, rest) →
    value.IsGrouped ∧ value.takesMembers = true ∧ AreSpelled rest
  items : ∀ {delimiter tokens values hasLastComma rest}, AreSpelled tokens →
    items? fuel delimiter tokens = some ((values, hasLastComma), rest) →
    (∀ value ∈ values, value.IsGrouped) ∧ (values = [] → hasLastComma = false) ∧ AreSpelled rest
  furtherItems : ∀ {delimiter first tokens values hasLastComma rest}, AreSpelled tokens →
    first.IsGrouped →
    furtherItems? fuel delimiter first tokens = some ((values, hasLastComma), rest) →
    (∀ value ∈ values, value.IsGrouped) ∧ values ≠ [] ∧ AreSpelled rest

namespace IsFaithful

variable (h : IsFaithful fuel)

include h

theorem expr_succ {value : Expr} (htokens : AreSpelled tokens)
    (hread : expr? (fuel + 1) tokens = some (value, rest)) :
    value.IsGrouped ∧ AreSpelled rest := by
  rw [expr?] at hread
  simp only [Option.bind_eq_bind, Option.bind_eq_some_iff, Prod.exists] at hread
  obtain ⟨start, after, hoperand, hread⟩ := hread
  obtain ⟨hstart, hstrength, hafter⟩ := h.operand htokens hoperand
  have hcontinues := (continues_castLevel after).mono (Nat.le_of_lt hstrength)
  obtain ⟨hvalue, -, hrest, -⟩ := h.continued hafter hstart (endsBefore_of_strength hstrength after)
    (Nat.zero_le _) (Nat.zero_le _) hcontinues hread
  exact ⟨hvalue, hrest⟩

theorem continued_succ {level : Nat} {start value : Expr} (htokens : AreSpelled tokens)
    (hstart : start.IsGrouped) (hends : EndsBefore start tokens)
    (hstrength : level ≤ start.strength) (hlevel : level ≤ castLevel)
    (hnext : Continues start.strength tokens)
    (hread : continue? (fuel + 1) level start tokens = some (value, rest)) :
    value.IsGrouped ∧ EndsBefore value rest ∧ AreSpelled rest ∧ level ≤ value.strength ∧
      ∀ next after, continuation? rest = some (next, after) → next.level < level := by
  rw [continue?] at hread
  split at hread
  · rename_i hnone
    cases hread
    exact ⟨hstart, hends, htokens, hstrength,
      fun next after hsome => by rw [hnone] at hsome; cases hsome⟩
  · rename_i after hcast
    simp only [Option.bind_eq_bind, Option.bind_eq_some_iff, Prod.exists] at hread
    obtain ⟨type, behind, htype, hread⟩ := hread
    obtain ⟨⟨isGlobal, segments, rfl, hne, hsegments⟩, hplain, hbehind⟩ :=
      exists_of_castType? (areSpelled_of_continuation? htokens hcast) htype
    have hstrong : castLevel ≤ start.strength := hnext _ _ hcast
    exact h.continued hbehind (.cast hstart hstrong hne hsegments) (fun _ => hplain) hlevel hlevel
      (continues_castLevel behind) hread
  · rename_i op after hop
    split at hread
    · rename_i hweak
      cases hread
      refine ⟨hstart, hends, htokens, hstrength, fun next behind hsome => ?_⟩
      rw [hop] at hsome
      cases hsome
      exact hweak
    · rename_i hbinds
      split at hread
      · cases hread
      · rename_i hcompared
        simp only [Option.bind_eq_bind, Option.bind_eq_some_iff, Prod.exists] at hread
        obtain ⟨operand, behind, hoperand, right, last, htighten, hread⟩ := hread
        obtain ⟨hoperandGrouped, hoperandStrength, hbehind⟩ :=
          h.operand (areSpelled_of_continuation? htokens hop) hoperand
        obtain ⟨hright, hrightEnds, hlast, htighter, hcontinues⟩ :=
          h.tightened hbehind hoperandGrouped (endsBefore_of_strength hoperandStrength behind)
            (Nat.lt_trans op.level_lt hoperandStrength)
            ((continues_castLevel behind).mono (Nat.le_of_lt hoperandStrength)) htighten
        exact h.continued hlast
          (.infixed hstart hright (hnext _ _ hop) htighter (by simpa using hcompared)
            fun hcast => ne_of_extendsCast (hends hcast) hop)
          hrightEnds (Nat.le_of_not_lt hbinds) hlevel hcontinues hread

theorem tightened_succ {level : Nat} {start value : Expr} (htokens : AreSpelled tokens)
    (hstart : start.IsGrouped) (hends : EndsBefore start tokens)
    (hstrength : level < start.strength) (hnext : Continues start.strength tokens)
    (hread : tighten? (fuel + 1) level start tokens = some (value, rest)) :
    value.IsGrouped ∧ EndsBefore value rest ∧ AreSpelled rest ∧ level < value.strength ∧
      Continues level rest := by
  rw [tighten?] at hread
  split at hread
  · rename_i hnone
    cases hread
    exact ⟨hstart, hends, htokens, hstrength,
      fun next after hsome => by rw [hnone] at hsome; cases hsome⟩
  · rename_i next after hsome
    split at hread
    · rename_i hweak
      cases hread
      refine ⟨hstart, hends, htokens, hstrength, fun other behind hother => ?_⟩
      rw [hsome] at hother
      cases hother
      exact hweak
    · rename_i hbinds
      simp only [Option.bind_eq_bind, Option.bind_eq_some_iff, Prod.exists] at hread
      obtain ⟨middle, behind, hmiddle, hread⟩ := hread
      obtain ⟨hmiddleGrouped, hmiddleEnds, hbehind, hmiddleStrength, hweaker⟩ :=
        h.continued htokens hstart hends (hnext _ _ hsome) (level_le next) hnext hmiddle
      refine h.tightened hbehind hmiddleGrouped hmiddleEnds (by omega)
        (fun other last hother => ?_) hread
      exact Nat.le_trans (Nat.le_of_lt (hweaker other last hother)) hmiddleStrength

theorem operand_succ {value : Expr} (htokens : AreSpelled tokens)
    (hread : operand? (fuel + 1) tokens = some (value, rest)) :
    value.IsGrouped ∧ castLevel < value.strength ∧ AreSpelled rest := by
  rw [operand?] at hread
  split at hread
  · rename_i op after hprefixed
    simp only [Option.bind_eq_bind, Option.bind_eq_some_iff, Prod.exists] at hread
    obtain ⟨operand, behind, hoperand, hread⟩ := hread
    obtain ⟨hoperandGrouped, hstrength, hbehind⟩ :=
      h.operand (areSpelled_of_prefix? htokens hprefixed) hoperand
    cases hread
    exact ⟨.prefixed hoperandGrouped hstrength, Nat.lt_succ_self _, hbehind⟩
  · simp only [Option.bind_eq_bind, Option.bind_eq_some_iff, Prod.exists] at hread
    obtain ⟨start, after, hatom, hread⟩ := hread
    obtain ⟨hstart, htakes, hfield, hafter⟩ := h.atom htokens hatom
    obtain ⟨hvalue, hvalueTakes, hrest⟩ := h.members hafter hstart htakes
      (fun hisField => by rw [hfield] at hisField; cases hisField) hread
    exact ⟨hvalue, Expr.strength_of_takesMembers hvalueTakes, hrest⟩

theorem named_succ {start value : Expr} (htokens : AreSpelled tokens) (hstart : start.IsGrouped)
    (htakes : start.takesMembers = true)
    (hread : named? (fuel + 1) start tokens = some (value, rest)) :
    value.IsGrouped ∧ value.takesMembers = true ∧ AreSpelled rest := by
  unfold named? at hread
  split at hread
  · cases ‹fuel + 1 = 0›
  · rename_i steps spelling after hsteps
    cases hsteps
    split at hread
    · cases hread
    · rename_i hbare
      simp only [Option.bind_eq_bind, Option.bind_eq_some_iff, Prod.exists] at hread
      obtain ⟨arguments, hasLastComma, behind, hitems, hread⟩ := hread
      obtain ⟨harguments, hempty, hbehind⟩ := h.items htokens.tail.tail hitems
      exact h.members hbehind
        (.method hstart htakes ⟨htokens.head, by simpa using hbare⟩ harguments hempty) rfl
        (fun hisField => by cases hisField) hread
  · rename_i steps spelling after hcall hsteps
    cases hsteps
    split at hread
    · cases hread
    · rename_i hbare
      exact h.members htokens.tail (.field hstart htakes ⟨htokens.head, by simpa using hbare⟩) rfl
        (fun _ tail htail => hcall tail htail) hread
  · cases hread

theorem members_succ {start value : Expr} (htokens : AreSpelled tokens) (hstart : start.IsGrouped)
    (htakes : start.takesMembers = true)
    (hfield : start.isField = true → ∀ tail, tokens ≠ .opening .round :: tail)
    (hread : members? (fuel + 1) start tokens = some (value, rest)) :
    value.IsGrouped ∧ value.takesMembers = true ∧ AreSpelled rest := by
  unfold members? at hread
  split at hread
  · cases ‹fuel + 1 = 0›
  · rename_i steps after hsteps
    cases hsteps
    simp only [Option.bind_eq_bind, Option.bind_eq_some_iff, Prod.exists] at hread
    obtain ⟨arguments, hasLastComma, behind, hitems, hread⟩ := hread
    obtain ⟨harguments, hempty, hbehind⟩ := h.items htokens.tail hitems
    have hcallable := Bool.eq_false_iff.mpr fun hisField => hfield hisField after rfl
    exact h.members hbehind (.call hstart htakes hcallable harguments hempty) rfl
      (fun hisField => by cases hisField) hread
  · rename_i steps after hsteps
    cases hsteps
    simp only [Option.bind_eq_bind, Option.bind_eq_some_iff, Prod.exists] at hread
    obtain ⟨position, behind, hposition, hread⟩ := hread
    obtain ⟨hpositionGrouped, hbehind⟩ := h.expr htokens.tail hposition
    split at hread
    · exact h.members hbehind.tail (.element hstart htakes hpositionGrouped) rfl
        (fun hisField => by cases hisField) hread
    · cases hread
  · rename_i steps isJoint after hsteps
    cases hsteps
    exact h.members htokens.tail (.attempt hstart htakes) rfl
      (fun hisField => by cases hisField) hread
  · cases hread
    exact ⟨hstart, htakes, htokens⟩
  · rename_i steps isJoint spelling after hrange hsteps
    cases hsteps
    simp only [Option.bind_eq_bind, Option.bind_eq_some_iff, Prod.exists] at hread
    obtain ⟨positions, isOpen, hpositions, hread⟩ := hread
    obtain ⟨hne, hspelled⟩ := positions_of_components? hpositions
    obtain ⟨hcomponents, hcomponentsTake, hcomponentsField⟩ := hstart.components hspelled htakes
    split at hread
    · exact h.named htokens.tail.tail hcomponents hcomponentsTake hread
    · exact h.members htokens.tail.tail hcomponents hcomponentsTake
        (fun hisField => by rw [hcomponentsField hne] at hisField; cases hisField) hread
  · rename_i steps isJoint after hrange hposition hsteps
    cases hsteps
    exact h.named htokens.tail hstart htakes hread
  · cases hread
    exact ⟨hstart, htakes, htokens⟩

theorem furtherItems_succ {delimiter : Delimiter} {first : Expr} {values : List Expr}
    {hasLastComma : Bool} (htokens : AreSpelled tokens) (hfirst : first.IsGrouped)
    (hread : furtherItems? (fuel + 1) delimiter first tokens
      = some ((values, hasLastComma), rest)) :
    (∀ value ∈ values, value.IsGrouped) ∧ values ≠ [] ∧ AreSpelled rest := by
  unfold furtherItems? at hread
  split at hread
  · rename_i steps isJoint after hsteps
    cases hsteps
    simp only [Option.bind_eq_bind, Option.bind_eq_some_iff, Prod.exists] at hread
    obtain ⟨others, isLast, behind, hitems, hread⟩ := hread
    obtain ⟨hothers, -, hbehind⟩ := h.items htokens.tail hitems
    cases hread
    exact ⟨List.forall_mem_cons.mpr ⟨hfirst, hothers⟩, List.cons_ne_nil _ _, hbehind⟩
  · split at hread
    · cases hread
      exact ⟨List.forall_mem_singleton.mpr hfirst, List.cons_ne_nil _ _, htokens.tail⟩
    · cases hread
  · cases hread

theorem items_succ {delimiter : Delimiter} {values : List Expr} {hasLastComma : Bool}
    (htokens : AreSpelled tokens)
    (hread : items? (fuel + 1) delimiter tokens = some ((values, hasLastComma), rest)) :
    (∀ value ∈ values, value.IsGrouped) ∧ (values = [] → hasLastComma = false) ∧
      AreSpelled rest := by
  unfold items? at hread
  split at hread
  · split at hread
    · cases hread
      exact ⟨fun _ h => absurd h List.not_mem_nil, fun _ => rfl, htokens.tail⟩
    · cases hread
  · simp only [Option.bind_eq_bind, Option.bind_eq_some_iff, Prod.exists] at hread
    obtain ⟨first, after, hfirst, hread⟩ := hread
    obtain ⟨hfirstGrouped, hafter⟩ := h.expr htokens hfirst
    obtain ⟨hvalues, hne, hrest⟩ := h.furtherItems hafter hfirstGrouped hread
    exact ⟨hvalues, fun hempty => absurd hempty hne, hrest⟩

theorem atom_succ {value : Expr} (htokens : AreSpelled tokens)
    (hread : atom? (fuel + 1) tokens = some (value, rest)) :
    value.IsGrouped ∧ value.takesMembers = true ∧ value.isField = false ∧ AreSpelled rest := by
  unfold atom? at hread
  split at hread
  · cases ‹fuel + 1 = 0›
  · cases hread
    exact ⟨.literal _, rfl, rfl, htokens.tail⟩
  · cases hread
    exact ⟨.literal _, rfl, rfl, htokens.tail⟩
  · cases hread
    exact ⟨.literal _, rfl, rfl, htokens.tail⟩
  · cases hread
    exact ⟨.placeholder, rfl, rfl, htokens.tail⟩
  · rename_i steps after hsteps
    cases hsteps
    simp only [Option.bind_eq_bind, Option.bind_eq_some_iff, Prod.exists] at hread
    obtain ⟨items, hasLastComma, behind, hitems, hread⟩ := hread
    obtain ⟨hitemsGrouped, hempty, hbehind⟩ := h.items htokens.tail hitems
    split at hread
    · cases hread
      exact ⟨.paren (hitemsGrouped _ List.mem_cons_self), rfl, rfl, hbehind⟩
    · rename_i hnotSingle
      cases hread
      refine ⟨.tuple hitemsGrouped hempty fun hlength => ?_, rfl, rfl, hbehind⟩
      obtain ⟨item, rfl⟩ := List.length_eq_one_iff.mp hlength
      rw [← Bool.not_eq_false]
      exact fun hno => hnotSingle item rfl hno
  · cases hread
    exact ⟨.array (fun _ h => absurd h List.not_mem_nil) fun _ => rfl, rfl, rfl, htokens.tail.tail⟩
  · rename_i steps after hnonempty hsteps
    cases hsteps
    simp only [Option.bind_eq_bind, Option.bind_eq_some_iff, Prod.exists] at hread
    obtain ⟨first, behind, hfirst, hread⟩ := hread
    obtain ⟨hfirstGrouped, hbehind⟩ := h.expr htokens.tail hfirst
    split at hread
    · rename_i behindMark hmark
      simp only [Option.bind_eq_some_iff, Prod.exists] at hread
      obtain ⟨length, last, hlength, hread⟩ := hread
      obtain ⟨hlengthGrouped, hlast⟩ := h.expr (areSpelled_of_afterMarks? hbehind hmark) hlength
      split at hread
      · cases hread
        exact ⟨.repeated hfirstGrouped hlengthGrouped, rfl, rfl, hlast.tail⟩
      · cases hread
    · simp only [Option.bind_eq_some_iff, Prod.exists] at hread
      obtain ⟨items, hasLastComma, last, hitems, hread⟩ := hread
      obtain ⟨hitemsGrouped, hne, hlast⟩ := h.furtherItems hbehind hfirstGrouped hitems
      cases hread
      exact ⟨.array hitemsGrouped fun hempty => absurd hempty hne, rfl, rfl, hlast⟩
  · simp only [Option.bind_eq_bind, Option.bind_eq_some_iff, Prod.exists] at hread
    obtain ⟨isGlobal, segments, behind, hpath, hread⟩ := hread
    obtain ⟨hne, hsegments, hbehind⟩ := segments_of_path? htokens hpath
    cases hread
    exact ⟨.path hne hsegments, rfl, rfl, hbehind⟩

end IsFaithful

/-- Without steps nothing is read. -/
theorem isFaithful_zero : IsFaithful 0 where
  expr _ hread := by cases hread
  continued _ _ _ _ _ _ hread := by cases hread
  tightened _ _ _ _ _ hread := by cases hread
  operand _ hread := by cases hread
  atom _ hread := by cases hread
  members _ _ _ _ hread := by cases hread
  named _ _ _ hread := by cases hread
  items _ hread := by cases hread
  furtherItems _ _ hread := by cases hread

theorem isFaithful (fuel : Nat) : IsFaithful fuel := by
  induction fuel with
  | zero => exact isFaithful_zero
  | succ fuel ih =>
    exact {
      expr := ih.expr_succ
      continued := ih.continued_succ
      tightened := ih.tightened_succ
      operand := ih.operand_succ
      atom := ih.atom_succ
      members := ih.members_succ
      named := ih.named_succ
      items := ih.items_succ
      furtherItems := ih.furtherItems_succ }

/-! ### From the text -/

theorem isSpelling_of_name? {text after : List Char} {spelling : String}
    (h : Lexer.name? text = some (.name spelling, after)) : isSpelling spelling.toList = true := by
  unfold Lexer.name? at h
  simp only at h
  split at h
  · cases h
  · split at h
    · rename_i hspelling
      cases h
      rw [String.toList_ofList]
      exact hspelling
    · cases h

theorem isSpelling_of_token? {text after : List Char} {spelling : String}
    (h : Lexer.token? text = some (.name spelling, after)) : isSpelling spelling.toList = true := by
  have hsign : ∀ after, Lexer.sign? text ≠ some (.name spelling, after) := by
    intro after hsign
    unfold Lexer.sign? at hsign
    split at hsign
    · cases hsign
    · unfold Lexer.lifetime? at hsign
      split at hsign
      · split at hsign <;> cases hsign
      · cases hsign
    · split at hsign
      · cases hsign
      · cases hsign
      · split at hsign <;> cases hsign
  unfold Lexer.token? at h
  split at h
  · cases h
  · rw [Option.orElse_eq_orElse, Option.orElse_eq_or, Option.or_eq_some_iff] at h
    rcases h with h | ⟨-, h⟩
    · exact absurd h (hsign after)
    · exact isSpelling_of_name? h

theorem areSpelled_tokens? {text : List Char} (h : Lexer.tokens? text = some tokens) :
    AreSpelled tokens := by
  fun_induction Lexer.tokens? text generalizing tokens with
  | case1 =>
    cases h
    exact fun _ h => absurd h List.not_mem_nil
  | case2 c text after hskip hshorter ih => exact ih h
  | case3 => cases h
  | case4 => cases h
  | case5 c text hskip token after htoken hshorter ih =>
    obtain ⟨others, hothers, rfl⟩ := Option.map_eq_some_iff.mp h
    intro spelling hmem
    rcases List.mem_cons.mp hmem with rfl | hmem
    · exact isSpelling_of_token? htoken
    · exact ih hothers spelling hmem
  | case6 => cases h

theorem isGrouped_of_read? {value : Expr} (htokens : AreSpelled tokens)
    (h : read? tokens = some value) : value.IsGrouped := by
  unfold read? at h
  split at h
  · rename_i found hexpr
    cases h
    exact ((isFaithful _).expr htokens hexpr).1
  · cases h

theorem isGrouped_of_readText? {text : String} {value : Expr} (h : readText? text = some value) :
    value.IsGrouped := by
  obtain ⟨tokens, htokens, hread⟩ := Option.bind_eq_some_iff.mp h
  refine isGrouped_of_read? ?_ hread
  unfold Lexer.read? at htokens
  split at htokens <;> exact areSpelled_tokens? htokens

end Reader
end CommandBuffer.Code

namespace CommandBuffer

open Code Success

/-- An expression that a definition writes is grouped. -/
theorem isGrouped_of_literal {function value : String} {expr : Expr}
    (h : literal function value = .ok expr) : expr.IsGrouped := by
  unfold literal at h
  split at h
  · rename_i hread
    cases h
    exact Reader.isGrouped_of_readText? hread
  · cases h

/-- An expression that a definition writes can be written and is read back. -/
theorem isRead_of_literal {function value : String} {expr : Expr}
    (h : literal function value = .ok expr) : expr.IsRead :=
  (isGrouped_of_literal h).isRead

end CommandBuffer
