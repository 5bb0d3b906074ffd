import CommandBuffer.Proofs.Reading.Reader

/-! # Reading grouped expressions back

The tokens of a grouped expression are read as that expression, whatever stands behind them that
does not go on with it. Members and operators go on with a value that is already read, so what is
said of a value is relative to how the reader goes on behind it. Six steps for each token suffice.
-/

namespace CommandBuffer.Code

namespace Reader

variable {tokens rest : List Token}

/-! ## What stands behind an expression -/

/-- The tokens do not go on with a path. -/
def EndsPath (tokens : List Token) : Prop := ∀ isJoint rest, tokens ≠ .mark ':' isJoint :: rest

/-- The tokens go on with no path and select no members. -/
def stops : List Token → Bool
  | .opening .round :: _ | .opening .square :: _ => false
  | .mark sign _ :: _ => sign != '?' && sign != '.' && sign != ':'
  | _ => true

/-- The tokens end an item or all of an expression. -/
def ends : List Token → Bool
  | [] | .closing _ :: _ => true
  | .mark sign _ :: _ => sign == ',' || sign == ';'
  | _ => false

theorem endsPath_of_stops (h : stops tokens = true) : EndsPath tokens := by
  rintro isJoint rest rfl
  cases h

theorem members?_of_stops (h : stops tokens = true) (value : Expr) (fuel : Nat) :
    members? (fuel + 1) value tokens = some (value, tokens) := by
  unfold members?
  split
  · cases ‹fuel + 1 = 0›
  all_goals first | rfl | cases h

theorem exists_of_ends (h : ends tokens = true) :
    stops tokens = true ∧ extendsCast tokens = false ∧ continuation? tokens = none := by
  unfold ends at h
  split at h
  · exact ⟨rfl, rfl, rfl⟩
  · exact ⟨rfl, rfl, rfl⟩
  · rename_i isJoint _
    rw [Bool.or_eq_true, beq_iff_eq, beq_iff_eq] at h
    rcases h with rfl | rfl <;> cases isJoint <;> exact ⟨rfl, rfl, rfl⟩
  · cases h

theorem continuation?_infixed (op : InfixOp) (rest : List Token) :
    continuation? (op.tokens ++ rest) = some (.infixed op, rest) := by
  cases op <;> rfl

theorem stops_infixed (op : InfixOp) (rest : List Token) : stops (op.tokens ++ rest) = true := by
  cases op <;> rfl

theorem extendsCast_infixed {op : InfixOp} (h : op ≠ .lt ∧ op ≠ .shiftLeft) (rest : List Token) :
    extendsCast (op.tokens ++ rest) = false := by
  cases op <;> first | rfl | exact absurd rfl h.1 | exact absurd rfl h.2

theorem length_infixed (op : InfixOp) : 0 < op.tokens.length := by
  cases op <;> decide

/-! ## Paths -/

theorem pathTokens_cons (first : Name) (others : List Name) :
    pathTokens (first :: others)
      = first.tokens ++ others.flatMap fun name => pathMark ++ name.tokens := by
  induction others generalizing first with
  | nil => rfl
  | cons second others ih =>
    rw [List.flatMap_cons, List.append_assoc, ← ih second]
    rfl

theorem furtherSegments_tokens {segments : List Name} (h : AreSegments segments)
    (hrest : EndsPath rest) :
    furtherSegments ((segments.flatMap fun name => pathMark ++ name.tokens) ++ rest)
      = (segments, rest) := by
  induction segments with
  | nil =>
    rw [List.flatMap_nil, List.nil_append]
    unfold furtherSegments
    split
    · exact absurd rfl (hrest _ _)
    · rfl
  | cons name segments ih =>
    obtain ⟨⟨spelling, rfl, -, hsegment⟩, hothers⟩ := List.forall_mem_cons.mp h
    change furtherSegments (.mark ':' true :: .mark ':' false :: .name spelling ::
      ((segments.flatMap fun name => pathMark ++ name.tokens) ++ rest)) = _
    rw [furtherSegments, if_pos hsegment, ih hothers]

/-- A path is read up to what ends it. -/
theorem path?_tokens {isGlobal : Bool} {segments : List Name} (hne : segments ≠ [])
    (hsegments : AreSegments segments) (hrest : EndsPath rest) :
    path? (rootedPathTokens isGlobal segments ++ rest) = some ((isGlobal, segments), rest) := by
  obtain ⟨first, others, rfl⟩ := List.exists_cons_of_ne_nil hne
  obtain ⟨⟨spelling, rfl, -, hsegment⟩, hothers⟩ := List.forall_mem_cons.mp hsegments
  have hends : startsWith [':', ':'] rest = false := by
    rw [startsWith, Bool.eq_false_iff]
    intro hmarks
    obtain ⟨after, hafter⟩ := Option.isSome_iff_exists.mp hmarks
    obtain ⟨isJoint, behind, rfl, -⟩ := exists_of_afterMarks? hafter
    exact hrest _ _ rfl
  rw [rootedPathTokens, pathTokens_cons, List.append_assoc, List.append_assoc]
  generalize htail : (others.flatMap fun name => pathMark ++ name.tokens) ++ rest = tail
  have hfurther : furtherSegments tail = (others, rest) :=
    htail ▸ furtherSegments_tokens hothers hrest
  have hlocal : afterMarks? [':', ':'] (.name spelling :: tail) = none := rfl
  have hglobal : afterMarks? [':', ':'] (pathMark ++ .name spelling :: tail)
      = some (.name spelling :: tail) := rfl
  change path? ((if isGlobal then pathMark else []) ++ .name spelling :: tail) = _
  cases isGlobal with
  | false => simp [path?, hlocal, hfurther, hsegment, hends]
  | true => simp [path?, hglobal, hfurther, hsegment, hends]

theorem castType?_tokens {isGlobal : Bool} {segments : List Name} (hne : segments ≠ [])
    (hsegments : AreSegments segments) (hrest : EndsPath rest) (hplain : extendsCast rest = false) :
    castType? ((Ty.path isGlobal segments).tokens ++ rest)
      = some (.path isGlobal segments, rest) := by
  rw [Ty.tokens, castType?, path?_tokens hne hsegments hrest]
  exact if_neg (by rw [hplain]; exact Bool.false_ne_true)

/-! ## Single steps -/

section

variable (fuel : Nat) (value : Expr) (spelling : String) (rest : List Token)

theorem operand?_of_atom {tokens : List Token} (h : prefix? tokens = none) :
    operand? (fuel + 1) tokens
      = (atom? fuel tokens).bind fun read => members? fuel read.1 read.2 := by
  rw [operand?, h]
  rfl

theorem atom?_round : atom? (fuel + 1) (.opening .round :: rest)
    = (items? fuel .round rest).bind fun read => match read.1.1, read.1.2 with
      | [inner], false => some (.paren inner, read.2)
      | items, hasLastComma => some (.tuple items hasLastComma, read.2) := rfl

theorem atom?_square {first : Token} (hfirst : ∀ delimiter, first ≠ .closing delimiter) :
    atom? (fuel + 1) (.opening .square :: first :: rest)
      = (expr? fuel (first :: rest)).bind fun item => match afterMarks? [';'] item.2 with
        | some after => (expr? fuel after).bind fun length => match length.2 with
          | .closing .square :: after => some (.repeated item.1 length.1, after)
          | _ => none
        | none => (furtherItems? fuel .square item.1 item.2).bind fun items =>
          some (.array items.1.1 items.1.2, items.2) := by
  cases first with
  | closing => exact absurd rfl (hfirst _)
  | _ => rfl

theorem members?_round : members? (fuel + 1) value (.opening .round :: rest)
    = (items? fuel .round rest).bind fun read =>
      members? fuel (.call value read.1.1 read.1.2) read.2 := rfl

theorem members?_square : members? (fuel + 1) value (.opening .square :: rest)
    = (expr? fuel rest).bind fun read => match read.2 with
      | .closing .square :: after => members? fuel (.element value read.1) after
      | _ => none := rfl

theorem members?_attempt : members? (fuel + 1) value (.mark '?' false :: rest)
    = members? fuel (.attempt value) rest := rfl

theorem members?_literal : members? (fuel + 1) value (.mark '.' false :: .literal spelling :: rest)
    = (components? spelling).bind fun read =>
      if read.2 then named? fuel (Expr.components value read.1) rest
      else members? fuel (Expr.components value read.1) rest := rfl

theorem members?_name : members? (fuel + 1) value (.mark '.' false :: .name spelling :: rest)
    = named? fuel value (.name spelling :: rest) := rfl

theorem named?_round : named? (fuel + 1) value (.name spelling :: .opening .round :: rest)
    = if (Name.verbatim spelling).isBare then none
      else (items? fuel .round rest).bind fun read =>
        members? fuel (.method value (.verbatim spelling) [] read.1.1 read.1.2) read.2 := rfl

end

/-! ## Numbers of steps -/

/-- So many steps suffice for the result. -/
def Gives {α : Type} (read : Nat → Option α) (steps : Nat) (result : α) : Prop :=
  ∀ fuel, steps ≤ fuel → read fuel = some result

theorem Gives.mono {α : Type} {read : Nat → Option α} {steps more : Nat} {result : α}
    (h : Gives read steps result) (hle : steps ≤ more) : Gives read more result :=
  fun fuel hfuel => h fuel (Nat.le_trans hle hfuel)

theorem Gives.succ {α : Type} {read : Nat → Option α} {steps : Nat} {result : α}
    (h : ∀ fuel, steps ≤ fuel → read (fuel + 1) = some result) : Gives read (steps + 1) result := by
  intro fuel hfuel
  cases fuel with
  | zero => exact absurd hfuel (Nat.not_succ_le_zero _)
  | succ fuel => exact h fuel (Nat.le_of_succ_le_succ hfuel)

/-- So many steps suffice for a value and then, going on with it, for the result. -/
def GivesThen (first : Nat → Option (Expr × List Token))
    (next : Nat → Expr → List Token → Option (Expr × List Token)) (steps : Nat)
    (result : Expr × List Token) : Prop :=
  ∀ fuel later, steps ≤ fuel → steps ≤ later →
    ∃ value rest, first fuel = some (value, rest) ∧ next later value rest = some result

section

variable {first : Nat → Option (Expr × List Token)}
  {next : Nat → Expr → List Token → Option (Expr × List Token)} {steps more : Nat} {value : Expr}
  {result : Expr × List Token}

theorem GivesThen.mono (h : GivesThen first next steps result) (hle : steps ≤ more) :
    GivesThen first next more result :=
  fun fuel later hfuel hlater => h fuel later (Nat.le_trans hle hfuel) (Nat.le_trans hle hlater)

theorem Gives.followed (hfirst : Gives first steps (value, rest))
    (hnext : Gives (next · value rest) steps result) : GivesThen first next steps result :=
  fun fuel later hfuel hlater => ⟨value, rest, hfirst fuel hfuel, hnext later hlater⟩

end

/-! ## Kept expressions -/

/-- What stands behind the expression goes on with no part of it. -/
structure EndsValue (value : Expr) (rest : List Token) : Prop where
  stops : stops rest = true
  endsBefore : EndsBefore value rest
  continues : Continues value.strength rest

theorem endsValue_of_ends (h : ends rest = true) (value : Expr) : EndsValue value rest := by
  obtain ⟨hstops, hplain, hnone⟩ := exists_of_ends h
  exact ⟨hstops, fun _ => hplain, fun next after hsome => by rw [hnone] at hsome; cases hsome⟩

/-- How the right side of an operator at the level goes on behind a value. -/
structure Tightens (level steps : Nat) (value : Expr) (rest : List Token)
    (result : Expr × List Token) : Prop where
  tightened : Gives (tighten? · level value rest) steps result
  continued : ∀ next after, continuation? rest = some (next, after) → level < next.level →
    GivesThen (continue? · next.level value rest) (tighten? · level) steps result

/-- The expression is read from its tokens, before the reader goes on behind it. -/
structure IsKept (value : Expr) : Prop where
  members : value.takesMembers = true → ∀ {rest steps result}, EndsPath rest →
    (value.isField = true → ∀ tail, rest ≠ .opening .round :: tail) →
    Gives (members? · value rest) steps result →
    Gives (operand? · (value.tokens ++ rest)) (steps + 6 * value.tokens.length) result
  operand : castLevel < value.strength → ∀ {rest}, stops rest = true →
    Gives (operand? · (value.tokens ++ rest)) (6 * value.tokens.length + 1) (value, rest)
  continued : ∀ {rest steps result}, EndsValue value rest →
    Gives (continue? · 0 value rest) steps result →
    GivesThen (operand? · (value.tokens ++ rest)) (continue? · 0)
      (steps + 6 * value.tokens.length + 1) result
  tightened : ∀ {level rest steps result}, level < value.strength → EndsValue value rest →
    Tightens level steps value rest result →
    GivesThen (operand? · (value.tokens ++ rest)) (tighten? · level)
      (steps + 6 * value.tokens.length + 1) result

namespace IsKept

variable {value : Expr}

theorem of_operand (hmembers : value.takesMembers = true → ∀ {rest steps result}, EndsPath rest →
      (value.isField = true → ∀ tail, rest ≠ .opening .round :: tail) →
      Gives (members? · value rest) steps result →
      Gives (operand? · (value.tokens ++ rest)) (steps + 6 * value.tokens.length) result)
    (hoperand : ∀ {rest}, stops rest = true →
      Gives (operand? · (value.tokens ++ rest)) (6 * value.tokens.length + 1) (value, rest)) :
    IsKept value where
  members := hmembers
  operand _ := hoperand
  continued hrest hnext :=
    ((hoperand hrest.stops).mono (by omega)).followed (hnext.mono (by omega))
  tightened _ hrest hnext :=
    ((hoperand hrest.stops).mono (by omega)).followed (hnext.tightened.mono (by omega))

theorem of_members (hmembers : ∀ {rest steps result}, EndsPath rest →
      (value.isField = true → ∀ tail, rest ≠ .opening .round :: tail) →
      Gives (members? · value rest) steps result →
      Gives (operand? · (value.tokens ++ rest)) (steps + 6 * value.tokens.length) result) :
    IsKept value := by
  refine of_operand (fun _ => hmembers) fun hstops => ?_
  have hread : Gives (members? · value _) 1 (value, _) :=
    Gives.succ fun fuel _ => members?_of_stops hstops value fuel
  refine (hmembers (endsPath_of_stops hstops) (fun _ tail htail => ?_) hread).mono (by omega)
  subst htail
  cases hstops

theorem of_atom (hlength : 0 < value.tokens.length)
    (hbare : ∀ rest, prefix? (value.tokens ++ rest) = none)
    (hatom : ∀ {rest}, EndsPath rest →
      Gives (atom? · (value.tokens ++ rest)) (6 * value.tokens.length - 1) (value, rest)) :
    IsKept value := by
  refine of_members fun {rest steps result} hrest _ hmembers => ?_
  have hoperand : Gives (operand? · (value.tokens ++ rest))
      (steps + 6 * value.tokens.length - 1 + 1) result := by
    refine Gives.succ fun fuel hfuel => ?_
    have hread : atom? fuel (value.tokens ++ rest) = some (value, rest) :=
      hatom hrest fuel (by omega)
    rw [operand?_of_atom fuel (hbare rest), hread]
    exact hmembers fuel (by omega)
  exact hoperand.mono (by omega)

/-- An expression that ends is read. -/
theorem gives (h : IsKept value) (hends : ends rest = true) :
    Gives (expr? · (value.tokens ++ rest)) (6 * value.tokens.length + 3) (value, rest) := by
  have hcontinue : Gives (continue? · 0 value rest) 1 (value, rest) := by
    refine Gives.succ fun fuel _ => ?_
    rw [continue?, (exists_of_ends hends).2.2]
  refine Gives.succ fun fuel hfuel => ?_
  obtain ⟨start, after, (hoperand : operand? fuel (value.tokens ++ rest) = _), hread⟩ :=
    h.continued (endsValue_of_ends hends value) hcontinue fuel fuel (by omega) (by omega)
  rw [expr?, hoperand]
  exact hread

end IsKept

/-! ## Operators and casts -/

/-- The tokens behind the left side make it the value. -/
structure GrowsTo (left : Expr) (suffix : List Token) (value : Expr) : Prop where
  tokens : value.tokens = left.tokens ++ suffix
  length : 0 < suffix.length
  takesMembers : value.takesMembers = false
  weak : value.strength ≤ castLevel
  strength : value.strength ≤ left.strength
  endsValue : ∀ {rest}, EndsValue value rest → EndsValue left (suffix ++ rest)
  next : ∀ rest, ∃ next after,
    continuation? (suffix ++ rest) = some (next, after) ∧ next.level = value.strength
  continued : ∀ {rest level fuel}, EndsValue value rest → level ≤ value.strength →
    6 * suffix.length ≤ fuel + 4 →
    continue? (fuel + 1) level left (suffix ++ rest) = continue? fuel level value rest

/-- Behind a value that ends, the reader goes on only with what binds as tightly as the value. -/
theorem Tightens.givesThen {level steps : Nat} {value : Expr} {result : Expr × List Token}
    (h : Tightens level steps value rest result) (hrest : EndsValue value rest)
    (hlevel : level < value.strength) (hweak : value.strength ≤ castLevel) :
    GivesThen (continue? · value.strength value rest) (tighten? · level) (steps + 1) result := by
  intro fuel later hfuel hlater
  have hstay : (∀ next after, continuation? rest = some (next, after) →
      next.level < value.strength) → ∃ middle behind,
        continue? fuel value.strength value rest = some (middle, behind) ∧
          tighten? later level middle behind = some result := by
    intro hweaker
    refine ⟨value, rest, ?_, h.tightened later (by omega)⟩
    cases fuel with
    | zero => omega
    | succ fuel =>
      rw [continue?]
      split
      · rfl
      · rename_i after hcast
        exact absurd (hweaker _ _ hcast) (Nat.not_lt_of_le hweak)
      · rename_i op after hop
        exact if_pos (hweaker _ _ hop)
  cases hnext : continuation? rest with
  | none => exact hstay fun next after hsome => by rw [hnext] at hsome; cases hsome
  | some pair =>
    obtain ⟨next, after⟩ := pair
    rcases Nat.lt_or_eq_of_le (hrest.continues next after hnext) with hweaker | hsame
    · refine hstay fun other behind hother => ?_
      rw [hnext] at hother
      cases hother
      exact hweaker
    · have hgoes := h.continued next after hnext (hsame ▸ hlevel)
      rw [hsame] at hgoes
      exact hgoes fuel later (by omega) (by omega)

namespace GrowsTo

variable {left value : Expr} {suffix : List Token} {level steps : Nat}
  {result : Expr × List Token}

theorem length_tokens (h : GrowsTo left suffix value) :
    value.tokens.length = left.tokens.length + suffix.length := by
  rw [h.tokens, List.length_append]

theorem givesThen (h : GrowsTo left suffix value) (hlevel : level < value.strength)
    (hrest : EndsValue value rest) (hnext : Tightens level steps value rest result) :
    GivesThen (continue? · value.strength left (suffix ++ rest)) (tighten? · level)
      (steps + 6 * suffix.length - 2) result := by
  intro fuel later hfuel hlater
  have hsuffix := h.length
  cases fuel with
  | zero => omega
  | succ fuel =>
    obtain ⟨middle, behind, hmiddle, hread⟩ :=
      hnext.givesThen hrest hlevel h.weak fuel later (by omega) (by omega)
    exact ⟨middle, behind,
      (h.continued hrest (Nat.le_refl _) (by omega)).trans hmiddle, hread⟩

theorem tightens (h : GrowsTo left suffix value) (hlevel : level < value.strength)
    (hrest : EndsValue value rest) (hnext : Tightens level steps value rest result) :
    Tightens level (steps + 6 * suffix.length - 1) left (suffix ++ rest) result := by
  have hsuffix := h.length
  have hgrown := h.givesThen hlevel hrest hnext
  obtain ⟨next, after, hsome, hstrength⟩ := h.next rest
  constructor
  · have hread : Gives (tighten? · level left (suffix ++ rest))
        (steps + 6 * suffix.length - 2 + 1) result := by
      refine Gives.succ fun fuel hfuel => ?_
      obtain ⟨middle, behind, (hmiddle : continue? fuel value.strength left _ = _), hread⟩ :=
        hgrown fuel fuel hfuel hfuel
      have hbinds : ¬ value.strength ≤ level := Nat.not_le_of_lt hlevel
      simp only [tighten?, hsome, hstrength, if_neg hbinds, hmiddle]
      exact hread
    exact hread.mono (by omega)
  · intro other behind hother _
    rw [hsome] at hother
    cases hother
    rw [hstrength]
    exact hgrown.mono (by omega)

theorem isKept (h : GrowsTo left suffix value) (hleft : IsKept left) : IsKept value where
  members htakes := by
    rw [h.takesMembers] at htakes
    cases htakes
  operand hstrength := absurd hstrength (Nat.not_lt_of_le h.weak)
  continued {rest steps result} hrest hnext := by
    have hlength := h.length_tokens
    have hsuffix := h.length
    have hgrown : Gives (continue? · 0 left (suffix ++ rest)) (steps + (6 * suffix.length - 4) + 1)
        result := by
      refine Gives.succ fun fuel hfuel => ?_
      rw [h.continued hrest (Nat.zero_le _) (by omega)]
      exact hnext fuel (by omega)
    rw [h.tokens, List.append_assoc, ← h.tokens]
    exact (hleft.continued (h.endsValue hrest) hgrown).mono (by omega)
  tightened {level rest steps result} hlevel hrest hnext := by
    have hlength := h.length_tokens
    have hsuffix := h.length
    rw [h.tokens, List.append_assoc, ← h.tokens]
    exact (hleft.tightened (Nat.lt_of_lt_of_le hlevel h.strength) (h.endsValue hrest)
      (h.tightens hlevel hrest hnext)).mono (by omega)

end GrowsTo

/-- The right side of an operator is read up to where the whole expression ends. -/
theorem givesThen_right {op : InfixOp} {left right : Expr} (hright : IsKept right)
    (htighter : op.level < right.strength) (hrest : EndsValue (.infixed op left right) rest) :
    GivesThen (operand? · (right.tokens ++ rest)) (tighten? · op.level)
      (6 * right.tokens.length + 2) (right, rest) := by
  have hstop : Tightens op.level 1 right rest (right, rest) := by
    constructor
    · refine Gives.succ fun fuel _ => ?_
      rw [tighten?]
      split
      · rfl
      · rename_i next after hnext
        exact if_pos (hrest.continues next after hnext)
    · exact fun next after hnext hbinds =>
        absurd (hrest.continues next after hnext) (Nat.not_le_of_lt hbinds)
  have hends : EndsValue right rest :=
    ⟨hrest.stops, hrest.endsBefore, hrest.continues.mono (Nat.le_of_lt htighter)⟩
  exact (hright.tightened htighter hends hstop).mono (by omega)

theorem growsTo_infixed {op : InfixOp} {left right : Expr} (hright : IsKept right)
    (hlevel : op.level ≤ left.strength) (htighter : op.level < right.strength)
    (hcompared : (op.isComparison && isComparison left) = false)
    (hends : left.endsInCast = true → op ≠ .lt ∧ op ≠ .shiftLeft) :
    GrowsTo left (op.tokens ++ right.tokens) (.infixed op left right) where
  tokens := Expr.tokens_infixed op left right
  length := by
    rw [List.length_append]
    exact Nat.add_pos_left (length_infixed op) _
  takesMembers := rfl
  weak := Nat.le_of_lt op.level_lt
  strength := hlevel
  endsValue {rest} _ := by
    rw [List.append_assoc]
    refine ⟨stops_infixed op _, fun hcast => extendsCast_infixed (hends hcast) _, ?_⟩
    intro next after hnext
    rw [continuation?_infixed] at hnext
    cases hnext
    exact hlevel
  next rest := ⟨.infixed op, right.tokens ++ rest,
    by rw [List.append_assoc, continuation?_infixed], rfl⟩
  continued {rest level fuel} hrest hle hfuel := by
    have hop := length_infixed op
    rw [List.length_append] at hfuel
    obtain ⟨start, after, (hoperand : operand? fuel _ = _), (hread : tighten? fuel _ _ _ = _)⟩ :=
      givesThen_right hright htighter hrest fuel fuel (by omega) (by omega)
    have hbinds : ¬ op.level < level := Nat.not_lt_of_le hle
    have hallowed : ¬ (op.isComparison && isComparison left) = true := by
      rw [hcompared]
      exact Bool.false_ne_true
    rw [List.append_assoc, continue?, continuation?_infixed]
    simp only [if_neg hbinds, if_neg hallowed, hoperand, hread, Option.bind_eq_bind,
      Option.bind_some]

theorem growsTo_cast {value : Expr} {isGlobal : Bool} {segments : List Name}
    (hstrength : castLevel ≤ value.strength) (hne : segments ≠ [])
    (hsegments : AreSegments segments) :
    GrowsTo value (word "as" ++ (Ty.path isGlobal segments).tokens)
      (.cast value (.path isGlobal segments)) where
  tokens := Expr.tokens_cast value _
  length := Nat.succ_pos _
  takesMembers := rfl
  weak := Nat.le_refl _
  strength := hstrength
  endsValue _ := ⟨rfl, fun _ => rfl, fun next after hnext => by cases hnext; exact hstrength⟩
  next rest := ⟨.cast, _, rfl, rfl⟩
  continued {rest level fuel} hrest _ _ := by
    have htype : castType? ((Ty.path isGlobal segments).tokens ++ rest) = _ :=
      castType?_tokens hne hsegments (endsPath_of_stops hrest.stops) (hrest.endsBefore rfl)
    have hcast : continuation? (word "as" ++ ((Ty.path isGlobal segments).tokens ++ rest))
        = some (.cast, (Ty.path isGlobal segments).tokens ++ rest) := rfl
    rw [List.append_assoc, continue?, hcast]
    simp only [htype, Option.bind_eq_bind, Option.bind_some]

/-! ## First tokens -/

/-- An expression may start with the token. -/
def startsValue : Token → Bool
  | .closing _ => false
  | .name spelling => spelling != "mut"
  | _ => true

theorem ne_closing_of_starts {first : Token} (h : startsValue first = true) (delimiter : Delimiter) :
    first ≠ .closing delimiter := by
  rintro rfl
  cases h

theorem exists_of_isGrouped {value : Expr} (h : value.IsGrouped) :
    ∃ first others, value.tokens = first :: others ∧ startsValue first = true := by
  have hbehind : ∀ {left : Expr} {suffix : List Token},
      (∃ first others, left.tokens = first :: others ∧ startsValue first = true) →
      ∃ first others, left.tokens ++ suffix = first :: others ∧ startsValue first = true := by
    rintro left suffix ⟨first, others, htokens, hfirst⟩
    exact ⟨first, others ++ suffix, by rw [htokens]; rfl, hfirst⟩
  induction h with
  | path hne hsegments =>
    rename_i isGlobal segments
    obtain ⟨name, others, rfl⟩ := List.exists_cons_of_ne_nil hne
    obtain ⟨spelling, rfl, -, hsegment⟩ := hsegments name List.mem_cons_self
    change ∃ first others, rootedPathTokens _ _ = first :: others ∧ _
    rw [rootedPathTokens, pathTokens_cons]
    cases isGlobal with
    | false =>
      refine ⟨_, _, rfl, bne_iff_ne.mpr ?_⟩
      rintro rfl
      exact absurd hsegment (by decide)
    | true => exact ⟨_, _, rfl, rfl⟩
  | literal | paren | tuple | array | repeated => exact ⟨_, _, rfl, rfl⟩
  | placeholder => exact ⟨_, _, rfl, rfl⟩
  | @prefixed op operand => cases op <;> exact ⟨_, _, rfl, rfl⟩
  | infixed _ _ _ _ _ _ ih _ =>
    rw [Expr.tokens_infixed]
    exact hbehind ih
  | cast _ _ _ _ ih =>
    rw [Expr.tokens_cast]
    exact hbehind ih
  | field _ _ _ ih =>
    rw [Expr.tokens_field]
    exact hbehind ih
  | component _ _ _ ih =>
    rw [Expr.tokens_component]
    exact hbehind ih
  | element _ _ _ ih _ | call _ _ _ _ _ ih _ | attempt _ _ ih => exact hbehind ih
  | method _ _ _ _ _ ih _ =>
    rw [Expr.tokens_method]
    exact hbehind ih

/-! ## Lists of expressions -/

theorem length_enclosed (delimiter : Delimiter) (tokens : List Token) :
    (enclosed delimiter tokens).length = tokens.length + 2 := by
  rw [enclosed, List.length_append]
  rfl

theorem enclosed_append (delimiter : Delimiter) (tokens rest : List Token) :
    enclosed delimiter tokens ++ rest
      = .opening delimiter :: (tokens ++ .closing delimiter :: rest) := by
  rw [enclosed, List.append_assoc]
  rfl

/-- The tokens of the expressions and of the bracket that closes them. -/
def closedTokens (items : List Expr) (hasLastComma : Bool) (delimiter : Delimiter)
    (rest : List Token) : List Token :=
  Expr.listTokens items hasLastComma ++ .closing delimiter :: rest

section

variable {items : List Expr} {hasLastComma : Bool} {delimiter : Delimiter} {steps : Nat}

theorem ends_commaBefore :
    ends (commaBefore items hasLastComma ++ closedTokens items hasLastComma delimiter rest)
      = true := by
  cases items <;> cases hasLastComma <;> rfl

theorem furtherItems?_of_items (first : Expr)
    (hitems : Gives (items? · delimiter (closedTokens items hasLastComma delimiter rest)) steps
      ((items, !items.isEmpty && hasLastComma), rest)) :
    Gives (furtherItems? · delimiter first
        (commaBefore items hasLastComma ++ closedTokens items hasLastComma delimiter rest))
      (steps + 1) ((first :: items, hasLastComma), rest) := by
  refine Gives.succ fun fuel hfuel => ?_
  have hread : items? fuel delimiter (closedTokens items hasLastComma delimiter rest) = _ :=
    hitems fuel hfuel
  unfold commaBefore
  split
  · rename_i hlast
    rw [Bool.and_eq_true, Bool.not_eq_true', List.isEmpty_iff] at hlast
    obtain ⟨rfl, rfl⟩ := hlast
    change furtherItems? (fuel + 1) delimiter first (.closing delimiter :: rest) = _
    rw [furtherItems?, if_pos (beq_self_eq_true delimiter)]
  · rename_i hcomma
    simp only [List.singleton_append, comma, furtherItems?, hread, Option.bind_eq_bind,
      Option.bind_some]
    cases items with
    | nil => simp_all
    | cons => rfl

/-- The items of a list are read up to its closing bracket. -/
theorem items?_of_isKept (hgrouped : ∀ item ∈ items, item.IsGrouped)
    (hkept : ∀ item ∈ items, IsKept item) :
    Gives (items? · delimiter (closedTokens items hasLastComma delimiter rest))
      (6 * (Expr.listTokens items hasLastComma).length + 4)
      ((items, !items.isEmpty && hasLastComma), rest) := by
  induction items with
  | nil =>
    refine Gives.succ fun fuel _ => ?_
    change items? (fuel + 1) delimiter (.closing delimiter :: rest) = _
    rw [items?, if_pos (beq_self_eq_true delimiter)]
    rfl
  | cons item items ih =>
    rw [List.forall_mem_cons] at hgrouped hkept
    obtain ⟨first, others, htokens, hfirst⟩ := exists_of_isGrouped hgrouped.1
    have hpieces : closedTokens (item :: items) hasLastComma delimiter rest = item.tokens
        ++ (commaBefore items hasLastComma ++ closedTokens items hasLastComma delimiter rest) := by
      rw [closedTokens, Expr.listTokens_cons, List.append_assoc, List.append_assoc]
      rfl
    have hlength : 0 < item.tokens.length := by
      rw [htokens]
      exact Nat.succ_pos _
    have hfurther := furtherItems?_of_items item (ih hgrouped.2 hkept.2)
    have hends : ends (commaBefore items hasLastComma
        ++ closedTokens items hasLastComma delimiter rest) = true := ends_commaBefore
    rw [hpieces, Expr.listTokens_cons, List.length_append, List.length_append]
    generalize commaBefore items hasLastComma ++ closedTokens items hasLastComma delimiter rest
      = behind at hfurther hends
    refine Gives.succ fun fuel hfuel => ?_
    have hitem : expr? fuel (item.tokens ++ behind) = some (item, behind) :=
      hkept.1.gives hends fuel (by omega)
    have hothers : furtherItems? fuel delimiter item behind
        = some ((item :: items, hasLastComma), rest) := hfurther fuel (by omega)
    unfold items?
    split
    · rename_i closed tail hclosing
      rw [htokens] at hclosing
      cases hclosing
      cases hfirst
    · simp only [hitem, hothers, Option.bind_eq_bind, Option.bind_some]
      rfl

/-- Where nothing stands before it, no comma does. -/
theorem closedItems?_of_isKept (hgrouped : ∀ item ∈ items, item.IsGrouped)
    (hkept : ∀ item ∈ items, IsKept item) (hempty : items = [] → hasLastComma = false) :
    Gives (items? · delimiter (closedTokens items hasLastComma delimiter rest))
      (6 * (Expr.listTokens items hasLastComma).length + 4) ((items, hasLastComma), rest) := by
  have hflag : (!items.isEmpty && hasLastComma) = hasLastComma := by
    cases items with
    | nil => exact (hempty rfl).symm
    | cons => rfl
  have hitems : Gives (items? · delimiter (closedTokens items hasLastComma delimiter rest)) _
      ((items, !items.isEmpty && hasLastComma), rest) := items?_of_isKept hgrouped hkept
  rw [hflag] at hitems
  exact hitems

end

/-! ## Values and their members -/

theorem prefix?_tokens (op : PrefixOp) {first : Token} {others : List Token}
    (hfirst : startsValue first = true) :
    prefix? (op.tokens ++ first :: others) = some (op, first :: others) := by
  cases op with
  | borrow =>
    change prefix? (.mark '&' false :: first :: others) = _
    rw [prefix?]
    rintro rest htokens
    cases htokens
    exact absurd hfirst (by decide)
  | _ => rfl

namespace IsKept

variable {value : Expr}

theorem prefixed {op : PrefixOp} {operand : Expr} (hgrouped : operand.IsGrouped)
    (h : IsKept operand) (hstrength : castLevel < operand.strength) :
    IsKept (.prefixed op operand) := by
  refine of_operand (fun htakes => by cases htakes) fun {rest} hstops => ?_
  obtain ⟨first, others, htokens, hfirst⟩ := exists_of_isGrouped hgrouped
  have hop : prefix? (op.tokens ++ (operand.tokens ++ rest))
      = some (op, operand.tokens ++ rest) := by
    rw [htokens]
    exact prefix?_tokens op hfirst
  have hlength : 0 < op.tokens.length := by cases op <;> decide
  change Gives (operand? · (op.tokens ++ operand.tokens ++ rest))
    (6 * (op.tokens ++ operand.tokens).length + 1) _
  rw [List.append_assoc, List.length_append]
  refine Gives.succ fun fuel hfuel => ?_
  have hoperand : operand? fuel (operand.tokens ++ rest) = some (operand, rest) :=
    h.operand hstrength hstops fuel (by omega)
  simp only [operand?, hop, hoperand, Option.bind_eq_bind, Option.bind_some]
  rfl

theorem path {isGlobal : Bool} {segments : List Name} (hne : segments ≠ [])
    (hsegments : AreSegments segments) : IsKept (.path isGlobal segments) := by
  obtain ⟨first, others, rfl⟩ := List.exists_cons_of_ne_nil hne
  obtain ⟨spelling, rfl, -, hsegment⟩ := hsegments first List.mem_cons_self
  have htrue : spelling ≠ "true" := by
    rintro rfl
    exact absurd hsegment (by decide)
  have hfalse : spelling ≠ "false" := by
    rintro rfl
    exact absurd hsegment (by decide)
  have hwildcard : spelling ≠ "_" := by
    rintro rfl
    exact absurd hsegment (by decide)
  have hlength : 0 < (Expr.path isGlobal (.verbatim spelling :: others)).tokens.length := by
    change 0 < (rootedPathTokens isGlobal _).length
    rw [rootedPathTokens, pathTokens_cons]
    cases isGlobal <;> exact Nat.succ_pos _
  refine of_atom hlength (fun rest => ?_) fun {rest} hrest => ?_
  · change prefix? (rootedPathTokens isGlobal _ ++ rest) = none
    rw [rootedPathTokens, pathTokens_cons]
    cases isGlobal <;> rfl
  · have hpath : path? (rootedPathTokens isGlobal _ ++ rest) = _ :=
      path?_tokens hne hsegments hrest
    have hread : Gives
        (atom? · ((Expr.path isGlobal (.verbatim spelling :: others)).tokens ++ rest)) 1
        (.path isGlobal (.verbatim spelling :: others), rest) := by
      refine Gives.succ fun fuel _ => ?_
      change atom? (fuel + 1) (rootedPathTokens isGlobal _ ++ rest) = _
      rw [rootedPathTokens, pathTokens_cons] at hpath ⊢
      cases isGlobal with
      | false =>
        change path? (.name spelling :: _) = _ at hpath
        change atom? (fuel + 1) (.name spelling :: _) = _
        rw [atom?, hpath]
        · rfl
        all_goals simp_all
      | true =>
        change path? (.mark ':' true :: _) = _ at hpath
        change atom? (fuel + 1) (.mark ':' true :: _) = _
        rw [atom?, hpath]
        · rfl
        all_goals simp
    exact hread.mono (by omega)

theorem literal (spelling : String) : IsKept (.literal spelling) := by
  refine of_atom Nat.one_pos (fun _ => rfl) fun {rest} _ => ?_
  have hread : Gives (atom? · ((Expr.literal spelling).tokens ++ rest)) 1
      (.literal spelling, rest) :=
    Gives.succ fun _ _ => rfl
  exact hread.mono (Nat.le_add_left 1 4)

theorem placeholder : IsKept .placeholder := by
  refine of_atom Nat.one_pos (fun _ => rfl) fun {rest} _ => ?_
  have hread : Gives (atom? · (Expr.placeholder.tokens ++ rest)) 1 (.placeholder, rest) :=
    Gives.succ fun _ _ => rfl
  exact hread.mono (by decide)

theorem paren {inner : Expr} (hgrouped : inner.IsGrouped) (h : IsKept inner) :
    IsKept (.paren inner) := by
  refine of_atom (Nat.succ_pos _) (fun _ => rfl) fun {rest} _ => ?_
  have hitems : Gives (items? · .round (closedTokens [inner] false .round rest)) _
      (([inner], false), rest) :=
    items?_of_isKept (List.forall_mem_singleton.mpr hgrouped) (List.forall_mem_singleton.mpr h)
  have htokens : (Expr.paren inner).tokens ++ rest
      = .opening .round :: closedTokens [inner] false .round rest := by
    rw [closedTokens, Expr.listTokens_singleton]
    exact enclosed_append _ _ _
  have hlength : (Expr.paren inner).tokens.length
      = (Expr.listTokens [inner] false).length + 2 := by
    rw [Expr.listTokens_singleton]
    exact length_enclosed _ _
  have hread : Gives (atom? · (.opening .round :: closedTokens [inner] false .round rest))
      (6 * (Expr.listTokens [inner] false).length + 4 + 1) (.paren inner, rest) := by
    refine Gives.succ fun fuel hfuel => ?_
    have hinner : items? fuel .round _ = _ := hitems fuel hfuel
    rw [atom?_round, hinner]
    rfl
  rw [htokens]
  exact hread.mono (by omega)

section

variable {items : List Expr} {hasLastComma : Bool}

theorem tuple (hgrouped : ∀ item ∈ items, item.IsGrouped) (h : ∀ item ∈ items, IsKept item)
    (hempty : items = [] → hasLastComma = false)
    (hsingle : items.length = 1 → hasLastComma = true) :
    IsKept (.tuple items hasLastComma) := by
  refine of_atom (Nat.succ_pos _) (fun _ => rfl) fun {rest} _ => ?_
  have hitems : Gives (items? · .round (closedTokens items hasLastComma .round rest)) _
      ((items, hasLastComma), rest) := closedItems?_of_isKept hgrouped h hempty
  have htokens : (Expr.tuple items hasLastComma).tokens ++ rest
      = .opening .round :: closedTokens items hasLastComma .round rest := by
    exact enclosed_append _ _ _
  have hlength : (Expr.tuple items hasLastComma).tokens.length
      = (Expr.listTokens items hasLastComma).length + 2 := length_enclosed _ _
  have hread : Gives (atom? · (.opening .round :: closedTokens items hasLastComma .round rest))
      (6 * (Expr.listTokens items hasLastComma).length + 4 + 1)
      (.tuple items hasLastComma, rest) := by
    refine Gives.succ fun fuel hfuel => ?_
    have hinner : items? fuel .round _ = _ := hitems fuel hfuel
    rw [atom?_round, hinner, Option.bind_some]
    split
    · rename_i hitems hlast
      have hsame := (hsingle (congrArg List.length hitems)).symm.trans hlast
      cases hsame
    · rfl
  rw [htokens]
  exact hread.mono (by omega)

theorem array (hgrouped : ∀ item ∈ items, item.IsGrouped) (h : ∀ item ∈ items, IsKept item)
    (hempty : items = [] → hasLastComma = false) : IsKept (.array items hasLastComma) := by
  refine of_atom (Nat.succ_pos _) (fun _ => rfl) fun {rest} _ => ?_
  cases items with
  | nil =>
    cases hempty rfl
    have hread : Gives (atom? · ((Expr.array [] false).tokens ++ rest)) 1 (.array [] false, rest) :=
      Gives.succ fun _ _ => rfl
    exact hread.mono (by decide)
  | cons first others =>
    rw [List.forall_mem_cons] at hgrouped h
    obtain ⟨head, tail, hhead, hstarts⟩ := exists_of_isGrouped hgrouped.1
    have hothers : Gives (items? · .square (closedTokens others hasLastComma .square rest)) _
        ((others, !others.isEmpty && hasLastComma), rest) := items?_of_isKept hgrouped.2 h.2
    have hfurther := furtherItems?_of_items first hothers
    have hends : ends (commaBefore others hasLastComma
        ++ closedTokens others hasLastComma .square rest) = true := ends_commaBefore
    have hitem : afterMarks? [';'] (commaBefore others hasLastComma
        ++ closedTokens others hasLastComma .square rest) = none := by
      cases others <;> cases hasLastComma <;> rfl
    have htokens : (Expr.array (first :: others) hasLastComma).tokens ++ rest
        = .opening .square :: (first.tokens ++ (commaBefore others hasLastComma
          ++ closedTokens others hasLastComma .square rest)) := by
      change enclosed .square (Expr.listTokens (first :: others) hasLastComma) ++ rest = _
      rw [enclosed_append, Expr.listTokens_cons, List.append_assoc, List.append_assoc]
      rfl
    have hlength : (Expr.array (first :: others) hasLastComma).tokens.length
        = first.tokens.length + (commaBefore others hasLastComma).length
          + (Expr.listTokens others hasLastComma).length + 2 := by
      change (enclosed .square (Expr.listTokens (first :: others) hasLastComma)).length = _
      rw [length_enclosed, Expr.listTokens_cons, List.length_append, List.length_append]
      omega
    rw [htokens, hlength]
    generalize commaBefore others hasLastComma ++ closedTokens others hasLastComma .square rest
      = behind at hfurther hends hitem
    have hread : Gives (atom? · (.opening .square :: (first.tokens ++ behind)))
        (6 * (first.tokens.length + (Expr.listTokens others hasLastComma).length) + 5 + 1)
        (.array (first :: others) hasLastComma, rest) := by
      refine Gives.succ fun fuel hfuel => ?_
      have hfirst : expr? fuel (first.tokens ++ behind) = some (first, behind) :=
        h.1.gives hends fuel (by omega)
      have hbehind : furtherItems? fuel .square first behind
          = some ((first :: others, hasLastComma), rest) := hfurther fuel (by omega)
      rw [hhead] at hfirst ⊢
      rw [List.cons_append] at hfirst ⊢
      rw [atom?_square fuel _ (ne_closing_of_starts hstarts), hfirst]
      simp only [Option.bind_some, hitem, hbehind]
    exact hread.mono (by omega)

theorem repeated {item length : Expr} (hgrouped : item.IsGrouped) (hitem : IsKept item)
    (hlength : IsKept length) : IsKept (.repeated item length) := by
  refine of_atom (Nat.succ_pos _) (fun _ => rfl) fun {rest} _ => ?_
  obtain ⟨head, tail, hhead, hstarts⟩ := exists_of_isGrouped hgrouped
  have htokens : (Expr.repeated item length).tokens ++ rest
      = .opening .square :: (item.tokens
        ++ .mark ';' false :: (length.tokens ++ .closing .square :: rest)) := by
    change enclosed .square (item.tokens ++ [.mark ';' false] ++ length.tokens) ++ rest = _
    rw [enclosed_append, List.append_assoc, List.append_assoc]
    rfl
  have hsize : (Expr.repeated item length).tokens.length
      = item.tokens.length + length.tokens.length + 3 := by
    change (enclosed .square (item.tokens ++ [.mark ';' false] ++ length.tokens)).length = _
    rw [length_enclosed, List.length_append, List.length_append, List.length_singleton]
    omega
  have hread : Gives (atom? · ((Expr.repeated item length).tokens ++ rest))
      (6 * (item.tokens.length + length.tokens.length) + 3 + 1) (.repeated item length, rest) := by
    refine Gives.succ fun fuel hfuel => ?_
    have hfirst : expr? fuel (item.tokens
        ++ .mark ';' false :: (length.tokens ++ .closing .square :: rest)) = some (item, _) :=
      hitem.gives rfl fuel (by omega)
    have hsecond : expr? fuel (length.tokens ++ .closing .square :: rest)
        = some (length, .closing .square :: rest) := hlength.gives rfl fuel (by omega)
    have hmark : ∀ tokens, afterMarks? [';'] (.mark ';' false :: tokens) = some tokens :=
      fun _ => rfl
    rw [htokens]
    rw [hhead, List.cons_append] at hfirst ⊢
    rw [atom?_square fuel _ (ne_closing_of_starts hstarts), hfirst]
    simp only [Option.bind_some, hmark, hsecond]
  exact hread.mono (by omega)

end

/-! ### Members -/

/-- A member follows a value that can have one. -/
theorem of_member {grown : Expr} {suffix : List Token} (h : IsKept value)
    (htakes : value.takesMembers = true) (htokens : grown.tokens = value.tokens ++ suffix)
    (hends : ∀ rest, EndsPath (suffix ++ rest))
    (hfield : value.isField = true → ∀ rest tail, suffix ++ rest ≠ .opening .round :: tail)
    (hmembers : ∀ {rest steps result},
      (grown.isField = true → ∀ tail, rest ≠ .opening .round :: tail) →
      Gives (members? · grown rest) steps result →
      Gives (members? · value (suffix ++ rest)) (steps + 6 * suffix.length) result) :
    IsKept grown := by
  refine of_members fun {rest steps result} _ hgrown hread => ?_
  have hlength : grown.tokens.length = value.tokens.length + suffix.length := by
    rw [htokens, List.length_append]
  rw [htokens, List.append_assoc, ← htokens]
  exact (h.members htakes (hends rest) (fun hisField => hfield hisField rest)
    (hmembers hgrown hread)).mono (by omega)

theorem field {spelling : String} (h : IsKept value) (htakes : value.takesMembers = true)
    (hname : IsMemberName spelling) : IsKept (.field value (.verbatim spelling)) := by
  have htokens : (Expr.field value (.verbatim spelling)).tokens
      = value.tokens ++ [.mark '.' false, .name spelling] := Expr.tokens_field value _
  refine of_member h htakes htokens (fun rest isJoint tail htail => by cases htail)
    (fun _ rest tail htail => by cases htail) fun {rest steps result} hrest hread => ?_
  have hmember : Gives (members? · value (.mark '.' false :: .name spelling :: rest))
      (steps + 1 + 1) result := by
    refine Gives.succ fun fuel hfuel => ?_
    cases fuel with
    | zero => omega
    | succ fuel =>
      have hread : members? fuel (.field value (.verbatim spelling)) rest = some result :=
        hread fuel (by omega)
      rw [members?_name, named?, if_neg (by rw [hname.isBare]; exact Bool.false_ne_true), hread]
      exact hrest rfl
  exact hmember.mono (by simp)

theorem component {position : String} (h : IsKept value) (htakes : value.takesMembers = true)
    (hposition : components? position = some ([position], false)) :
    IsKept (.component value position) := by
  have htokens : (Expr.component value position).tokens
      = value.tokens ++ [.mark '.' false, .literal position] := Expr.tokens_component value _
  refine of_member h htakes htokens (fun rest isJoint tail htail => by cases htail)
    (fun _ rest tail htail => by cases htail) fun {rest steps result} _ hread => ?_
  have hmember : Gives (members? · value (.mark '.' false :: .literal position :: rest))
      (steps + 1) result := by
    refine Gives.succ fun fuel hfuel => ?_
    rw [members?_literal, hposition]
    exact hread fuel hfuel
  exact hmember.mono (by simp)

theorem element {position : Expr} (h : IsKept value) (htakes : value.takesMembers = true)
    (hposition : IsKept position) : IsKept (.element value position) := by
  refine of_member h htakes (Expr.tokens_element value position) (fun rest isJoint tail htail => by cases htail)
    (fun _ rest tail htail => by cases htail) fun {rest steps result} _ hread => ?_
  have hmember : Gives (members? · value (.opening .square ::
      (position.tokens ++ .closing .square :: rest)))
      (steps + 6 * position.tokens.length + 3 + 1) result := by
    refine Gives.succ fun fuel hfuel => ?_
    have hinner : expr? fuel (position.tokens ++ .closing .square :: rest)
        = some (position, .closing .square :: rest) := hposition.gives rfl fuel (by omega)
    rw [members?_square, hinner]
    exact hread fuel (by omega)
  rw [enclosed_append]
  exact hmember.mono (by simp [enclosed]; omega)

theorem attempt (h : IsKept value) (htakes : value.takesMembers = true) :
    IsKept (.attempt value) := by
  refine of_member h htakes (Expr.tokens_attempt value) (fun rest isJoint tail htail => by cases htail)
    (fun _ rest tail htail => by cases htail) fun {rest steps result} _ hread => ?_
  have hmember : Gives (members? · value (.mark '?' false :: rest)) (steps + 1) result := by
    refine Gives.succ fun fuel hfuel => ?_
    rw [members?_attempt]
    exact hread fuel hfuel
  exact hmember.mono (Nat.add_le_add_left (by decide) steps)

section

variable {arguments : List Expr} {hasLastComma : Bool}

theorem call (h : IsKept value) (htakes : value.takesMembers = true)
    (hfield : value.isField = false) (hgrouped : ∀ argument ∈ arguments, argument.IsGrouped)
    (harguments : ∀ argument ∈ arguments, IsKept argument)
    (hempty : arguments = [] → hasLastComma = false) :
    IsKept (.call value arguments hasLastComma) := by
  refine of_member h htakes (Expr.tokens_call value arguments hasLastComma) (fun rest isJoint tail htail => by cases htail)
    (fun hisField => by rw [hfield] at hisField; cases hisField)
    fun {rest steps result} _ hread => ?_
  have hitems : Gives (items? · .round (closedTokens arguments hasLastComma .round rest)) _
      ((arguments, hasLastComma), rest) := closedItems?_of_isKept hgrouped harguments hempty
  have hmember : Gives (members? · value (.opening .round ::
      closedTokens arguments hasLastComma .round rest))
      (steps + 6 * (Expr.listTokens arguments hasLastComma).length + 4 + 1) result := by
    refine Gives.succ fun fuel hfuel => ?_
    have hinner : items? fuel .round _ = _ := hitems fuel (by omega)
    rw [members?_round, hinner]
    exact hread fuel (by omega)
  rw [enclosed_append]
  exact hmember.mono (by simp [enclosed]; omega)

theorem method {spelling : String} (h : IsKept value) (htakes : value.takesMembers = true)
    (hname : IsMemberName spelling) (hgrouped : ∀ argument ∈ arguments, argument.IsGrouped)
    (harguments : ∀ argument ∈ arguments, IsKept argument)
    (hempty : arguments = [] → hasLastComma = false) :
    IsKept (.method value (.verbatim spelling) [] arguments hasLastComma) := by
  have htokens : (Expr.method value (.verbatim spelling) [] arguments hasLastComma).tokens
      = value.tokens ++ .mark '.' false :: .name spelling
        :: enclosed .round (Expr.listTokens arguments hasLastComma) :=
    Expr.tokens_method value _ arguments hasLastComma
  refine of_member h htakes htokens (fun rest isJoint tail htail => by cases htail)
    (fun _ rest tail htail => by cases htail) fun {rest steps result} _ hread => ?_
  have hitems : Gives (items? · .round (closedTokens arguments hasLastComma .round rest)) _
      ((arguments, hasLastComma), rest) := closedItems?_of_isKept hgrouped harguments hempty
  have hmember : Gives (members? · value (.mark '.' false :: .name spelling :: .opening .round ::
      closedTokens arguments hasLastComma .round rest))
      (steps + 6 * (Expr.listTokens arguments hasLastComma).length + 4 + 1 + 1) result := by
    refine Gives.succ fun fuel hfuel => ?_
    cases fuel with
    | zero => omega
    | succ fuel =>
      have hinner : items? fuel .round _ = _ := hitems fuel (by omega)
      rw [members?_name, named?_round,
        if_neg (by rw [hname.isBare]; exact Bool.false_ne_true), hinner]
      exact hread fuel (by omega)
  rw [List.cons_append, List.cons_append, enclosed_append]
  exact hmember.mono (by simp [enclosed]; omega)

end

end IsKept

/-! ## All of an expression -/

theorem isKept {value : Expr} (h : value.IsGrouped) : IsKept value := by
  induction h with
  | path hne hsegments => exact .path hne hsegments
  | literal spelling => exact .literal spelling
  | placeholder => exact .placeholder
  | prefixed hoperand hstrength ih => exact .prefixed hoperand ih hstrength
  | infixed _ _ hlevel htighter hcompared hends ihLeft ihRight =>
    exact (growsTo_infixed ihRight hlevel htighter hcompared hends).isKept ihLeft
  | cast _ hstrength hne hsegments ih => exact (growsTo_cast hstrength hne hsegments).isKept ih
  | paren hinner ih => exact .paren hinner ih
  | tuple hitems hempty hsingle ih => exact .tuple hitems ih hempty hsingle
  | array hitems hempty ih => exact .array hitems ih hempty
  | repeated hitem _ ihItem ihLength => exact .repeated hitem ihItem ihLength
  | field _ hvalue hname ih => exact ih.field hvalue hname
  | component _ hvalue hposition ih => exact ih.component hvalue hposition
  | element _ hvalue _ ih ihPosition => exact ih.element hvalue ihPosition
  | call _ hfunction hfield harguments hempty ih ihArguments =>
    exact ih.call hfunction hfield harguments ihArguments hempty
  | method _ hvalue hname harguments hempty ih ihArguments =>
    exact ih.method hvalue hname harguments ihArguments hempty
  | attempt _ hvalue ih => exact ih.attempt hvalue

/-- A grouped expression is read back from its tokens. -/
theorem read?_tokens {value : Expr} (h : value.IsGrouped) : read? value.tokens = some value := by
  have hread : expr? (stepsFor value.tokens) (value.tokens ++ []) = some (value, []) :=
    (isKept h).gives rfl _ (by rw [stepsFor]; omega)
  rw [List.append_nil] at hread
  rw [read?, hread]

/-! ## Names among the tokens -/

theorem areSpelled_append {first second : List Token} :
    AreSpelled (first ++ second) ↔ AreSpelled first ∧ AreSpelled second := by
  constructor
  · exact fun h => ⟨fun spelling hmem => h spelling (List.mem_append_left _ hmem),
      fun spelling hmem => h spelling (List.mem_append_right _ hmem)⟩
  · rintro ⟨hfirst, hsecond⟩ spelling hmem
    rcases List.mem_append.mp hmem with hmem | hmem
    · exact hfirst spelling hmem
    · exact hsecond spelling hmem

theorem areSpelled_word {spelling : String} (h : isSpelling spelling.toList = true) :
    AreSpelled (word spelling) := by
  intro other hmem
  cases List.mem_singleton.mp hmem
  exact h

theorem areSpelled_operator (signs : List Char) : AreSpelled (operator signs) := by
  induction signs with
  | nil => exact fun _ hmem => absurd hmem List.not_mem_nil
  | cons sign signs ih =>
    cases signs with
    | nil =>
      intro spelling hmem
      cases List.mem_singleton.mp hmem
    | cons next signs =>
      intro spelling hmem
      rcases List.mem_cons.mp hmem with hmark | hmem
      · cases hmark
      · exact ih spelling hmem

theorem areSpelled_enclosed {delimiter : Delimiter} (h : AreSpelled tokens) :
    AreSpelled (enclosed delimiter tokens) := by
  intro spelling hmem
  rcases List.mem_append.mp hmem with hmem | hclosing
  · rcases List.mem_cons.mp hmem with hopening | hmem
    · cases hopening
    · exact h spelling hmem
  · cases List.mem_singleton.mp hclosing

theorem areSpelled_path {isGlobal : Bool} {segments : List Name} (h : AreSegments segments) :
    AreSpelled (rootedPathTokens isGlobal segments) := by
  have hname : ∀ name ∈ segments, AreSpelled name.tokens := by
    intro name hmem
    obtain ⟨spelling, rfl, hspelling, -⟩ := h name hmem
    exact areSpelled_word hspelling
  have hsegments : AreSpelled (pathTokens segments) := by
    cases segments with
    | nil => exact fun _ hmem => absurd hmem List.not_mem_nil
    | cons first others =>
      rw [List.forall_mem_cons] at hname
      rw [pathTokens_cons, areSpelled_append]
      refine ⟨hname.1, fun spelling hmem => ?_⟩
      obtain ⟨name, hother, hmem⟩ := List.mem_flatMap.mp hmem
      exact areSpelled_append.mpr ⟨areSpelled_operator _, hname.2 name hother⟩ spelling hmem
  rw [rootedPathTokens, areSpelled_append]
  refine ⟨?_, hsegments⟩
  cases isGlobal with
  | false => exact fun _ hmem => absurd hmem List.not_mem_nil
  | true => exact areSpelled_operator _

theorem areSpelled_listTokens {items : List Expr} {hasLastComma : Bool}
    (h : ∀ item ∈ items, AreSpelled item.tokens) :
    AreSpelled (Expr.listTokens items hasLastComma) := by
  induction items with
  | nil => exact fun _ hmem => absurd hmem List.not_mem_nil
  | cons item items ih =>
    rw [List.forall_mem_cons] at h
    rw [Expr.listTokens_cons, areSpelled_append, areSpelled_append]
    refine ⟨h.1, ?_, ih h.2⟩
    unfold commaBefore
    split
    · exact fun _ hmem => absurd hmem List.not_mem_nil
    · exact areSpelled_operator [',']

/-- The names in a grouped expression are spelled as names. -/
theorem areSpelled_tokens {value : Expr} (h : value.IsGrouped) : AreSpelled value.tokens := by
  have hliteral : ∀ spelling, AreSpelled [Token.literal spelling] := by
    intro spelling other hmem
    cases List.mem_singleton.mp hmem
  induction h with
  | path _ hsegments => exact areSpelled_path hsegments
  | literal spelling => exact hliteral spelling
  | placeholder => exact areSpelled_word (by decide)
  | @prefixed op _ _ _ ih =>
    have hop : AreSpelled op.tokens := by
      cases op with
      | borrowMutably =>
        exact areSpelled_append.mpr ⟨areSpelled_operator _, areSpelled_word (by decide)⟩
      | _ => exact areSpelled_operator _
    exact areSpelled_append.mpr ⟨hop, ih⟩
  | infixed _ _ _ _ _ _ ihLeft ihRight =>
    rw [Expr.tokens_infixed, areSpelled_append, areSpelled_append]
    exact ⟨ihLeft, areSpelled_operator _, ihRight⟩
  | cast _ _ _ hsegments ih =>
    rw [Expr.tokens_cast, areSpelled_append, areSpelled_append]
    exact ⟨ih, areSpelled_word (by decide), areSpelled_path hsegments⟩
  | paren _ ih => exact areSpelled_enclosed ih
  | tuple _ _ _ ih | array _ _ ih => exact areSpelled_enclosed (areSpelled_listTokens ih)
  | repeated _ _ ihItem ihLength =>
    refine areSpelled_enclosed ?_
    rw [areSpelled_append, areSpelled_append]
    exact ⟨⟨ihItem, areSpelled_operator _⟩, ihLength⟩
  | field _ _ hname ih =>
    rw [Expr.tokens_field, areSpelled_append, areSpelled_append]
    exact ⟨ih, areSpelled_operator _, areSpelled_word hname.isSpelling⟩
  | component _ _ _ ih =>
    rw [Expr.tokens_component, areSpelled_append, areSpelled_append]
    exact ⟨ih, areSpelled_operator _, hliteral _⟩
  | element _ _ _ ih ihPosition =>
    rw [Expr.tokens_element, areSpelled_append]
    exact ⟨ih, areSpelled_enclosed ihPosition⟩
  | call _ _ _ _ _ ih ihArguments =>
    rw [Expr.tokens_call, areSpelled_append]
    exact ⟨ih, areSpelled_enclosed (areSpelled_listTokens ihArguments)⟩
  | method _ _ hname _ _ ih ihArguments =>
    rw [Expr.tokens_method, areSpelled_append, areSpelled_append, areSpelled_append]
    exact ⟨ih, areSpelled_operator _, areSpelled_word hname.isSpelling,
      areSpelled_enclosed (areSpelled_listTokens ihArguments)⟩
  | attempt _ _ ih =>
    rw [Expr.tokens_attempt, areSpelled_append]
    exact ⟨ih, areSpelled_operator _⟩

end Reader
end CommandBuffer.Code
