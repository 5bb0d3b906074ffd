import CommandBuffer.Proofs.Reading.Grouping
import CommandBuffer.Proofs.Text.Cutting

/-! # Expressions as the reader builds them

The reader builds only some of the trees: operators are grouped by their levels, members follow
operands without a prefix, a comma stands behind a single item of a tuple, and what is called like a
method is one. Such a tree can be written, and nothing in it keeps its tokens from being read back.
-/

namespace CommandBuffer.Code

namespace Reader

/-! ## Names -/

/-- A segment can be written, and is read back in every place of a path. -/
theorem sound_of_isSegment {spelling : String} (hspelling : isSpelling spelling.toList = true)
    (hsegment : isSegment spelling = true) (place : Place)
    (hplace : place = .segment ∨ place = .front) :
    (Demand.named place (.verbatim spelling)).IsSound := by
  refine ⟨hspelling, ?_⟩
  rw [isSegment, Bool.or_eq_true] at hsegment
  rw [Demand.isReadable, Bool.or_eq_true]
  rcases hsegment with hkeyword | hfree
  · right
    have hwords : ∀ word ∈ segmentKeywords,
        Place.segment.admitted.contains word ∧ Place.front.admitted.contains word := by decide
    have hadmitted := hwords spelling (List.contains_iff_mem.mp hkeyword)
    rcases hplace with rfl | rfl
    · exact hadmitted.1
    · exact hadmitted.2
  · exact .inl hfree

/-- The names are segments of a path. -/
def AreSegments (segments : List Name) : Prop :=
  ∀ name ∈ segments, ∃ spelling, name = .verbatim spelling ∧
    isSpelling spelling.toList = true ∧ isSegment spelling = true

theorem sound_names {segments : List Name} (h : AreSegments segments) :
    ∀ demand ∈ Demand.names .segment segments, demand.IsSound := by
  intro demand hdemand
  obtain ⟨name, hname, rfl⟩ := List.mem_map.mp hdemand
  obtain ⟨spelling, rfl, hspelling, hsegment⟩ := h name hname
  exact sound_of_isSegment hspelling hsegment .segment (.inl rfl)

theorem sound_pathDemands {segments : List Name} (h : AreSegments segments) (isGlobal : Bool) :
    ∀ demand ∈ Expr.pathDemands isGlobal segments, demand.IsSound := by
  cases segments with
  | nil => exact fun _ h => absurd h List.not_mem_nil
  | cons first others =>
    obtain ⟨⟨spelling, rfl, hspelling, hsegment⟩, hothers⟩ := List.forall_mem_cons.mp h
    rw [Expr.pathDemands, List.forall_mem_cons]
    refine ⟨sound_of_isSegment hspelling hsegment _ ?_, sound_names hothers⟩
    split
    · exact .inr rfl
    · exact .inl rfl

/-- The spelling is that of a member. -/
structure IsMemberName (spelling : String) : Prop where
  isSpelling : isSpelling spelling.toList = true
  isBare : (Name.verbatim spelling).isBare = false

theorem IsMemberName.sound {spelling : String} (h : IsMemberName spelling) :
    (Demand.named .plain (.verbatim spelling)).IsSound := by
  refine ⟨h.isSpelling, ?_⟩
  rw [Demand.isReadable, h.isBare]
  rfl

/-! ## Positions -/

/-- The position that a number spells is spelled like the number. -/
theorem position?_toString {n : Nat} (h : n < positionBound) :
    position? (toString n).toList = some (toString n) := by
  have hdigits : (toString n).toList = Nat.toDigits 10 n := Nat.toList_repr
  have hdigit : ∀ c ∈ Nat.toDigits 10 n, c.isDigit = true := fun c hc =>
    Nat.isDigit_of_mem_toDigits (by decide) (by decide) hc
  have hbase : ∀ c rest, Nat.toDigits 10 n = '0' :: c :: rest → c.isDigit = true :=
    fun c rest heq => hdigit c (by rw [heq]; exact List.mem_cons_of_mem _ List.mem_cons_self)
  have hplain : (Nat.toDigits 10 n).filter (· != '_') = Nat.toDigits 10 n := by
    rw [List.filter_eq_self]
    intro c hc
    rw [bne_iff_ne]
    rintro rfl
    exact absurd (hdigit _ hc) (by decide)
  have hall : (Nat.toDigits 10 n).all (Literal.isDigitIn 10) = true := by
    rw [List.all_eq_true]
    intro c hc
    rw [Literal.isDigitIn, hdigit c hc, Bool.or_true, Bool.true_or]
  have hvalue : (Nat.toDigits 10 n).foldl (fun value digit => 10 * value + Literal.hexValue digit) 0
      = n := by
    refine Eq.trans (List.foldl_ext _ _ _ fun value c hc => ?_) Nat.ofDigitChars_ten_toDigits
    rw [Literal.hexValue, if_pos (hdigit c hc)]
  rw [hdigits]
  unfold position?
  split
  rename_i base digits hmatch
  split at hmatch
  · exact absurd (hbase _ _ ‹_›) (by decide)
  · exact absurd (hbase _ _ ‹_›) (by decide)
  · exact absurd (hbase _ _ ‹_›) (by decide)
  · cases hmatch
    simp only [hplain, hall, hvalue]
    rw [if_neg]
    simpa [Nat.toDigits_ne_nil] using h

/-- A position stands for itself behind a point. -/
theorem components?_of_position? {spelling : List Char} {position : String}
    (h : position? spelling = some position) : components? position = some ([position], false) := by
  obtain ⟨n, hbound, rfl⟩ : ∃ n < positionBound, position = toString n := by
    unfold position? at h
    split at h
    simp only at h
    split at h
    · cases h
    · rename_i hvalue
      cases h
      rw [Bool.or_eq_true, not_or, decide_eq_true_iff] at hvalue
      exact ⟨_, Nat.lt_of_not_le hvalue.2, rfl⟩
  have hpoint : '.' ∉ (toString n).toList := by
    intro hmem
    rw [Nat.toString_eq_repr, Nat.toList_repr] at hmem
    exact absurd (Nat.isDigit_of_mem_toDigits (by decide) (by decide) hmem) (by decide)
  rw [components?, Text.splitOn_of_notMem hpoint]
  change ([(toString n).toList].mapM position?).map (·, false) = _
  rw [List.mapM_cons, position?_toString hbound]
  rfl

theorem components?_of_mapM {pieces : List (List Char)} {positions : List String}
    (h : pieces.mapM position? = some positions) :
    positions.length = pieces.length ∧
      ∀ position ∈ positions, components? position = some ([position], false) := by
  induction pieces generalizing positions with
  | nil =>
    cases h
    exact ⟨rfl, fun _ h => absurd h List.not_mem_nil⟩
  | cons piece pieces ih =>
    rw [List.mapM_cons] at h
    obtain ⟨first, hfirst, hrest⟩ := Option.bind_eq_some_iff.mp h
    obtain ⟨others, hothers, hpure⟩ := Option.bind_eq_some_iff.mp hrest
    cases hpure
    obtain ⟨hlength, hpositions⟩ := ih hothers
    exact ⟨congrArg Nat.succ hlength,
      List.forall_mem_cons.mpr ⟨components?_of_position? hfirst, hpositions⟩⟩

/-- A literal behind a point selects at least one component, each by its position. -/
theorem positions_of_components? {spelling : String} {positions : List String} {isOpen : Bool}
    (h : components? spelling = some (positions, isOpen)) :
    positions ≠ [] ∧ ∀ position ∈ positions, components? position = some ([position], false) := by
  obtain ⟨found, hfound, hpair⟩ := Option.map_eq_some_iff.mp h
  cases hpair
  obtain ⟨hlength, hpositions⟩ := components?_of_mapM hfound
  refine ⟨fun hnil => ?_, hpositions⟩
  rw [hnil, List.length_nil] at hlength
  split at hlength
  · rename_i hopen
    rw [Bool.and_eq_true, decide_eq_true_iff] at hopen
    rw [List.length_dropLast] at hlength
    omega
  · exact Text.splitWhere_ne_nil _ _ (List.length_eq_zero_iff.mp hlength.symm)

end Reader

namespace Expr

open Reader

/-! ## Tokens

The tokens of an expression with a part behind them, and those of a list. -/

section

variable (op : InfixOp) (left right value position : Expr) (type : Ty) (name : Name)
  (spelling : String) (items : List Expr) (hasLastComma : Bool)

theorem tokens_infixed :
    (infixed op left right).tokens = left.tokens ++ (op.tokens ++ right.tokens) :=
  List.append_assoc left.tokens op.tokens right.tokens

theorem tokens_cast : (cast value type).tokens = value.tokens ++ (word "as" ++ type.tokens) :=
  List.append_assoc value.tokens (word "as") type.tokens

theorem tokens_field : (field value name).tokens = value.tokens ++ (dot ++ name.tokens) :=
  List.append_assoc value.tokens dot name.tokens

theorem tokens_component :
    (component value spelling).tokens = value.tokens ++ (dot ++ [.literal spelling]) :=
  List.append_assoc value.tokens dot [.literal spelling]

theorem tokens_element :
    (element value position).tokens = value.tokens ++ enclosed .square position.tokens := rfl

theorem tokens_call : (call value items hasLastComma).tokens
    = value.tokens ++ enclosed .round (listTokens items hasLastComma) := rfl

theorem tokens_method : (method value name [] items hasLastComma).tokens
    = value.tokens ++ (dot ++ (name.tokens ++ enclosed .round (listTokens items hasLastComma))) := by
  change value.tokens ++ dot ++ name.tokens ++ [] ++ enclosed .round _ = _
  rw [List.append_nil, List.append_assoc, List.append_assoc]

theorem tokens_attempt : (attempt value).tokens = value.tokens ++ operator ['?'] := rfl

theorem listTokens_cons : listTokens (value :: items) hasLastComma
    = value.tokens ++ (commaBefore items hasLastComma ++ listTokens items hasLastComma) :=
  List.append_assoc value.tokens (commaBefore items hasLastComma) (listTokens items hasLastComma)

theorem listTokens_singleton : listTokens [value] false = value.tokens := by
  rw [listTokens_cons]
  exact List.append_nil value.tokens

end

/-! ## Grouped expressions -/

/-- A member of the value can be selected without brackets around it. -/
def takesMembers : Expr → Bool
  | infixed .. | cast .. | prefixed .. => false
  | _ => true

def isField : Expr → Bool
  | field .. => true
  | _ => false

/-- The last token that is not in brackets belongs to the type of a cast. -/
def endsInCast : Expr → Bool
  | infixed _ _ right => right.endsInCast
  | cast .. => true
  | _ => false

/-- The expression is built as the reader builds expressions. -/
inductive IsGrouped : Expr → Prop
  | path {isGlobal : Bool} {segments : List Name} (hne : segments ≠ [])
      (hsegments : AreSegments segments) : IsGrouped (path isGlobal segments)
  | literal (spelling : String) : IsGrouped (literal spelling)
  | placeholder : IsGrouped placeholder
  | prefixed {op : PrefixOp} {operand : Expr} (h : IsGrouped operand)
      (hstrength : castLevel < operand.strength) : IsGrouped (prefixed op operand)
  | infixed {op : InfixOp} {left right : Expr} (hleft : IsGrouped left) (hright : IsGrouped right)
      (hlevel : op.level ≤ left.strength) (htighter : op.level < right.strength)
      (hcompared : (op.isComparison && isComparison left) = false)
      (hends : left.endsInCast = true → op ≠ .lt ∧ op ≠ .shiftLeft) :
      IsGrouped (infixed op left right)
  | cast {value : Expr} {isGlobal : Bool} {segments : List Name} (h : IsGrouped value)
      (hstrength : castLevel ≤ value.strength) (hne : segments ≠ [])
      (hsegments : AreSegments segments) : IsGrouped (cast value (.path isGlobal segments))
  | paren {inner : Expr} (h : IsGrouped inner) : IsGrouped (paren inner)
  | tuple {items : List Expr} {hasLastComma : Bool} (h : ∀ item ∈ items, IsGrouped item)
      (hempty : items = [] → hasLastComma = false)
      (hsingle : items.length = 1 → hasLastComma = true) : IsGrouped (tuple items hasLastComma)
  | array {items : List Expr} {hasLastComma : Bool} (h : ∀ item ∈ items, IsGrouped item)
      (hempty : items = [] → hasLastComma = false) : IsGrouped (array items hasLastComma)
  | repeated {item length : Expr} (hitem : IsGrouped item) (hlength : IsGrouped length) :
      IsGrouped (repeated item length)
  | field {value : Expr} {spelling : String} (h : IsGrouped value)
      (hvalue : value.takesMembers = true) (hname : IsMemberName spelling) :
      IsGrouped (field value (.verbatim spelling))
  | component {value : Expr} {position : String} (h : IsGrouped value)
      (hvalue : value.takesMembers = true)
      (hposition : components? position = some ([position], false)) :
      IsGrouped (component value position)
  | element {value position : Expr} (h : IsGrouped value) (hvalue : value.takesMembers = true)
      (hposition : IsGrouped position) : IsGrouped (element value position)
  | call {function : Expr} {arguments : List Expr} {hasLastComma : Bool} (h : IsGrouped function)
      (hfunction : function.takesMembers = true) (hfield : function.isField = false)
      (harguments : ∀ argument ∈ arguments, IsGrouped argument)
      (hempty : arguments = [] → hasLastComma = false) :
      IsGrouped (call function arguments hasLastComma)
  | method {value : Expr} {spelling : String} {arguments : List Expr} {hasLastComma : Bool}
      (h : IsGrouped value) (hvalue : value.takesMembers = true) (hname : IsMemberName spelling)
      (harguments : ∀ argument ∈ arguments, IsGrouped argument)
      (hempty : arguments = [] → hasLastComma = false) :
      IsGrouped (method value (.verbatim spelling) [] arguments hasLastComma)
  | attempt {value : Expr} (h : IsGrouped value) (hvalue : value.takesMembers = true) :
      IsGrouped (attempt value)

theorem strength_of_takesMembers {value : Expr} (h : value.takesMembers = true) :
    castLevel < value.strength := by
  cases value <;> first | exact Nat.lt_succ_self _ | cases h

/-- Components can be selected one after the other. -/
theorem IsGrouped.components {positions : List String}
    (hpositions : ∀ position ∈ positions, components? position = some ([position], false))
    {start : Expr} (h : start.IsGrouped) (htakes : start.takesMembers = true) :
    (Expr.components start positions).IsGrouped ∧
      (Expr.components start positions).takesMembers = true ∧
      (positions ≠ [] → (Expr.components start positions).isField = false) := by
  induction positions generalizing start with
  | nil => exact ⟨h, htakes, fun hne => absurd rfl hne⟩
  | cons position positions ih =>
    obtain ⟨hposition, hothers⟩ := List.forall_mem_cons.mp hpositions
    obtain ⟨hgrouped, hmembers, hfield⟩ := ih hothers (.component h htakes hposition) rfl
    refine ⟨hgrouped, hmembers, fun _ => ?_⟩
    cases positions with
    | nil => rfl
    | cons => exact hfield (List.cons_ne_nil _ _)

/-- A grouped expression can be written, and its operators are in order. -/
theorem IsGrouped.isRead {value : Expr} (h : value.IsGrouped) : value.IsRead := by
  induction h with
  | path _ hsegments => exact .of_exposed_eq_nil (sound_pathDemands hsegments _) rfl
  | literal | placeholder => exact .of_exposed_eq_nil (fun _ h => absurd h List.not_mem_nil) rfl
  | prefixed _ hstrength ih =>
    exact .of_exposed_eq_nil ih.sound (ih.exposed_eq_nil (Nat.le_of_lt hstrength))
  | infixed _ _ hlevel htighter hcompared _ ihLeft ihRight =>
    exact ihLeft.infixed ihRight hlevel htighter hcompared
  | cast _ hstrength _ hsegments ih => exact ih.cast hstrength (sound_names hsegments)
  | paren _ ih => exact .of_exposed_eq_nil ih.sound rfl
  | tuple _ _ _ ih | array _ _ ih => exact .of_exposed_eq_nil (sound_listDemands ih) rfl
  | repeated _ _ ihFirst ihSecond | element _ _ _ ihFirst ihSecond =>
    refine .of_exposed_eq_nil ?_ rfl
    rw [demands, List.forall_mem_append]
    exact ⟨ihFirst.sound, ihSecond.sound⟩
  | field _ _ hname ih =>
    refine .of_exposed_eq_nil ?_ rfl
    rw [demands, List.forall_mem_append, List.forall_mem_singleton]
    exact ⟨ih.sound, hname.sound⟩
  | component _ _ _ ih | attempt _ _ ih => exact .of_exposed_eq_nil ih.sound rfl
  | call _ _ _ _ _ ih ihArguments =>
    refine .of_exposed_eq_nil ?_ rfl
    rw [demands, List.forall_mem_append]
    exact ⟨ih.sound, sound_listDemands ihArguments⟩
  | method _ _ hname _ _ ih ihArguments =>
    refine .of_exposed_eq_nil ?_ rfl
    rw [demands, List.forall_mem_append, List.forall_mem_append, List.forall_mem_cons]
    exact ⟨⟨ih.sound, hname.sound, fun _ h => absurd h List.not_mem_nil⟩,
      sound_listDemands ihArguments⟩

end Expr
end CommandBuffer.Code
