import CommandBuffer.Proofs.Execution.Counts
import CommandBuffer.Proofs.Execution.Init

/-! # Negative counts

A count becomes a length by a cast, and a negative count would become a huge one. The
marshaling function and the handler of a command with counted data both leave at the
sign of the count, and nothing before that casts it.
-/

namespace CommandBuffer

open Code

/-! ## Casts -/

namespace Code

/-- The variable that the expression casts. -/
def Expr.castName? : Expr → Option Name
  | .cast (.path false [name]) _ => some name
  | _ => none

/-- The variables that the expression casts somewhere. -/
def Expr.casts (value : Expr) : List Name := value.parts.filterMap castName?

/-- The variables that the statement casts somewhere. -/
def Stmt.casts (stmt : Stmt) : List Name := stmt.parts.filterMap Expr.castName?

theorem Stmt.flatMap_casts (stmts : List Stmt) :
    stmts.flatMap casts = (listParts stmts).filterMap Expr.castName? := by
  rw [listParts_eq_flatMap, List.filterMap_flatMap]
  rfl

theorem Stmt.casts_when (condition : Expr) (body : List Stmt) :
    (Stmt.when condition body).casts = condition.casts ++ body.flatMap casts := by
  rw [flatMap_casts]
  exact List.filterMap_append

theorem Stmt.casts_bindOr (pattern : Pattern) (value : Expr) (otherwise : List Stmt) :
    (Stmt.bindOr pattern value otherwise).casts = value.casts ++ otherwise.flatMap casts := by
  rw [flatMap_casts]
  exact List.filterMap_append

end Code

/-- The body leaves at a negative value of the variable, and casts it nowhere before. -/
def RefusesNegative (name : Name) (body : List Stmt) : Prop :=
  ∃ before check after, body = before ++ check :: after ∧
    (∀ other ∈ before.flatMap Stmt.casts, other.spelling ≠ name.spelling) ∧
    ∀ {support : Support} (host : Host support) (scope : Scope support) (n : Int),
      scope name.spelling = some (.int .i32 n) →
      check.run? host scope = some (if n < 0 then .left else .onward scope)

namespace Command

variable {command : Command} {index : Nat} {argument : Argument}

/-- The variable that counts the data of an argument. -/
def counterIdents (command : Command) (argument : Argument) : List Name :=
  match argument.layout.dataSize? with
  | some (.counted counter _) => [command.argumentIdent counter]
  | _ => []

theorem casts_countedUnits (name : Name) (type : Ty) (units : Nat) :
    (countedUnits name type units).casts = [name] := by
  unfold countedUnits
  split <;> rfl

theorem casts_refuse (record : Record) (message : String) :
    (Marshaling.refuse record message).flatMap Stmt.casts = [] := by
  unfold Marshaling.refuse Marshaling.bail
  split <;> rfl

theorem casts_keepFirst (record : Record) (kept : Expr) :
    (Marshaling.keepFirst record argument kept).casts = kept.casts := by
  rw [Marshaling.keepFirst, Stmt.casts_bindOr, casts_refuse, List.append_nil]
  change (kept.parts ++ []).filterMap Expr.castName? = _
  rw [List.append_nil]
  rfl

/-- The checks of an argument cast nothing but its counter. -/
theorem casts_checks (record : Record) :
    (Marshaling.checks record command argument).flatMap Stmt.casts
      = command.counterIdents argument := by
  unfold Marshaling.checks counterIdents
  cases argument.layout.dataSize? with
  | none => rfl
  | some size =>
    cases size with
    | fixed count =>
      simp only [List.flatMap_cons, List.flatMap_nil, casts_keepFirst]
      rfl
    | atMost max =>
      simp only [List.flatMap_cons, List.flatMap_nil, Stmt.casts_when, casts_refuse]
      rfl
    | counted counter units =>
      have hlength : (Marshaling.countedLength (command.argumentIdent counter) units).casts
          = [command.argumentIdent counter] := casts_countedUnits _ "usize" units
      simp only [List.flatMap_cons, List.flatMap_nil, Stmt.casts_when, casts_refuse,
        casts_keepFirst, hlength]
      rfl
    | unsized => rfl

theorem casts_fetch :
    (Handler.fetch command argument).flatMap Stmt.casts = command.counterIdents argument := by
  unfold Handler.fetch counterIdents
  cases argument.layout
  case word | split | result => rfl
  all_goals
    rename_i size
    cases size with
    | fixed | atMost | unsized => rfl
    | counted counter units =>
      by_cases hone : units = 1
      · rw [hone]
        rfl
      · simp only [Handler.countCheck, Handler.elementCount, if_neg hone]
        rfl

/-- What makes an argument ready casts nothing but its counter. -/
theorem casts_prepare (validators : ValidatorSet) :
    (Handler.prepare validators command argument).flatMap Stmt.casts
      = command.counterIdents argument := by
  have hdata : argument.layout.dataSize? = none → command.counterIdents argument = [] := by
    intro hnone
    rw [counterIdents, hnone]
  cases hlayout : argument.layout with
  | word field kind =>
    rw [Handler.prepare_of_word hlayout, hdata (by rw [hlayout]; rfl), List.flatMap_cons]
    have hdecode : (Handler.decode command argument kind).casts = [] := by cases kind <;> rfl
    rw [hdecode, List.nil_append]
    cases validators.forType? argument.param.type with
    | none => rfl
    | some validator =>
      change List.flatMap Stmt.casts [Handler.validate command argument kind validator] = []
      rw [List.flatMap_singleton, Handler.validate, Stmt.casts_when]
      split <;> rfl
  | split low high =>
    rw [Handler.prepare_of_split hlayout, hdata (by rw [hlayout]; rfl)]
    rfl
  | immediate | shm | bucket | result =>
    rw [Handler.prepare, hlayout]
    exact casts_fetch

/-! ## Different counters -/

/-- One-word arguments of one name are one argument. -/
theorem IsLaidOut.index_of_word (h : command.IsLaidOut) {first second : Nat} {a b : Argument}
    (ha : command.arguments[first]? = some a) (hb : command.arguments[second]? = some b)
    {i j : Nat} {kind other : ScalarKind} (hi : a.layout = .word i kind)
    (hj : b.layout = .word j other) (hname : a.name = b.name) : first = second := by
  have hnodup : (command.arguments.flatMap fun argument =>
      argument.mapping.map Field.name).Nodup := by
    have hfields := h.nodup
    rw [h.fields, List.map_append, List.map_flatMap] at hfields
    exact hfields.of_append_left
  have hdisjoint := List.pairwise_iff_getElem.mp (List.nodup_flatMap.mp hnodup).2
  obtain ⟨hfirst, rfl⟩ := List.getElem?_eq_some_iff.mp ha
  obtain ⟨hsecond, rfl⟩ := List.getElem?_eq_some_iff.mp hb
  have hmem : ∀ {argument : Argument} {field : Nat} {kind : ScalarKind},
      argument.layout = .word field kind →
      argument.name ∈ argument.mapping.map Field.name := by
    intro argument field kind hlayout
    rw [Argument.mapping, hlayout]
    exact List.mem_singleton.mpr rfl
  rcases Nat.lt_trichotomy first second with hlt | heq | hgt
  · exact absurd (hname ▸ hmem hj) (hdisjoint first second hfirst hsecond hlt (hmem hi))
  · exact heq
  · exact absurd (hname ▸ hmem hi) (hdisjoint second first hsecond hfirst hgt (hmem hj))

/-- No argument before the data is counted by the counter of the data. -/
theorem IsLaidOut.spelling_of_counterIdents (h : command.IsLaidOut) (hnamed : command.IsNamed)
    {counter : Nat} (hcounter : command.record.countedBy? index = some counter) {earlier : Nat}
    {other : Argument} (hother : command.arguments[earlier]? = some other) (hlt : earlier < index) :
    ∀ name ∈ command.counterIdents other,
      name.spelling ≠ (command.argumentIdent counter).spelling := by
  intro name hname hsame
  unfold counterIdents at hname
  split at hname
  · rename_i another units hsize
    rw [List.mem_singleton.mp hname] at hsame
    have hcounted := h.countedBy?_of_counted hother hsize
    obtain ⟨a, i, ha, -, hi⟩ := h.counter_of_countedBy? hcounted
    obtain ⟨b, j, hb, -, hj⟩ := h.counter_of_countedBy? hcounter
    rw [argumentIdent, argumentIdent, argumentName, argumentName, ha, hb] at hsame
    have hnames : a.name = b.name := Name.escaped_spelling_inj
      (hnamed a (List.mem_of_getElem? ha)) (hnamed b (List.mem_of_getElem? hb)) hsame
    have hposition := h.index_of_word ha hb hi hj hnames
    have hfirst := Record.index_of_countedBy? hcounted
    have hsecond := Record.index_of_countedBy? hcounter
    omega
  · cases hname

/-! ## Both sides -/

theorem flatMap_at {α β : Type} {items : List α} {item : α}
    (h : items[index]? = some item) (f : α → List β) :
    items.flatMap f = (items.take index).flatMap f ++ f item
      ++ (items.drop (index + 1)).flatMap f := by
  obtain ⟨hlt, rfl⟩ := List.getElem?_eq_some_iff.mp h
  conv_lhs => rw [← List.take_append_drop index items, ← List.getElem_cons_drop hlt]
  rw [List.flatMap_append, List.flatMap_cons, List.append_assoc]

/-- A walk over the arguments that casts nothing but counters refuses a negative count. -/
theorem IsLaidOut.refusesNegative (h : command.IsLaidOut) (hnamed : command.IsNamed)
    {counter : Nat} (hcounter : command.record.countedBy? index = some counter)
    (hargument : command.arguments[index]? = some argument) {walk : Argument → List Stmt}
    (hcasts : ∀ other, (walk other).flatMap Stmt.casts = command.counterIdents other)
    {first rest : List Stmt} (hfirst : first.flatMap Stmt.casts = []) {body others : List Stmt}
    (hwalk : walk argument = .when (.infixed .lt (command.argumentIdent counter) (.number 0)) body
      :: others)
    (hbody : ∀ {support : Support} (host : Host support) (scope : Scope support),
      Stmt.runAll? host scope body = some .left) :
    RefusesNegative (command.argumentIdent counter)
      (first ++ command.arguments.flatMap walk ++ rest) := by
  refine ⟨first ++ (command.arguments.take index).flatMap walk, _,
    others ++ (command.arguments.drop (index + 1)).flatMap walk ++ rest, ?_, ?_,
    fun host scope n hn => run?_signCheck host hn (hbody host scope)⟩
  · rw [flatMap_at hargument walk, hwalk]
    simp only [List.append_assoc, List.cons_append]
  · intro name hname
    rw [List.flatMap_append, hfirst, List.nil_append, List.flatMap_assoc] at hname
    obtain ⟨other, hother, hcast⟩ := List.mem_flatMap.mp hname
    rw [hcasts] at hcast
    obtain ⟨earlier, hearlier⟩ := List.getElem?_of_mem hother
    rw [List.getElem?_take] at hearlier
    split at hearlier
    · rename_i hlt
      exact h.spelling_of_counterIdents hnamed hcounter hearlier hlt name hcast
    · cases hearlier

variable {counter units : Nat}

theorem exists_checks_eq (hsize : argument.layout.dataSize? = some (.counted counter units))
    (record : Record) : ∃ others, Marshaling.checks record command argument
      = .when (.infixed .lt (command.argumentIdent counter) (.number 0))
        (Marshaling.refuse record s!"{command.argumentName counter} < 0") :: others := by
  rw [Marshaling.checks, hsize]
  exact ⟨_, rfl⟩

theorem exists_prepare_eq (hsize : argument.layout.dataSize? = some (.counted counter units))
    (validators : ValidatorSet) : ∃ others, Handler.prepare validators command argument
      = .when (.infixed .lt (command.argumentIdent counter) (.number 0))
        [Handler.reportInvalidValue command s!"{command.argumentName counter} < 0",
          Handler.consume] :: others := by
  unfold Handler.prepare
  cases hlayout : argument.layout <;> rw [hlayout] at hsize <;> cases hsize
  all_goals
    rw [Handler.fetch, hlayout]
    exact ⟨_, rfl⟩

/-- Both sides leave at a negative count before it is used. -/
theorem IsLaidOut.refusesNegative_of_counted (h : command.IsLaidOut) (hnamed : command.IsNamed)
    (hargument : command.arguments[index]? = some argument)
    (hsize : argument.layout.dataSize? = some (.counted counter units)) :
    (∀ implementation record, RefusesNegative (command.argumentIdent counter)
      (Marshaling.function implementation record command).body) ∧
    ∀ validators, RefusesNegative (command.argumentIdent counter)
      (Handler.function validators command).body := by
  have hcounter := h.countedBy?_of_counted hargument hsize
  constructor
  · intro implementation record
    obtain ⟨others, hchecks⟩ := exists_checks_eq hsize record
    have hbody : (Marshaling.function implementation record command).body
        = [Marshaling.trace implementation record]
          ++ command.arguments.flatMap (Marshaling.checks record command)
          ++ (Marshaling.bookkeeping record command
            ++ command.arguments.flatMap (Marshaling.transfer record command)
            ++ Marshaling.finish record command) := by
      simp only [Marshaling.function, List.append_assoc, List.cons_append, List.nil_append]
    rw [hbody]
    exact h.refusesNegative hnamed hcounter hargument (fun _ => casts_checks record) rfl hchecks
      fun _ _ => rfl
  · intro validators
    obtain ⟨others, hprepare⟩ := exists_prepare_eq hsize validators
    have hgate : (Handler.gate command ++ [Handler.viewCommand command]).flatMap Stmt.casts
        = [] := by
      unfold Handler.gate
      split <;> rfl
    have hbody : (Handler.function validators command).body
        = (Handler.gate command ++ [Handler.viewCommand command])
          ++ command.arguments.flatMap (Handler.prepare validators command)
          ++ Handler.dispatch command := by
      simp only [Handler.function, List.append_assoc, List.cons_append, List.nil_append]
    rw [hbody]
    exact h.refusesNegative hnamed hcounter hargument (fun _ => casts_prepare validators) hgate
      hprepare fun _ _ => rfl

end Command
end CommandBuffer
