import CommandBuffer.Proofs.Reads

/-! # Scopes of generated functions

A statement binds names for the statements behind it, and a name refers to the innermost binding
that is spelled like it. A binding is told from others of its name by the scope that it leaves
behind. The value of a typed binding of an argument comes from the definition of the protocol; all
other code is the template's.
-/

namespace CommandBuffer.Code

/-! ## Bindings and sites -/

/-- The names that the pattern binds, the innermost first. -/
def Pattern.binders : Pattern → List Name
  | bind _ name => [name]
  | some inner => inner.binders
  | pair first second => second.binders ++ first.binders
  | wildcard | number _ | path _ => []

namespace Stmt

/-- The names that the statement binds for those behind it, the innermost first. -/
def binders : Stmt → List Name
  | bind pattern _ _ | bindOr pattern _ _ => pattern.binders
  | _ => []

/-- The names that the statements bind, the innermost first. -/
def listBinders : List Stmt → List Name
  | [] => []
  | stmt :: rest => listBinders rest ++ stmt.binders

mutual

/-- The expressions of the template in a statement, each with the names in scope. -/
def sites (scope : List Name) : Stmt → List (List Name × Expr)
  | bind (.bind _ (.escaped _)) (some _) _ => []
  | bind _ _ value => [(scope, value)]
  | bindOr _ value otherwise => (scope, value) :: listSites scope otherwise
  | when condition body => (scope, condition) :: listSites scope body
  | whenMatches pattern value body =>
    (scope, value) :: listSites (pattern.binders ++ scope) body
  | assign target value => [(scope, target), (scope, value)]
  | run value | result value => [(scope, value)]
  | exit value => value.toList.map (scope, ·)
  | select subject arms =>
    (scope, subject) :: arms.map fun arm => (arm.1.binders ++ scope, arm.2)

def listSites (scope : List Name) : List Stmt → List (List Name × Expr)
  | [] => []
  | stmt :: rest => sites scope stmt ++ listSites (stmt.binders ++ scope) rest

end

/-- Only a typed binding can have a given value. -/
theorem sites_bind (scope : List Name) (pattern : Pattern) (value : Expr) :
    sites scope (bind pattern none value) = [(scope, value)] := by
  cases pattern with
  | bind _ name => cases name <;> rfl
  | wildcard | number | path | some | pair => rfl

theorem listBinders_append (first second : List Stmt) :
    listBinders (first ++ second) = listBinders second ++ listBinders first := by
  induction first with
  | nil => exact (List.append_nil _).symm
  | cons stmt rest ih => rw [List.cons_append, listBinders, ih, listBinders, List.append_assoc]

theorem mem_listBinders {stmts : List Stmt} {stmt : Stmt} (hstmt : stmt ∈ stmts) :
    stmt.binders ⊆ listBinders stmts := by
  induction stmts with
  | nil => cases hstmt
  | cons first rest ih =>
    intro name hname
    rw [listBinders, List.mem_append]
    rcases List.mem_cons.mp hstmt with rfl | hrest
    · exact .inr hname
    · exact .inl (ih hrest hname)

theorem listSites_append (scope : List Name) (first second : List Stmt) :
    listSites scope (first ++ second)
      = listSites scope first ++ listSites (listBinders first ++ scope) second := by
  induction first generalizing scope with
  | nil => rfl
  | cons stmt rest ih =>
    rw [List.cons_append, listSites, ih, listSites, listBinders, List.append_assoc,
      List.append_assoc]

end Stmt

/-- The expressions of the template in a function, each with the names in scope. -/
def Function.sites (function : Function) : List (List Name × Expr) :=
  Stmt.listSites (function.signature.parameters.map Parameter.name).reverse function.body

/-! ## What a name refers to -/

/-- The scope that the binding leaves behind that the name refers to. -/
def Name.bound (name : Name) (scope : List Name) : List Name :=
  scope.dropWhile (·.spelling ≠ name.spelling)

theorem Name.bound_cons_of_eq {name binder : Name} {scope : List Name}
    (h : binder.spelling = name.spelling) : name.bound (binder :: scope) = binder :: scope := by
  simp [Name.bound, h]

theorem Name.bound_cons_of_ne {name binder : Name} {scope : List Name}
    (h : binder.spelling ≠ name.spelling) : name.bound (binder :: scope) = name.bound scope := by
  simp [Name.bound, h]

/-- In the scope, the name of the binding refers to the binding itself. -/
def IsVisible : List Name → List Name → Prop
  | [], _ => True
  | name :: outer, scope => name.bound scope = name :: outer

/-- A binding is visible exactly until its name is bound again. -/
theorem isVisible_iff {inner outer : List Name} {name : Name} :
    IsVisible (name :: outer) (inner ++ name :: outer) ↔
      ∀ binder ∈ inner, binder.spelling ≠ name.spelling := by
  change name.bound (inner ++ name :: outer) = name :: outer ↔ _
  induction inner with
  | nil => exact iff_of_true (Name.bound_cons_of_eq rfl) fun _ hbinder => by cases hbinder
  | cons binder inner ih =>
    rw [List.forall_mem_cons, ← ih, List.cons_append]
    by_cases hsame : binder.spelling = name.spelling
    · refine iff_of_false ?_ fun h => h.1 hsame
      rw [Name.bound_cons_of_eq hsame]
      intro heq
      have hlength := congrArg List.length heq
      simp only [List.length_append, List.length_cons] at hlength
      omega
    · rw [Name.bound_cons_of_ne hsame]
      exact (and_iff_right hsame).symm

/-! ## Sequences of bindings -/

/-- A binding in a sequence. -/
structure Binder where
  name : Name
  /-- The name is used behind the whole sequence. -/
  isUsed : Bool
  deriving DecidableEq, Repr

namespace Binder

/-- A binding whose name is used behind the whole sequence. -/
def used (name : Name) : Binder := ⟨name, true⟩

/-- A binding whose name is of no interest behind the whole sequence. -/
def spent (name : Name) : Binder := ⟨name, false⟩

/-- The names in scope behind the sequence. -/
def scope (binders : List Binder) (outer : List Name) : List Name :=
  (binders.map name).reverse ++ outer

/-- The bindings whose names are used behind the sequence. -/
def bindings (outer : List Name) : List Binder → List (List Name)
  | [] => []
  | binder :: rest =>
    (if binder.isUsed then [binder.name :: outer] else []) ++ bindings (binder.name :: outer) rest

/-- No name that is still used is bound again. -/
def Unshadowed (binders : List Binder) : Prop :=
  binders.Pairwise fun first second =>
    first.isUsed = true → second.name.spelling ≠ first.name.spelling

instance (binders : List Binder) : Decidable (Unshadowed binders) :=
  inferInstanceAs (Decidable (binders.Pairwise _))

theorem scope_cons (binder : Binder) (rest : List Binder) (outer : List Name) :
    scope (binder :: rest) outer = scope rest (binder.name :: outer) := by
  rw [scope, scope, List.map_cons, List.reverse_cons, List.append_assoc]
  rfl

theorem scope_append (first second : List Binder) (outer : List Name) :
    scope (first ++ second) outer = scope second (scope first outer) := by
  rw [scope, scope, scope, List.map_append, List.reverse_append, List.append_assoc]

theorem bindings_append (outer : List Name) (first second : List Binder) :
    bindings outer (first ++ second)
      = bindings outer first ++ bindings (scope first outer) second := by
  induction first generalizing outer with
  | nil => rfl
  | cons binder rest ih =>
    rw [List.cons_append, bindings, ih, bindings, scope_cons, List.append_assoc]

/-- Behind the sequence, the used names refer to their bindings exactly if none is bound again. -/
theorem forall_isVisible_iff (binders : List Binder) (outer : List Name) :
    (∀ binding ∈ bindings outer binders, IsVisible binding (scope binders outer)) ↔
      Unshadowed binders := by
  induction binders generalizing outer with
  | nil => exact ⟨fun _ => .nil, fun _ _ hbinding => absurd hbinding List.not_mem_nil⟩
  | cons binder rest ih =>
    have hfirst : IsVisible (binder.name :: outer) (scope rest (binder.name :: outer)) ↔
        ∀ second ∈ rest, second.name.spelling ≠ binder.name.spelling := by
      rw [scope, isVisible_iff]
      simp only [List.mem_reverse, List.forall_mem_map]
    have hpairs : Unshadowed (binder :: rest) ↔
        (∀ second ∈ rest, binder.isUsed = true →
          second.name.spelling ≠ binder.name.spelling) ∧ Unshadowed rest := List.pairwise_cons
    rw [bindings, scope_cons, List.forall_mem_append, ih, hpairs]
    refine and_congr_left fun _ => ?_
    cases binder.isUsed with
    | true => simpa using hfirst
    | false => simp

end Binder

/-! ## Hygiene of a function -/

namespace Expr

/-- A call of a function or of a method. -/
def isCall : Expr → Bool
  | call .. | method .. => true
  | _ => false

/-- The calls inside the expression. -/
def calls (value : Expr) : List Expr := value.parts.filter isCall

theorem mem_parts_iff {use value : Expr} (huse : use.isCall = true) :
    use ∈ value.parts ↔ use ∈ value.calls := by
  rw [calls, List.mem_filter]
  exact (and_iff_left huse).symm

end Expr

/-- The expression occurs at a site with these names in scope. -/
def OccursAt (use : Expr) (sites : List (List Name × Expr)) (scope : List Name) : Prop :=
  ∃ value, (scope, value) ∈ sites ∧ use ∈ value.parts

section

variable {use : Expr} {scope : List Name}

/-- What the first site uses and no later one occurs in the scope of the first. -/
theorem occursAt_cons_of_mem {inner : List Name} {value : Expr} {rest : List (List Name × Expr)}
    (huse : use ∈ value.parts) (hrest : ∀ later ∈ rest, use ∉ later.2.parts) :
    OccursAt use ((inner, value) :: rest) scope ↔ scope = inner := by
  constructor
  · rintro ⟨found, hsite, hmem⟩
    rcases List.mem_cons.mp hsite with hfirst | hlater
    · exact (Prod.mk.inj hfirst).1
    · exact absurd hmem (hrest _ hlater)
  · rintro rfl
    exact ⟨value, List.mem_cons_self, huse⟩

theorem occursAt_cons_of_notMem {inner : List Name} {value : Expr}
    {rest : List (List Name × Expr)} (hvalue : use ∉ value.parts) :
    OccursAt use ((inner, value) :: rest) scope ↔ OccursAt use rest scope := by
  constructor
  · rintro ⟨found, hsite, huse⟩
    rcases List.mem_cons.mp hsite with hfirst | hrest
    · cases hfirst
      exact absurd huse hvalue
    · exact ⟨found, hrest, huse⟩
  · rintro ⟨found, hrest, huse⟩
    exact ⟨found, List.mem_cons_of_mem _ hrest, huse⟩

theorem occursAt_append {first second : List (List Name × Expr)} :
    OccursAt use (first ++ second) scope ↔
      OccursAt use first scope ∨ OccursAt use second scope := by
  simp only [OccursAt, List.mem_append, or_and_right, exists_or]

/-- A call of a kind that is only made where certain names are in scope occurs there only. -/
theorem occursAt_iff {sites : List (List Name × Expr)} {kind : Expr → Bool}
    (hcall : use.isCall = true) (hkind : kind use = true) (huse : OccursAt use sites scope)
    (hsites : ∀ site ∈ sites, ∀ made ∈ site.2.calls, kind made = true → site.1 = scope)
    (other : List Name) : OccursAt use sites other ↔ other = scope := by
  constructor
  · rintro ⟨value, hsite, hmem⟩
    exact hsites _ hsite use ((Expr.mem_parts_iff hcall).mp hmem) hkind
  · rintro rfl
    exact huse

end

/-- The expression occurs in the function, and wherever it does, the bindings are what their names
refer to. -/
def Function.Sees (function : Function) (use : Expr) (bindings : List (List Name)) : Prop :=
  (∃ scope, OccursAt use function.sites scope) ∧
    ∀ scope, OccursAt use function.sites scope → ∀ binding ∈ bindings, IsVisible binding scope

theorem Function.sees_iff {function : Function} {use : Expr} {scope : List Name}
    {bindings : List (List Name)}
    (huses : ∀ other, OccursAt use function.sites other ↔ other = scope) :
    function.Sees use bindings ↔ ∀ binding ∈ bindings, IsVisible binding scope := by
  simp only [Sees, huses, forall_eq, exists_eq, true_and]

namespace Expr

/-- The local variable of the template that the expression is. -/
def localName? : Expr → Option String
  | path false [.verbatim text] => some text
  | _ => none

/-- The local variables of the template that the expression reads. -/
def localReads (value : Expr) : List String := value.parts.filterMap localName?

end Expr

/-- In the scope, the text refers to a binding of the template. -/
def IsLocal (text : String) (scope : List Name) : Prop :=
  ∃ outer, (Name.verbatim text).bound scope = .verbatim text :: outer

/-- Every use of these local variables refers to a binding of the template. -/
def Function.Keeps (function : Function) (locals : List String) : Prop :=
  ∀ text ∈ locals, ∀ site ∈ function.sites, text ∈ site.2.localReads → IsLocal text site.1

/-- Other names leave a local variable alone if they are spelled differently. -/
theorem isLocal_append_iff {text : String} {inner outer : List Name} (houter : IsLocal text outer)
    (hinner : .verbatim text ∉ inner) :
    IsLocal text (inner ++ outer) ↔ text ∉ inner.map Name.spelling := by
  induction inner with
  | nil => exact iff_of_true houter List.not_mem_nil
  | cons name inner ih =>
    rw [List.mem_cons, not_or] at hinner
    rw [List.map_cons, List.mem_cons, not_or, ← ih hinner.2, List.cons_append]
    by_cases hsame : name.spelling = text
    · refine iff_of_false ?_ fun h => h.1 hsame.symm
      rintro ⟨rest, hrest⟩
      rw [Name.bound_cons_of_eq hsame, List.cons_eq_cons] at hrest
      exact hinner.1 hrest.1.symm
    · rw [IsLocal, Name.bound_cons_of_ne hsame]
      exact (and_iff_right (Ne.symm hsame)).symm

/-! ## Code without inner scopes -/

namespace Stmt

/-- The expressions of the template in a statement. -/
def values (stmt : Stmt) : List Expr := (stmt.sites []).map Prod.snd

/-- Nothing is bound inside the statement. -/
def IsFlat (stmt : Stmt) : Prop := ∀ scope, stmt.sites scope = stmt.values.map (scope, ·)

/-- The local variables of the template that the statement reads. -/
def localReads (stmt : Stmt) : List String := stmt.values.flatMap Expr.localReads

/-- No statement binds the name of a local variable that is still read. -/
def Undisturbed (text : String) (stmts : List Stmt) : Prop :=
  stmts.Pairwise fun first second =>
    text ∈ first.binders.map Name.spelling → text ∉ second.localReads

instance (text : String) (stmts : List Stmt) : Decidable (Undisturbed text stmts) :=
  inferInstanceAs (Decidable (stmts.Pairwise _))

theorem undisturbed_cons {text : String} {stmt : Stmt} {rest : List Stmt} :
    Undisturbed text (stmt :: rest) ↔
      (text ∈ stmt.binders.map Name.spelling → ∀ second ∈ rest, text ∉ second.localReads) ∧
        Undisturbed text rest := by
  rw [Undisturbed, List.pairwise_cons]
  exact and_congr_left fun _ => ⟨fun h hmem second hsecond => h second hsecond hmem,
    fun h second hsecond hmem => h hmem second hsecond⟩

theorem mem_listSites_of_isFlat {stmts : List Stmt} (hflat : ∀ stmt ∈ stmts, stmt.IsFlat)
    {scope : List Name} {site : List Name × Expr} (hsite : site ∈ listSites scope stmts) :
    ∃ stmt ∈ stmts, site.2 ∈ stmt.values := by
  induction stmts generalizing scope with
  | nil => cases hsite
  | cons stmt rest ih =>
    rw [List.forall_mem_cons] at hflat
    rw [listSites, hflat.1, List.mem_append, List.mem_map] at hsite
    rcases hsite with ⟨value, hvalue, rfl⟩ | hrest
    · exact ⟨stmt, List.mem_cons_self, hvalue⟩
    · obtain ⟨other, hother, hmem⟩ := ih hflat.2 hrest
      exact ⟨other, List.mem_cons_of_mem _ hother, hmem⟩

/-- Behind some bindings, a local variable is kept if neither they nor any statement disturbs it. -/
theorem forall_isLocal_iff {text : String} {stmts : List Stmt}
    (hflat : ∀ stmt ∈ stmts, stmt.IsFlat) (hbinders : ∀ stmt ∈ stmts, .verbatim text ∉ stmt.binders)
    {inner outer : List Name} (houter : IsLocal text outer) (hinner : .verbatim text ∉ inner) :
    (∀ site ∈ listSites (inner ++ outer) stmts, text ∈ site.2.localReads → IsLocal text site.1) ↔
      (text ∈ inner.map Name.spelling → ∀ stmt ∈ stmts, text ∉ stmt.localReads) ∧
        Undisturbed text stmts := by
  induction stmts generalizing inner with
  | nil =>
    refine iff_of_true ?_ ⟨?_, .nil⟩
    · intro site hsite
      cases hsite
    · intro _ stmt hstmt
      cases hstmt
  | cons stmt rest ih =>
    rw [List.forall_mem_cons] at hflat hbinders
    have hstep : .verbatim text ∉ stmt.binders ++ inner := by
      rw [List.mem_append, not_or]
      exact ⟨hbinders.1, hinner⟩
    have hstmt : (∀ site ∈ stmt.values.map (inner ++ outer, ·),
        text ∈ site.2.localReads → IsLocal text site.1) ↔
          (text ∈ inner.map Name.spelling → text ∉ stmt.localReads) := by
      rw [List.forall_mem_map, localReads, List.mem_flatMap]
      simp only [isLocal_append_iff houter hinner]
      constructor
      · rintro h hmem ⟨value, hvalue, hread⟩
        exact h value hvalue hread hmem
      · intro h value hvalue hread hmem
        exact h hmem ⟨value, hvalue, hread⟩
    rw [listSites, hflat.1, List.forall_mem_append, hstmt, ← List.append_assoc,
      ih hflat.2 hbinders.2 hstep, undisturbed_cons, List.forall_mem_cons, List.map_append, List.mem_append,
      or_imp]
    constructor
    · rintro ⟨hread, ⟨hbound, hlater⟩, hrest⟩
      exact ⟨fun hmem => ⟨hread hmem, hlater hmem⟩, hbound, hrest⟩
    · rintro ⟨hlater, hbound, hrest⟩
      exact ⟨fun hmem => (hlater hmem).1, ⟨hbound, fun hmem => (hlater hmem).2⟩, hrest⟩

end Stmt

/-! ## Given values -/

/-- The statements bind the names, one after the other, to values of the definition. -/
structure Stmt.Gives (stmts : List Stmt) (names : List Name) : Prop where
  binders : Stmt.listBinders stmts = names.reverse
  silent : ∀ scope, Stmt.listSites scope stmts = []

namespace Stmt.Gives

variable {first second : List Stmt} {names others : List Name}

theorem nil : Gives [] [] := ⟨rfl, fun _ => rfl⟩

theorem bind (isMutable : Bool) (text : String) (type : Ty) (value : Expr) :
    Gives [.bind (.bind isMutable (.escaped text)) (some type) value] [.escaped text] :=
  ⟨rfl, fun _ => rfl⟩

theorem append (h : Gives first names) (h' : Gives second others) :
    Gives (first ++ second) (names ++ others) where
  binders := by rw [listBinders_append, h.binders, h'.binders, List.reverse_append]
  silent := by
    intro scope
    rw [listSites_append, h.silent, h'.silent]
    rfl

/-- Code behind given values has their names in scope. -/
theorem listSites_append_right (h : Gives first names) (scope : List Name) (rest : List Stmt) :
    listSites scope (first ++ rest) = listSites (names.reverse ++ scope) rest := by
  rw [listSites_append, h.silent, h.binders]
  rfl

end Stmt.Gives

/-- Statements that only run expressions leave the scope as it is. -/
theorem Stmt.scope_of_runs {stmts : List Stmt} (hruns : ∀ stmt ∈ stmts, ∃ value, stmt = .run value)
    {scope : List Name} {site : List Name × Expr} (hsite : site ∈ Stmt.listSites scope stmts) :
    site.1 = scope := by
  induction stmts with
  | nil => cases hsite
  | cons stmt rest ih =>
    obtain ⟨⟨value, rfl⟩, hrest⟩ := List.forall_mem_cons.mp hruns
    rcases List.mem_cons.mp hsite with rfl | hsite
    · rfl
    · exact ih hrest hsite

/-- A visible variable of the template is kept. -/
theorem IsVisible.isLocal {text : String} {outer scope : List Name}
    (h : IsVisible (.verbatim text :: outer) scope) : IsLocal text scope := ⟨outer, h⟩

end CommandBuffer.Code
