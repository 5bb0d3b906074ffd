import CommandBuffer.Artifact.FormatTests
import CommandBuffer.Proofs.Hygiene.Writers
import CommandBuffer.Proofs.Outcome

/-! # Hygiene of the tests of command structs

A test binds a value for each parameter of `init`, builds the command, and compares every field with
the value that was bound. The values are used as they were bound exactly if no parameter is called
like a later one or like the command.
-/

namespace CommandBuffer

open Code Success

variable {command : Command} {registry : Registry}

namespace FormatTests

/-- The bindings of the test, up to the call of `init`. -/
def binders (command : Command) : List Binder :=
  command.initParams.map (fun param => .used param.name) ++ [.spent "cmd"]

/-- A call of a method. -/
def isMethod : Expr → Bool
  | .method .. => true
  | _ => false

/-- Every use of an argument and of a local variable in the test refers to its own binding. -/
structure IsHygienic (command : Command) (test : Function) : Prop where
  init : test.Sees command.initUse (Binder.bindings [] (binders command))
  locals : test.Keeps ["cmd"]

theorem length_values {location : Nat} {params : List InitParam} {values : List Expr}
    (h : values? command registry location params = .ok (some values)) :
    values.length = params.length := by
  induction params generalizing location values with
  | nil =>
    cases h
    rfl
  | cons param rest ih =>
    have hrest : ∀ {location} {value : Expr} {values},
        (values? command registry location rest >>= fun found =>
          pure (found.map (value :: ·))) = Except.ok (some values) →
        values.length = (param :: rest).length := by
      intro location value values h
      obtain ⟨found, hfound, h⟩ := bind_eq_ok.mp h
      obtain ⟨others, rfl, rfl⟩ := Option.map_eq_some_iff.mp (pure_eq_ok.mp h)
      rw [List.length_cons, List.length_cons, ih hfound]
    unfold values? at h
    split at h
    case h_1 =>
      split at h
      · cases h
      · obtain ⟨value, -, h⟩ := bind_eq_ok.mp h
        cases value with
        | none => cases pure_eq_ok.mp h
        | some value => exact hrest h
    all_goals exact hrest h

/-- Every parameter is bound to a value of the definition. -/
theorem gives_bindParams {params : List InitParam} {values : List Expr}
    (hnames : ∀ param ∈ params, ∃ text, param.name = .escaped text)
    (hlength : values.length = params.length) :
    Stmt.Gives (List.zipWith bindParam params values) (params.map InitParam.name) := by
  induction params generalizing values with
  | nil => exact .nil
  | cons param rest ih =>
    cases values with
    | nil => cases hlength
    | cons value values =>
      obtain ⟨⟨text, htext⟩, hrest⟩ := List.forall_mem_cons.mp hnames
      have hparam : Stmt.Gives [bindParam param value] [param.name] := by
        rw [bindParam, htext]
        exact .bind false text param.type value
      exact hparam.append (ih hrest (Nat.succ.inj hlength))

/-- The statements behind the call of `init`. -/
def checks (command : Command) : List Stmt :=
  assertEqual (header "command") (.cast (.path false [command.structName, "ID"]) "u32")
    :: sizeCheck command :: fieldChecks command

theorem run_of_mem_checks : ∀ stmt ∈ checks command, ∃ value, stmt = .run value := by
  have hsize : ∃ value, sizeCheck command = .run value := by
    unfold sizeCheck
    split <;> exact ⟨_, rfl⟩
  have hargument : ∀ argument, ∀ stmt ∈ argumentChecks command argument,
      ∃ value, stmt = .run value := by
    intro argument stmt hstmt
    unfold argumentChecks at hstmt
    cases hlayout : argument.layout <;>
      simp only [hlayout, List.mem_cons, List.not_mem_nil, or_false] at hstmt
    case word | split | bucket => exact ⟨_, hstmt⟩
    case shm | result => rcases hstmt with rfl | rfl <;> exact ⟨_, rfl⟩
  refine List.forall_mem_cons.mpr ⟨⟨_, rfl⟩, List.forall_mem_cons.mpr ⟨hsize, ?_⟩⟩
  refine List.forall_mem_append.mpr ⟨?_, List.forall_mem_map.mpr fun _ _ => ⟨_, rfl⟩⟩
  intro stmt hstmt
  obtain ⟨argument, -, hmem⟩ := List.mem_flatMap.mp hstmt
  exact hargument argument stmt hmem

/-- The struct is built behind the values, and everything else follows behind the struct. -/
theorem sites_test {values : List Expr}
    (hgives : Stmt.Gives (List.zipWith bindParam command.initParams values)
      (command.initParams.map InitParam.name)) :
    (test command values).sites
      = ((command.initParams.map InitParam.name).reverse,
          .apply [command.structName, "default"] [])
        :: (Binder.scope (binders command) [], command.initUse)
        :: Stmt.listSites (Binder.scope (binders command) []) (checks command) := by
  have hscope : Name.verbatim "cmd" :: (command.initParams.map InitParam.name).reverse
      = Binder.scope (binders command) [] := by
    simp [binders, Binder.scope, Binder.used, Binder.spent, Function.comp_def]
  have hbody : (test command values).body = List.zipWith bindParam command.initParams values
      ++ .bind (.bind true "cmd") none (.apply [command.structName, "default"] [])
        :: .run command.initUse :: checks command := by
    simp [test, checks, Command.initUse]
  rw [Function.sites, hbody, hgives.listSites_append_right, ← hscope]
  exact congrArg (Stmt.listSites · _) (List.append_nil _)

theorem exists_of_outcome {tests : List Function}
    (h : outcome registry command = .ok (.written tests)) :
    ∃ values, tests = [test command values] ∧
      values? command registry firstLocation command.initParams = .ok (some values) := by
  obtain ⟨-, -, h⟩ := bind_eq_ok.mp h
  obtain ⟨found, hfound, h⟩ := bind_eq_ok.mp h
  cases found with
  | none => cases pure_eq_ok.mp h
  | some values =>
    obtain ⟨-, -, h⟩ := bind_eq_ok.mp h
    cases pure_eq_ok.mp h
    exact ⟨values, rfl, mapError_eq_ok.mp hfound⟩

/-- The names in the test refer to their own bindings exactly if no parameter of `init` is called
like a later one or like the command. -/
theorem isHygienic_iff (hlaid : command.IsLaidOut) (hnamed : command.IsNamed)
    {test : Function} (h : outcome registry command = .ok (.written [test])) :
    IsHygienic command test ↔ Binder.Unshadowed (binders command) := by
  obtain ⟨values, htest, hvalues⟩ := exists_of_outcome h
  cases List.singleton_inj.mp htest
  have hnames : ∀ param ∈ command.initParams, ∃ text, param.name = .escaped text := by
    intro param hparam
    obtain ⟨text, hname, -⟩ := hnamed.escaped_of_mem_initParams hlaid hparam
    exact ⟨text, hname⟩
  have hsites := sites_test (gives_bindParams hnames (length_values hvalues))
  have hbehind : ∀ site ∈ (FormatTests.test command values).sites,
      site.2 = .apply [command.structName, "default"] [] ∨
        site.1 = Binder.scope (binders command) [] := by
    rw [hsites]
    exact List.forall_mem_cons.mpr ⟨.inl rfl, List.forall_mem_cons.mpr ⟨.inr rfl,
      fun site hsite => .inr (Stmt.scope_of_runs run_of_mem_checks hsite)⟩⟩
  have hmethods : ∀ site ∈ (FormatTests.test command values).sites, ∀ made ∈ site.2.calls,
      isMethod made = true → site.1 = Binder.scope (binders command) [] := by
    intro site hsite made hmade hmethod
    rcases hbehind site hsite with hdefault | hscope
    · rw [hdefault] at hmade
      cases List.mem_singleton.mp hmade
      cases hmethod
    · exact hscope
  have huse : OccursAt command.initUse (FormatTests.test command values).sites
      (Binder.scope (binders command) []) := by
    rw [hsites]
    exact ⟨_, List.mem_cons_of_mem _ List.mem_cons_self, Expr.mem_parts _⟩
  rw [← Binder.forall_isVisible_iff _ [],
    ← Function.sees_iff (occursAt_iff rfl rfl huse hmethods)]
  refine ⟨IsHygienic.init, fun h => ⟨h, ?_⟩⟩
  intro text htext site hsite hread
  rw [List.mem_singleton.mp htext]
  rcases hbehind site hsite with hdefault | hscope
  · rw [hdefault] at hread
    cases hread
  · rw [hscope, binders, Binder.scope_append]
    exact ⟨_, Name.bound_cons_of_eq rfl⟩

end FormatTests

end CommandBuffer
