import CommandBuffer.Proofs.Hygiene.HandlerTests
import CommandBuffer.Proofs.Planning
import CommandBuffer.Proofs.Synthesis

/-! # What a test of a handler stages

A test binds the staged arguments one behind the other, so the binding of an argument is found at
the number of staged arguments before it. A plain argument is bound to its test value: the test count
if it counts data, else the first legal value of its type if it has one. Data is an array of its test
length.
-/

namespace CommandBuffer

open Code Success

namespace HandlerTests

variable {registry : Registry} {command : Command} {argument : Argument} {index : Nat}

/-! ## Blocks of bindings -/

/-- The statements by which the argument at a position is staged. -/
inductive IsBlock (registry : Registry) (command : Command) (index : Nat) (argument : Argument) :
    List Stmt → Prop where
  | value {value : Expr} (hstaged : isStaged argument = true)
      (hplain : argument.layout.dataSize? = none)
      (hvalue : command.testValue? registry index argument = .ok (some value)) :
      IsBlock registry command index argument
        [.bind (.bind false argument.ident) (some argument.valueType) value]
  | data {size : DataSize} (hlayout : argument.layout = .immediate size)
      (hsized : size ≠ .unsized) :
      IsBlock registry command index argument [ClientTests.bindData argument size.testLength]
  | nothing (hstaged : isStaged argument = false) : IsBlock registry command index argument []

theorem IsBlock.length {block : List Stmt} (h : IsBlock registry command index argument block) :
    block.length = if isStaged argument then 1 else 0 := by
  cases h with
  | value hstaged => rw [hstaged]; rfl
  | data hlayout => rw [isStaged, hlayout]; rfl
  | nothing hstaged => rw [hstaged]; rfl

theorem isBlock_of_stage {before after : Setup}
    (h : stage registry command index argument before = .ok (some after)) :
    ∃ block, after.bindings = before.bindings ++ block ∧
      IsBlock registry command index argument block := by
  obtain ⟨-, -, h⟩ := bind_eq_ok.mp h
  obtain ⟨-, -, h⟩ := bind_eq_ok.mp h
  cases hlayout : argument.layout with
  | word | split =>
    simp only [hlayout] at h
    obtain ⟨value, hvalue, h⟩ := bind_eq_ok.mp h
    rw [Emission.rejecting, mapError_eq_ok] at hvalue
    cases value with
    | none => cases pure_eq_ok.mp h
    | some value =>
      cases pure_eq_ok.mp h
      exact ⟨_, rfl, .value (by rw [isStaged, hlayout]) (by rw [hlayout]; rfl) hvalue⟩
  | immediate size =>
    cases size with
    | unsized =>
      simp only [hlayout] at h
      cases pure_eq_ok.mp h
    | fixed | atMost | counted =>
      simp only [hlayout] at h
      cases pure_eq_ok.mp h
      exact ⟨_, rfl, .data hlayout (by simp)⟩
  | shm | result =>
    simp only [hlayout] at h
    cases pure_eq_ok.mp h
    exact ⟨[], (List.append_nil _).symm, .nothing (by rw [isStaged, hlayout])⟩
  | bucket =>
    simp only [hlayout] at h
    cases pure_eq_ok.mp h

/-- The block of an argument follows as many bindings as arguments before it are staged. -/
theorem exists_block_of_stageAll {arguments : List Argument} {before after : Setup}
    (h : stageAll registry command index arguments before = .ok (some after)) {i : Nat}
    (hargument : arguments[i]? = some argument) :
    ∃ earlier block later, after.bindings = earlier ++ block ++ later ∧
      earlier.length
        = before.bindings.length + ((arguments.take i).filter isStaged).length ∧
      IsBlock registry command (index + i) argument block := by
  induction arguments generalizing index before i with
  | nil => cases hargument
  | cons first rest ih =>
    obtain ⟨staged, hstaged, hrest⟩ := bind_eq_ok.mp h
    cases staged with
    | none => cases pure_eq_ok.mp hrest
    | some setup =>
      obtain ⟨block, hbindings, hblock⟩ := isBlock_of_stage hstaged
      cases i with
      | zero =>
        cases hargument
        obtain ⟨added, hadded, -⟩ := (stages_of_stageAll hrest).bindings
        exact ⟨before.bindings, block, added, by rw [hadded, hbindings], rfl, hblock⟩
      | succ i =>
        obtain ⟨earlier, own, later, hafter, hlength, hown⟩ := ih hrest hargument
        refine ⟨earlier, own, later, hafter, ?_, by rwa [Nat.succ_add_eq_add_succ] at hown⟩
        rw [hlength, hbindings, List.length_append, hblock.length, List.take_succ_cons,
          List.filter_cons, Nat.add_assoc]
        congr 1
        cases isStaged first with
        | true => simp [Nat.add_comm]
        | false => simp

/-! ## Bindings by position -/

namespace Setup

/-- The binding of the argument at a position. -/
def binding? (setup : Setup) (command : Command) (index : Nat) : Option Stmt :=
  setup.bindings[((command.arguments.take index).filter isStaged).length]?

/-- The plain argument at a position is bound to the value, at its type. -/
def Binds (setup : Setup) (command : Command) (index : Nat) (value : Expr) : Prop :=
  ∃ argument, command.arguments[index]? = some argument ∧
    setup.binding? command index
      = some (.bind (.bind false argument.ident) (some argument.valueType) value)

theorem Binds.eq {setup : Setup} {first second : Expr} (h : setup.Binds command index first)
    (h' : setup.Binds command index second) : first = second := by
  obtain ⟨argument, -, hfirst⟩ := h
  obtain ⟨other, -, hsecond⟩ := h'
  injection Option.some.inj (hfirst.symm.trans hsecond)

end Setup

section

variable {setup : Setup}
  (hstaged : stageAll registry command 0 command.arguments {} = .ok (some setup))

include hstaged

theorem isBlock_binding? (hargument : command.arguments[index]? = some argument)
    (hown : isStaged argument = true) :
    ∃ stmt, setup.binding? command index = some stmt ∧
      IsBlock registry command index argument [stmt] := by
  obtain ⟨earlier, block, later, hbindings, hlength, hblock⟩ :=
    exists_block_of_stageAll hstaged hargument
  have hone := hblock.length
  rw [hown, if_pos rfl] at hone
  obtain ⟨stmt, rfl⟩ := List.length_eq_one_iff.mp hone
  rw [Nat.zero_add] at hblock
  refine ⟨stmt, ?_, hblock⟩
  have hearlier : ((command.arguments.take index).filter isStaged).length = earlier.length := by
    rw [hlength]
    exact (Nat.zero_add _).symm
  rw [Setup.binding?, hbindings, hearlier, List.append_assoc, List.singleton_append,
    List.getElem?_append_right (Nat.le_refl _), Nat.sub_self]
  rfl

/-- A plain argument is bound to its test value. -/
theorem exists_binds (hlaid : command.IsLaidOut)
    (hargument : command.arguments[index]? = some argument)
    (hscalar : argument.param.type.isPointer = false) :
    ∃ value, command.testValue? registry index argument = .ok (some value) ∧
      setup.Binds command index value := by
  have hlayout := hlaid.layout_of_scalar hargument hscalar
  have hown : isStaged argument = true := by
    rcases hlayout with ⟨field, kind, hword⟩ | ⟨low, high, hsplit⟩ <;> simp [isStaged, *]
  obtain ⟨stmt, hbinding, hblock⟩ := isBlock_binding? hstaged hargument hown
  cases hblock with
  | value _ _ hvalue => exact ⟨_, hvalue, argument, hargument, hbinding⟩
  | data himmediate =>
    rcases hlayout with ⟨field, kind, hword⟩ | ⟨low, high, hsplit⟩ <;> simp_all

/-- Data behind the command is an array of its test length. -/
theorem binding?_of_immediate (hargument : command.arguments[index]? = some argument)
    {size : DataSize} (hlayout : argument.layout = .immediate size) :
    setup.binding? command index = some (ClientTests.bindData argument size.testLength) := by
  have hown : isStaged argument = true := by rw [isStaged, hlayout]
  obtain ⟨stmt, hbinding, hblock⟩ := isBlock_binding? hstaged hargument hown
  cases hblock with
  | value _ hplain =>
    rw [hlayout] at hplain
    cases hplain
  | data himmediate =>
    rw [hlayout] at himmediate
    cases himmediate
    exact hbinding

end

/-! ## Test values -/

/-- A counting argument gets the test count. -/
theorem testValue?_of_isCounting (hcounting : command.isCounting index = true) :
    command.testValue? registry index argument
      = .ok (some (.cast (.number testCount) argument.valueType)) := by
  rw [Command.testValue?, if_pos hcounting]

/-- Any other argument of a type with a legal value gets the first of them, unless the directives
give it another one. -/
theorem typedLiteral_of_testValue? {value : Expr} {id : TypeId} {type : NamedType} {first : String}
    {rest : List String} (h : command.testValue? registry index argument = .ok (some value))
    (hcounting : command.isCounting index = false) (huntouched : command.record.testValues = [])
    (hnamed : argument.param.type.named = some id) (htype : registry.get? id = some type)
    (hlegal : type.legal = first :: rest) :
    ∃ kind, ScalarKind.ofType? argument.param.type = some kind ∧
      typedLiteral command.record.name first kind argument.base = .ok value := by
  rw [Command.testValue?, if_neg (by simp [hcounting]), Record.testValue?] at h
  split at h
  · cases h
  · rename_i kind hkind
    refine ⟨kind, hkind, ?_⟩
    rw [huntouched, List.lookup_nil] at h
    simp only [hnamed, Option.bind_some, htype, hlegal, List.head?_cons] at h
    obtain ⟨literal, hliteral, hsame⟩ := map_eq_ok.mp h
    rw [← Option.some.inj hsame]
    exact hliteral

end HandlerTests
end CommandBuffer
