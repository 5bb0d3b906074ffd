import CommandBuffer.Artifact.CommandFormat
import CommandBuffer.Proofs.Planning
import Mathlib.Algebra.Ring.Nat
import Mathlib.Data.List.Nodup

/-! # Sized data

Data has a fixed size, a size that is only known at run time, or one that the argument
right before it counts. What the emitters rely on follows from the directives: the
constant of the command struct, the field of a run-time count, and the type of a
counting argument. Data behind a command is that of the only pointer.
-/

namespace CommandBuffer

open Code

/-- The directives ask for counts of 32 bits. -/
def Protocol.CountsFit (protocol : Protocol) : Prop :=
  ∀ directives ∈ protocol.overrides.entries, ∀ count, directives.count = some count →
    count < 2 ^ 32

/-- The constant of a struct whose data units are final or bounded. -/
def unitsConstant (name : Name) (count : Nat) : Constant :=
  ⟨[], .everywhere, name, "usize", .number count⟩

/-- The counter is the argument right before the data. -/
theorem Record.index_of_countedBy? {record : Record} {index counter : Nat}
    (h : record.countedBy? index = some counter) : index = counter + 1 := by
  unfold countedBy? at h
  split at h
  · cases h
  · split at h <;> cases h
    rfl

namespace Command

/-- What a command with sized data at a position has, for each kind of size. -/
inductive IsSized (command : Command) (index : Nat) : DataSize → Prop where
  | fixed {count : Nat}
      (hconstant : CommandFormat.unitConstant? command = some (unitsConstant "DATA_UNITS" count))
      (hfits : count < 2 ^ 32) : IsSized command index (.fixed count)
  | atMost {max field : Nat}
      (hconstant : CommandFormat.unitConstant? command = some (unitsConstant "MAX_DATA_UNITS" max))
      (hcount : command.count = some field) (hfits : max < 2 ^ 32) :
      IsSized command index (.atMost max)
  | counted {counter units field : Nat} {counting : Argument} (hindex : index = counter + 1)
      (hcounting : command.arguments[counter]? = some counting) (hbase : counting.base = "GLsizei")
      (hword : counting.layout = .word field .i32) (hfits : units < 2 ^ 32) :
      IsSized command index (.counted counter units)

namespace IsLaidOut

variable {command : Command} {index : Nat} {argument : Argument} {size : DataSize}

theorem isSized_of_countedBy? (h : command.IsLaidOut) {counter units : Nat}
    (hcounter : command.record.countedBy? index = some counter) (hfits : units < 2 ^ 32) :
    command.IsSized index (.counted counter units) := by
  obtain ⟨counting, field, hcounting, hbase, hword⟩ := h.counter_of_countedBy? hcounter
  exact .counted (Record.index_of_countedBy? hcounter) hcounting hbase hword hfits

/-- Data of every size but an unknown one is sized. -/
theorem isSized (h : command.IsLaidOut)
    (hfits : ∀ sizing units, command.record.packing.putSizing = some sizing →
      sizing.count = some units → units < 2 ^ 32)
    (hargument : command.arguments[index]? = some argument)
    (hsize : argument.layout.dataSize? = some size) (hsized : size ≠ .unsized) :
    command.IsSized index size := by
  obtain ⟨-, hsizes, -⟩ := h.sizes_of_dataSize? hargument hsize
  cases hsizes with
  | fixed hpacking =>
    refine .fixed ?_ (hfits _ _ (by rw [hpacking]; rfl) rfl)
    rw [CommandFormat.unitConstant?, hpacking]
    rfl
  | atMost hpacking =>
    have hcounted := h.counted
    rw [hpacking] at hcounted
    obtain ⟨field, hfield⟩ := Option.isSome_iff_exists.mp hcounted
    refine .atMost ?_ hfield (hfits _ _ (by rw [hpacking]; rfl) rfl)
    rw [CommandFormat.unitConstant?, hpacking]
    rfl
  | units hpacking hcounter =>
    exact h.isSized_of_countedBy? hcounter (hfits _ _ (by rw [hpacking]; rfl) rfl)
  | ids hpacking hcounter => exact h.isSized_of_countedBy? hcounter (by decide)
  | unsized hpacking => exact absurd rfl hsized

end IsLaidOut
end Command

/-! ## Data behind a command -/

private theorem eq_of_countP_eq_one {α : Type} {p : α → Bool} {items : List α}
    (hone : items.countP p = 1) {i j : Nat} {first second : α} (hi : items[i]? = some first)
    (hj : items[j]? = some second) (hfirst : p first = true) (hsecond : p second = true) :
    i = j := by
  have hnodup : (items.zipIdx.filter (p ·.1)).length = 1 := by
    rw [← List.countP_eq_length_filter, ← hone]
    conv_rhs => rw [← List.zipIdx_map_fst 0 items, List.countP_map]
    rfl
  obtain ⟨only, honly⟩ := List.length_eq_one_iff.mp hnodup
  have hmem : ∀ {k item}, items[k]? = some item → p item = true → (item, k) = only := by
    intro k item hk hp
    refine List.mem_singleton.mp (honly ▸ List.mem_filter.mpr ⟨?_, hp⟩)
    exact List.mem_zipIdx_iff_getElem?.mpr hk
  exact congrArg Prod.snd ((hmem hi hfirst).trans (hmem hj hsecond).symm)

namespace Command

variable {command : Command} {index : Nat} {argument : Argument} {size : DataSize}

/-- The data of a pointer follows the command exactly if that is the transfer method. -/
theorem IsLaidOut.immediate?_eq (h : command.IsLaidOut)
    (hone : command.transfer = .immediate →
      command.record.arguments.countP (·.type.isPointer) = 1)
    (hargument : command.arguments[index]? = some argument)
    (hsize : argument.layout.dataSize? = some size) :
    command.immediate?
      = if command.transfer = .immediate then some (argument, size) else none := by
  obtain ⟨hpointer, -, htransfer⟩ := h.sizes_of_dataSize? hargument hsize
  cases hfound : command.immediate? with
  | none =>
    split
    · rename_i himmediate
      rw [himmediate] at htransfer
      have hmissing := List.findSome?_eq_none_iff.mp hfound argument
        (List.mem_of_getElem? hargument)
      cases hlayout : argument.layout <;> rw [hlayout] at htransfer hmissing <;> cases htransfer
      cases hmissing
    · rfl
  | some found =>
    rcases found with ⟨other, otherSize⟩
    obtain ⟨position, hposition, hlayout⟩ := exists_of_immediate? hfound
    obtain ⟨hother, -, hotherTransfer⟩ :=
      h.sizes_of_dataSize? hposition (by rw [hlayout]; rfl : _ = some otherSize)
    rw [hlayout] at hotherTransfer
    have himmediate : command.transfer = .immediate := (Option.some.inj hotherTransfer).symm
    have hsame : position = index := by
      have hparam : ∀ {i : Nat} {a : Argument}, command.arguments[i]? = some a →
          command.record.arguments[i]? = some a.param := by
        intro i a ha
        rw [← h.params, List.getElem?_map, ha]
        rfl
      exact eq_of_countP_eq_one (hone himmediate) (hparam hposition) (hparam hargument) hother
        hpointer
    rw [hsame, hargument] at hposition
    cases hposition
    rw [hlayout] at hsize
    cases hsize
    rw [if_pos himmediate]

end Command
end CommandBuffer
