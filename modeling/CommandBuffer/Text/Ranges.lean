/-! # Tables of code-point ranges

A character property of the Unicode standard is a sorted list of closed ranges.
The tables of this library start above the ASCII block; inside it every property
is decided by a plain test, so that reasoning about ASCII text needs no table.
-/

namespace CommandBuffer.Text

/-- A sorted list of closed code-point ranges. -/
abbrev Ranges := List (Nat × Nat)

/-- The table has a range around the code point. -/
def Ranges.has (table : Ranges) (point : Nat) : Bool :=
  table.any fun range => range.1 ≤ point && point ≤ range.2

theorem Ranges.has_iff {table : Ranges} {point : Nat} :
    table.has point = true ↔ ∃ range ∈ table, range.1 ≤ point ∧ point ≤ range.2 := by
  simp [Ranges.has]

/-- A property that is tested directly on ASCII and looked up above it. -/
def classify (ascii : Char → Bool) (table : Ranges) (c : Char) : Bool :=
  if c.toNat < 128 then ascii c else table.has c.toNat

theorem classify_ascii {ascii : Char → Bool} {table : Ranges} {c : Char} (h : c.toNat < 128) :
    classify ascii table c = ascii c := by
  simp [classify, h]

end CommandBuffer.Text
