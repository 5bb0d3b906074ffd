import Mathlib.Data.Int.ModEq
import Mathlib.Tactic.Positivity
import Mathlib.Tactic.Ring

/-! # Integers of fixed width

An integer type holds a range of integers. A cast keeps the value modulo the width
of the target, which is truncation to a narrower type, and zero or sign extension
of the source to a wider one.
-/

namespace CommandBuffer.Code

/-- An integer type of the generated language. -/
structure IntType where
  width : Nat
  isSigned : Bool
  deriving DecidableEq, Repr

namespace IntType

def u8 : IntType := ⟨8, false⟩
def i8 : IntType := ⟨8, true⟩
def u16 : IntType := ⟨16, false⟩
def i16 : IntType := ⟨16, true⟩
def u32 : IntType := ⟨32, false⟩
def i32 : IntType := ⟨32, true⟩
def u64 : IntType := ⟨64, false⟩
def i64 : IntType := ⟨64, true⟩

/-- The least value of the type. -/
def least (type : IntType) : Int := if type.isSigned then -2 ^ (type.width - 1) else 0

/-- The first value beyond the type. -/
def bound (type : IntType) : Int := if type.isSigned then 2 ^ (type.width - 1) else 2 ^ type.width

/-- The integer is a value of the type. -/
def Holds (type : IntType) (n : Int) : Prop := type.least ≤ n ∧ n < type.bound

instance (type : IntType) (n : Int) : Decidable (type.Holds n) :=
  inferInstanceAs (Decidable (_ ∧ _))

/-- The value of the type that is the integer modulo the width, in two's complement. -/
def wrap (type : IntType) (n : Int) : Int := (n - type.least) % 2 ^ type.width + type.least

variable {type source : IntType} {n m : Int}

theorem bound_eq (hwidth : 0 < type.width) : type.bound = type.least + 2 ^ type.width := by
  unfold bound least
  split
  · obtain ⟨k, hk⟩ : ∃ k, type.width = k + 1 := ⟨type.width - 1, by omega⟩
    rw [hk, Nat.add_sub_cancel, pow_succ]
    ring
  · rw [zero_add]

/-- A value of the type is kept by a cast to it. -/
theorem wrap_of_holds (hwidth : 0 < type.width) (h : type.Holds n) : type.wrap n = n := by
  have hbound := type.bound_eq hwidth
  rcases h with ⟨hleast, hlt⟩
  rw [wrap, Int.emod_eq_of_lt (by omega) (by omega), Int.sub_add_cancel]

theorem holds_wrap (hwidth : 0 < type.width) (n : Int) : type.Holds (type.wrap n) := by
  have hpos : (0 : Int) < 2 ^ type.width := by positivity
  have hnonneg := Int.emod_nonneg (n - type.least) hpos.ne'
  have hlt := Int.emod_lt_of_pos (n - type.least) hpos
  have hbound := type.bound_eq hwidth
  unfold wrap Holds
  constructor <;> omega

/-- A cast keeps the integer modulo the width. -/
theorem wrap_modEq (type : IntType) (n : Int) : type.wrap n ≡ n [ZMOD 2 ^ type.width] := by
  have h : (n - type.least) % 2 ^ type.width ≡ n - type.least [ZMOD 2 ^ type.width] :=
    Int.mod_modEq _ _
  have hsum := h.add_right type.least
  rwa [Int.sub_add_cancel] at hsum

/-- What a cast gives depends on the integer modulo the width only. -/
theorem wrap_congr (h : n ≡ m [ZMOD 2 ^ type.width]) : type.wrap n = type.wrap m := by
  unfold wrap
  rw [(h.sub_right type.least).eq]

/-- A value survives a cast to a type that is at least as wide, whatever the signs. -/
theorem wrap_wrap (hwidth : 0 < type.width) (hwider : type.width ≤ source.width)
    (h : type.Holds n) : type.wrap (source.wrap n) = n := by
  have hmod : source.wrap n ≡ n [ZMOD 2 ^ type.width] :=
    (source.wrap_modEq n).of_dvd (pow_dvd_pow 2 hwider)
  rw [wrap_congr hmod, wrap_of_holds hwidth h]

/-- A value of a narrower unsigned type is one of a wider type. -/
theorem holds_of_nonneg (hunsigned : type.isSigned = false) (hnonneg : 0 ≤ n)
    (hlt : n < 2 ^ type.width) : type.Holds n := by
  unfold Holds least bound
  simp [hunsigned, hnonneg, hlt]

end IntType
end CommandBuffer.Code
