/-! # Whole numbers in single precision

A whole number is rounded to the 24 bits of a single-precision mantissa, ties to
even, and then written with the fewest digits that are rounded back to the same
single: the digits that are not needed become zeros.
-/

namespace CommandBuffer.Decimal

/-- A whole number with 24 significant bits, scaled by a power of two. -/
structure Single where
  mantissa : Nat
  exponent : Nat
  deriving DecidableEq, Repr

namespace Single

/-- The least mantissa of a number that is scaled. -/
def leastMantissa : Nat := Nat.pow 2 23

/-- The quotient rounded to the nearest, ties to even. -/
def roundDiv (n d : Nat) : Nat :=
  let quotient := n / d
  let rest := 2 * (n % d)
  if rest < d ∨ (rest = d ∧ quotient % 2 = 0) then quotient else quotient + 1

/-- The nearest number with 24 significant bits. -/
def ofNat (n : Nat) : Single :=
  let exponent := n.log2 - 23
  let mantissa := roundDiv n (Nat.pow 2 exponent)
  if mantissa = 2 * leastMantissa then ⟨leastMantissa, exponent + 1⟩ else ⟨mantissa, exponent⟩

def toNat (single : Single) : Nat := single.mantissa * Nat.pow 2 single.exponent

/-- Rounding the number gives the single back. The number below the least mantissa is
half as far away as the one above; the ends of the interval belong to even mantissas. -/
def roundsBack (single : Single) (n : Nat) : Bool :=
  let gap := Nat.pow 2 single.exponent
  let below := if single.mantissa = leastMantissa then gap else 2 * gap
  let low := 4 * single.toNat - below
  let high := 4 * single.toNat + 2 * gap
  if single.mantissa % 2 = 0 then decide (low ≤ 4 * n ∧ 4 * n ≤ high)
  else decide (low < 4 * n ∧ 4 * n < high)

/-- The multiple of the step that is nearest to the single and is rounded back to it. -/
def nearestMultiple? (single : Single) (step : Nat) : Option Nat :=
  let below := single.toNat / step * step
  let above := below + step
  match single.roundsBack below, single.roundsBack above with
  | true, true =>
    some (if single.toNat - below < above - single.toNat then below else above)
  | true, false => some below
  | false, true => some above
  | false, false => none

/-- The first hit among the multiples of falling powers of ten. -/
def shortestFrom (single : Single) : Nat → Nat
  | 0 => single.toNat
  | power + 1 => (single.nearestMultiple? (Nat.pow 10 (power + 1))).getD (single.shortestFrom power)

/-- The number with the fewest significant digits that is rounded back. -/
def shortest (single : Single) : Nat :=
  if single.exponent = 0 then single.toNat
  else single.shortestFrom (toString single.toNat).length

/-- The digits of the number with one place behind the point. -/
def text (single : Single) : String := s!"{single.shortest}.0"

end Single
end CommandBuffer.Decimal
