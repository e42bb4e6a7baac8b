import Mathlib.Data.Rat.Floor
import PolicyHost.Json.Basic

/-!
# Whole parts

A finite floating-point number is a fraction whose denominator is a power of two. Its whole part leaves out
what is behind the point: it is the next integer towards zero.

* `Decimal.Binary.toRat`, `Json.rational`: the number that a floating-point number is, exactly.
* `Json.truncate_eq`: its whole part.
-/

namespace PolicyHost

namespace Decimal.Binary

def toRat (b : Binary) : ℚ := b.significand * 2 ^ b.exponent

theorem toRat_nonneg (b : Binary) : 0 ≤ b.toRat :=
  mul_nonneg (Nat.cast_nonneg _) (zpow_nonneg zero_le_two _)

/-- A magnitude as a quotient of integers. -/
theorem toRat_eq_div (b : Binary) :
    b.toRat = ((b.significand * 2 ^ b.exponent.toNat : Nat) : ℚ) / ((2 ^ (-b.exponent).toNat : Nat) : ℚ) := by
  unfold toRat
  push_cast
  rw [mul_div_assoc, ← zpow_natCast, ← zpow_natCast, ← zpow_sub₀ two_ne_zero, Int.toNat_sub_toNat_neg]

theorem floor_toRat (b : Binary) :
    ⌊b.toRat⌋ = (b.significand * 2 ^ b.exponent.toNat / 2 ^ (-b.exponent).toNat : Nat) := by
  rw [toRat_eq_div, Rat.floor_natCast_div_natCast, Int.natCast_div]

end Decimal.Binary

namespace Json

/-- A floating-point number that is one, and not infinite. -/
def Finite (x : Float) : Prop := x.isNaN = false ∧ x.isInf = false

/-- The number that a finite floating-point number is. -/
def rational (x : Float) : ℚ :=
  let magnitude := (Decimal.Binary.ofBits x.toBits).toRat
  if x < 0 then -magnitude else magnitude

/-- The whole part is the next integer towards zero. -/
theorem truncate_eq (x : Float) :
    truncate x = if 0 ≤ rational x then ⌊rational x⌋ else ⌈rational x⌉ := by
  have nonneg := (Decimal.Binary.ofBits x.toBits).toRat_nonneg
  have whole : truncate x = if x < 0 then -⌊(Decimal.Binary.ofBits x.toBits).toRat⌋
      else ⌊(Decimal.Binary.ofBits x.toBits).toRat⌋ := by
    rw [Decimal.Binary.floor_toRat]
    rfl
  rw [whole, rational]
  by_cases negative : x < 0
  · rw [if_pos negative, if_pos negative]
    split
    · next none =>
      -- Both bounds leave zero alone, which is its own whole part.
      rw [le_antisymm (neg_nonneg.mp none) nonneg]
      rfl
    · rw [Int.ceil_neg]
  · rw [if_neg negative, if_neg negative, if_pos nonneg]

/-- A finite floating-point number that is no integer. -/
def Fraction (x : Float) : Prop := Finite x ∧ ∀ n : ℤ, rational x ≠ n

end Json

end PolicyHost
