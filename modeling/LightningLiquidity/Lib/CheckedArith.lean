import Mathlib.Algebra.BigOperators.Group.List.Basic
import Mathlib.Data.UInt
import Mathlib.Tactic.Common

/-!
# Checked arithmetic on 64-bit integers

The operations on `UInt64` that do not wrap around: `checkedAdd`, `checkedSub`,
`checkedMul` and `checkedDiv`, and the conversion `tryFrom`, give `none` where the
exact result does not exist or does not fit, and `saturatingSub` stops at zero. Each
comes with what it computes in exact arithmetic, on the values of its arguments as
natural numbers.

Sums (`List.sum`) do wrap around: `toNat_sum`.
-/

namespace UInt64

/-- The product, if it fits. -/
def checkedMul (a b : UInt64) : Option UInt64 :=
  if a.toNat * b.toNat < 2 ^ 64 then some (a * b) else none

/-- The sum, if it fits. -/
def checkedAdd (a b : UInt64) : Option UInt64 :=
  if a.toNat + b.toNat < 2 ^ 64 then some (a + b) else none

/-- The quotient, unless the divisor is zero. -/
def checkedDiv (a b : UInt64) : Option UInt64 :=
  if b = 0 then none else some (a / b)

/-- The difference, if it is not negative. -/
def checkedSub (a b : UInt64) : Option UInt64 := if b ≤ a then some (a - b) else none

/-- A natural number as a 64-bit integer, if it fits. -/
def tryFrom (n : ℕ) : Option UInt64 := if n < 2 ^ 64 then some (ofNat n) else none

/-- The difference, or zero if it is negative. -/
def saturatingSub (a b : UInt64) : UInt64 := if b ≤ a then a - b else 0

theorem checkedMul_eq_some {a b c : UInt64} :
    checkedMul a b = some c ↔ c.toNat = a.toNat * b.toNat := by
  have hc := c.toNat_lt
  constructor
  · intro h
    rw [checkedMul, Option.ite_none_right_eq_some] at h
    obtain ⟨hlt, h⟩ := h
    rw [← Option.some.inj h, UInt64.toNat_mul, Nat.mod_eq_of_lt hlt]
  · intro h
    rw [checkedMul, if_pos (h ▸ hc), Option.some_inj, ← UInt64.toNat_inj, UInt64.toNat_mul, ← h,
      Nat.mod_eq_of_lt hc]

theorem checkedAdd_eq_some {a b c : UInt64} :
    checkedAdd a b = some c ↔ c.toNat = a.toNat + b.toNat := by
  have hc := c.toNat_lt
  constructor
  · intro h
    rw [checkedAdd, Option.ite_none_right_eq_some] at h
    obtain ⟨hlt, h⟩ := h
    rw [← Option.some.inj h, UInt64.toNat_add, Nat.mod_eq_of_lt hlt]
  · intro h
    rw [checkedAdd, if_pos (h ▸ hc), Option.some_inj, ← UInt64.toNat_inj, UInt64.toNat_add, ← h,
      Nat.mod_eq_of_lt hc]

theorem toNat_saturatingSub (a b : UInt64) :
    (saturatingSub a b).toNat = a.toNat - b.toNat := by
  rw [saturatingSub]
  split
  · next h => rw [UInt64.toNat_sub_of_le _ _ h]
  · next h =>
    rw [UInt64.le_iff_toNat_le] at h
    simp only [UInt64.toNat_zero]
    omega

theorem checkedSub_of_le {a b : UInt64} (h : b ≤ a) : checkedSub a b = some (a - b) := if_pos h

theorem tryFrom_of_lt {n : ℕ} (h : n < 2 ^ 64) : tryFrom n = some (ofNat n) := if_pos h

theorem checkedDiv_of_ne_zero {a b : UInt64} (h : b ≠ 0) : checkedDiv a b = some (a / b) :=
  if_neg h

theorem saturatingSub_pos {a b : UInt64} : 0 < saturatingSub a b ↔ b < a := by
  rw [UInt64.lt_iff_toNat_lt, toNat_saturatingSub, UInt64.lt_iff_toNat_lt, UInt64.toNat_zero]
  omega

/-- A sum of 64-bit integers is the exact one modulo `2 ^ 64`. -/
theorem toNat_sum (l : List UInt64) : l.sum.toNat = (l.map UInt64.toNat).sum % 2 ^ 64 := by
  induction l with
  | nil => rfl
  | cons a l ih => rw [List.sum_cons, UInt64.toNat_add, ih, List.map_cons, List.sum_cons]; omega

end UInt64
