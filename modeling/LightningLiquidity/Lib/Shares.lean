import Mathlib.Algebra.BigOperators.Group.List.Basic
import Mathlib.Algebra.Order.BigOperators.Group.List
import Mathlib.Algebra.Order.Ring.Nat
import Mathlib.Tactic.Common

/-!
# Shares in proportion

An amount is shared in proportion to weights, and every share rounded down (`share`). The shares
are then off by the remainders of the divisions:

* `sumShare_le`, `lt_sumShare_add_length`: they do not exceed the amount, and what is left is
  less than their number;
* `le_sumShare_add_iff`: when a last weight can make up for what the other shares leave.
-/

namespace Shares

variable {amount total w : ℕ} {ws : List ℕ}

/-- The share of the amount that is due to the weight `w`, out of a total, rounded down. -/
def share (amount total w : ℕ) : ℕ := amount * w / total

/-- The sum of the shares due to weights. -/
def sumShare (amount total : ℕ) (ws : List ℕ) : ℕ := (ws.map (share amount total)).sum

@[simp] theorem sumShare_nil : sumShare amount total [] = 0 := rfl

@[simp] theorem sumShare_cons (w : ℕ) (ws : List ℕ) :
    sumShare amount total (w :: ws) = share amount total w + sumShare amount total ws := rfl

@[simp] theorem sumShare_append (ws ws' : List ℕ) :
    sumShare amount total (ws ++ ws') = sumShare amount total ws + sumShare amount total ws' := by
  simp [sumShare]

/-- A share is no more than the weight, for an amount of at most the total. -/
theorem share_le (h : amount ≤ total) (w : ℕ) : share amount total w ≤ w :=
  Nat.div_le_of_le_mul (Nat.mul_le_mul_right w h)

/-- Shares and remainders make up what is shared. -/
theorem mul_sumShare_add_sum_mod (amount total : ℕ) (ws : List ℕ) :
    total * sumShare amount total ws + (ws.map fun w => amount * w % total).sum =
      amount * ws.sum := by
  induction ws with
  | nil => simp
  | cons w ws ih =>
    have hw := Nat.div_add_mod (amount * w) total
    simp only [sumShare_cons, share, List.map_cons, List.sum_cons, Nat.mul_add]
    omega

/-- The shares do not exceed the amount. -/
theorem sumShare_le (hpos : 0 < total) (hsum : ws.sum ≤ total) : sumShare amount total ws ≤ amount := by
  refine Nat.le_of_mul_le_mul_left ?_ hpos
  calc total * sumShare amount total ws
    _ ≤ amount * ws.sum := by
      rw [← mul_sumShare_add_sum_mod amount total ws]
      exact Nat.le_add_right _ _
    _ ≤ amount * total := Nat.mul_le_mul_left _ hsum
    _ = total * amount := Nat.mul_comm _ _

/-- The remainders are less than the total each. -/
theorem sum_mod_add_length_le (hpos : 0 < total) (amount : ℕ) (ws : List ℕ) :
    (ws.map fun w => amount * w % total).sum + ws.length ≤ total * ws.length := by
  induction ws with
  | nil => simp
  | cons w ws ih =>
    have hw := Nat.mod_lt (amount * w) hpos
    simp only [List.map_cons, List.sum_cons, List.length_cons, Nat.mul_succ]
    omega

/-- What the shares leave of the amount is less than their number. -/
theorem lt_sumShare_add_length (amount : ℕ) (hpos : 0 < total) (hsum : ws.sum = total) :
    amount < sumShare amount total ws + ws.length := by
  have hlen : 0 < ws.length := by
    refine List.length_pos_iff.2 fun hnil => ?_
    rw [hnil, List.sum_nil] at hsum
    exact hpos.ne hsum
  refine Nat.lt_of_mul_lt_mul_left (a := total) ?_
  have hshares := mul_sumShare_add_sum_mod amount total ws
  have hmod := sum_mod_add_length_le hpos amount ws
  rw [hsum, Nat.mul_comm amount] at hshares
  rw [Nat.mul_add]
  omega

/-- A last weight covers what the shares of the others leave iff their remainders sum up to no
    more than it keeps. -/
theorem le_sumShare_add_iff (hpos : 0 < total) (hle : amount ≤ total) (hsum : ws.sum + w = total) :
    amount ≤ sumShare amount total ws + w ↔
      (ws.map fun w => amount * w % total).sum ≤ (total - amount) * w := by
  have hshares := mul_sumShare_add_sum_mod amount total ws
  have hamount : amount * total = amount * ws.sum + amount * w := by rw [← hsum, Nat.mul_add]
  have hkeeps : (total - amount) * w + amount * w = total * w := by
    rw [← Nat.add_mul, Nat.sub_add_cancel hle]
  rw [← Nat.mul_le_mul_left_iff hpos, Nat.mul_add, Nat.mul_comm total amount]
  omega

end Shares
