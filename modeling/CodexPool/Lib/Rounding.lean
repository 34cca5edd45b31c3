import Mathlib.Algebra.Order.Round
import Mathlib.Data.Int.ConditionallyCompleteOrder
import Mathlib.Data.Rat.Floor
import Mathlib.Tactic.FieldSimp
import Mathlib.Tactic.Linarith
import Mathlib.Tactic.Ring

/-!
# Rounding half up

`round` takes a number to the nearest integer and a half to the next one. Below are the facts
about a sum whose parts are rounded one by one.
-/

namespace Rounding

variable {α : Type*} [Field α] [LinearOrder α] [IsStrictOrderedRing α] [FloorRing α]

theorem round_mono : Monotone (round : α → ℤ) := by
  intro x y h
  rw [round_eq, round_eq]
  exact Int.floor_mono (add_le_add_left h (1 / 2))

theorem round_nonneg {x : α} (h : 0 ≤ x) : 0 ≤ round x := by
  have h0 : round (0 : α) ≤ round x := round_mono h
  rwa [round_zero] at h0

theorem round_div (a : ℤ) {d m : ℕ} (hm : 0 < m) (hd : d = 2 * m) :
    round ((a : ℚ) / d) = (a + m) / d := by
  subst hd
  have hm' : (m : ℚ) ≠ 0 := by exact_mod_cast hm.ne'
  have hhalf : (a : ℚ) / (2 * m : ℕ) + 1 / 2 = ((a + m : ℤ) : ℚ) / (2 * m : ℕ) := by
    push_cast
    field_simp
  rw [round_eq, hhalf, Rat.floor_intCast_div_natCast]

/-- Each part of a sum adds at most one half to the error. -/
theorem abs_sum_round_sub_le (xs : List α) :
    |(((xs.map round).sum : ℤ) : α) - xs.sum| ≤ xs.length / 2 := by
  induction xs with
  | nil => simp
  | cons x xs ih =>
      have hx : |(round x : α) - x| ≤ 1 / 2 := by
        rw [abs_sub_comm]
        exact abs_sub_round x
      have hsplit : ((((x :: xs).map round).sum : ℤ) : α) - (x :: xs).sum =
          ((round x : α) - x) + ((((xs.map round).sum : ℤ) : α) - xs.sum) := by
        rw [List.map_cons, List.sum_cons, List.sum_cons]
        push_cast
        ring
      have hlength : (((x :: xs).length : ℕ) : α) = xs.length + 1 := by
        rw [List.length_cons, Nat.cast_succ]
      rw [hsplit, hlength]
      have habs := abs_add_le ((round x : α) - x) ((((xs.map round).sum : ℤ) : α) - xs.sum)
      linarith

theorem round_add_round_le {x y d e : α} (h : e ≤ d) :
    round x + round (y + e) ≤ round (x + d) + round y + 1 := by
  have h1 := round_le_add_half x
  have h2 := round_le_add_half (y + e)
  have h3 := sub_half_lt_round (x + d)
  have h4 := sub_half_lt_round y
  have hlt : ((round x + round (y + e) : ℤ) : α) < ((round (x + d) + round y + 2 : ℤ) : α) := by
    push_cast
    linarith
  have hint : round x + round (y + e) < round (x + d) + round y + 2 := Int.cast_lt.1 hlt
  omega

end Rounding
