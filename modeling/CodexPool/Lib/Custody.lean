import CodexPool.Lib.Machine
import Mathlib.Data.Multiset.OrderedMonoid
import Mathlib.Tactic.Abel

/-!
# Custody

Items are handed to a machine, which holds them, gives them back or loses them. When every
step keeps the balance of these, so does every run, and the items that were handed over are
given back or still held, each once, if and only if no step loses one.
-/

namespace Custody

variable {S I α : Type*}

/-- What the steps of a run bring together. -/
def collect (step : S → I → S) (f : S → I → Multiset α) : S → List I → Multiset α
  | _, [] => 0
  | s, i :: is => f s i + collect step f (step s i) is

theorem collect_eq_zero_iff (step : S → I → S) (f : S → I → Multiset α) (s : S)
    (is : List I) :
    collect step f s is = 0 ↔ Machine.Along step (fun s i => f s i = 0) s is := by
  induction is generalizing s with
  | nil => simp [collect, Machine.Along]
  | cons i is ih => rw [collect, add_eq_zero, ih, Machine.Along]

section Balance

variable {step : S → I → S} {held : S → Multiset α} {handed given lost : S → I → Multiset α}
  (hstep : ∀ s i, held s + handed s i = held (step s i) + given s i + lost s i)

include hstep

theorem balance (s : S) (is : List I) :
    held s + collect step handed s is =
      held (Machine.run step s is) + collect step given s is + collect step lost s is := by
  induction is generalizing s with
  | nil => simp [collect, Machine.run]
  | cons i is ih =>
      calc held s + (handed s i + collect step handed (step s i) is)
          = held (step s i) + given s i + lost s i + collect step handed (step s i) is := by
            rw [← add_assoc, hstep]
        _ = held (step s i) + collect step handed (step s i) is + given s i + lost s i := by
            abel
        _ = held (Machine.run step (step s i) is) + collect step given (step s i) is +
              collect step lost (step s i) is + given s i + lost s i := by
            rw [ih]
        _ = _ := by
            simp only [collect, Machine.run]
            abel

/-- From a machine that holds nothing, the items come back, each once, if and only if no step
loses one. -/
theorem returned_iff {s : S} (hs : held s = 0) (is : List I) :
    collect step handed s is = held (Machine.run step s is) + collect step given s is ↔
      Machine.Along step (fun s i => lost s i = 0) s is := by
  have hbalance := balance hstep s is
  rw [hs, zero_add] at hbalance
  rw [hbalance, add_eq_left, collect_eq_zero_iff]

end Balance

end Custody
