import Mathlib.Data.List.Basic

/-!
# Logs of attempts

A log lists attempts at targets, the latest first. Each attempt hits or misses, and carries the
limit its target had when it was made. A log is within its limits when every attempt came after
fewer misses of its target than the limit.
-/

structure Trial (κ : Type*) where
  target : κ
  limit : Int
  hit : Bool

namespace Trial

variable {κ : Type*} [DecidableEq κ]

def missed (target : κ) (a : Trial κ) : Bool := a.target = target && !a.hit

def misses (log : List (Trial κ)) (target : κ) : Nat := log.countP (missed target)

def WithinLimit : List (Trial κ) → Prop
  | [] => True
  | a :: log => (misses log a.target : Int) < a.limit ∧ WithinLimit log

instance decidableWithinLimit : ∀ log : List (Trial κ), Decidable (WithinLimit log)
  | [] => inferInstanceAs (Decidable True)
  | _ :: log => @instDecidableAnd _ _ inferInstance (decidableWithinLimit log)

theorem misses_cons (a : Trial κ) (log : List (Trial κ)) (target : κ) :
    misses (a :: log) target = misses log target + if missed target a then 1 else 0 :=
  List.countP_cons

theorem WithinLimit.misses_le {log : List (Trial κ)} (h : WithinLimit log) {target : κ}
    {bound : Nat} (hbound : ∀ a ∈ log, a.target = target → a.limit ≤ bound) :
    misses log target ≤ bound := by
  induction log with
  | nil => exact Nat.zero_le bound
  | cons a log ih =>
      have hrest := ih h.2 fun b hb => hbound b (List.mem_cons_of_mem a hb)
      rw [misses_cons]
      by_cases hmissed : missed target a = true
      · have htarget : a.target = target := by
          rw [missed, Bool.and_eq_true, decide_eq_true_eq] at hmissed
          exact hmissed.1
        have hlimit := hbound a List.mem_cons_self htarget
        have hbefore := h.1
        rw [htarget] at hbefore
        rw [if_pos hmissed]
        omega
      · rw [if_neg hmissed]
        exact hrest

end Trial
