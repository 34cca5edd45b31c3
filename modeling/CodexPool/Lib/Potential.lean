import CodexPool.Lib.Machine

/-!
# Potentials

What happens along a run is counted against a potential: a step that counts takes one from it, and
no step adds to it. A measure that every step lowers until the machine is done bounds the run.
-/

namespace Machine

variable {S I : Type*} (step : S → I → S)

/-- How often a step of a run is one that counts. -/
def countAlong (counts : S → I → Bool) : S → List I → Nat
  | _, [] => 0
  | s, i :: is => (if counts s i then 1 else 0) + countAlong counts (step s i) is

variable {step} {counts : S → I → Bool} {P : S → Prop} {given : I → Prop} {s : S} {is : List I}

/-- Along a run no more steps count than its first state has potential. -/
theorem countAlong_le (potential : S → Nat) (hkeep : ∀ s i, P s → given i → P (step s i))
    (hstep : ∀ s i, P s → given i →
      potential (step s i) + (if counts s i then 1 else 0) ≤ potential s)
    (hs : P s) (his : ∀ i ∈ is, given i) : countAlong step counts s is ≤ potential s := by
  induction is generalizing s with
  | nil => exact Nat.zero_le _
  | cons i is ih =>
      rw [List.forall_mem_cons] at his
      have hone := hstep s i hs his.1
      have hrest := ih (hkeep s i hs his.1) his.2
      rw [countAlong]
      omega

/-- The steps of one kind are no more than those of another, but for the potential of the first
state, when a step of the other kind gives one and a step of the first kind takes one. -/
theorem countAlong_le_add {counts' : S → I → Bool} (potential : S → Nat)
    (hkeep : ∀ s i, P s → given i → P (step s i))
    (hstep : ∀ s i, P s → given i → potential (step s i) + (if counts s i then 1 else 0) ≤
      potential s + (if counts' s i then 1 else 0))
    (hs : P s) (his : ∀ i ∈ is, given i) :
    countAlong step counts s is ≤ countAlong step counts' s is + potential s := by
  induction is generalizing s with
  | nil => exact Nat.zero_le _
  | cons i is ih =>
      rw [List.forall_mem_cons] at his
      have hone := hstep s i hs his.1
      have hrest := ih (hkeep s i hs his.1) his.2
      rw [countAlong, countAlong]
      omega

/-- A run that is as long as the measure of its first state has done. -/
theorem run_done (measure : S → Nat) {done : S → Prop}
    (hkeep : ∀ s i, P s → given i → P (step s i))
    (hdone : ∀ s i, done s → done (step s i))
    (hstep : ∀ s i, P s → given i → done (step s i) ∨ measure (step s i) < measure s)
    (hs : P s) (his : ∀ i ∈ is, given i) (hlength : measure s < is.length) :
    done (run step s is) := by
  have hrun : ∀ (is : List I) {s : S}, done s → done (run step s is) :=
    fun is _ h => run_invariant hdone h is
  induction is generalizing s with
  | nil => exact absurd hlength (Nat.not_lt_zero _)
  | cons i is ih =>
      rw [List.forall_mem_cons] at his
      rw [run]
      rcases hstep s i hs his.1 with hd | hlt
      · exact hrun is hd
      · rw [List.length_cons] at hlength
        exact ih (hkeep s i hs his.1) his.2 (by omega)

end Machine
