import Mathlib.Data.List.Perm.Subperm

/-!
# Sweeps

A loop takes a batch of items, acts on each of them and goes on as long as its batches are full.
When no item is taken twice, the batches use up the items that there are, so that the loop ends.
-/

namespace Sweep

variable {κ : Type*} (batch : Nat → List κ) (bound : Nat)

/-- The loop comes to the pass: all batches before it are full. -/
def Runs (n : Nat) : Prop := ∀ m < n, (batch m).length = bound

/-- The items that are taken before a pass. -/
def taken (n : Nat) : List κ := (List.range n).flatMap batch

/-- What is expected of a sweep over items that are due. -/
structure Progress (acts due : Nat → κ → Prop) : Prop where
  acts : ∀ n, Runs batch bound n → ∀ k ∈ batch n, acts n k
  once : ∀ m n, m < n → Runs batch bound n → ∀ k ∈ batch m, k ∉ batch n
  ends : ∃ n, Runs batch bound n ∧ (batch n).length < bound ∧
    n + 1 ≤ (taken batch (n + 1)).length / bound + 1
  complete : ∀ n, Runs batch bound n → (batch n).length < bound → ∀ k, due n k → k ∈ batch n

variable {batch bound}

theorem Runs.of_succ {n : Nat} (h : Runs batch bound (n + 1)) : Runs batch bound n :=
  fun m hm => h m (Nat.lt_succ_of_lt hm)

theorem taken_succ (n : Nat) : taken batch (n + 1) = taken batch n ++ batch n := by
  unfold taken
  rw [List.range_succ, List.flatMap_append, List.flatMap_singleton]

theorem mem_taken {n : Nat} {k : κ} : k ∈ taken batch n ↔ ∃ m < n, k ∈ batch m := by
  simp [taken]

theorem length_taken {n : Nat} (h : Runs batch bound n) :
    (taken batch n).length = n * bound := by
  induction n with
  | zero => simp [taken]
  | succ n ih =>
      rw [taken_succ, List.length_append, ih h.of_succ, h n (Nat.lt_succ_self n), Nat.succ_mul]

theorem nodup_taken (hnd : ∀ n, (batch n).Nodup)
    (honce : ∀ m n, m < n → Runs batch bound n → ∀ k ∈ batch m, k ∉ batch n) {n : Nat}
    (h : Runs batch bound n) : (taken batch n).Nodup := by
  induction n with
  | zero => simp [taken]
  | succ n ih =>
      rw [taken_succ, List.nodup_append]
      refine ⟨ih h.of_succ, hnd n, ?_⟩
      rintro k hk _ hk' rfl
      obtain ⟨m, hm, hk⟩ := mem_taken.1 hk
      exact honce m n hm h.of_succ k hk hk'

/-- A loop that takes no item twice ends, after no more passes than its items fill batches, and
one more. -/
theorem ends_of_once (hbound : 0 < bound) (hle : ∀ n, (batch n).length ≤ bound)
    (hnd : ∀ n, (batch n).Nodup)
    (honce : ∀ m n, m < n → Runs batch bound n → ∀ k ∈ batch m, k ∉ batch n) (items : List κ)
    (hitems : ∀ n, ∀ k ∈ batch n, k ∈ items) :
    ∃ n, Runs batch bound n ∧ (batch n).length < bound ∧
      n + 1 ≤ (taken batch (n + 1)).length / bound + 1 := by
  by_contra hnot
  have hruns (n : Nat) : Runs batch bound n := by
    induction n with
    | zero => exact fun m hm => absurd hm (Nat.not_lt_zero m)
    | succ n ih =>
        intro m hm
        obtain hm | rfl := Nat.lt_succ_iff_lt_or_eq.1 hm
        · exact ih m hm
        · refine Nat.le_antisymm (hle m) (Nat.not_lt.1 fun hlt => hnot ⟨m, ih, hlt, ?_⟩)
          rw [taken_succ, List.length_append, length_taken ih]
          have hdiv : m ≤ (m * bound + (batch m).length) / bound :=
            (Nat.le_div_iff_mul_le hbound).2 (Nat.le_add_right _ _)
          exact Nat.succ_le_succ hdiv
  have hsub : taken batch (items.length + 1) ⊆ items := by
    intro k hk
    obtain ⟨m, -, hk⟩ := mem_taken.1 hk
    exact hitems m k hk
  have hlength := (List.subperm_of_subset (nodup_taken hnd honce (hruns _)) hsub).length_le
  rw [length_taken (hruns _)] at hlength
  have : (items.length + 1) * 1 ≤ (items.length + 1) * bound := Nat.mul_le_mul_left _ hbound
  omega

theorem runs_of_const (hconst : ∀ n, batch n = batch 0) (hfull : (batch 0).length = bound)
    (n : Nat) :
    Runs batch bound n := by
  intro m _
  rw [hconst m]
  exact hfull

end Sweep
