import Mathlib.Algebra.BigOperators.Group.List.Basic
import Mathlib.Algebra.GroupWithZero.Nat
import Mathlib.Data.List.Induction
import Mathlib.Data.List.Perm.Subperm
import Mathlib.Data.List.Sort

/-!
# Tallies

Rows carry an amount. `sumWhere` adds the amounts of the rows that a condition
selects, and `groupSums` adds them group by group, as a query with `GROUP BY` or
a loop over buckets does. Grouping loses nothing: a sum over groups is the sum
over the rows of these groups.
-/

namespace Tally

variable {ρ γ : Type*}

/-- The amounts of the selected rows, added up. -/
def sumWhere (amount : ρ → Nat) (p : ρ → Bool) (rows : List ρ) : Nat :=
  ((rows.filter p).map amount).sum

/-- The bucket of one group grows by `n`, and starts there if it is new. -/
def add [DecidableEq γ] (g : γ) (n : Nat) : List (γ × Nat) → List (γ × Nat)
  | [] => [(g, n)]
  | (g', m) :: t => if g' = g then (g', m + n) :: t else (g', m) :: add g n t

/-- The amounts added up group by group, in the order in which the groups are met. -/
def groupSums [DecidableEq γ] (group : ρ → γ) (amount : ρ → Nat) (rows : List ρ) :
    List (γ × Nat) :=
  rows.foldl (fun t r => add (group r) (amount r) t) []

/-- The groups of the selected rows with their sums, in order, of which a limited number is
returned. -/
def querySums [DecidableEq γ] (p : ρ → Bool) (group : ρ → γ) (amount : ρ → Nat)
    (le : γ × Nat → γ × Nat → Bool) (limit : Nat) (rows : List ρ) : List (γ × Nat) :=
  ((groupSums group amount (rows.filter p)).mergeSort le).take limit

section Sum

variable (amount : ρ → Nat) (p : ρ → Bool)

@[simp] theorem sumWhere_nil : sumWhere amount p [] = 0 := rfl

theorem sumWhere_cons (r : ρ) (rows : List ρ) :
    sumWhere amount p (r :: rows) =
      (if p r = true then amount r else 0) + sumWhere amount p rows := by
  unfold sumWhere
  rw [List.filter_cons]
  split <;> simp

@[simp] theorem sumWhere_append (rows rows' : List ρ) :
    sumWhere amount p (rows ++ rows') = sumWhere amount p rows + sumWhere amount p rows' := by
  simp [sumWhere]

theorem sumWhere_map {σ : Type*} (f : σ → ρ) (rows : List σ) :
    sumWhere amount p (rows.map f) = sumWhere (amount ∘ f) (p ∘ f) rows := by
  simp [sumWhere, List.filter_map]

theorem sumWhere_filter (q : ρ → Bool) (rows : List ρ) :
    sumWhere amount p (rows.filter q) = sumWhere amount (fun r => p r && q r) rows := by
  simp [sumWhere, List.filter_filter]

theorem sumWhere_one (rows : List ρ) : sumWhere (fun _ => 1) p rows = rows.countP p := by
  simp [sumWhere, List.countP_eq_length_filter]

variable {amount p}

theorem sumWhere_perm {rows rows' : List ρ} (h : rows.Perm rows') :
    sumWhere amount p rows = sumWhere amount p rows' :=
  ((h.filter p).map amount).sum_eq

theorem sumWhere_congr {q : ρ → Bool} {rows : List ρ} (h : ∀ r ∈ rows, p r = q r) :
    sumWhere amount p rows = sumWhere amount q rows := by
  unfold sumWhere
  rw [List.filter_congr h]

end Sum

section Groups

variable [DecidableEq γ]

theorem sumWhere_add (p : γ → Bool) (g : γ) (n : Nat) (t : List (γ × Nat)) :
    sumWhere Prod.snd (p ∘ Prod.fst) (add g n t) =
      sumWhere Prod.snd (p ∘ Prod.fst) t + if p g = true then n else 0 := by
  induction t with
  | nil => simp [add, sumWhere_cons]
  | cons bucket t ih =>
      rcases bucket with ⟨g', m⟩
      rw [add]
      split
      · subst g'
        simp only [sumWhere_cons, Function.comp_apply]
        split <;> omega
      · rw [sumWhere_cons, ih, sumWhere_cons, Nat.add_assoc]

theorem sumWhere_groupSums (p : γ → Bool) (group : ρ → γ) (amount : ρ → Nat)
    (rows : List ρ) :
    sumWhere Prod.snd (p ∘ Prod.fst) (groupSums group amount rows) =
      sumWhere amount (p ∘ group) rows := by
  have hfold : ∀ t : List (γ × Nat),
      sumWhere Prod.snd (p ∘ Prod.fst)
          (rows.foldl (fun t r => add (group r) (amount r) t) t) =
        sumWhere Prod.snd (p ∘ Prod.fst) t + sumWhere amount (p ∘ group) rows := by
    induction rows with
    | nil => simp
    | cons r rows ih =>
        intro t
        rw [List.foldl_cons, ih, sumWhere_add, sumWhere_cons, Nat.add_assoc]
        rfl
  rw [groupSums, hfold, sumWhere_nil, Nat.zero_add]

theorem map_fst_add (g : γ) (n : Nat) (t : List (γ × Nat)) :
    (add g n t).map Prod.fst =
      if g ∈ t.map Prod.fst then t.map Prod.fst else t.map Prod.fst ++ [g] := by
  induction t with
  | nil => simp [add]
  | cons bucket t ih =>
      rcases bucket with ⟨g', m⟩
      rw [add]
      by_cases hg : g' = g
      · simp [hg]
      · rw [if_neg hg, List.map_cons, ih]
        by_cases hmem : g ∈ t.map Prod.fst
        · simp [hmem]
        · simp [hmem, Ne.symm hg]

/-- Each group has one sum, and some row. -/
theorem groups_groupSums (group : ρ → γ) (amount : ρ → Nat) (rows : List ρ) :
    ((groupSums group amount rows).map Prod.fst).Nodup ∧
      ∀ g ∈ (groupSums group amount rows).map Prod.fst, g ∈ rows.map group := by
  induction rows using List.reverseRecOn with
  | nil => exact ⟨List.nodup_nil, by simp [groupSums]⟩
  | append_singleton rows r ih =>
      rcases ih with ⟨hnodup, hsub⟩
      rw [groupSums, List.foldl_append, List.foldl_cons, List.foldl_nil, ← groupSums,
        map_fst_add, List.map_append, List.map_singleton]
      split
      · exact ⟨hnodup, fun g hg => List.mem_append_left _ (hsub g hg)⟩
      · rename_i hnew
        constructor
        · rw [List.nodup_append]
          refine ⟨hnodup, List.nodup_singleton _, ?_⟩
          rintro g hg g' hg' rfl
          rw [List.mem_singleton] at hg'
          exact hnew (hg' ▸ hg)
        · intro g hg
          rw [List.mem_append] at hg ⊢
          exact hg.imp_left (hsub g)

theorem pos_of_mem_add {g : γ} {n : Nat} (hn : 0 < n) {t : List (γ × Nat)}
    (ht : ∀ b ∈ t, 0 < b.2) : ∀ b ∈ add g n t, 0 < b.2 := by
  induction t with
  | nil => simpa [add] using hn
  | cons bucket t ih =>
      rw [List.forall_mem_cons] at ht
      rw [add]
      split
      · exact List.forall_mem_cons.2 ⟨Nat.lt_of_lt_of_le ht.1 (Nat.le_add_right _ n), ht.2⟩
      · exact List.forall_mem_cons.2 ⟨ht.1, ih ht.2⟩

theorem pos_of_mem_groupSums {group : ρ → γ} {amount : ρ → Nat} {rows : List ρ}
    (h : ∀ r ∈ rows, 0 < amount r) : ∀ b ∈ groupSums group amount rows, 0 < b.2 := by
  have hfold : ∀ t : List (γ × Nat), (∀ b ∈ t, 0 < b.2) →
      ∀ b ∈ rows.foldl (fun t r => add (group r) (amount r) t) t, 0 < b.2 := by
    induction rows with
    | nil =>
        intro t ht
        exact ht
    | cons r rows ih =>
        intro t ht
        rw [List.forall_mem_cons] at h
        exact ih h.2 _ (pos_of_mem_add h.1 ht)
  exact hfold [] (by simp)

/-- A query that may return all groups of the selected rows returns their sums. -/
theorem sumWhere_querySums {p : ρ → Bool} {group : ρ → γ} {amount : ρ → Nat}
    {le : γ × Nat → γ × Nat → Bool} {limit : Nat} {rows : List ρ} {groups : List γ}
    (hgroups : ∀ r ∈ rows, p r = true → group r ∈ groups) (hlimit : groups.length ≤ limit)
    (q : γ → Bool) :
    sumWhere Prod.snd (q ∘ Prod.fst) (querySums p group amount le limit rows) =
      sumWhere amount (fun r => q (group r) && p r) rows := by
  rcases groups_groupSums group amount (rows.filter p) with ⟨hnodup, hsub⟩
  have hperm := List.mergeSort_perm (groupSums group amount (rows.filter p)) le
  have hin : (groupSums group amount (rows.filter p)).map Prod.fst ⊆ groups := by
    intro g hg
    rcases List.mem_map.1 (hsub g hg) with ⟨r, hr, rfl⟩
    exact hgroups r (List.mem_filter.1 hr).1 (List.mem_filter.1 hr).2
  have hlength := (List.subperm_of_subset hnodup hin).length_le
  rw [List.length_map] at hlength
  have htake : querySums p group amount le limit rows =
      (groupSums group amount (rows.filter p)).mergeSort le := by
    apply List.take_of_length_le
    rw [hperm.length_eq]
    exact hlength.trans hlimit
  rw [htake, sumWhere_perm hperm, sumWhere_groupSums, sumWhere_filter]
  rfl

theorem sum_querySums {p : ρ → Bool} {group : ρ → γ} {amount : ρ → Nat}
    {le : γ × Nat → γ × Nat → Bool} {limit : Nat} (hlimit : 0 < limit) {rows : List ρ} {g : γ}
    (h : ∀ r ∈ rows, p r = true → group r = g) :
    ((querySums p group amount le limit rows).map Prod.snd).sum = sumWhere amount p rows := by
  have hsum : sumWhere Prod.snd ((fun _ => true) ∘ Prod.fst)
      (querySums p group amount le limit rows) = _ :=
    sumWhere_querySums (fun r hr hp => List.mem_singleton.2 (h r hr hp)) hlimit fun _ => true
  simpa [sumWhere, Function.comp_def] using hsum

end Groups

end Tally
