import CodexPool.Lib.Tally
import Mathlib.Algebra.GroupWithZero.Nat

/-!
# Rows that count keys

A table of counts has one row for each key that occurs, in the order of the keys. Such a table is
determined by the counts of the keys, so that neither the order in which the keys are met nor the
batches in which they arrive can be seen from it.
-/

namespace CountedRows

/-- A kind of rows, each of which is a key with its count, and an order of the keys. -/
structure Layout (ρ κ : Type*) where
  row : κ × Nat → ρ
  key : ρ → κ
  count : ρ → Nat
  key_row : ∀ b, key (row b) = b.1
  count_row : ∀ b, count (row b) = b.2
  row_eq : ∀ r, row (key r, count r) = r
  le : κ → κ → Bool
  le_total : ∀ a b, (le a b || le b a) = true
  le_trans : ∀ a b c, le a b = true → le b c = true → le a c = true
  le_antisymm : ∀ a b, le a b = true → le b a = true → a = b

namespace Layout

variable {ρ κ : Type*} (L : Layout ρ κ)

/-- The keys increase from row to row, so that no key occurs twice. -/
def Sorted (rows : List ρ) : Prop :=
  (rows.map L.key).Pairwise fun a b => L.le a b = true ∧ a ≠ b

/-- The rows of a table of buckets. -/
def sorted (buckets : List (κ × Nat)) : List ρ :=
  (buckets.map L.row).mergeSort fun x y => L.le (L.key x) (L.key y)

theorem sorted_sorted {buckets : List (κ × Nat)}
    (h : (buckets.map Prod.fst).Nodup) : L.Sorted (L.sorted buckets) := by
  have hperm := List.mergeSort_perm (buckets.map L.row) fun x y => L.le (L.key x) (L.key y)
  have hkeys : ((L.sorted buckets).map L.key).Perm (buckets.map Prod.fst) := by
    apply (hperm.map L.key).trans
    simp [Function.comp_def, L.key_row]
  have hle : ((L.sorted buckets).map L.key).Pairwise fun a b => L.le a b = true := by
    apply List.pairwise_map.2
    exact List.pairwise_mergeSort
      (fun x y z => L.le_trans (L.key x) (L.key y) (L.key z))
      (fun x y => L.le_total (L.key x) (L.key y)) _
  exact hle.and (hkeys.nodup_iff.2 h)

theorem count_pos_of_mem_sorted {buckets : List (κ × Nat)} (h : ∀ b ∈ buckets, 0 < b.2) :
    ∀ r ∈ L.sorted buckets, 0 < L.count r := by
  intro r hr
  rcases List.mem_map.1 (List.mem_mergeSort.1 hr) with ⟨b, hb, rfl⟩
  rw [L.count_row]
  exact h b hb

variable [DecidableEq κ]

/-- The rows that count a list of keys. -/
def ofKeys (keys : List κ) : List ρ := L.sorted (Tally.groupSums id (fun _ => 1) keys)

/-- The rows of one table for each key of the given rows, with the sum of its counts. -/
def merged (rows : List ρ) : List ρ := L.sorted (Tally.groupSums L.key L.count rows)

def total (k : κ) (rows : List ρ) : Nat := Tally.sumWhere L.count (fun r => L.key r = k) rows

section Total

variable {L} (k : κ)

theorem total_cons (r : ρ) (rows : List ρ) :
    L.total k (r :: rows) = (if L.key r = k then L.count r else 0) + L.total k rows := by
  simp [total, Tally.sumWhere_cons]

theorem total_append (rows rows' : List ρ) :
    L.total k (rows ++ rows') = L.total k rows + L.total k rows' :=
  Tally.sumWhere_append _ _ rows rows'

theorem total_sorted (buckets : List (κ × Nat)) :
    L.total k (L.sorted buckets) =
      Tally.sumWhere Prod.snd ((fun a => decide (a = k)) ∘ Prod.fst) buckets := by
  rw [total, sorted, Tally.sumWhere_perm (List.mergeSort_perm _ _), Tally.sumWhere_map]
  simp only [Function.comp_def, L.key_row, L.count_row]

theorem total_merged (rows : List ρ) : L.total k (L.merged rows) = L.total k rows := by
  rw [merged, total_sorted, Tally.sumWhere_groupSums]
  rfl

theorem total_ofKeys (keys : List κ) : L.total k (L.ofKeys keys) = keys.count k := by
  rw [ofKeys, total_sorted, Tally.sumWhere_groupSums, Tally.sumWhere_one, List.count]
  apply List.countP_congr
  simp

theorem total_eq_zero {rows : List ρ} (h : ∀ r ∈ rows, L.key r ≠ k) : L.total k rows = 0 := by
  induction rows with
  | nil => rfl
  | cons r rows ih =>
      rw [List.forall_mem_cons] at h
      rw [total_cons, if_neg h.1, ih h.2]

end Total

/-! ## A table is determined by its counts -/

section Determined

variable {L} {rows rows' : List ρ}

theorem Sorted.total_of_mem (h : L.Sorted rows) {r : ρ} (hr : r ∈ rows) :
    L.total (L.key r) rows = L.count r := by
  induction rows with
  | nil => cases hr
  | cons r' rows ih =>
      rw [Sorted, List.map_cons, List.pairwise_cons] at h
      rw [total_cons]
      rcases List.mem_cons.1 hr with rfl | hr
      · have hrest : L.total (L.key r) rows = 0 := by
          apply total_eq_zero
          intro r' hr'
          exact (h.1 _ (List.mem_map_of_mem hr')).2.symm
        rw [if_pos rfl, hrest, Nat.add_zero]
      · rw [if_neg (h.1 _ (List.mem_map_of_mem hr)).2, ih h.2 hr, Nat.zero_add]

theorem Sorted.mem_iff (h : L.Sorted rows) (hpos : ∀ r ∈ rows, 0 < L.count r) (r : ρ) :
    r ∈ rows ↔ 0 < L.count r ∧ L.total (L.key r) rows = L.count r := by
  constructor
  · exact fun hr => ⟨hpos r hr, h.total_of_mem hr⟩
  · rintro ⟨hr, htotal⟩
    by_contra hnot
    have hother : ∀ r' ∈ rows, L.key r' ≠ L.key r := by
      intro r' hr' hkey
      have hcount := h.total_of_mem hr'
      rw [hkey, htotal] at hcount
      -- two rows with the same key and count are one row
      have heq : r' = r := by rw [← L.row_eq r', hkey, ← hcount, L.row_eq]
      exact hnot (heq ▸ hr')
    rw [total_eq_zero _ hother] at htotal
    omega

theorem Sorted.eq_of_total (h : L.Sorted rows) (h' : L.Sorted rows')
    (hpos : ∀ r ∈ rows, 0 < L.count r) (hpos' : ∀ r ∈ rows', 0 < L.count r)
    (htotal : ∀ k, L.total k rows = L.total k rows') : rows = rows' := by
  have hmem : ∀ r, r ∈ rows ↔ r ∈ rows' := by
    intro r
    rw [h.mem_iff hpos, h'.mem_iff hpos', htotal]
  have hnodup : rows.Nodup := (List.pairwise_map.1 h).imp fun hxy heq =>
    hxy.2 (congrArg L.key heq)
  have hnodup' : rows'.Nodup := (List.pairwise_map.1 h').imp fun hxy heq =>
    hxy.2 (congrArg L.key heq)
  have hperm : rows.Perm rows' := (List.perm_ext_iff_of_nodup hnodup hnodup').2 hmem
  apply hperm.eq_of_pairwise _ (List.pairwise_map.1 h) (List.pairwise_map.1 h')
  intro x y _ _ hxy hyx
  exact absurd (L.le_antisymm _ _ hxy.1 hyx.1) hxy.2

end Determined

/-! ## Tables of buckets -/

section Keys

theorem sorted_ofKeys (keys : List κ) : L.Sorted (L.ofKeys keys) :=
  L.sorted_sorted (Tally.groups_groupSums _ _ keys).1

theorem count_pos_of_mem_ofKeys {keys : List κ} : ∀ r ∈ L.ofKeys keys, 0 < L.count r :=
  L.count_pos_of_mem_sorted (Tally.pos_of_mem_groupSums fun _ _ => Nat.one_pos)

theorem sum_ofKeys (keys : List κ) : ((L.ofKeys keys).map L.count).sum = keys.length := by
  have hperm := List.mergeSort_perm ((Tally.groupSums id (fun _ => 1) keys).map L.row)
    fun x y => L.le (L.key x) (L.key y)
  have hcounts : (Tally.groupSums id (fun _ => 1) keys).map (L.count ∘ L.row) =
      (Tally.groupSums id (fun _ => 1) keys).map Prod.snd := by
    apply List.map_congr_left
    intro b _
    exact L.count_row b
  have hsum := Tally.sumWhere_groupSums (fun _ => true) id (fun _ => 1) keys
  rw [ofKeys, sorted, (hperm.map L.count).sum_eq, List.map_map, hcounts]
  simpa [Tally.sumWhere, Function.comp_def] using hsum

theorem ofKeys_eq_of_perm {keys keys' : List κ} (h : keys.Perm keys') :
    L.ofKeys keys = L.ofKeys keys' := by
  apply (L.sorted_ofKeys keys).eq_of_total (L.sorted_ofKeys keys') L.count_pos_of_mem_ofKeys
    L.count_pos_of_mem_ofKeys
  intro k
  rw [total_ofKeys, total_ofKeys, h.count_eq]

theorem merged_ofKeys (keys keys' : List κ) :
    L.merged (L.ofKeys keys ++ L.ofKeys keys') = L.ofKeys (keys ++ keys') := by
  have hsorted : L.Sorted (L.merged (L.ofKeys keys ++ L.ofKeys keys')) :=
    L.sorted_sorted (Tally.groups_groupSums _ _ _).1
  have hpos : ∀ r ∈ L.merged (L.ofKeys keys ++ L.ofKeys keys'), 0 < L.count r := by
    apply L.count_pos_of_mem_sorted
    apply Tally.pos_of_mem_groupSums
    intro r hr
    exact (List.mem_append.1 hr).elim (L.count_pos_of_mem_ofKeys r) (L.count_pos_of_mem_ofKeys r)
  apply hsorted.eq_of_total (L.sorted_ofKeys _) hpos L.count_pos_of_mem_ofKeys
  intro k
  rw [total_merged, total_append, total_ofKeys, total_ofKeys, total_ofKeys, List.count_append]

end Keys

end Layout

end CountedRows
