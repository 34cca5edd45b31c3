import Mathlib.Data.List.Sort
import Mathlib.Order.Basic

/-!
# Reading a list page by page

A page holds the first items of a list in the order of their keys. A reader moves its position
over the keys of a page, one after the other, and asks for the next page behind its position.
`Covers` says that the keys which it has been shown are behind the position only if they are
done with.
-/

namespace Paging

variable {ι κ : Type*} [LinearOrder κ]

def page (key : ι → κ) (limit : ℕ) (items : List ι) : List ι :=
  (items.insertionSort fun i j => key i ≤ key j).take limit

variable {key : ι → κ} {limit : ℕ} {items : List ι}

theorem page_subset : page key limit items ⊆ items := fun _ hi =>
  (List.mem_insertionSort _).1 (List.mem_of_mem_take hi)

theorem pairwise_insertionSort_key :
    (items.insertionSort fun i j => key i ≤ key j).Pairwise fun i j => key i ≤ key j :=
  haveI : Std.Total fun i j => key i ≤ key j := ⟨fun i j => le_total (key i) (key j)⟩
  haveI : IsTrans ι fun i j => key i ≤ key j := ⟨fun _ _ _ => le_trans⟩
  List.pairwise_insertionSort _ items

theorem pairwise_page : (page key limit items).Pairwise fun i j => key i ≤ key j :=
  pairwise_insertionSort_key.sublist (List.take_sublist _ _)

theorem eq_nil_of_page_eq_nil (hlimit : 0 < limit) (h : page key limit items = []) :
    items = [] := by
  rw [page, List.take_eq_nil_iff] at h
  rcases h with h | h
  · omega
  · have hperm := List.perm_insertionSort (fun i j => key i ≤ key j) items
    rw [h] at hperm
    exact hperm.nil_eq.symm

theorem mem_page_or (key : ι → κ) (limit : ℕ) {i : ι} (hi : i ∈ items) :
    i ∈ page key limit items ∨
      limit ≤ (page key limit items).length ∧ ∀ j ∈ page key limit items, key j ≤ key i := by
  let sorted := items.insertionSort fun i j => key i ≤ key j
  have hsplit : i ∈ sorted.take limit ++ sorted.drop limit := by
    rw [List.take_append_drop]
    exact (List.mem_insertionSort _).2 hi
  have hordered : (sorted.take limit ++ sorted.drop limit).Pairwise fun i j => key i ≤ key j := by
    rw [List.take_append_drop]
    exact pairwise_insertionSort_key
  rcases List.mem_append.1 hsplit with htake | hdrop
  · exact .inl htake
  · right
    constructor
    · have hlength := List.length_pos_of_mem hdrop
      rw [List.length_drop] at hlength
      rw [page, List.length_take]
      change limit ≤ min limit sorted.length
      omega
    · exact fun j hj => (List.pairwise_append.1 hordered).2.2 j hj i hdrop

/-- The first items are in the order of their keys and come before all others, of which there are
some only where the limit is reached. -/
def Leads (key : ι → κ) (limit : ℕ) (first items : List ι) : Prop :=
  (first.Pairwise fun i j => key i < key j) ∧
    ∀ i ∈ items, i ∈ first ∨ first.length = limit ∧ ∀ j ∈ first, key j < key i

theorem page_leads (hnd : (items.map key).Nodup) :
    Leads key limit (page key limit items) items := by
  have hne : (items.insertionSort fun i j => key i ≤ key j).Pairwise (key · ≠ key ·) :=
    List.pairwise_map.1 ((List.perm_insertionSort _ items).map key |>.nodup_iff.2 hnd)
  have hlt := pairwise_insertionSort_key.and hne |>.imp fun h => lt_of_le_of_ne h.1 h.2
  constructor
  · exact hlt.sublist (List.take_sublist _ _)
  · intro i hi
    have hsplit := (List.mem_insertionSort (fun i j => key i ≤ key j)).2 hi
    rw [← List.take_append_drop limit (items.insertionSort _)] at hsplit hlt
    rcases List.mem_append.1 hsplit with htake | hdrop
    · exact .inl htake
    · right
      constructor
      · have hlength := List.length_pos_of_mem hdrop
        rw [List.length_drop] at hlength
        rw [page, List.length_take]
        omega
      · exact fun j hj => (List.pairwise_append.1 hlt).2.2 j hj i hdrop

/-- The keys shown so far are done with, or ahead of the position: still to be read on the
page, or after all of the page where it is not the whole rest. -/
structure Covers (position : κ) (pending seen done : List κ) (whole : Bool) : Prop where
  sorted : pending.Pairwise (· ≤ ·)
  next : ∀ p ∈ pending, position ≤ p
  ahead : ∀ k ∈ seen, k ∈ done ∨ position < k
  pending : ∀ k ∈ seen, k ∉ done → k ∈ pending ∨ whole = false ∧ ∀ p ∈ pending, p ≤ k

variable {position : κ} {pending seen done : List κ} {whole : Bool}

theorem covers_nil : Covers position [] [] done whole where
  sorted := List.Pairwise.nil
  next _ hp := absurd hp List.not_mem_nil
  ahead _ hk := absurd hk List.not_mem_nil
  pending _ hk := absurd hk List.not_mem_nil

theorem Covers.mem_done (h : Covers position [] seen done true) {k : κ} (hk : k ∈ seen) :
    k ∈ done := by
  by_contra hnot
  rcases h.pending k hk hnot with hmem | ⟨hwhole, -⟩
  · exact absurd hmem List.not_mem_nil
  · cases hwhole

/-- The next page of a list that still shows what is ahead of the position. -/
theorem Covers.fetch (key : ι → κ) (limit : ℕ) (items : List ι)
    (h : Covers position [] seen done whole)
    (hvisible : ∀ k ∈ seen, position < k → k ∈ items.map key)
    (hahead : ∀ i ∈ items, position < key i) :
    Covers position ((page key limit items).map key) (seen ++ items.map key) done
      ((page key limit items).length < limit) where
  sorted := by
    rw [List.pairwise_map]
    exact pairwise_page
  next p hp := by
    rcases List.mem_map.1 hp with ⟨i, hi, rfl⟩
    exact (hahead i (page_subset hi)).le
  ahead k hk := by
    rcases List.mem_append.1 hk with hk | hk
    · exact h.ahead k hk
    · rcases List.mem_map.1 hk with ⟨i, hi, rfl⟩
      exact .inr (hahead i hi)
  pending k hk hnot := by
    have hmem : k ∈ items.map key := by
      rcases List.mem_append.1 hk with hk | hk
      · exact hvisible k hk ((h.ahead k hk).resolve_left hnot)
      · exact hk
    rcases List.mem_map.1 hmem with ⟨i, hi, rfl⟩
    rcases mem_page_or key limit hi with hpage | ⟨hfull, hle⟩
    · exact .inl (List.mem_map_of_mem hpage)
    · right
      constructor
      · exact decide_eq_false (not_lt.2 hfull)
      · intro p hp
        rcases List.mem_map.1 hp with ⟨j, hj, rfl⟩
        exact hle j hj

/-- The first item of the page is read. -/
theorem Covers.read {k : κ} (h : Covers position (k :: pending) seen done whole)
    {done' : List κ} (hdone' : ∀ k', k' ∈ done' ↔ k' ∈ done ∨ k' = k) :
    Covers k pending seen done' whole where
  sorted := (List.pairwise_cons.1 h.sorted).2
  next := (List.pairwise_cons.1 h.sorted).1
  ahead k' hk' := by
    by_cases hdone : k' ∈ done'
    · exact .inl hdone
    · right
      rw [hdone', not_or] at hdone
      have hle : k ≤ k' := by
        rcases h.pending k' hk' hdone.1 with hmem | ⟨-, hle⟩
        · rcases List.mem_cons.1 hmem with heq | hmem
          · exact absurd heq hdone.2
          · exact (List.pairwise_cons.1 h.sorted).1 k' hmem
        · exact hle k List.mem_cons_self
      exact lt_of_le_of_ne hle (Ne.symm hdone.2)
  pending k' hk' hnot := by
    rw [hdone', not_or] at hnot
    rcases h.pending k' hk' hnot.1 with hmem | ⟨hwhole, hle⟩
    · rcases List.mem_cons.1 hmem with heq | hmem
      · exact absurd heq hnot.2
      · exact .inl hmem
    · exact .inr ⟨hwhole, fun p hp => hle p (List.mem_cons_of_mem k hp)⟩

end Paging
