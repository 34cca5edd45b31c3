import Mathlib.Data.List.Nodup
import Mathlib.Data.List.Perm.Subperm
import Mathlib.Data.Nat.ModEq

/-!
# Weighted turns

Every element of a list holds as many tickets as its weight. A counter that goes up by one at each
turn, taken modulo the number of the tickets, calls every ticket once before it calls one again,
wherever it starts.
-/

namespace Turns

variable {α : Type*}

/-- The elements of a list, each as often as its weight. -/
def tickets (weight : α → Nat) (l : List α) : List α :=
  l.flatMap fun a => List.replicate (weight a) a

theorem tickets_cons (weight : α → Nat) (a : α) (l : List α) :
    tickets weight (a :: l) = List.replicate (weight a) a ++ tickets weight l :=
  List.flatMap_cons

theorem length_tickets (weight : α → Nat) (l : List α) :
    (tickets weight l).length = (l.map weight).sum := by
  induction l with
  | nil => rfl
  | cons a l ih =>
      rw [tickets_cons, List.length_append, List.length_replicate, ih, List.map_cons,
        List.sum_cons]

theorem count_tickets [DecidableEq α] (weight : α → Nat) (l : List α) (a : α) :
    (tickets weight l).count a = ((l.filter (· = a)).map weight).sum := by
  induction l with
  | nil => rfl
  | cons b l ih =>
      rw [tickets_cons, List.count_append, List.count_replicate, ih, List.filter_cons]
      by_cases hb : b = a
      · simp [hb]
      · simp [hb]

theorem perm_range_turns (start n : Nat) :
    ((List.range n).map fun i => (start + i) % n).Perm (List.range n) := by
  have hnodup : ((List.range n).map fun i => (start + i) % n).Nodup := by
    apply List.Nodup.map_on _ List.nodup_range
    intro i hi j hj heq
    have hi := List.mem_range.1 hi
    have hj := List.mem_range.1 hj
    have hmod : i % n = j % n := (Nat.ModEq.refl start).add_left_cancel heq
    rwa [Nat.mod_eq_of_lt hi, Nat.mod_eq_of_lt hj] at hmod
  have hsub : ((List.range n).map fun i => (start + i) % n) ⊆ List.range n := by
    intro k hk
    rcases List.mem_map.1 hk with ⟨i, hi, rfl⟩
    have hi := List.mem_range.1 hi
    exact List.mem_range.2 (Nat.mod_lt _ (by omega))
  apply (List.subperm_of_subset hnodup hsub).perm_of_length_le
  exact (List.length_map _).ge

theorem map_getElem?_range (l : List α) :
    (List.range l.length).map (fun i => l[i]?) = l.map some := by
  apply List.ext_getElem
  · rw [List.length_map, List.length_map, List.length_range]
  · intro i hi hi'
    rw [List.getElem_map, List.getElem_map, List.getElem_range]
    exact List.getElem?_eq_getElem _

theorem perm_turns (start : Nat) (l : List α) :
    ((List.range l.length).map fun i => l[(start + i) % l.length]?).Perm (l.map some) := by
  rw [← map_getElem?_range]
  have hturns := (perm_range_turns start l.length).map fun i => l[i]?
  rwa [List.map_map] at hturns

end Turns
