import Mathlib.Data.List.Sort

/-!
# Sorted lists without repetitions

A list that is sorted and then freed of its repetitions stands for its set of items: it is the one
increasing list with these items. So sorting leaves a list as it is exactly when the list is
increasing, and the same holds of the part of the list that a filter keeps.
-/

namespace SortedLists

section Repetitions

variable {α : Type*} [BEq α]

theorem eraseRepsBy_loop_eq (a : α) (items acc : List α) :
    List.eraseRepsBy.loop (· == ·) a items acc =
      acc.reverse ++ List.eraseRepsBy.loop (· == ·) a items [] := by
  induction items generalizing a acc with
  | nil => simp [List.eraseRepsBy.loop]
  | cons b items ih =>
      rw [List.eraseRepsBy.loop, List.eraseRepsBy.loop]
      cases a == b with
      | true => exact ih a acc
      | false =>
          change List.eraseRepsBy.loop (· == ·) b items (a :: acc) =
            acc.reverse ++ List.eraseRepsBy.loop (· == ·) b items [a]
          rw [ih b (a :: acc), ih b [a]]
          simp

variable [LawfulBEq α]

theorem eraseReps_cons_self (a : α) (items : List α) :
    (a :: a :: items).eraseReps = (a :: items).eraseReps := by
  change List.eraseRepsBy.loop (· == ·) a (a :: items) [] = _
  rw [List.eraseRepsBy.loop, beq_self_eq_true]
  rfl

theorem eraseReps_cons_of_ne {a b : α} (h : a ≠ b) (items : List α) :
    (a :: b :: items).eraseReps = a :: (b :: items).eraseReps := by
  change List.eraseRepsBy.loop (· == ·) a (b :: items) [] = _
  rw [List.eraseRepsBy.loop, beq_false_of_ne h]
  exact eraseRepsBy_loop_eq b items [a]

theorem mem_eraseReps {x : α} {items : List α} : x ∈ items.eraseReps ↔ x ∈ items := by
  induction items with
  | nil => rfl
  | cons a items ih =>
      cases items with
      | nil => rfl
      | cons b items =>
          by_cases hab : a = b
          · rw [hab, eraseReps_cons_self, ih]
            simp
          · rw [eraseReps_cons_of_ne hab, List.mem_cons, ih, List.mem_cons (b := a)]

end Repetitions

variable {α : Type*} {le : α → α → Prop}

variable (le) in
/-- Every item comes strictly before the later ones. -/
def Increasing (items : List α) : Prop := items.Pairwise fun a b => le a b ∧ a ≠ b

theorem Increasing.filter {items : List α} (h : Increasing le items) (p : α → Bool) :
    Increasing le (items.filter p) :=
  List.Pairwise.filter p h

theorem Increasing.eq_of_mem_iff [Std.Antisymm le] {items items' : List α}
    (h : Increasing le items) (h' : Increasing le items')
    (hmem : ∀ a, a ∈ items ↔ a ∈ items') : items = items' := by
  have hirrefl : Std.Irrefl fun a b => le a b ∧ a ≠ b := ⟨fun a ha => ha.2 rfl⟩
  have hantisymm : Std.Antisymm fun a b => le a b ∧ a ≠ b :=
    ⟨fun _ _ hab hba => antisymm hab.1 hba.1⟩
  exact List.Pairwise.eq_of_mem_iff h h' hmem

section Stable

variable [DecidableRel le] [IsTrans α le]

theorem filter_orderedInsert {p : α → Bool} {items : List α} (h : items.Pairwise le) (a : α) :
    (items.orderedInsert le a).filter p =
      if p a then (items.filter p).orderedInsert le a else items.filter p := by
  induction items with
  | nil => cases hp : p a <;> simp [hp]
  | cons b items ih =>
      have hrest := ih (List.pairwise_cons.1 h).2
      rw [List.orderedInsert_cons]
      by_cases hab : le a b
      · -- `a` comes before `b`, so before everything that a filter keeps
        have hbefore : ∀ c ∈ (b :: items).filter p, le a c := by
          intro c hc
          rcases List.mem_cons.1 (List.mem_filter.1 hc).1 with rfl | hlater
          · exact hab
          · exact IsTrans.trans a b c hab ((List.pairwise_cons.1 h).1 c hlater)
        rw [if_pos hab, List.filter_cons]
        cases hp : p a with
        | false => simp
        | true =>
            rw [if_pos rfl, if_pos rfl]
            cases hkept : (b :: items).filter p with
            | nil => rfl
            | cons c kept =>
                rw [hkept] at hbefore
                exact (List.orderedInsert_cons_of_le le kept (hbefore c List.mem_cons_self)).symm
      · rw [if_neg hab]
        cases hb : p b with
        | false =>
            rw [List.filter_cons_of_neg (by simp [hb]), List.filter_cons_of_neg (by simp [hb]),
              hrest]
        | true =>
            rw [List.filter_cons_of_pos hb, List.filter_cons_of_pos hb, hrest]
            cases hp : p a with
            | false => simp
            | true => simp [List.orderedInsert_cons, hab]

theorem filter_insertionSort [Std.Total le] (p : α → Bool) (items : List α) :
    (items.insertionSort le).filter p = (items.filter p).insertionSort le := by
  induction items with
  | nil => rfl
  | cons a items ih =>
      rw [List.insertionSort_cons,
        filter_orderedInsert (List.pairwise_insertionSort le items) a, ih]
      cases hp : p a with
      | false =>
          rewrite [List.filter_cons_of_neg (by simp [hp])]
          rfl
      | true =>
          rewrite [List.filter_cons_of_pos hp, List.insertionSort_cons]
          rfl

end Stable

variable [BEq α] [LawfulBEq α]

theorem increasing_eraseReps [Std.Antisymm le] {items : List α} (h : items.Pairwise le) :
    Increasing le items.eraseReps := by
  induction items with
  | nil => exact List.Pairwise.nil
  | cons a items ih =>
      cases items with
      | nil => exact List.pairwise_singleton _ a
      | cons b items =>
          have hrest := ih (List.pairwise_cons.1 h).2
          by_cases hab : a = b
          · rw [hab, eraseReps_cons_self]
            exact hrest
          · rw [eraseReps_cons_of_ne hab]
            apply List.pairwise_cons.2 ⟨fun x hx => ?_, hrest⟩
            rw [mem_eraseReps] at hx
            refine ⟨(List.pairwise_cons.1 h).1 x hx, fun hax => hab ?_⟩
            -- an equal item further on would lie between `a` and `b`
            have hle : le a b := (List.pairwise_cons.1 h).1 b List.mem_cons_self
            rcases List.mem_cons.1 hx with hxb | hlater
            · exact hax.trans hxb
            · have hge : le b x := (List.pairwise_cons.1 (List.pairwise_cons.1 h).2).1 x hlater
              rw [← hax] at hge
              exact antisymm hle hge

variable (le) [DecidableRel le]

/-- The items, each once and in increasing order. -/
def sortDedup (items : List α) : List α := (items.insertionSort le).eraseReps

variable {le}

theorem mem_sortDedup {x : α} {items : List α} : x ∈ sortDedup le items ↔ x ∈ items := by
  rw [sortDedup, mem_eraseReps, List.mem_insertionSort]

variable [Std.Total le] [IsTrans α le] [Std.Antisymm le]

theorem increasing_sortDedup (items : List α) : Increasing le (sortDedup le items) :=
  increasing_eraseReps (List.pairwise_insertionSort le items)

theorem sortDedup_congr {items items' : List α} (h : ∀ a, a ∈ items ↔ a ∈ items') :
    sortDedup le items = sortDedup le items' := by
  apply (increasing_sortDedup items).eq_of_mem_iff (increasing_sortDedup items')
  intro a
  rw [mem_sortDedup, mem_sortDedup, h]

theorem filter_sortDedup_eq_iff {items : List α} {p : α → Bool} :
    (sortDedup le items).filter p = items.filter p ↔ Increasing le (items.filter p) := by
  have hsorted : Increasing le ((sortDedup le items).filter p) :=
    (increasing_sortDedup items).filter p
  constructor
  · intro h
    rw [← h]
    exact hsorted
  · intro h
    apply hsorted.eq_of_mem_iff h
    intro a
    rw [List.mem_filter, List.mem_filter, mem_sortDedup]

end SortedLists
