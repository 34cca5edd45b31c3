import Mathlib.Data.List.Perm.Subperm
import Mathlib.Data.List.Sort

/-!
# The first items in an order

A selection of `k` items is the best possible when none of those that are left out comes before one
that is taken. Whatever order the items are looked at in, the selection is determined by this as
soon as the order tells different items apart.
-/

namespace Selections

variable {α : Type*} {le le' : α → α → Prop} {k k' : ℕ} {items items' batch batch' ordered : List α}

variable (le) in
/-- The batch has `k` of the items, or all of them where there are fewer, and each of them comes
before all that are left out. -/
def IsFirst (k : ℕ) (items batch : List α) : Prop :=
  ∃ rest, (batch ++ rest).Perm items ∧ batch.length = min k items.length ∧
    ∀ a ∈ batch, ∀ b ∈ rest, le a b

theorem IsFirst.length (h : IsFirst le k items batch) : batch.length = min k items.length := by
  obtain ⟨_, -, hlength, -⟩ := h
  exact hlength

theorem IsFirst.mono (h : IsFirst le k items batch) (hle : ∀ a b, le a b → le' a b) :
    IsFirst le' k items batch := by
  obtain ⟨rest, hperm, hlength, hbefore⟩ := h
  exact ⟨rest, hperm, hlength, fun a ha b hb => hle a b (hbefore a ha b hb)⟩

theorem IsFirst.of_perm (h : IsFirst le k items batch) (hperm : batch'.Perm batch) :
    IsFirst le k items batch' := by
  obtain ⟨rest, hrest, hlength, hbefore⟩ := h
  exact ⟨rest, (hperm.append_right rest).trans hrest, hperm.length_eq.trans hlength,
    fun a ha => hbefore a (hperm.subset ha)⟩

theorem IsFirst.congr_items (h : IsFirst le k items batch) (hperm : items.Perm items') :
    IsFirst le k items' batch := by
  obtain ⟨rest, hrest, hlength, hbefore⟩ := h
  exact ⟨rest, hrest.trans hperm, hperm.length_eq ▸ hlength, hbefore⟩

theorem IsFirst.congr_limit (h : IsFirst le k items batch)
    (hk : min k' items.length = min k items.length) : IsFirst le k' items batch := by
  obtain ⟨rest, hperm, hlength, hbefore⟩ := h
  exact ⟨rest, hperm, hlength.trans hk.symm, hbefore⟩

theorem length_take_eq (hperm : ordered.Perm items) :
    (ordered.take k).length = min k items.length := by
  rw [List.length_take, hperm.length_eq]

/-- The items that come first when they are looked at in some order are the first ones exactly when
none of them has to give way to a later one. -/
theorem isFirst_take_iff (hperm : ordered.Perm items) :
    IsFirst le k items (ordered.take k) ↔ ∀ a ∈ ordered.take k, ∀ b ∈ ordered.drop k, le a b := by
  constructor
  · rintro ⟨rest, hrest, -, hbefore⟩ a ha b hb
    have hdropped : (ordered.take k ++ ordered.drop k).Perm (ordered.take k ++ rest) := by
      rw [List.take_append_drop]
      exact hperm.trans hrest.symm
    exact hbefore a ha b (((List.perm_append_left_iff _).1 hdropped).subset hb)
  · intro hbefore
    refine ⟨ordered.drop k, ?_, length_take_eq hperm, hbefore⟩
    rw [List.take_append_drop]
    exact hperm

theorem isFirst_take_of_pairwise (hsorted : ordered.Pairwise le) (hperm : ordered.Perm items) :
    IsFirst le k items (ordered.take k) := by
  apply (isFirst_take_iff hperm).2
  rw [← List.take_append_drop k ordered, List.pairwise_append] at hsorted
  exact hsorted.2.2

variable (le) in
/-- The order tells the items apart. -/
def Separates (items : List α) : Prop := ∀ a ∈ items, ∀ b ∈ items, le a b → le b a → a = b

theorem IsFirst.subset (hnd : items.Nodup) (hsep : Separates le items)
    (h : IsFirst le k items batch) (h' : IsFirst le k items batch') : batch ⊆ batch' := by
  obtain ⟨rest, hperm, hlength, hbefore⟩ := h
  obtain ⟨rest', hperm', hlength', hbefore'⟩ := h'
  intro a ha
  by_contra hout
  have hdisjoint : ∀ b ∈ batch, b ∉ rest :=
    fun b hb hb' => (List.nodup_append.1 (hperm.nodup_iff.2 hnd)).2.2 b hb b hb' rfl
  have hnodup : batch.Nodup := (List.nodup_append.1 (hperm.nodup_iff.2 hnd)).1
  have ha' : a ∈ rest' := by
    have hitem : a ∈ batch' ++ rest' :=
      hperm'.symm.subset (hperm.subset (List.mem_append_left _ ha))
    exact (List.mem_append.1 hitem).resolve_left hout
  -- as many are taken on the other side, so that one of them is left out on this side
  have hother : ∃ c ∈ batch', c ∉ batch := by
    by_contra hnone
    simp only [not_exists, not_and, not_not] at hnone
    have hnodup' : batch'.Nodup := (List.nodup_append.1 (hperm'.nodup_iff.2 hnd)).1
    have hsame : batch'.Perm batch :=
      (hnodup'.subperm hnone).perm_of_length_le (by rw [hlength, hlength'])
    exact hout (hsame.symm.subset ha)
  obtain ⟨c, hc, hc'⟩ := hother
  have hcrest : c ∈ rest := by
    have hitem : c ∈ batch ++ rest := hperm.symm.subset (hperm'.subset (List.mem_append_left _ hc))
    exact (List.mem_append.1 hitem).resolve_left hc'
  have heq : a = c := hsep a (hperm.subset (List.mem_append_left _ ha)) c
    (hperm'.subset (List.mem_append_left _ hc)) (hbefore a ha c hcrest) (hbefore' c hc a ha')
  exact hc' (heq ▸ ha)

theorem IsFirst.perm (hnd : items.Nodup) (hsep : Separates le items)
    (h : IsFirst le k items batch) (h' : IsFirst le k items batch') : batch.Perm batch' := by
  have hnodup : batch.Nodup := by
    obtain ⟨rest, hperm, -, -⟩ := h
    exact (List.nodup_append.1 (hperm.nodup_iff.2 hnd)).1
  exact (hnodup.subperm (h.subset hnd hsep h')).perm_of_length_le (by rw [h.length, h'.length])

/-- Two selections, one of which takes the first items, are of the same items exactly when they
are equally large and the other one takes the first items too. -/
theorem perm_take_iff (hnd : items.Nodup) (hsep : Separates le items)
    (h : IsFirst le k items batch) (hperm : ordered.Perm items) :
    (ordered.take k').Perm batch ↔ min k' items.length = min k items.length ∧
      ∀ a ∈ ordered.take k', ∀ b ∈ ordered.drop k', le a b := by
  constructor
  · intro hsame
    have hk : min k' items.length = min k items.length := by
      rw [← length_take_eq hperm, hsame.length_eq, h.length]
    exact ⟨hk, (isFirst_take_iff hperm).1 ((h.of_perm hsame).congr_limit hk)⟩
  · rintro ⟨hk, hbefore⟩
    exact (((isFirst_take_iff hperm).2 hbefore).congr_limit hk.symm).perm hnd hsep h

end Selections
