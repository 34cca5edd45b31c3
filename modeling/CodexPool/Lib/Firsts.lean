import Mathlib.Data.List.Dedup
import Mathlib.Data.List.Count
import Mathlib.Data.List.Induction
import Mathlib.Data.List.Perm.Subperm

/-!
# First items

Of a list of items with keys, `firsts` keeps the first item with each key. Some items are
closed, and every item stands at a place. Four ways of counting are compared: the first
items at a place, the closed ones among them, all closed items at the place, and the
different keys of the closed items at the place. They agree everywhere if and only if the
closed items are exactly the first ones.
-/

namespace Firsts

variable {α κ π : Type*} [DecidableEq κ] [DecidableEq π] (key : α → κ)

/-- The items whose key has not been seen and does not occur earlier in the list. -/
def firstsAfter : List κ → List α → List α
  | _, [] => []
  | seen, a :: items =>
    if key a ∈ seen then firstsAfter seen items else a :: firstsAfter (key a :: seen) items

def firsts (items : List α) : List α := firstsAfter key [] items

variable (closed : α → Bool) (place : α → π)

/-- The closed items are exactly those whose key does not occur earlier. -/
def ClosedFirst (items : List α) : Prop :=
  ∀ pre a post, items = pre ++ a :: post → (closed a = true ↔ ∀ b ∈ pre, key b ≠ key a)

/-- The keys of the closed items at a place, each counted once. -/
def distinctClosed (p : π) (items : List α) : Nat :=
  ((items.filter fun a => closed a && place a = p).map key).dedup.length

variable {key closed place} {items : List α}

theorem mem_of_mem_firstsAfter {seen : List κ} {a : α} (h : a ∈ firstsAfter key seen items) :
    a ∈ items ∧ key a ∉ seen := by
  induction items generalizing seen with
  | nil => cases h
  | cons b items ih =>
      rw [firstsAfter] at h
      split at h
      · exact ⟨List.mem_cons_of_mem b (ih h).1, (ih h).2⟩
      · rename_i hb
        rcases List.mem_cons.1 h with rfl | h
        · exact ⟨List.mem_cons_self, hb⟩
        · rcases ih h with ⟨ha, hseen⟩
          exact ⟨List.mem_cons_of_mem b ha, fun hk => hseen (List.mem_cons_of_mem _ hk)⟩

theorem nodup_firstsAfter (seen : List κ) (items : List α) :
    ((firstsAfter key seen items).map key).Nodup := by
  induction items generalizing seen with
  | nil => exact List.nodup_nil
  | cons a items ih =>
      rw [firstsAfter]
      split
      · exact ih seen
      · rw [List.map_cons, List.nodup_cons]
        refine ⟨?_, ih (key a :: seen)⟩
        intro hmem
        rcases List.mem_map.1 hmem with ⟨b, hb, hkey⟩
        exact (mem_of_mem_firstsAfter hb).2 (hkey ▸ List.mem_cons_self)

theorem firstsAfter_append (key : α → κ) (seen : List κ) (pre post : List α) :
    ∃ seen', (∀ k, k ∈ seen' ↔ k ∈ seen ∨ k ∈ pre.map key) ∧
      firstsAfter key seen (pre ++ post) =
        firstsAfter key seen pre ++ firstsAfter key seen' post := by
  induction pre generalizing seen with
  | nil => exact ⟨seen, by simp, rfl⟩
  | cons a pre ih =>
      rw [List.cons_append, firstsAfter, firstsAfter]
      split
      · rename_i ha
        rcases ih seen with ⟨seen', hseen, heq⟩
        refine ⟨seen', fun k => ?_, heq⟩
        rw [hseen, List.map_cons, List.mem_cons]
        constructor
        · exact fun h => h.imp_right .inr
        · rintro (h | rfl | h)
          · exact .inl h
          · exact .inl ha
          · exact .inr h
      · rcases ih (key a :: seen) with ⟨seen', hseen, heq⟩
        refine ⟨seen', fun k => ?_, by rw [heq, List.cons_append]⟩
        rw [hseen, List.map_cons, List.mem_cons, List.mem_cons]
        constructor
        · rintro ((rfl | h) | h)
          · exact .inr (.inl rfl)
          · exact .inl h
          · exact .inr (.inr h)
        · rintro (h | rfl | h)
          · exact .inl (.inr h)
          · exact .inl (.inl rfl)
          · exact .inr h

theorem firsts_concat (items : List α) (a : α) :
    firsts key (items ++ [a]) =
      if key a ∈ items.map key then firsts key items else firsts key items ++ [a] := by
  rcases firstsAfter_append key [] items [a] with ⟨seen, hseen, heq⟩
  have hmem : key a ∈ seen ↔ key a ∈ items.map key := by simp [hseen]
  rw [firsts, heq, firstsAfter]
  simp only [hmem, firstsAfter]
  split <;> simp [firsts]

theorem mem_map_firsts {k : κ} : k ∈ (firsts key items).map key ↔ k ∈ items.map key := by
  induction items using List.reverseRecOn with
  | nil => simp [firsts, firstsAfter]
  | append_singleton items a ih =>
      rw [firsts_concat]
      split
      · rename_i ha
        rw [ih, List.map_append, List.mem_append]
        constructor
        · exact .inl
        · rintro (h | h)
          · exact h
          · rw [List.map_singleton, List.mem_singleton] at h
            exact h ▸ ha
      · rw [List.map_append, List.mem_append, ih, List.map_append, List.mem_append]

theorem mem_firsts_of_first {pre post : List α} {a : α} (h : ∀ b ∈ pre, key b ≠ key a) :
    a ∈ firsts key (pre ++ a :: post) := by
  rcases firstsAfter_append key [] pre (a :: post) with ⟨seen, hseen, heq⟩
  have ha : key a ∉ seen := by
    rw [hseen]
    rintro (hnil | hpre)
    · cases hnil
    · rcases List.mem_map.1 hpre with ⟨b, hb, hkey⟩
      exact h b hb hkey
  rw [firsts, heq, firstsAfter, if_neg ha]
  exact List.mem_append_right _ List.mem_cons_self

theorem mem_prefix_of_mem_firsts {pre post : List α} {a b : α}
    (ha : a ∈ firsts key (pre ++ post)) (hb : b ∈ pre) (hkey : key b = key a) : a ∈ pre := by
  rcases firstsAfter_append key [] pre post with ⟨seen, hseen, heq⟩
  rw [firsts, heq, List.mem_append] at ha
  rcases ha with ha | ha
  · exact (mem_of_mem_firstsAfter ha).1
  · apply absurd _ (mem_of_mem_firstsAfter ha).2
    rw [hseen, ← hkey]
    exact .inr (List.mem_map_of_mem hb)

theorem firstsAfter_eq_filter {seen : List κ}
    (h : ∀ pre a post, items = pre ++ a :: post →
      (closed a = true ↔ key a ∉ seen ∧ ∀ b ∈ pre, key b ≠ key a)) :
    firstsAfter key seen items = items.filter closed := by
  induction items generalizing seen with
  | nil => rfl
  | cons a items ih =>
      have ha : closed a = true ↔ key a ∉ seen := by simpa using h [] a items rfl
      rw [firstsAfter]
      split
      · rename_i hmem
        rw [List.filter_cons_of_neg (by rw [ha]; exact fun hn => hn hmem)]
        apply ih
        rintro pre b post rfl
        rw [h (a :: pre) b post rfl, List.forall_mem_cons]
        constructor
        · exact fun ⟨hseen, _, hpre⟩ => ⟨hseen, hpre⟩
        · exact fun ⟨hseen, hpre⟩ => ⟨hseen, fun heq => hseen (heq ▸ hmem), hpre⟩
      · rename_i hmem
        rw [List.filter_cons_of_pos (ha.2 hmem)]
        congr 1
        apply ih
        rintro pre b post rfl
        rw [h (a :: pre) b post rfl, List.forall_mem_cons, List.mem_cons, not_or]
        constructor
        · exact fun ⟨hseen, hne, hpre⟩ => ⟨⟨Ne.symm hne, hseen⟩, hpre⟩
        · exact fun ⟨⟨hne, hseen⟩, hpre⟩ => ⟨hseen, Ne.symm hne, hpre⟩

theorem ClosedFirst.firsts_eq (h : ClosedFirst key closed items) :
    firsts key items = items.filter closed := by
  apply firstsAfter_eq_filter
  intro pre a post hsplit
  simp [h pre a post hsplit]

theorem closed_of_countP_eq
    (h : ∀ p, (firsts key items).countP (place · = p) =
      (firsts key items).countP fun a => closed a && place a = p) {a : α}
    (ha : a ∈ firsts key items) : closed a = true := by
  have hp := h (place a)
  rw [← List.countP_filter, List.countP_eq_length_filter, eq_comm, List.countP_eq_length] at hp
  exact hp a (List.mem_filter.2 ⟨ha, decide_eq_true rfl⟩)

theorem exists_first_of_closed {p : π}
    (h : ((firsts key items).countP fun a => closed a && place a = p) =
      distinctClosed key closed place p items) {a : α} (ha : a ∈ items) (hclosed : closed a = true)
    (hplace : place a = p) :
    ∃ b ∈ firsts key items, closed b = true ∧ place b = p ∧ key b = key a := by
  let chosen := (firsts key items).filter fun a => closed a && place a = p
  have hnodup : (chosen.map key).Nodup :=
    (nodup_firstsAfter [] items).sublist (List.filter_sublist.map key)
  have hsub : chosen.map key ⊆
      ((items.filter fun a => closed a && place a = p).map key).dedup := by
    intro k hk
    rcases List.mem_map.1 hk with ⟨b, hb, rfl⟩
    rcases List.mem_filter.1 hb with ⟨hb, hok⟩
    exact List.mem_dedup.2 (List.mem_map_of_mem
      (List.mem_filter.2 ⟨(mem_of_mem_firstsAfter hb).1, hok⟩))
  have hlength : ((items.filter fun a => closed a && place a = p).map key).dedup.length ≤
      (chosen.map key).length := by
    rw [List.length_map, ← List.countP_eq_length_filter, h]
    exact Nat.le_refl _
  have hperm := (List.subperm_of_subset hnodup hsub).perm_of_length_le hlength
  have hmem : key a ∈ chosen.map key := by
    rw [hperm.mem_iff, List.mem_dedup]
    exact List.mem_map_of_mem (List.mem_filter.2 ⟨ha, by simp [hclosed, hplace]⟩)
  rcases List.mem_map.1 hmem with ⟨b, hb, hkey⟩
  rcases List.mem_filter.1 hb with ⟨hb, hok⟩
  rw [Bool.and_eq_true, decide_eq_true_eq] at hok
  exact ⟨b, hb, hok.1, hok.2, hkey⟩

theorem nodup_of_countP_eq {p : π}
    (h : (items.countP fun a => closed a && place a = p) =
      distinctClosed key closed place p items) :
    ((items.filter fun a => closed a && place a = p).map key).Nodup := by
  rw [← List.dedup_eq_self]
  apply (List.dedup_sublist _).eq_of_length
  rw [List.length_map, ← List.countP_eq_length_filter, h]
  rfl

/-- The four ways of counting agree at every place if and only if the closed items are the
first ones. -/
theorem agree_iff (key : α → κ) (closed : α → Bool) (place : α → π) (items : List α) :
    (∀ p, (firsts key items).countP (place · = p) = distinctClosed key closed place p items ∧
      ((firsts key items).countP fun a => closed a && place a = p) =
        distinctClosed key closed place p items ∧
      (items.countP fun a => closed a && place a = p) =
        distinctClosed key closed place p items) ↔
      ClosedFirst key closed items := by
  constructor
  · intro h pre a post hsplit
    constructor
    · intro hclosed b hb hkey
      have ha : a ∈ items := hsplit ▸ List.mem_append_right pre List.mem_cons_self
      rcases exists_first_of_closed (h (place a)).2.1 ha hclosed rfl with
        ⟨first, hfirst, hfclosed, hfplace, hfkey⟩
      have hpre : first ∈ pre :=
        mem_prefix_of_mem_firsts (hsplit ▸ hfirst) hb (hkey.trans hfkey.symm)
      have hnodup := nodup_of_countP_eq (h (place a)).2.2
      rw [hsplit, List.filter_append, List.map_append, List.nodup_append] at hnodup
      apply hnodup.2.2 (key first) _ (key a) _ hfkey
      · exact List.mem_map_of_mem (List.mem_filter.2 ⟨hpre, by simp [hfclosed, hfplace]⟩)
      · exact List.mem_map_of_mem (List.mem_filter.2 ⟨List.mem_cons_self, by simp [hclosed]⟩)
    · intro hfirst
      apply closed_of_countP_eq fun p => (h p).1.trans (h p).2.1.symm
      rw [hsplit]
      exact mem_firsts_of_first hfirst
  · intro h p
    have heq := h.firsts_eq
    have hnodup : ((items.filter fun a => closed a && place a = p).map key).Nodup := by
      have hsub : (items.filter fun a => closed a && place a = p).Sublist
          (firsts key items) := by
        rw [heq, ← List.filter_filter]
        exact List.filter_sublist.filter closed
      exact (nodup_firstsAfter [] items).sublist (hsub.map key)
    have hdistinct : distinctClosed key closed place p items =
        items.countP fun a => closed a && place a = p := by
      rw [distinctClosed, List.dedup_eq_self.2 hnodup, List.length_map,
        List.countP_eq_length_filter]
    rw [hdistinct, heq, List.countP_filter, List.countP_filter]
    refine ⟨List.countP_congr ?_, List.countP_congr ?_, rfl⟩
    · intro a _
      rw [Bool.and_comm]
    · intro a _
      cases closed a <;> simp

theorem head?_eq_find?_iff {α : Type*} (p : α → Bool) (l : List α) :
    (if (l.find? p).isSome then l.head? else none) = l.find? p ↔
      ((∃ a ∈ l, p a = true) → ∀ first, l.head? = some first → p first = true) := by
  constructor
  · rintro h ⟨a, ha, hp⟩ first hfirst
    have hsome : (l.find? p).isSome = true := List.find?_isSome.2 ⟨a, ha, hp⟩
    rw [if_pos hsome, hfirst] at h
    exact List.find?_some h.symm
  · intro h
    cases hfind : l.find? p with
    | none => rfl
    | some a =>
        have hex : ∃ a ∈ l, p a = true :=
          ⟨a, List.mem_of_find?_eq_some hfind, List.find?_some hfind⟩
        cases l with
        | nil => cases hfind
        | cons first rest =>
            have hfirst : p first = true := h hex first rfl
            rw [List.find?_cons_of_pos hfirst] at hfind
            exact hfind

end Firsts
