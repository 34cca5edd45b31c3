import Mathlib.Data.List.Nodup
import Mathlib.Logic.Function.Basic

/-!
# Deliveries that are counted

Consumers hold items until they count them. A consumer may take items, drop some of those
that it holds, or count all of them. If items are only taken while nobody holds them and
they have not been counted, every item is held or counted at most once in all.
-/

namespace Delivery

variable {C ι : Type*}

structure Ledger (C ι : Type*) where
  held : C → List ι
  counted : List ι

namespace Ledger

/-- Nobody holds the item, and it has not been counted. -/
def Free (l : Ledger C ι) (i : ι) : Prop :=
  (∀ c, i ∉ l.held c) ∧ i ∉ l.counted

/-- Every item is held or counted at most once. -/
structure Once (l : Ledger C ι) : Prop where
  nodup_held : ∀ c, (l.held c).Nodup
  apart : ∀ c c', c ≠ c' → ∀ i ∈ l.held c, i ∉ l.held c'
  nodup_counted : l.counted.Nodup
  uncounted : ∀ c, ∀ i ∈ l.held c, i ∉ l.counted

variable [DecidableEq C]

def take (l : Ledger C ι) (c : C) (items : List ι) : Ledger C ι :=
  { l with held := Function.update l.held c (l.held c ++ items) }

def keep (l : Ledger C ι) (c : C) (items : List ι) : Ledger C ι :=
  { l with held := Function.update l.held c items }

def count (l : Ledger C ι) (c : C) : Ledger C ι where
  held := Function.update l.held c []
  counted := l.counted ++ l.held c

variable {l : Ledger C ι} {c : C} {items : List ι}

/-- It is enough to look at the consumer whose items change. -/
theorem Once.update (h : l.Once) (hnodup : items.Nodup)
    (hnew : ∀ i ∈ items, i ∉ l.held c → l.Free i)
    (hheld : ∀ i ∈ items, i ∉ l.counted) : (l.keep c items).Once where
  nodup_held c' := by
    by_cases hc : c' = c
    · subst c'
      simpa [keep] using hnodup
    · simpa [keep, hc] using h.nodup_held c'
  apart c₁ c₂ hne i hi := by
    have hother (c' : C) (hc : c' ≠ c) : i ∈ items → i ∉ l.held c' := by
      intro hitem hmem
      by_cases hold : i ∈ l.held c
      · exact h.apart c' c hc i hmem hold
      · exact (hnew i hitem hold).1 c' hmem
    by_cases hc₁ : c₁ = c
    · subst c₁
      have hc₂ : c₂ ≠ c := Ne.symm hne
      simp only [keep, Function.update_self] at hi
      simpa [keep, hc₂] using hother c₂ hc₂ hi
    · simp only [keep, Function.update_of_ne hc₁] at hi
      by_cases hc₂ : c₂ = c
      · subst c₂
        simpa [keep] using fun hitem => hother c₁ hc₁ hitem hi
      · simpa [keep, hc₂] using h.apart c₁ c₂ hne i hi
  nodup_counted := h.nodup_counted
  uncounted c' i hi := by
    by_cases hc : c' = c
    · subst c'
      exact hheld i (by simpa [keep] using hi)
    · exact h.uncounted c' i (by simpa [keep, hc] using hi)

theorem Once.take (h : l.Once) (hnodup : items.Nodup) (hfree : ∀ i ∈ items, l.Free i) :
    (l.take c items).Once := by
  have hupdate : (l.held c ++ items).Nodup → _ → _ → (l.take c items).Once := h.update
  apply hupdate
  · rw [List.nodup_append]
    refine ⟨h.nodup_held c, hnodup, ?_⟩
    rintro i hi _ hitem rfl
    exact (hfree i hitem).1 c hi
  · intro i hi hnot
    rcases List.mem_append.1 hi with hi | hi
    · exact absurd hi hnot
    · exact hfree i hi
  · intro i hi
    rcases List.mem_append.1 hi with hi | hi
    · exact h.uncounted c i hi
    · exact (hfree i hi).2

theorem Once.keep (h : l.Once) (hsub : items.Sublist (l.held c)) : (l.keep c items).Once := by
  apply h.update ((h.nodup_held c).sublist hsub)
  · exact fun i hi hnot => absurd (hsub.subset hi) hnot
  · exact fun i hi => h.uncounted c i (hsub.subset hi)

theorem Once.count (h : l.Once) : (l.count c).Once where
  nodup_held := (h.keep (List.nil_sublist _)).nodup_held
  apart := (h.keep (List.nil_sublist _)).apart
  nodup_counted := by
    rw [Ledger.count, List.nodup_append]
    refine ⟨h.nodup_counted, h.nodup_held c, ?_⟩
    rintro i hi _ hheld rfl
    exact h.uncounted c i hheld hi
  uncounted c' i hi := by
    by_cases hc : c' = c
    · subst c'
      simp [Ledger.count] at hi
    · simp only [Ledger.count, Function.update_of_ne hc] at hi
      simp only [Ledger.count, List.mem_append, not_or]
      exact ⟨h.uncounted c' i hi, fun hother => h.apart c' c hc i hi hother⟩

end Ledger

end Delivery
