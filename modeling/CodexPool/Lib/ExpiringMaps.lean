import Mathlib.Data.Option.Basic
import Mathlib.Logic.Function.Basic
import Mathlib.Order.MinMax

/-!
# Maps whose entries expire

Nodes share a map, and each has a local one on top of it. A node that does not find a key in its
own map reads the shared one, and copies what it finds there for a time of its own. So a copy may
outlive the entry that it was made from, unless what the entry is bound by leaves enough time.
-/

/-- A value with the time at which it expires. -/
structure Expiring (ν : Type*) where
  value : ν
  expiresAt : Nat

abbrev ExpiringMap (κ ν : Type*) := κ → Option (Expiring ν)

namespace ExpiringMap

variable {κ ν : Type*} (m : ExpiringMap κ ν)

def retain (now : Nat) : ExpiringMap κ ν := fun k => (m k).filter (now < ·.expiresAt)

/-- The value of a key that is not expired. -/
def live (k : κ) (now : Nat) : Option ν := (m.retain now k).map (·.value)

theorem retain_eq_some_iff {m : ExpiringMap κ ν} {k : κ} {now : Nat} {e : Expiring ν} :
    m.retain now k = some e ↔ m k = some e ∧ now < e.expiresAt := by
  simp [retain, Option.filter_eq_some_iff]

theorem live_eq_none_iff {m : ExpiringMap κ ν} {k : κ} {now : Nat} :
    m.live k now = none ↔ ∀ e, m k = some e → e.expiresAt ≤ now := by
  simp [live, retain]

variable [DecidableEq κ]

def insert (k : κ) (v : ν) (expiresAt : Nat) : ExpiringMap κ ν :=
  Function.update m k (some ⟨v, expiresAt⟩)

def remove (k : κ) : ExpiringMap κ ν := Function.update m k none

section Entries

variable {m} {k k' : κ} {v : ν} {now t : Nat} {e : Expiring ν}

theorem insert_eq_some (h : m.insert k v t k' = some e) :
    k' = k ∧ e.expiresAt = t ∨ m k' = some e := by
  by_cases hk : k' = k
  · subst hk
    rw [insert, Function.update_self] at h
    exact Or.inl ⟨rfl, by rw [← Option.some.inj h]⟩
  · rw [insert, Function.update_of_ne hk] at h
    exact Or.inr h

theorem remove_eq_some (h : m.remove k k' = some e) : m k' = some e := by
  by_cases hk : k' = k
  · subst hk
    simp [remove] at h
  · rwa [remove, Function.update_of_ne hk] at h

theorem remove_self : m.remove k k = none := Function.update_self ..

theorem remove_eq_none (h : m k' = none) : m.remove k k' = none := by
  by_cases hk : k' = k
  · rw [hk, remove_self]
  · rw [remove, Function.update_of_ne hk, h]

theorem insert_of_ne (h : k' ≠ k) : m.insert k v t k' = m k' := Function.update_of_ne h ..

end Entries

end ExpiringMap

structure LocalCopies (N κ ν : Type*) where
  locals : N → ExpiringMap κ ν
  shared : ExpiringMap κ ν

namespace LocalCopies

variable {N κ ν : Type*}

def empty : LocalCopies N κ ν := ⟨fun _ _ => none, fun _ => none⟩

variable (c : LocalCopies N κ ν)

/-- The node finds the key in the shared map only, and copies it. -/
def Copies (n : N) (k : κ) (now : Nat) : Prop :=
  (c.locals n).live k now = none ∧ c.shared.live k now ≠ none

/-- No entry of the map lives longer than the bound of its key, unless it is expired already. -/
def Bounded (m : ExpiringMap κ ν) (bound : κ → Nat) (now : Nat) : Prop :=
  ∀ k e, m k = some e → e.expiresAt ≤ max (bound k) now

/-- The shared map keeps to one bound, and the map of each node to another one. -/
def Within (bound copyBound : κ → Nat) (now : Nat) : Prop :=
  Bounded c.shared bound now ∧ ∀ n, Bounded (c.locals n) copyBound now

theorem Bounded.mono {m : ExpiringMap κ ν} {bound bound' : κ → Nat} {now now' : Nat}
    (h : Bounded m bound now) (hbound : ∀ k, bound k ≤ bound' k) (hnow : now ≤ now') :
    Bounded m bound' now' :=
  fun k e he => (h k e he).trans (max_le_max (hbound k) hnow)

theorem Within.mono {c : LocalCopies N κ ν} {bound bound' copyBound copyBound' : κ → Nat}
    {now now' : Nat} (h : c.Within bound copyBound now) (hbound : ∀ k, bound k ≤ bound' k)
    (hcopy : ∀ k, copyBound k ≤ copyBound' k) (hnow : now ≤ now') :
    c.Within bound' copyBound' now' :=
  ⟨h.1.mono hbound hnow, fun n => (h.2 n).mono hcopy hnow⟩

theorem within_empty (bound copyBound : κ → Nat) (now : Nat) :
    (empty : LocalCopies N κ ν).Within bound copyBound now := by
  constructor
  · exact fun k e he => nomatch he
  · exact fun n k e he => nomatch he

variable [DecidableEq N]

/-- The state with other maps of one node and of all nodes. -/
def setMaps (n : N) (m shared : ExpiringMap κ ν) : LocalCopies N κ ν :=
  ⟨Function.update c.locals n m, shared⟩

def setLocal (n : N) (m : ExpiringMap κ ν) : LocalCopies N κ ν := c.setMaps n m c.shared

@[simp] theorem setMaps_shared (n : N) (m shared : ExpiringMap κ ν) :
    (c.setMaps n m shared).shared = shared := rfl

@[simp] theorem setMaps_locals_self (n : N) (m shared : ExpiringMap κ ν) :
    (c.setMaps n m shared).locals n = m := Function.update_self ..

theorem setMaps_locals_of_ne {n n' : N} (h : n' ≠ n) (m shared : ExpiringMap κ ν) :
    (c.setMaps n m shared).locals n' = c.locals n' := Function.update_of_ne h ..

variable [DecidableEq κ]

/-- A node reads a key; a copy of an entry of the shared map is kept for the time `copyTtl`. -/
def read (copyTtl : Nat) (n : N) (k : κ) (now : Nat) : Option ν × LocalCopies N κ ν :=
  let kept := (c.locals n).retain now
  match (c.locals n).live k now with
  | some v => (some v, c.setLocal n kept)
  | none =>
    match c.shared.live k now with
    | some v => (some v, c.setLocal n (kept.insert k v (now + copyTtl)))
    | none => (none, c.setLocal n kept)

/-- A node writes a value into its own map and into the shared one. -/
def write (n : N) (k : κ) (v : ν) (localEnd sharedEnd : Nat) : LocalCopies N κ ν :=
  c.setMaps n ((c.locals n).insert k v localEnd) (c.shared.insert k v sharedEnd)

/-- A node removes a key from its own map and from the shared one. -/
def erase (n : N) (k : κ) : LocalCopies N κ ν :=
  c.setMaps n ((c.locals n).remove k) (c.shared.remove k)

section Read

variable {c} {copyTtl : Nat} {n : N} {k : κ} {now : Nat} {bound copyBound : κ → Nat}
  {m shared : ExpiringMap κ ν}

theorem read_fst_eq_none_iff : (c.read copyTtl n k now).1 = none ↔
    (c.locals n).live k now = none ∧ c.shared.live k now = none := by
  rw [read]
  cases (c.locals n).live k now with
  | some v => simp
  | none => cases c.shared.live k now <;> simp

theorem Within.read_eq_none (h : c.Within bound copyBound now) {t : Nat} (hnow : now ≤ t)
    (hbound : bound k ≤ t) (hcopy : copyBound k ≤ t) : (c.read copyTtl n k t).1 = none := by
  rw [read_fst_eq_none_iff, ExpiringMap.live_eq_none_iff, ExpiringMap.live_eq_none_iff]
  exact ⟨fun e he => (h.2 n k e he).trans (max_le hcopy hnow),
    fun e he => (h.1 k e he).trans (max_le hbound hnow)⟩

theorem within_iff_read (copyTtl : Nat) (n₀ : N) :
    c.Within bound bound now ↔ ∀ n k t, now ≤ t → bound k ≤ t →
      (c.read copyTtl n k t).1 = none := by
  refine ⟨fun h n k t hnow hbound => h.read_eq_none hnow hbound hbound, fun h => ?_⟩
  have hnone := fun n k => h n k (max (bound k) now) (le_max_right _ _) (le_max_left _ _)
  simp only [read_fst_eq_none_iff, ExpiringMap.live_eq_none_iff] at hnone
  exact ⟨fun k => (hnone n₀ k).2, fun n k => (hnone n k).1⟩

omit [DecidableEq κ] in
theorem Within.setMaps (h : c.Within bound copyBound now) (hm : Bounded m copyBound now)
    (hshared : Bounded shared bound now) :
    (c.setMaps n m shared).Within bound copyBound now := by
  refine ⟨hshared, fun n' => ?_⟩
  by_cases hn : n' = n
  · rwa [hn, setMaps_locals_self]
  · rw [setMaps_locals_of_ne c hn]
    exact h.2 n'

omit [DecidableEq N] in
theorem Bounded.insert {v : ν} {t : Nat} (h : Bounded m bound now)
    (ht : t ≤ max (bound k) now) : Bounded (m.insert k v t) bound now := by
  intro k' e he
  rcases ExpiringMap.insert_eq_some he with ⟨rfl, hend⟩ | he
  · rwa [hend]
  · exact h k' e he

omit [DecidableEq N] in
theorem Bounded.remove (h : Bounded m bound now) : Bounded (m.remove k) bound now :=
  fun k' e he => h k' e (ExpiringMap.remove_eq_some he)

omit [DecidableEq N] [DecidableEq κ] in
theorem Bounded.retain (h : Bounded m bound now) : Bounded (m.retain now) bound now :=
  fun k e he => h k e (ExpiringMap.retain_eq_some_iff.1 he).1

theorem within_read_iff (hcopy : 0 < copyTtl) (h : c.Within bound copyBound now) :
    (c.read copyTtl n k now).2.Within bound copyBound now ↔
      (c.Copies n k now → now + copyTtl ≤ copyBound k) := by
  have hkept := (h.2 n).retain
  rw [read, Copies]
  cases hlocal : (c.locals n).live k now with
  | some v => exact iff_of_true (h.setMaps hkept h.1) fun hnone => nomatch hnone.1
  | none =>
      cases hshared : c.shared.live k now with
      | none => exact iff_of_true (h.setMaps hkept h.1) fun hnone => absurd rfl hnone.2
      | some v =>
          constructor
          · intro hread _
            have hentry : now + copyTtl ≤ max (copyBound k) now := by
              apply hread.2 n k ⟨v, now + copyTtl⟩
              simp [setLocal, ExpiringMap.insert]
            omega
          · intro hbound
            exact h.setMaps (hkept.insert (le_max_of_le_left (hbound ⟨rfl, by simp⟩))) h.1

omit [DecidableEq N] [DecidableEq κ] in
theorem Within.lt_of_copies (h : c.Within bound copyBound now) (hcopies : c.Copies n k now) :
    now < bound k := by
  have hlive : ¬ ∀ e, c.shared k = some e → e.expiresAt ≤ now :=
    fun hnone => hcopies.2 (ExpiringMap.live_eq_none_iff.2 hnone)
  by_contra hle
  apply hlive
  intro e he
  exact (h.1 k e he).trans (max_le (not_lt.1 hle) le_rfl)

theorem Within.write {v : ν} {localEnd sharedEnd : Nat} (h : c.Within bound copyBound now)
    (hlocal : localEnd ≤ max (copyBound k) now) (hshared : sharedEnd ≤ max (bound k) now) :
    (c.write n k v localEnd sharedEnd).Within bound copyBound now :=
  h.setMaps ((h.2 n).insert hlocal) (h.1.insert hshared)

theorem Within.erase (h : c.Within bound copyBound now) :
    (c.erase n k).Within bound copyBound now :=
  h.setMaps (h.2 n).remove h.1.remove

end Read

/-! ## Keys that a node cannot find -/

/-- Neither the node nor the shared map has the key. -/
def Absent (n : N) (k : κ) : Prop := c.locals n k = none ∧ c.shared k = none

section Absent

variable {c} {copyTtl : Nat} {n n' : N} {k k' : κ} {now : Nat}

theorem absent_erase : (c.erase n k).Absent n k := by
  simp [Absent, LocalCopies.erase, ExpiringMap.remove_self]

theorem Absent.read_eq_none (h : c.Absent n k) : (c.read copyTtl n k now).1 = none := by
  rw [read_fst_eq_none_iff, ExpiringMap.live_eq_none_iff, ExpiringMap.live_eq_none_iff, h.1, h.2]
  simp

omit [DecidableEq κ] in
theorem Absent.setMaps {m shared : ExpiringMap κ ν} (h : c.Absent n k)
    (hm : n = n' → m k = none) (hshared : shared k = none) :
    (c.setMaps n' m shared).Absent n k := by
  refine ⟨?_, hshared⟩
  by_cases hn : n = n'
  · rw [hn, setMaps_locals_self]
    exact hm hn
  · rw [setMaps_locals_of_ne c hn]
    exact h.1

theorem Absent.read (h : c.Absent n k) : (c.read copyTtl n' k' now).2.Absent n k := by
  have hkept : n = n' → (c.locals n').retain now k = none := by
    rintro rfl
    simp [ExpiringMap.retain, h.1]
  rw [LocalCopies.read]
  cases (c.locals n').live k' now with
  | some v => exact h.setMaps hkept h.2
  | none =>
      cases hshared : c.shared.live k' now with
      | none => exact h.setMaps hkept h.2
      | some v =>
          have hk : k ≠ k' := by
            rintro rfl
            simp [ExpiringMap.live, ExpiringMap.retain, h.2] at hshared
          refine h.setMaps (fun hn => ?_) h.2
          rw [ExpiringMap.insert_of_ne hk, hkept hn]

theorem Absent.write {v : ν} {localEnd sharedEnd : Nat} (h : c.Absent n k) (hk : k ≠ k') :
    (c.write n' k' v localEnd sharedEnd).Absent n k := by
  refine h.setMaps (fun hn => ?_) ((ExpiringMap.insert_of_ne hk).trans h.2)
  rw [ExpiringMap.insert_of_ne hk, ← hn, h.1]

theorem Absent.erase (h : c.Absent n k) : (c.erase n' k').Absent n k := by
  refine h.setMaps (fun hn => ?_) (ExpiringMap.remove_eq_none h.2)
  exact ExpiringMap.remove_eq_none (hn ▸ h.1)

end Absent

end LocalCopies
