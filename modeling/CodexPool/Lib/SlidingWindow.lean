import Mathlib.Data.List.Count
import Mathlib.Logic.Relation
import Mathlib.Order.Nat

/-!
# Limits over a sliding window

Attempts are admitted by the failures that are recorded within a window, and record their own
failure some time later. Attempts on the way count for nothing in the record. Where an attempt is
admitted only if the record and all attempts on the way are below the limit, no window without a
reset sees more failures than the limit.
-/

namespace SlidingWindow

/-- The recorded failures, how many attempts wait for their outcome and how many for their failure
to be recorded, and the times of all failures and resets. -/
structure State where
  now : Nat
  recorded : List Nat
  waiting : Nat
  unrecorded : Nat
  failures : List Nat
  resets : List Nat

/-- What may happen to the attempts under a window and a limit. -/
inductive Move (window limit : Nat) : State → State → Prop where
  | pass (s : State) (delay : Nat) : Move window limit s { s with now := s.now + delay }
  | prune (s : State) : Move window limit s
      { s with recorded := s.recorded.filter fun t => s.now - t ≤ window }
  | enter (s : State) (h : s.recorded.length + s.waiting + s.unrecorded < limit) :
      Move window limit s { s with waiting := s.waiting + 1 }
  | leave (s : State) (h : 0 < s.waiting) :
      Move window limit s { s with waiting := s.waiting - 1 }
  | refuse (s : State) (h : 0 < s.waiting) : Move window limit s
      { s with waiting := s.waiting - 1, unrecorded := s.unrecorded + 1 }
  | fail (s : State) (h : 0 < s.waiting) : Move window limit s
      { s with
        waiting := s.waiting - 1, unrecorded := s.unrecorded + 1
        failures := s.now :: s.failures }
  | record (s : State) (h : 0 < s.unrecorded) : Move window limit s
      { s with unrecorded := s.unrecorded - 1, recorded := s.recorded ++ [s.now] }
  | reset (s : State) : Move window limit s
      { s with recorded := [], resets := s.now :: s.resets }

/-- The number of times that are not before the start. -/
def since (start : Nat) (times : List Nat) : Nat := times.countP (start ≤ ·)

def inWindow (window start : Nat) (times : List Nat) : Nat :=
  times.countP fun t => start ≤ t && t ≤ start + window

/-- Every failure is recorded or on the way, as long as the window of its time is not over and no
reset has come; and there is room for all attempts on the way. -/
structure Kept (window limit : Nat) (s : State) : Prop where
  failures_le : ∀ t ∈ s.failures, t ≤ s.now
  resets_le : ∀ t ∈ s.resets, t ≤ s.now
  room : ∀ start, s.now ≤ start + window →
    since start s.recorded + s.waiting + s.unrecorded ≤ limit
  counted : ∀ start, s.now ≤ start + window → (∀ t ∈ s.resets, t < start) →
    since start s.failures ≤ since start s.recorded + s.unrecorded
  bounded : ∀ start, (∀ t ∈ s.resets, ¬ (start ≤ t ∧ t ≤ start + window)) →
    inWindow window start s.failures ≤ limit

section Times

variable {window start : Nat} {times : List Nat} {t : Nat}

theorem since_cons : since start (t :: times) =
    since start times + if start ≤ t then 1 else 0 := by
  by_cases h : start ≤ t <;> simp [since, h]

theorem since_append_singleton : since start (times ++ [t]) =
    since start times + if start ≤ t then 1 else 0 := by
  by_cases h : start ≤ t <;> simp [since, List.countP_append, h]

theorem since_le_length : since start times ≤ times.length := List.countP_le_length

theorem since_eq_zero (h : ∀ t ∈ times, t < start) : since start times = 0 := by
  rw [since, List.countP_eq_zero]
  intro t ht
  simpa using h t ht

theorem inWindow_le_since : inWindow window start times ≤ since start times := by
  apply List.countP_mono_left
  intro t _ ht
  rw [Bool.and_eq_true] at ht
  exact ht.1

theorem inWindow_cons : inWindow window start (t :: times) =
    inWindow window start times + if start ≤ t ∧ t ≤ start + window then 1 else 0 := by
  by_cases h : start ≤ t ∧ t ≤ start + window <;> simp [inWindow, h]

theorem since_filter {now : Nat} (h : now ≤ start + window) :
    since start (times.filter fun t => now - t ≤ window) = since start times := by
  rw [since, since, List.countP_filter]
  apply List.countP_congr
  intro t _
  simp only [Bool.and_eq_true, decide_eq_true_eq, and_iff_left_iff_imp]
  omega

end Times

variable {window limit : Nat} {s s' : State}

theorem Kept.move (h : Kept window limit s) (hmove : Move window limit s s') :
    Kept window limit s' := by
  cases hmove with
  | pass delay =>
      exact
        { failures_le := fun t ht => (h.failures_le t ht).trans (Nat.le_add_right _ _)
          resets_le := fun t ht => (h.resets_le t ht).trans (Nat.le_add_right _ _)
          room := fun start hstart => h.room start ((Nat.le_add_right _ _).trans hstart)
          counted := fun start hstart => h.counted start ((Nat.le_add_right _ _).trans hstart)
          bounded := h.bounded }
  | prune =>
      refine ⟨h.failures_le, h.resets_le, ?_, ?_, h.bounded⟩
      · intro start hstart
        dsimp only
        rw [since_filter hstart]
        exact h.room start hstart
      · intro start hstart hresets
        dsimp only
        rw [since_filter hstart]
        exact h.counted start hstart hresets
  | enter hroom =>
      refine ⟨h.failures_le, h.resets_le, ?_, h.counted, h.bounded⟩
      intro start _
      have hle : since start s.recorded ≤ s.recorded.length := since_le_length
      dsimp only
      omega
  | leave hwaiting =>
      refine ⟨h.failures_le, h.resets_le, ?_, h.counted, h.bounded⟩
      intro start hstart
      have hle := h.room start hstart
      dsimp only
      omega
  | refuse hwaiting =>
      refine ⟨h.failures_le, h.resets_le, ?_, ?_, h.bounded⟩
      · intro start hstart
        have hle := h.room start hstart
        dsimp only
        omega
      · intro start hstart hresets
        have hle := h.counted start hstart hresets
        dsimp only
        omega
  | fail hwaiting =>
      refine ⟨?_, h.resets_le, ?_, ?_, ?_⟩
      · rw [List.forall_mem_cons]
        exact ⟨le_rfl, h.failures_le⟩
      · intro start hstart
        have hle := h.room start hstart
        dsimp only
        omega
      · intro start hstart hresets
        have hle := h.counted start hstart hresets
        dsimp only
        rw [since_cons]
        split <;> omega
      · intro start hresets
        have hle := h.bounded start hresets
        dsimp only
        rw [inWindow_cons]
        split
        · -- the window is not over, so that its failures are all recorded or on the way
          rename_i hin
          have hbefore : ∀ t ∈ s.resets, t < start := by
            intro t ht
            have hnow := h.resets_le t ht
            have hout := hresets t ht
            omega
          have hcounted := h.counted start hin.2 hbefore
          have hroom := h.room start hin.2
          have hsince : inWindow window start s.failures ≤ since start s.failures :=
            inWindow_le_since
          omega
        · exact hle
  | record hunrecorded =>
      refine ⟨h.failures_le, h.resets_le, ?_, ?_, h.bounded⟩
      · intro start hstart
        have hle := h.room start hstart
        dsimp only
        rw [since_append_singleton]
        split <;> omega
      · intro start hstart hresets
        have hle := h.counted start hstart hresets
        dsimp only
        rw [since_append_singleton]
        split
        · omega
        · rename_i hafter
          rw [since_eq_zero fun t ht => (h.failures_le t ht).trans_lt (not_le.1 hafter)]
          exact Nat.zero_le _
  | reset =>
      refine ⟨h.failures_le, ?_, ?_, ?_, ?_⟩
      · rw [List.forall_mem_cons]
        exact ⟨le_rfl, h.resets_le⟩
      · intro start hstart
        have hle := h.room start hstart
        simp only [since, List.countP_nil]
        omega
      · intro start _ hresets
        rw [List.forall_mem_cons] at hresets
        dsimp only
        rw [since_eq_zero fun t ht => (h.failures_le t ht).trans_lt hresets.1]
        exact Nat.zero_le _
      · intro start hresets
        exact h.bounded start fun t ht => hresets t (List.mem_cons_of_mem _ ht)

theorem Kept.moves (h : Kept window limit s)
    (hmoves : Relation.ReflTransGen (Move window limit) s s') : Kept window limit s' := by
  induction hmoves with
  | refl => exact h
  | tail _ hmove ih => exact ih.move hmove

theorem kept_initial (window limit now : Nat) : Kept window limit ⟨now, [], 0, 0, [], []⟩ where
  failures_le := nofun
  resets_le := nofun
  room _ _ := Nat.zero_le _
  counted _ _ _ := Nat.zero_le _
  bounded _ _ := Nat.zero_le _

end SlidingWindow
