import CodexPool.Lib.Machine
import Mathlib.Data.Option.Basic
import Mathlib.Logic.Function.Basic

/-!
# Unwinding

Some inputs of a machine are hidden from an observer, who sees the answers to some of
the others. `Unwinding` states step by step that what the hidden inputs do can be
erased from the state: a hidden input changes nothing of what is left, the other inputs
do the same to what is left, and the answers are read off it. Then the observer sees
the same answers when the hidden inputs are left out (`Unwinding.answers_filter`).
`OwnedMap.withoutOwner` is the erasure for a map whose entries have owners.
-/

namespace Machine

variable {S I O : Type*} (step : S → I → S) (out : S → I → O)

/-- The answers that an observer sees along a run. -/
def answers (observed : I → Bool) : S → List I → List O
  | _, [] => []
  | s, i :: is =>
    if observed i then out s i :: answers observed (step s i) is
    else answers observed (step s i) is

structure Unwinding (ok : S → I → Prop) (hidden observed : I → Bool) (inv : S → Prop)
    (erase : S → S) : Prop where
  inv_step : ∀ {s i}, inv s → ok s i → inv (step s i)
  erase_hidden : ∀ {s i}, inv s → ok s i → hidden i = true → erase (step s i) = erase s
  erase_shown : ∀ {s i}, inv s → hidden i = false → erase (step s i) = step (erase s) i
  answer_erase : ∀ {s i}, inv s → observed i = true → out s i = out (erase s) i
  shown : ∀ {i}, observed i = true → hidden i = false

variable {step out} {ok : S → I → Prop} {hidden observed : I → Bool} {inv : S → Prop}
  {erase : S → S}

/-- The hidden inputs can be left out. -/
theorem Unwinding.answers_filter (h : Unwinding step out ok hidden observed inv erase)
    {s : S} {is : List I} (hok : Along step ok s is) (hs : inv s) :
    answers step out observed s is =
      answers step out observed (erase s) (is.filter fun i => !hidden i) := by
  induction is generalizing s with
  | nil => rfl
  | cons i is ih =>
      have hrest := ih hok.2 (h.inv_step hs hok.1)
      cases hi : hidden i with
      | true =>
          have hobs : observed i = false := by
            cases hobs : observed i with
            | false => rfl
            | true => exact absurd (h.shown hobs) (by simp [hi])
          rw [h.erase_hidden hs hok.1 hi] at hrest
          simpa [answers, hobs, hi] using hrest
      | false =>
          rw [h.erase_shown hs hi] at hrest
          rw [List.filter_cons_of_pos (by simp [hi]), answers, answers, hrest]
          cases hobs : observed i with
          | false => rfl
          | true => rw [h.answer_erase hs hobs]

/-- Runs that differ in hidden inputs only give the same answers. -/
theorem Unwinding.answers_eq (h : Unwinding step out ok hidden observed inv erase)
    {s : S} {is js : List I} (his : Along step ok s is) (hjs : Along step ok s js)
    (hs : inv s) (hij : (is.filter fun i => !hidden i) = js.filter fun i => !hidden i) :
    answers step out observed s is = answers step out observed s js := by
  rw [h.answers_filter his hs, h.answers_filter hjs hs, hij]

end Machine

/-! ## Maps whose entries have owners -/

namespace OwnedMap

variable {κ α β ω : Type*} [DecidableEq ω] {owner : α → ω} {m : κ → Option α}
  {k : κ} {a : α} {b : ω}

/-- The map without the entries of the owner `b`. -/
def withoutOwner (owner : α → ω) (b : ω) (m : κ → Option α) : κ → Option α :=
  fun k => (m k).filter fun a => owner a ≠ b

theorem withoutOwner_of_some (h : m k = some a) :
    withoutOwner owner b m k = if owner a = b then none else some a := by
  by_cases ha : owner a = b <;> simp [withoutOwner, h, ha, Option.filter_some]

theorem withoutOwner_of_none (h : m k = none) : withoutOwner owner b m k = none := by
  simp [withoutOwner, h]

theorem withoutOwner_cases (owner : α → ω) (b : ω) (m : κ → Option α) (k : κ) :
    withoutOwner owner b m k = m k ∨
      withoutOwner owner b m k = none ∧ ∃ a, m k = some a ∧ owner a = b := by
  cases hk : m k with
  | none => exact .inl (withoutOwner_of_none hk)
  | some a =>
      by_cases ha : owner a = b
      · exact .inr ⟨by rw [withoutOwner_of_some hk, if_pos ha], a, rfl, ha⟩
      · exact .inl (by rw [withoutOwner_of_some hk, if_neg ha])

theorem withoutOwner_filter (p : α → Bool) :
    withoutOwner owner b (fun k => (m k).filter p) =
      fun k => (withoutOwner owner b m k).filter p := by
  funext k
  simp [withoutOwner, Option.filter_filter, Bool.and_comm]

theorem withoutOwner_bind {f : α → Option β} (hf : ∀ a ∈ m k, owner a = b → f a = none) :
    (withoutOwner owner b m k).bind f = (m k).bind f := by
  cases hk : m k with
  | none => rw [withoutOwner_of_none hk]
  | some a =>
      rw [withoutOwner_of_some hk]
      split
      · exact (hf a (by rw [hk]; rfl) ‹_›).symm
      · rfl

variable [DecidableEq κ]

theorem withoutOwner_update (ha : owner a ≠ b) :
    withoutOwner owner b (Function.update m k (some a)) =
      Function.update (withoutOwner owner b m) k (some a) := by
  funext j
  by_cases h : j = k
  · subst h
    rw [withoutOwner_of_some (Function.update_self _ _ _), if_neg ha, Function.update_self]
  · simp [withoutOwner, h]

theorem withoutOwner_update_self (ha : owner a = b) (hm : ∀ a' ∈ m k, owner a' = b) :
    withoutOwner owner b (Function.update m k (some a)) = withoutOwner owner b m := by
  funext j
  by_cases h : j = k
  · subst h
    rw [withoutOwner_of_some (Function.update_self _ _ _), if_pos ha]
    cases hj : m j with
    | none => rw [withoutOwner_of_none hj]
    | some a' => rw [withoutOwner_of_some hj, if_pos (hm a' (by rw [hj]; rfl))]
  · simp [withoutOwner, h]

end OwnedMap
