import Mathlib.Data.List.Basic

/-!
# Machines

A machine takes its inputs one after the other. Everything that its environment
may choose, the order of its parties included, is part of an input, so that a
run is a list of inputs. `Along` says that every input of a run meets a
condition in the state in which it arrives.
-/

namespace Machine

variable {S I : Type*} (step : S → I → S)

def run : S → List I → S
  | s, [] => s
  | s, i :: is => run (step s i) is

def Along (ok : S → I → Prop) : S → List I → Prop
  | _, [] => True
  | s, i :: is => ok s i ∧ Along ok (step s i) is

instance decidableAlong {ok : S → I → Prop} [∀ s i, Decidable (ok s i)] :
    ∀ (s : S) (is : List I), Decidable (Along step ok s is)
  | _, [] => inferInstanceAs (Decidable True)
  | s, i :: is =>
    @instDecidableAnd _ _ (inferInstanceAs (Decidable (ok s i)))
      (decidableAlong (step s i) is)

variable {step} {ok : S → I → Prop} {P : S → Prop}

theorem run_append (s : S) (is js : List I) :
    run step s (is ++ js) = run step (run step s is) js := by
  induction is generalizing s with
  | nil => rfl
  | cons i is ih => exact ih (step s i)

theorem along_append (s : S) (is js : List I) :
    Along step ok s (is ++ js) ↔
      Along step ok s is ∧ Along step ok (run step s is) js := by
  induction is generalizing s with
  | nil => simp [Along, run]
  | cons i is ih => simp [Along, run, ih, and_assoc]

theorem along_forall {κ : Type*} {ok : κ → S → I → Prop} (s : S) (is : List I) :
    Along step (fun s i => ∀ k, ok k s i) s is ↔ ∀ k, Along step (ok k) s is := by
  induction is generalizing s with
  | nil => simp [Along]
  | cons i is ih => simp only [Along, ih, forall_and]

theorem along_and {ok ok' : S → I → Prop} (s : S) (is : List I) :
    Along step (fun s i => ok s i ∧ ok' s i) s is ↔ Along step ok s is ∧ Along step ok' s is := by
  induction is generalizing s with
  | nil => simp [Along]
  | cons i is ih => simp only [Along, ih, and_and_and_comm]

theorem along_of_forall {given : I → Prop} {is : List I} (h : ∀ i ∈ is, given i) (s : S) :
    Along step (fun _ i => given i) s is := by
  induction is generalizing s with
  | nil => trivial
  | cons i is ih =>
      rw [List.forall_mem_cons] at h
      exact ⟨h.1, ih h.2 (step s i)⟩

theorem along_of_prefixes {s : S} {is : List I} (h : ∀ pre, pre <+: is → P (run step s pre)) :
    Along step (fun s _ => P s) s is := by
  induction is generalizing s with
  | nil => trivial
  | cons i is ih =>
      refine ⟨h [] List.nil_prefix, ih fun pre hpre => ?_⟩
      exact h (i :: pre) ((List.prefix_cons_inj i).2 hpre)

/-- What every step preserves holds after every run. -/
theorem run_invariant (hstep : ∀ s i, P s → P (step s i)) {s : S} (hs : P s)
    (is : List I) : P (run step s is) := by
  induction is generalizing s with
  | nil => exact hs
  | cons i is ih => exact ih (hstep s i hs)

/-- Two machines that every step keeps related are related after every run. -/
theorem run_simulates {T : Type*} {step' : T → I → T} {R : S → T → Prop}
    (hstep : ∀ s t i, R s t → R (step s i) (step' t i)) {s : S} {t : T} (h : R s t)
    (is : List I) : R (run step s is) (run step' t is) := by
  induction is generalizing s t with
  | nil => exact h
  | cons i is ih => exact ih (hstep s t i h)

/-- Two conditions that agree where an invariant holds agree along every run. -/
theorem along_congr {ok' : S → I → Prop} (hstep : ∀ s i, P s → P (step s i))
    (hok : ∀ s i, P s → (ok s i ↔ ok' s i)) {s : S} (hs : P s) (is : List I) :
    Along step ok s is ↔ Along step ok' s is := by
  induction is generalizing s with
  | nil => exact Iff.rfl
  | cons i is ih => exact and_congr (hok s i hs) (ih (hstep s i hs))

/-- The same for an invariant that only the steps that meet the first condition preserve,
along a run whose inputs meet a third one. -/
theorem Along.congr {ok' given : S → I → Prop}
    (hstep : ∀ s i, P s → given s i → ok s i → P (step s i))
    (hok : ∀ s i, P s → given s i → (ok s i ↔ ok' s i)) {s : S} {is : List I}
    (h : Along step given s is) (hs : P s) : Along step ok s is ↔ Along step ok' s is := by
  induction is generalizing s with
  | nil => exact Iff.rfl
  | cons i is ih =>
      rw [Along, Along, ← hok s i hs h.1]
      exact and_congr_right fun hi => ih h.2 (hstep s i hs h.1 hi)

/-- What every step preserves that meets the condition holds after every run
whose steps all meet it. -/
theorem Along.invariant (hstep : ∀ s i, P s → ok s i → P (step s i)) {s : S}
    {is : List I} (h : Along step ok s is) (hs : P s) : P (run step s is) := by
  induction is generalizing s with
  | nil => exact hs
  | cons i is ih => exact ih h.2 (hstep s i hs h.1)

/-- Where a step leads to a property exactly when it meets the condition, a run keeps the
property in every state exactly when all its steps meet the condition. -/
theorem Along.iff_prefixes {Q : S → Prop} {given : S → I → Prop}
    (hstep : ∀ s i, P s → given s i → P (step s i))
    (hiff : ∀ s i, P s → given s i → Q s → (Q (step s i) ↔ ok s i)) {s : S} {is : List I}
    (h : Along step given s is) (hs : P s) (hq : Q s) :
    (∀ pre, pre <+: is → Q (run step s pre)) ↔ Along step ok s is := by
  induction is generalizing s with
  | nil => simpa [Along, run] using hq
  | cons i is ih =>
      have hs' := hstep s i hs h.1
      rw [Along]
      constructor
      · intro hall
        have hi : Q (step s i) := hall [i] ⟨is, rfl⟩
        refine ⟨(hiff s i hs h.1 hq).1 hi, (ih h.2 hs' hi).1 fun pre hpre => ?_⟩
        exact hall (i :: pre) ((List.prefix_cons_inj i).2 hpre)
      · rintro ⟨hi, his⟩ pre hpre
        cases pre with
        | nil => exact hq
        | cons j pre =>
            rcases List.cons_prefix_cons.1 hpre with ⟨rfl, hrest⟩
            exact (ih h.2 hs' ((hiff s j hs h.1 hq).2 hi)).2 his pre hrest

theorem along_iff_prefixes {Q : S → Prop} (hstep : ∀ s i, P s → P (step s i))
    (hiff : ∀ s i, P s → Q s → (Q (step s i) ↔ ok s i)) {s : S} (hs : P s) (hq : Q s)
    (is : List I) : (∀ pre, pre <+: is → Q (run step s pre)) ↔ Along step ok s is :=
  (along_of_forall (fun _ _ => trivial) s : Along step (fun _ _ => True) s is).iff_prefixes
    (fun s i hs _ => hstep s i hs) (fun s i hs _ hq => hiff s i hs hq) hs hq

/-- The same where the steps that meet the condition preserve what tells whether they do. -/
theorem along_iff_observed {Q : S → Prop} (hkeep : ∀ s i, P s → ok s i → P (step s i))
    (hiff : ∀ s i, P s → (Q (step s i) ↔ ok s i)) {s : S} (hs : P s) (hq : Q s)
    (is : List I) : (∀ pre, pre <+: is → Q (run step s pre)) ↔ Along step ok s is := by
  induction is generalizing s with
  | nil => simpa [Along, run] using hq
  | cons i is ih =>
      rw [Along]
      constructor
      · intro h
        have hi : Q (step s i) := h [i] ⟨is, rfl⟩
        have hok := (hiff s i hs).1 hi
        refine ⟨hok, (ih (hkeep s i hs hok) hi).1 fun pre hpre => ?_⟩
        exact h (i :: pre) ((List.prefix_cons_inj i).2 hpre)
      · rintro ⟨hi, his⟩ pre hpre
        cases pre with
        | nil => exact hq
        | cons j pre =>
            rcases List.cons_prefix_cons.1 hpre with ⟨rfl, hrest⟩
            exact (ih (hkeep s j hs hi) ((hiff s j hs).2 hi)).2 his pre hrest

/-- Where each step that is given and meets the condition has a property and preserves an
invariant, all steps of a run have the property. -/
theorem Along.of_invariant {ok' given : S → I → Prop}
    (hstep : ∀ s i, P s → given s i → ok s i → P (step s i) ∧ ok' s i) {s : S} {is : List I}
    (hgiven : Along step given s is) (h : Along step ok s is) (hs : P s) : Along step ok' s is := by
  induction is generalizing s with
  | nil => trivial
  | cons i is ih =>
      obtain ⟨hs', hi⟩ := hstep s i hs hgiven.1 h.1
      exact ⟨hi, ih hgiven.2 h.2 hs'⟩

end Machine
