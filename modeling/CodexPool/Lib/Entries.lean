import Mathlib.Data.List.Count
import Mathlib.Logic.Function.Basic

/-!
# Loops over entries

A loop goes through items, each of which has an entry of its own in the state. When what becomes
of an item depends on its entry only and changes no other one, an item cannot tell which others
are there. An item that raises an error ends the loop for all that come after it.
-/

namespace Entries

variable {S ι κ V ε : Type*} [DecidableEq κ] (view : S → κ → V) (key : ι → κ)
  (step : S → ι → Except ε Bool × S)

/-- Goes through the items until one raises an error, and counts those whose step says so. -/
def loop : List ι → ℕ → S → Except ε ℕ × S
  | [], n, s => (.ok n, s)
  | i :: is, n, s =>
    match step s i with
    | (.error e, s) => (.error e, s)
    | (.ok counts, s) => loop is (if counts then n + 1 else n) s

/-- The step of an item is what `effect` says of its entry. -/
structure Local (effect : ι → V → Except ε (Bool × V)) : Prop where
  ok : ∀ s i counts v, effect i (view s (key i)) = .ok (counts, v) →
    (step s i).1 = .ok counts ∧ view (step s i).2 = Function.update (view s) (key i) v
  error : ∀ s i e, effect i (view s (key i)) = .error e → (step s i).1 = .error e

/-- The item is counted when its entry is `v`. -/
def counted (effect : ι → V → Except ε (Bool × V)) (i : ι) (v : V) : Bool :=
  match effect i v with
  | .ok (counts, _) => counts
  | .error _ => false

variable {view key step} {effect : ι → V → Except ε (Bool × V)}

theorem loop_cons_of_ok {i : ι} {is : List ι} {n : ℕ} {s : S} {counts : Bool}
    (h : (step s i).1 = .ok counts) :
    loop step (i :: is) n s = loop step is (if counts then n + 1 else n) (step s i).2 := by
  rw [loop]
  cases hstep : step s i with
  | mk r s' =>
      rw [hstep] at h
      obtain rfl : r = .ok counts := h
      rfl

theorem loop_cons_of_error {i : ι} {is : List ι} {n : ℕ} {s : S} {e : ε}
    (h : (step s i).1 = .error e) : (loop step (i :: is) n s).1 = .error e := by
  rw [loop]
  cases hstep : step s i with
  | mk r s' =>
      rw [hstep] at h
      obtain rfl : r = .error e := h
      rfl

/-- Without errors, each item has its effect, and the others' entries are as they were. -/
theorem loop_of_ok (hlocal : Local view key step effect) {is : List ι}
    (hnd : (is.map key).Nodup) {s : S}
    (hok : ∀ i ∈ is, ∃ r, effect i (view s (key i)) = .ok r) (n : ℕ) :
    (loop step is n s).1 = .ok (n + is.countP fun i => counted effect i (view s (key i))) ∧
      (∀ i ∈ is, ∀ counts v, effect i (view s (key i)) = .ok (counts, v) →
        view (loop step is n s).2 (key i) = v) ∧
      ∀ k, k ∉ is.map key → view (loop step is n s).2 k = view s k := by
  induction is generalizing n s with
  | nil => exact ⟨rfl, fun i hi => absurd hi List.not_mem_nil, fun _ _ => rfl⟩
  | cons i is ih =>
      rw [List.map_cons, List.nodup_cons] at hnd
      obtain ⟨⟨counts, v⟩, heffect⟩ := hok i List.mem_cons_self
      obtain ⟨hresult, hview⟩ := hlocal.ok s i counts v heffect
      have hother {k : κ} (hk : k ≠ key i) : view (step s i).2 k = view s k := by
        rw [hview, Function.update_of_ne hk]
      have hrest (j : ι) (hj : j ∈ is) : view (step s i).2 (key j) = view s (key j) :=
        hother fun h => hnd.1 (h ▸ List.mem_map_of_mem hj)
      have hok' (j : ι) (hj : j ∈ is) : ∃ r, effect j (view (step s i).2 (key j)) = .ok r := by
        rw [hrest j hj]
        exact hok j (List.mem_cons_of_mem _ hj)
      obtain ⟨hcount, hentries, hkept⟩ := ih hnd.2 hok' (if counts then n + 1 else n)
      rw [loop_cons_of_ok hresult]
      refine ⟨?_, ?_, ?_⟩
      · have hcongr : (is.countP fun j => counted effect j (view (step s i).2 (key j))) =
            is.countP fun j => counted effect j (view s (key j)) :=
          List.countP_congr fun j hj => by rw [hrest j hj]
        have hi : counted effect i (view s (key i)) = counts := by
          unfold counted
          rw [heffect]
        rw [hcount, hcongr, List.countP_cons, hi]
        congr 1
        split_ifs <;> omega
      · intro j hj counts' v' heffect'
        obtain rfl | hj := List.mem_cons.1 hj
        · obtain ⟨-, rfl⟩ := Prod.mk.inj (Except.ok.inj (heffect.symm.trans heffect'))
          rw [hkept _ hnd.1, hview, Function.update_self]
        · rw [← hrest j hj] at heffect'
          exact hentries j hj counts' v' heffect'
      · intro k hk
        rw [List.map_cons, List.mem_cons, not_or] at hk
        rw [hkept k hk.2, hother hk.1]

variable (step) in
theorem loop_le (size : S → ℕ) (hstep : ∀ s i, size (step s i).2 ≤ size s + 1) (is : List ι) (n : ℕ)
    (s : S) : size (loop step is n s).2 ≤ size s + is.length := by
  induction is generalizing n s with
  | nil => exact Nat.le_refl _
  | cons i is ih =>
      have hi : size (step s i).2 ≤ size s + 1 := hstep s i
      rw [loop, List.length_cons]
      cases hresult : step s i with
      | mk r s' =>
          replace hi : size s' ≤ size s + 1 := by rw [hresult] at hi; exact hi
          cases r with
          | error e =>
              dsimp only
              omega
          | ok counts =>
              have hrest := ih (if counts then n + 1 else n) s'
              dsimp only
              omega

/-- An item that raises an error ends the loop. -/
theorem loop_of_error (hlocal : Local view key step effect) {is : List ι}
    (hnd : (is.map key).Nodup) {s : S} {i : ι} (hi : i ∈ is) {e : ε}
    (heffect : effect i (view s (key i)) = .error e) (n : ℕ) :
    ∃ e', (loop step is n s).1 = .error e' := by
  induction is generalizing n s with
  | nil => cases hi
  | cons j is ih =>
      rw [List.map_cons, List.nodup_cons] at hnd
      cases hj : effect j (view s (key j)) with
      | error e' => exact ⟨e', loop_cons_of_error (hlocal.error s j e' hj)⟩
      | ok r =>
          obtain ⟨counts, v⟩ := r
          obtain ⟨hresult, hview⟩ := hlocal.ok s j counts v hj
          obtain rfl | hi := List.mem_cons.1 hi
          · rw [heffect] at hj
            cases hj
          · rw [loop_cons_of_ok hresult]
            refine ih hnd.2 hi ?_ _
            have hne : key i ≠ key j := fun h => hnd.1 (h ▸ List.mem_map_of_mem hi)
            rw [hview, Function.update_of_ne hne]
            exact heffect

end Entries
