import Mathlib.Algebra.BigOperators.Group.List.Basic
import Mathlib.Data.List.Nodup
import Mathlib.Tactic.Ring

/-!
# Tables

A table is a list of rows. `sumOver p f` adds up a quantity over the rows that
satisfy a predicate, and `updateKey` rewrites the rows with a given key, as an
`UPDATE ... WHERE id = ...` statement does. The main fact is
`sumOver_updateKey`: when keys are unique, such an update changes a sum by the
difference at the row it rewrites.
-/

namespace Table

variable {α κ : Type*} [DecidableEq κ]

/-- The sum of `f` over the rows that satisfy `p`. -/
def sumOver (p : α → Bool) (f : α → Int) (rows : List α) : Int :=
  ((rows.filter p).map f).sum

/-- Rewrites the rows whose key is `k`. -/
def updateKey (key : α → κ) (k : κ) (g : α → α) (rows : List α) : List α :=
  rows.map fun x => if key x = k then g x else x

@[simp] theorem sumOver_nil (p : α → Bool) (f : α → Int) :
    sumOver p f [] = 0 := rfl

theorem sumOver_cons (p : α → Bool) (f : α → Int) (x : α) (rows : List α) :
    sumOver p f (x :: rows) = (if p x then f x else 0) + sumOver p f rows := by
  unfold sumOver
  by_cases h : p x = true <;> simp [h]

theorem sumOver_append (p : α → Bool) (f : α → Int) (rows rows' : List α) :
    sumOver p f (rows ++ rows') = sumOver p f rows + sumOver p f rows' := by
  simp [sumOver]

theorem sumOver_singleton (p : α → Bool) (f : α → Int) (x : α) :
    sumOver p f [x] = if p x then f x else 0 := by
  rw [sumOver_cons, sumOver_nil, add_zero]

theorem sumOver_eq_zero {p : α → Bool} (f : α → Int) {rows : List α}
    (h : ∀ x ∈ rows, p x = false) : sumOver p f rows = 0 := by
  have hnil : rows.filter p = [] :=
    List.filter_eq_nil_iff.2 fun x hx => by simp [h x hx]
  rw [sumOver, hnil]
  rfl

theorem mem_updateKey {key : α → κ} {k : κ} {g : α → α} {rows : List α} {y : α} :
    y ∈ updateKey key k g rows ↔
      ∃ x ∈ rows, (if key x = k then g x else x) = y := by
  simp [updateKey]

theorem updateKey_of_forall_ne {key : α → κ} {k : κ} (g : α → α) {rows : List α}
    (h : ∀ x ∈ rows, key x ≠ k) : updateKey key k g rows = rows := by
  unfold updateKey
  calc rows.map (fun x => if key x = k then g x else x)
      = rows.map id := List.map_congr_left fun x hx => if_neg (h x hx)
    _ = rows := List.map_id rows

theorem map_key_updateKey {key : α → κ} (k : κ) {g : α → α}
    (hg : ∀ x, key (g x) = key x) (rows : List α) :
    (updateKey key k g rows).map key = rows.map key := by
  rw [updateKey, List.map_map]
  refine List.map_congr_left fun x _ => ?_
  by_cases h : key x = k <;> simp [h, hg]

/-- Rewriting the row `x` changes a sum by the difference at `x`. -/
theorem sumOver_updateKey {key : α → κ} {p : α → Bool} {g : α → α}
    (f : α → Int) {rows : List α} (hnd : (rows.map key).Nodup) {x : α}
    (hx : x ∈ rows) (hp : p (g x) = p x) :
    sumOver p f (updateKey key (key x) g rows) =
      sumOver p f rows + (if p x then f (g x) - f x else 0) := by
  induction rows with
  | nil => cases hx
  | cons y rows ih =>
      rw [List.map_cons, List.nodup_cons] at hnd
      obtain ⟨hy, hnd⟩ := hnd
      have hcons : updateKey key (key x) g (y :: rows) =
          (if key y = key x then g y else y) :: updateKey key (key x) g rows := rfl
      rw [hcons, sumOver_cons, sumOver_cons]
      by_cases hkey : key y = key x
      · have hyx : y = x := by
          rcases List.mem_cons.1 hx with hxy | hxr
          · exact hxy.symm
          · exact absurd (hkey ▸ List.mem_map_of_mem hxr) hy
        have hrest : updateKey key (key x) g rows = rows :=
          updateKey_of_forall_ne g fun z hz hzx =>
            hy (hkey ▸ hzx ▸ List.mem_map_of_mem hz)
        rw [if_pos hkey, hrest, hyx, hp]
        by_cases hpx : p x = true
        · simp [hpx]
          ring
        · simp [hpx]
      · have hxr : x ∈ rows := by
          rcases List.mem_cons.1 hx with hxy | hxr
          · exact absurd (by rw [hxy]) hkey
          · exact hxr
        rw [if_neg hkey, ih hnd hxr, add_assoc]

end Table
