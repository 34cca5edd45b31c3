import CodexPool.Lib.Json
import Mathlib.Data.String.Basic

/-!
# Merging JSON objects

The fields of an object built by insertions are sorted by key, so that every key occurs once
and a merge reads a field of the second object where it has one.
-/

namespace Json

def SortedKeys (fs : List (String × Json)) : Prop := (fs.map Prod.fst).Pairwise (· < ·)

theorem mem_keys_insertField {k j : String} {v : Json} {fs : List (String × Json)}
    (h : j ∈ (insertField k v fs).map Prod.fst) : j = k ∨ j ∈ fs.map Prod.fst := by
  induction fs with
  | nil => simpa [insertField] using h
  | cons f fs ih =>
      rw [insertField] at h
      split at h
      · rename_i heq
        rw [List.map_cons, List.mem_cons] at h ⊢
        exact h.imp_right .inr
      · split at h
        · rw [List.map_cons, List.mem_cons] at h
          exact h
        · rw [List.map_cons, List.mem_cons] at h ⊢
          rcases h with h | h
          · exact .inr (.inl h)
          · exact (ih h).imp_right .inr

theorem SortedKeys.insertField {k : String} {v : Json} {fs : List (String × Json)}
    (h : SortedKeys fs) : SortedKeys (insertField k v fs) := by
  induction fs with
  | nil => simp [SortedKeys, Json.insertField]
  | cons f fs ih =>
      have hcons := h
      rw [SortedKeys, List.map_cons, List.pairwise_cons] at hcons
      rw [Json.insertField]
      split
      · rename_i heq
        subst heq
        exact h
      · split
        · rename_i hlt
          rw [SortedKeys, List.map_cons, List.pairwise_cons]
          refine ⟨fun j hj => ?_, h⟩
          rcases List.mem_cons.1 hj with rfl | hj
          · exact hlt
          · exact hlt.trans (hcons.1 j hj)
        · rename_i hne hnlt
          rw [SortedKeys, List.map_cons, List.pairwise_cons]
          refine ⟨fun j hj => ?_, ih hcons.2⟩
          rcases mem_keys_insertField hj with rfl | hj
          · exact lt_of_le_of_ne (not_lt.1 hnlt) (Ne.symm hne)
          · exact hcons.1 j hj

theorem sortedKeys_foldl {gs fs : List (String × Json)} (h : SortedKeys fs) :
    SortedKeys (gs.foldl (fun acc f => insertField f.1 f.2 acc) fs) := by
  induction gs generalizing fs with
  | nil => exact h
  | cons g gs ih => exact ih h.insertField

theorem lookupField_eq_none {k : String} {fs : List (String × Json)}
    (h : k ∉ fs.map Prod.fst) : lookupField k fs = none := by
  induction fs with
  | nil => rfl
  | cons f fs ih =>
      rw [List.map_cons, List.mem_cons, not_or] at h
      rw [lookupField, if_neg h.1, ih h.2]

theorem SortedKeys.lookupField_reverse {fs : List (String × Json)} (h : SortedKeys fs)
    (k : String) : lookupField k fs.reverse = lookupField k fs := by
  induction fs with
  | nil => rfl
  | cons f fs ih =>
      rw [SortedKeys, List.map_cons, List.pairwise_cons] at h
      rw [List.reverse_cons, lookupField_append, ih h.2, lookupField]
      by_cases hk : k = f.1
      · subst hk
        have hnot : f.1 ∉ fs.map Prod.fst := fun hmem => lt_irrefl _ (h.1 _ hmem)
        simp [lookupField_eq_none hnot, lookupField]
      · simp [lookupField, hk]

theorem get_merge (fs gs : List (String × Json)) (k : String) :
    ((obj fs).merge (ofFields gs)).get k = ((ofFields gs).get k).or ((obj fs).get k) := by
  have hsorted : SortedKeys (gs.foldl (fun acc f => insertField f.1 f.2 acc) []) :=
    sortedKeys_foldl List.Pairwise.nil
  change lookupField k (List.foldl _ fs _) = _
  rw [lookupField_foldl_insertField, hsorted.lookupField_reverse]
  rfl

theorem isObject_merge {v : Json} (hv : v.isObject = true) (w : Json) :
    (v.merge w).isObject = true := by
  cases v with
  | obj fs => cases w <;> rfl
  | _ => cases hv

end Json
