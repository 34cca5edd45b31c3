import Mathlib.Data.List.Induction
import Mathlib.Data.List.Nodup
import Mathlib.Logic.Function.Basic

/-!
# Keyed collections

A collection of items with a key is kept either as a map, `κ → Option α`, or as a
list in which an item is looked up by its key. `collectBy` fills a map from a
list, where a later item takes the place of an earlier one with the same key;
`upsertBy` and `deleteBy` change the item with one key in a list, and their lemmas
say what they do to the map `lookupBy` that the list stands for.
-/

namespace Keyed

variable {α κ : Type*} [DecidableEq κ] (key : α → κ)

def collectBy (items : List α) : κ → Option α :=
  items.foldl (fun m a => Function.update m (key a) (some a)) fun _ => none

def lookupBy (items : List α) (k : κ) : Option α :=
  items.find? fun a => key a = k

/-- Replaces the first item with the key of `a`, or adds `a` at the end. -/
def upsertBy (a : α) : List α → List α
  | [] => [a]
  | b :: items => if key b = key a then a :: items else b :: upsertBy a items

def deleteBy (k : κ) (items : List α) : List α :=
  items.filter fun a => key a ≠ k

/-- Keeps the entries of a map whose key is among `ks`. -/
def retain (ks : List κ) (m : κ → Option α) : κ → Option α :=
  fun k => if k ∈ ks then m k else none

variable {key}

@[simp] theorem lookupBy_nil (k : κ) : lookupBy key [] k = none := rfl

theorem lookupBy_cons (a : α) (items : List α) (k : κ) :
    lookupBy key (a :: items) k = if key a = k then some a else lookupBy key items k := by
  unfold lookupBy
  rw [List.find?_cons]
  by_cases h : key a = k <;> simp [h]

theorem key_of_lookupBy {items : List α} {k : κ} {a : α}
    (h : lookupBy key items k = some a) : key a = k := by
  simpa using List.find?_some h

theorem lookupBy_eq_none_iff {items : List α} {k : κ} :
    lookupBy key items k = none ↔ k ∉ items.map key := by
  simp [lookupBy]

/-- With unique keys, an item of the list is the one found under its key. -/
theorem lookupBy_of_mem {items : List α} (hnd : (items.map key).Nodup) {a : α}
    (ha : a ∈ items) : lookupBy key items (key a) = some a := by
  induction items with
  | nil => cases ha
  | cons b items ih =>
      rw [List.map_cons, List.nodup_cons] at hnd
      rw [lookupBy_cons]
      rcases List.mem_cons.1 ha with rfl | ha
      · rw [if_pos rfl]
      · have hne : key b ≠ key a := fun h => hnd.1 (h ▸ List.mem_map_of_mem ha)
        rw [if_neg hne, ih hnd.2 ha]

theorem lookupBy_eq_some_iff {items : List α} (hnd : (items.map key).Nodup) {k : κ} {a : α} :
    lookupBy key items k = some a ↔ a ∈ items ∧ key a = k := by
  constructor
  · intro h
    exact ⟨List.mem_of_find?_eq_some h, key_of_lookupBy h⟩
  · rintro ⟨ha, rfl⟩
    exact lookupBy_of_mem hnd ha

theorem lookupBy_perm {items items' : List α} (hnd : (items.map key).Nodup)
    (h : items.Perm items') : lookupBy key items = lookupBy key items' := by
  have hnd' : (items'.map key).Nodup := (h.map key).nodup_iff.1 hnd
  funext k
  ext a
  rw [lookupBy_eq_some_iff hnd, lookupBy_eq_some_iff hnd', h.mem_iff]

theorem perm_of_lookupBy_eq {items items' : List α} (hnd : (items.map key).Nodup)
    (hnd' : (items'.map key).Nodup) (h : lookupBy key items = lookupBy key items') :
    items.Perm items' := by
  refine (List.perm_ext_iff_of_nodup hnd.of_map hnd'.of_map).2 fun a => ?_
  have hmem : ∀ {l : List α}, (l.map key).Nodup →
      (a ∈ l ↔ lookupBy key l (key a) = some a) := fun hl => by
    rw [lookupBy_eq_some_iff hl, and_iff_left rfl]
  rw [hmem hnd, hmem hnd', h]

theorem lookupBy_filter {items : List α} (hnd : (items.map key).Nodup) (p : α → Bool) (k : κ) :
    lookupBy key (items.filter p) k = (lookupBy key items k).filter p := by
  have hnd' : ((items.filter p).map key).Nodup :=
    hnd.sublist (List.Sublist.map key List.filter_sublist)
  ext a
  rw [lookupBy_eq_some_iff hnd', List.mem_filter, Option.filter_eq_some_iff,
    lookupBy_eq_some_iff hnd]
  tauto

variable (key) in
theorem lookupBy_filter_key (p : κ → Bool) (items : List α) (k : κ) :
    lookupBy key (items.filter fun a => p (key a)) k =
      if p k = true then lookupBy key items k else none := by
  induction items with
  | nil => simp
  | cons a items ih =>
      rw [lookupBy_cons]
      by_cases hp : p (key a) = true
      · rw [List.filter_cons_of_pos (by exact hp), lookupBy_cons, ih]
        by_cases hkey : key a = k
        · rw [← hkey]
          simp [hp]
        · simp [hkey]
      · rw [List.filter_cons_of_neg (by exact hp), ih]
        by_cases hkey : key a = k
        · rw [← hkey]
          simp [hp]
        · simp [hkey]

theorem lookupBy_upsertBy (a : α) (items : List α) :
    lookupBy key (upsertBy key a items) =
      Function.update (lookupBy key items) (key a) (some a) := by
  funext k
  induction items with
  | nil =>
      by_cases h : k = key a
      · simp [upsertBy, lookupBy_cons, h]
      · simp [upsertBy, lookupBy_cons, h, Ne.symm h]
  | cons b items ih =>
      by_cases hb : key b = key a
      · by_cases h : k = key a
        · simp [upsertBy, hb, lookupBy_cons, h]
        · simp [upsertBy, hb, lookupBy_cons, h, Ne.symm h]
      · rw [upsertBy, if_neg hb, lookupBy_cons, ih]
        by_cases h : k = key a
        · simp [h, hb]
        · simp [h, lookupBy_cons]

theorem map_key_upsertBy (a : α) (items : List α) :
    (upsertBy key a items).map key =
      if key a ∈ items.map key then items.map key else items.map key ++ [key a] := by
  induction items with
  | nil => rfl
  | cons b items ih =>
      by_cases hb : key b = key a
      · simp [upsertBy, hb]
      · rw [upsertBy, if_neg hb, List.map_cons, ih]
        by_cases ha : key a ∈ items.map key
        · have ha' : key a ∈ (b :: items).map key := by
            rw [List.map_cons]
            exact List.mem_cons_of_mem _ ha
          rw [if_pos ha, if_pos ha', List.map_cons]
        · have ha' : key a ∉ (b :: items).map key := by
            rw [List.map_cons]
            exact List.not_mem_cons_of_ne_of_not_mem (Ne.symm hb) ha
          rw [if_neg ha, if_neg ha', List.map_cons, List.cons_append]

theorem length_upsertBy_le (a : α) (items : List α) :
    (upsertBy key a items).length ≤ items.length + 1 := by
  rw [← List.length_map (f := key), map_key_upsertBy]
  split_ifs <;> simp

theorem nodup_upsertBy {items : List α} (hnd : (items.map key).Nodup) (a : α) :
    ((upsertBy key a items).map key).Nodup := by
  rw [map_key_upsertBy]
  by_cases ha : key a ∈ items.map key
  · rw [if_pos ha]
    exact hnd
  · rw [if_neg ha]
    exact List.nodup_append.2 ⟨hnd, List.nodup_singleton _, by
      rintro x hx y hy rfl
      exact ha (List.mem_singleton.1 hy ▸ hx)⟩

theorem mem_or_of_mem_upsertBy {items : List α} {a b : α} (h : b ∈ upsertBy key a items) :
    b = a ∨ b ∈ items := by
  induction items with
  | nil => exact .inl (List.mem_singleton.1 h)
  | cons c items ih =>
      rw [upsertBy] at h
      split at h
      · exact (List.mem_cons.1 h).imp_right (List.mem_cons_of_mem c)
      · rcases List.mem_cons.1 h with rfl | hrest
        · exact .inr List.mem_cons_self
        · exact (ih hrest).imp_right (List.mem_cons_of_mem c)

theorem mem_upsertBy {items : List α} (hnd : (items.map key).Nodup) {a b : α} :
    b ∈ upsertBy key a items ↔ b = a ∨ b ∈ items ∧ key b ≠ key a := by
  have hmem : b ∈ upsertBy key a items ↔
      lookupBy key (upsertBy key a items) (key b) = some b := by
    rw [lookupBy_eq_some_iff (nodup_upsertBy hnd a)]
    exact ⟨fun h => ⟨h, rfl⟩, fun h => h.1⟩
  rw [hmem, lookupBy_upsertBy]
  by_cases hkey : key b = key a
  · rw [hkey, Function.update_self, Option.some.injEq]
    exact ⟨fun h => .inl h.symm, fun h => h.elim Eq.symm fun h => absurd rfl h.2⟩
  · rw [Function.update_of_ne hkey, lookupBy_eq_some_iff hnd]
    constructor
    · exact fun h => .inr ⟨h.1, hkey⟩
    · rintro (rfl | h)
      · exact absurd rfl hkey
      · exact ⟨h.1, rfl⟩

theorem lookupBy_deleteBy (k : κ) (items : List α) :
    lookupBy key (deleteBy key k items) =
      Function.update (lookupBy key items) k none := by
  funext k'
  induction items with
  | nil => by_cases h : k' = k <;> simp [deleteBy, h]
  | cons b items ih =>
      unfold deleteBy at ih ⊢
      by_cases hb : key b = k
      · rw [List.filter_cons_of_neg (by simpa using hb), ih]
        by_cases h : k' = k
        · simp [h]
        · have hk : key b ≠ k' := fun e => h (e ▸ hb)
          simp [h, lookupBy_cons, hk]
      · rw [List.filter_cons_of_pos (by simpa using hb), lookupBy_cons, ih]
        by_cases h : k' = k
        · simp [h, hb]
        · simp [h, lookupBy_cons]

theorem deleteBy_of_lookupBy_eq_none {items : List α} {k : κ} (h : lookupBy key items k = none) :
    deleteBy key k items = items := by
  rw [lookupBy_eq_none_iff] at h
  apply List.filter_eq_self.2
  intro a ha
  exact decide_eq_true fun hkey => h (List.mem_map.2 ⟨a, ha, hkey⟩)

theorem nodup_deleteBy {items : List α} (hnd : (items.map key).Nodup) (k : κ) :
    ((deleteBy key k items).map key).Nodup :=
  hnd.sublist (List.Sublist.map key List.filter_sublist)

theorem lookupBy_map {β : Type*} {key' : β → κ} {f : α → β} (hf : ∀ a, key' (f a) = key a)
    (items : List α) (k : κ) :
    lookupBy key' (items.map f) k = (lookupBy key items k).map f := by
  induction items with
  | nil => rfl
  | cons a items ih =>
      rw [List.map_cons, lookupBy_cons, lookupBy_cons, hf, ih]
      by_cases h : key a = k <;> simp [h]

theorem map_upsertBy {β : Type*} {key' : β → κ} {f : α → β} (hf : ∀ a, key' (f a) = key a) (a : α)
    (items : List α) :
    (upsertBy key a items).map f = upsertBy key' (f a) (items.map f) := by
  induction items with
  | nil => rfl
  | cons b items ih =>
      rw [upsertBy, List.map_cons, upsertBy, hf, hf]
      split
      · rfl
      · rw [List.map_cons, ih]

theorem map_deleteBy {β : Type*} {key' : β → κ} {f : α → β} (hf : ∀ a, key' (f a) = key a) (k : κ)
    (items : List α) :
    (deleteBy key k items).map f = deleteBy key' k (items.map f) := by
  unfold deleteBy
  rw [List.filter_map]
  congr 2
  funext a
  simp only [Function.comp_apply, hf]

theorem collectBy_concat (items : List α) (a : α) :
    collectBy key (items ++ [a]) =
      Function.update (collectBy key items) (key a) (some a) := by
  simp [collectBy]

theorem key_of_collectBy {items : List α} {k : κ} {a : α} (h : collectBy key items k = some a) :
    key a = k := by
  induction items using List.reverseRecOn with
  | nil => cases h
  | append_singleton items b ih =>
      rw [collectBy_concat] at h
      by_cases hk : k = key b
      · rw [hk, Function.update_self] at h
        rw [hk, ← Option.some.inj h]
      · rw [Function.update_of_ne hk] at h
        exact ih h

theorem collectBy_filter (ks : List κ) (items : List α) :
    collectBy key (items.filter fun a => key a ∈ ks) = retain ks (collectBy key items) := by
  induction items using List.reverseRecOn with
  | nil =>
      funext k
      simp [collectBy, retain]
  | append_singleton items a ih =>
      funext k
      rw [List.filter_append, collectBy_concat]
      by_cases ha : key a ∈ ks
      · rw [List.filter_cons_of_pos (by simpa using ha), List.filter_nil, collectBy_concat, ih]
        by_cases h : k = key a
        · simp [h, retain, ha]
        · simp [h, retain]
      · rw [List.filter_cons_of_neg (by simpa using ha), List.filter_nil, List.append_nil, ih]
        by_cases h : k = key a
        · simp [h, retain, ha]
        · simp [h, retain]

end Keyed
