import Mathlib.Data.List.Nodup
import Mathlib.Tactic.Ring

/-!
# Reading a list behind a cursor

A page begins behind the first item that has the key of the cursor, or with the first item of the
list if there is no such item. A reader takes the key of the last item on a page as the cursor for
the next one. It reads the list exactly if the last item of each page but the last is the first
item with its key.
-/

namespace CursorPages

variable {ι κ : Type*} (key : ι → Option κ) (items : List ι)

/-- The cursor that the last item of the page at the position gives. -/
def nextCursor (limit p : ℕ) : Option κ := ((items.drop p).take limit).getLast?.bind key

/-- The item at the index has a key, and no item before it has the same one. -/
def Fresh (i : ℕ) : Prop :=
  ∃ k, (items[i]?).bind key = some k ∧ ∀ j < i, (items[j]?).bind key ≠ some k

/-- The last item of each page but the last is the first one with its key. -/
def PagesFresh (limit p : ℕ) : Prop :=
  ∀ m, p + (m + 1) * limit < items.length → Fresh key items (p + (m + 1) * limit - 1)

variable {key items} {limit p : ℕ}

theorem nextCursor_eq (hlimit : 0 < limit) (hmore : p + limit < items.length) :
    nextCursor key items limit p = (items[p + limit - 1]?).bind key := by
  have hindex : p + (limit - 1) = p + limit - 1 := by omega
  have hlast : p + limit - 1 < items.length := by omega
  rw [nextCursor, List.getLast?_take, if_neg hlimit.ne', List.getElem?_drop, hindex,
    List.getElem?_eq_getElem hlast, Option.some_or]

theorem pagesFresh_of_length_le (hlast : items.length ≤ p + limit) :
    PagesFresh key items limit p := by
  intro m hm
  have : limit ≤ (m + 1) * limit := Nat.le_mul_of_pos_left limit m.succ_pos
  omega

theorem pagesFresh_succ (hmore : p + limit < items.length) :
    PagesFresh key items limit p ↔
      Fresh key items (p + limit - 1) ∧ PagesFresh key items limit (p + limit) := by
  have hshift : ∀ m, p + (m + 1 + 1) * limit = p + limit + (m + 1) * limit := fun m => by ring
  constructor
  · intro h
    constructor
    · have hfirst := h 0
      rw [Nat.zero_add, Nat.one_mul] at hfirst
      exact hfirst hmore
    · intro m
      rw [← hshift]
      exact h (m + 1)
  · rintro ⟨hfirst, hrest⟩ m
    cases m with
    | zero =>
        rw [Nat.zero_add, Nat.one_mul]
        exact fun _ => hfirst
    | succ m =>
        rw [hshift]
        exact hrest m

theorem pagesFresh_of_nodup (hkeys : ∀ item ∈ items, (key item).isSome)
    (hnodup : (items.map key).Nodup) (hlimit : 0 < limit) : PagesFresh key items limit 0 := by
  intro m hm
  rw [Nat.zero_add] at hm ⊢
  have hpos : 0 < (m + 1) * limit := Nat.mul_pos m.succ_pos hlimit
  have hlt : (m + 1) * limit - 1 < items.length := by omega
  rcases Option.isSome_iff_exists.1 (hkeys _ (List.getElem_mem hlt)) with ⟨k, hk⟩
  refine ⟨k, ?_, ?_⟩
  · rw [List.getElem?_eq_getElem hlt, Option.bind_some, hk]
  · intro j hj heq
    have hjlt : j < items.length := hj.trans hlt
    rw [List.getElem?_eq_getElem hjlt, Option.bind_some, ← hk] at heq
    have hjmap : j < (items.map key).length := by simpa using hjlt
    have hlastmap : (m + 1) * limit - 1 < (items.map key).length := by simpa using hlt
    have hsame : (items.map key)[j] = (items.map key)[(m + 1) * limit - 1] := by
      rw [List.getElem_map, List.getElem_map, heq]
    exact hj.ne (hnodup.getElem_inj_iff.1 hsame)

/-! ## The reader -/

section Reader

variable [DecidableEq κ] (key items)

/-- The position behind the first item with the key. -/
def position (cursor : Option κ) : ℕ :=
  match cursor with
  | none => 0
  | some k => ((items.findIdx? fun item => key item = some k).map (· + 1)).getD 0

/-- What a reader gets in at most `fuel` pages, `none` if it does not come to the last page. -/
def read (limit : ℕ) : ℕ → ℕ → Option (List ι)
  | 0, _ => none
  | fuel + 1, p =>
    if limit < (items.drop p).length then
      (read limit fuel (position key items (nextCursor key items limit p))).map
        ((items.drop p).take limit ++ ·)
    else some (items.drop p)

variable {key items}

/-- The position behind the first item with a key that some item has. -/
theorem position_of_key {i : ℕ} {k : κ} (h : (items[i]?).bind key = some k) :
    ∃ first ≤ i, position key items (some k) = first + 1 ∧
      (items[first]?).bind key = some k ∧ ∀ j < first, (items[j]?).bind key ≠ some k := by
  rcases Option.bind_eq_some_iff.1 h with ⟨item, hitem, hkey⟩
  cases hfound : items.findIdx? fun item => key item = some k with
  | none =>
      have hnone := List.findIdx?_eq_none_iff.1 hfound item (List.mem_of_getElem? hitem)
      exact absurd hkey (of_decide_eq_false hnone)
  | some first =>
      rcases List.findIdx?_eq_some_iff_getElem.1 hfound with ⟨hlt, hfirst, hbefore⟩
      have hnot : ∀ j < first, (items[j]?).bind key ≠ some k := by
        intro j hj
        rw [List.getElem?_eq_getElem (hj.trans hlt), Option.bind_some]
        simpa using hbefore j hj
      refine ⟨first, ?_, ?_, ?_, hnot⟩
      · by_contra hgt
        exact hnot i (Nat.lt_of_not_le hgt) h
      · rw [position, hfound]
        rfl
      · rw [List.getElem?_eq_getElem hlt, Option.bind_some]
        simpa using hfirst

theorem position_le (hlimit : 0 < limit) (hmore : p + limit < items.length) :
    position key items (nextCursor key items limit p) ≤ p + limit := by
  rw [nextCursor_eq hlimit hmore]
  cases hkey : (items[p + limit - 1]?).bind key with
  | none => exact Nat.zero_le _
  | some k =>
      rcases position_of_key hkey with ⟨first, hle, hposition, -, -⟩
      rw [hposition]
      omega

theorem position_eq_iff (hlimit : 0 < limit) (hmore : p + limit < items.length) :
    position key items (nextCursor key items limit p) = p + limit ↔
      Fresh key items (p + limit - 1) := by
  rw [nextCursor_eq hlimit hmore, Fresh]
  cases hkey : (items[p + limit - 1]?).bind key with
  | none =>
      simp only [reduceCtorEq, false_and, exists_false, iff_false, position]
      omega
  | some k =>
      rcases position_of_key hkey with ⟨first, hle, hposition, hfirst, hbefore⟩
      rw [hposition]
      constructor
      · intro heq
        have hindex : first = p + limit - 1 := by omega
        exact ⟨k, rfl, hindex ▸ hbefore⟩
      · rintro ⟨k', hk', hnew⟩
        rw [← Option.some.inj hk'] at hnew
        have hge : ¬first < p + limit - 1 := fun hlt => hnew first hlt hfirst
        omega

theorem read_more {fuel : ℕ} (hmore : p + limit < items.length) :
    read key items limit (fuel + 1) p =
      (read key items limit fuel (position key items (nextCursor key items limit p))).map
        ((items.drop p).take limit ++ ·) := by
  rw [read, List.length_drop, if_pos (by omega)]

theorem read_last {fuel : ℕ} (hlast : items.length ≤ p + limit) :
    read key items limit (fuel + 1) p = some (items.drop p) := by
  rw [read, List.length_drop, if_neg (by omega)]

theorem length_page (hmore : p + limit < items.length) :
    ((items.drop p).take limit).length = limit := by
  rw [List.length_take, List.length_drop]
  omega

theorem le_length_of_read (hlimit : 0 < limit) {fuel : ℕ} {got : List ι}
    (h : read key items limit fuel p = some got) : items.length - p ≤ got.length := by
  induction fuel generalizing p got with
  | zero => cases h
  | succ fuel ih =>
      rcases Nat.lt_or_ge (p + limit) items.length with hmore | hlast
      · rw [read_more hmore] at h
        rcases Option.map_eq_some_iff.1 h with ⟨rest, hrest, rfl⟩
        have hlength := ih hrest
        have hposition : position key items (nextCursor key items limit p) ≤ p + limit :=
          position_le hlimit hmore
        rw [List.length_append, length_page hmore]
        omega
      · rw [read_last hlast] at h
        rw [← Option.some.inj h, List.length_drop]

theorem pagesFresh_of_read (hlimit : 0 < limit) {fuel : ℕ} {got : List ι}
    (h : read key items limit fuel p = some got) (hlength : got.length ≤ items.length - p) :
    PagesFresh key items limit p := by
  induction fuel generalizing p got with
  | zero => cases h
  | succ fuel ih =>
      rcases Nat.lt_or_ge (p + limit) items.length with hmore | hlast
      · rw [read_more hmore] at h
        rcases Option.map_eq_some_iff.1 h with ⟨rest, hrest, rfl⟩
        have hrestLength := le_length_of_read hlimit hrest
        have hle : position key items (nextCursor key items limit p) ≤ p + limit :=
          position_le hlimit hmore
        rw [List.length_append, length_page hmore] at hlength
        have hposition : position key items (nextCursor key items limit p) = p + limit := by
          omega
        rw [hposition] at hrest
        exact (pagesFresh_succ hmore).2
          ⟨(position_eq_iff hlimit hmore).1 hposition, ih hrest (by omega)⟩
      · exact pagesFresh_of_length_le hlast

theorem read_of_pagesFresh (hlimit : 0 < limit) (h : PagesFresh key items limit p) {fuel : ℕ}
    (hfuel : items.length - p < fuel) : read key items limit fuel p = some (items.drop p) := by
  induction fuel generalizing p with
  | zero => omega
  | succ fuel ih =>
      rcases Nat.lt_or_ge (p + limit) items.length with hmore | hlast
      · rcases (pagesFresh_succ hmore).1 h with ⟨hfresh, hrest⟩
        rw [read_more hmore, (position_eq_iff hlimit hmore).2 hfresh, ih hrest (by omega),
          Option.map_some, ← List.drop_drop, List.take_append_drop]
      · exact read_last hlast

/-- A reader gets exactly the list, after some pages, if and only if the pages are fresh. -/
theorem read_eq_some_iff (hlimit : 0 < limit) :
    (∃ fuel, read key items limit fuel 0 = some items) ↔ PagesFresh key items limit 0 := by
  constructor
  · rintro ⟨fuel, h⟩
    exact pagesFresh_of_read hlimit h (Nat.le_of_eq rfl)
  · intro h
    exact ⟨items.length + 1, read_of_pagesFresh hlimit h (by omega)⟩

end Reader

end CursorPages
