import CodexPool.Lib.Keyed
import Mathlib.Data.List.Nodup
import Mathlib.Order.Defs.Unbundled

/-!
# The latest item of a list

The item of a list that no other comes after, where the order of the items is total but tells
apart only what their names tell apart.
-/

namespace Latest

variable {α κ : Type*} (le : α → α → Prop) [DecidableRel le]

def latest : List α → Option α
  | [] => none
  | a :: items =>
    match latest items with
    | none => some a
    | some b => if le a b then some b else some a

variable {le}

theorem latest_eq_none_iff {items : List α} : latest le items = none ↔ items = [] := by
  cases items with
  | nil => simp [latest]
  | cons a items =>
      rw [latest]
      cases latest le items with
      | none => simp
      | some b =>
          dsimp only
          split <;> simp

theorem mem_of_latest {items : List α} {a : α} (h : latest le items = some a) : a ∈ items := by
  induction items generalizing a with
  | nil => cases h
  | cons b items ih =>
      rw [latest] at h
      cases hrest : latest le items with
      | none =>
          rw [hrest] at h
          simp [Option.some.inj h]
      | some c =>
          rw [hrest] at h
          dsimp only at h
          split_ifs at h
          · obtain rfl := Option.some.inj h
            exact List.mem_cons_of_mem _ (ih hrest)
          · simp [Option.some.inj h]

variable [Std.Total le] [IsTrans α le]

theorem le_of_latest {items : List α} {a b : α} (h : latest le items = some a)
    (hb : b ∈ items) : le b a := by
  induction items generalizing a with
  | nil => cases hb
  | cons c items ih =>
      rw [latest] at h
      cases hrest : latest le items with
      | none =>
          rw [hrest] at h
          obtain rfl := Option.some.inj h
          obtain rfl := latest_eq_none_iff.1 hrest
          obtain rfl : b = c := by simpa using hb
          exact (Std.Total.total b b).elim id id
      | some d =>
          rw [hrest] at h
          dsimp only at h
          rw [List.mem_cons] at hb
          split_ifs at h with hcd
          · obtain rfl := Option.some.inj h
            obtain rfl | hb := hb
            · exact hcd
            · exact ih hrest hb
          · obtain rfl := Option.some.inj h
            obtain rfl | hb := hb
            · exact (Std.Total.total b b).elim id id
            · exact Trans.trans (ih hrest hb) ((Std.Total.total c d).resolve_left hcd)

theorem map_latest_eq_iff (name : α → κ) {items : List α} (hnd : (items.map name).Nodup)
    (hanti : ∀ a b, le a b → le b a → name a = name b) {a : α} (ha : a ∈ items) :
    (latest le items).map name = some (name a) ↔ ∀ b ∈ items, le b a := by
  cases hlatest : latest le items with
  | none =>
      rw [latest_eq_none_iff.1 hlatest] at ha
      cases ha
  | some c =>
      have hc := mem_of_latest hlatest
      rw [Option.map_some, Option.some.injEq]
      constructor
      · intro hname b hb
        rw [← List.inj_on_of_nodup_map hnd hc ha hname]
        exact le_of_latest hlatest hb
      · intro hall
        exact hanti c a (hall c hc) (le_of_latest hlatest ha)

/-! ## Items of which a later one has the same key -/

section Superseded

variable [DecidableEq κ] {ν : Type*} [DecidableEq ν] (le) (name : α → ν) (key : α → Option κ)
  (look : κ → Bool)

def superseded (items : List α) (a : α) : Bool :=
  (key a).any fun k =>
    look k && decide ((latest le (items.filter fun b => key b = some k)).map name ≠ some (name a))

variable {le name key look}

theorem superseded_eq_false_iff {items : List α} (hnd : (items.map name).Nodup)
    (hanti : ∀ a b, le a b → le b a → name a = name b) {a : α} (ha : a ∈ items) :
    superseded le name key look items a = false ↔
      ∀ k, key a = some k → look k = true → ∀ b ∈ items, key b = some k → le b a := by
  unfold superseded
  cases hkey : key a with
  | none => simp
  | some k =>
      have hmem : a ∈ items.filter fun b => key b = some k :=
        List.mem_filter.2 ⟨ha, by simpa using hkey⟩
      have hlatest := map_latest_eq_iff name (hnd.sublist (List.filter_sublist.map name)) hanti hmem
      cases hlook : look k with
      | false => simp [hlook]
      | true =>
          simp only [Option.any_some, hlook, Bool.true_and, ne_eq, decide_eq_false_iff_not, not_not,
            hlatest, Option.some.injEq, List.mem_filter, decide_eq_true_eq, and_imp]
          constructor
          · rintro h _ rfl -
            exact h
          · intro h
            exact h k rfl hlook

variable (le name key look) in
/-- With `r` stored, none of the items that must stay, and not `r` itself, has a later item with
its key. -/
structure NoneSuperseded (items : List α) (own : α → Prop) (r : α) : Prop where
  stored : ∀ k, key r = some k → look k = true →
    ∀ b ∈ items, name b ≠ name r → key b = some k → le b r
  others : ∀ a ∈ items, ¬ own a → ∀ k, key a = some k → look k = true →
    (∀ b ∈ items, name b ≠ name r → key b = some k → le b a) ∧ (key r = some k → le r a)

variable (key look) in
/-- An item is stored in place of those with its name, and what is superseded then is deleted.
All items but the own ones stay, and so does the one that is stored, if and only if none of
them is superseded. -/
theorem filter_upsertBy_iff {items : List α} (hnd : (items.map name).Nodup)
    (hanti : ∀ a b, le a b → le b a → name a = name b) {own : α → Prop} {r : α}
    (hown : ∀ a ∈ items, name a = name r → own a) :
    ((∀ a ∈ items, ¬ own a → a ∈ (Keyed.upsertBy name r items).filter fun a =>
          !superseded le name key look (Keyed.upsertBy name r items) a) ∧
        r ∈ (Keyed.upsertBy name r items).filter fun a =>
          !superseded le name key look (Keyed.upsertBy name r items) a) ↔
      NoneSuperseded le name key look items own r := by
  have hnd' := Keyed.nodup_upsertBy hnd r
  have hr : r ∈ Keyed.upsertBy name r items := (Keyed.mem_upsertBy hnd).2 (.inl rfl)
  have hmem (a : α) (ha : a ∈ Keyed.upsertBy name r items) :
      (a ∈ (Keyed.upsertBy name r items).filter fun a =>
        !superseded le name key look (Keyed.upsertBy name r items) a) ↔
          ∀ k, key a = some k → look k = true →
            (∀ b ∈ items, name b ≠ name r → key b = some k → le b a) ∧
              (key r = some k → le r a) := by
    rw [List.mem_filter, Bool.not_eq_true', superseded_eq_false_iff hnd' hanti ha,
      and_iff_right ha]
    refine forall_congr' fun k => forall_congr' fun _ => forall_congr' fun _ => ?_
    constructor
    · exact fun h => ⟨fun b hb hne hkey => h b ((Keyed.mem_upsertBy hnd).2 (.inr ⟨hb, hne⟩)) hkey,
        fun hkey => h r hr hkey⟩
    · rintro ⟨hothers, hself⟩ b hb hkey
      obtain rfl | ⟨hb, hne⟩ := (Keyed.mem_upsertBy hnd).1 hb
      · exact hself hkey
      · exact hothers b hb hne hkey
  have hself : le r r := (Std.Total.total r r).elim id id
  rw [hmem r hr]
  constructor
  · rintro ⟨hothers, hstored⟩
    refine ⟨fun k hkey hlook => (hstored k hkey hlook).1, fun a ha hnot => ?_⟩
    have hne : name a ≠ name r := fun h => hnot (hown a ha h)
    exact (hmem a ((Keyed.mem_upsertBy hnd).2 (.inr ⟨ha, hne⟩))).1 (hothers a ha hnot)
  · rintro ⟨hstored, hothers⟩
    refine ⟨fun a ha hnot => ?_, fun k hkey hlook => ⟨hstored k hkey hlook, fun _ => hself⟩⟩
    have hne : name a ≠ name r := fun h => hnot (hown a ha h)
    exact (hmem a ((Keyed.mem_upsertBy hnd).2 (.inr ⟨ha, hne⟩))).2 (hothers a ha hnot)

end Superseded

end Latest
