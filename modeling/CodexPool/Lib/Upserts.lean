import CodexPool.Lib.Keyed
import Mathlib.Data.List.Sort

/-!
# Upserts

An `INSERT ... ON CONFLICT DO UPDATE` statement with numbered parameters, over the columns of a
table. A row gives every column a value. The database refuses a statement whose list of values
is not as long as its list of columns, and an execution that binds more or fewer values than
the statement has parameters. A statement that updates every column but the key replaces the
rows with the keys it is executed for.
-/

namespace Upserts

open Keyed

variable {C V : Type*} [DecidableEq C] [DecidableEq V]

structure Insert (C : Type*) where
  columns : List C
  /-- The numbers of the parameters in the list of values. -/
  placeholders : List Nat
  conflict : C
  updates : List C

namespace Insert

variable (stmt : Insert C) (null : V)

/-- The row of an execution with the values, `none` for an error. -/
def newRow (binds : List V) : Option (C → V) :=
  if stmt.placeholders.length = stmt.columns.length ∧
      binds.length = stmt.placeholders.foldr max 0 then
    some fun c =>
      (((stmt.columns.zip stmt.placeholders).lookup c).bind fun n => binds[n - 1]?).getD null
  else none

/-- Adds a row, or updates the row with its key. -/
def upsert (row : C → V) : List (C → V) → List (C → V)
  | [] => [row]
  | old :: rows =>
    if old stmt.conflict = row stmt.conflict then
      (fun c => if c ∈ stmt.updates then row c else old c) :: rows
    else old :: upsert row rows

def execute (binds : List V) (rows : List (C → V)) : Option (List (C → V)) :=
  (stmt.newRow null binds).map fun row => stmt.upsert row rows

/-- Executes the statement for each of the items; an error is the item it fails for. -/
def executeAll {α : Type*} (binds : α → List V) (items : List α) (rows : List (C → V)) :
    Except α (List (C → V)) :=
  items.foldlM (fun rows item =>
    match stmt.execute null (binds item) rows with
    | some rows => .ok rows
    | none => .error item) rows

/-- Every column but the key is updated. -/
def UpdatesAll : Prop := ∀ c, c ∈ stmt.updates ∨ c = stmt.conflict

variable {stmt} {null}

theorem upsert_eq_upsertBy (hall : stmt.UpdatesAll) (row : C → V) (rows : List (C → V)) :
    stmt.upsert row rows = upsertBy (fun r : C → V => r stmt.conflict) row rows := by
  induction rows with
  | nil => rfl
  | cons old rows ih =>
      simp only [upsert, upsertBy, ih]
      by_cases hkey : old stmt.conflict = row stmt.conflict
      · have hrow : (fun c => if c ∈ stmt.updates then row c else old c) = row := by
          funext c
          rcases hall c with hc | rfl
          · rw [if_pos hc]
          · rw [hkey, ite_self]
        rw [if_pos hkey, if_pos hkey, hrow]
      · rw [if_neg hkey, if_neg hkey]

omit [DecidableEq V] in
theorem newRow_eq_none {binds : List V}
    (h : stmt.placeholders.length ≠ stmt.columns.length) : stmt.newRow null binds = none :=
  if_neg fun hfit => h hfit.1

theorem executeAll_cons_eq_error {α : Type*} {binds : α → List V} {item : α} (items : List α)
    {rows : List (C → V)} (h : stmt.newRow null (binds item) = none) :
    stmt.executeAll null binds (item :: items) rows = .error item := by
  simp only [executeAll, List.foldlM_cons, execute, h, Option.map_none]
  rfl

theorem executeAll_eq_foldl {α : Type*} {binds : α → List V} {rowOf : α → C → V}
    (hall : stmt.UpdatesAll) (h : ∀ item, stmt.newRow null (binds item) = some (rowOf item))
    (items : List α) (rows : List (C → V)) :
    stmt.executeAll null binds items rows =
      .ok (items.foldl (fun rows item =>
        upsertBy (fun r : C → V => r stmt.conflict) (rowOf item) rows) rows) := by
  induction items generalizing rows with
  | nil => rfl
  | cons item items ih =>
      have hitem : stmt.execute null (binds item) rows =
          some (upsertBy (fun r : C → V => r stmt.conflict) (rowOf item) rows) := by
        rw [execute, h, Option.map_some, upsert_eq_upsertBy hall]
      rw [executeAll, List.foldlM_cons, hitem]
      exact ih _

end Insert

/-! ## Upserts of distinct keys -/

variable {α κ ρ : Type*} [DecidableEq κ] {key : ρ → κ} {rowOf : α → ρ}

theorem nodup_foldl_upsertBy (rowOf : α → ρ) (items : List α) {rows : List ρ}
    (hrows : (rows.map key).Nodup) :
    ((items.foldl (fun rows item => upsertBy key (rowOf item) rows) rows).map key).Nodup := by
  induction items generalizing rows with
  | nil => exact hrows
  | cons item items ih => exact ih (nodup_upsertBy hrows _)

/-- After the upserts of items with distinct keys there are their rows, and the rows with other
keys. -/
theorem mem_foldl_upsertBy {items : List α} {rows : List ρ} (hrows : (rows.map key).Nodup)
    (hitems : (items.map fun item => key (rowOf item)).Nodup) {row : ρ} :
    row ∈ items.foldl (fun rows item => upsertBy key (rowOf item) rows) rows ↔
      (∃ item ∈ items, rowOf item = row) ∨
        row ∈ rows ∧ ∀ item ∈ items, key (rowOf item) ≠ key row := by
  induction items generalizing rows with
  | nil => simp
  | cons item items ih =>
      rw [List.map_cons, List.nodup_cons] at hitems
      have hothers : ∀ other ∈ items, key (rowOf other) ≠ key (rowOf item) := fun other hother h =>
        hitems.1 (h ▸ List.mem_map_of_mem (f := fun item => key (rowOf item)) hother)
      rw [List.foldl_cons, ih (nodup_upsertBy hrows _) hitems.2, mem_upsertBy hrows]
      simp only [List.mem_cons, exists_eq_or_imp, forall_eq_or_imp]
      constructor
      · rintro (hitem | ⟨rfl | ⟨hrow, hne⟩, hrest⟩)
        · exact .inl (.inr hitem)
        · exact .inl (.inl rfl)
        · exact .inr ⟨hrow, Ne.symm hne, hrest⟩
      · rintro ((rfl | hitem) | ⟨hrow, hne, hrest⟩)
        · exact .inr ⟨.inl rfl, hothers⟩
        · exact .inl hitem
        · exact .inr ⟨.inr ⟨hrow, Ne.symm hne⟩, hrest⟩

theorem perm_filter_foldl_upsertBy {items : List α} {rows : List ρ}
    (hrows : (rows.map key).Nodup)
    (hitems : (items.map fun item => key (rowOf item)).Nodup) {p : ρ → Bool}
    (hp : ∀ row ∈ rows, p row = true ↔ ∃ item ∈ items, key (rowOf item) = key row)
    (hnew : ∀ item ∈ items, p (rowOf item) = true) :
    ((items.foldl (fun rows item => upsertBy key (rowOf item) rows) rows).filter p).Perm
      (items.map rowOf) := by
  have hnodup := nodup_foldl_upsertBy rowOf items hrows
  refine (List.perm_ext_iff_of_nodup (.filter _ (.of_map _ hnodup))
    (.of_map key (by simpa [Function.comp_def] using hitems))).2 fun row => ?_
  rw [List.mem_filter, mem_foldl_upsertBy hrows hitems, List.mem_map]
  constructor
  · rintro ⟨hitem | ⟨hrow, hne⟩, hkept⟩
    · exact hitem
    · obtain ⟨item, hitem, hkey⟩ := (hp row hrow).1 hkept
      exact absurd hkey (hne item hitem)
  · rintro ⟨item, hitem, rfl⟩
    exact ⟨.inl ⟨item, hitem, rfl⟩, hnew item hitem⟩

/-! ## Rows in order -/

omit [DecidableEq κ] in
theorem insertionSort_eq_of_perm (le : κ → κ → Prop) [DecidableRel le] [Std.Total le]
    [IsTrans κ le] [Std.Antisymm le] {rows rows' : List ρ} (h : rows.Perm rows')
    (hrows : (rows.map key).Nodup) :
    rows.insertionSort (fun a b => le (key a) (key b)) =
      rows'.insertionSort fun a b => le (key a) (key b) := by
  have : Std.Total fun a b : ρ => le (key a) (key b) := ⟨fun a b => total_of le (key a) (key b)⟩
  have : IsTrans ρ fun a b => le (key a) (key b) := ⟨fun _ _ _ => trans_of le⟩
  have hsorted := (((List.perm_insertionSort (fun a b => le (key a) (key b)) rows).trans h).trans
    (List.perm_insertionSort (fun a b => le (key a) (key b)) rows').symm)
  refine hsorted.eq_of_pairwise ?_ (List.pairwise_insertionSort _ _)
    (List.pairwise_insertionSort _ _)
  intro a b ha hb hab hba
  have ha' : a ∈ rows := (List.mem_insertionSort _).1 ha
  have hb' : b ∈ rows := h.mem_iff.2 ((List.mem_insertionSort _).1 hb)
  exact List.inj_on_of_nodup_map hrows ha' hb' (antisymm_of le hab hba)

end Upserts
