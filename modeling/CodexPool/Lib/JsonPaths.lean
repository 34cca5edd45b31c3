import CodexPool.Lib.Json
import CodexPool.Lib.Text

/-!
# Paths into JSON values

A path leads from a value to a part of it, by the keys of objects and the indices of arrays.
-/

namespace Json

inductive PathStep where
  | key (k : String)
  | index (i : Nat)
deriving DecidableEq, Repr

def child : Json → PathStep → Option Json
  | .obj fields, .key k => lookupField k fields
  | .arr items, .index i => items[i]?
  | _, _ => none

/-- The part of the value to which the path leads, if there is one. -/
def part : Json → List PathStep → Option Json
  | v, [] => some v
  | v, s :: path => (v.child s).bind fun w => w.part path

/-- Changes the values of fields, each by its key. -/
def mapFields (f : String → Json → Json) (fields : List (String × Json)) : List (String × Json) :=
  fields.map fun field => (field.1, f field.1 field.2)

variable {f : String → Json → Json}

theorem lookupField_mapFields (k : String) (fields : List (String × Json)) :
    lookupField k (mapFields f fields) = (lookupField k fields).map (f k) := by
  induction fields with
  | nil => rfl
  | cons field fields ih =>
      rw [mapFields, List.map_cons, lookupField, lookupField]
      split_ifs with hk
      · rw [hk]
        rfl
      · exact ih

theorem mapFields_insertField (k : String) (v : Json) (fields : List (String × Json)) :
    mapFields f (insertField k v fields) = insertField k (f k v) (mapFields f fields) := by
  induction fields with
  | nil => rfl
  | cons field fields ih =>
      simp only [insertField, mapFields, List.map_cons]
      split_ifs
      · rfl
      · rfl
      · exact congrArg (List.cons _) ih

/-! ## Texts under keys -/

/-- The path of keys leads to a string which is not blank; trimmed, it is the text. -/
def HoldsText (v : Json) (path : List String) (text : String) : Prop :=
  ∃ raw, v.part (path.map .key) = some (.str raw) ∧ Text.trim raw = text ∧ text ≠ ""

/-- One of the paths leads to a string which is not blank. -/
def HasText (v : Json) (paths : List (List String)) : Prop :=
  ∃ path ∈ paths, ∃ text, v.HoldsText path text

theorem child_key (v : Json) (k : String) : v.child (.key k) = v.get k := by
  cases v <;> rfl

theorem part_keys (v : Json) (path : List String) :
    v.part (path.map .key) = path.foldlM get v := by
  induction path generalizing v with
  | nil => rfl
  | cons k path ih =>
      rw [List.map_cons, part, child_key, List.foldlM_cons]
      cases v.get k with
      | none => rfl
      | some w => exact ih w

theorem asStr_eq_some_iff {v : Json} {s : String} : v.asStr = some s ↔ v = .str s := by
  cases v <;> simp [asStr]

end Json
