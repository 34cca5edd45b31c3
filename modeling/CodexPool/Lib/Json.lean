import Mathlib.Algebra.Group.Int.Defs
import Mathlib.Algebra.Group.Nat.Defs
import Mathlib.Data.List.Basic
import Mathlib.Data.Option.Basic

/-!
# JSON values

An object is a list of fields. `insertField` keeps the list sorted by key, so
that two objects with the same fields, built by insertions in any order, are
the same value; the reading lemmas hold for every list of fields.
-/

/-- A number is an integer or the bit pattern of a floating-point number. -/
inductive JsonNumber where
  | int (n : Int)
  | float (bits : Nat)
deriving DecidableEq, Repr

inductive Json where
  | null
  | bool (b : Bool)
  | num (n : JsonNumber)
  | str (s : String)
  | arr (items : List Json)
  | obj (fields : List (String × Json))
deriving Repr

namespace Json

def lookupField (k : String) : List (String × Json) → Option Json
  | [] => none
  | (k', v) :: fs => if k = k' then some v else lookupField k fs

def insertField (k : String) (v : Json) :
    List (String × Json) → List (String × Json)
  | [] => [(k, v)]
  | (k', v') :: fs =>
      if k = k' then (k, v) :: fs
      else if k < k' then (k, v) :: (k', v') :: fs
      else (k', v') :: insertField k v fs

def removeField (k : String) : List (String × Json) → List (String × Json)
  | [] => []
  | (k', v') :: fs => if k = k' then fs else (k', v') :: removeField k fs

/-- The field `k` of an object; any other value has no fields. -/
def get (v : Json) (k : String) : Option Json :=
  match v with
  | .obj fs => lookupField k fs
  | _ => none

/-- Sets the field `k` of an object and leaves any other value as it is. -/
def insert (v : Json) (k : String) (x : Json) : Json :=
  match v with
  | .obj fs => .obj (insertField k x fs)
  | v => v

def remove (v : Json) (k : String) : Json :=
  match v with
  | .obj fs => .obj (removeField k fs)
  | v => v

/-- Sets the field `k` of an object that does not have it. -/
def insertNew (v : Json) (k : String) (x : Json) : Json :=
  if (v.get k).isSome then v else v.insert k x

def isObject : Json → Bool
  | .obj _ => true
  | _ => false

def asStr : Json → Option String
  | .str s => some s
  | _ => none

def asBool : Json → Option Bool
  | .bool b => some b
  | _ => none

def asArray : Json → Option (List Json)
  | .arr items => some items
  | _ => none

/-- The number, when it is an integer of 64 bits without sign. -/
def asU64 : Json → Option Nat
  | .num (.int n) => if 0 ≤ n ∧ n < 2 ^ 64 then some n.toNat else none
  | _ => none

/-- The number, when it is an integer of 64 bits with sign. -/
def asI64 : Json → Option Int
  | .num (.int n) => if -2 ^ 63 ≤ n ∧ n < 2 ^ 63 then some n else none
  | _ => none

/-- The text of the field `k`, when it is a string. -/
def getStr (v : Json) (k : String) : Option String := (v.get k).bind asStr

def ofFields (fs : List (String × Json)) : Json :=
  .obj (fs.foldl (fun acc f => insertField f.1 f.2 acc) [])

/-- An optional value, `null` when it is absent. -/
def ofOption {α : Type*} (f : α → Json) : Option α → Json
  | none => .null
  | some a => f a

def int (n : Int) : Json := .num (.int n)

/-- The fields of the first object, overwritten by those of the second. -/
def merge (v w : Json) : Json :=
  match v, w with
  | .obj fs, .obj gs => .obj (gs.foldl (fun acc f => insertField f.1 f.2 acc) fs)
  | v, _ => v

theorem lookupField_insertField (k k' : String) (v : Json)
    (fs : List (String × Json)) :
    lookupField k' (insertField k v fs) =
      if k' = k then some v else lookupField k' fs := by
  induction fs with
  | nil => simp [insertField, lookupField]
  | cons f fs ih =>
      obtain ⟨j, w⟩ := f
      unfold insertField
      by_cases hkj : k = j
      · subst hkj
        by_cases hk : k' = k <;> simp [lookupField, hk]
      · by_cases hlt : k < j
        · by_cases hk : k' = k <;> simp [lookupField, hkj, hlt, hk]
        · by_cases hj : k' = j
          · have hjk : j ≠ k := fun h => hkj h.symm
            simp [lookupField, hkj, hlt, hj, hjk]
          · simp [lookupField, hkj, hlt, hj, ih]

theorem get_insert (fs : List (String × Json)) (k k' : String) (x : Json) :
    ((obj fs).insert k x).get k' = if k' = k then some x else (obj fs).get k' :=
  lookupField_insertField k k' x fs

theorem get_insert_self {v : Json} (hv : v.isObject = true) (k : String) (x : Json) :
    (v.insert k x).get k = some x := by
  cases v with
  | obj fs => rw [get_insert, if_pos rfl]
  | _ => cases hv

theorem get_insert_of_ne (v : Json) {k k' : String} (h : k' ≠ k) (x : Json) :
    (v.insert k x).get k' = v.get k' := by
  cases v with
  | obj fs => rw [get_insert, if_neg h]
  | _ => rfl

@[simp] theorem isObject_insert (v : Json) (k : String) (x : Json) :
    (v.insert k x).isObject = v.isObject := by
  cases v <;> rfl

theorem get_insertNew_of_ne (v : Json) {k k' : String} (h : k' ≠ k) (x : Json) :
    (v.insertNew k x).get k' = v.get k' := by
  unfold insertNew
  split
  · rfl
  · exact get_insert_of_ne v h x

theorem lookupField_append (k : String) (fs gs : List (String × Json)) :
    lookupField k (fs ++ gs) = (lookupField k fs).or (lookupField k gs) := by
  induction fs with
  | nil => simp [lookupField]
  | cons f fs ih =>
      by_cases h : k = f.1 <;> simp [lookupField, h, ih]

theorem lookupField_foldl_insertField (k : String) (fs acc : List (String × Json)) :
    lookupField k (fs.foldl (fun acc f => insertField f.1 f.2 acc) acc) =
      (lookupField k fs.reverse).or (lookupField k acc) := by
  induction fs generalizing acc with
  | nil => simp [lookupField]
  | cons f fs ih =>
      rw [List.foldl_cons, ih, lookupField_insertField, List.reverse_cons,
        lookupField_append, Option.or_assoc]
      by_cases h : k = f.1 <;> simp [lookupField, h]

theorem get_ofFields (k : String) (fs : List (String × Json)) :
    (ofFields fs).get k = lookupField k fs.reverse := by
  change lookupField k (fs.foldl (fun acc f => insertField f.1 f.2 acc) []) = _
  rw [lookupField_foldl_insertField]
  simp [lookupField]

theorem asU64_int {n : Nat} (h : n < 2 ^ 64) : (int n).asU64 = some n := by
  have hrange : (0 : Int) ≤ n ∧ (n : Int) < 2 ^ 64 := by omega
  simp only [int, asU64, if_pos hrange, Int.toNat_natCast]

theorem getStr_ofFields_append {k : String} {fs gs : List (String × Json)}
    (h : ∀ g ∈ gs, g.1 ≠ k) :
    (ofFields (fs ++ gs)).getStr k = (ofFields fs).getStr k := by
  have hnone : lookupField k gs.reverse = none := by
    induction gs with
    | nil => rfl
    | cons g gs ih =>
        have hg : k ≠ g.1 := fun hk => h g List.mem_cons_self hk.symm
        rw [List.reverse_cons, lookupField_append,
          ih fun g' hg' => h g' (List.mem_cons_of_mem _ hg')]
        simp [lookupField, hg]
  rw [getStr, getStr, get_ofFields, get_ofFields, List.reverse_append,
    lookupField_append, hnone, Option.none_or]

end Json
