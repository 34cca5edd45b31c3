import CodexPool.Lib.JsonMerge

/-!
# JSON values up to their numbers

A floating-point number need not come back from its text to the last bit. Two values that differ
in their numbers only have the same fields, texts and lists.
-/

namespace Json

mutual

/-- The value with all its numbers left out. -/
def eraseNumbers : Json → Json
  | .null => .null
  | .bool b => .bool b
  | .num _ => .num (.int 0)
  | .str s => .str s
  | .arr items => .arr (eraseItems items)
  | .obj fields => .obj (eraseFields fields)

def eraseItems : List Json → List Json
  | [] => []
  | item :: items => eraseNumbers item :: eraseItems items

def eraseFields : List (String × Json) → List (String × Json)
  | [] => []
  | (k, v) :: fields => (k, eraseNumbers v) :: eraseFields fields

end

theorem lookupField_eraseFields (k : String) (fields : List (String × Json)) :
    lookupField k (eraseFields fields) = (lookupField k fields).map eraseNumbers := by
  induction fields with
  | nil => rfl
  | cons field fields ih =>
      rw [eraseFields, lookupField, lookupField]
      split
      · rfl
      · exact ih

theorem get_eraseNumbers (v : Json) (k : String) :
    v.eraseNumbers.get k = (v.get k).map eraseNumbers := by
  cases v with
  | obj fields => exact lookupField_eraseFields k fields
  | _ => rfl

theorem asStr_eraseNumbers (v : Json) : v.eraseNumbers.asStr = v.asStr := by
  cases v with
  | _ => rfl

theorem asBool_eraseNumbers (v : Json) : v.eraseNumbers.asBool = v.asBool := by
  cases v with
  | _ => rfl

theorem isArray_eraseNumbers (v : Json) :
    v.eraseNumbers.asArray.isSome = v.asArray.isSome := by
  cases v with
  | _ => rfl

theorem getStr_eraseNumbers (v : Json) (k : String) :
    v.eraseNumbers.getStr k = v.getStr k := by
  rw [getStr, getStr, get_eraseNumbers]
  cases v.get k with
  | none => rfl
  | some x => exact asStr_eraseNumbers x

/-! ## Removing fields -/

theorem lookupField_removeField_of_ne {k k' : String} (h : k' ≠ k)
    (fields : List (String × Json)) :
    lookupField k' (removeField k fields) = lookupField k' fields := by
  induction fields with
  | nil => rfl
  | cons field fields ih =>
      rw [removeField]
      split
      next heq => rw [lookupField, if_neg fun hk => h (hk.trans heq.symm)]
      next => rw [lookupField, lookupField, ih]

theorem lookupField_removeField_self {k : String} {fields : List (String × Json)}
    (h : SortedKeys fields) : lookupField k (removeField k fields) = none := by
  induction fields with
  | nil => rfl
  | cons field fields ih =>
      rw [SortedKeys, List.map_cons, List.pairwise_cons] at h
      rw [removeField]
      split
      next heq =>
        apply lookupField_eq_none
        intro hmem
        exact String.lt_irrefl k (heq ▸ h.1 k hmem)
      next hne =>
        rw [lookupField, if_neg hne]
        exact ih h.2

theorem removeField_of_lookupField {k : String} {fields : List (String × Json)}
    (h : lookupField k fields = none) : removeField k fields = fields := by
  induction fields with
  | nil => rfl
  | cons field fields ih =>
      rw [lookupField] at h
      rw [removeField]
      split
      next heq =>
        rw [if_pos heq] at h
        cases h
      next hne =>
        rw [if_neg hne] at h
        rw [ih h]

theorem removeField_sublist (k : String) (fields : List (String × Json)) :
    (removeField k fields).Sublist fields := by
  induction fields with
  | nil => exact .slnil
  | cons field fields ih =>
      rw [removeField]
      split
      · exact List.sublist_cons_self field fields
      · exact ih.cons_cons field

/-- An object whose fields are sorted by their names, as a parser builds it. -/
def Sorted : Json → Prop
  | .obj fields => SortedKeys fields
  | _ => True

theorem Sorted.insert {v : Json} (h : v.Sorted) (k : String) (x : Json) :
    (v.insert k x).Sorted := by
  cases v with
  | obj fields => exact SortedKeys.insertField h
  | _ => trivial

theorem Sorted.remove {v : Json} (h : v.Sorted) (k : String) : (v.remove k).Sorted := by
  cases v with
  | obj fields => exact List.Pairwise.sublist ((removeField_sublist k fields).map _) h
  | _ => trivial

theorem get_remove_self {v : Json} (h : v.Sorted) (k : String) : (v.remove k).get k = none := by
  cases v with
  | obj fields => exact lookupField_removeField_self h
  | _ => rfl

theorem remove_of_get {v : Json} {k : String} (h : v.get k = none) : v.remove k = v := by
  cases v with
  | obj fields => exact congrArg obj (removeField_of_lookupField h)
  | _ => rfl

theorem get_remove_of_ne (v : Json) {k k' : String} (h : k' ≠ k) :
    (v.remove k).get k' = v.get k' := by
  cases v with
  | obj fields => exact lookupField_removeField_of_ne h fields
  | _ => rfl

theorem isObject_of_getStr {v : Json} {k text : String} (h : v.getStr k = some text) :
    v.isObject = true := by
  cases v with
  | obj fields => rfl
  | _ => cases h

@[simp] theorem isObject_remove (v : Json) (k : String) : (v.remove k).isObject = v.isObject := by
  cases v with
  | _ => rfl

end Json
