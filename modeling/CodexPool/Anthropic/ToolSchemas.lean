import CodexPool.Lib.JsonPaths

/-!
# Schemas of tools

A schema of an object without properties is given none of them, everywhere in a schema. A second
pass finds nothing to do, and what is no schema stays as it is.
-/

namespace CodexPool

open Json

/-- What is found under a key of a schema. -/
inductive SchemaKey where
  | properties
  | schema
  | schemas
  | other
deriving DecidableEq

def schemaKey (key : String) : SchemaKey :=
  if key = "properties" then .properties
  else if key = "items" ∨ key = "additionalProperties" ∨ key = "not" then .schema
  else if key = "allOf" ∨ key = "anyOf" ∨ key = "oneOf" ∨ key = "prefixItems" then .schemas
  else .other

/-- The type of the schema asks for properties, and they are no object. -/
def lacksProperties (fields : List (String × Json)) : Bool :=
  (lookupField "type" fields).bind Json.asStr = some "object" &&
    !(lookupField "properties" fields).any Json.isObject

def withProperties (fields : List (String × Json)) : List (String × Json) :=
  if lacksProperties fields then insertField "properties" (.obj []) fields else fields

mutual

def sanitizeOpenaiToolSchema : Json → Json
  | .obj fields => .obj (withProperties (sanitizeSchemaFields fields))
  | .arr items => .arr (sanitizeSchemas items)
  | value => value

def sanitizeSchemas : List Json → List Json
  | [] => []
  | schema :: schemas => sanitizeOpenaiToolSchema schema :: sanitizeSchemas schemas

def sanitizeProperties : List (String × Json) → List (String × Json)
  | [] => []
  | (name, schema) :: properties =>
    (name, sanitizeOpenaiToolSchema schema) :: sanitizeProperties properties

def sanitizeSchemaFields : List (String × Json) → List (String × Json)
  | [] => []
  | (key, value) :: fields =>
    (key,
      match schemaKey key with
      | .properties =>
        match value with
        | .obj properties => .obj (sanitizeProperties properties)
        | _ => .obj []
      | .schema => sanitizeOpenaiToolSchema value
      | .schemas =>
        match value with
        | .arr entries => .arr (sanitizeSchemas entries)
        | value => value
      | .other => value) :: sanitizeSchemaFields fields

end

/-! ## Positions -/

/-- What a path from a schema leads to. -/
inductive SchemaPosition where
  | schema
  | properties
  | schemas
  | other
  | none
deriving DecidableEq

def SchemaKey.position : SchemaKey → SchemaPosition
  | properties => .properties
  | schema => .schema
  | schemas => .schemas
  | other => .other

/-- What is found one step on; nothing is kept of properties that are no object. -/
def SchemaPosition.step : SchemaPosition → PathStep → SchemaPosition
  | .schema, .key key => (schemaKey key).position
  | .schema, .index _ => .schema
  | .properties, .key _ => .schema
  | .properties, .index _ => .none
  | .schemas, .index _ => .schema
  | .schemas, .key _ => .other
  | .other, _ => .other
  | .none, _ => .none

def schemaPosition (path : List PathStep) : SchemaPosition :=
  path.foldl SchemaPosition.step .schema

/-- What becomes of a value at a position. -/
def SchemaPosition.sanitize : SchemaPosition → Json → Json
  | .schema, value => sanitizeOpenaiToolSchema value
  | .properties, .obj fields => .obj (sanitizeProperties fields)
  | .properties, _ => .obj []
  | .schemas, .arr entries => .arr (sanitizeSchemas entries)
  | .schemas, value => value
  | .other, value => value
  | .none, value => value

/-! ## One pass -/

theorem sanitizeSchemas_eq_map (schemas : List Json) :
    sanitizeSchemas schemas = schemas.map sanitizeOpenaiToolSchema := by
  induction schemas with
  | nil => rfl
  | cons schema schemas ih => rw [sanitizeSchemas, List.map_cons, ih]

theorem sanitizeProperties_eq_map (properties : List (String × Json)) :
    sanitizeProperties properties = mapFields (fun _ => sanitizeOpenaiToolSchema) properties := by
  induction properties with
  | nil => rfl
  | cons property properties ih =>
      rw [sanitizeProperties, ih]
      rfl

def sanitizeMember (key : String) : Json → Json := (schemaKey key).position.sanitize

theorem sanitizeSchemaFields_cons (key : String) (value : Json)
    (fields : List (String × Json)) :
    sanitizeSchemaFields ((key, value) :: fields) =
      (key, sanitizeMember key value) :: sanitizeSchemaFields fields := by
  conv_lhs => unfold sanitizeSchemaFields
  unfold sanitizeMember
  cases schemaKey key with
  | _ => cases value <;> rfl

theorem sanitizeSchemaFields_eq_map (fields : List (String × Json)) :
    sanitizeSchemaFields fields = mapFields sanitizeMember fields := by
  induction fields with
  | nil => rfl
  | cons field fields ih =>
      rcases field with ⟨key, value⟩
      rw [sanitizeSchemaFields_cons, ih]
      rfl

theorem isObject_sanitizeMember (value : Json) :
    (sanitizeMember "properties" value).isObject = true := by
  cases value with
  | _ => rfl

theorem lookupField_withProperties_of_ne {key : String} (h : key ≠ "properties")
    (fields : List (String × Json)) :
    lookupField key (withProperties fields) = lookupField key fields := by
  unfold withProperties
  split_ifs
  · rw [lookupField_insertField, if_neg h]
  · rfl

theorem lacksProperties_withProperties (fields : List (String × Json)) :
    lacksProperties (withProperties fields) = false := by
  by_cases hlacks : lacksProperties fields = true
  · rw [withProperties, if_pos hlacks, lacksProperties, lookupField_insertField,
      lookupField_insertField, if_pos rfl]
    simp [isObject]
  · rw [withProperties, if_neg hlacks]
    exact Bool.eq_false_iff.2 hlacks

theorem lookupField_withProperties {fields : List (String × Json)} {key : String} {value : Json}
    (h : lookupField key (mapFields sanitizeMember fields) = some value) :
    lookupField key (withProperties (mapFields sanitizeMember fields)) = some value := by
  by_cases hkey : key = "properties"
  · subst hkey
    rw [lookupField_mapFields] at h
    rcases Option.map_eq_some_iff.1 h with ⟨before, hbefore, rfl⟩
    have hlacks : lacksProperties (mapFields sanitizeMember fields) = false := by
      rw [lacksProperties, lookupField_mapFields, lookupField_mapFields, hbefore]
      simp [isObject_sanitizeMember]
    rw [withProperties, hlacks, if_neg Bool.false_ne_true, lookupField_mapFields, hbefore]
    rfl
  · rw [lookupField_withProperties_of_ne hkey, h]

theorem child_sanitize {position : SchemaPosition} {step : PathStep} {v w : Json}
    (h : v.child step = some w) (hposition : position.step step ≠ .none) :
    (position.sanitize v).child step = some ((position.step step).sanitize w) := by
  cases v with
  | obj fields =>
      cases step with
      | index i => cases h
      | key k =>
          change lookupField k fields = some w at h
          cases position with
          | schema =>
              have hmember : lookupField k (mapFields sanitizeMember fields) =
                  some (sanitizeMember k w) := by
                rw [lookupField_mapFields, h]
                rfl
              change lookupField k (withProperties (sanitizeSchemaFields fields)) = _
              rw [sanitizeSchemaFields_eq_map, lookupField_withProperties hmember]
              rfl
          | properties =>
              change lookupField k (sanitizeProperties fields) = _
              rw [sanitizeProperties_eq_map, lookupField_mapFields, h]
              rfl
          | schemas => exact h
          | other => exact h
          | none => exact absurd rfl hposition
  | arr items =>
      cases step with
      | key k => cases h
      | index i =>
          change items[i]? = some w at h
          cases position with
          | schema =>
              change (sanitizeSchemas items)[i]? = _
              rw [sanitizeSchemas_eq_map, List.getElem?_map, h]
              rfl
          | schemas =>
              change (sanitizeSchemas items)[i]? = _
              rw [sanitizeSchemas_eq_map, List.getElem?_map, h]
              rfl
          | properties => exact absurd rfl hposition
          | other => exact h
          | none => exact absurd rfl hposition
  | _ => cases step <;> cases h

theorem foldl_step_none (path : List PathStep) :
    path.foldl SchemaPosition.step .none = .none := by
  induction path with
  | nil => rfl
  | cons step path ih => exact ih

/-- Every part stays where it is, and becomes what its position makes of it. -/
theorem part_sanitize (position : SchemaPosition) {path : List PathStep} {v w : Json}
    (h : v.part path = some w) (hposition : path.foldl SchemaPosition.step position ≠ .none) :
    (position.sanitize v).part path =
      some ((path.foldl SchemaPosition.step position).sanitize w) := by
  induction path generalizing position v with
  | nil =>
      cases h
      rfl
  | cons step path ih =>
      rcases Option.bind_eq_some_iff.1 h with ⟨next, hnext, hrest⟩
      rw [List.foldl_cons] at hposition ⊢
      have hstep : position.step step ≠ .none := by
        intro hnone
        rw [hnone] at hposition
        exact hposition (foldl_step_none path)
      rw [part, child_sanitize hnext hstep]
      exact ih _ hrest hposition

/-! ## Two passes -/

theorem sanitizeSchemaFields_withProperties {fields : List (String × Json)}
    (h : sanitizeSchemaFields fields = fields) :
    sanitizeSchemaFields (withProperties fields) = withProperties fields := by
  unfold withProperties
  split_ifs
  · rw [sanitizeSchemaFields_eq_map, mapFields_insertField, ← sanitizeSchemaFields_eq_map, h]
    rfl
  · exact h

mutual

theorem sanitizeOpenaiToolSchema_idem : ∀ schema,
    sanitizeOpenaiToolSchema (sanitizeOpenaiToolSchema schema) = sanitizeOpenaiToolSchema schema
  | .null | .bool _ | .num _ | .str _ => rfl
  | .arr items => by
      rw [sanitizeOpenaiToolSchema, sanitizeOpenaiToolSchema, sanitizeSchemas_idem items]
  | .obj fields => by
      rw [sanitizeOpenaiToolSchema, sanitizeOpenaiToolSchema,
        sanitizeSchemaFields_withProperties (sanitizeSchemaFields_idem fields)]
      congr 1
      rw [withProperties, lacksProperties_withProperties, if_neg Bool.false_ne_true]

theorem sanitizeSchemas_idem : ∀ schemas,
    sanitizeSchemas (sanitizeSchemas schemas) = sanitizeSchemas schemas
  | [] => rfl
  | schema :: schemas => by
      rw [sanitizeSchemas, sanitizeSchemas, sanitizeOpenaiToolSchema_idem schema,
        sanitizeSchemas_idem schemas]

theorem sanitizeProperties_idem : ∀ properties,
    sanitizeProperties (sanitizeProperties properties) = sanitizeProperties properties
  | [] => rfl
  | (name, schema) :: properties => by
      rw [sanitizeProperties, sanitizeProperties, sanitizeOpenaiToolSchema_idem schema,
        sanitizeProperties_idem properties]

theorem sanitizeSchemaFields_idem : ∀ fields,
    sanitizeSchemaFields (sanitizeSchemaFields fields) = sanitizeSchemaFields fields
  | [] => rfl
  | (key, value) :: fields => by
      have hfields := sanitizeSchemaFields_idem fields
      have hschema := sanitizeOpenaiToolSchema_idem value
      rw [sanitizeSchemaFields_cons, sanitizeSchemaFields_cons, hfields]
      congr 2
      unfold sanitizeMember
      cases schemaKey key with
      | properties =>
          cases value with
          | obj properties =>
              exact congrArg Json.obj (sanitizeProperties_idem properties)
          | _ => rfl
      | schema => exact hschema
      | schemas =>
          cases value with
          | arr entries => exact congrArg Json.arr (sanitizeSchemas_idem entries)
          | _ => rfl
      | other => rfl

end

/-- What is written anew at a position. -/
def SchemaPosition.owns : SchemaPosition → Json → Bool
  | .schema, .obj _ | .schema, .arr _ => true
  | .schema, _ => false
  | .properties, _ => true
  | .schemas, .arr _ => true
  | .schemas, _ => false
  | .other, _ => false
  | .none, _ => true

theorem SchemaPosition.sanitize_of_not_owns {position : SchemaPosition} {value : Json}
    (h : position.owns value = false) : position.sanitize value = value := by
  cases position with
  | schema =>
      cases value with
      | obj fields => cases h
      | arr items => cases h
      | _ => rfl
  | schemas =>
      cases value with
      | arr entries => cases h
      | _ => rfl
  | other => rfl
  | properties => cases h
  | none => rfl

/-- A second pass changes nothing; the first one keeps every part outside of properties that are
no object, and changes what it owns only; and all schemas of objects have properties then. -/
theorem sanitizeOpenaiToolSchema_sanitizes (schema : Json) :
    sanitizeOpenaiToolSchema (sanitizeOpenaiToolSchema schema) = sanitizeOpenaiToolSchema schema ∧
    (∀ path value, schema.part path = some value → schemaPosition path ≠ .none →
      ∃ value', (sanitizeOpenaiToolSchema schema).part path = some value' ∧
        ((schemaPosition path).owns value = false → value' = value)) ∧
    ∀ path fields, (sanitizeOpenaiToolSchema schema).part path = some (.obj fields) →
      schemaPosition path = .schema →
      (lookupField "type" fields).bind Json.asStr = some "object" →
      ∃ properties, lookupField "properties" fields = some (.obj properties) := by
  refine ⟨sanitizeOpenaiToolSchema_idem schema, ?_, ?_⟩
  · intro path value hpart hposition
    exact ⟨_, part_sanitize .schema hpart hposition, SchemaPosition.sanitize_of_not_owns⟩
  · intro path fields hpart hposition htype
    have hagain := part_sanitize .schema hpart
      (by rw [← schemaPosition, hposition]; exact SchemaPosition.noConfusion)
    change (sanitizeOpenaiToolSchema (sanitizeOpenaiToolSchema schema)).part path = _ at hagain
    rw [sanitizeOpenaiToolSchema_idem, hpart, ← schemaPosition, hposition] at hagain
    have hfixed : fields = withProperties (sanitizeSchemaFields fields) :=
      Json.obj.inj (Option.some.inj hagain)
    have hlacks := lacksProperties_withProperties (sanitizeSchemaFields fields)
    rw [← hfixed, lacksProperties, htype] at hlacks
    cases hproperties : lookupField "properties" fields with
    | none => simp [hproperties] at hlacks
    | some value =>
        cases value with
        | obj properties => exact ⟨properties, rfl⟩
        | _ => simp [hproperties, isObject] at hlacks

end CodexPool
