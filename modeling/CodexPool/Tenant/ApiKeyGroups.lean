import CodexPool.Lib.Keyed
import CodexPool.Lib.Machine
import CodexPool.Lib.Text
import CodexPool.Tenant.Pricing

/-!
# Changing API-key groups

An administrator changes a group in a transaction, which first takes the mark of the default group
from all others if the changed group is to have it, and deletes a group in a single statement after
a check. Calls overlap: the statements of several calls come in any order, and each call may fail
before any of its statements. A statement waits for the rows that another transaction has written,
and a unique index admits one default group that is not deleted.
-/

namespace CodexPool

open Saturating

/-- A row of `api_key_groups` as the administration reads it. -/
structure ApiKeyGroupAdminRecord extends ApiKeyGroupRecord where
  name : String
  description : Option String
  isDefault : Bool
  createdAt : DateTime
  updatedAt : DateTime

/-- The condition of the unique index. -/
def ApiKeyGroupAdminRecord.isLiveDefault (group : ApiKeyGroupAdminRecord) : Bool :=
  group.isDefault && group.deletedAt.isNone

structure ApiKeyGroupUpsertRequest where
  id : Option Uuid
  name : String
  description : Option String
  isDefault : Bool
  enabled : Bool
  allowAllModels : Bool
  inputMultiplierPpm : I64
  cachedInputMultiplierPpm : I64
  outputMultiplierPpm : I64

/-- The values that the statements of an upsert bind. -/
structure GroupUpsert where
  id : Uuid
  name : String
  description : Option String
  isDefault : Bool
  enabled : Bool
  allowAllModels : Bool
  inputMultiplierPpm : I64
  cachedInputMultiplierPpm : I64
  outputMultiplierPpm : I64
  now : DateTime

def ensureMultiplierPpmValid (value : I64) : Result Unit :=
  if value.val < 0 then .error "multiplier ppm must be non-negative" else .ok ()

/-- What an upsert does before its transaction. -/
def ApiKeyGroupUpsertRequest.checked (req : ApiKeyGroupUpsertRequest) (now : DateTime)
    (freshId : Uuid) : Result GroupUpsert := do
  let name := Text.trim req.name
  if name = "" then throw "group name must not be empty"
  ensureMultiplierPpmValid req.inputMultiplierPpm
  ensureMultiplierPpmValid req.cachedInputMultiplierPpm
  ensureMultiplierPpmValid req.outputMultiplierPpm
  pure
    { id := req.id.getD freshId, name, description := Text.trimmed? req.description
      isDefault := req.isDefault, enabled := req.enabled, allowAllModels := req.allowAllModels
      inputMultiplierPpm := req.inputMultiplierPpm
      cachedInputMultiplierPpm := req.cachedInputMultiplierPpm
      outputMultiplierPpm := req.outputMultiplierPpm, now }

/-! ## Statements -/

abbrev GroupRows := List ApiKeyGroupAdminRecord

/-- `fetch_default_api_key_group_record`; `none` is its error. -/
def fetchDefaultApiKeyGroupRecord (rows : GroupRows) : Option ApiKeyGroupAdminRecord :=
  ((rows.filter (·.isLiveDefault)).mergeSort fun x y => y.updatedAt ≤ x.updatedAt).head?

/-- `UPDATE … SET is_default = false` of the given rows. -/
def clearDefaults (ids : List Uuid) (now : DateTime) (rows : GroupRows) : GroupRows :=
  rows.map fun group =>
    if group.id ∈ ids then { group with isDefault := false, updatedAt := now } else group

/-- The row that `INSERT … ON CONFLICT (id) DO UPDATE` leaves. -/
def GroupUpsert.record (u : GroupUpsert) (rows : GroupRows) : ApiKeyGroupAdminRecord where
  id := u.id
  enabled := u.enabled
  allowAllModels := u.allowAllModels
  inputMultiplierPpm := u.inputMultiplierPpm
  cachedInputMultiplierPpm := u.cachedInputMultiplierPpm
  outputMultiplierPpm := u.outputMultiplierPpm
  deletedAt := none
  name := u.name
  description := u.description
  isDefault := u.isDefault
  createdAt := ((Keyed.lookupBy (·.id) rows u.id).map (·.createdAt)).getD u.now
  updatedAt := u.now

def GroupUpsert.write (u : GroupUpsert) (rows : GroupRows) : GroupRows :=
  Keyed.upsertBy (·.id) (u.record rows) rows

def deleteGroup (id : Uuid) (now : DateTime) (rows : GroupRows) : GroupRows :=
  rows.map fun group =>
    if group.id = id then
      { group with enabled := false, isDefault := false, deletedAt := some now, updatedAt := now }
    else group

/-! ## Calls that overlap -/

/-- How far an upsert is. The rows that it has cleared or written are locked, and its changes take
effect at its end. -/
inductive UpsertPhase where
  | begun
  | clearing (seen : List Uuid)
  | cleared (ids : List Uuid)
  | written (ids : List Uuid)

inductive GroupTask where
  | upsert (u : GroupUpsert) (phase : UpsertPhase)
  | delete (id : Uuid)

/-- The rows that a call keeps locked. -/
def GroupTask.locks : GroupTask → List Uuid
  | .upsert _ .begun => []
  | .upsert _ (.clearing _) => []
  | .upsert _ (.cleared ids) => ids
  | .upsert u (.written ids) => u.id :: ids
  | .delete _ => []

/-- The call has entered a default group into the unique index. -/
def GroupTask.wroteDefault : GroupTask → Bool
  | .upsert u (.written _) => u.isDefault
  | _ => false

/-- The rows that are committed, and the calls that are under way. -/
structure GroupWorld where
  rows : GroupRows
  tasks : List (Nat × GroupTask)
  ids_nodup : (rows.map (·.id)).Nodup

inductive GroupEvent where
  | startUpsert (req : ApiKeyGroupUpsertRequest) (freshId : Uuid)
  | startDelete (id : Uuid)
  | proceed
  | fail

/-- An event of one call, at a reading of the clock. -/
structure GroupStep where
  call : Nat
  now : DateTime
  event : GroupEvent

theorem nodup_clearDefaults {rows : GroupRows} (h : (rows.map (·.id)).Nodup) (ids : List Uuid)
    (now : DateTime) : ((clearDefaults ids now rows).map (·.id)).Nodup := by
  have hids : (clearDefaults ids now rows).map (·.id) = rows.map (·.id) := by
    rw [clearDefaults, List.map_map]
    apply List.map_congr_left
    intro group _
    by_cases hmem : group.id ∈ ids <;> simp [hmem]
  rwa [hids]

theorem nodup_deleteGroup {rows : GroupRows} (h : (rows.map (·.id)).Nodup) (id : Uuid)
    (now : DateTime) : ((deleteGroup id now rows).map (·.id)).Nodup := by
  have hids : (deleteGroup id now rows).map (·.id) = rows.map (·.id) := by
    rw [deleteGroup, List.map_map]
    apply List.map_congr_left
    intro group _
    by_cases hid : group.id = id <;> simp [hid]
  rwa [hids]

namespace GroupWorld

variable (w : GroupWorld)

def others (call : Nat) : List GroupTask :=
  (w.tasks.filter (·.1 ≠ call)).map Prod.snd

/-- Another call has the row locked. -/
def isLocked (call : Nat) (id : Uuid) : Bool := (w.others call).any fun task => id ∈ task.locks

/-- Another call has entered a default group into the unique index, or is about to take one out. -/
def indexIsBusy (call : Nat) : Bool :=
  (w.others call).any fun task =>
    task.wroteDefault || w.rows.any fun group => group.isLiveDefault && group.id ∈ task.locks

def setTask (call : Nat) (task : GroupTask) : GroupWorld :=
  { w with tasks := (call, task) :: w.tasks.filter (·.1 ≠ call) }

def endTask (call : Nat) : GroupWorld := { w with tasks := w.tasks.filter (·.1 ≠ call) }

/-- The insertion would break the unique index, or the uniqueness of names. -/
def violates (u : GroupUpsert) (ids : List Uuid) : Bool :=
  w.rows.any fun group => group.id ≠ u.id &&
    ((u.isDefault && group.isLiveDefault && group.id ∉ ids) || group.name = u.name)

/-- The next statement of an upsert, which stays where it is while it has to wait. -/
def proceedUpsert (call : Nat) (u : GroupUpsert) : UpsertPhase → GroupWorld
  | .begun =>
    if u.isDefault then
      w.setTask call (.upsert u (.clearing
        ((w.rows.filter fun group => group.isDefault && group.id ≠ u.id).map (·.id))))
    else w.setTask call (.upsert u (.cleared []))
  | .clearing seen =>
    if seen.any (w.isLocked call) then w
    else
      -- a row that was changed in the meantime is checked again
      w.setTask call (.upsert u (.cleared
        ((w.rows.filter fun group => group.isDefault && group.id ∈ seen).map (·.id))))
  | .cleared ids =>
    if w.isLocked call u.id || (u.isDefault && w.indexIsBusy call) then w
    else if w.violates u ids then w.endTask call
    else w.setTask call (.upsert u (.written ids))
  | .written ids =>
    { w.endTask call with
      rows := u.write (clearDefaults ids u.now w.rows)
      ids_nodup := Keyed.nodup_upsertBy (nodup_clearDefaults w.ids_nodup ids u.now) _ }

/-- The statement that deletes a group. -/
def proceedDelete (call : Nat) (id : Uuid) (now : DateTime) : GroupWorld :=
  if w.isLocked call id then w
  else
    { w.endTask call with
      rows := deleteGroup id now w.rows
      ids_nodup := nodup_deleteGroup w.ids_nodup id now }

def step (s : GroupStep) : GroupWorld :=
  match s.event, w.tasks.lookup s.call with
  | .startUpsert req freshId, none =>
    match req.checked s.now freshId with
    | .error _ => w
    | .ok u => w.setTask s.call (.upsert u .begun)
  | .startDelete id, none =>
    match Keyed.lookupBy (·.id) w.rows id with
    | none => w
    | some existing => if existing.isDefault then w else w.setTask s.call (.delete id)
  | .proceed, some (.upsert u phase) => w.proceedUpsert s.call u phase
  | .proceed, some (.delete id) => w.proceedDelete s.call id s.now
  | .fail, some _ => w.endTask s.call
  | _, _ => w

end GroupWorld

end CodexPool
