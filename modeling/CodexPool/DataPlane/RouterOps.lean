import CodexPool.DataPlane.PickInvariant
import CodexPool.DataPlane.Snapshot
import CodexPool.Lib.Machine

/-!
# Operations of the router

The router is shared by all requests. Each of its operations is atomic and reads the clock once. A
selection is an operation like the others, since it writes to the tables of the router.
-/

namespace CodexPool

open Stateful

namespace Router

/-- An ejection takes the place of the one before. -/
def markUnhealthy (r : Router) (accountId : Uuid) (ttl now : Nat) : Router :=
  if ttl = 0 then r
  else { r with health := Function.update r.health accountId (some (now + ttl)) }

/-- Also says whether there is such an account. -/
def clearUnhealthy (r : Router) (accountId : Uuid) : Router × Bool :=
  if accountId ∈ r.accountIds then
    ({ r with health := Function.update r.health accountId none }, true)
  else (r, false)

def clearAllUnhealthy (r : Router) : Router := { r with health := fun _ => none }

def recordSuccess (r : Router) (accountId : Uuid) (now : Nat) : Router :=
  if r.accounts.any fun account => account.id = accountId && account.enabled then
    { r with recentSuccess := Function.update r.recentSuccess accountId (some now) }
  else r

end Router

section Sticky

variable (now : Nat)

/-- Binds a session to an account that may be used. -/
def bindSticky (stickyKey : String) (accountId : Uuid) : RouterM Bool :=
  match normalizeStickyKey (some stickyKey) with
  | none => pure false
  | some stickyKey => do
    match ← pickSpecific now accountId with
    | none => pure false
    | some _ => do
      insertStickyMapping now stickyKey accountId
      pure true

def unbindSticky (stickyKey : String) : RouterM Bool :=
  match normalizeStickyKey (some stickyKey) with
  | none => pure false
  | some stickyKey => do
    modify fun r => { r with stickySessions := pruneExpiredStickySessions now r.stickySessions }
    let r ← get
    removeStickyMapping stickyKey
    pure (r.stickySessions.any (·.1 = stickyKey))

end Sticky

/-- A selection. With a session or a policy only, it is one for no model. -/
inductive PickCall where
  | pickExcluding (excluded : List Uuid)
  | pickForModel (model stickyKey : Option String) (excluded : List Uuid)
      (preferNonConflicting : Bool)
  | pickAccount (accountId : Uuid)

def PickCall.run (now : Nat) : PickCall → RouterM (Option UpstreamAccount)
  | .pickExcluding excluded => CodexPool.pickExcluding now excluded
  | .pickForModel model stickyKey excluded preferNonConflicting =>
    CodexPool.pickForModel now model stickyKey excluded preferNonConflicting
  | .pickAccount accountId => pickSpecific now accountId

inductive RouterOp where
  | replaceAccounts (accounts : List UpstreamAccount)
  | replaceAccountTraits (accountTraits : List AccountRoutingTraits)
  | replaceCompiledRoutingPlan (plan : Option CompiledRoutingPlan)
  | upsertAccount (account : UpstreamAccount)
  | deleteAccount (accountId : Uuid)
  | markUnhealthy (accountId : Uuid) (ttl : Nat)
  | clearUnhealthy (accountId : Uuid)
  | clearAllUnhealthy
  | recordSuccess (accountId : Uuid)
  | bindSticky (stickyKey : String) (accountId : Uuid)
  | unbindSticky (stickyKey : String)
  | pick (call : PickCall)

/-- An operation with its clock reading. -/
structure RouterCall where
  now : Nat
  op : RouterOp

namespace Router

def step (r : Router) (call : RouterCall) : Router :=
  match call.op with
  | .replaceAccounts accounts => r.replaceAccounts accounts
  | .replaceAccountTraits accountTraits => r.replaceAccountTraits accountTraits
  | .replaceCompiledRoutingPlan plan => r.replaceCompiledRoutingPlan plan
  | .upsertAccount account => r.upsertAccount account
  | .deleteAccount accountId => (r.deleteAccount accountId).1
  | .markUnhealthy accountId ttl => r.markUnhealthy accountId ttl call.now
  | .clearUnhealthy accountId => (r.clearUnhealthy accountId).1
  | .clearAllUnhealthy => r.clearAllUnhealthy
  | .recordSuccess accountId => r.recordSuccess accountId call.now
  | .bindSticky stickyKey accountId => (CodexPool.bindSticky call.now stickyKey accountId r).2
  | .unbindSticky stickyKey => (CodexPool.unbindSticky call.now stickyKey r).2
  | .pick pick => (pick.run call.now r).2

end Router

/-! ## What selections and sessions keep -/

section Keeps

variable {now : Nat} {accounts : List UpstreamAccount} {H : Uuid → Prop} {I : Router → Prop}
  (h : PickInvariant now accounts H I)

include h

theorem run_keeps (call : PickCall) : Picks accounts H I (call.run now) := by
  cases call with
  | pickExcluding excluded => exact pickExcluding_keeps h excluded
  | pickForModel model stickyKey excluded prefer =>
      exact pickForModel_keeps h model stickyKey excluded prefer
  | pickAccount accountId => exact pickSpecific_keeps h accountId

theorem bindSticky_keeps (key : String) (accountId : Uuid) :
    Ensures I (bindSticky now key accountId) fun _ => True := by
  unfold bindSticky
  cases normalizeStickyKey (some key) with
  | none => exact .pure trivial
  | some key =>
      apply Ensures.bind (pickSpecific_ensures h accountId)
      intro o ho
      cases o with
      | none => exact .pure trivial
      | some account =>
          rcases ho account rfl with ⟨hmem, _, hid⟩
          rw [← hid]
          exact .bind (insertStickyMapping_keeps h key (List.mem_map_of_mem hmem)) fun _ _ =>
            .pure trivial

theorem unbindSticky_keeps (key : String) :
    Ensures I (unbindSticky now key) fun _ => True := by
  unfold unbindSticky
  cases normalizeStickyKey (some key) with
  | none => exact .pure trivial
  | some key =>
      apply Ensures.bind (Ensures.modify (prune_keeps h))
      intro _ _
      apply Ensures.bind Ensures.get
      exact fun r _ => .bind (removeStickyMapping_keeps h key) fun _ _ => .pure trivial

end Keeps

end CodexPool
