import CodexPool.Core.Model
import CodexPool.Lib.Stateful
import Mathlib.Logic.Function.Basic

/-!
# Selection of an upstream account

The router keeps the accounts, the compiled routing plan, and what it has learnt
of the accounts: which of them are unhealthy for a while, which have succeeded
last, and which session is bound to which of them. A selection reads the clock
once. The counters that the router keeps for its statistics are left out.
-/

namespace CodexPool

open Stateful

structure StickySessionEntry where
  accountId : Uuid
  expiresAt : Nat
  lastUsedAt : Nat

/-- The state of a router. The sessions are listed in the order in which the map
that holds them is iterated. -/
structure Router where
  accounts : List UpstreamAccount
  accountTraits : Uuid → Option AccountRoutingTraits
  compiledRoutingPlan : Option CompiledRoutingPlan
  cursor : Nat
  health : Uuid → Option Nat
  recentSuccess : Uuid → Option Nat
  stickySessions : List (String × StickySessionEntry)
  stickySessionTtl : Nat
  stickySessionMaxEntries : Nat

/-- The times of a router are in milliseconds. -/
def Router.newWithStickyLimits (accounts : List UpstreamAccount)
    (stickySessionTtl stickySessionMaxEntries : Nat) : Router where
  accounts := accounts
  accountTraits := fun _ => none
  compiledRoutingPlan := none
  cursor := 0
  health := fun _ => none
  recentSuccess := fun _ => none
  stickySessions := []
  stickySessionTtl := max stickySessionTtl 1
  stickySessionMaxEntries := max stickySessionMaxEntries 1

def Router.new (accounts : List UpstreamAccount) : Router :=
  Router.newWithStickyLimits accounts (30 * 60 * 1000) 10000

abbrev RouterM := StateM Router

/-- The last of the greatest elements of a list. -/
def maxBy {α : Type} (cmp : α → α → Ordering) : List α → Option α
  | [] => none
  | a :: as => some (as.foldl (fun best x => if cmp best x = .gt then best else x) a)

/-- The first of the elements of a list with the least key. -/
def minByKey {α : Type} (key : α → Nat) : List α → Option α
  | [] => none
  | a :: as => some (as.foldl (fun best x => if key x < key best then x else best) a)

def compareUuid (a b : Uuid) : Ordering := compare a.text b.text

def compareTime : Option DateTime → Option DateTime → Ordering
  | none, none => .eq
  | none, some _ => .lt
  | some _, none => .gt
  | some a, some b => compare a b

def routingHealthFreshnessRank : Option AccountRoutingHealthFreshness → Nat
  | some .fresh => 2
  | some .stale => 1
  | some .unknown | none => 0

def normalizeStickyKey (raw : Option String) : Option String := Text.trimmed? raw

/-! ## The routing plan -/

namespace CompiledRoutingPlan

/-- The policy of a model: the first one that lists it, else the first one with a
prefix of it. -/
def policyFor (plan : CompiledRoutingPlan) (model : String) :
    Option CompiledModelRoutingPolicy :=
  (plan.policies.find? fun policy => policy.exactModels.any (· = model)).or
    (plan.policies.find? fun policy =>
      policy.modelPrefixes.any fun p => Text.startsWith model p)

end CompiledRoutingPlan

def segmentAccountIds (segments : List CompiledRoutingProfile) : List Uuid :=
  segments.flatMap (·.accountIds)

namespace Router

/-- The accounts to which a model is restricted; `none` when it is not. -/
def candidateAccountIdsForModel (r : Router) (model : Option String) :
    Option (List Uuid) :=
  match Text.trimmed? model, r.compiledRoutingPlan with
  | some model, some plan =>
    let segments := ((plan.policyFor model).map (·.fallbackSegments)).getD plan.defaultRoute
    if segments.isEmpty then none
    else
      let accountIds := segmentAccountIds segments
      if accountIds.isEmpty then none else some accountIds
  | _, _ => none

def accountMatchesModelRoute (r : Router) (accountId : Uuid) (model : Option String) :
    Bool :=
  match r.candidateAccountIdsForModel model with
  | none => true
  | some candidateIds => candidateIds.contains accountId

end Router

section Pick

variable (now : Nat)

/-! ## Health -/

/-- Forgets an ejection that is over. -/
def isHealthy (accountId : Uuid) : RouterM Bool := do
  let r ← get
  match r.health accountId with
  | none => pure true
  | some until_ =>
    if now < until_ then pure false
    else do
      modify fun r => { r with health := Function.update r.health accountId none }
      pure true

def pickSpecific (accountId : Uuid) : RouterM (Option UpstreamAccount) := do
  let r ← get
  match r.accounts.find? (·.id = accountId) with
  | none => pure none
  | some account =>
    if !account.enabled then pure none
    else do
      let healthy ← isHealthy now account.id
      pure (if healthy then some account else none)

/-- An account that may be used: not excluded, enabled and healthy. -/
def isUsable (excluded : List Uuid) (account : UpstreamAccount) : RouterM Bool :=
  if excluded.contains account.id || !account.enabled then pure false
  else isHealthy now account.id

/-! ## Sessions -/

def pruneExpiredStickySessions (items : List (String × StickySessionEntry)) :
    List (String × StickySessionEntry) :=
  items.filter fun item => now < item.2.expiresAt

/-- Drops the entries that were used longest ago; at most `fuel` of them. -/
def enforceStickyCapacity (maxEntries : Nat) : (fuel : Nat) →
    List (String × StickySessionEntry) → List (String × StickySessionEntry)
  | 0, items => items
  | fuel + 1, items =>
    if items.length < maxEntries then items
    else
      match minByKey (·.2.lastUsedAt) items with
      | none => items
      | some oldest =>
        enforceStickyCapacity maxEntries fuel (items.filter (·.1 ≠ oldest.1))

def collectConflictAccountIds (stickyKey : String) : RouterM (List Uuid) := do
  modify fun r => { r with stickySessions := pruneExpiredStickySessions now r.stickySessions }
  let r ← get
  pure ((r.stickySessions.filter (·.1 ≠ stickyKey)).map (·.2.accountId))

def getStickyAccountId (stickyKey : String) : RouterM (Option Uuid) := do
  modify fun r => { r with stickySessions := pruneExpiredStickySessions now r.stickySessions }
  let r ← get
  match r.stickySessions.find? (·.1 = stickyKey) with
  | none => pure none
  | some (_, entry) => do
    modify fun r =>
      { r with
        stickySessions := r.stickySessions.map fun item =>
          if item.1 = stickyKey then
            (item.1, { item.2 with lastUsedAt := now, expiresAt := now + r.stickySessionTtl })
          else item }
    pure (some entry.accountId)

def removeStickyMapping (stickyKey : String) : RouterM Unit :=
  modify fun r => { r with stickySessions := r.stickySessions.filter (·.1 ≠ stickyKey) }

def insertStickyMapping (stickyKey : String) (accountId : Uuid) : RouterM Unit :=
  modify fun r =>
    let items := pruneExpiredStickySessions now r.stickySessions
    let items := enforceStickyCapacity r.stickySessionMaxEntries items.length items
    let entry : StickySessionEntry := ⟨accountId, now + r.stickySessionTtl, now⟩
    { r with stickySessions := items.filter (·.1 ≠ stickyKey) ++ [(stickyKey, entry)] }

/-! ## Round robin -/

/-- Advances the cursor, which wraps around, and gives its value before. -/
def fetchAddCursor : RouterM Nat := do
  let r ← get
  set { r with cursor := (r.cursor + 1) % 2 ^ 64 }
  pure r.cursor

/-- Takes the next account that may be used, among `n` accounts from the cursor
on. -/
def pickRoundRobin (accounts : List UpstreamAccount)
    (usable : UpstreamAccount → RouterM Bool) : (n : Nat) → RouterM (Option UpstreamAccount)
  | 0 => pure none
  | n + 1 => do
    let cursor ← fetchAddCursor
    match accounts[cursor % accounts.length]? with
    | none => pure none
    | some account => do
      let ok ← usable account
      if ok then pure (some account) else pickRoundRobin accounts usable n

def preferredRecentSuccessAccountId (accounts : List UpstreamAccount)
    (excluded : List Uuid) : RouterM (Option Uuid) := do
  let r ← get
  let usable ← filterM (isUsable now excluded) accounts
  let seen := usable.filterMap fun account =>
    (r.recentSuccess account.id).map fun seenAt => (account.id, seenAt)
  pure ((maxBy (fun a b => (compare a.2 b.2).then (compareUuid a.1 b.1)) seen).map (·.1))

def Router.probe (r : Router) (accountId : Uuid) : Option (Uuid × Nat × Option DateTime) :=
  (r.accountTraits accountId).bind fun traits =>
    let freshnessRank := routingHealthFreshnessRank traits.healthFreshness
    if 0 < freshnessRank then some (accountId, freshnessRank, traits.lastProbeAt) else none

def compareProbe (a b : Uuid × Nat × Option DateTime) : Ordering :=
  (compare a.2.1 b.2.1).then ((compareTime a.2.2 b.2.2).then (compareUuid a.1 b.1))

def preferredRecentProbeAccountId (accounts : List UpstreamAccount)
    (excluded : List Uuid) : RouterM (Option Uuid) := do
  let r ← get
  let usable ← filterM (isUsable now excluded) accounts
  pure ((maxBy compareProbe (usable.filterMap fun account => r.probe account.id)).map (·.1))

/-- The account that is listed under an id, whatever its state. -/
def findAccount (accounts : List UpstreamAccount) (accountId : Option Uuid) :
    Option UpstreamAccount :=
  accountId.bind fun id => accounts.find? (·.id = id)

def pickExcluding (excluded : List Uuid) : RouterM (Option UpstreamAccount) := do
  let r ← get
  let accounts := r.accounts
  if accounts.isEmpty then pure none
  else do
    let recent ← preferredRecentSuccessAccountId now accounts excluded
    match findAccount accounts recent with
    | some account => pure (some account)
    | none => do
      let probed ← preferredRecentProbeAccountId now accounts excluded
      match findAccount accounts probed with
      | some account => pure (some account)
      | none => pickRoundRobin accounts (isUsable now excluded) accounts.length

def pickAvoidingStickyConflicts (stickyKey : String) (excluded : List Uuid) :
    RouterM (Option UpstreamAccount) := do
  let conflictIds ← collectConflictAccountIds now stickyKey
  let r ← get
  pickRoundRobin r.accounts (isUsable now (excluded ++ conflictIds)) r.accounts.length

/-! ## Candidates of a policy -/

def preferredCandidateProbeAccountId (candidateIds excluded : List Uuid) :
    RouterM (Option Uuid) := do
  let r ← get
  let allowed := candidateIds.filter fun id => !excluded.contains id
  pure ((maxBy compareProbe (allowed.filterMap r.probe)).map (·.1))

/-- An optional choice of an account, when the account may be used. -/
def pickPreferred (accountId : Option Uuid) : RouterM (Option UpstreamAccount) :=
  match accountId with
  | none => pure none
  | some id => pickSpecific now id

/-- The first candidate that may be used. -/
def pickFirstCandidate (candidateIds excluded : List Uuid) :
    RouterM (Option UpstreamAccount) :=
  findSomeM (pickSpecific now) (candidateIds.filter fun id => !excluded.contains id)

def pickCandidateAccount (candidateIds excluded : List Uuid) :
    RouterM (Option UpstreamAccount) := do
  let r ← get
  let allowed := candidateIds.filter fun id => !excluded.contains id
  let seen := allowed.filterMap fun id =>
    (r.recentSuccess id).map fun seenAt => (id, seenAt)
  let recent := (maxBy (fun a b => (compare a.2 b.2).then (compareUuid a.1 b.1)) seen).map (·.1)
  match ← pickPreferred now recent with
  | some account => pure (some account)
  | none => do
    let probed ← preferredCandidateProbeAccountId candidateIds excluded
    match ← pickPreferred now probed with
    | some account => pure (some account)
    | none => pickFirstCandidate now candidateIds excluded

def pickCandidateAccountAvoidingConflicts (stickyKey : String)
    (candidateIds excluded : List Uuid) : RouterM (Option UpstreamAccount) := do
  let conflictIds ← collectConflictAccountIds now stickyKey
  pickFirstCandidate now candidateIds (excluded ++ conflictIds)

/-! ## Sticky selection -/

/-- The account to which a session is bound, when `allowed` holds of it and it may
be used; else the session is unbound. -/
def keepSticky (allowed : Uuid → Bool) (stickyKey : String) (bound : Option Uuid) :
    RouterM (Option UpstreamAccount) :=
  match bound with
  | none => pure none
  | some accountId =>
    if !allowed accountId then do
      removeStickyMapping stickyKey
      pure none
    else do
      match ← pickSpecific now accountId with
      | some account => pure (some account)
      | none => do
        removeStickyMapping stickyKey
        pure none

/-- The account for a session that is not bound. -/
def pickUnbound (preferNonConflicting : Bool)
    (spread fresh : RouterM (Option UpstreamAccount)) : RouterM (Option UpstreamAccount) :=
  if preferNonConflicting then do
    match ← spread with
    | some account => pure (some account)
    | none => fresh
  else fresh

/-- Keeps to the account of a session, or takes a new one and binds the session to
it. -/
def pickSticky (allowed : Uuid → Bool) (stickyKey : String) (preferNonConflicting : Bool)
    (spread fresh : RouterM (Option UpstreamAccount)) : RouterM (Option UpstreamAccount) := do
  let bound ← getStickyAccountId now stickyKey
  match ← keepSticky now allowed stickyKey bound with
  | some account => pure (some account)
  | none => do
    match ← pickUnbound preferNonConflicting spread fresh with
    | none => pure none
    | some account => do
      insertStickyMapping now stickyKey account.id
      pure (some account)

def pickWithRoundRobinPolicy (stickyKey : Option String) (excluded : List Uuid)
    (preferNonConflicting : Bool) : RouterM (Option UpstreamAccount) :=
  match normalizeStickyKey stickyKey with
  | none => pickExcluding now excluded
  | some stickyKey =>
    pickSticky now (fun id => !excluded.contains id) stickyKey preferNonConflicting
      (pickAvoidingStickyConflicts now stickyKey excluded) (pickExcluding now excluded)

def pickFromOrderedCandidates (candidateIds : List Uuid) (stickyKey : Option String)
    (excluded : List Uuid) (preferNonConflicting : Bool) :
    RouterM (Option UpstreamAccount) :=
  match normalizeStickyKey stickyKey with
  | none => pickCandidateAccount now candidateIds excluded
  | some stickyKey =>
    pickSticky now (fun id => !excluded.contains id && candidateIds.contains id) stickyKey
      preferNonConflicting
      (pickCandidateAccountAvoidingConflicts now stickyKey candidateIds excluded)
      (pickCandidateAccount now candidateIds excluded)

def pickForModel (model stickyKey : Option String) (excluded : List Uuid)
    (preferNonConflicting : Bool) : RouterM (Option UpstreamAccount) := do
  let r ← get
  match r.candidateAccountIdsForModel model with
  | some candidateIds =>
    pickFromOrderedCandidates now candidateIds stickyKey excluded preferNonConflicting
  | none => pickWithRoundRobinPolicy now stickyKey excluded preferNonConflicting

/-! ## Selection of the proxy -/

def pickAliveRingCandidateFromIds (candidateIds excluded : List Uuid)
    (model : Option String) : RouterM (Option UpstreamAccount) :=
  findSomeM (fun id => do
    let r ← get
    if excluded.contains id || !r.accountMatchesModelRoute id model then pure none
    else pickSpecific now id) candidateIds

/-- The candidates of the alive ring, when it is configured and answers. -/
def pickAccountFromAliveRing (aliveRing : Option (List Uuid)) (excluded : List Uuid)
    (model : Option String) : RouterM (Option UpstreamAccount) :=
  match aliveRing with
  | none => pure none
  | some candidateIds => pickAliveRingCandidateFromIds now candidateIds excluded model

/-- The alive ring is asked for requests without a session, and without the
model. -/
def pickAlive (aliveRing : Option (List Uuid)) (stickyKey : Option String)
    (excluded : List Uuid) : RouterM (Option UpstreamAccount) :=
  if stickyKey.isNone then pickAccountFromAliveRing now aliveRing excluded none
  else pure none

/-- The selection of the proxy when no account is forced, with a flag for an
account of the alive ring. -/
def selectAccount (aliveRing : Option (List Uuid)) (model stickyKey : Option String)
    (excluded : List Uuid) (preferNonConflicting : Bool) :
    RouterM (Option (UpstreamAccount × Bool)) := do
  match ← pickAlive now aliveRing stickyKey excluded with
  | some account => pure (some (account, true))
  | none => do
    let account ← pickForModel now model stickyKey excluded preferNonConflicting
    pure (account.map fun account => (account, false))

end Pick

end CodexPool
