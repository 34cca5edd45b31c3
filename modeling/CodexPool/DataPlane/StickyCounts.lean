import CodexPool.DataPlane.RouterOps

/-!
# Counting sessions

A selection for a session is counted, as a hit when the session is kept and as a miss when it is
not, and so is every session that changes its account. The counters are read for the statistics
only. What a counted selection gives, and what it does to the rest of the router, is what the
selection without counters does.
-/

namespace CodexPool

open Stateful

/-- The counters wrap around. -/
structure StickyCounts where
  sessionTotal : UInt64
  hitCount : UInt64
  missCount : UInt64
  rebindCount : UInt64
deriving DecidableEq

structure CountedRouter extends Router where
  stickyCounts : StickyCounts

abbrev CountedM := StateM CountedRouter

def CountedRouter.newWithStickyLimits (accounts : List UpstreamAccount)
    (stickySessionTtl stickySessionMaxEntries : Nat) : CountedRouter where
  toRouter := Router.newWithStickyLimits accounts stickySessionTtl stickySessionMaxEntries
  stickyCounts := ⟨0, 0, 0, 0⟩

namespace Counted

def onRouter {α : Type} (x : RouterM α) : CountedM α := fun c =>
  ((x c.toRouter).1, { c with toRouter := (x c.toRouter).2 })

def countSession : CountedM PUnit :=
  modify fun c =>
    { c with stickyCounts.sessionTotal := c.stickyCounts.sessionTotal + 1 }

def countHit : CountedM PUnit :=
  modify fun c => { c with stickyCounts.hitCount := c.stickyCounts.hitCount + 1 }

def countMiss : CountedM PUnit :=
  modify fun c => { c with stickyCounts.missCount := c.stickyCounts.missCount + 1 }

def countRebind (rebind : Bool) : CountedM PUnit :=
  modify fun c =>
    if rebind then { c with stickyCounts.rebindCount := c.stickyCounts.rebindCount + 1 } else c

section Pick

variable (now : Nat)

/-- Also says whether the session was bound to another account. -/
def insertStickyMapping (stickyKey : String) (accountId : Uuid) : RouterM Bool := do
  let r ← get
  let items := pruneExpiredStickySessions now r.stickySessions
  let items := enforceStickyCapacity r.stickySessionMaxEntries items.length items
  CodexPool.insertStickyMapping now stickyKey accountId
  pure ((items.find? (·.1 = stickyKey)).any fun item => item.2.accountId ≠ accountId)

def bindPicked (stickyKey : String) (picked : Option UpstreamAccount) :
    CountedM (Option UpstreamAccount) :=
  match picked with
  | none => pure none
  | some account => do
    let rebind ← onRouter (insertStickyMapping now stickyKey account.id)
    countRebind rebind
    pure (some account)

def pickSticky (allowed : Uuid → Bool) (stickyKey : String) (preferNonConflicting : Bool)
    (spread fresh : RouterM (Option UpstreamAccount)) : CountedM (Option UpstreamAccount) := do
  countSession
  let bound ← onRouter (getStickyAccountId now stickyKey)
  match ← onRouter (keepSticky now allowed stickyKey bound) with
  | some account => do
    countHit
    pure (some account)
  | none => do
    countMiss
    let picked ← onRouter (pickUnbound preferNonConflicting spread fresh)
    bindPicked now stickyKey picked

def pickWithRoundRobinPolicy (stickyKey : Option String) (excluded : List Uuid)
    (preferNonConflicting : Bool) : CountedM (Option UpstreamAccount) :=
  match normalizeStickyKey stickyKey with
  | none => onRouter (pickExcluding now excluded)
  | some stickyKey =>
    pickSticky now (fun id => !excluded.contains id) stickyKey preferNonConflicting
      (pickAvoidingStickyConflicts now stickyKey excluded) (pickExcluding now excluded)

def pickFromOrderedCandidates (candidateIds : List Uuid) (stickyKey : Option String)
    (excluded : List Uuid) (preferNonConflicting : Bool) :
    CountedM (Option UpstreamAccount) :=
  match normalizeStickyKey stickyKey with
  | none => onRouter (pickCandidateAccount now candidateIds excluded)
  | some stickyKey =>
    pickSticky now (fun id => !excluded.contains id && candidateIds.contains id) stickyKey
      preferNonConflicting
      (pickCandidateAccountAvoidingConflicts now stickyKey candidateIds excluded)
      (pickCandidateAccount now candidateIds excluded)

def pickForModel (model stickyKey : Option String) (excluded : List Uuid)
    (preferNonConflicting : Bool) : CountedM (Option UpstreamAccount) := do
  let c ← get
  match c.candidateAccountIdsForModel model with
  | some candidateIds =>
    pickFromOrderedCandidates now candidateIds stickyKey excluded preferNonConflicting
  | none => pickWithRoundRobinPolicy now stickyKey excluded preferNonConflicting

def bindSticky (stickyKey : String) (accountId : Uuid) : CountedM Bool :=
  match normalizeStickyKey (some stickyKey) with
  | none => pure false
  | some stickyKey => do
    match ← onRouter (pickSpecific now accountId) with
    | none => pure false
    | some _ => do
      let rebind ← onRouter (insertStickyMapping now stickyKey accountId)
      countRebind rebind
      pure true

def run : PickCall → CountedM (Option UpstreamAccount)
  | .pickExcluding excluded => onRouter (pickExcluding now excluded)
  | .pickForModel model stickyKey excluded preferNonConflicting =>
    pickForModel now model stickyKey excluded preferNonConflicting
  | .pickAccount accountId => onRouter (pickSpecific now accountId)

end Pick

/-! ## Without the counters -/

section Projects

variable {now : Nat} {α : Type}

theorem onRouter_projects (x : RouterM α) : Projects CountedRouter.toRouter (onRouter x) x :=
  fun _ => ⟨rfl, rfl⟩

theorem toRouter_countRebind (rebind : Bool) (c : CountedRouter) :
    (countRebind rebind c).2.toRouter = c.toRouter := by
  cases rebind with
  | false => rfl
  | true => rfl

theorem insert_projects (key : String) (accountId : Uuid) {z : CountedM α} {y : RouterM α}
    (hz : Projects CountedRouter.toRouter z y) :
    Projects CountedRouter.toRouter (do
      let rebind ← onRouter (insertStickyMapping now key accountId)
      countRebind rebind
      z) (do
      CodexPool.insertStickyMapping now key accountId
      y) := by
  intro c
  exact Projects.skip (toRouter_countRebind _) hz
    (onRouter (insertStickyMapping now key accountId) c).2

theorem pickSticky_projects (allowed : Uuid → Bool) (key : String) (prefer : Bool)
    (spread fresh : RouterM (Option UpstreamAccount)) :
    Projects CountedRouter.toRouter (pickSticky now allowed key prefer spread fresh)
      (CodexPool.pickSticky now allowed key prefer spread fresh) := by
  apply Projects.skip fun _ => rfl
  apply Projects.bind (onRouter_projects _)
  intro bound
  apply Projects.bind (onRouter_projects _)
  intro kept
  cases kept with
  | some account => exact .skip (fun _ => rfl) (.pure (some account))
  | none =>
      apply Projects.skip fun _ => rfl
      apply Projects.bind (onRouter_projects _)
      intro picked
      cases picked with
      | none => exact .pure none
      | some account => exact insert_projects key account.id (.pure (some account))

/-- A counted selection does what the selection does. -/
theorem pickForModel_projects (model stickyKey : Option String) (excluded : List Uuid)
    (prefer : Bool) :
    Projects CountedRouter.toRouter (pickForModel now model stickyKey excluded prefer)
      (CodexPool.pickForModel now model stickyKey excluded prefer) := by
  have hpolicy : Projects CountedRouter.toRouter
      (pickWithRoundRobinPolicy now stickyKey excluded prefer)
      (CodexPool.pickWithRoundRobinPolicy now stickyKey excluded prefer) := by
    unfold pickWithRoundRobinPolicy CodexPool.pickWithRoundRobinPolicy
    cases normalizeStickyKey stickyKey with
    | none => exact onRouter_projects _
    | some key => exact pickSticky_projects _ key prefer _ _
  have hcandidates : ∀ candidateIds, Projects CountedRouter.toRouter
      (pickFromOrderedCandidates now candidateIds stickyKey excluded prefer)
      (CodexPool.pickFromOrderedCandidates now candidateIds stickyKey excluded prefer) := by
    intro candidateIds
    unfold pickFromOrderedCandidates CodexPool.pickFromOrderedCandidates
    cases normalizeStickyKey stickyKey with
    | none => exact onRouter_projects _
    | some key => exact pickSticky_projects _ key prefer _ _
  intro c
  have hget : pickForModel now model stickyKey excluded prefer c =
      (match c.candidateAccountIdsForModel model with
      | some candidateIds => pickFromOrderedCandidates now candidateIds stickyKey excluded prefer
      | none => pickWithRoundRobinPolicy now stickyKey excluded prefer) c := rfl
  have hget' : CodexPool.pickForModel now model stickyKey excluded prefer c.toRouter =
      (match c.candidateAccountIdsForModel model with
      | some candidateIds =>
        CodexPool.pickFromOrderedCandidates now candidateIds stickyKey excluded prefer
      | none => CodexPool.pickWithRoundRobinPolicy now stickyKey excluded prefer) c.toRouter := rfl
  rw [hget, hget']
  cases c.candidateAccountIdsForModel model with
  | none => exact hpolicy c
  | some candidateIds => exact hcandidates candidateIds c

theorem bindSticky_projects (key : String) (accountId : Uuid) :
    Projects CountedRouter.toRouter (bindSticky now key accountId)
      (CodexPool.bindSticky now key accountId) := by
  unfold bindSticky CodexPool.bindSticky
  cases normalizeStickyKey (some key) with
  | none => exact .pure false
  | some key =>
      apply Projects.bind (onRouter_projects _)
      intro picked
      cases picked with
      | none => exact .pure false
      | some account => exact insert_projects key accountId (.pure true)

theorem run_projects (call : PickCall) :
    Projects CountedRouter.toRouter (run now call) (call.run now) := by
  cases call with
  | pickExcluding excluded => exact onRouter_projects _
  | pickForModel model stickyKey excluded prefer =>
      exact pickForModel_projects model stickyKey excluded prefer
  | pickAccount accountId => exact onRouter_projects _

end Projects

/-! ## The counters -/

/-- What the counters other than that of the changes are. -/
def Counts (total hits misses : UInt64) (c : CountedRouter) : Prop :=
  c.stickyCounts.sessionTotal = total ∧ c.stickyCounts.hitCount = hits ∧
    c.stickyCounts.missCount = misses

section Counts

variable {now : Nat} {total hits misses : UInt64}

theorem onRouter_counts {α : Type} (x : RouterM α) :
    Keeps (Counts total hits misses) (onRouter x) := fun _ hc => ⟨trivial, hc⟩

theorem countRebind_counts (rebind : Bool) :
    Keeps (Counts total hits misses) (countRebind rebind) := by
  intro c hc
  refine ⟨trivial, ?_⟩
  cases rebind with
  | false => exact hc
  | true => exact hc

theorem bindPicked_counts (key : String) (picked : Option UpstreamAccount) :
    Keeps (Counts total hits misses) (bindPicked now key picked) := by
  cases picked with
  | none => exact .pure none
  | some account =>
      apply Keeps.bind (onRouter_counts _)
      exact fun rebind => .bind (countRebind_counts rebind) fun _ => .pure _

/-- A selection for a session is counted, as a hit or as a miss. -/
theorem pickSticky_counts (allowed : Uuid → Bool) (key : String) (prefer : Bool)
    (spread fresh : RouterM (Option UpstreamAccount)) {c : CountedRouter}
    (hc : Counts total hits misses c) :
    Counts (total + 1) (hits + 1) misses (pickSticky now allowed key prefer spread fresh c).2 ∨
      Counts (total + 1) hits (misses + 1)
        (pickSticky now allowed key prefer spread fresh c).2 := by
  rcases hc with ⟨rfl, rfl, rfl⟩
  unfold pickSticky
  simp only [bind_run]
  cases (onRouter (keepSticky now allowed key
      (onRouter (getStickyAccountId now key) (countSession c).2).1)
      (onRouter (getStickyAccountId now key) (countSession c).2).2).1 with
  | some account => exact .inl ⟨rfl, rfl, rfl⟩
  | none =>
      right
      have hnew : Keeps (Counts (c.stickyCounts.sessionTotal + 1) c.stickyCounts.hitCount
          (c.stickyCounts.missCount + 1)) (do
            let picked ← onRouter (pickUnbound prefer spread fresh)
            bindPicked now key picked) :=
        .bind (onRouter_counts _) (bindPicked_counts key)
      exact hnew.state ⟨rfl, rfl, rfl⟩

end Counts

end Counted

end CodexPool
