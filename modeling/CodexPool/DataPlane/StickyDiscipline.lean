import CodexPool.DataPlane.StickyTable

/-!
# Sessions over a run

Along a run of calls, whatever the accounts do, the table of the sessions keeps its capacity and
every counted selection is a hit or a miss. Only binding a session that is in a full table can
evict another one that is not the session itself.
-/

namespace CodexPool

open Stateful

/-- The session that a call is about. -/
def RouterOp.stickyKey : RouterOp → Option String
  | .bindSticky stickyKey _ => normalizeStickyKey (some stickyKey)
  | .unbindSticky stickyKey => normalizeStickyKey (some stickyKey)
  | .pick (.pickForModel _ stickyKey _ _) => normalizeStickyKey stickyKey
  | _ => none

/-- The sessions that are not over. -/
def Router.liveSessions (r : Router) (now : Nat) : StickyItems :=
  pruneExpiredStickySessions now r.stickySessions

namespace CountedRouter

def step (c : CountedRouter) (call : RouterCall) : CountedRouter :=
  match call.op with
  | .bindSticky stickyKey accountId => (Counted.bindSticky call.now stickyKey accountId c).2
  | .pick pick => (Counted.run call.now pick c).2
  | _ => { c with toRouter := c.toRouter.step call }

/-- Every counted selection is a hit or a miss. -/
def Counted (c : CountedRouter) : Prop :=
  c.stickyCounts.sessionTotal = c.stickyCounts.hitCount + c.stickyCounts.missCount

/-- A call keeps the capacity of the table, does to the other sessions what it may, and leaves
every counted selection a hit or a miss. -/
structure Disciplined (c : CountedRouter) (call : RouterCall) : Prop where
  bounded : (c.step call).stickySessions.length ≤ c.stickySessionMaxEntries
  sessions : ∀ key, call.op.stickyKey = some key →
    KeepsSessions call.now c.stickySessionMaxEntries key (c.liveSessions call.now)
      ((c.step call).liveSessions call.now)
  counted : (c.step call).Counted

/-- A session that is bound again while it is in the table finds room there, or is the next one to
be evicted. -/
def RebindsInPlace (c : CountedRouter) (call : RouterCall) : Prop :=
  ∀ stickyKey accountId key, call.op = .bindSticky stickyKey accountId →
    normalizeStickyKey (some stickyKey) = some key →
    (c.specific call.now accountId).isSome = true →
    key ∈ (c.liveSessions call.now).map (·.1) →
      (c.liveSessions call.now).length < c.stickySessionMaxEntries ∨
        (oldestSession (c.liveSessions call.now)).map (·.1) = some key

/-- What holds after every run. -/
structure StickyInvariant (c : CountedRouter) : Prop where
  nodup : (c.stickySessions.map (·.1)).Nodup
  bounded : c.stickySessions.length ≤ c.stickySessionMaxEntries
  capacity : 0 < c.stickySessionMaxEntries
  ttl : 0 < c.stickySessionTtl
  counted : c.Counted

theorem toRouter_step (c : CountedRouter) (call : RouterCall) :
    (c.step call).toRouter = c.toRouter.step call := by
  rcases call with ⟨now, op⟩
  cases op with
  | bindSticky key accountId =>
      rw [step, Router.step]
      exact (Counted.bindSticky_projects key accountId c).2
  | pick pick =>
      rw [step, Router.step]
      exact (Counted.run_projects pick c).2
  | _ => rw [step]

end CountedRouter

/-! ## Tables in order -/

/-- A table of sessions with different keys, within its capacity. -/
structure TableInOrder (maxEntries : Nat) (items : StickyItems) : Prop where
  nodup : (items.map (·.1)).Nodup
  bounded : items.length ≤ maxEntries

section InOrder

variable {now maxEntries ttl : Nat} {key : String} {items after : StickyItems}

theorem TableInOrder.sublist (h : TableInOrder maxEntries items) (hsub : after.Sublist items) :
    TableInOrder maxEntries after :=
  ⟨h.nodup.sublist (hsub.map _), hsub.length_le.trans h.bounded⟩

theorem TableInOrder.prune (h : TableInOrder maxEntries items) :
    TableInOrder maxEntries (pruneExpiredStickySessions now items) :=
  h.sublist List.filter_sublist

theorem TableInOrder.bindIn {entry : StickySessionEntry} (h : TableInOrder maxEntries items)
    (hcapacity : 0 < maxEntries) : TableInOrder maxEntries (bindIn maxEntries key entry items) :=
  ⟨nodup_bindIn h.nodup, length_bindIn_le h.bounded hcapacity⟩

theorem map_key_refreshSession :
    (refreshSession now ttl key items).map (·.1) = items.map (·.1) := by
  rw [refreshSession, List.map_map]
  apply List.map_congr_left
  intro item _
  rw [Function.comp_apply]
  split
  · rfl
  · rfl

theorem live_of_mem_bindIn {accountId : Uuid} (httl : 0 < ttl)
    (hlive : ∀ item ∈ items, now < item.2.expiresAt) {item : String × StickySessionEntry}
    (hitem : item ∈ bindIn maxEntries key ⟨accountId, now + ttl, now⟩ items) :
    now < item.2.expiresAt := by
  rcases mem_bindIn.1 hitem with ⟨hold, -⟩ | rfl
  · exact hlive item ((enforce_sublist _ _ _).subset hold)
  · exact Nat.lt_add_of_pos_right httl

/-- A selection for a session evicts another one only when it has to. -/
theorem picksFor_inOrder (h : TableInOrder maxEntries items)
    (hlive : ∀ item ∈ items, now < item.2.expiresAt) (hcapacity : 0 < maxEntries)
    (httl : 0 < ttl) (hpicks : PicksFor now maxEntries ttl key items after) :
    TableInOrder maxEntries after ∧ (∀ item ∈ after, now < item.2.expiresAt) ∧
      KeepsSessions now maxEntries key items after := by
  have hdropped : TableInOrder maxEntries (items.filter (·.1 ≠ key)) :=
    h.sublist List.filter_sublist
  have hlive' : ∀ item ∈ items.filter (·.1 ≠ key), now < item.2.expiresAt := fun item hitem =>
    hlive item (List.mem_filter.1 hitem).1
  rcases hpicks with ⟨hkey, rfl⟩ | rfl | ⟨accountId, rfl⟩
  · refine ⟨⟨?_, ?_⟩, ?_, keepsSessions_refresh hkey⟩
    · rw [map_key_refreshSession]
      exact h.nodup
    · rw [refreshSession, List.length_map]
      exact h.bounded
    · intro item hitem
      rcases List.mem_map.1 hitem with ⟨old, hold, rfl⟩
      split
      · exact Nat.lt_add_of_pos_right httl
      · exact hlive old hold
  · exact ⟨hdropped, hlive', keepsSessions_drop now maxEntries key items⟩
  · exact ⟨hdropped.bindIn hcapacity, fun _ => live_of_mem_bindIn httl hlive',
      keepsSessions_rebind h.bounded hcapacity rfl⟩

end InOrder

/-! ## Calls -/

section Calls

variable {now : Nat} {r : Router} {excluded : List Uuid}

/-- What a selection for a model does to the table. -/
theorem pickForModel_table {items : StickyItems} {maxEntries ttl : Nat}
    (model stickyKey : Option String) (prefer : Bool) :
    Leads (HasTable items maxEntries ttl) (pickForModel now model stickyKey excluded prefer)
      fun _ r => ∃ after, (match normalizeStickyKey stickyKey with
        | none => after = items
        | some key => PicksFor now maxEntries ttl key (pruneExpiredStickySessions now items)
          after) ∧ HasTable after maxEntries ttl r := by
  refine Leads.bind_get fun _ hr => ?_
  rintro r rfl
  cases hroute : r.candidateAccountIdsForModel model with
  | some candidateIds =>
      dsimp only
      unfold pickFromOrderedCandidates
      cases normalizeStickyKey stickyKey with
      | none => exact ⟨items, rfl, (pickCandidateAccount_table candidateIds).state hr⟩
      | some key =>
          exact pickSticky_table _ (pickCandidateAvoidingConflicts_table key candidateIds)
            (fun _ => pickCandidateAccount_table candidateIds) r hr
  | none =>
      dsimp only
      unfold pickWithRoundRobinPolicy
      cases normalizeStickyKey stickyKey with
      | none => exact ⟨items, rfl, pickExcluding_table.state hr⟩
      | some key =>
          exact pickSticky_table _ (pickAvoidingStickyConflicts_table key)
            (fun _ => pickExcluding_table) r hr

/-- Binding a session to an account that may be used. -/
theorem bindSticky_table (stickyKey : String) (accountId : Uuid) (r : Router) :
    HasTable (match normalizeStickyKey (some stickyKey) with
      | none => r.stickySessions
      | some key =>
        if (r.specific now accountId).isSome then
          bindIn r.stickySessionMaxEntries key ⟨accountId, now + r.stickySessionTtl, now⟩
            (r.liveSessions now)
        else r.stickySessions) r.stickySessionMaxEntries r.stickySessionTtl
      (bindSticky now stickyKey accountId r).2 := by
  unfold bindSticky
  cases normalizeStickyKey (some stickyKey) with
  | none => exact ⟨rfl, rfl, rfl⟩
  | some key =>
      dsimp only
      have hgives := pickSpecific_gives accountId r (Router.Sees.refl now r)
      have htable : HasTable r.stickySessions r.stickySessionMaxEntries r.stickySessionTtl
          (pickSpecific now accountId r).2 :=
        (pickSpecific_table accountId).state ⟨rfl, rfl, rfl⟩
      rw [bind_run, hgives.1]
      cases r.specific now accountId with
      | none => exact htable
      | some account => exact insertStickyMapping_table accountId _ htable

theorem unbindSticky_table (stickyKey : String) (r : Router) :
    HasTable (match normalizeStickyKey (some stickyKey) with
      | none => r.stickySessions
      | some key => (r.liveSessions now).filter (·.1 ≠ key)) r.stickySessionMaxEntries
        r.stickySessionTtl (unbindSticky now stickyKey r).2 := by
  unfold unbindSticky
  cases normalizeStickyKey (some stickyKey) with
  | none => exact ⟨rfl, rfl, rfl⟩
  | some key => exact ⟨rfl, rfl, rfl⟩

/-- The calls that bind a session by itself, to an account that may be used. -/
def Router.Binds (r : Router) (call : RouterCall) (key : String) (accountId : Uuid) : Prop :=
  ∃ stickyKey, call.op = .bindSticky stickyKey accountId ∧
    normalizeStickyKey (some stickyKey) = some key ∧
    (r.specific call.now accountId).isSome = true

/-- What a call does to the table, except binding a session by itself. -/
structure StepsTable (r : Router) (call : RouterCall) (after : StickyItems) : Prop where
  inOrder : TableInOrder r.stickySessionMaxEntries after
  keeps : ∀ key, call.op.stickyKey = some key →
    KeepsSessions call.now r.stickySessionMaxEntries key (r.liveSessions call.now)
      (pruneExpiredStickySessions call.now after)

theorem StepsTable.of_sublist {call : RouterCall} {after : StickyItems}
    (h : TableInOrder r.stickySessionMaxEntries r.stickySessions)
    (hkey : call.op.stickyKey = none) (hsub : after.Sublist r.stickySessions) :
    StepsTable r call after :=
  ⟨h.sublist hsub, fun _ hsome => nomatch hkey.symm.trans hsome⟩

theorem StepsTable.unchanged {call : RouterCall}
    (h : TableInOrder r.stickySessionMaxEntries r.stickySessions) :
    StepsTable r call r.stickySessions :=
  ⟨h, fun key _ => .refl call.now _ key _⟩

/-- A call that does not bind a session by itself. -/
theorem step_table {call : RouterCall}
    (h : TableInOrder r.stickySessionMaxEntries r.stickySessions)
    (hcapacity : 0 < r.stickySessionMaxEntries) (httl : 0 < r.stickySessionTtl)
    (hnot : ∀ key accountId, ¬ r.Binds call key accountId) :
    ∃ after, StepsTable r call after ∧
      HasTable after r.stickySessionMaxEntries r.stickySessionTtl (r.step call) := by
  rcases call with ⟨now, op⟩
  cases op with
  | replaceAccounts accounts => exact ⟨_, .of_sublist h rfl List.filter_sublist, rfl, rfl, rfl⟩
  | replaceAccountTraits accountTraits => exact ⟨_, .unchanged h, rfl, rfl, rfl⟩
  | replaceCompiledRoutingPlan plan => exact ⟨_, .unchanged h, rfl, rfl, rfl⟩
  | upsertAccount account =>
      dsimp only [Router.step, Router.upsertAccount]
      split
      · exact ⟨_, .unchanged h, rfl, rfl, rfl⟩
      · exact ⟨_, .of_sublist h rfl List.filter_sublist, rfl, rfl, rfl⟩
  | deleteAccount accountId =>
      dsimp only [Router.step, Router.deleteAccount]
      split
      · exact ⟨_, .of_sublist h rfl List.filter_sublist, rfl, rfl, rfl⟩
      · exact ⟨_, .unchanged h, rfl, rfl, rfl⟩
  | markUnhealthy accountId ttl =>
      dsimp only [Router.step, Router.markUnhealthy]
      split
      · exact ⟨_, .unchanged h, rfl, rfl, rfl⟩
      · exact ⟨_, .unchanged h, rfl, rfl, rfl⟩
  | clearUnhealthy accountId =>
      dsimp only [Router.step, Router.clearUnhealthy]
      split
      · exact ⟨_, .unchanged h, rfl, rfl, rfl⟩
      · exact ⟨_, .unchanged h, rfl, rfl, rfl⟩
  | clearAllUnhealthy => exact ⟨_, .unchanged h, rfl, rfl, rfl⟩
  | recordSuccess accountId =>
      dsimp only [Router.step, Router.recordSuccess]
      split
      · exact ⟨_, .unchanged h, rfl, rfl, rfl⟩
      · exact ⟨_, .unchanged h, rfl, rfl, rfl⟩
  | bindSticky stickyKey accountId =>
      have htable := @bindSticky_table now stickyKey accountId r
      cases hkey : normalizeStickyKey (some stickyKey) with
      | none =>
          rw [hkey] at htable
          exact ⟨_, .unchanged h, htable⟩
      | some key =>
          have hunusable : ¬ (r.specific now accountId).isSome = true := fun husable =>
            hnot key accountId ⟨stickyKey, rfl, hkey, husable⟩
          rw [hkey] at htable
          dsimp only at htable
          rw [if_neg hunusable] at htable
          exact ⟨_, .unchanged h, htable⟩
  | unbindSticky stickyKey =>
      have htable := @unbindSticky_table now stickyKey r
      cases hkey : normalizeStickyKey (some stickyKey) with
      | none =>
          rw [hkey] at htable
          exact ⟨_, .unchanged h, htable⟩
      | some key =>
          rw [hkey] at htable
          refine ⟨_, ⟨h.prune.sublist List.filter_sublist, fun key' hkey' => ?_⟩, htable⟩
          cases Option.some.inj (hkey.symm.trans hkey')
          rw [prune_of_live fun _ => live_of_mem_filter]
          exact keepsSessions_drop now _ key _
  | pick pick =>
      have hself : HasTable r.stickySessions r.stickySessionMaxEntries r.stickySessionTtl r :=
        ⟨rfl, rfl, rfl⟩
      cases pick with
      | pickExcluding excluded => exact ⟨_, .unchanged h, pickExcluding_table.state hself⟩
      | pickAccount accountId => exact ⟨_, .unchanged h, (pickSpecific_table accountId).state hself⟩
      | pickForModel model stickyKey excluded prefer =>
          rcases @pickForModel_table now excluded _ _ _ model stickyKey prefer r hself with
            ⟨after, hafter, htable⟩
          refine ⟨after, ?_, htable⟩
          cases hkey : normalizeStickyKey stickyKey with
          | none =>
              rw [hkey] at hafter
              rw [show after = r.stickySessions from hafter]
              exact .unchanged h
          | some key =>
              rw [hkey] at hafter
              rcases picksFor_inOrder h.prune (fun _ => live_of_mem_prune) hcapacity httl
                hafter with
                ⟨hinOrder, hlive, hkeeps⟩
              refine ⟨hinOrder, fun key' hkey' => ?_⟩
              cases Option.some.inj (hkey.symm.trans hkey')
              rw [prune_of_live hlive]
              exact hkeeps

theorem step_binds {call : RouterCall} {key : String} {accountId : Uuid}
    (hbinds : r.Binds call key accountId) :
    call.op.stickyKey = some key ∧
      HasTable (bindIn r.stickySessionMaxEntries key
          ⟨accountId, call.now + r.stickySessionTtl, call.now⟩ (r.liveSessions call.now))
        r.stickySessionMaxEntries r.stickySessionTtl (r.step call) := by
  rcases call with ⟨now, op⟩
  rcases hbinds with ⟨stickyKey, rfl, hkey, husable⟩
  have htable := @bindSticky_table now stickyKey accountId r
  rw [hkey] at htable
  dsimp only at htable
  rw [if_pos husable] at htable
  exact ⟨hkey, htable⟩

end Calls

/-! ## Counters -/

namespace Counted

theorem pickForModel_eq {now : Nat} {excluded : List Uuid} {model stickyKey : Option String}
    {prefer : Bool} (c : CountedRouter) : pickForModel now model stickyKey excluded prefer c =
      (match c.candidateAccountIdsForModel model with
      | some candidateIds => pickFromOrderedCandidates now candidateIds stickyKey excluded prefer
      | none => pickWithRoundRobinPolicy now stickyKey excluded prefer) c := rfl

theorem pickForModel_counted {now : Nat} {excluded : List Uuid} {model stickyKey : Option String}
    {prefer : Bool} {c : CountedRouter} (h : c.Counted) :
    (pickForModel now model stickyKey excluded prefer c).2.Counted := by
  have hsession : ∀ allowed key spread fresh,
      (pickSticky now allowed key prefer spread fresh c).2.Counted := by
    intro allowed key spread fresh
    rcases pickSticky_counts allowed key prefer spread fresh ⟨rfl, rfl, rfl⟩ with hc | hc
    · rw [CountedRouter.Counted, hc.1, hc.2.1, hc.2.2, h]
      rw [UInt64.add_assoc, UInt64.add_comm c.stickyCounts.missCount, ← UInt64.add_assoc]
    · rw [CountedRouter.Counted, hc.1, hc.2.1, hc.2.2, h]
      exact UInt64.add_assoc _ _ _
  rw [pickForModel_eq]
  unfold pickFromOrderedCandidates pickWithRoundRobinPolicy
  cases normalizeStickyKey stickyKey with
  | none =>
      cases c.candidateAccountIdsForModel model with
      | none => exact h
      | some candidateIds => exact h
  | some key =>
      cases c.candidateAccountIdsForModel model with
      | none => exact hsession _ _ _ _
      | some candidateIds => exact hsession _ _ _ _

theorem bindSticky_counted {now : Nat} {stickyKey : String} {accountId : Uuid}
    {c : CountedRouter} (h : c.Counted) : (bindSticky now stickyKey accountId c).2.Counted := by
  have hcounts : ∀ {total hits misses : UInt64},
      Keeps (Counts total hits misses) (bindSticky now stickyKey accountId) := by
    intro total hits misses
    unfold bindSticky
    cases normalizeStickyKey (some stickyKey) with
    | none => exact .pure false
    | some key =>
        apply Keeps.bind (onRouter_counts _)
        intro picked
        cases picked with
        | none => exact .pure false
        | some account =>
            apply Keeps.bind (onRouter_counts _)
            exact fun rebind => .bind (countRebind_counts rebind) fun _ => .pure true
  have hc := hcounts.state (⟨rfl, rfl, rfl⟩ : Counts _ _ _ c)
  rw [CountedRouter.Counted, hc.1, hc.2.1, hc.2.2]
  exact h

end Counted

namespace CountedRouter

variable {c : CountedRouter} {call : RouterCall}

theorem Counted.step (h : c.Counted) (call : RouterCall) : (c.step call).Counted := by
  rcases call with ⟨now, op⟩
  cases op with
  | bindSticky stickyKey accountId =>
      rw [CountedRouter.step]
      exact CodexPool.Counted.bindSticky_counted h
  | pick pick =>
      rw [CountedRouter.step]
      cases pick with
      | pickExcluding excluded => exact h
      | pickForModel model stickyKey excluded prefer =>
          exact CodexPool.Counted.pickForModel_counted h
      | pickAccount accountId => exact h
  | _ =>
      rw [CountedRouter.step, CountedRouter.Counted]
      exact h

theorem StickyInvariant.step (h : c.StickyInvariant) (call : RouterCall) :
    (c.step call).StickyInvariant := by
  have htable : TableInOrder c.stickySessionMaxEntries c.stickySessions := ⟨h.nodup, h.bounded⟩
  have hafter : ∃ after, TableInOrder c.stickySessionMaxEntries after ∧
      HasTable after c.stickySessionMaxEntries c.stickySessionTtl (c.step call).toRouter := by
    rw [toRouter_step]
    by_cases hbinds : ∃ key accountId, c.toRouter.Binds call key accountId
    · rcases hbinds with ⟨key, accountId, hbinds⟩
      exact ⟨_, htable.prune.bindIn h.capacity, (step_binds hbinds).2⟩
    · rw [not_exists] at hbinds
      rcases step_table htable h.capacity h.ttl
        (fun key accountId hb => hbinds key ⟨accountId, hb⟩) with ⟨after, hsteps, hhas⟩
      exact ⟨after, hsteps.inOrder, hhas⟩
  rcases hafter with ⟨after, hinOrder, hitems, hmax, httl⟩
  constructor
  · rw [hitems]
    exact hinOrder.nodup
  · rw [hitems, hmax]
    exact hinOrder.bounded
  · rw [hmax]
    exact h.capacity
  · rw [httl]
    exact h.ttl
  · exact Counted.step h.counted call

theorem rebindsInPlace_of_not_binds
    (hnot : ∀ key accountId, ¬ c.toRouter.Binds call key accountId) : c.RebindsInPlace call :=
  fun stickyKey accountId key hop hkey husable _ =>
    absurd ⟨stickyKey, hop, hkey, husable⟩ (hnot key accountId)

theorem rebindsInPlace_of_binds {key : String} {accountId : Uuid}
    (hbinds : c.toRouter.Binds call key accountId)
    (h : key ∈ (c.liveSessions call.now).map (·.1) →
      (c.liveSessions call.now).length < c.stickySessionMaxEntries ∨
        (oldestSession (c.liveSessions call.now)).map (·.1) = some key) :
    c.RebindsInPlace call := by
  intro stickyKey accountId' key' hop hkey' _
  have hkey : normalizeStickyKey (some stickyKey) = some key := by
    have hop' := (step_binds hbinds).1
    rw [hop] at hop'
    exact hop'
  cases Option.some.inj (hkey.symm.trans hkey')
  exact h

theorem RebindsInPlace.of_binds {key : String} {accountId : Uuid} (h : c.RebindsInPlace call)
    (hbinds : c.toRouter.Binds call key accountId) :
    key ∈ (c.liveSessions call.now).map (·.1) →
      (c.liveSessions call.now).length < c.stickySessionMaxEntries ∨
        (oldestSession (c.liveSessions call.now)).map (·.1) = some key := by
  rcases hbinds with ⟨stickyKey, hop, hkey, husable⟩
  exact h stickyKey accountId key hop hkey husable

/-- A call is in order exactly when it does not bind a session again at the cost of another. -/
theorem StickyInvariant.disciplined_iff (h : c.StickyInvariant) (call : RouterCall) :
    c.Disciplined call ↔ c.RebindsInPlace call := by
  have htable : TableInOrder c.stickySessionMaxEntries c.stickySessions := ⟨h.nodup, h.bounded⟩
  have hnext := StickyInvariant.step h call
  have hbounded : ∀ {after}, HasTable after c.stickySessionMaxEntries c.stickySessionTtl
      (c.step call).toRouter → (c.step call).stickySessions.length ≤ c.stickySessionMaxEntries :=
    fun hhas => hhas.2.1 ▸ hnext.bounded
  by_cases hbinds : ∃ key accountId, c.toRouter.Binds call key accountId
  · rcases hbinds with ⟨key, accountId, hbinds⟩
    rcases step_binds hbinds with ⟨hkey, hhas⟩
    rw [← toRouter_step] at hhas
    have hlive : (c.step call).liveSessions call.now = bindIn c.stickySessionMaxEntries key
        ⟨accountId, call.now + c.stickySessionTtl, call.now⟩ (c.liveSessions call.now) := by
      rw [Router.liveSessions, hhas.1]
      exact prune_of_live fun _ => live_of_mem_bindIn h.ttl fun _ => live_of_mem_prune
    have hiff := @keepsSessions_bindIn_iff call.now c.stickySessionMaxEntries key
      ⟨accountId, call.now + c.stickySessionTtl, call.now⟩ (c.liveSessions call.now)
      (@TableInOrder.prune call.now _ _ htable).bounded h.capacity rfl
    rw [← hlive] at hiff
    constructor
    · exact fun hd => rebindsInPlace_of_binds hbinds (hiff.1 (hd.sessions key hkey))
    · intro hr
      refine ⟨hbounded hhas, fun key' hkey' => ?_, hnext.counted⟩
      cases Option.some.inj (hkey.symm.trans hkey')
      exact hiff.2 (hr.of_binds hbinds)
  · rw [not_exists] at hbinds
    have hnot : ∀ key accountId, ¬ c.toRouter.Binds call key accountId := fun key accountId hb =>
      hbinds key ⟨accountId, hb⟩
    rcases step_table htable h.capacity h.ttl hnot with ⟨after, hsteps, hhas⟩
    rw [← toRouter_step] at hhas
    refine iff_of_true ⟨hbounded hhas, fun key hkey => ?_, hnext.counted⟩
      (rebindsInPlace_of_not_binds hnot)
    have hlive : (c.step call).liveSessions call.now =
        pruneExpiredStickySessions call.now after := by
      rw [Router.liveSessions, hhas.1]
    rw [hlive]
    exact hsteps.keeps key hkey

/-! ## Runs -/

theorem stickyInvariant_new (accounts : List UpstreamAccount) (ttl maxEntries : Nat) :
    (newWithStickyLimits accounts ttl maxEntries).StickyInvariant where
  nodup := List.nodup_nil
  bounded := Nat.zero_le _
  capacity := Nat.lt_of_lt_of_le Nat.one_pos (le_max_right maxEntries 1)
  ttl := Nat.lt_of_lt_of_le Nat.one_pos (le_max_right ttl 1)
  counted := rfl

/-- In a run from the start, every call is in order exactly when no session is bound again at the
cost of another one. -/
theorem disciplined_run_iff (accounts : List UpstreamAccount) (ttl maxEntries : Nat)
    (calls : List RouterCall) :
    Machine.Along step Disciplined (newWithStickyLimits accounts ttl maxEntries) calls ↔
      Machine.Along step RebindsInPlace (newWithStickyLimits accounts ttl maxEntries) calls :=
  Machine.along_congr (P := StickyInvariant) (fun _ call h => h.step call)
    (fun _ call h => h.disciplined_iff call) (stickyInvariant_new accounts ttl maxEntries) calls

/-- Two sessions fill the table; the second one is bound again. -/
def boundTwice : List RouterCall :=
  [⟨1, .bindSticky "a" ⟨"x"⟩⟩, ⟨2, .bindSticky "b" ⟨"x"⟩⟩, ⟨3, .bindSticky "b" ⟨"x"⟩⟩]

theorem other_session_evicted :
    let c := Machine.run step (newWithStickyLimits [sampleAccount "x"] 1000 2) (boundTwice.take 2)
    c.stickySessions.map (·.1) = ["a", "b"] ∧
      (c.step ⟨3, .bindSticky "b" ⟨"x"⟩⟩).stickySessions.map (·.1) = ["b"] := by
  decide +kernel

end CountedRouter

end CodexPool
