import CodexPool.ControlPlane.AccountMaps

/-!
# Transitions of the pool

A report or a probe moves an account between the states of the pool, or leaves it where it is. What
it does to the account is told by one of four transitions. Only a transition that marks the account
for deletion writes to the map of the accounts as well: it disables the account.
-/

namespace CodexPool

inductive PoolTransition where
  | keep
  | activate (at' : DateTime)
  | quarantine (at' : DateTime) (until' : Option DateTime) (reason : Option String)
  | purge (reason : Option String) (now : DateTime)

namespace PoolTransition

/-- What becomes of the state of the account. -/
def health (cfg : OAuthConfig) (transition : PoolTransition)
    (state : UpstreamAccountHealthStateRecord) : UpstreamAccountHealthStateRecord :=
  match transition with
  | .keep => state
  | .activate at' =>
    { state with
      poolState := .active
      quarantineUntil := none
      quarantineReason := none
      pendingPurgeAt := none
      pendingPurgeReason := none
      lastPoolTransitionAt := some at' }
  | .quarantine at' until' reason =>
    { state with
      poolState := .quarantine
      quarantineUntil := until'
      quarantineReason := Text.trimmed? reason
      pendingPurgeAt := none
      pendingPurgeReason := none
      lastPoolTransitionAt := some at' }
  | .purge reason now =>
    { state with
      poolState := .pendingPurge
      quarantineUntil := none
      quarantineReason := none
      pendingPurgeAt := some
        ((state.pendingPurgeAt.filter (now < ·)).getD (now + cfg.pendingPurgeDelay))
      pendingPurgeReason := (Text.trimmed? reason).or state.pendingPurgeReason
      lastPoolTransitionAt := some now }

def disables : PoolTransition → Bool
  | .purge _ _ => true
  | _ => false

/-- What becomes of the accounts. -/
def accounts (transition : PoolTransition) (accountId : Uuid) (items : List UpstreamAccount) :
    List UpstreamAccount :=
  if transition.disables then
    items.map fun a => if a.id = accountId then { a with enabled := false } else a
  else items

end PoolTransition

/-- The columns of a health state that tell of the pool. -/
def UpstreamAccountHealthStateRecord.pool (state : UpstreamAccountHealthStateRecord) :
    UpstreamAccountHealthStateRecord :=
  { state with lastProbeAt := none, lastProbeOutcome := none }

/-- Where the account stands in the pool. -/
def OAuthStore.poolRecord (s : OAuthStore) (accountId : Uuid) : UpstreamAccountHealthStateRecord :=
  (s.healthState accountId).pool

namespace AccountMaps

structure Moves (cfg : AccountMapsConfig) (accountId : Uuid) (transition : PoolTransition)
    (w w' : AccountMaps) : Prop where
  pool : w'.oauth.poolRecord accountId =
    transition.health cfg.oauth (w.oauth.poolRecord accountId)
  others : ∀ id, id ≠ accountId → w'.oauth.poolRecord id = w.oauth.poolRecord id
  accounts : w'.oauth.accounts = transition.accounts accountId w.oauth.accounts

section Moves

variable {cfg : AccountMapsConfig} {accountId : Uuid} {transition : PoolTransition}
  {w w' w'' : AccountMaps}

theorem Moves.after_keep (h : Moves cfg accountId .keep w w')
    (h' : Moves cfg accountId transition w' w'') : Moves cfg accountId transition w w'' where
  pool := by
    rw [h'.pool, h.pool]
    rfl
  others id hid := (h'.others id hid).trans (h.others id hid)
  accounts := by
    rw [h'.accounts, h.accounts]
    rfl

theorem Moves.then_keep (h : Moves cfg accountId transition w w')
    (h' : Moves cfg accountId .keep w' w'') : Moves cfg accountId transition w w'' where
  pool := h'.pool.trans h.pool
  others id hid := (h'.others id hid).trans (h.others id hid)
  accounts := h'.accounts.trans h.accounts

theorem moves_setHealthState {state : UpstreamAccountHealthStateRecord}
    (hstate : state.pool = transition.health cfg.oauth (w.oauth.poolRecord accountId))
    (hkeeps : transition.disables = false) :
    Moves cfg accountId transition w (w.withOauth (w.oauth.setHealthState accountId state)) where
  pool := by
    rw [← hstate]
    change ((w.oauth.setHealthState accountId state).healthState accountId).pool = _
    rw [OAuthStore.healthState_setHealthState, if_pos rfl]
  others id hid := by
    change ((w.oauth.setHealthState accountId state).healthState id).pool = _
    rw [OAuthStore.healthState_setHealthState, if_neg hid]
    rfl
  accounts := by
    rw [PoolTransition.accounts, hkeeps]
    rfl

theorem moves_setLiveSignals (cfg : AccountMapsConfig) (w : AccountMaps) (accountId : Uuid)
    (signals : AccountLiveSignals) :
    Moves cfg accountId .keep w (w.setLiveSignals accountId signals) := by
  have hwrite : Moves cfg accountId .keep w
      (w.withOauth (w.oauth.setHealthState accountId (w.oauth.healthState accountId))) :=
    moves_setHealthState rfl rfl
  exact ⟨hwrite.pool, hwrite.others, hwrite.accounts⟩

theorem moves_of_eq (hhealth : w'.oauth.healthStates = w.oauth.healthStates)
    (haccounts : w'.oauth.accounts = w.oauth.accounts) : Moves cfg accountId .keep w w' := by
  have hpool (id : Uuid) : w'.oauth.poolRecord id = w.oauth.poolRecord id := by
    unfold OAuthStore.poolRecord OAuthStore.healthState
    rw [hhealth]
  exact ⟨hpool accountId, fun id _ => hpool id, haccounts⟩

theorem moves_activate (cfg : AccountMapsConfig) (w : AccountMaps) (accountId : Uuid)
    (at' : DateTime) :
    Moves cfg accountId (.activate at') w
      (w.withOauth (w.oauth.setAccountPoolStateActiveInner accountId at')) :=
  moves_setHealthState rfl rfl

theorem moves_quarantine {at' : DateTime} {until' : Option DateTime} {reason : Option String}
    (h : w.setAccountPoolStateQuarantineInner accountId at' until' reason = .ok w') :
    Moves cfg accountId (.quarantine at' until' reason) w w' := by
  unfold setAccountPoolStateQuarantineInner at h
  split at h
  · cases h
  · rw [← Except.ok.inj h]
    exact moves_setHealthState rfl rfl

theorem moves_markPendingPurge {reason : Option String} {now : DateTime}
    (h : w.markUpstreamAccountPendingPurgeInner cfg accountId reason now = .ok w') :
    Moves cfg accountId (.purge reason now) w w' := by
  unfold markUpstreamAccountPendingPurgeInner at h
  split at h
  · cases h
  · rename_i account haccount
    rw [← Except.ok.inj h]
    unfold OAuthStore.markUpstreamAccountPendingPurgeInner
    rw [haccount]
    constructor
    · change ((OAuthStore.setHealthState _ accountId _).healthState accountId).pool = _
      rw [OAuthStore.healthState_setHealthState, if_pos rfl]
      rfl
    · intro id hid
      change ((OAuthStore.setHealthState _ accountId _).healthState id).pool = _
      rw [OAuthStore.healthState_setHealthState, if_neg hid]
      rfl
    · rfl

theorem moves_recordAccountProbeResultInner (cfg : AccountMapsConfig) (w : AccountMaps)
    (accountId : Uuid) (checkedAt : DateTime) (outcome : AccountProbeOutcome) :
    Moves cfg accountId .keep w (w.recordAccountProbeResultInner accountId checkedAt outcome) :=
  moves_setHealthState rfl rfl

end Moves

/-! ## Reports -/

def strikesAfter (cfg : AccountMapsConfig) (signals : AccountLiveSignals) (reportedAt : DateTime) :
    Nat :=
  if signals.tokenInvalidatedFirstAt.any fun firstAt =>
      reportedAt ≤ firstAt + cfg.tokenInvalidatedPurgeWindow then
    nextCount signals.tokenInvalidatedStrikeCount
  else 1

def strikesOut (cfg : AccountMapsConfig) (w : AccountMaps) (accountId : Uuid)
    (reportedAt : DateTime) : Bool :=
  decide (cfg.tokenInvalidatedPurgeThreshold (w.accountAuthProvider accountId) ≤
    strikesAfter cfg (w.liveSignals accountId) reportedAt)

/-- The transition that a report asks for. -/
def liveTransition (cfg : AccountMapsConfig) (w : AccountMaps) (report : LiveResultReport)
    (now : DateTime) : PoolTransition :=
  let errorCode := normalizedLiveErrorCode report.errorCode
  match report.status with
  | .ok => .activate report.reportedAt
  | .failed =>
    if errorCode = some "account_deactivated" then .purge (some "account_deactivated") now
    else if errorCode = some "rate_limited" ∨ errorCode = some "quota_exhausted" then
      let reason := errorCode.getD "rate_limited"
      .quarantine report.reportedAt
        (some (report.reportedAt + rateLimitFailureBackoff cfg.oauth reason "")) (some reason)
    else if errorCode = some "auth_expired" then
      .quarantine report.reportedAt (some (report.reportedAt + seconds (30 * 60))) errorCode
    else if errorCode = some "token_invalidated" then
      if w.strikesOut cfg report.accountId report.reportedAt then
        .purge (some "token_invalidated") now
      else
        .quarantine report.reportedAt (some (report.reportedAt + seconds (30 * 60)))
          (some "token_invalidated")
    else .keep

section Reports

variable {cfg : AccountMapsConfig} {w w' : AccountMaps} {accountId : Uuid}

theorem moves_resetTokenInvalidatedStrikesInner (cfg : AccountMapsConfig) (w : AccountMaps)
    (accountId : Uuid) :
    Moves cfg accountId .keep w (w.resetTokenInvalidatedStrikesInner accountId) :=
  moves_setLiveSignals cfg w accountId _

theorem moves_applyTokenInvalidated {reportedAt now : DateTime}
    (h : w.applyTokenInvalidated cfg accountId reportedAt now = .ok w') :
    Moves cfg accountId
      (if w.strikesOut cfg accountId reportedAt then .purge (some "token_invalidated") now
        else .quarantine reportedAt (some (reportedAt + seconds (30 * 60)))
          (some "token_invalidated")) w w' := by
  simp only [applyTokenInvalidated, Result.bind_eq_ok] at h
  rcases h with ⟨⟨purge, struck⟩, hstrike, happly⟩
  unfold recordTokenInvalidatedStrikeInner at hstrike
  split at hstrike
  · cases hstrike
  · have hpair := Except.ok.inj hstrike
    have hstruck : Moves cfg accountId .keep w struck := by
      rw [← (Prod.mk.inj hpair).2]
      exact moves_setLiveSignals cfg w accountId _
    have hpurge : w.strikesOut cfg accountId reportedAt = purge := by
      rw [← (Prod.mk.inj hpair).1, strikesOut, strikesAfter]
      congr 2
      split
      · rfl
      · rfl
    rw [hpurge]
    dsimp only at happly
    cases purge with
    | true => exact hstruck.after_keep (moves_markPendingPurge happly)
    | false => exact hstruck.after_keep (moves_quarantine happly)

theorem moves_applyFailedLiveResult {report : LiveResultReport} {now : DateTime}
    {applied : Bool × AccountMaps} (hfailed : report.status = .failed)
    (h : w.applyFailedLiveResult cfg report now = .ok applied) :
    Moves cfg report.accountId (w.liveTransition cfg report now) w applied.2 := by
  have hreset := moves_resetTokenInvalidatedStrikesInner cfg w report.accountId
  unfold applyFailedLiveResult at h
  unfold liveTransition
  rw [hfailed]
  dsimp only at h ⊢
  split at h
  · rename_i hcode
    rw [if_pos hcode]
    simp only [Result.bind_eq_ok, pure, Except.pure] at h
    rcases h with ⟨w', hmark, hdone⟩
    rw [← Except.ok.inj hdone]
    exact hreset.after_keep (moves_markPendingPurge hmark)
  · rename_i hcode
    rw [if_neg hcode]
    split at h
    · rename_i hlimited
      rw [if_pos hlimited]
      simp only [Result.bind_eq_ok, pure, Except.pure] at h
      rcases h with ⟨w', hquarantine, hdone⟩
      rw [← Except.ok.inj hdone]
      exact hreset.after_keep (moves_quarantine hquarantine)
    · rename_i hlimited
      rw [if_neg hlimited]
      split at h
      · rename_i hexpired
        rw [if_pos hexpired]
        simp only [Result.bind_eq_ok, pure, Except.pure] at h
        rcases h with ⟨w', hquarantine, hdone⟩
        rw [← Except.ok.inj hdone]
        exact hreset.after_keep (moves_quarantine hquarantine)
      · rename_i hexpired
        rw [if_neg hexpired]
        split at h
        · rename_i hinvalidated
          rw [if_pos hinvalidated]
          simp only [Result.bind_eq_ok, pure, Except.pure] at h
          rcases h with ⟨w', happly, hdone⟩
          rw [← Except.ok.inj hdone]
          exact moves_applyTokenInvalidated happly
        · rename_i hother
          rw [if_neg hother, ← Except.ok.inj h]
          exact hreset

theorem liveTransition_noteLiveResult (cfg : AccountMapsConfig) (w : AccountMaps)
    (report : LiveResultReport) (now : DateTime) :
    (w.noteLiveResult report).liveTransition cfg report now = w.liveTransition cfg report now := by
  have hstrikes : (w.noteLiveResult report).strikesOut cfg report.accountId report.reportedAt =
      w.strikesOut cfg report.accountId report.reportedAt := by
    have hsignals : strikesAfter cfg ((w.noteLiveResult report).liveSignals report.accountId)
        report.reportedAt =
          strikesAfter cfg (w.liveSignals report.accountId) report.reportedAt := by
      have hnoted : (w.noteLiveResult report).liveSignals report.accountId = _ :=
        Function.update_self report.accountId _ w.liveSignals
      rw [hnoted]
      rfl
    exact decide_eq_decide.2 (by rw [hsignals]; rfl)
  unfold liveTransition
  rw [hstrikes]

/-- A report that is taken moves the account as it asks for. -/
theorem moves_recordLiveResult {report : LiveResultReport} {now : DateTime}
    {recorded : Bool × AccountMaps}
    (h : w.recordUpstreamAccountLiveResultInner cfg report now = .ok recorded) :
    Moves cfg report.accountId (w.liveTransition cfg report now) w recorded.2 := by
  unfold recordUpstreamAccountLiveResultInner at h
  split at h
  · cases h
  · have hnoted : Moves cfg report.accountId .keep w (w.noteLiveResult report) :=
      moves_setLiveSignals cfg w report.accountId _
    dsimp only at h
    rw [← liveTransition_noteLiveResult]
    cases hstatus : report.status with
    | ok =>
        rw [hstatus] at h
        rw [← Except.ok.inj h]
        have hseen : Moves cfg report.accountId .keep (w.noteLiveResult report)
            ((w.noteLiveResult report).markAccountSeenOkInner report.accountId report.reportedAt
              0).2 := by
          unfold markAccountSeenOkInner
          dsimp only
          split
          · exact moves_setLiveSignals cfg _ report.accountId _
          · exact moves_setLiveSignals cfg _ report.accountId _
        have htransition : (w.noteLiveResult report).liveTransition cfg report now =
            .activate report.reportedAt := by
          unfold liveTransition
          rw [hstatus]
        rw [htransition]
        exact (hnoted.after_keep hseen).after_keep (moves_activate cfg _ report.accountId _)
    | failed =>
        rw [hstatus] at h
        exact hnoted.after_keep (moves_applyFailedLiveResult hstatus h)

end Reports

end AccountMaps

end CodexPool
