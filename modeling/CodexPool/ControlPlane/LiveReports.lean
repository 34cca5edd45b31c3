import CodexPool.ControlPlane.PoolTransitions
import CodexPool.ControlPlane.SideMaps
import CodexPool.Lib.Machine

/-!
# The order of reports

Reports about an account come from several data planes and are written down as they arrive. A
report that arrives after a newer one takes its place all the same, and moves the account. So the
newest report has the last word exactly when the reports arrive in order. Of quarantines the last
one counts too, even when the one before it would have ended later.
-/

namespace CodexPool

namespace AccountMaps

/-! ## What is written of a report -/

section Notes

variable {cfg : AccountMapsConfig} {w w' : AccountMaps} {accountId : Uuid}

/-- The time of the last report is left alone. -/
def KeepsNote (accountId : Uuid) (w w' : AccountMaps) : Prop :=
  (w'.liveSignals accountId).lastLiveResultAt = (w.liveSignals accountId).lastLiveResultAt

theorem keepsNote_quarantine {at' : DateTime} {until' : Option DateTime} {reason : Option String}
    (h : w.setAccountPoolStateQuarantineInner accountId at' until' reason = .ok w') :
    KeepsNote accountId w w' := by
  unfold setAccountPoolStateQuarantineInner at h
  split at h
  · cases h
  · rw [← Except.ok.inj h]
    rfl

theorem keepsNote_markPendingPurge {reason : Option String} {now : DateTime}
    (h : w.markUpstreamAccountPendingPurgeInner cfg accountId reason now = .ok w') :
    KeepsNote accountId w w' := by
  unfold markUpstreamAccountPendingPurgeInner at h
  split at h
  · cases h
  · rw [← Except.ok.inj h]
    rfl

theorem keepsNote_setLiveSignals {signals : AccountLiveSignals}
    (h : signals.lastLiveResultAt = (w.liveSignals accountId).lastLiveResultAt) :
    KeepsNote accountId w (w.setLiveSignals accountId signals) := by
  have hsignals : (w.setLiveSignals accountId signals).liveSignals accountId = signals := by
    unfold setLiveSignals
    exact Function.update_self accountId signals w.liveSignals
  rw [KeepsNote, hsignals, h]

theorem keepsNote_applyTokenInvalidated {reportedAt now : DateTime}
    (h : w.applyTokenInvalidated cfg accountId reportedAt now = .ok w') :
    KeepsNote accountId w w' := by
  simp only [applyTokenInvalidated, Result.bind_eq_ok] at h
  rcases h with ⟨⟨purge, struck⟩, hstrike, happly⟩
  unfold recordTokenInvalidatedStrikeInner at hstrike
  split at hstrike
  · cases hstrike
  · have hstruck : KeepsNote accountId w struck := by
      rw [← (Prod.mk.inj (Except.ok.inj hstrike)).2]
      apply keepsNote_setLiveSignals
      split
      · rfl
      · rfl
    dsimp only at happly
    cases purge with
    | true => exact (keepsNote_markPendingPurge happly).trans hstruck
    | false => exact (keepsNote_quarantine happly).trans hstruck

theorem keepsNote_applyFailedLiveResult {report : LiveResultReport} {now : DateTime}
    {applied : Bool × AccountMaps} (h : w.applyFailedLiveResult cfg report now = .ok applied) :
    KeepsNote report.accountId w applied.2 := by
  have hreset : KeepsNote report.accountId w
      (w.resetTokenInvalidatedStrikesInner report.accountId) := keepsNote_setLiveSignals rfl
  unfold applyFailedLiveResult at h
  dsimp only at h
  split at h
  · simp only [Result.bind_eq_ok, pure, Except.pure] at h
    rcases h with ⟨w', hmark, hdone⟩
    rw [← Except.ok.inj hdone]
    exact (keepsNote_markPendingPurge hmark).trans hreset
  · split at h
    · simp only [Result.bind_eq_ok, pure, Except.pure] at h
      rcases h with ⟨w', hquarantine, hdone⟩
      rw [← Except.ok.inj hdone]
      exact (keepsNote_quarantine hquarantine).trans hreset
    · split at h
      · simp only [Result.bind_eq_ok, pure, Except.pure] at h
        rcases h with ⟨w', hquarantine, hdone⟩
        rw [← Except.ok.inj hdone]
        exact (keepsNote_quarantine hquarantine).trans hreset
      · split at h
        · simp only [Result.bind_eq_ok, pure, Except.pure] at h
          rcases h with ⟨w', happly, hdone⟩
          rw [← Except.ok.inj hdone]
          exact keepsNote_applyTokenInvalidated happly
        · rw [← Except.ok.inj h]
          exact hreset

/-- Every report that is taken is written down with its time. -/
theorem lastLiveResultAt_recordLiveResult {report : LiveResultReport} {now : DateTime}
    {recorded : Bool × AccountMaps}
    (h : w.recordUpstreamAccountLiveResultInner cfg report now = .ok recorded) :
    (recorded.2.liveSignals report.accountId).lastLiveResultAt = some report.reportedAt := by
  have hnoted : ((w.noteLiveResult report).liveSignals report.accountId).lastLiveResultAt =
      some report.reportedAt :=
    congrArg AccountLiveSignals.lastLiveResultAt
      (Function.update_self report.accountId _ w.liveSignals)
  rw [← hnoted]
  unfold recordUpstreamAccountLiveResultInner at h
  split at h
  · cases h
  · dsimp only at h
    cases hstatus : report.status with
    | ok =>
        rw [hstatus] at h
        rw [← Except.ok.inj h]
        change KeepsNote report.accountId (w.noteLiveResult report)
          ((w.noteLiveResult report).markAccountSeenOkInner report.accountId report.reportedAt 0).2
        unfold markAccountSeenOkInner
        dsimp only
        split
        · exact keepsNote_setLiveSignals rfl
        · exact keepsNote_setLiveSignals rfl
    | failed =>
        rw [hstatus] at h
        exact keepsNote_applyFailedLiveResult h

theorem exists_account_of_mem_ids (h : accountId ∈ w.oauth.ids) :
    ∃ account, w.oauth.account? accountId = some account := by
  cases haccount : w.oauth.account? accountId with
  | some account => exact ⟨account, rfl⟩
  | none =>
      unfold OAuthStore.account? at haccount
      rw [Keyed.lookupBy_eq_none_iff] at haccount
      exact absurd h haccount

theorem quarantine_isOk (h : accountId ∈ w.oauth.ids) (at' : DateTime) (until' : Option DateTime)
    (reason : Option String) :
    ∃ w', w.setAccountPoolStateQuarantineInner accountId at' until' reason = .ok w' := by
  rcases exists_account_of_mem_ids h with ⟨account, haccount⟩
  unfold setAccountPoolStateQuarantineInner
  rw [haccount]
  exact ⟨_, rfl⟩

theorem markPendingPurge_isOk (cfg : AccountMapsConfig) (h : accountId ∈ w.oauth.ids)
    (reason : Option String) (now : DateTime) :
    ∃ w', w.markUpstreamAccountPendingPurgeInner cfg accountId reason now = .ok w' := by
  rcases exists_account_of_mem_ids h with ⟨account, haccount⟩
  unfold markUpstreamAccountPendingPurgeInner
  rw [haccount]
  exact ⟨_, rfl⟩

theorem recordTokenInvalidatedStrike_isOk (cfg : AccountMapsConfig) (h : accountId ∈ w.oauth.ids)
    (reportedAt : DateTime) :
    ∃ purge struck, w.recordTokenInvalidatedStrikeInner cfg accountId reportedAt =
        .ok (purge, struck) ∧ accountId ∈ struck.oauth.ids := by
  rcases exists_account_of_mem_ids h with ⟨account, haccount⟩
  unfold recordTokenInvalidatedStrikeInner
  rw [haccount]
  exact ⟨_, _, rfl, h⟩

theorem applyTokenInvalidated_isOk (cfg : AccountMapsConfig) (h : accountId ∈ w.oauth.ids)
    (reportedAt now : DateTime) :
    ∃ w', w.applyTokenInvalidated cfg accountId reportedAt now = .ok w' := by
  rcases recordTokenInvalidatedStrike_isOk cfg h reportedAt with ⟨purge, struck, hstrike, hids⟩
  unfold applyTokenInvalidated
  rw [hstrike]
  cases purge with
  | true => exact markPendingPurge_isOk cfg hids _ now
  | false => exact quarantine_isOk hids _ _ _

theorem applyFailedLiveResult_isOk (cfg : AccountMapsConfig) {report : LiveResultReport}
    (h : report.accountId ∈ w.oauth.ids) (now : DateTime) :
    ∃ applied, w.applyFailedLiveResult cfg report now = .ok applied := by
  have hreset : report.accountId ∈
      (w.resetTokenInvalidatedStrikesInner report.accountId).oauth.ids := h
  unfold applyFailedLiveResult
  dsimp only
  split
  · rcases markPendingPurge_isOk cfg hreset (some "account_deactivated") now with ⟨w', hmark⟩
    rw [hmark]
    exact ⟨_, rfl⟩
  · split
    · rcases quarantine_isOk hreset report.reportedAt _ _ with ⟨w', hquarantine⟩
      rw [hquarantine]
      exact ⟨_, rfl⟩
    · split
      · rcases quarantine_isOk hreset report.reportedAt _ _ with ⟨w', hquarantine⟩
        rw [hquarantine]
        exact ⟨_, rfl⟩
      · split
        · rcases applyTokenInvalidated_isOk cfg h report.reportedAt now with ⟨w', happly⟩
          rw [happly]
          exact ⟨_, rfl⟩
        · exact ⟨_, rfl⟩

theorem recordLiveResult_isOk (cfg : AccountMapsConfig) {report : LiveResultReport}
    (h : report.accountId ∈ w.oauth.ids) (now : DateTime) :
    ∃ recorded, w.recordUpstreamAccountLiveResultInner cfg report now = .ok recorded := by
  rcases exists_account_of_mem_ids h with ⟨account, haccount⟩
  unfold recordUpstreamAccountLiveResultInner
  rw [haccount]
  dsimp only
  cases report.status with
  | ok => exact ⟨_, rfl⟩
  | failed =>
      have hnoted : report.accountId ∈ (w.noteLiveResult report).oauth.ids := h
      exact applyFailedLiveResult_isOk cfg hnoted now

end Notes

end AccountMaps

/-! ## Reports in some order -/

structure LiveReports where
  maps : AccountMaps
  recorded : List DateTime

/-- A report, and the clock reading when it arrives. -/
structure LiveReportArrival where
  report : LiveResultReport
  now : DateTime

namespace LiveReports

variable (cfg : AccountMapsConfig)

def step (w : LiveReports) (arrival : LiveReportArrival) : LiveReports :=
  match w.maps.recordUpstreamAccountLiveResultInner cfg arrival.report arrival.now with
  | .ok recorded => ⟨recorded.2, arrival.report.reportedAt :: w.recorded⟩
  | .error _ => w

/-- What a report says of an account, apart from when it was last seen to work. -/
def noted (w : LiveReports) (accountId : Uuid) : AccountLiveSignals :=
  { w.maps.liveSignals accountId with seenOkAt := none }

/-- A report that is older than one already recorded changes nothing. -/
def NewestDecides (w : LiveReports) (arrival : LiveReportArrival) : Prop :=
  (∃ time ∈ w.recorded, arrival.report.reportedAt < time) →
    (w.step cfg arrival).noted arrival.report.accountId = w.noted arrival.report.accountId ∧
      (w.step cfg arrival).maps.oauth.poolRecord arrival.report.accountId =
        w.maps.oauth.poolRecord arrival.report.accountId

def QuarantinedUntil (w : LiveReports) (accountId : Uuid) (time : DateTime) : Prop :=
  (w.maps.oauth.poolRecord accountId).poolState = .quarantine ∧
    (w.maps.oauth.poolRecord accountId).quarantineUntil = some time

/-- A quarantine does not take the place of one that ends later. -/
def KeepsLonger (w : LiveReports) (arrival : LiveReportArrival) : Prop :=
  ∀ before after, w.QuarantinedUntil arrival.report.accountId before →
    (w.step cfg arrival).QuarantinedUntil arrival.report.accountId after → before ≤ after

/-- The report asks for a quarantine that ends before the present one. -/
def Shortens (w : LiveReports) (arrival : LiveReportArrival) : Prop :=
  ∃ before after at' reason, w.QuarantinedUntil arrival.report.accountId before ∧
    w.maps.liveTransition cfg arrival.report arrival.now = .quarantine at' (some after) reason ∧
      after < before

variable {cfg} {w : LiveReports} {arrival : LiveReportArrival} {accountId : Uuid}

/-- The account exists, and what is written of the last report is the time of one that has been
recorded. -/
structure Tracks (w : LiveReports) (accountId : Uuid) : Prop where
  stored : accountId ∈ w.maps.oauth.ids
  noted : w.recorded ≠ [] →
    ∃ time ∈ w.recorded, (w.maps.liveSignals accountId).lastLiveResultAt = some time

theorem exists_step (cfg : AccountMapsConfig) (h : arrival.report.accountId ∈ w.maps.oauth.ids) :
    ∃ recorded, w.maps.recordUpstreamAccountLiveResultInner cfg arrival.report arrival.now =
        .ok recorded ∧
      w.step cfg arrival = ⟨recorded.2, arrival.report.reportedAt :: w.recorded⟩ := by
  rcases AccountMaps.recordLiveResult_isOk cfg h arrival.now with ⟨recorded, hrecorded⟩
  refine ⟨recorded, hrecorded, ?_⟩
  rw [step, hrecorded]

variable (cfg) in
theorem Tracks.step (h : w.Tracks accountId) (haccount : arrival.report.accountId = accountId) :
    (w.step cfg arrival).Tracks accountId ∧
      (w.step cfg arrival).recorded = arrival.report.reportedAt :: w.recorded ∧
      ((w.step cfg arrival).maps.liveSignals accountId).lastLiveResultAt =
        some arrival.report.reportedAt := by
  rw [← haccount] at h ⊢
  rcases exists_step cfg h.stored with ⟨recorded, hrecorded, hstep⟩
  have hnoted := AccountMaps.lastLiveResultAt_recordLiveResult hrecorded
  rw [hstep]
  refine ⟨⟨?_, fun _ => ⟨_, List.mem_cons_self, hnoted⟩⟩, rfl, hnoted⟩
  rw [(AccountMaps.touches_recordLiveResult hrecorded).2.ids]
  exact h.stored

theorem newestDecides_iff (h : w.Tracks accountId) (haccount : arrival.report.accountId = accountId)
    (hdistinct : arrival.report.reportedAt ∉ w.recorded) :
    w.NewestDecides cfg arrival ↔ ∀ time ∈ w.recorded, time < arrival.report.reportedAt := by
  constructor
  · intro hdecides time htime
    rcases lt_trichotomy time arrival.report.reportedAt with hlt | heq | hgt
    · exact hlt
    · exact absurd (heq ▸ htime) hdistinct
    · have hsame := congrArg AccountLiveSignals.lastLiveResultAt (hdecides ⟨time, htime, hgt⟩).1
      rcases h.noted (List.ne_nil_of_mem htime) with ⟨last, hlast, hnoted⟩
      rw [haccount] at hsame
      have hafter : ((w.step cfg arrival).maps.liveSignals accountId).lastLiveResultAt =
          (w.maps.liveSignals accountId).lastLiveResultAt := hsame
      rw [(h.step cfg haccount).2.2, hnoted] at hafter
      exact absurd (Option.some.inj hafter ▸ hlast) hdistinct
  · rintro horder ⟨time, htime, hlate⟩
    exact absurd hlate (horder time htime).le.not_gt

/-- Along a run whose reports have different times, the newest report decides exactly when they
arrive in order. -/
theorem newestDecides_along_iff (h : w.Tracks accountId) {arrivals : List LiveReportArrival}
    (haccount : ∀ arrival ∈ arrivals, arrival.report.accountId = accountId)
    (hdistinct : (arrivals.map (·.report.reportedAt)).Nodup)
    (hnew : ∀ arrival ∈ arrivals, arrival.report.reportedAt ∉ w.recorded) :
    Machine.Along (step cfg) (NewestDecides cfg) w arrivals ↔
      (∀ arrival ∈ arrivals, ∀ time ∈ w.recorded, time < arrival.report.reportedAt) ∧
        arrivals.Pairwise fun a b => a.report.reportedAt < b.report.reportedAt := by
  induction arrivals generalizing w with
  | nil => simp [Machine.Along]
  | cons arrival arrivals ih =>
      rw [List.forall_mem_cons] at haccount hnew
      rw [List.map_cons, List.nodup_cons] at hdistinct
      rcases h.step cfg haccount.1 with ⟨htracks, hrecorded, _⟩
      have hrest : ∀ later ∈ arrivals,
          later.report.reportedAt ∉ (w.step cfg arrival).recorded := by
        intro later hlater
        rw [hrecorded, List.mem_cons, not_or]
        constructor
        · intro heq
          exact hdistinct.1 (heq ▸ List.mem_map_of_mem hlater)
        · exact hnew.2 later hlater
      rw [Machine.Along, newestDecides_iff h haccount.1 hnew.1,
        ih htracks haccount.2 hdistinct.2 hrest, hrecorded, List.forall_mem_cons,
        List.pairwise_cons]
      simp only [List.forall_mem_cons]
      constructor
      · rintro ⟨hfirst, hlater, hpairs⟩
        exact ⟨⟨hfirst, fun later hmem => (hlater later hmem).2⟩,
          fun later hmem => (hlater later hmem).1, hpairs⟩
      · rintro ⟨⟨hfirst, hlater⟩, hahead, hpairs⟩
        exact ⟨hfirst, fun later hmem => ⟨hahead later hmem, hlater later hmem⟩, hpairs⟩

/-! ## Quarantines -/

theorem keepsLonger_iff (cfg : AccountMapsConfig)
    (hstored : arrival.report.accountId ∈ w.maps.oauth.ids) :
    w.KeepsLonger cfg arrival ↔ ¬ w.Shortens cfg arrival := by
  rcases exists_step cfg hstored with ⟨recorded, hrecorded, hstep⟩
  have hpool : (w.step cfg arrival).maps.oauth.poolRecord arrival.report.accountId =
      (w.maps.liveTransition cfg arrival.report arrival.now).health cfg.oauth
        (w.maps.oauth.poolRecord arrival.report.accountId) := by
    rw [hstep]
    exact (AccountMaps.moves_recordLiveResult hrecorded).pool
  unfold KeepsLonger Shortens
  constructor
  · rintro hkeeps ⟨before, after, at', reason, hbefore, htransition, hlt⟩
    rw [htransition] at hpool
    have hafter : (w.step cfg arrival).QuarantinedUntil arrival.report.accountId after := by
      unfold QuarantinedUntil
      rw [hpool]
      exact ⟨rfl, rfl⟩
    exact absurd hlt (not_lt.2 (hkeeps before after hbefore hafter))
  · intro hnot before after hbefore hafter
    unfold QuarantinedUntil at hafter
    rw [hpool] at hafter
    cases htransition : w.maps.liveTransition cfg arrival.report arrival.now with
    | keep =>
        rw [htransition] at hafter
        exact (Option.some.inj (hbefore.2.symm.trans hafter.2)).le
    | activate at' =>
        rw [htransition] at hafter
        cases hafter.1
    | purge reason now =>
        rw [htransition] at hafter
        cases hafter.1
    | quarantine at' until' reason =>
        rw [htransition] at hafter
        have huntil : until' = some after := hafter.2
        by_contra hlt
        rw [huntil] at htransition
        exact hnot ⟨before, after, at', reason, hbefore, htransition, not_le.1 hlt⟩

variable (cfg) in
/-- Reports of different times about an account are decided by the newest one, and leave it in its
longest quarantine, exactly when they arrive in the order of their times and none of them asks for
a quarantine that ends before the present one. -/
theorem newest_decides_iff (maps : AccountMaps) (hstored : accountId ∈ maps.oauth.ids)
    (arrivals : List LiveReportArrival)
    (haccount : ∀ arrival ∈ arrivals, arrival.report.accountId = accountId)
    (hdistinct : (arrivals.map (·.report.reportedAt)).Nodup) :
    Machine.Along (step cfg)
        (fun w arrival => w.NewestDecides cfg arrival ∧ w.KeepsLonger cfg arrival)
        ⟨maps, []⟩ arrivals ↔
      (arrivals.Pairwise fun a b => a.report.reportedAt < b.report.reportedAt) ∧
        Machine.Along (step cfg) (fun w arrival => ¬ w.Shortens cfg arrival) ⟨maps, []⟩
          arrivals := by
  have htracks : Tracks ⟨maps, []⟩ accountId := ⟨hstored, fun h => absurd rfl h⟩
  rw [Machine.along_and, newestDecides_along_iff htracks haccount hdistinct (by simp)]
  apply and_congr
  · simp
  · have hstep (v : LiveReports) (arrival : LiveReportArrival) (hv : v.Tracks accountId)
        (hid : arrival.report.accountId = accountId) (_ : v.KeepsLonger cfg arrival) :
        (v.step cfg arrival).Tracks accountId :=
      (hv.step cfg hid).1
    have hkeeps (v : LiveReports) (arrival : LiveReportArrival) (hv : v.Tracks accountId)
        (hid : arrival.report.accountId = accountId) :
        v.KeepsLonger cfg arrival ↔ ¬ v.Shortens cfg arrival :=
      keepsLonger_iff cfg (hid ▸ hv.stored)
    exact (Machine.along_of_forall haccount _).congr hstep hkeeps htracks

/-! ## A late report -/

/-- An account of the workspace, and nothing reported of it. -/
def sampleMaps : AccountMaps := AccountMaps.new.withOauth
  { AccountMaps.new.oauth with accounts := [workspaceAccount "a" "workspace" 0] }

def rateLimitedReport (reportedAt : DateTime) : LiveResultReport where
  accountId := ⟨"a"⟩
  reportedAt := reportedAt
  status := .failed
  source := .passive
  statusCode := some 429
  errorCode := some "rate_limited"
  errorMessagePreview := none

def okReport (reportedAt : DateTime) : LiveResultReport :=
  { rateLimitedReport reportedAt with status := .ok, statusCode := some 200, errorCode := none }

theorem newest_decides_in_order :
    Machine.Along (step AccountMaps.sampleMapsConfig)
      (fun w arrival => w.NewestDecides AccountMaps.sampleMapsConfig arrival ∧
        w.KeepsLonger AccountMaps.sampleMapsConfig arrival)
      ⟨sampleMaps, []⟩ [⟨okReport 50, 101⟩, ⟨rateLimitedReport 100, 102⟩] := by
  refine (newest_decides_iff AccountMaps.sampleMapsConfig sampleMaps
    (show (⟨"a"⟩ : Uuid) ∈ sampleMaps.oauth.ids by decide +kernel) _ (by decide +kernel)
    (by decide +kernel)).2 ⟨by decide +kernel, ?_, ?_, trivial⟩
  · rintro ⟨before, _, _, _, hbefore, _⟩
    cases hbefore.1
  · rintro ⟨before, _, _, _, hbefore, _⟩
    cases hbefore.1

/-- A success of time 50 that arrives after a failure of time 100 lifts the quarantine. -/
theorem late_success_lifts_quarantine :
    ¬ ∀ arrivals : List LiveReportArrival,
      (∀ arrival ∈ arrivals, arrival.report.accountId = ⟨"a"⟩) →
      (arrivals.map (·.report.reportedAt)).Nodup →
      Machine.Along (step AccountMaps.sampleMapsConfig)
        (fun w arrival => w.NewestDecides AccountMaps.sampleMapsConfig arrival ∧
          w.KeepsLonger AccountMaps.sampleMapsConfig arrival)
        ⟨sampleMaps, []⟩ arrivals := by
  intro h
  have hlate := h [⟨rateLimitedReport 100, 101⟩, ⟨okReport 50, 102⟩] (by decide +kernel)
    (by decide +kernel)
  have hkept := (hlate.2.1.1 ⟨100, by decide +kernel, by decide⟩).2
  have hstate := congrArg UpstreamAccountHealthStateRecord.poolState hkept
  revert hstate
  decide +kernel

end LiveReports

end CodexPool
