import CodexPool.ControlPlane.PoolStanding
import CodexPool.Lib.Machine

/-!
# Accounts that wait for their deletion

An account that is marked for deletion is disabled, and is deleted when its time has come. It stays
so unless a report or a probe makes it active or puts it in quarantine, an upsert enables it, or a
record of the vault is made into it, which all leave its deletion undone or its flag as it was.
-/

namespace CodexPool

/-- The maps, with whether the account has been marked for deletion and no operator has enabled it
since. -/
structure PoolHistory where
  maps : AccountMaps
  marked : Bool

/-- The operator enables the account. -/
def PoolOp.reinstates (w : AccountMaps) (id : Uuid) : PoolOp → Bool
  | .setUpstreamAccountEnabled accountId enabled _ => enabled && decide (accountId = id)
  | .setOauthFamilyEnabled accountId enabled _ => enabled && w.switchesFamily accountId id
  | _ => false

namespace PoolStanding

def waits (standing : PoolStanding) : Bool := standing.pool.poolState = .pendingPurge

structure Timed (standing : PoolStanding) : Prop where
  scheduled : standing.pool.poolState = .pendingPurge → standing.pool.pendingPurgeAt.isSome
  cooling : standing.pool.poolState = .quarantine →
    standing.pool.pendingPurgeAt = none ∧ standing.pool.pendingPurgeReason = none

/-- The flag and the state of the pool agree. -/
structure Consistent (marked : Bool) (standing : PoolStanding) : Prop extends Timed standing where
  disabled : standing.pool.poolState = .pendingPurge → standing.enabled = false
  waiting : marked = true → standing.pool.poolState = .pendingPurge

end PoolStanding

namespace StandingChange

/-- What an account that waits for its deletion may go through. -/
def KeepsWaiting : StandingChange → Prop
  | .move .keep | .move (.purge _ _) | .release _ | .delete => True
  | .move (.activate _) | .move (.quarantine _ _ _) | .reinstate _ _ => False
  | .switch enabled => enabled = false

variable {cfg : OAuthConfig} {change : StandingChange} {standing standing' : PoolStanding}

theorem timed_apply (h : change.apply cfg standing = some standing') (htimed : standing.Timed) :
    standing'.Timed := by
  cases change with
  | move transition =>
      rw [← Option.some.inj h]
      cases transition with
      | keep => exact ⟨htimed.scheduled, htimed.cooling⟩
      | activate at' => exact ⟨nofun, nofun⟩
      | quarantine at' until' reason => exact ⟨nofun, fun _ => ⟨rfl, rfl⟩⟩
      | purge reason now => exact ⟨fun _ => rfl, nofun⟩
  | release now =>
      rw [← Option.some.inj h]
      by_cases hover : standing.pool.poolState = .quarantine ∧
          standing.pool.quarantineUntil.any (· ≤ now)
      · simp only [if_pos hover]
        exact ⟨nofun, nofun⟩
      · simp only [if_neg hover]
        exact htimed
  | switch enabled =>
      rw [← Option.some.inj h]
      exact ⟨htimed.scheduled, htimed.cooling⟩
  | reinstate enabled at' =>
      rw [← Option.some.inj h]
      exact ⟨nofun, nofun⟩
  | delete => cases h

theorem eq_delete_of_apply (h : change.apply cfg standing = none) : change = .delete := by
  cases change with
  | delete => rfl
  | move transition => cases h
  | release now => cases h
  | switch enabled => cases h
  | reinstate enabled at' => cases h

/-- An account that does not wait is left alone or marked, which disables it. -/
theorem disabled_apply (h : change.apply cfg standing = some standing')
    (hnot : standing.pool.poolState ≠ .pendingPurge)
    (hwaits : standing'.pool.poolState = .pendingPurge) : standing'.enabled = false := by
  cases change with
  | move transition =>
      rw [← Option.some.inj h] at hwaits ⊢
      cases transition with
      | keep => exact absurd hwaits hnot
      | activate at' => cases hwaits
      | quarantine at' until' reason => cases hwaits
      | purge reason now => exact Bool.and_false _
  | release now =>
      rw [← Option.some.inj h] at hwaits
      by_cases hover : standing.pool.poolState = .quarantine ∧
          standing.pool.quarantineUntil.any (· ≤ now)
      · simp only [if_pos hover] at hwaits
        cases hwaits
      · simp only [if_neg hover] at hwaits
        exact absurd hwaits hnot
  | switch enabled =>
      rw [← Option.some.inj h] at hwaits
      exact absurd hwaits hnot
  | reinstate enabled at' =>
      rw [← Option.some.inj h] at hwaits
      cases hwaits
  | delete => cases h

/-- An account that waits and is disabled goes on waiting, disabled, through the changes that it
may go through, and through no others. -/
theorem keepsWaiting_iff (h : change.apply cfg standing = some standing')
    (hwaits : standing.pool.poolState = .pendingPurge) (hdisabled : standing.enabled = false) :
    (standing'.pool.poolState = .pendingPurge ∧ standing'.enabled = false) ↔
      change.KeepsWaiting := by
  cases change with
  | move transition =>
      rw [← Option.some.inj h]
      cases transition with
      | keep =>
          refine iff_of_true ⟨hwaits, ?_⟩ trivial
          rw [hdisabled, Bool.false_and]
      | activate at' => exact iff_of_false (fun hboth => nomatch hboth.1) id
      | quarantine at' until' reason => exact iff_of_false (fun hboth => nomatch hboth.1) id
      | purge reason now => exact iff_of_true ⟨rfl, Bool.and_false _⟩ trivial
  | release now =>
      rw [← Option.some.inj h]
      have hover : ¬ (standing.pool.poolState = .quarantine ∧
          standing.pool.quarantineUntil.any (· ≤ now)) := by
        rw [hwaits]
        exact fun hboth => nomatch hboth.1
      simp only [if_neg hover]
      exact iff_of_true ⟨hwaits, hdisabled⟩ trivial
  | switch enabled =>
      rw [← Option.some.inj h]
      exact and_iff_right hwaits
  | reinstate enabled at' =>
      rw [← Option.some.inj h]
      exact iff_of_false (fun hboth => nomatch hboth.1) id
  | delete => cases h

end StandingChange

/-! ## Runs -/

namespace PoolHistory

variable (cfg : AccountMapsConfig) (id : Uuid)

def step (w : PoolHistory) (op : PoolOp) : PoolHistory where
  maps := op.apply cfg w.maps
  marked := !op.reinstates w.maps id &&
    (w.marked || ((op.apply cfg w.maps).standing id).any PoolStanding.waits)

def Consistent (w : PoolHistory) : Prop :=
  ∀ standing ∈ w.maps.standing id, standing.Consistent w.marked

/-- An account that waits for its deletion goes on waiting, unless an operator enables it. -/
def KeepsConsistent (w : PoolHistory) (op : PoolOp) : Prop :=
  ∀ standing ∈ w.maps.standing id, standing.pool.poolState = .pendingPurge →
    op.reinstates w.maps id = true ∨ (w.maps.change cfg id op).KeepsWaiting

/-- An account that waits has been marked. -/
def Tracked (w : PoolHistory) : Prop :=
  ∀ standing ∈ w.maps.standing id, standing.Timed ∧
    (standing.pool.poolState = .pendingPurge → w.marked = true)

variable {cfg id} {w : PoolHistory} {op : PoolOp}

variable (cfg) in
theorem change_of_reinstates (h : op.reinstates w.maps id = true) :
    ∃ now, w.maps.change cfg id op = .reinstate true now := by
  cases op with
  | setUpstreamAccountEnabled accountId enabled now =>
      rcases (Bool.and_eq_true_iff).1 h with ⟨henabled, hid⟩
      refine ⟨now, ?_⟩
      rw [AccountMaps.change, if_pos (of_decide_eq_true hid), henabled]
      rfl
  | setOauthFamilyEnabled accountId enabled now =>
      rcases (Bool.and_eq_true_iff).1 h with ⟨henabled, hmember⟩
      refine ⟨now, ?_⟩
      rw [AccountMaps.change, if_pos hmember, henabled]
      rfl
  | maps op => cases h
  | markUpstreamAccountPendingPurge accountId reason now => cases h
  | purgePendingUpstreamAccounts keys now batchSize => cases h

theorem standing_step (hother : op.DrawsOther id) {standing' : PoolStanding}
    (h : standing' ∈ (w.step cfg id op).maps.standing id) :
    ∃ standing ∈ w.maps.standing id,
      (w.maps.change cfg id op).apply cfg.oauth standing = some standing' := by
  have hstep : (op.apply cfg w.maps).standing id = some standing' := h
  rw [AccountMaps.standing_apply op hother] at hstep
  exact Option.bind_eq_some_iff.1 hstep

theorem mem_standing_step (hother : op.DrawsOther id) {standing standing' : PoolStanding}
    (h : standing ∈ w.maps.standing id)
    (happly : (w.maps.change cfg id op).apply cfg.oauth standing = some standing') :
    standing' ∈ (w.step cfg id op).maps.standing id := by
  change (op.apply cfg w.maps).standing id = some standing'
  rw [AccountMaps.standing_apply op hother, Option.mem_def.1 h]
  exact happly

theorem marked_step {standing' : PoolStanding}
    (h : standing' ∈ (w.step cfg id op).maps.standing id) :
    (w.step cfg id op).marked = (!op.reinstates w.maps id && (w.marked || standing'.waits)) := by
  have hstep : (op.apply cfg w.maps).standing id = some standing' := h
  unfold step
  rw [hstep]
  rfl

theorem Tracked.step (h : w.Tracked id) (hother : op.DrawsOther id) :
    (w.step cfg id op).Tracked id := by
  intro standing' hstanding'
  rcases standing_step hother hstanding' with ⟨standing, hstanding, happly⟩
  refine ⟨StandingChange.timed_apply happly (h standing hstanding).1, ?_⟩
  intro hwaits
  have hreadmits : op.reinstates w.maps id = false := by
    by_contra hreadmits
    rcases change_of_reinstates cfg (Bool.not_eq_false _ ▸ hreadmits) with ⟨now, hchange⟩
    rw [hchange] at happly
    rw [← Option.some.inj happly] at hwaits
    cases hwaits
  rw [marked_step hstanding', hreadmits, PoolStanding.waits, decide_eq_true hwaits, Bool.or_true]
  rfl

/-- A step keeps the flag and the state of the account together exactly when the account goes on
waiting, if it does. -/
theorem consistent_step_iff (h : w.Tracked id) (hother : op.DrawsOther id)
    (hconsistent : w.Consistent id) :
    (w.step cfg id op).Consistent id ↔ w.KeepsConsistent cfg id op := by
  constructor
  · intro hafter standing hstanding hwaits
    cases hreadmits : op.reinstates w.maps id with
    | true => exact .inl rfl
    | false =>
        right
        cases happly : (w.maps.change cfg id op).apply cfg.oauth standing with
        | none =>
            rw [StandingChange.eq_delete_of_apply happly]
            trivial
        | some standing' =>
            have hstanding' := mem_standing_step hother hstanding happly
            have hdisabled := (hconsistent standing hstanding).disabled hwaits
            have hmarked : (w.step cfg id op).marked = true := by
              rw [marked_step hstanding', hreadmits, (h standing hstanding).2 hwaits]
              rfl
            have hwaits' := (hafter standing' hstanding').waiting hmarked
            exact (StandingChange.keepsWaiting_iff happly hwaits hdisabled).1
              ⟨hwaits', (hafter standing' hstanding').disabled hwaits'⟩
  · intro hkeeps standing' hstanding'
    rcases standing_step hother hstanding' with ⟨standing, hstanding, happly⟩
    have htimed := StandingChange.timed_apply happly (h standing hstanding).1
    by_cases hwaits : standing.pool.poolState = .pendingPurge
    · rcases hkeeps standing hstanding hwaits with hreadmits | hkeeps
      · rcases change_of_reinstates cfg hreadmits with ⟨now, hchange⟩
        rw [hchange] at happly
        rw [marked_step hstanding', hreadmits, ← Option.some.inj happly]
        exact ⟨⟨nofun, nofun⟩, nofun, nofun⟩
      · have hdisabled := (hconsistent standing hstanding).disabled hwaits
        rcases (StandingChange.keepsWaiting_iff happly hwaits hdisabled).2 hkeeps with
          ⟨hwaits', hdisabled'⟩
        exact ⟨htimed, fun _ => hdisabled', fun _ => hwaits'⟩
    · refine ⟨htimed, StandingChange.disabled_apply happly hwaits, ?_⟩
      have hmarked : w.marked = false := by
        by_contra hmarked
        exact hwaits ((hconsistent standing hstanding).waiting (Bool.not_eq_false _ ▸ hmarked))
      rw [marked_step hstanding', hmarked, Bool.false_or]
      intro hboth
      exact of_decide_eq_true ((Bool.and_eq_true_iff).1 hboth).2

/-- What waits is found when its time has come, unless the batch is full. -/
theorem mem_pendingPurgeDue {maps : AccountMaps} {standing : PoolStanding}
    (hstanding : standing ∈ maps.standing id) (hwaits : standing.pool.poolState = .pendingPurge)
    {keys : List Uuid} (hkey : id ∈ keys) {now : DateTime}
    (hdue : ∀ time ∈ standing.pool.pendingPurgeAt, time ≤ now) (batchSize : Nat) :
    id ∈ maps.pendingPurgeDueAccountIdsInner keys now batchSize ∨
      batchSize ≤ (maps.pendingPurgeDueAccountIdsInner keys now batchSize).length := by
  rcases Option.map_eq_some_iff.1 hstanding with ⟨account, haccount, hpool⟩
  rw [← hpool] at hwaits hdue
  have hid : id ∈ keys.filter (maps.isPurgeDue now) := by
    rw [List.mem_filter, AccountMaps.isPurgeDue, Bool.and_eq_true_iff]
    refine ⟨hkey, decide_eq_true hwaits, ?_⟩
    rw [Bool.not_eq_true', Option.any_eq_false]
    intro time htime
    exact decide_eq_false_iff_not.2 (not_lt.2 (hdue time htime))
  exact (Paging.mem_page_or maps.purgeKey batchSize hid).imp_right And.left

variable (cfg) in
/-- What is found is deleted. -/
theorem standing_purge {maps : AccountMaps} {keys : List Uuid} {now : DateTime} {batchSize : Nat}
    (h : id ∈ maps.pendingPurgeDueAccountIdsInner keys now batchSize) :
    ((PoolOp.purgePendingUpstreamAccounts keys now batchSize).apply cfg maps).standing id =
      none := by
  have hother : (PoolOp.purgePendingUpstreamAccounts keys now batchSize).DrawsOther id := trivial
  rw [AccountMaps.standing_apply _ hother, AccountMaps.change, if_pos h]
  cases maps.standing id with
  | none => rfl
  | some standing => rfl

variable (cfg) in
/-- The flag of an account that is active at first and its state agree in every state of a run
exactly when the account, each time it waits for its deletion, goes on waiting until an operator
enables it. What waits is deleted when its time has come. -/
theorem pool_consistent_iff (maps : AccountMaps)
    (hactive : ∀ standing ∈ maps.standing id, standing.pool.poolState = .active)
    (ops : List PoolOp) (hother : ∀ op ∈ ops, op.DrawsOther id) :
    ((∀ pre, pre <+: ops → (Machine.run (step cfg id) ⟨maps, false⟩ pre).Consistent id) ↔
        Machine.Along (step cfg id) (KeepsConsistent cfg id) ⟨maps, false⟩ ops) ∧
      ∀ standing ∈ (Machine.run (step cfg id) ⟨maps, false⟩ ops).maps.standing id,
        standing.pool.poolState = .pendingPurge → ∀ keys now, id ∈ keys →
          (∀ time ∈ standing.pool.pendingPurgeAt, time ≤ now) → ∀ batchSize,
            (((Machine.run (step cfg id) ⟨maps, false⟩ ops).step cfg id
                (.purgePendingUpstreamAccounts keys now batchSize)).maps.standing id = none) ∨
              batchSize ≤ ((Machine.run (step cfg id) ⟨maps, false⟩
                ops).maps.pendingPurgeDueAccountIdsInner keys now batchSize).length := by
  constructor
  · apply (Machine.along_of_forall hother _).iff_prefixes (P := Tracked id)
    · exact fun w op htracked hop => htracked.step hop
    · exact fun w op htracked hop hconsistent => consistent_step_iff htracked hop hconsistent
    · intro standing hstanding
      have hpool := hactive standing hstanding
      refine ⟨⟨?_, ?_⟩, ?_⟩
      · rw [hpool]
        nofun
      · rw [hpool]
        nofun
      · rw [hpool]
        nofun
    · intro standing hstanding
      have hpool := hactive standing hstanding
      refine ⟨⟨?_, ?_⟩, ?_, nofun⟩
      · rw [hpool]
        nofun
      · rw [hpool]
        nofun
      · rw [hpool]
        nofun
  · exact fun standing hstanding hwaits keys now hkey hdue batchSize =>
      (mem_pendingPurgeDue hstanding hwaits hkey hdue batchSize).imp_left (standing_purge cfg)

/-! ## A report after the marking -/

/-- An account is marked for deletion, and is found to work by a request that was under way. -/
def markedThenSeen : List PoolOp :=
  [.markUpstreamAccountPendingPurge ⟨"a"⟩ (some "account_deactivated") 10,
    .maps (.recordUpstreamAccountLiveResult (LiveReports.okReport 9) 11)]

theorem pool_consistent_marked :
    (Machine.run (step AccountMaps.sampleMapsConfig ⟨"a"⟩) ⟨LiveReports.sampleMaps, false⟩
      (markedThenSeen.take 1)).Consistent ⟨"a"⟩ := by
  have hops : ∀ op ∈ markedThenSeen.take 1, op.DrawsOther ⟨"a"⟩ := by
    intro op hop
    rw [List.mem_singleton.1 hop]
    trivial
  have hactive : ∀ standing ∈ LiveReports.sampleMaps.standing ⟨"a"⟩,
      standing.pool.poolState = .active := by
    intro standing hstanding
    rw [← Option.some.inj hstanding]
    rfl
  refine (pool_consistent_iff AccountMaps.sampleMapsConfig LiveReports.sampleMaps hactive _
    hops).1.2 ⟨?_, trivial⟩ _ List.prefix_rfl
  intro standing hstanding hwaits
  rw [← Option.some.inj hstanding] at hwaits
  cases hwaits

/-- The account is then active, but disabled. -/
theorem marked_account_is_active_and_disabled :
    ¬ ∀ pre, pre <+: markedThenSeen →
      (Machine.run (step AccountMaps.sampleMapsConfig ⟨"a"⟩) ⟨LiveReports.sampleMaps, false⟩
        pre).Consistent ⟨"a"⟩ := by
  intro h
  have hstanding : ((Machine.run (step AccountMaps.sampleMapsConfig ⟨"a"⟩)
      ⟨LiveReports.sampleMaps, false⟩ markedThenSeen).maps.standing ⟨"a"⟩).any
        fun standing => !standing.waits := by decide +kernel
  rcases (Option.any_eq_true _ _).1 hstanding with ⟨standing, hmem, hnot⟩
  have hmarked : (Machine.run (step AccountMaps.sampleMapsConfig ⟨"a"⟩)
      ⟨LiveReports.sampleMaps, false⟩ markedThenSeen).marked = true := by decide +kernel
  have hwaits := (h markedThenSeen List.prefix_rfl standing hmem).waiting hmarked
  rw [PoolStanding.waits, decide_eq_true hwaits] at hnot
  cases hnot

end PoolHistory

end CodexPool
