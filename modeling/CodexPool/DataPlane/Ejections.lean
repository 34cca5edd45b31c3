import CodexPool.DataPlane.RouterOps

/-!
# Ejections that are in force

An account that is marked as unhealthy is not selected before its ejection is over. Since an
ejection takes the place of the one before, this needs that none of them ends sooner than the one
that is in force.
-/

namespace CodexPool

open Stateful

/-- The operation ends the ejection of the account before its time. -/
def RouterOp.Releases (accountId : Uuid) : RouterOp → Prop
  | .clearUnhealthy id | .deleteAccount id => id = accountId
  | .clearAllUnhealthy => True
  | .replaceAccounts accounts => accountId ∉ accounts.map (·.id)
  | .upsertAccount account => account.id = accountId ∧ account.enabled = false
  | _ => False

namespace Router

/-- An ejection ends no sooner than the one that is in force. -/
def KeepsDeadline (r : Router) (call : RouterCall) : Prop :=
  match call.op with
  | .markUnhealthy accountId ttl =>
    0 < ttl → ∀ until_ ∈ r.health accountId, until_ ≤ call.now + ttl
  | _ => True

/-- The account is ejected at least until the given time. -/
def EjectedUntil (r : Router) (accountId : Uuid) (time : Nat) : Prop :=
  ∃ until_, r.health accountId = some until_ ∧ time ≤ until_

/-- No selection gives an account before an ejection is over that is not ended before its time. -/
def Honours (r : Router) (calls : List RouterCall) : Prop :=
  ∀ before accountId ttl t between pick now after,
    calls = before ++ ⟨t, .markUnhealthy accountId ttl⟩ :: between ++ ⟨now, .pick pick⟩ :: after →
    0 < ttl → (∀ call ∈ between, ¬ call.op.Releases accountId) → t < now → now < t + ttl →
      ∀ account, (pick.run now (Machine.run step r
        (before ++ ⟨t, .markUnhealthy accountId ttl⟩ :: between))).1 = some account →
          account.id ≠ accountId

variable {r : Router} {call : RouterCall} {accountId : Uuid} {now time : Nat}

/-! ## Steps -/

/-- Until its end, an ejection is kept by selections, which do not give the account. -/
theorem pickInvariant_ejectedUntil (hnow : now < time) (accounts : List UpstreamAccount) :
    PickInvariant now accounts (· ≠ accountId) fun r =>
      r.accounts = accounts ∧ r.EjectedUntil accountId time where
  listed r hr := hr.1
  healthy r id hr hhealthy := by
    rcases hr.2 with ⟨until_, huntil, htime⟩
    intro hid
    rw [hid, healthyAt, huntil] at hhealthy
    dsimp only at hhealthy
    rw [decide_eq_true (by omega)] at hhealthy
    cases hhealthy
  forget r id until_ hr hid hover := by
    rcases hr.2 with ⟨until', huntil, htime⟩
    refine ⟨hr.1, until', ?_, htime⟩
    have hne : accountId ≠ id := by
      intro heq
      rw [← heq, huntil] at hid
      have hsame := Option.some.inj hid
      omega
    exact (Function.update_of_ne hne _ _).trans huntil
  cursor r n hr := hr
  sessions r items hr _ := hr

theorem EjectedUntil.of_health {r' : Router} (h : r.EjectedUntil accountId time)
    (hhealth : r'.health accountId = r.health accountId) : r'.EjectedUntil accountId time := by
  rcases h with ⟨until_, huntil, htime⟩
  exact ⟨until_, hhealth.trans huntil, htime⟩

theorem health_forgetAccount {id : Uuid} (hid : id ≠ accountId) :
    (r.forgetAccount id).health accountId = r.health accountId :=
  Function.update_of_ne (Ne.symm hid) _ _

/-- A step before the end of an ejection keeps it, unless it releases the account or puts an
earlier end in its place. -/
theorem ejectedUntil_step (h : r.EjectedUntil accountId time) (hnow : call.now < time)
    (hkeeps : r.KeepsDeadline call) (hnot : ¬ call.op.Releases accountId) :
    (r.step call).EjectedUntil accountId time := by
  have hinvariant := @pickInvariant_ejectedUntil accountId _ _ hnow r.accounts
  rcases call with ⟨now, op⟩
  cases op with
  | replaceAccounts accounts =>
      apply h.of_health
      have hmem : accountId ∈ accounts.map (·.id) := not_not.1 hnot
      exact if_pos hmem
  | replaceAccountTraits accountTraits => exact h
  | replaceCompiledRoutingPlan plan => exact h
  | upsertAccount account =>
      apply h.of_health
      change (r.upsertAccount account).health accountId = _
      unfold upsertAccount
      dsimp only
      split
      · rfl
      · rename_i hdisabled
        apply health_forgetAccount
        intro hid
        exact hnot ⟨hid, Bool.eq_false_iff.2 hdisabled⟩
  | deleteAccount id =>
      apply h.of_health
      change (r.deleteAccount id).1.health accountId = _
      unfold deleteAccount
      split
      · exact health_forgetAccount hnot
      · rfl
  | markUnhealthy id ttl =>
      change (r.markUnhealthy id ttl now).EjectedUntil accountId time
      unfold markUnhealthy
      split
      · exact h
      · rename_i hpositive
        by_cases hid : id = accountId
        · rcases h with ⟨until_, huntil, htime⟩
          rw [hid] at hkeeps ⊢
          have hlater : until_ ≤ now + ttl := hkeeps (Nat.pos_of_ne_zero hpositive) until_ huntil
          exact ⟨now + ttl, Function.update_self _ _ _, htime.trans hlater⟩
        · exact h.of_health (Function.update_of_ne (Ne.symm hid) _ _)
  | clearUnhealthy id =>
      apply h.of_health
      change (r.clearUnhealthy id).1.health accountId = _
      unfold clearUnhealthy
      split
      · exact Function.update_of_ne (Ne.symm hnot) _ _
      · rfl
  | clearAllUnhealthy => exact absurd trivial hnot
  | recordSuccess id =>
      apply h.of_health
      change (r.recordSuccess id now).health accountId = _
      unfold recordSuccess
      split
      · rfl
      · rfl
  | bindSticky key id => exact (bindSticky_keeps hinvariant key id r ⟨rfl, h⟩).2.2
  | unbindSticky key => exact (unbindSticky_keeps hinvariant key r ⟨rfl, h⟩).2.2
  | pick pick => exact (run_keeps hinvariant pick r ⟨rfl, h⟩).2.2

/-! ## Runs -/

theorem ejectedUntil_run (h : r.EjectedUntil accountId time) {calls : List RouterCall}
    (hnow : ∀ call ∈ calls, call.now < time) (hkeeps : Machine.Along step KeepsDeadline r calls)
    (hnot : ∀ call ∈ calls, ¬ call.op.Releases accountId) :
    (Machine.run step r calls).EjectedUntil accountId time := by
  induction calls generalizing r with
  | nil => exact h
  | cons call calls ih =>
      rw [List.forall_mem_cons] at hnow hnot
      exact ih (ejectedUntil_step h hnow.1 hkeeps.1 hnot.1) hnow.2 hkeeps.2 hnot.2

theorem ejectedUntil_markUnhealthy {ttl : Nat} (hpositive : 0 < ttl) :
    (r.markUnhealthy accountId ttl now).EjectedUntil accountId (now + ttl) := by
  unfold markUnhealthy
  rw [if_neg hpositive.ne']
  exact ⟨now + ttl, Function.update_self _ _ _, le_rfl⟩

theorem pickSpecific_run (now : Nat) : pickSpecific now accountId r =
    (match r.accounts.find? fun a : UpstreamAccount => a.id = accountId with
    | none => (pure none : RouterM (Option UpstreamAccount))
    | some account =>
      if !account.enabled then pure none
      else do
        let healthy ← isHealthy now account.id
        pure (if healthy then some account else none)) r := rfl

theorem pickSpecific_at_end {account : UpstreamAccount} {ttl : Nat} (hpositive : 0 < ttl)
    (hlisted : r.accounts.find? (·.id = accountId) = some account)
    (henabled : account.enabled = true) :
    ((PickCall.pickAccount accountId).run (now + ttl)
      (r.step ⟨now, .markUnhealthy accountId ttl⟩)).1 = some account := by
  have hid : account.id = accountId := by simpa using List.find?_some hlisted
  change (pickSpecific (now + ttl) accountId (r.markUnhealthy accountId ttl now)).1 = _
  have hmarked : r.markUnhealthy accountId ttl now =
      { r with health := Function.update r.health accountId (some (now + ttl)) } :=
    if_neg hpositive.ne'
  have hhealthy :
      (isHealthy (now + ttl) accountId (r.markUnhealthy accountId ttl now)).1 = true := by
    rw [hmarked, isHealthy_run]
    dsimp only
    rw [Function.update_self]
    dsimp only
    rw [if_neg (lt_irrefl _)]
  have hlisted' : (r.markUnhealthy accountId ttl now).accounts.find? (·.id = accountId) =
      some account := by
    rw [hmarked]
    exact hlisted
  rw [pickSpecific_run, hlisted']
  dsimp only
  rw [henabled, hid]
  exact if_pos hhealthy

/-- A run at times that do not decrease honours all its ejections if none of them ends sooner than
the one in force. One that does, of an account that is listed and enabled, ends the other: the
account is selected before that is over. -/
theorem ejections_honoured (r : Router) (calls : List RouterCall)
    (hclock : calls.Pairwise fun a b => a.now ≤ b.now) :
    (Machine.Along step KeepsDeadline r calls → r.Honours calls) ∧
      ∀ before after t accountId ttl, calls = before ++ ⟨t, .markUnhealthy accountId ttl⟩ :: after →
        ∀ account, (Machine.run step r before).account accountId = some account →
          account.enabled = true →
          ¬ (Machine.run step r before).KeepsDeadline ⟨t, .markUnhealthy accountId ttl⟩ →
          ∃ now, t < now ∧ (Machine.run step r before).healthyAt now accountId = false ∧
            ((PickCall.pickAccount accountId).run now (Machine.run step r
              (before ++ [⟨t, .markUnhealthy accountId ttl⟩]))).1 = some account := by
  constructor
  · intro hkeeps before accountId ttl t between pick now after hcalls hpositive hnot hlater hforce
    rw [hcalls] at hclock hkeeps
    have hbetween : ∀ call ∈ between, call.now < t + ttl := by
      intro call hcall
      have hle := (List.pairwise_append.1 hclock).2.2 call
        (List.mem_append_right _ (List.mem_cons_of_mem _ hcall)) _ List.mem_cons_self
      exact hle.trans_lt hforce
    rw [Machine.along_append, Machine.along_append] at hkeeps
    have hejected := ejectedUntil_run
      (@ejectedUntil_markUnhealthy (Machine.run step r before) _ t ttl hpositive) hbetween
      hkeeps.1.2.2 hnot
    rw [Machine.run_append]
    intro account haccount
    exact (run_keeps (pickInvariant_ejectedUntil hforce _) pick _ ⟨rfl, hejected⟩).1 account
      haccount |>.2
  · intro before after t accountId ttl _ account hlisted henabled hshorter
    have hends : ¬ (0 < ttl → ∀ until_ ∈ (Machine.run step r before).health accountId,
        until_ ≤ t + ttl) := hshorter
    push Not at hends
    rcases hends with ⟨hpositive, until_, huntil, hlt⟩
    refine ⟨t + ttl, Nat.lt_add_of_pos_right hpositive, ?_, ?_⟩
    · rw [healthyAt, huntil]
      exact congrArg (! ·) (decide_eq_true hlt)
    · rw [Machine.run_append]
      exact pickSpecific_at_end hpositive hlisted henabled

/-! ## An ejection that is cut short -/

/-- A server error ejects the account for half a minute. Another request, which selected it before,
learns from the shared cache that it is ejected, and ejects it for the interval of a retry. -/
def cutShort : List RouterCall :=
  [⟨0, .markUnhealthy ⟨"a"⟩ 30000⟩, ⟨1, .markUnhealthy ⟨"a"⟩ 100⟩,
    ⟨200, .pick (.pickAccount ⟨"a"⟩)⟩]

theorem ejections_honoured_once :
    (Router.new [sampleAccount "a"]).Honours
      [⟨0, .markUnhealthy ⟨"a"⟩ 30000⟩, ⟨200, .pick (.pickAccount ⟨"a"⟩)⟩] :=
  (ejections_honoured (Router.new [sampleAccount "a"])
    [⟨0, .markUnhealthy ⟨"a"⟩ 30000⟩, ⟨200, .pick (.pickAccount ⟨"a"⟩)⟩]
    (by decide)).1 ⟨nofun, trivial, trivial⟩

theorem ejection_is_cut_short : ¬ (Router.new [sampleAccount "a"]).Honours cutShort := by
  intro h
  exact h [] ⟨"a"⟩ 30000 0 [⟨1, .markUnhealthy ⟨"a"⟩ 100⟩] (.pickAccount ⟨"a"⟩) 200 [] rfl
    (by decide) (by simp [RouterOp.Releases]) (by decide) (by decide) (sampleAccount "a")
    (by decide +kernel) rfl

end Router

end CodexPool
