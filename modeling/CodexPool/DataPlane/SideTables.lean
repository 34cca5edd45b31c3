import CodexPool.DataPlane.RouterOps

/-!
# Tables of accounts that are listed

What the router has learnt of accounts is kept in four tables beside the list of the accounts.
Three operations remove accounts and clean the tables, and the operations that write to them look
whether the account is listed, apart from the one that marks an account as unhealthy.
-/

namespace CodexPool

open Keyed Stateful

namespace Router

/-- The tables are about accounts of the list only. -/
structure SideTablesListed (r : Router) : Prop where
  health : ∀ id, r.health id ≠ none → id ∈ r.accountIds
  recentSuccess : ∀ id, r.recentSuccess id ≠ none → id ∈ r.accountIds
  accountTraits : ∀ id, r.accountTraits id ≠ none → id ∈ r.accountIds
  stickySessions : ∀ item ∈ r.stickySessions, item.2.accountId ∈ r.accountIds

def MarksListed (r : Router) (call : RouterCall) : Prop :=
  match call.op with
  | .markUnhealthy accountId ttl => 0 < ttl → accountId ∈ r.accountIds
  | _ => True

variable {r : Router} {call : RouterCall} {now : Nat}

/-- Selections write to the tables for accounts of the list only. -/
theorem pickInvariant_sideTables (now : Nat) (accounts : List UpstreamAccount) :
    PickInvariant now accounts (fun _ => True) fun r =>
      r.accounts = accounts ∧ r.SideTablesListed where
  listed r hr := hr.1
  healthy _ _ _ _ := trivial
  forget r id until_ hr hid _ := by
    refine ⟨hr.1, ?_, hr.2.recentSuccess, hr.2.accountTraits, hr.2.stickySessions⟩
    intro other hother
    by_cases heq : other = id
    · rw [heq]
      exact hr.2.health id (by rw [hid]; nofun)
    · exact hr.2.health other (by rwa [← Function.update_of_ne heq none r.health])
  cursor r n hr := ⟨hr.1, hr.2.health, hr.2.recentSuccess, hr.2.accountTraits, hr.2.stickySessions⟩
  sessions r items hr hitems := by
    refine ⟨hr.1, hr.2.health, hr.2.recentSuccess, hr.2.accountTraits, ?_⟩
    intro item hitem
    rcases hitems item hitem with hlisted | ⟨old, hold, hsame⟩
    · rw [← hr.1] at hlisted
      exact hlisted
    · rw [← hsame]
      exact hr.2.stickySessions old hold

theorem mem_of_update_none {α : Type} {table : Uuid → Option α} {accountId id : Uuid}
    (h : Function.update table accountId none id ≠ none) : id ≠ accountId ∧ table id ≠ none := by
  by_cases hid : id = accountId
  · rw [hid, Function.update_self] at h
    exact absurd rfl h
  · rw [Function.update_of_ne hid] at h
    exact ⟨hid, h⟩

theorem SideTablesListed.clean {r' : Router} {p : Uuid → Prop} (h : r.SideTablesListed)
    (hlisted : ∀ id ∈ r.accountIds, p id → id ∈ r'.accountIds)
    (hhealth : ∀ id, r'.health id ≠ none → p id ∧ r.health id ≠ none)
    (hsuccess : ∀ id, r'.recentSuccess id ≠ none → p id ∧ r.recentSuccess id ≠ none)
    (htraits : ∀ id, r'.accountTraits id ≠ none → p id ∧ r.accountTraits id ≠ none)
    (hsessions : ∀ item ∈ r'.stickySessions, p item.2.accountId ∧ item ∈ r.stickySessions) :
    r'.SideTablesListed where
  health id hid := hlisted id (h.health id (hhealth id hid).2) (hhealth id hid).1
  recentSuccess id hid :=
    hlisted id (h.recentSuccess id (hsuccess id hid).2) (hsuccess id hid).1
  accountTraits id hid := hlisted id (h.accountTraits id (htraits id hid).2) (htraits id hid).1
  stickySessions item hitem :=
    hlisted _ (h.stickySessions item (hsessions item hitem).2) (hsessions item hitem).1

theorem mem_accountIds_iff {id : Uuid} : id ∈ r.accountIds ↔ r.account id ≠ none := by
  unfold account
  rw [Ne, lookupBy_eq_none_iff, not_not]
  rfl

theorem mem_of_retain {α : Type} {table : Uuid → Option α} {ids : List Uuid} {id : Uuid}
    (h : retain ids table id ≠ none) : id ∈ ids ∧ table id ≠ none := by
  unfold retain at h
  split at h
  · exact ⟨‹_›, h⟩
  · exact absurd rfl h

theorem sideTablesListed_replaceAccounts (h : r.SideTablesListed)
    (accounts : List UpstreamAccount) : (r.replaceAccounts accounts).SideTablesListed := by
  apply h.clean (p := (· ∈ accounts.map (·.id)))
  · exact fun id _ hid => hid
  · exact fun id hid => mem_of_retain hid
  · exact fun id hid => mem_of_retain hid
  · exact fun id hid => mem_of_retain hid
  · intro item hitem
    rcases List.mem_filter.1 hitem with ⟨hold, hlisted⟩
    exact ⟨of_decide_eq_true hlisted, hold⟩

theorem SideTablesListed.forgetAccount {r' : Router} {accountId : Uuid} (h : r.SideTablesListed)
    (hlisted : ∀ id ∈ r.accountIds, id ≠ accountId → id ∈ r'.accountIds)
    (hhealth : r'.health = r.health) (hsuccess : r'.recentSuccess = r.recentSuccess)
    (htraits : r'.accountTraits = r.accountTraits)
    (hsessions : r'.stickySessions = r.stickySessions) :
    (r'.forgetAccount accountId).SideTablesListed := by
  have hkept : ∀ id ∈ r.accountIds, id ≠ accountId →
      id ∈ (r'.forgetAccount accountId).accountIds := hlisted
  apply h.clean hkept
  · rw [← hhealth]
    exact fun id hid => mem_of_update_none hid
  · rw [← hsuccess]
    exact fun id hid => mem_of_update_none hid
  · rw [← htraits]
    exact fun id hid => mem_of_update_none hid
  · intro item hitem
    rw [← hsessions]
    rcases List.mem_filter.1 hitem with ⟨hold, hother⟩
    exact ⟨of_decide_eq_true hother, hold⟩

theorem sideTablesListed_upsertAccount (h : r.SideTablesListed) (account : UpstreamAccount) :
    (r.upsertAccount account).SideTablesListed := by
  have hlisted : ∀ id ∈ r.accountIds, id ∈ (r.upsertAccount account).accountIds := by
    intro id hid
    rw [mem_accountIds_iff] at hid ⊢
    rw [account_upsertAccount]
    by_cases heq : id = account.id
    · rw [heq, Function.update_self]
      nofun
    · rwa [Function.update_of_ne heq]
  unfold upsertAccount at hlisted ⊢
  dsimp only at hlisted ⊢
  split
  · rename_i henabled
    rw [if_pos henabled] at hlisted
    exact ⟨fun id hid => hlisted id (h.health id hid),
      fun id hid => hlisted id (h.recentSuccess id hid),
      fun id hid => hlisted id (h.accountTraits id hid),
      fun item hitem => hlisted _ (h.stickySessions item hitem)⟩
  · rename_i hdisabled
    rw [if_neg hdisabled] at hlisted
    exact h.forgetAccount (fun id hid _ => hlisted id hid) rfl rfl rfl rfl

theorem sideTablesListed_deleteAccount (h : r.SideTablesListed) (accountId : Uuid) :
    (r.deleteAccount accountId).1.SideTablesListed := by
  have hlisted : ∀ id ∈ r.accountIds, id ≠ accountId →
      id ∈ (r.deleteAccount accountId).1.accountIds := by
    intro id hid hother
    rw [mem_accountIds_iff] at hid ⊢
    rwa [account_deleteAccount, Function.update_of_ne hother]
  unfold deleteAccount at hlisted ⊢
  split
  · rename_i hmem
    rw [if_pos hmem] at hlisted
    exact h.forgetAccount hlisted rfl rfl rfl rfl
  · exact h

theorem sideTablesListed_replaceAccountTraits (h : r.SideTablesListed)
    (accountTraits : List AccountRoutingTraits) :
    (r.replaceAccountTraits accountTraits).SideTablesListed := by
  refine ⟨h.health, h.recentSuccess, ?_, h.stickySessions⟩
  intro id hid
  change collectBy (·.accountId) (accountTraits.filter fun item => item.accountId ∈ r.accountIds)
    id ≠ none at hid
  rw [collectBy_filter] at hid
  exact (mem_of_retain hid).1

theorem mem_of_update_some {α : Type} {table : Uuid → Option α} {accountId id : Uuid} {value : α}
    (h : Function.update table accountId (some value) id ≠ none) :
    id = accountId ∨ table id ≠ none := by
  by_cases hid : id = accountId
  · exact .inl hid
  · rw [Function.update_of_ne hid] at h
    exact .inr h

theorem sideTablesListed_recordSuccess (h : r.SideTablesListed) (accountId : Uuid) (now : Nat) :
    (r.recordSuccess accountId now).SideTablesListed := by
  unfold recordSuccess
  split
  · rename_i hany
    refine ⟨h.health, ?_, h.accountTraits, h.stickySessions⟩
    intro id hid
    rcases mem_of_update_some hid with heq | hold
    · rcases List.any_eq_true.1 hany with ⟨account, haccount, hid⟩
      rw [heq, ← of_decide_eq_true (Bool.and_eq_true_iff.1 hid).1]
      exact List.mem_map_of_mem haccount
    · exact h.recentSuccess id hold
  · exact h

theorem sideTablesListed_clearUnhealthy (h : r.SideTablesListed) (accountId : Uuid) :
    (r.clearUnhealthy accountId).1.SideTablesListed := by
  unfold clearUnhealthy
  split
  · exact ⟨fun id hid => h.health id (mem_of_update_none hid).2, h.recentSuccess, h.accountTraits,
      h.stickySessions⟩
  · exact h

theorem sideTablesListed_markUnhealthy_iff (h : r.SideTablesListed) (accountId : Uuid)
    (ttl now : Nat) :
    (r.markUnhealthy accountId ttl now).SideTablesListed ↔
    (0 < ttl → accountId ∈ r.accountIds) := by
  unfold markUnhealthy
  split
  · rename_i hzero
    exact iff_of_true h fun hpositive => absurd hzero hpositive.ne'
  · rename_i hpositive
    constructor
    · intro hmarked _
      apply hmarked.health accountId
      dsimp only
      rw [Function.update_self]
      nofun
    · intro hlisted
      refine ⟨?_, h.recentSuccess, h.accountTraits, h.stickySessions⟩
      intro id hid
      rcases mem_of_update_some hid with heq | hold
      · rw [heq]
        exact hlisted (Nat.pos_of_ne_zero hpositive)
      · exact h.health id hold

/-! ## Runs -/

/-- A step keeps the tables to the list exactly when it marks no account that is not listed. -/
theorem sideTablesListed_step_iff (h : r.SideTablesListed) :
    (r.step call).SideTablesListed ↔ r.MarksListed call := by
  rcases call with ⟨now, op⟩
  have hinvariant := pickInvariant_sideTables now r.accounts
  cases op with
  | replaceAccounts accounts =>
      exact iff_of_true (sideTablesListed_replaceAccounts h accounts) trivial
  | replaceAccountTraits accountTraits =>
      exact iff_of_true (sideTablesListed_replaceAccountTraits h accountTraits) trivial
  | replaceCompiledRoutingPlan plan =>
      exact iff_of_true ⟨h.health, h.recentSuccess, h.accountTraits, h.stickySessions⟩ trivial
  | upsertAccount account => exact iff_of_true (sideTablesListed_upsertAccount h account) trivial
  | deleteAccount accountId =>
      exact iff_of_true (sideTablesListed_deleteAccount h accountId) trivial
  | markUnhealthy accountId ttl => exact sideTablesListed_markUnhealthy_iff h accountId ttl now
  | clearUnhealthy accountId =>
      exact iff_of_true (sideTablesListed_clearUnhealthy h accountId) trivial
  | clearAllUnhealthy =>
      exact iff_of_true ⟨fun _ hid => absurd rfl hid, h.recentSuccess, h.accountTraits,
        h.stickySessions⟩ trivial
  | recordSuccess accountId =>
      exact iff_of_true (sideTablesListed_recordSuccess h accountId now) trivial
  | bindSticky key accountId =>
      exact iff_of_true (bindSticky_keeps hinvariant key accountId r ⟨rfl, h⟩).2.2 trivial
  | unbindSticky key => exact iff_of_true (unbindSticky_keeps hinvariant key r ⟨rfl, h⟩).2.2 trivial
  | pick pick => exact iff_of_true (run_keeps hinvariant pick r ⟨rfl, h⟩).2.2 trivial

theorem sideTablesListed_newWithStickyLimits (accounts : List UpstreamAccount)
    (ttl maxEntries : Nat) : (newWithStickyLimits accounts ttl maxEntries).SideTablesListed :=
  ⟨fun _ hid => absurd rfl hid, fun _ hid => absurd rfl hid, fun _ hid => absurd rfl hid, nofun⟩

/-- In every state of a run the tables are about accounts of the list only, exactly when every
account is listed when it is marked as unhealthy. -/
theorem sideTablesListed_iff (accounts : List UpstreamAccount) (ttl maxEntries : Nat)
    (calls : List RouterCall) :
    (∀ pre, pre <+: calls →
        (Machine.run step (newWithStickyLimits accounts ttl maxEntries) pre).SideTablesListed) ↔
      Machine.Along step MarksListed (newWithStickyLimits accounts ttl maxEntries) calls :=
  Machine.along_iff_prefixes (P := fun _ => True) (fun _ _ _ => trivial)
    (fun _ _ _ h => sideTablesListed_step_iff h) trivial
    (sideTablesListed_newWithStickyLimits accounts ttl maxEntries) calls

/-! ## A mark that comes too late -/

/-- The account is deleted while a request is under way that then marks it as unhealthy. -/
def markedAfterDeletion : List RouterCall :=
  [⟨1, .deleteAccount ⟨"a"⟩⟩, ⟨2, .markUnhealthy ⟨"a"⟩ 30000⟩]

theorem deleted_account_is_marked :
    ¬ ∀ pre, pre <+: markedAfterDeletion →
      (Machine.run step (Router.new [sampleAccount "a"]) pre).SideTablesListed := by
  intro h
  have hmem := (h markedAfterDeletion List.prefix_rfl).health ⟨"a"⟩ (by decide +kernel)
  revert hmem
  decide +kernel

end Router

end CodexPool
