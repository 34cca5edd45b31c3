import CodexPool.DataPlane.RouteAdherence
import CodexPool.Lib.Keyed

/-!
# What a selection gives

A selection writes while it looks: it forgets ejections that are over. What it gives can be said
without the writes, from the state in which it starts.

Without a policy, the account that succeeded last is looked for among the accounts that may be
used. Among the candidates of a policy it is looked for first, and only then asked whether it may
be used. So an account that is ejected can hide the others that have succeeded: what is taken then
is the candidate that was probed last, or the first one of the list.
-/

namespace CodexPool

open Stateful

/-! ## Greatest elements -/

section MaxBy

variable {α : Type} {cmp : α → α → Ordering} [Std.TransCmp cmp]

theorem isLE_foldl_best (l : List α) (best : α) {a : α} (ha : (cmp a best).isLE ∨ a ∈ l) :
    (cmp a (l.foldl (fun best x => if cmp best x = .gt then best else x) best)).isLE := by
  induction l generalizing best with
  | nil => exact ha.resolve_right List.not_mem_nil
  | cons x l ih =>
      apply ih
      dsimp only
      by_cases hgt : cmp best x = .gt
      · rw [if_pos hgt]
        rcases ha with ha | ha
        · exact .inl ha
        · rcases List.mem_cons.1 ha with rfl | ha
          · have hlt : cmp a best = .lt := Std.OrientedCmp.lt_of_gt hgt
            exact .inl (by rw [hlt]; rfl)
          · exact .inr ha
      · rw [if_neg hgt]
        have hle : (cmp best x).isLE := by
          revert hgt
          cases cmp best x <;> simp
        rcases ha with ha | ha
        · exact .inl (Std.TransCmp.isLE_trans ha hle)
        · rcases List.mem_cons.1 ha with rfl | ha
          · exact .inl Std.ReflCmp.isLE_rfl
          · exact .inr ha

theorem isLE_of_maxBy {l : List α} {a b : α} (h : maxBy cmp l = some a) (hb : b ∈ l) :
    (cmp b a).isLE := by
  cases l with
  | nil => cases h
  | cons x l =>
      rw [← Option.some.inj h]
      apply isLE_foldl_best
      rcases List.mem_cons.1 hb with rfl | hb
      · exact .inl Std.ReflCmp.isLE_rfl
      · exact .inr hb

variable [Std.LawfulEqCmp cmp]

theorem maxBy_eq_of_isLE {l : List α} {a : α} (ha : a ∈ l) (hle : ∀ b ∈ l, (cmp b a).isLE) :
    maxBy cmp l = some a := by
  cases hmax : maxBy cmp l with
  | none =>
      cases l with
      | nil => cases ha
      | cons x l => cases hmax
  | some b =>
      have hab := isLE_of_maxBy hmax ha
      have hba := hle b (mem_of_maxBy hmax)
      have heq : cmp a b = .eq := Std.OrientedCmp.isLE_antisymm hab hba
      rw [Std.LawfulEqCmp.eq_of_compare heq]

theorem maxBy_of_subset {l l' : List α} {a : α} (h : maxBy cmp l = some a) (hsub : l' ⊆ l)
    (ha : a ∈ l') : maxBy cmp l' = some a :=
  maxBy_eq_of_isLE ha fun _ hb => isLE_of_maxBy h (hsub hb)

end MaxBy

/-- The order of the successes: by time, then by id. -/
def compareSuccess (a b : Uuid × Nat) : Ordering :=
  (compare a.2 b.2).then (compareUuid a.1 b.1)

instance : Std.TransCmp compareSuccess :=
  inferInstanceAs (Std.TransCmp (compareLex (compareOn fun x : Uuid × Nat => x.2)
    (compareOn fun x : Uuid × Nat => x.1.text)))

instance : Std.LawfulEqCmp compareSuccess where
  eq_of_compare {a b} h := by
    rcases Ordering.then_eq_eq.1 h with ⟨htime, hid⟩
    have htime' : a.2 = b.2 := Std.LawfulEqOrd.eq_of_compare htime
    have hid' : a.1.text = b.1.text := Std.LawfulEqOrd.eq_of_compare hid
    exact Prod.ext (congrArg Uuid.mk hid') htime'

/-! ## What a selection reads -/

namespace Router

/-- What a selection reads and does not change, as long as it asks no session and does not go
round. -/
structure Sees (now : Nat) (r₀ r : Router) : Prop where
  view : r₀.View now r
  accountTraits : r.accountTraits = r₀.accountTraits
  recentSuccess : r.recentSuccess = r₀.recentSuccess
  stickySessions : r.stickySessions = r₀.stickySessions
  stickySessionTtl : r.stickySessionTtl = r₀.stickySessionTtl
  stickySessionMaxEntries : r.stickySessionMaxEntries = r₀.stickySessionMaxEntries
  cursor : r.cursor = r₀.cursor

theorem Sees.refl (now : Nat) (r : Router) : r.Sees now r :=
  ⟨.refl now r, rfl, rfl, rfl, rfl, rfl, rfl⟩

def specific (r : Router) (now : Nat) (accountId : Uuid) : Option UpstreamAccount :=
  (r.accounts.find? (·.id = accountId)).filter fun account =>
    account.enabled && r.healthyAt now account.id

def usable (r : Router) (now : Nat) (excluded : List Uuid) (account : UpstreamAccount) : Bool :=
  !excluded.contains account.id && account.enabled && r.healthyAt now account.id

def latestSuccess (r : Router) (ids : List Uuid) : Option Uuid :=
  (maxBy compareSuccess (ids.filterMap fun id =>
    (r.recentSuccess id).map fun seenAt => (id, seenAt))).map (·.1)

/-- The id with the freshest probe. -/
def freshestProbe (r : Router) (ids : List Uuid) : Option Uuid :=
  (maxBy compareProbe (ids.filterMap r.probe)).map (·.1)

/-- The ids of the accounts that may be used. -/
def usableIds (r : Router) (now : Nat) (excluded : List Uuid) : List Uuid :=
  (r.accounts.filter (r.usable now excluded)).map (·.id)

end Router

def allowedIds (candidateIds excluded : List Uuid) : List Uuid :=
  candidateIds.filter fun id => !excluded.contains id

/-! ## Accounts that may be used -/

section Usable

variable {now : Nat} {r : Router} {excluded : List Uuid}

theorem usable_iff {account : UpstreamAccount} (hmem : account ∈ r.accounts) :
    r.usable now excluded account = true ↔ Usable r now excluded account := by
  rw [Router.usable, Bool.and_eq_true, Bool.and_eq_true, Bool.not_eq_true',
    List.contains_eq_mem, decide_eq_false_iff_not]
  constructor
  · exact fun h => ⟨hmem, h.1.2, h.2, h.1.1⟩
  · exact fun h => ⟨⟨h.notExcluded, h.enabled⟩, h.healthy⟩

variable {id : Uuid}

theorem mem_usableIds :
    id ∈ r.usableIds now excluded ↔ ∃ account, Usable r now excluded account ∧ account.id = id := by
  constructor
  · intro hid
    rcases List.mem_map.1 hid with ⟨account, hmem, rfl⟩
    rcases List.mem_filter.1 hmem with ⟨hmem, husable⟩
    exact ⟨account, (usable_iff hmem).1 husable, rfl⟩
  · rintro ⟨account, husable, rfl⟩
    exact List.mem_map_of_mem (List.mem_filter.2 ⟨husable.mem, (usable_iff husable.mem).2 husable⟩)

/-- Every account that may be used is one that is not excluded. -/
theorem usableIds_subset :
    r.usableIds now excluded ⊆ allowedIds (r.accounts.map (·.id)) excluded := by
  intro id hid
  rcases List.mem_map.1 hid with ⟨account, hmem, rfl⟩
  rcases List.mem_filter.1 hmem with ⟨hmem, husable⟩
  rw [Router.usable, Bool.and_eq_true, Bool.and_eq_true] at husable
  exact List.mem_filter.2 ⟨List.mem_map_of_mem hmem, husable.1.1⟩

theorem specific_eq_some {account : UpstreamAccount} (h : r.specific now id = some account) :
    r.accounts.find? (·.id = id) = some account ∧ account.id = id ∧ account ∈ r.accounts ∧
      account.enabled = true ∧ r.healthyAt now account.id = true := by
  rcases Option.filter_eq_some_iff.1 h with ⟨hfind, hstate⟩
  rw [Bool.and_eq_true] at hstate
  have hid : account.id = id := of_decide_eq_true (List.find?_some hfind :)
  exact ⟨hfind, hid, List.mem_of_find?_eq_some hfind, hstate.1, hstate.2⟩

/-- With different ids, the accounts that may be used are those that are found. -/
theorem specific_of_mem_usableIds (hnodup : (r.accounts.map (·.id)).Nodup)
    (h : id ∈ r.usableIds now excluded) :
    r.specific now id = r.accounts.find? (·.id = id) ∧ (r.specific now id).isSome = true := by
  rcases List.mem_map.1 h with ⟨account, hmem, rfl⟩
  rcases List.mem_filter.1 hmem with ⟨hmem, husable⟩
  rw [Router.usable, Bool.and_eq_true, Bool.and_eq_true] at husable
  have hfind : r.accounts.find? (·.id = account.id) = some account :=
    Keyed.lookupBy_of_mem hnodup hmem
  rw [Router.specific, hfind, Option.filter_some, husable.1.2, husable.2]
  exact ⟨rfl, rfl⟩

theorem mem_usableIds_of_specific (hsome : (r.specific now id).isSome = true)
    (hallowed : id ∈ allowedIds (r.accounts.map (·.id)) excluded) :
    id ∈ r.usableIds now excluded := by
  rcases Option.isSome_iff_exists.1 hsome with ⟨account, haccount⟩
  rcases specific_eq_some haccount with ⟨-, rfl, hmem, henabled, hhealthy⟩
  refine List.mem_map.2 ⟨account, List.mem_filter.2 ⟨hmem, ?_⟩, rfl⟩
  rw [Router.usable, henabled, hhealthy, (List.mem_filter.1 hallowed).2]
  rfl

theorem mem_of_preferredId {α : Type} {cmp : Uuid × α → Uuid × α → Ordering}
    {f : Uuid → Option (Uuid × α)} (hf : ∀ id x, f id = some x → x.1 = id) {ids : List Uuid}
    {id : Uuid} (h : (maxBy cmp (ids.filterMap f)).map (·.1) = some id) :
    id ∈ ids ∧ (f id).isSome = true := by
  rcases Option.map_eq_some_iff.1 h with ⟨x, hx, rfl⟩
  rcases List.mem_filterMap.1 (mem_of_maxBy hx) with ⟨id, hid, hseen⟩
  rw [hf id x hseen, hseen]
  exact ⟨hid, rfl⟩

variable {ids : List Uuid}

theorem preferredId_isSome {α : Type} {cmp : Uuid × α → Uuid × α → Ordering}
    {f : Uuid → Option (Uuid × α)} (hid : id ∈ ids) (hsome : (f id).isSome = true) :
    ((maxBy cmp (ids.filterMap f)).map (·.1)).isSome = true := by
  rcases Option.isSome_iff_exists.1 hsome with ⟨x, hx⟩
  have hmem : x ∈ ids.filterMap f := List.mem_filterMap.2 ⟨id, hid, hx⟩
  cases hlist : ids.filterMap f with
  | nil =>
      rw [hlist] at hmem
      cases hmem
  | cons y ys => rfl

theorem mem_of_latestSuccess (h : r.latestSuccess ids = some id) :
    id ∈ ids :=
  (mem_of_preferredId (fun _ _ hseen => fst_of_recent hseen) h).1

theorem mem_of_freshestProbe (h : r.freshestProbe ids = some id) :
    id ∈ ids :=
  (mem_of_preferredId (fun _ _ hprobe => fst_of_probe hprobe) h).1

end Usable

section Gives

variable {now : Nat} {r₀ : Router} {excluded : List Uuid}

theorem sees_forget {r : Router} {id : Uuid} {until_ : Nat} (h : r₀.Sees now r)
    (hid : r.health id = some until_) (hle : ¬now < until_) :
    r₀.Sees now { r with health := Function.update r.health id none } :=
  ⟨view_forget h.view hid hle, h.accountTraits, h.recentSuccess, h.stickySessions,
    h.stickySessionTtl, h.stickySessionMaxEntries, h.cursor⟩

theorem isHealthy_gives (id : Uuid) :
    Gives (r₀.Sees now) (isHealthy now id) (r₀.healthyAt now id) := by
  intro r hr
  rw [isHealthy_run, ← hr.view.healthy id, Router.healthyAt]
  cases hid : r.health id with
  | none => exact ⟨rfl, hr⟩
  | some until_ =>
      dsimp only
      split
      next hlt => exact ⟨(congrArg not (decide_eq_true hlt)).symm, hr⟩
      next hlt => exact ⟨(congrArg not (decide_eq_false hlt)).symm, sees_forget hr hid hlt⟩

theorem pickSpecific_gives (id : Uuid) :
    Gives (r₀.Sees now) (pickSpecific now id) (r₀.specific now id) := by
  apply Gives.bind_get
  intro r hr
  rw [hr.view.accounts, Router.specific]
  cases r₀.accounts.find? (·.id = id) with
  | none => exact .pure none
  | some account =>
      rw [Option.filter_some]
      dsimp only
      cases account.enabled with
      | false => exact .pure none
      | true =>
          apply Gives.bind (isHealthy_gives account.id)
          cases r₀.healthyAt now account.id with
          | false => exact .pure none
          | true => exact .pure (some account)

theorem isUsable_gives (account : UpstreamAccount) :
    Gives (r₀.Sees now) (isUsable now excluded account) (r₀.usable now excluded account) := by
  unfold isUsable Router.usable
  cases excluded.contains account.id with
  | true => exact .pure false
  | false =>
      cases account.enabled with
      | false => exact .pure false
      | true => exact isHealthy_gives account.id

theorem pickPreferred_gives (id : Option Uuid) :
    Gives (r₀.Sees now) (pickPreferred now id) (id.bind (r₀.specific now)) := by
  cases id with
  | none => exact .pure none
  | some id => exact pickSpecific_gives id

theorem orElse_gives {x y : RouterM (Option UpstreamAccount)} {o o' : Option UpstreamAccount}
    (hx : Gives (r₀.Sees now) x o) (hy : o = none → Gives (r₀.Sees now) y o') :
    Gives (r₀.Sees now) (do
      match ← x with
      | some account => pure (some account)
      | none => y) (o.or o') := by
  apply Gives.bind hx
  cases o with
  | some account => exact .pure (some account)
  | none => exact hy rfl

/-! ## Candidates -/

/-- What is chosen among candidates when the one with the latest success may not be used. -/
def Router.fallbackPick (r : Router) (now : Nat) (ids : List Uuid) : Option UpstreamAccount :=
  ((r.freshestProbe ids).bind (r.specific now)).or (ids.findSome? (r.specific now))

theorem pickFirstCandidate_gives (candidateIds : List Uuid) :
    Gives (r₀.Sees now) (pickFirstCandidate now candidateIds excluded)
      ((allowedIds candidateIds excluded).findSome? (r₀.specific now)) :=
  Gives.findSomeM fun id _ => pickSpecific_gives id

theorem probe_of_sees {r : Router} (h : r₀.Sees now r) : r.probe = r₀.probe := by
  funext id
  rw [Router.probe, Router.probe, h.accountTraits]

theorem pickCandidateAccount_gives (candidateIds : List Uuid) :
    Gives (r₀.Sees now) (pickCandidateAccount now candidateIds excluded)
      (((r₀.latestSuccess (allowedIds candidateIds excluded)).bind (r₀.specific now)).or
        (r₀.fallbackPick now (allowedIds candidateIds excluded))) := by
  apply Gives.bind_get
  intro r hr
  apply orElse_gives
  · rw [hr.recentSuccess]
    exact pickPreferred_gives _
  · intro _
    have hprobed : Gives (r₀.Sees now) (preferredCandidateProbeAccountId candidateIds excluded)
        (r₀.freshestProbe (allowedIds candidateIds excluded)) := by
      apply Gives.bind_get
      intro r' hr'
      rw [probe_of_sees hr']
      exact .pure _
    apply Gives.bind hprobed
    exact orElse_gives (pickPreferred_gives _) fun _ => pickFirstCandidate_gives candidateIds

/-! ## Round robin -/

variable {accounts : List UpstreamAccount}

theorem filterM_isUsable_gives (hacc : accounts = r₀.accounts) :
    Gives (r₀.Sees now) (filterM (isUsable now excluded) accounts)
      (r₀.accounts.filter (r₀.usable now excluded)) := by
  rw [hacc]
  exact Gives.filterM fun account _ => isUsable_gives account

theorem preferredRecentSuccess_gives (hacc : accounts = r₀.accounts) :
    Gives (r₀.Sees now) (preferredRecentSuccessAccountId now accounts excluded)
      (r₀.latestSuccess (r₀.usableIds now excluded)) := by
  apply Gives.bind_get
  intro r hr
  apply Gives.bind (filterM_isUsable_gives hacc)
  rw [Router.latestSuccess, Router.usableIds, List.filterMap_map, hr.recentSuccess]
  exact .pure _

theorem preferredRecentProbe_gives (hacc : accounts = r₀.accounts) :
    Gives (r₀.Sees now) (preferredRecentProbeAccountId now accounts excluded)
      (r₀.freshestProbe (r₀.usableIds now excluded)) := by
  apply Gives.bind_get
  intro r hr
  apply Gives.bind (filterM_isUsable_gives hacc)
  rw [Router.freshestProbe, Router.usableIds, List.filterMap_map, probe_of_sees hr]
  exact .pure _

/-- What is chosen among all accounts when no turn has to be taken. -/
def Router.preferredPick (r : Router) (now : Nat) (excluded : List Uuid) :
    Option UpstreamAccount :=
  (findAccount r.accounts (r.latestSuccess (r.usableIds now excluded))).or
    (findAccount r.accounts (r.freshestProbe (r.usableIds now excluded)))

variable {account : UpstreamAccount}

theorem mem_of_findAccount {id : Option Uuid} (h : findAccount accounts id = some account) :
    account ∈ accounts := by
  rcases Option.bind_eq_some_iff.1 h with ⟨_, _, hfind⟩
  exact List.mem_of_find?_eq_some hfind

theorem mem_of_preferredPick
    (h : r₀.preferredPick now excluded = some account) : account ∈ r₀.accounts := by
  rcases Option.or_eq_some_iff.1 h with h | ⟨-, h⟩
  · exact mem_of_findAccount h
  · exact mem_of_findAccount h

theorem pickExcluding_gives_preferred (h : r₀.preferredPick now excluded = some account) :
    Gives (r₀.Sees now) (pickExcluding now excluded) (some account) := by
  have hne : r₀.accounts.isEmpty = false :=
    List.isEmpty_eq_false_iff_exists_mem.2 ⟨account, mem_of_preferredPick h⟩
  apply Gives.bind_get
  intro r hr
  dsimp only
  rw [hr.view.accounts, hne, if_neg Bool.false_ne_true]
  apply Gives.bind (preferredRecentSuccess_gives rfl)
  rw [Router.preferredPick] at h
  cases hrecent : findAccount r₀.accounts (r₀.latestSuccess (r₀.usableIds now excluded)) with
  | some recent =>
      rw [hrecent, Option.some_or] at h
      rw [← h]
      exact .pure (some recent)
  | none =>
      rw [hrecent, Option.none_or] at h
      apply Gives.bind (preferredRecentProbe_gives rfl)
      rw [h]
      exact .pure (some account)

end Gives

/-! ## The account that succeeded last -/

section RecentSuccess

variable {now : Nat} {r : Router} {excluded : List Uuid}

/-- Where the latest success of all ids belongs to one of fewer ids, it is theirs as well. -/
theorem latestSuccess_of_subset {ids ids' : List Uuid} {id : Uuid}
    (h : r.latestSuccess ids = some id) (hsub : ids' ⊆ ids) (hid : id ∈ ids') :
    r.latestSuccess ids' = some id := by
  rcases Option.map_eq_some_iff.1 h with ⟨x, hx, rfl⟩
  rcases List.mem_filterMap.1 (mem_of_maxBy hx) with ⟨id, -, hseen⟩
  have heq : x.1 = id := fst_of_recent hseen
  rw [heq] at hid
  have hmax := maxBy_of_subset hx (fun y hy => by
    rcases List.mem_filterMap.1 hy with ⟨id', hid', hy⟩
    exact List.mem_filterMap.2 ⟨id', hsub hid', hy⟩) (List.mem_filterMap.2 ⟨id, hid, hseen⟩)
  rw [Router.latestSuccess, hmax]
  rfl

theorem latestSuccess_isSome_of_subset {ids ids' : List Uuid} {id : Uuid}
    (h : r.latestSuccess ids' = some id) (hsub : ids' ⊆ ids) :
    ∃ latest, r.latestSuccess ids = some latest := by
  rcases Option.map_eq_some_iff.1 h with ⟨x, hx, -⟩
  rcases List.mem_filterMap.1 (mem_of_maxBy hx) with ⟨id, hid, hseen⟩
  have hmem : x ∈ ids.filterMap fun id => (r.recentSuccess id).map fun seenAt => (id, seenAt) :=
    List.mem_filterMap.2 ⟨id, hsub hid, hseen⟩
  cases hlist : ids.filterMap fun id => (r.recentSuccess id).map fun seenAt => (id, seenAt) with
  | nil =>
      rw [hlist] at hmem
      cases hmem
  | cons y ys =>
      rw [Router.latestSuccess, hlist]
      exact ⟨_, rfl⟩

/-- The account that succeeded last among those that are not excluded may be used, or else what
is taken in its place is the account `id` itself. -/
def Router.KeepsRecentSuccess (r : Router) (now : Nat) (excluded : List Uuid) (id : Uuid) : Prop :=
  (∀ latest, r.latestSuccess (allowedIds (r.accounts.map (·.id)) excluded) = some latest →
    (r.specific now latest).isSome = true) ∨
  r.fallbackPick now (allowedIds (r.accounts.map (·.id)) excluded) =
    r.accounts.find? (·.id = id)

theorem pickExcluding_recentSuccess (hnodup : (r.accounts.map (·.id)).Nodup) {id : Uuid}
    (hbest : r.latestSuccess (r.usableIds now excluded) = some id) :
    (pickExcluding now excluded r).1 = r.accounts.find? (·.id = id) := by
  have hmem := mem_of_latestSuccess hbest
  rcases specific_of_mem_usableIds hnodup hmem with ⟨hspecific, hsome⟩
  rcases Option.isSome_iff_exists.1 hsome with ⟨account, haccount⟩
  have hfind := hspecific.symm.trans haccount
  have hgives : Gives (r.Sees now) (pickExcluding now excluded) (some account) := by
    apply pickExcluding_gives_preferred
    rw [Router.preferredPick, hbest, findAccount, Option.bind_some, hfind, Option.some_or]
  rw [(hgives r (.refl now r)).1, hfind]

/-- Let `id` be the account that succeeded last among those that may be used. Without a policy
it is selected; among the candidates of a policy that lists all accounts, exactly when it is not
hidden. -/
theorem recent_success_selected_iff (hnodup : (r.accounts.map (·.id)).Nodup) {id : Uuid}
    (hbest : r.latestSuccess (r.usableIds now excluded) = some id) :
    (pickExcluding now excluded r).1 = r.accounts.find? (·.id = id) ∧
      ((pickCandidateAccount now (r.accounts.map (·.id)) excluded r).1 =
          r.accounts.find? (·.id = id) ↔
        r.KeepsRecentSuccess now excluded id) := by
  refine ⟨pickExcluding_recentSuccess hnodup hbest, ?_⟩
  have hgives := (@pickCandidateAccount_gives now r excluded (r.accounts.map (·.id)) r
    (Router.Sees.refl now r)).1
  rw [hgives, Router.KeepsRecentSuccess]
  rcases latestSuccess_isSome_of_subset hbest usableIds_subset with ⟨latest, hlatest⟩
  have hallowed := mem_of_latestSuccess hlatest
  rw [hlatest, Option.bind_some]
  cases hspecific : r.specific now latest with
  | some account =>
      have hsome : (r.specific now latest).isSome = true := by rw [hspecific]; rfl
      have husable := mem_usableIds_of_specific hsome hallowed
      have heq := latestSuccess_of_subset hlatest usableIds_subset husable
      cases Option.some.inj (heq.symm.trans hbest)
      refine iff_of_true ?_ (.inl fun latest' h => ?_)
      · rw [Option.some_or, ← hspecific, (specific_of_mem_usableIds hnodup husable).1]
      · cases Option.some.inj h
        exact hsome
  | none =>
      rw [Option.none_or]
      constructor
      · exact .inr
      · rintro (h | h)
        · have hsome := h latest rfl
          rw [hspecific] at hsome
          cases hsome
        · exact h

end RecentSuccess

/-- Three accounts, of which `b` has succeeded, and `a` after it. -/
def recentlySucceeded (ejected : Uuid → Option Nat) : Router :=
  { Router.new [sampleAccount "c", sampleAccount "b", sampleAccount "a"] with
    health := ejected
    recentSuccess := fun id =>
      if id = ⟨"a"⟩ then some 20 else if id = ⟨"b"⟩ then some 10 else none }

theorem recent_success_selected_healthy :
    (pickCandidateAccount 30 ((recentlySucceeded fun _ => none).accounts.map (·.id)) []
        (recentlySucceeded fun _ => none)).1 = some (sampleAccount "a") :=
  ((@recent_success_selected_iff 30 (recentlySucceeded fun _ => none) [] (by decide +kernel)
    ⟨"a"⟩ (by decide +kernel)).2.2
    (.inl (by
      intro latest hlatest
      cases Option.some.inj (hlatest.symm.trans
        (by decide +kernel : (recentlySucceeded fun _ => none).latestSuccess
          (allowedIds ((recentlySucceeded fun _ => none).accounts.map (·.id)) []) = some ⟨"a"⟩))
      decide +kernel))).trans (by decide +kernel)

/-- While the account that succeeded last is ejected, the one that succeeded before it is taken
without a policy, and the first candidate with one. -/
theorem ejected_account_hides_success :
    let r := recentlySucceeded fun id => if id = ⟨"a"⟩ then some 1000 else none
    r.latestSuccess (r.usableIds 30 []) = some ⟨"b"⟩ ∧
      (pickExcluding 30 [] r).1 = some (sampleAccount "b") ∧
      (pickCandidateAccount 30 (r.accounts.map (·.id)) [] r).1 = some (sampleAccount "c") := by
  decide +kernel

end CodexPool
