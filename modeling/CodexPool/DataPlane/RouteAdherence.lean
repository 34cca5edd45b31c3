import CodexPool.DataPlane.Router
import Mathlib.Data.List.Nodup

/-!
# Which account is selected

Every selection of the proxy gives an account of the list that is enabled,
healthy and not excluded. When a policy that lists accounts matches the model,
the account is one of them, unless the alive ring gave it. A policy that lists no
account does not restrict the selection.
-/

namespace CodexPool

open Stateful

def Router.healthyAt (r : Router) (now : Nat) (accountId : Uuid) : Bool :=
  match r.health accountId with
  | none => true
  | some until_ => !decide (now < until_)

/-- What the selection of an account does not change: the accounts, the plan, and
which accounts are healthy at the time of the selection. -/
structure Router.View (now : Nat) (r₀ r : Router) : Prop where
  accounts : r.accounts = r₀.accounts
  plan : r.compiledRoutingPlan = r₀.compiledRoutingPlan
  healthy : ∀ id, r.healthyAt now id = r₀.healthyAt now id

theorem Router.View.refl (now : Nat) (r : Router) : r.View now r := ⟨rfl, rfl, fun _ => rfl⟩

/-- An account that may serve a request. -/
structure Usable (r : Router) (now : Nat) (excluded : List Uuid) (a : UpstreamAccount) :
    Prop where
  mem : a ∈ r.accounts
  enabled : a.enabled = true
  healthy : r.healthyAt now a.id = true
  notExcluded : a.id ∉ excluded

section Selection

variable {now : Nat} {r₀ : Router} {excluded : List Uuid}

/-- A selection that gives usable accounts with a property only. -/
def Selects (now : Nat) (r₀ : Router) (x : RouterM (Option UpstreamAccount))
    (P : UpstreamAccount → Prop) : Prop :=
  Ensures (r₀.View now) x fun o => ∀ a, o = some a → P a

variable {P : UpstreamAccount → Prop}

theorem Selects.nothing :
    Selects now r₀ (pure none) P := .pure fun _ h => by cases h

theorem Selects.mono {x : RouterM (Option UpstreamAccount)} {P' : UpstreamAccount → Prop}
    (h : Selects now r₀ x P) (hP : ∀ a, P a → P' a) : Selects now r₀ x P' :=
  Ensures.mono h fun _ ho a ha => hP a (ho a ha)

theorem Selects.orElse {x y : RouterM (Option UpstreamAccount)}
    (hx : Selects now r₀ x P) (hy : Selects now r₀ y P) :
    Selects now r₀ (do
      match ← x with
      | some account => pure (some account)
      | none => y) P := by
  refine .bind hx fun o ho => ?_
  cases o with
  | some account => exact .pure ho
  | none => exact hy

theorem view_modify {f : Router → Router} (ha : ∀ r, (f r).accounts = r.accounts)
    (hp : ∀ r, (f r).compiledRoutingPlan = r.compiledRoutingPlan)
    (hh : ∀ r, (f r).health = r.health) (r : Router) (h : r₀.View now r) :
    r₀.View now (f r) := by
  refine ⟨(ha r).trans h.accounts, (hp r).trans h.plan, fun id => ?_⟩
  rw [← h.healthy id, Router.healthyAt, Router.healthyAt, hh r]

theorem ensures_modify {f : Router → Router} (ha : ∀ r, (f r).accounts = r.accounts)
    (hp : ∀ r, (f r).compiledRoutingPlan = r.compiledRoutingPlan)
    (hh : ∀ r, (f r).health = r.health) :
    Ensures (r₀.View now) (modify f) fun _ => True :=
  .modify (view_modify ha hp hh)

/-! ## Health -/

variable {id : Uuid}

theorem view_forget {r : Router} {until_ : Nat} (h : r₀.View now r)
    (hid : r.health id = some until_) (hle : ¬now < until_) :
    r₀.View now { r with health := Function.update r.health id none } := by
  refine ⟨h.accounts, h.plan, fun id' => ?_⟩
  rw [← h.healthy id', Router.healthyAt, Router.healthyAt]
  by_cases hid' : id' = id
  · subst hid'
    simp [hid, hle]
  · simp [Function.update_of_ne hid']

theorem isHealthy_run (id : Uuid) (r : Router) :
    isHealthy now id r =
      match r.health id with
      | none => (true, r)
      | some until_ =>
        if now < until_ then (false, r)
        else (true, { r with health := Function.update r.health id none }) := by
  change (match r.health id with
    | none => (pure true : RouterM Bool)
    | some until_ =>
      if now < until_ then pure false
      else (do
        modify fun r : Router => { r with health := Function.update r.health id none }
        pure true)) r = _
  cases r.health id with
  | none => rfl
  | some until_ =>
      simp only
      split <;> rfl

theorem isHealthy_ensures (id : Uuid) :
    Ensures (r₀.View now) (isHealthy now id) fun b => b = true →
      r₀.healthyAt now id = true := by
  intro r hr
  rw [isHealthy_run, ← hr.healthy id, Router.healthyAt]
  cases hid : r.health id with
  | none => exact ⟨fun _ => rfl, hr⟩
  | some until_ =>
      simp only
      split
      · exact ⟨fun h => by simp at h, hr⟩
      · rename_i hlt
        exact ⟨fun _ => by simp [hlt], view_forget hr hid hlt⟩

theorem pickSpecific_selects (id : Uuid) :
    Selects now r₀ (pickSpecific now id) fun a =>
      a.id = id ∧ a ∈ r₀.accounts ∧ a.enabled = true ∧ r₀.healthyAt now a.id = true := by
  refine .bind .get fun r hr => ?_
  cases hfind : r.accounts.find? (·.id = id) with
  | none => exact Selects.nothing
  | some account =>
      have hmem : account ∈ r₀.accounts := hr.accounts ▸ List.mem_of_find?_eq_some hfind
      have hid : account.id = id := by simpa using List.find?_some hfind
      refine .ite (fun _ => Selects.nothing) fun hen => ?_
      refine .bind (isHealthy_ensures account.id) fun healthy hh => .pure fun a ha => ?_
      cases healthy with
      | false => cases ha
      | true =>
          obtain rfl := Option.some.inj ha
          exact ⟨hid, hmem, by simpa using hen, hh rfl⟩

theorem pickSpecific_usable (h : id ∉ excluded) :
    Selects now r₀ (pickSpecific now id) fun a => Usable r₀ now excluded a ∧ a.id = id :=
  (pickSpecific_selects id).mono fun _ ⟨hid, hmem, hen, hh⟩ =>
    ⟨⟨hmem, hen, hh, hid ▸ h⟩, hid⟩

theorem isUsable_ensures {a : UpstreamAccount} (hmem : a ∈ r₀.accounts) :
    Ensures (r₀.View now) (isUsable now excluded a) fun b => b = true →
      Usable r₀ now excluded a := by
  unfold isUsable
  refine .ite (fun _ => .pure fun h => by cases h) fun hc => ?_
  refine (isHealthy_ensures a.id).mono fun b hb hbt => ?_
  simp only [Bool.or_eq_true, List.contains_iff_mem, Bool.not_eq_true', not_or,
    Bool.not_eq_false] at hc
  exact ⟨hmem, hc.2, hb hbt, hc.1⟩

/-! ## Sessions -/

theorem getStickyAccountId_ensures (key : String) :
    Ensures (r₀.View now) (getStickyAccountId now key) fun _ => True := by
  refine .bind (ensures_modify (fun _ => rfl) (fun _ => rfl) fun _ => rfl) fun _ _ => ?_
  refine .bind .get fun r _ => ?_
  cases r.stickySessions.find? (·.1 = key) with
  | none => exact .pure trivial
  | some item =>
      refine .bind (ensures_modify (fun _ => rfl) (fun _ => rfl) fun _ => rfl) fun _ _ => ?_
      exact .pure trivial

theorem removeStickyMapping_ensures (key : String) :
    Ensures (r₀.View now) (removeStickyMapping key) fun _ => True :=
  ensures_modify (fun _ => rfl) (fun _ => rfl) fun _ => rfl

theorem insertStickyMapping_ensures (key : String) (id : Uuid) :
    Ensures (r₀.View now) (insertStickyMapping now key id) fun _ => True :=
  ensures_modify (fun _ => rfl) (fun _ => rfl) fun _ => rfl

theorem collectConflictAccountIds_ensures (key : String) :
    Ensures (r₀.View now) (collectConflictAccountIds now key) fun _ => True := by
  refine .bind (ensures_modify (fun _ => rfl) (fun _ => rfl) fun _ => rfl) fun _ _ => ?_
  exact .bind .get fun r _ => .pure trivial

theorem keepSticky_selects {allowed : Uuid → Bool}
    (hkept : ∀ id, allowed id = true → Selects now r₀ (pickSpecific now id) P)
    (key : String) (bound : Option Uuid) :
    Selects now r₀ (keepSticky now allowed key bound) P := by
  have hremove : Selects now r₀ (do removeStickyMapping key; pure none) P :=
    .bind (removeStickyMapping_ensures key) fun _ _ => Selects.nothing
  cases bound with
  | none => exact Selects.nothing
  | some id =>
      refine .ite (fun _ => hremove) fun hal => ?_
      exact (hkept id (by simpa using hal)).orElse hremove

theorem pickSticky_selects {allowed : Uuid → Bool} {key : String} {prefer : Bool}
    {spread fresh : RouterM (Option UpstreamAccount)}
    (hkept : ∀ id, allowed id = true → Selects now r₀ (pickSpecific now id) P)
    (hspread : Selects now r₀ spread P) (hfresh : Selects now r₀ fresh P) :
    Selects now r₀ (pickSticky now allowed key prefer spread fresh) P := by
  have hnew : Selects now r₀ (pickUnbound prefer spread fresh) P :=
    .ite (fun _ => hspread.orElse hfresh) fun _ => hfresh
  refine .bind (getStickyAccountId_ensures key) fun bound _ => ?_
  refine (keepSticky_selects hkept key bound).orElse ?_
  refine .bind hnew fun o ho => ?_
  cases o with
  | none => exact Selects.nothing
  | some account =>
      exact .bind (insertStickyMapping_ensures key account.id) fun _ _ => .pure ho

/-! ## Candidates of a policy -/

theorem mem_of_maxBy {α : Type} {cmp : α → α → Ordering} {l : List α} {a : α}
    (h : maxBy cmp l = some a) : a ∈ l := by
  cases l with
  | nil => cases h
  | cons b bs =>
      have hfold : ∀ (bs : List α) (best : α),
          bs.foldl (fun best x => if cmp best x = .gt then best else x) best ∈ best :: bs := by
        intro bs
        induction bs with
        | nil => exact fun best => List.mem_cons_self
        | cons x xs ih =>
            intro best
            rw [List.foldl_cons]
            split
            · exact List.mem_cons.2 ((List.mem_cons.1 (ih best)).imp_right
                (List.mem_cons_of_mem _))
            · exact List.mem_cons_of_mem _ (ih x)
      obtain rfl := Option.some.inj h
      exact hfold bs b

theorem mem_allowed {candidateIds : List Uuid}
    (h : id ∈ candidateIds.filter fun id => !excluded.contains id) :
    id ∈ candidateIds ∧ id ∉ excluded := by
  simpa using h

theorem pickPreferred_selects {candidateIds : List Uuid} {id : Option Uuid}
    (h : ∀ x, id = some x → x ∈ candidateIds ∧ x ∉ excluded) :
    Selects now r₀ (pickPreferred now id) fun a =>
      Usable r₀ now excluded a ∧ a.id ∈ candidateIds := by
  unfold pickPreferred
  cases id with
  | none => exact Selects.nothing
  | some x =>
      obtain ⟨hmem, hex⟩ := h x rfl
      exact (pickSpecific_usable hex).mono fun a ⟨hu, hid⟩ => ⟨hu, hid ▸ hmem⟩

theorem pickFirstCandidate_selects (candidateIds : List Uuid) :
    Selects now r₀ (pickFirstCandidate now candidateIds excluded) fun a =>
      Usable r₀ now excluded a ∧ a.id ∈ candidateIds := by
  refine Ensures.findSomeM fun id hid => ?_
  obtain ⟨hmem, hex⟩ := mem_allowed hid
  exact (pickSpecific_usable hex).mono fun a ⟨hu, hida⟩ => ⟨hu, hida ▸ hmem⟩

theorem mem_of_preferred {α : Type} {cmp : Uuid × α → Uuid × α → Ordering}
    {f : Uuid → Option (Uuid × α)} (hf : ∀ id x, f id = some x → x.1 = id)
    {candidateIds : List Uuid} {id : Uuid}
    (h : (maxBy cmp ((candidateIds.filter fun id => !excluded.contains id).filterMap f)).map
      (·.1) = some id) : id ∈ candidateIds ∧ id ∉ excluded := by
  obtain ⟨x, hx, rfl⟩ := Option.map_eq_some_iff.1 h
  obtain ⟨id', hid', hfx⟩ := List.mem_filterMap.1 (mem_of_maxBy hx)
  rw [hf id' x hfx]
  exact mem_allowed hid'

theorem fst_of_recent {o : Option Nat} {x : Uuid × Nat}
    (h : o.map (fun seenAt => (id, seenAt)) = some x) : x.1 = id := by
  obtain ⟨_, -, rfl⟩ := Option.map_eq_some_iff.1 h
  rfl

theorem fst_of_probe {r : Router} {x : Uuid × Nat × Option DateTime}
    (h : r.probe id = some x) : x.1 = id := by
  obtain ⟨traits, -, h⟩ := Option.bind_eq_some_iff.1 h
  simp only at h
  split at h
  · obtain rfl := Option.some.inj h
    rfl
  · cases h

theorem pickCandidateAccount_selects (candidateIds : List Uuid) :
    Selects now r₀ (pickCandidateAccount now candidateIds excluded) fun a =>
      Usable r₀ now excluded a ∧ a.id ∈ candidateIds := by
  refine .bind .get fun r hr => ?_
  refine (pickPreferred_selects fun x hx => ?_).orElse ?_
  · exact mem_of_preferred (fun _ _ h => fst_of_recent h) hx
  · have hprobe : Ensures (r₀.View now)
        (preferredCandidateProbeAccountId candidateIds excluded)
        fun o => ∀ x, o = some x → x ∈ candidateIds ∧ x ∉ excluded :=
      .bind .get fun r _ => .pure fun x hx =>
        mem_of_preferred (fun _ _ h => fst_of_probe h) hx
    refine .bind hprobe fun probed hp => ?_
    exact (pickPreferred_selects hp).orElse (pickFirstCandidate_selects candidateIds)

theorem Usable.of_append {conflictIds : List Uuid} {a : UpstreamAccount}
    (h : Usable r₀ now (excluded ++ conflictIds) a) : Usable r₀ now excluded a :=
  ⟨h.mem, h.enabled, h.healthy, fun he => h.notExcluded (List.mem_append_left _ he)⟩

theorem pickFromOrderedCandidates_selects (candidateIds : List Uuid)
    (stickyKey : Option String) (prefer : Bool) :
    Selects now r₀ (pickFromOrderedCandidates now candidateIds stickyKey excluded prefer)
      fun a => Usable r₀ now excluded a ∧ a.id ∈ candidateIds := by
  unfold pickFromOrderedCandidates
  cases normalizeStickyKey stickyKey with
  | none => exact pickCandidateAccount_selects candidateIds
  | some key =>
      refine pickSticky_selects (fun id hal => ?_) ?_ (pickCandidateAccount_selects _)
      · simp only [Bool.and_eq_true, Bool.not_eq_true', List.contains_iff_mem,
          ← Bool.not_eq_true] at hal
        exact (pickSpecific_usable hal.1).mono fun a ⟨hu, hid⟩ => ⟨hu, hid ▸ hal.2⟩
      · refine .bind (collectConflictAccountIds_ensures key) fun conflictIds _ => ?_
        exact (pickFirstCandidate_selects candidateIds).mono fun a ⟨hu, hmem⟩ =>
          ⟨hu.of_append, hmem⟩

/-! ## Round robin -/

theorem fetchAddCursor_ensures :
    Ensures (r₀.View now) fetchAddCursor fun _ => True := fun _ hr =>
  ⟨trivial, hr.accounts, hr.plan, hr.healthy⟩

variable {accounts : List UpstreamAccount}

theorem pickRoundRobin_selects (hsub : ∀ a ∈ accounts, a ∈ r₀.accounts) (n : Nat) :
    Selects now r₀ (pickRoundRobin accounts (isUsable now excluded) n)
      (Usable r₀ now excluded) := by
  induction n with
  | zero => exact Selects.nothing
  | succ n ih =>
      refine .bind fetchAddCursor_ensures fun cursor _ => ?_
      cases ha : accounts[cursor % accounts.length]? with
      | none => exact Selects.nothing
      | some account =>
          have hmem := hsub account (List.mem_of_getElem? ha)
          refine .bind (isUsable_ensures hmem) fun ok hok => .ite (fun h => ?_) fun _ => ih
          refine .pure fun a haa => ?_
          obtain rfl := Option.some.inj haa
          exact hok h

theorem findAccount_usable (hnodup : (r₀.accounts.map (·.id)).Nodup)
    {usable : List UpstreamAccount}
    (hus : ∀ a ∈ usable, a ∈ r₀.accounts ∧ Usable r₀ now excluded a) {id : Option Uuid}
    (hid : ∀ x, id = some x → ∃ a ∈ usable, a.id = x) {a : UpstreamAccount}
    (h : findAccount r₀.accounts id = some a) : Usable r₀ now excluded a := by
  obtain ⟨x, rfl, hfind⟩ := Option.bind_eq_some_iff.1 h
  obtain ⟨b, hb, rfl⟩ := hid x rfl
  have hmem := List.mem_of_find?_eq_some hfind
  have hida : a.id = b.id := by simpa using List.find?_some hfind
  obtain rfl := List.inj_on_of_nodup_map hnodup hmem (hus b hb).1 hida
  exact (hus a hb).2

theorem filterM_isUsable_ensures (hacc : accounts = r₀.accounts) :
    Ensures (r₀.View now) (filterM (isUsable now excluded) accounts) fun l =>
      ∀ a ∈ l, a ∈ r₀.accounts ∧ Usable r₀ now excluded a := by
  subst hacc
  exact .filterM fun a ha => isUsable_ensures ha

theorem exists_of_preferred {α : Type} {cmp : Uuid × α → Uuid × α → Ordering}
    {f : UpstreamAccount → Option (Uuid × α)} (hf : ∀ a x, f a = some x → x.1 = a.id)
    {usable : List UpstreamAccount} {id : Uuid}
    (h : (maxBy cmp (usable.filterMap f)).map (·.1) = some id) :
    ∃ a ∈ usable, a.id = id := by
  obtain ⟨x, hx, rfl⟩ := Option.map_eq_some_iff.1 h
  obtain ⟨a, ha, hfx⟩ := List.mem_filterMap.1 (mem_of_maxBy hx)
  exact ⟨a, ha, (hf a x hfx).symm⟩

theorem Selects.preferred {x : RouterM (Option Uuid)} {y : RouterM (Option UpstreamAccount)}
    (hx : Ensures (r₀.View now) x fun o => ∀ a, findAccount accounts o = some a → P a)
    (hy : Selects now r₀ y P) :
    Selects now r₀ (do
      let id ← x
      match findAccount accounts id with
      | some account => pure (some account)
      | none => y) P := by
  refine .bind hx fun id hid => ?_
  cases hfind : findAccount accounts id with
  | some account =>
      refine .pure fun a ha => ?_
      obtain rfl := Option.some.inj ha
      exact hid account hfind
  | none => exact hy

theorem pickExcluding_selects :
    Selects now r₀ (pickExcluding now excluded) fun a =>
      (r₀.accounts.map (·.id)).Nodup → Usable r₀ now excluded a := by
  refine .bind .get fun r hr => .ite (fun _ => Selects.nothing) fun _ => ?_
  refine Selects.preferred ?_ (Selects.preferred ?_ ?_)
  · refine .bind .get fun r' _ => ?_
    refine .bind (filterM_isUsable_ensures hr.accounts) fun usable hus => ?_
    refine .pure fun a ha hnodup => ?_
    rw [hr.accounts] at ha
    exact findAccount_usable hnodup hus
      (fun x hx => exists_of_preferred (fun _ _ h => fst_of_recent h) hx) ha
  · refine .bind .get fun r' _ => ?_
    refine .bind (filterM_isUsable_ensures hr.accounts) fun usable hus => ?_
    refine .pure fun a ha hnodup => ?_
    rw [hr.accounts] at ha
    exact findAccount_usable hnodup hus
      (fun x hx => exists_of_preferred (fun _ _ h => fst_of_probe h) hx) ha
  · exact (pickRoundRobin_selects (fun a ha => hr.accounts ▸ ha) _).mono fun a h _ => h

theorem pickWithRoundRobinPolicy_selects (stickyKey : Option String) (prefer : Bool) :
    Selects now r₀ (pickWithRoundRobinPolicy now stickyKey excluded prefer) fun a =>
      (r₀.accounts.map (·.id)).Nodup → Usable r₀ now excluded a := by
  unfold pickWithRoundRobinPolicy
  cases normalizeStickyKey stickyKey with
  | none => exact pickExcluding_selects
  | some key =>
      refine pickSticky_selects (fun id hal => ?_) ?_ pickExcluding_selects
      · have hex : id ∉ excluded := by simpa using hal
        exact (pickSpecific_usable hex).mono fun a h _ => h.1
      · refine .bind (collectConflictAccountIds_ensures key) fun conflictIds _ => ?_
        refine .bind .get fun r hr => ?_
        exact (pickRoundRobin_selects (fun a ha => hr.accounts ▸ ha) _).mono
          fun a h _ => h.of_append

/-! ## The proxy -/

theorem pickAccountFromAliveRing_selects (aliveRing : Option (List Uuid))
    (model : Option String) :
    Selects now r₀ (pickAccountFromAliveRing now aliveRing excluded model)
      (Usable r₀ now excluded) := by
  cases aliveRing with
  | none => exact Selects.nothing
  | some candidateIds =>
      refine Ensures.findSomeM fun id _ => .bind .get fun r _ => ?_
      refine .ite (fun _ => Selects.nothing) fun hc => ?_
      have hex : id ∉ excluded := by
        simp only [Bool.or_eq_true, List.contains_iff_mem, not_or] at hc
        exact hc.1
      exact (pickSpecific_usable hex).mono fun a h => h.1

end Selection

/-- The restriction that a matching policy puts on a model. -/
theorem candidateAccountIdsForModel_of_policy {r : Router} {plan : CompiledRoutingPlan}
    {policy : CompiledModelRoutingPolicy} {model : Option String} {m : String}
    (hm : Text.trimmed? model = some m) (hplan : r.compiledRoutingPlan = some plan)
    (hpolicy : plan.policyFor m = some policy) :
    r.candidateAccountIdsForModel model =
      if segmentAccountIds policy.fallbackSegments = [] then none
      else some (segmentAccountIds policy.fallbackSegments) := by
  unfold Router.candidateAccountIdsForModel
  simp only [hm, hplan, hpolicy, Option.map_some, Option.getD_some]
  cases hs : policy.fallbackSegments with
  | nil => rfl
  | cons segment segments =>
      rw [← hs]
      simp only [hs, List.isEmpty_cons, Bool.false_eq_true, if_false, List.isEmpty_iff]

theorem pickForModel_run (now : Nat) (r : Router) (model stickyKey : Option String)
    (excluded : List Uuid) (prefer : Bool) :
    pickForModel now model stickyKey excluded prefer r =
      (match r.candidateAccountIdsForModel model with
      | some candidateIds =>
        pickFromOrderedCandidates now candidateIds stickyKey excluded prefer
      | none => pickWithRoundRobinPolicy now stickyKey excluded prefer) r := rfl

section Policy

variable {now : Nat} {r : Router} {plan : CompiledRoutingPlan}
  {policy : CompiledModelRoutingPolicy} {model : Option String} {m : String}
  (hm : Text.trimmed? model = some m) (hplan : r.compiledRoutingPlan = some plan)
  (hpolicy : plan.policyFor m = some policy)

include hm hplan hpolicy

/-- A policy that lists accounts restricts the selection to them. -/
theorem pickForModel_restricted (hne : segmentAccountIds policy.fallbackSegments ≠ [])
    (stickyKey : Option String) (excluded : List Uuid) (prefer : Bool) :
    Selects now r (pickForModel now model stickyKey excluded prefer) fun a =>
      Usable r now excluded a ∧ a.id ∈ segmentAccountIds policy.fallbackSegments := by
  refine .bind .get fun r' hr' => ?_
  rw [candidateAccountIdsForModel_of_policy hm (hr'.plan.trans hplan) hpolicy, if_neg hne]
  exact pickFromOrderedCandidates_selects _ stickyKey prefer

/-- A policy that lists no account does not restrict the selection. -/
theorem pickForModel_unrestricted (hnil : segmentAccountIds policy.fallbackSegments = [])
    (stickyKey : Option String) (excluded : List Uuid) (prefer : Bool) :
    pickForModel now model stickyKey excluded prefer r =
      pickWithRoundRobinPolicy now stickyKey excluded prefer r := by
  rw [pickForModel_run, candidateAccountIdsForModel_of_policy hm hplan hpolicy, if_pos hnil]

end Policy

/-- What holds of an account that is selected for a model with a policy. -/
structure Adheres (r : Router) (now : Nat) (policy : CompiledModelRoutingPolicy)
    (stickyKey : Option String) (excluded : List Uuid) (a : UpstreamAccount)
    (alive : Bool) : Prop where
  /-- The alive ring is asked for requests without a session only. -/
  aliveRing : alive = true → stickyKey = none ∧ Usable r now excluded a
  listed : alive = false → segmentAccountIds policy.fallbackSegments ≠ [] →
    Usable r now excluded a ∧ a.id ∈ segmentAccountIds policy.fallbackSegments
  unlisted : alive = false → segmentAccountIds policy.fallbackSegments = [] →
    (r.accounts.map (·.id)).Nodup → Usable r now excluded a

/-- For a model with a policy the proxy selects an account that may be used. It is
one of the accounts that the policy lists, unless the policy lists none, which
does not restrict the selection, or the alive ring gave the account. -/
theorem selectAccount_adheres {now : Nat} {r : Router} {plan : CompiledRoutingPlan}
    {policy : CompiledModelRoutingPolicy} {model : Option String} {m : String}
    (hm : Text.trimmed? model = some m) (hplan : r.compiledRoutingPlan = some plan)
    (hpolicy : plan.policyFor m = some policy) (aliveRing : Option (List Uuid))
    (stickyKey : Option String) (excluded : List Uuid) (prefer : Bool)
    {a : UpstreamAccount} {alive : Bool}
    (h : (selectAccount now aliveRing model stickyKey excluded prefer r).1 =
      some (a, alive)) :
    Adheres r now policy stickyKey excluded a alive ∧
      (segmentAccountIds policy.fallbackSegments = [] →
        pickForModel now model stickyKey excluded prefer r =
          pickWithRoundRobinPolicy now stickyKey excluded prefer r) := by
  refine ⟨?_, fun hnil => pickForModel_unrestricted hm hplan hpolicy hnil _ _ _⟩
  have halive : Selects now r (pickAlive now aliveRing stickyKey excluded) fun a =>
      stickyKey = none ∧ Usable r now excluded a := by
    refine .ite (fun hs => ?_) fun _ => Selects.nothing
    exact (pickAccountFromAliveRing_selects aliveRing none).mono fun a hu =>
      ⟨Option.isNone_iff_eq_none.1 hs, hu⟩
  have hmodel : Selects now r (pickForModel now model stickyKey excluded prefer) fun a =>
      Adheres r now policy stickyKey excluded a false := by
    by_cases hnil : segmentAccountIds policy.fallbackSegments = []
    · refine .bind .get fun r' hr' => ?_
      rw [candidateAccountIdsForModel_of_policy hm (hr'.plan.trans hplan) hpolicy,
        if_pos hnil]
      refine (pickWithRoundRobinPolicy_selects stickyKey prefer).mono fun a hu => ?_
      exact ⟨nofun, fun _ hne => absurd hnil hne, fun _ _ => hu⟩
    · refine (pickForModel_restricted hm hplan hpolicy hnil stickyKey excluded
        prefer).mono fun a hu => ?_
      exact ⟨nofun, fun _ _ => hu, fun _ hnil' => absurd hnil' hnil⟩
  have hselect : Ensures (r.View now)
      (selectAccount now aliveRing model stickyKey excluded prefer) fun o =>
      ∀ a alive, o = some (a, alive) → Adheres r now policy stickyKey excluded a alive := by
    refine .bind halive fun o ho => ?_
    cases o with
    | some account =>
        refine .pure fun a alive hsome => ?_
        obtain ⟨rfl, rfl⟩ := Prod.mk.inj (Option.some.inj hsome)
        exact ⟨fun _ => ho _ rfl, nofun, nofun⟩
    | none =>
        refine .bind hmodel fun o ho => .pure fun a alive hsome => ?_
        obtain ⟨account, rfl, hpair⟩ := Option.map_eq_some_iff.1 hsome
        obtain ⟨rfl, rfl⟩ := Prod.mk.inj hpair
        exact ho _ rfl
  exact (hselect r (.refl now r)).1 a alive h

/-! Two accounts, and a policy for one model that lists the second account or no
account. -/

def sampleAccount (id : String) : UpstreamAccount :=
  { id := ⟨id⟩, label := id, mode := .codexOauth, baseUrl := "https://upstream"
    bearerToken := "", chatgptAccountId := none, enabled := true, priority := 100
    createdAt := 0 }

def samplePolicy (accountIds : List Uuid) : CompiledModelRoutingPolicy :=
  { id := ⟨"policy"⟩, name := "pinned", family := "gpt", exactModels := ["gpt-5.4"]
    modelPrefixes := [], fallbackSegments := [⟨⟨"profile"⟩, "profile", accountIds⟩] }

def sampleRouter (accountIds : List Uuid) : Router :=
  { accounts := [sampleAccount "free", sampleAccount "paid"]
    accountTraits := fun _ => none
    compiledRoutingPlan :=
      some ⟨⟨"plan"⟩, 0, none, [], [samplePolicy accountIds]⟩
    cursor := 0, health := fun _ => none, recentSuccess := fun _ => none
    stickySessions := [], stickySessionTtl := 1800, stickySessionMaxEntries := 10000 }

theorem selectAccount_adheres_sample :
    (sampleAccount "paid").id ∈
      segmentAccountIds (samplePolicy [⟨"paid"⟩]).fallbackSegments := by
  have h : (selectAccount 0 none (some "gpt-5.4") none [] false
      (sampleRouter [⟨"paid"⟩])).1 = some (sampleAccount "paid", false) := by decide +kernel
  have hm : Text.trimmed? (some "gpt-5.4") = some "gpt-5.4" := by decide
  exact ((selectAccount_adheres hm rfl rfl none none [] false h).1.listed rfl
    (by decide)).2

/-- A model whose policy lists no account is served by an account outside it. -/
theorem selectAccount_outside_policy :
    ∃ plan policy, (sampleRouter []).compiledRoutingPlan = some plan ∧
      plan.policyFor "gpt-5.4" = some policy ∧
      ∃ a, (selectAccount 0 none (some "gpt-5.4") none [] false (sampleRouter [])).1 =
          some (a, false) ∧
        a.id ∉ segmentAccountIds policy.fallbackSegments :=
  ⟨_, samplePolicy [], rfl, rfl, sampleAccount "free", by decide +kernel, by decide⟩

end CodexPool
