import CodexPool.DataPlane.RouteAdherence

/-!
# Excluded accounts

An account that is selected is one of the list and is not excluded, whichever way it is selected.
-/

namespace CodexPool

open Stateful

section Exclusion

variable {now : Nat} {r₀ : Router} {excluded : List Uuid}

def Spared (r : Router) (excluded : List Uuid) (a : UpstreamAccount) : Prop :=
  a ∈ r.accounts ∧ a.id ∉ excluded

theorem Usable.spared {a : UpstreamAccount} (h : Usable r₀ now excluded a) :
    Spared r₀ excluded a := ⟨h.mem, h.notExcluded⟩

theorem findAccount_spared {usable : List UpstreamAccount}
    (hus : ∀ a ∈ usable, a ∈ r₀.accounts ∧ Usable r₀ now excluded a) {id : Option Uuid}
    (hid : ∀ x, id = some x → ∃ a ∈ usable, a.id = x) {a : UpstreamAccount}
    (h : findAccount r₀.accounts id = some a) : Spared r₀ excluded a := by
  rcases Option.bind_eq_some_iff.1 h with ⟨x, rfl, hfind⟩
  rcases hid x rfl with ⟨b, hb, rfl⟩
  have hida : a.id = b.id := by simpa using List.find?_some hfind
  refine ⟨List.mem_of_find?_eq_some hfind, ?_⟩
  rw [hida]
  exact (hus b hb).2.notExcluded

theorem pickExcluding_spared :
    Selects now r₀ (pickExcluding now excluded) (Spared r₀ excluded) := by
  refine .bind .get fun r hr => .ite (fun _ => Selects.nothing) fun _ => ?_
  refine Selects.preferred ?_ (Selects.preferred ?_ ?_)
  · refine .bind .get fun r' _ => ?_
    refine .bind (filterM_isUsable_ensures hr.accounts) fun usable hus => ?_
    refine .pure fun a ha => ?_
    rw [hr.accounts] at ha
    exact findAccount_spared hus
      (fun x hx => exists_of_preferred (fun _ _ h => fst_of_recent h) hx) ha
  · refine .bind .get fun r' _ => ?_
    refine .bind (filterM_isUsable_ensures hr.accounts) fun usable hus => ?_
    refine .pure fun a ha => ?_
    rw [hr.accounts] at ha
    exact findAccount_spared hus
      (fun x hx => exists_of_preferred (fun _ _ h => fst_of_probe h) hx) ha
  · exact (pickRoundRobin_selects (fun a ha => hr.accounts ▸ ha) _).mono fun a h => h.spared

theorem pickWithRoundRobinPolicy_spared (stickyKey : Option String) (prefer : Bool) :
    Selects now r₀ (pickWithRoundRobinPolicy now stickyKey excluded prefer)
      (Spared r₀ excluded) := by
  unfold pickWithRoundRobinPolicy
  cases normalizeStickyKey stickyKey with
  | none => exact pickExcluding_spared
  | some key =>
      refine pickSticky_selects (fun id hal => ?_) ?_ pickExcluding_spared
      · have hex : id ∉ excluded := by simpa using hal
        exact (pickSpecific_usable hex).mono fun a h => h.1.spared
      · refine .bind (collectConflictAccountIds_ensures key) fun conflictIds _ => ?_
        refine .bind .get fun r hr => ?_
        exact (pickRoundRobin_selects (fun a ha => hr.accounts ▸ ha) _).mono
          fun a h => h.of_append.spared

theorem pickForModel_spared (model stickyKey : Option String) (prefer : Bool) :
    Selects now r₀ (pickForModel now model stickyKey excluded prefer) (Spared r₀ excluded) := by
  refine .bind .get fun r _ => ?_
  cases r.candidateAccountIdsForModel model with
  | some candidateIds =>
      exact (pickFromOrderedCandidates_selects candidateIds stickyKey prefer).mono
        fun a h => h.1.spared
  | none => exact pickWithRoundRobinPolicy_spared stickyKey prefer

end Exclusion

/-- The account that the proxy selects is one of the list and is not excluded. -/
theorem selectAccount_spared {now : Nat} {r : Router} {aliveRing : Option (List Uuid)}
    {model stickyKey : Option String} {excluded : List Uuid} {prefer : Bool}
    {a : UpstreamAccount} {alive : Bool}
    (h : (selectAccount now aliveRing model stickyKey excluded prefer r).1 = some (a, alive)) :
    Spared r excluded a := by
  have halive : Selects now r (pickAlive now aliveRing stickyKey excluded)
      (Spared r excluded) := by
    refine .ite (fun _ => ?_) fun _ => Selects.nothing
    exact (pickAccountFromAliveRing_selects aliveRing none).mono fun a hu => hu.spared
  have hselect : Ensures (r.View now)
      (selectAccount now aliveRing model stickyKey excluded prefer) fun o =>
      ∀ a alive, o = some (a, alive) → Spared r excluded a := by
    refine .bind halive fun o ho => ?_
    cases o with
    | some account =>
        refine .pure fun a alive hsome => ?_
        rcases Prod.mk.inj (Option.some.inj hsome) with ⟨rfl, -⟩
        exact ho _ rfl
    | none =>
        refine .bind (pickForModel_spared model stickyKey prefer) fun o ho => ?_
        refine .pure fun a alive hsome => ?_
        rcases Option.map_eq_some_iff.1 hsome with ⟨account, rfl, hpair⟩
        rcases Prod.mk.inj hpair with ⟨rfl, -⟩
        exact ho _ rfl
  exact (hselect r (Router.View.refl now r)).1 a alive h

end CodexPool
