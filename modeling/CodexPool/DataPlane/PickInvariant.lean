import CodexPool.DataPlane.RouteAdherence

/-!
# What a selection may write

A selection writes to the state of the router in few ways: it forgets ejections that are over,
advances the cursor, and drops, refreshes and binds sessions. What these writes keep, every
selection keeps, and the account that it gives is one of the list and is not ejected.
-/

namespace CodexPool

open Stateful

/-- An invariant of the writes of a selection, at a time and for a list of accounts. Of an account
without an ejection that is in force, `H` holds. -/
structure PickInvariant (now : Nat) (accounts : List UpstreamAccount) (H : Uuid → Prop)
    (I : Router → Prop) : Prop where
  listed : ∀ r, I r → r.accounts = accounts
  healthy : ∀ r id, I r → r.healthyAt now id = true → H id
  forget : ∀ r id until_, I r → r.health id = some until_ → ¬ now < until_ →
    I { r with health := Function.update r.health id none }
  cursor : ∀ r n, I r → I { r with cursor := n }
  sessions : ∀ r items, I r →
    (∀ item ∈ items, item.2.accountId ∈ accounts.map (·.id) ∨
      ∃ old ∈ r.stickySessions, old.2.accountId = item.2.accountId) →
    I { r with stickySessions := items }

/-- A selection that keeps the invariant, and gives accounts of the list that are not ejected. -/
def Picks (accounts : List UpstreamAccount) (H : Uuid → Prop) (I : Router → Prop)
    (x : RouterM (Option UpstreamAccount)) : Prop :=
  Ensures I x fun o => ∀ a, o = some a → a ∈ accounts ∧ H a.id

section Picks

variable {now : Nat} {accounts : List UpstreamAccount} {H : Uuid → Prop} {I : Router → Prop}

theorem Picks.nothing : Picks accounts H I (pure none) := .pure fun _ h => by cases h

theorem Picks.orElse {x y : RouterM (Option UpstreamAccount)} (hx : Picks accounts H I x)
    (hy : Picks accounts H I y) :
    Picks accounts H I (do
      match ← x with
      | some account => pure (some account)
      | none => y) := by
  apply Ensures.bind hx
  intro o ho
  cases o with
  | some account => exact .pure ho
  | none => exact hy

variable (h : PickInvariant now accounts H I)

include h

/-! ## Single accounts -/

theorem isHealthy_keeps (id : Uuid) :
    Ensures I (isHealthy now id) fun b => b = true → H id := by
  intro r hr
  have hhealthy := h.healthy r id hr
  rw [isHealthy_run]
  unfold Router.healthyAt at hhealthy
  cases hid : r.health id with
  | none =>
      rw [hid] at hhealthy
      exact ⟨fun _ => hhealthy rfl, hr⟩
  | some until_ =>
      rw [hid] at hhealthy
      dsimp only at hhealthy ⊢
      split
      · exact ⟨nofun, hr⟩
      · rename_i hover
        rw [decide_eq_false hover] at hhealthy
        exact ⟨fun _ => hhealthy rfl, h.forget r id until_ hr hid hover⟩

theorem pickSpecific_ensures (id : Uuid) :
    Ensures I (pickSpecific now id) fun o =>
      ∀ a, o = some a → a ∈ accounts ∧ H a.id ∧ a.id = id := by
  apply Ensures.bind Ensures.get
  intro r hr
  cases hfind : r.accounts.find? (·.id = id) with
  | none => exact .pure nofun
  | some account =>
      have hmem := List.mem_of_find?_eq_some hfind
      have hid : account.id = id := by simpa using List.find?_some hfind
      rw [h.listed r hr] at hmem
      apply Ensures.ite
      · exact fun _ => .pure nofun
      · intro _
        apply Ensures.bind (isHealthy_keeps h account.id)
        intro healthy hhealthy
        apply Ensures.pure
        intro a ha
        cases healthy with
        | false => cases ha
        | true =>
            rw [← Option.some.inj ha]
            exact ⟨hmem, hhealthy rfl, hid⟩

theorem pickSpecific_keeps (id : Uuid) : Picks accounts H I (pickSpecific now id) :=
  (pickSpecific_ensures h id).mono fun _ ho a ha => ⟨(ho a ha).1, (ho a ha).2.1⟩

theorem isUsable_keeps (excluded : List Uuid) (a : UpstreamAccount) :
    Ensures I (isUsable now excluded a) fun b => b = true → H a.id := by
  unfold isUsable
  apply Ensures.ite
  · exact fun _ => .pure nofun
  · exact fun _ => isHealthy_keeps h a.id

theorem pickPreferred_keeps (id : Option Uuid) : Picks accounts H I (pickPreferred now id) := by
  unfold pickPreferred
  cases id with
  | none => exact Picks.nothing
  | some id => exact pickSpecific_keeps h id

/-! ## Sessions -/

theorem prune_keeps (r : Router) (hr : I r) :
    I { r with stickySessions := pruneExpiredStickySessions now r.stickySessions } :=
  h.sessions r _ hr fun item hitem => .inr ⟨item, (List.mem_filter.1 hitem).1, rfl⟩

theorem collectConflictAccountIds_keeps (key : String) :
    Ensures I (collectConflictAccountIds now key) fun _ => True := by
  apply Ensures.bind (Ensures.modify (prune_keeps h))
  exact fun _ _ => .bind .get fun r _ => .pure trivial

theorem getStickyAccountId_keeps (key : String) :
    Ensures I (getStickyAccountId now key) fun _ => True := by
  apply Ensures.bind (Ensures.modify (prune_keeps h))
  intro _ _
  apply Ensures.bind Ensures.get
  intro r _
  cases r.stickySessions.find? (·.1 = key) with
  | none => exact .pure trivial
  | some item =>
      apply Ensures.bind (Ensures.modify fun r hr => h.sessions r _ hr ?_)
      · exact fun _ _ => .pure trivial
      · intro item hitem
        rcases List.mem_map.1 hitem with ⟨old, hold, hitem⟩
        refine .inr ⟨old, hold, ?_⟩
        rw [← hitem]
        split
        · rfl
        · rfl

theorem removeStickyMapping_keeps (key : String) :
    Ensures I (removeStickyMapping key) fun _ => True :=
  .modify fun r hr => h.sessions r _ hr fun item hitem =>
    .inr ⟨item, (List.mem_filter.1 hitem).1, rfl⟩

omit h in
theorem mem_of_mem_enforceStickyCapacity {maxEntries fuel : Nat}
    {items : List (String × StickySessionEntry)} {item : String × StickySessionEntry}
    (hitem : item ∈ enforceStickyCapacity maxEntries fuel items) : item ∈ items := by
  induction fuel generalizing items with
  | zero => exact hitem
  | succ fuel ih =>
      unfold enforceStickyCapacity at hitem
      split at hitem
      · exact hitem
      · split at hitem
        · exact hitem
        · exact (List.mem_filter.1 (ih hitem)).1

theorem insertStickyMapping_keeps (key : String) {accountId : Uuid}
    (hmem : accountId ∈ accounts.map (·.id)) :
    Ensures I (insertStickyMapping now key accountId) fun _ => True := by
  apply Ensures.modify
  intro r hr
  apply h.sessions r _ hr
  intro item hitem
  rcases List.mem_append.1 hitem with hold | hnew
  · have hkept := mem_of_mem_enforceStickyCapacity (List.mem_filter.1 hold).1
    exact .inr ⟨item, (List.mem_filter.1 hkept).1, rfl⟩
  · rw [List.mem_singleton.1 hnew]
    exact .inl hmem

theorem keepSticky_keeps (allowed : Uuid → Bool) (key : String) (bound : Option Uuid) :
    Picks accounts H I (keepSticky now allowed key bound) := by
  have hremove : Picks accounts H I (do removeStickyMapping key; pure none) :=
    .bind (removeStickyMapping_keeps h key) fun _ _ => Picks.nothing
  cases bound with
  | none => exact Picks.nothing
  | some id =>
      apply Ensures.ite
      · exact fun _ => hremove
      · exact fun _ => (pickSpecific_keeps h id).orElse hremove

theorem pickSticky_keeps (allowed : Uuid → Bool) (key : String) (prefer : Bool)
    {spread fresh : RouterM (Option UpstreamAccount)} (hspread : Picks accounts H I spread)
    (hfresh : Picks accounts H I fresh) :
    Picks accounts H I (pickSticky now allowed key prefer spread fresh) := by
  have hnew : Picks accounts H I (pickUnbound prefer spread fresh) :=
    .ite (fun _ => hspread.orElse hfresh) fun _ => hfresh
  apply Ensures.bind (getStickyAccountId_keeps h key)
  intro bound _
  apply Picks.orElse (keepSticky_keeps h allowed key bound)
  apply Ensures.bind hnew
  intro o ho
  cases o with
  | none => exact Picks.nothing
  | some account =>
      have hmem := List.mem_map_of_mem (f := (·.id)) (ho account rfl).1
      exact .bind (insertStickyMapping_keeps h key hmem) fun _ _ => .pure ho

/-! ## Candidates -/

theorem pickFirstCandidate_keeps (candidateIds excluded : List Uuid) :
    Picks accounts H I (pickFirstCandidate now candidateIds excluded) :=
  Ensures.findSomeM fun id _ => pickSpecific_keeps h id

theorem pickCandidateAccount_keeps (candidateIds excluded : List Uuid) :
    Picks accounts H I (pickCandidateAccount now candidateIds excluded) := by
  apply Ensures.bind Ensures.get
  intro r _
  apply Picks.orElse (pickPreferred_keeps h _)
  have hprobe : Ensures I (preferredCandidateProbeAccountId candidateIds excluded) fun _ => True :=
    .bind .get fun _ _ => .pure trivial
  apply Ensures.bind hprobe
  exact fun probed _ => (pickPreferred_keeps h probed).orElse
    (pickFirstCandidate_keeps h candidateIds excluded)

theorem pickFromOrderedCandidates_keeps (candidateIds : List Uuid) (stickyKey : Option String)
    (excluded : List Uuid) (prefer : Bool) :
    Picks accounts H I (pickFromOrderedCandidates now candidateIds stickyKey excluded prefer) := by
  unfold pickFromOrderedCandidates
  cases normalizeStickyKey stickyKey with
  | none => exact pickCandidateAccount_keeps h candidateIds excluded
  | some key =>
      apply pickSticky_keeps h _ key prefer
      · apply Ensures.bind (collectConflictAccountIds_keeps h key)
        exact fun conflictIds _ => pickFirstCandidate_keeps h candidateIds _
      · exact pickCandidateAccount_keeps h candidateIds excluded

/-! ## Round robin -/

theorem fetchAddCursor_keeps : Ensures I fetchAddCursor fun _ => True := fun r hr =>
  ⟨trivial, h.cursor r _ hr⟩

theorem pickRoundRobin_keeps (excluded : List Uuid) (n : Nat) :
    Picks accounts H I (pickRoundRobin accounts (isUsable now excluded) n) := by
  induction n with
  | zero => exact Picks.nothing
  | succ n ih =>
      apply Ensures.bind (fetchAddCursor_keeps h)
      intro cursor _
      cases ha : accounts[cursor % accounts.length]? with
      | none => exact Picks.nothing
      | some account =>
          apply Ensures.bind (isUsable_keeps h excluded account)
          intro ok hok
          apply Ensures.ite
          · intro husable
            apply Ensures.pure
            intro a haccount
            rw [← Option.some.inj haccount]
            exact ⟨List.mem_of_getElem? ha, hok husable⟩
          · exact fun _ => ih

omit h in
theorem Picks.preferred {x : RouterM (Option Uuid)} {y : RouterM (Option UpstreamAccount)}
    (hx : Ensures I x fun o => ∀ a, findAccount accounts o = some a → a ∈ accounts ∧ H a.id)
    (hy : Picks accounts H I y) :
    Picks accounts H I (do
      let id ← x
      match findAccount accounts id with
      | some account => pure (some account)
      | none => y) := by
  apply Ensures.bind hx
  intro id hid
  cases hfind : findAccount accounts id with
  | none => exact hy
  | some account =>
      apply Ensures.pure
      intro a ha
      rw [← Option.some.inj ha]
      exact hid account hfind

/-- An id that is preferred among the accounts that may be used. -/
theorem preferred_keeps {α : Type} {cmp : Uuid × α → Uuid × α → Ordering}
    {f : Router → UpstreamAccount → Option (Uuid × α)}
    (hf : ∀ r a x, f r a = some x → x.1 = a.id) (excluded : List Uuid) :
    Ensures I (do
      let r ← get
      let usable ← filterM (isUsable now excluded) accounts
      pure ((maxBy cmp (usable.filterMap (f r))).map (·.1)))
      fun o => ∀ a, findAccount accounts o = some a → a ∈ accounts ∧ H a.id := by
  have husable : Ensures I (filterM (isUsable now excluded) accounts) fun l =>
      ∀ a ∈ l, a ∈ accounts ∧ H a.id :=
    .filterM fun a _ => isUsable_keeps h excluded a
  apply Ensures.bind Ensures.get
  intro r _
  apply Ensures.bind husable
  intro usable husable
  apply Ensures.pure
  intro account hfind
  rcases Option.bind_eq_some_iff.1 hfind with ⟨id, hid, hfound⟩
  rcases exists_of_preferred (hf r) hid with ⟨a, ha, haid⟩
  have haccount : account.id = a.id := by
    rw [haid]
    simpa using List.find?_some hfound
  rw [haccount]
  exact ⟨List.mem_of_find?_eq_some hfound, (husable a ha).2⟩

theorem pickExcluding_keeps (excluded : List Uuid) :
    Picks accounts H I (pickExcluding now excluded) := by
  apply Ensures.bind Ensures.get
  intro r hr
  rw [h.listed r hr]
  apply Ensures.ite
  · exact fun _ => Picks.nothing
  · intro _
    apply Picks.preferred
    · exact preferred_keeps h (fun _ _ _ hx => fst_of_recent hx) excluded
    · apply Picks.preferred
      · exact preferred_keeps h (fun _ _ _ hx => fst_of_probe hx) excluded
      · exact pickRoundRobin_keeps h excluded _

theorem pickWithRoundRobinPolicy_keeps (stickyKey : Option String) (excluded : List Uuid)
    (prefer : Bool) :
    Picks accounts H I (pickWithRoundRobinPolicy now stickyKey excluded prefer) := by
  unfold pickWithRoundRobinPolicy
  cases normalizeStickyKey stickyKey with
  | none => exact pickExcluding_keeps h excluded
  | some key =>
      apply pickSticky_keeps h _ key prefer
      · apply Ensures.bind (collectConflictAccountIds_keeps h key)
        intro conflictIds _
        apply Ensures.bind Ensures.get
        intro r hr
        rw [h.listed r hr]
        exact pickRoundRobin_keeps h _ _
      · exact pickExcluding_keeps h excluded

theorem pickForModel_keeps (model stickyKey : Option String) (excluded : List Uuid)
    (prefer : Bool) :
    Picks accounts H I (pickForModel now model stickyKey excluded prefer) := by
  apply Ensures.bind Ensures.get
  intro r _
  cases r.candidateAccountIdsForModel model with
  | some candidateIds =>
      exact pickFromOrderedCandidates_keeps h candidateIds stickyKey excluded prefer
  | none => exact pickWithRoundRobinPolicy_keeps h stickyKey excluded prefer

end Picks

end CodexPool
