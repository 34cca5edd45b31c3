import CodexPool.DataPlane.PickResults
import CodexPool.DataPlane.StickyCounts

/-!
# Asking for another account

Before a request fails over to another account, the proxy asks whether there is one. It asks by
selecting one. For a request without a session whose answer needs no turn to be taken, this is
only a question. Else the selection is counted, or the turn is lost.
-/

namespace CodexPool

open Stateful

def hasUntriedCrossAccountCandidate (now : Nat) (stickyPreferNonConflicting : Bool)
    (model stickyKey : Option String) (triedAccountIds : List Uuid) (currentAccountId : Uuid) :
    CountedM Bool := do
  let account ← Counted.pickForModel now model stickyKey (currentAccountId :: triedAccountIds)
    stickyPreferNonConflicting
  pure account.isSome

section Check

variable {now : Nat} {r : Router} {excluded : List Uuid}

/-- There is an account that may be used, on the route of the model. -/
def Router.HasCandidate (r : Router) (now : Nat) (model : Option String) (excluded : List Uuid) :
    Prop :=
  ∃ account, Usable r now excluded account ∧ r.accountMatchesModelRoute account.id model = true

/-- No turn has to be taken to choose an account for the model. -/
def Router.NeedsNoTurn (r : Router) (now : Nat) (model : Option String) (excluded : List Uuid) :
    Prop :=
  (r.candidateAccountIdsForModel model).isSome = true ∨ r.accounts = [] ∨
    ∃ id ∈ r.usableIds now excluded,
      (r.recentSuccess id).isSome = true ∨ (r.probe id).isSome = true

/-! ## Restricted routes -/

theorem pickCandidateAccount_isSome_iff (ids : List Uuid) :
    (((r.latestSuccess ids).bind (r.specific now)).or (r.fallbackPick now ids)).isSome = true ↔
      ∃ id ∈ ids, (r.specific now id).isSome = true := by
  have hbound : ∀ {o : Option Uuid}, (∀ id, o = some id → id ∈ ids) →
      (o.bind (r.specific now)).isSome = true → ∃ id ∈ ids, (r.specific now id).isSome = true := by
    intro o ho hsome
    cases o with
    | none => cases hsome
    | some id => exact ⟨id, ho id rfl, hsome⟩
  rw [Router.fallbackPick, Option.isSome_or, Option.isSome_or, Bool.or_eq_true, Bool.or_eq_true,
    List.findSome?_isSome_iff]
  constructor
  · rintro (h | h | h)
    · exact hbound (fun _ => mem_of_latestSuccess) h
    · exact hbound (fun _ => mem_of_freshestProbe) h
    · exact h
  · exact fun h => .inr (.inr h)

/-- With different ids, a candidate is found exactly when there is one. -/
theorem exists_specific_iff (hnodup : (r.accounts.map (·.id)).Nodup) {model : Option String}
    {candidateIds : List Uuid} (hroute : r.candidateAccountIdsForModel model = some candidateIds) :
    (∃ id ∈ allowedIds candidateIds excluded, (r.specific now id).isSome = true) ↔
      r.HasCandidate now model excluded := by
  have hmatches : ∀ id, r.accountMatchesModelRoute id model = candidateIds.contains id := by
    intro id
    rw [Router.accountMatchesModelRoute, hroute]
  constructor
  · rintro ⟨id, hid, hsome⟩
    rcases Option.isSome_iff_exists.1 hsome with ⟨account, haccount⟩
    rcases specific_eq_some haccount with ⟨-, rfl, hmem, henabled, hhealthy⟩
    rcases List.mem_filter.1 hid with ⟨hcandidate, hallowed⟩
    refine ⟨account, ⟨hmem, henabled, hhealthy, ?_⟩, ?_⟩
    · simpa using hallowed
    · rw [hmatches]
      simpa using hcandidate
  · rintro ⟨account, husable, hcandidate⟩
    rw [hmatches] at hcandidate
    have hid : account.id ∈ r.usableIds now excluded := mem_usableIds.2 ⟨account, husable, rfl⟩
    refine ⟨account.id, List.mem_filter.2 ⟨by simpa using hcandidate, ?_⟩,
      (specific_of_mem_usableIds hnodup hid).2⟩
    simpa using husable.notExcluded

/-! ## Taking a turn -/

theorem isUsable_cursor (account : UpstreamAccount) (r : Router) :
    (isUsable now excluded account r).2.cursor = r.cursor :=
  (isUsable_gives account r (.refl now r)).2.cursor

theorem pickRoundRobin_run (accounts : List UpstreamAccount)
    (usable : UpstreamAccount → RouterM Bool) (n : Nat) (r : Router) :
    pickRoundRobin accounts usable (n + 1) r =
      (match accounts[r.cursor % accounts.length]? with
      | none => pure none
      | some account => do
        let ok ← usable account
        if ok then pure (some account) else pickRoundRobin accounts usable n)
        { r with cursor := (r.cursor + 1) % 2 ^ 64 } := rfl

theorem pickRoundRobin_succ {accounts : List UpstreamAccount} (hne : accounts ≠ [])
    (usable : UpstreamAccount → RouterM Bool) (n : Nat) (r : Router) :
    ∃ account ∈ accounts, pickRoundRobin accounts usable (n + 1) r =
      let turn := usable account { r with cursor := (r.cursor + 1) % 2 ^ 64 }
      if turn.1 then (some account, turn.2) else pickRoundRobin accounts usable n turn.2 := by
  have hlt : r.cursor % accounts.length < accounts.length :=
    Nat.mod_lt _ (List.length_pos_iff.2 hne)
  have hget := List.getElem?_eq_getElem hlt
  refine ⟨_, List.getElem_mem hlt, ?_⟩
  rw [pickRoundRobin_run, hget]
  dsimp only
  generalize accounts[r.cursor % accounts.length] = account
  change (if (usable account _).1 then pure (some account) else pickRoundRobin accounts usable n :
    RouterM (Option UpstreamAccount)) _ = _
  split
  · rfl
  · rfl

/-- Going round takes at least one turn, and at most one for each account. -/
theorem pickRoundRobin_cursor {accounts : List UpstreamAccount} (hne : accounts ≠ []) (n : Nat)
    (r : Router) : ∃ k, 0 < k ∧ k ≤ n + 1 ∧
      (pickRoundRobin accounts (isUsable now excluded) (n + 1) r).2.cursor =
        (r.cursor + k) % 2 ^ 64 := by
  induction n generalizing r with
  | zero =>
      rcases pickRoundRobin_succ hne (isUsable now excluded) 0 r with ⟨account, -, heq⟩
      refine ⟨1, Nat.one_pos, le_rfl, ?_⟩
      rw [heq]
      dsimp only
      split
      · exact isUsable_cursor account _
      · exact isUsable_cursor account _
  | succ n ih =>
      rcases pickRoundRobin_succ hne (isUsable now excluded) (n + 1) r with ⟨account, -, heq⟩
      rw [heq]
      dsimp only
      split
      · exact ⟨1, Nat.one_pos, by omega, isUsable_cursor account _⟩
      · rcases ih (isUsable now excluded account
          { r with cursor := (r.cursor + 1) % 2 ^ 64 }).2 with ⟨k, hk, hle, hcursor⟩
        refine ⟨k + 1, by omega, by omega, ?_⟩
        have hturn : (isUsable now excluded account
            { r with cursor := (r.cursor + 1) % 2 ^ 64 }).2.cursor = (r.cursor + 1) % 2 ^ 64 :=
          isUsable_cursor account _
        rw [hcursor, hturn]
        omega

theorem pickRoundRobin_cursor_ne (hne : r.accounts ≠ []) (hlength : r.accounts.length < 2 ^ 64)
    {r' : Router} (hcursor : r'.cursor = r.cursor) :
    (pickRoundRobin r.accounts (isUsable now excluded) r.accounts.length r').2.cursor ≠
      r.cursor := by
  have hpositive : 0 < r.accounts.length := List.length_pos_iff.2 hne
  rcases Nat.exists_eq_add_one.2 hpositive with ⟨n, hn⟩
  rcases @pickRoundRobin_cursor now excluded _ hne n r' with ⟨k, hk, hle, heq⟩
  rw [← hn] at hle heq
  rw [heq, hcursor]
  omega

/-! ## Without a session -/

theorem findAccount_isSome {id : Uuid} (h : id ∈ r.usableIds now excluded) :
    (findAccount r.accounts (some id)).isSome = true := by
  rcases mem_usableIds.1 h with ⟨account, husable, rfl⟩
  exact List.find?_isSome.2 ⟨account, husable.mem, decide_eq_true rfl⟩

/-- No turn is taken exactly when an account that may be used has succeeded or was probed. -/
theorem preferredPick_isSome_iff :
    (r.preferredPick now excluded).isSome = true ↔
      ∃ id ∈ r.usableIds now excluded,
        (r.recentSuccess id).isSome = true ∨ (r.probe id).isSome = true := by
  have hfound : ∀ {o : Option Uuid}, (∀ id, o = some id → id ∈ r.usableIds now excluded) →
      (findAccount r.accounts o).isSome = o.isSome := by
    intro o ho
    cases o with
    | none => rfl
    | some id => exact findAccount_isSome (ho id rfl)
  rw [Router.preferredPick, Option.isSome_or, hfound (fun _ => mem_of_latestSuccess),
    hfound (fun _ => mem_of_freshestProbe), Bool.or_eq_true]
  constructor
  · rintro (h | h)
    · rcases Option.isSome_iff_exists.1 h with ⟨id, hid⟩
      rcases mem_of_preferredId (fun _ _ hseen => fst_of_recent hseen) hid with ⟨hmem, hsome⟩
      exact ⟨id, hmem, .inl (by simpa using hsome)⟩
    · rcases Option.isSome_iff_exists.1 h with ⟨id, hid⟩
      rcases mem_of_preferredId (fun _ _ hprobe => fst_of_probe hprobe) hid with ⟨hmem, hsome⟩
      exact ⟨id, hmem, .inr hsome⟩
  · rintro ⟨id, hid, h | h⟩
    · exact .inl (preferredId_isSome hid (by simpa using h))
    · exact .inr (preferredId_isSome hid h)

theorem pickExcluding_of_nil (h : r.accounts = []) : pickExcluding now excluded r = (none, r) := by
  have hrun : pickExcluding now excluded r =
      (if r.accounts.isEmpty then pure none else _ : RouterM (Option UpstreamAccount)) r := rfl
  rw [hrun, h]
  rfl

theorem pickExcluding_run : pickExcluding now excluded r =
    (if r.accounts.isEmpty then pure none else do
      let recent ← preferredRecentSuccessAccountId now r.accounts excluded
      match findAccount r.accounts recent with
      | some account => pure (some account)
      | none => do
        let probed ← preferredRecentProbeAccountId now r.accounts excluded
        match findAccount r.accounts probed with
        | some account => pure (some account)
        | none => pickRoundRobin r.accounts (isUsable now excluded) r.accounts.length :
      RouterM (Option UpstreamAccount)) r := rfl

theorem pickExcluding_cursor_ne (hne : r.accounts ≠ []) (hlength : r.accounts.length < 2 ^ 64)
    (hnone : r.preferredPick now excluded = none) :
    (pickExcluding now excluded r).2.cursor ≠ r.cursor := by
  rcases Option.or_eq_none_iff.1 hnone with ⟨hrecent, hprobed⟩
  have hempty : r.accounts.isEmpty = false := List.isEmpty_eq_false_iff.2 hne
  have hsuccess := @preferredRecentSuccess_gives now r excluded r.accounts rfl r (.refl now r)
  have hprobe := @preferredRecentProbe_gives now r excluded r.accounts rfl _ hsuccess.2
  rw [pickExcluding_run, hempty, if_neg Bool.false_ne_true, bind_run, hsuccess.1, hrecent]
  dsimp only
  rw [bind_run, hprobe.1, hprobed]
  exact pickRoundRobin_cursor_ne hne hlength hprobe.2.cursor

/-! ## The answer -/

namespace CountedRouter

/-- The check answers right, and leaves the sessions, their counters and the cursor as they
were. -/
structure ChecksPurely (c : CountedRouter) (now : Nat) (prefer : Bool)
    (model stickyKey : Option String) (triedAccountIds : List Uuid) (currentAccountId : Uuid) :
    Prop where
  answer : (hasUntriedCrossAccountCandidate now prefer model stickyKey triedAccountIds
      currentAccountId c).1 = true ↔
    c.HasCandidate now model (currentAccountId :: triedAccountIds)
  stickySessions : (hasUntriedCrossAccountCandidate now prefer model stickyKey triedAccountIds
    currentAccountId c).2.stickySessions = c.stickySessions
  stickyCounts : (hasUntriedCrossAccountCandidate now prefer model stickyKey triedAccountIds
    currentAccountId c).2.stickyCounts = c.stickyCounts
  cursor : (hasUntriedCrossAccountCandidate now prefer model stickyKey triedAccountIds
    currentAccountId c).2.cursor = c.cursor

end CountedRouter

section Answer

variable {c : CountedRouter} {model stickyKey : Option String} {prefer : Bool}

/-- A selection without a session. -/
def pickPlain (now : Nat) (candidateIds : Option (List Uuid)) (excluded : List Uuid) :
    RouterM (Option UpstreamAccount) :=
  match candidateIds with
  | some candidateIds => pickCandidateAccount now candidateIds excluded
  | none => pickExcluding now excluded

theorem pickForModel_of_noSession (h : normalizeStickyKey stickyKey = none) :
    Counted.pickForModel now model stickyKey excluded prefer c =
      Counted.onRouter (pickPlain now (c.candidateAccountIdsForModel model) excluded) c := by
  have hrun : Counted.pickForModel now model stickyKey excluded prefer c =
      (match c.candidateAccountIdsForModel model with
      | some candidateIds =>
        Counted.pickFromOrderedCandidates now candidateIds stickyKey excluded prefer
      | none => Counted.pickWithRoundRobinPolicy now stickyKey excluded prefer) c := rfl
  rw [hrun]
  unfold Counted.pickFromOrderedCandidates Counted.pickWithRoundRobinPolicy
  rw [h]
  cases c.candidateAccountIdsForModel model with
  | none => rfl
  | some candidateIds => rfl

/-- For a session, the selection is counted. -/
theorem sessionTotal_of_session {key : String} (h : normalizeStickyKey stickyKey = some key) :
    (Counted.pickForModel now model stickyKey excluded prefer c).2.stickyCounts.sessionTotal =
      c.stickyCounts.sessionTotal + 1 := by
  have hrun : Counted.pickForModel now model stickyKey excluded prefer c =
      (match c.candidateAccountIdsForModel model with
      | some candidateIds =>
        Counted.pickFromOrderedCandidates now candidateIds stickyKey excluded prefer
      | none => Counted.pickWithRoundRobinPolicy now stickyKey excluded prefer) c := rfl
  have hcounted : ∀ allowed spread fresh,
      (Counted.pickSticky now allowed key prefer spread fresh c).2.stickyCounts.sessionTotal =
        c.stickyCounts.sessionTotal + 1 := by
    intro allowed spread fresh
    rcases Counted.pickSticky_counts allowed key prefer spread fresh ⟨rfl, rfl, rfl⟩ with h | h
    · exact h.1
    · exact h.1
  rw [hrun]
  unfold Counted.pickFromOrderedCandidates Counted.pickWithRoundRobinPolicy
  rw [h]
  cases c.candidateAccountIdsForModel model with
  | none => exact hcounted _ _ _
  | some candidateIds => exact hcounted _ _ _

/-- A selection that only looks, and finds an account when there is one. -/
theorem checksPurely_of_gives {triedAccountIds : List Uuid} {currentAccountId : Uuid}
    (h : normalizeStickyKey stickyKey = none) {o : Option UpstreamAccount}
    (hgives : Gives (c.toRouter.Sees now) (pickPlain now (c.candidateAccountIdsForModel model)
      (currentAccountId :: triedAccountIds)) o)
    (ho : o.isSome = true ↔ c.HasCandidate now model (currentAccountId :: triedAccountIds)) :
    c.ChecksPurely now prefer model stickyKey triedAccountIds currentAccountId := by
  rcases hgives c.toRouter (.refl now c.toRouter) with ⟨hresult, hstate⟩
  have hpick := @pickForModel_of_noSession now (currentAccountId :: triedAccountIds) c model
    stickyKey prefer h
  have hrun : hasUntriedCrossAccountCandidate now prefer model stickyKey triedAccountIds
      currentAccountId c =
        ((pickPlain now (c.candidateAccountIdsForModel model)
            (currentAccountId :: triedAccountIds) c.toRouter).1.isSome,
          { c with toRouter := (pickPlain now (c.candidateAccountIdsForModel model)
            (currentAccountId :: triedAccountIds) c.toRouter).2 }) := by
    rw [hasUntriedCrossAccountCandidate, bind_run, hpick]
    rfl
  constructor
  · rw [hrun, hresult]
    exact ho
  · rw [hrun]
    exact hstate.stickySessions
  · rw [hrun]
  · rw [hrun]
    exact hstate.cursor

theorem matches_of_unrestricted (hroute : r.candidateAccountIdsForModel model = none) (id : Uuid) :
    r.accountMatchesModelRoute id model = true := by
  rw [Router.accountMatchesModelRoute, hroute]

/-- Without a restriction, the check is only a question when it takes no turn. -/
theorem checksPurely_unrestricted_iff (hkey : normalizeStickyKey stickyKey = none)
    (hroute : c.candidateAccountIdsForModel model = none)
    (hlength : c.accounts.length < 2 ^ 64) (triedAccountIds : List Uuid)
    (currentAccountId : Uuid) :
    c.ChecksPurely now prefer model stickyKey triedAccountIds currentAccountId ↔
      c.accounts = [] ∨
        (c.preferredPick now (currentAccountId :: triedAccountIds)).isSome = true := by
  by_cases hnil : c.accounts = []
  · refine iff_of_true ?_ (.inl hnil)
    apply @checksPurely_of_gives now c model stickyKey prefer triedAccountIds currentAccountId
      hkey none
    · rw [hroute]
      intro r' hr'
      rw [pickPlain, pickExcluding_of_nil (hr'.view.accounts.trans hnil)]
      exact ⟨rfl, hr'⟩
    · constructor
      · exact nofun
      · rintro ⟨account, husable, -⟩
        have hmem := husable.mem
        rw [hnil] at hmem
        cases hmem
  · rw [or_iff_right hnil]
    cases hpreferred : c.preferredPick now (currentAccountId :: triedAccountIds) with
    | some account =>
        refine iff_of_true ?_ rfl
        apply checksPurely_of_gives hkey
        · rw [hroute]
          exact pickExcluding_gives_preferred hpreferred
        · refine iff_of_true rfl ?_
          have hsome : (c.preferredPick now (currentAccountId :: triedAccountIds)).isSome = true :=
            by rw [hpreferred]; rfl
          rcases preferredPick_isSome_iff.1 hsome with ⟨id, hid, -⟩
          rcases mem_usableIds.1 hid with ⟨account, husable, -⟩
          exact ⟨account, husable, matches_of_unrestricted hroute account.id⟩
    | none =>
        refine iff_of_false (fun hpure => ?_) nofun
        apply pickExcluding_cursor_ne hnil hlength hpreferred
        have hcursor := hpure.cursor
        rw [hasUntriedCrossAccountCandidate, bind_run, pickForModel_of_noSession hkey,
          hroute] at hcursor
        exact hcursor

/-- The check is only a question exactly for requests without a session for which no turn has to
be taken. -/
theorem checksPurely_iff (hnodup : (c.accounts.map (·.id)).Nodup)
    (hlength : c.accounts.length < 2 ^ 64) (triedAccountIds : List Uuid)
    (currentAccountId : Uuid) :
    c.ChecksPurely now prefer model stickyKey triedAccountIds currentAccountId ↔
      normalizeStickyKey stickyKey = none ∧
        c.NeedsNoTurn now model (currentAccountId :: triedAccountIds) := by
  cases hkey : normalizeStickyKey stickyKey with
  | some key =>
      refine iff_of_false (fun hpure => ?_) (fun h => nomatch h.1)
      have hcounted := @sessionTotal_of_session now (currentAccountId :: triedAccountIds) c model
        stickyKey prefer key hkey
      have hsame := congrArg StickyCounts.sessionTotal hpure.stickyCounts
      have heq := hcounted.symm.trans hsame
      simp at heq
  | none =>
      rw [and_iff_right rfl]
      cases hroute : c.candidateAccountIdsForModel model with
      | some candidateIds =>
          have hneeds : c.NeedsNoTurn now model (currentAccountId :: triedAccountIds) :=
            .inl (by rw [hroute]; rfl)
          refine iff_of_true ?_ hneeds
          apply checksPurely_of_gives hkey
          · rw [hroute]
            exact pickCandidateAccount_gives candidateIds
          · rw [pickCandidateAccount_isSome_iff]
            exact exists_specific_iff hnodup hroute
      | none =>
          rw [checksPurely_unrestricted_iff hkey hroute hlength, preferredPick_isSome_iff,
            Router.NeedsNoTurn, hroute]
          simp

end Answer

end Check

/-- The second of two accounts has succeeded. -/
def seenAccounts : CountedRouter :=
  { CountedRouter.newWithStickyLimits [sampleAccount "a", sampleAccount "b"] 1000 10 with
    recentSuccess := fun id => if id = ⟨"b"⟩ then some 10 else none }

theorem checksPurely_seenAccounts :
    seenAccounts.ChecksPurely 30 false none none [] ⟨"a"⟩ :=
  (checksPurely_iff (by decide +kernel) (by decide) [] ⟨"a"⟩).2
    ⟨rfl, .inr (.inr ⟨⟨"b"⟩, by decide +kernel, .inl (by decide)⟩)⟩

/-- For a session, the check is counted as a miss and binds the session to the other account. -/
theorem check_takes_session :
    let c := (hasUntriedCrossAccountCandidate 30 false none (some "s") [] ⟨"a"⟩
      { seenAccounts with stickySessions := [("s", ⟨⟨"a"⟩, 1000, 20⟩)] }).2
    (c.stickySessions.map fun item => (item.1, item.2.accountId)) = [("s", ⟨"b"⟩)] ∧
      c.stickyCounts = ⟨1, 0, 1, 0⟩ := by
  decide +kernel

end CodexPool
