import CodexPool.DataPlane.CandidateCheck
import CodexPool.DataPlane.Exclusion
import CodexPool.Lib.Potential
import CodexPool.Proxy.Handler
import CodexPool.Proxy.Holds

/-!
# The loop of attempts

The handler selects accounts that it has not tried yet. When there is none left it starts over,
once whatever the time is, and again and again up to the deadline. After the deadline a failed
attempt leaves its account to the tried ones, and these are cleared once more at most. Every account
is selected twice at most, then the loop returns.
-/

namespace CodexPool

def minDistinctFailoverAttempts : Nat := 2

structure AttemptLoopConfig where
  enableRequestFailover : Bool
  sameAccountQuickRetryMax : Nat
  stream : Bool
  generateBillingRequestId : Nat → String
  sharedRoutingCacheEnabled : Bool
  stickyPreferNonConflicting : Bool
  forcedAccountId : Option Uuid
  model : Option String
  stickyKey : Option String
  failoverDeadline : Nat

def AttemptLoopConfig.handler (config : AttemptLoopConfig) : HandlerConfig where
  enableRequestFailover := config.enableRequestFailover
  sameAccountQuickRetryMax := config.sameAccountQuickRetryMax
  forcedAccountSelection := config.forcedAccountId.isSome
  stream := config.stream
  generateBillingRequestId := config.generateBillingRequestId

/-- What the loop meets in one pass: the time, the router as it is by then, the answers of the
alive ring and of the shared cache, and what comes of an attempt. -/
structure LoopReading where
  now : Nat
  router : CountedRouter
  aliveRing : Option (List Uuid)
  isUnhealthy : Bool
  upstreamUrlBuilds : Bool
  modelsCache : Option Bytes
  bridgeStreamResponse : Bool
  attempt : Attempt

structure AttemptLoop where
  handler : HandlerState
  account : Option Uuid
  triedAccountIds : List Uuid
  forcedDistinctFailoverRound : Bool

namespace AttemptLoop

def enabledTotal (r : Router) : Nat := r.accounts.countP (·.enabled)

def insertTried (accountId : Uuid) (tried : List Uuid) : List Uuid :=
  if tried.contains accountId then tried else accountId :: tried

section Step

variable (codec : SerdeJson) (config : AttemptLoopConfig)

/-- The account that is forced, in whatever state it is, or one that was not tried yet. -/
def nextAccount (s : AttemptLoop) (reading : LoopReading) : Option UpstreamAccount :=
  match config.forcedAccountId with
  | some accountId => reading.router.accounts.find? (·.id = accountId)
  | none => (selectAccount reading.now reading.aliveRing config.model config.stickyKey
      s.triedAccountIds config.stickyPreferNonConflicting reading.router.toRouter).1.map (·.1)

/-- Without an account the loop starts over or ends. -/
def selectNone (s : AttemptLoop) (reading : LoopReading) : AttemptLoop :=
  if config.forcedAccountId.isSome then
    { s with handler := s.handler.select .forcedAccountMissing }
  else if config.enableRequestFailover && !s.forcedDistinctFailoverRound &&
      !s.triedAccountIds.isEmpty &&
      decide (minDistinctFailoverAttempts ≤ enabledTotal reading.router.toRouter) then
    { s with
      forcedDistinctFailoverRound := true
      triedAccountIds := []
      handler := s.handler.select .waitForRouteUpdate }
  else if config.enableRequestFailover && decide (reading.now < config.failoverDeadline) then
    { s with
      triedAccountIds := []
      handler := s.handler.select .waitForRouteUpdate }
  else { s with handler := s.handler.select .noAccount }

def selectSome (s : AttemptLoop) (reading : LoopReading) (account : UpstreamAccount) :
    AttemptLoop :=
  if config.forcedAccountId.isNone && config.sharedRoutingCacheEnabled && reading.isUnhealthy then
    { s with
      triedAccountIds := insertTried account.id s.triedAccountIds
      handler := s.handler.select .unhealthy }
  else if !reading.upstreamUrlBuilds then
    { s with handler := s.handler.select .invalidUpstreamUrl }
  else
    match reading.modelsCache with
    | some body => { s with handler := s.handler.select (.servedFromModelsCache body) }
    | none =>
      { s with
        account := some account.id
        handler := s.handler.select (.account reading.bridgeStreamResponse) }

/-- The time and the other accounts are looked at when the attempt has failed. -/
def attemptFor (s : AttemptLoop) (reading : LoopReading) (accountId : Uuid) : Attempt :=
  { reading.attempt with
    beforeDeadline := reading.now < config.failoverDeadline
    hasUntriedCandidate := (hasUntriedCrossAccountCandidate reading.now
      config.stickyPreferNonConflicting config.model config.stickyKey s.triedAccountIds accountId
      reading.router).1 }

/-- An account is tried when its attempt ends and another one is to be selected. -/
def attempt (s : AttemptLoop) (reading : LoopReading) (bridge : Bool) (accountId : Uuid) :
    AttemptLoop :=
  let handler := s.handler.attempt codec config.handler bridge
    (attemptFor config s reading accountId)
  { s with
    handler := handler
    triedAccountIds := match handler.phase with
      | .selecting => insertTried accountId s.triedAccountIds
      | _ => s.triedAccountIds }

def step (s : AttemptLoop) (reading : LoopReading) : AttemptLoop :=
  match s.handler.phase, s.account with
  | .selecting, _ =>
    match nextAccount config s reading with
    | none => selectNone config s reading
    | some account => selectSome config s reading account
  | .attempting bridge, some accountId => attempt codec config s reading bridge accountId
  | _, _ => s

def init (pending : Option PendingBillingSession) : AttemptLoop where
  handler := HandlerState.init config.handler pending
  account := none
  triedAccountIds := []
  forcedDistinctFailoverRound := false

/-- A step that selects an account. -/
def selects (s : AttemptLoop) (reading : LoopReading) : Bool :=
  match s.handler.phase with
  | .selecting => (nextAccount config s reading).isSome
  | _ => false

/-- A step that sends the request upstream: the request is authorized and has a proxy. -/
def sends (s : AttemptLoop) (reading : LoopReading) : Bool :=
  match s.handler.phase, s.handler.authorize config.handler reading.attempt.authorizeReply,
    reading.attempt.outcome with
  | .attempting _, .ok _, .transportError => true
  | .attempting _, .ok _, .response .. => true
  | _, _, _ => false

end Step

def Returned (s : AttemptLoop) : Prop := ∃ reply, s.handler.phase = .returned reply

def isAttempting (s : AttemptLoop) : Bool :=
  match s.handler.phase with
  | .attempting _ => true
  | _ => false

end AttemptLoop

/-! ## The phase after an attempt -/

namespace HandlerState

/-- An attempt is made again before the deadline only, and another account is selected unless one
is forced. -/
def PhaseAfter (config : HandlerConfig) (a : Attempt) (bridge : Bool) (phase : HandlerPhase) :
    Prop :=
  (phase = .attempting bridge ∧ a.beforeDeadline = true) ∨
    (phase = .selecting ∧ config.forcedAccountSelection = false) ∨
      ∃ reply, phase = .returned reply

section PhaseAfter

variable {config : HandlerConfig} {s : HandlerState} {a : Attempt} {bridge : Bool}

theorem fail_phase (h : s.phase = .attempting bridge) (failure : Failure) :
    PhaseAfter config a bridge (s.fail config a failure).phase := by
  unfold fail
  split_ifs with hsame hother
  · simp only [Bool.and_eq_true] at hsame
    exact Or.inl ⟨h, hsame.2⟩
  · simp only [Bool.and_eq_true, Bool.not_eq_true'] at hother
    exact Or.inr (Or.inl ⟨rfl, hother.1.1.1⟩)
  · exact Or.inr (Or.inr ⟨failure.reply, rfl⟩)

theorem settle_phase (codec : SerdeJson) (status : Nat) (body : Bytes) :
    (s.settle codec status body).phase = s.phase := by
  unfold settle
  dsimp only
  split_ifs <;> rfl

theorem succeed_phase (reply : ProxyReply) :
    PhaseAfter config a bridge (s.succeed reply).phase :=
  Or.inr (Or.inr ⟨reply, rfl⟩)

theorem bridged_phase (h : s.phase = .attempting bridge) (codec : SerdeJson) (status : Nat)
    (headers : UpstreamHeaders) (body : Bytes) :
    PhaseAfter config a bridge (s.bridged codec config a status headers body).phase := by
  simp only [bridged]
  split_ifs
  · exact succeed_phase _
  · exact fail_phase ((settle_phase ..).trans h) _

theorem streamed_phase (h : s.phase = .attempting bridge) (codec : SerdeJson) (status : Nat)
    (headers : UpstreamHeaders) (items : List UpstreamItem) :
    PhaseAfter config a bridge (s.streamed codec config a status headers items).phase := by
  rw [streamed]
  split
  · exact succeed_phase (s := s) _
  · exact fail_phase h _

theorem buffered_phase (h : s.phase = .attempting bridge) (codec : SerdeJson) (status : Nat)
    (headers : UpstreamHeaders) (body : Bytes) :
    PhaseAfter config a bridge (s.buffered codec config a status headers body).phase := by
  simp only [buffered]
  split_ifs
  · exact fail_phase h _
  · exact succeed_phase _
  · exact fail_phase ((settle_phase ..).trans h) _

theorem respond_phase (h : s.phase = .attempting bridge) (codec : SerdeJson) (bridged : Bool)
    (status : Nat) (headers : UpstreamHeaders) (contentTypeIndicatesStream : Bool)
    (items : List UpstreamItem) :
    PhaseAfter config a bridge (s.respond codec config a bridged status headers
      contentTypeIndicatesStream items).phase := by
  simp only [respond]
  have hmarked : ∀ isStream : Bool, HandlerState.phase { s with
      billingSession := s.billingSession.map fun session : BillingSession =>
        { session with isStream := isStream } } = .attempting bridge := fun _ => h
  split_ifs
  · exact bridged_phase (hmarked _) codec status headers _
  · exact streamed_phase (hmarked _) codec status headers _
  · exact buffered_phase (hmarked _) codec status headers _

theorem authorize_phase {s' : HandlerState} {reply : Except ErrorReply Uuid}
    (h : s.authorize config reply = .ok s') : s'.phase = s.phase := by
  unfold authorize at h
  split at h
  · split at h
    · cases h
      rfl
    · cases h
  · cases h
    rfl

variable (config) in
theorem attempt_phase (h : s.phase = .attempting bridge) (codec : SerdeJson) (a : Attempt) :
    PhaseAfter config a bridge (s.attempt codec config bridge a).phase := by
  rw [attempt]
  cases hauthorize : s.authorize config a.authorizeReply with
  | error err => exact Or.inr (Or.inr ⟨_, rfl⟩)
  | ok s' =>
      have h' := (authorize_phase hauthorize).trans h
      cases a.outcome with
      | proxyUnavailable => exact fail_phase h' _
      | transportError => exact fail_phase h' _
      | response status headers contentTypeIndicatesStream items =>
          exact respond_phase h' codec bridge status headers _ items

end PhaseAfter

theorem failSelection_returned (s : HandlerState) (status : Nat) (reason code message : String) :
    ∃ reply, (s.failSelection status reason code message).phase = .returned reply := ⟨_, rfl⟩

theorem select_noAccount_returned (s : HandlerState) :
    ∃ reply, (s.select .noAccount).phase = .returned reply := by
  rw [select]
  split
  · exact ⟨_, rfl⟩
  · exact failSelection_returned ..

end HandlerState

namespace AttemptLoop

/-! ## Invariant -/

/-- The tried accounts are different ones of the list, the one of an attempt is not among them, and
where an account is forced none is tried. -/
structure LoopInvariant (config : AttemptLoopConfig) (accounts : List UpstreamAccount)
    (s : AttemptLoop) : Prop where
  nodup : s.triedAccountIds.Nodup
  listed : s.triedAccountIds ⊆ accounts.map (·.id)
  attempting : s.isAttempting = true →
    ∃ id ∈ accounts.map (·.id), s.account = some id ∧ id ∉ s.triedAccountIds
  forced : config.forcedAccountId.isSome = true → s.triedAccountIds = []

/-- The accounts that can be selected yet: those not tried, and all of them when the tried ones can
be cleared. -/
def accountsLeft (accounts : List UpstreamAccount) (s : AttemptLoop) : Nat :=
  accounts.length - s.triedAccountIds.length +
    if s.forcedDistinctFailoverRound then 0 else accounts.length

/-- How often an account can be selected yet. -/
def selectionsLeft (accounts : List UpstreamAccount) (s : AttemptLoop) : Nat :=
  match s.handler.phase with
  | .selecting => accountsLeft accounts s
  | .attempting _ => accountsLeft accounts s - 1
  | .returned _ => 0

/-- How many passes the loop can make yet. -/
def passesLeft (accounts : List UpstreamAccount) (s : AttemptLoop) : Nat :=
  match s.handler.phase with
  | .selecting => 2 * accountsLeft accounts s + (if s.forcedDistinctFailoverRound then 0 else 1) + 1
  | .attempting _ => 2 * accountsLeft accounts s + if s.forcedDistinctFailoverRound then 0 else 1
  | .returned _ => 0

section Step

variable {codec : SerdeJson} {config : AttemptLoopConfig} {accounts : List UpstreamAccount}
  {s : AttemptLoop} {reading : LoopReading}

theorem mem_of_nextAccount (h : LoopInvariant config accounts s)
    (haccounts : reading.router.accounts = accounts) {account : UpstreamAccount}
    (hnext : nextAccount config s reading = some account) :
    account.id ∈ accounts.map (·.id) ∧ account.id ∉ s.triedAccountIds := by
  unfold nextAccount at hnext
  cases hforced : config.forcedAccountId with
  | some accountId =>
      rw [hforced, haccounts] at hnext
      rw [h.forced (by rw [hforced]; rfl)]
      exact ⟨List.mem_map_of_mem (List.mem_of_find?_eq_some hnext), List.not_mem_nil⟩
  | none =>
      rw [hforced] at hnext
      rcases Option.map_eq_some_iff.1 hnext with ⟨⟨_, alive⟩, hselect, rfl⟩
      rcases selectAccount_spared hselect with ⟨hmem, hnot⟩
      exact ⟨List.mem_map_of_mem (haccounts ▸ hmem), hnot⟩

theorem insertTried_of_notMem {id : Uuid} {tried : List Uuid} (h : id ∉ tried) :
    insertTried id tried = id :: tried := by
  rw [insertTried, if_neg]
  simpa using h

theorem length_tried_lt (h : LoopInvariant config accounts s) {id : Uuid}
    (hid : id ∈ accounts.map (·.id)) (hnot : id ∉ s.triedAccountIds) :
    s.triedAccountIds.length < accounts.length := by
  have hnodup : (id :: s.triedAccountIds).Nodup := List.nodup_cons.2 ⟨hnot, h.nodup⟩
  have hsub : id :: s.triedAccountIds ⊆ accounts.map (·.id) :=
    List.cons_subset.2 ⟨hid, h.listed⟩
  have hle := (hnodup.subperm hsub).length_le
  rw [List.length_cons, List.length_map] at hle
  exact hle

theorem LoopInvariant.insertTried (h : LoopInvariant config accounts s) {id : Uuid}
    (hid : id ∈ accounts.map (·.id)) (hnot : id ∉ s.triedAccountIds)
    (hforced : config.forcedAccountId.isSome = false) {handler : HandlerState}
    (hphase : handler.phase = .selecting) :
    LoopInvariant config accounts
      { s with handler := handler, triedAccountIds := id :: s.triedAccountIds } where
  nodup := List.nodup_cons.2 ⟨hnot, h.nodup⟩
  listed := List.cons_subset.2 ⟨hid, h.listed⟩
  attempting hattempting := by simp [isAttempting, hphase] at hattempting
  forced hsome := by simp [hforced] at hsome

theorem LoopInvariant.withHandler (h : LoopInvariant config accounts s) {handler : HandlerState}
    (hphase : ∀ bridge, handler.phase ≠ .attempting bridge) :
    LoopInvariant config accounts { s with handler := handler } where
  nodup := h.nodup
  listed := h.listed
  attempting hattempting := by
    unfold isAttempting at hattempting
    split at hattempting
    · rename_i bridge heq
      exact absurd heq (hphase bridge)
    · cases hattempting
  forced := h.forced

end Step

/-! ## One pass -/

/-- What a pass of the loop can do, and whether it selects an account. -/
inductive Pass (config : AttemptLoopConfig) (accounts : List UpstreamAccount) (now : Nat)
    (s : AttemptLoop) : Bool → AttemptLoop → Prop
  | rests (hphase : s.Returned) : Pass config accounts now s false s
  | returns (handler : HandlerState) (hreturned : ∃ reply, handler.phase = .returned reply) :
    Pass config accounts now s false { s with handler := handler }
  | selectsAndReturns (id : Uuid) (handler : HandlerState)
    (hphase : s.handler.phase = .selecting) (hid : id ∈ accounts.map (·.id))
    (hnot : id ∉ s.triedAccountIds) (hreturned : ∃ reply, handler.phase = .returned reply) :
    Pass config accounts now s true { s with handler := handler }
  | startsOver (hphase : s.handler.phase = .selecting)
    (hround : s.forcedDistinctFailoverRound = false) :
    Pass config accounts now s false
      { s with forcedDistinctFailoverRound := true, triedAccountIds := [] }
  | waits (hphase : s.handler.phase = .selecting) (hdeadline : now < config.failoverDeadline) :
    Pass config accounts now s false { s with triedAccountIds := [] }
  | skips (id : Uuid) (hphase : s.handler.phase = .selecting)
    (hforced : config.forcedAccountId.isSome = false) (hid : id ∈ accounts.map (·.id))
    (hnot : id ∉ s.triedAccountIds) :
    Pass config accounts now s true { s with triedAccountIds := id :: s.triedAccountIds }
  | attempts (id : Uuid) (bridge : Bool) (handler : HandlerState)
    (hphase : s.handler.phase = .selecting) (hid : id ∈ accounts.map (·.id))
    (hnot : id ∉ s.triedAccountIds) (hattempting : handler.phase = .attempting bridge) :
    Pass config accounts now s true { s with account := some id, handler := handler }
  | retries (bridge : Bool) (handler : HandlerState)
    (hphase : s.handler.phase = .attempting bridge)
    (hattempting : handler.phase = .attempting bridge)
    (hdeadline : now < config.failoverDeadline) :
    Pass config accounts now s false { s with handler := handler }
  | failsOver (id : Uuid) (bridge : Bool) (handler : HandlerState)
    (hphase : s.handler.phase = .attempting bridge)
    (hforced : config.forcedAccountId.isSome = false) (hid : id ∈ accounts.map (·.id))
    (hnot : id ∉ s.triedAccountIds) (hselecting : handler.phase = .selecting) :
    Pass config accounts now s false
      { s with handler := handler, triedAccountIds := id :: s.triedAccountIds }

section Pass

variable {codec : SerdeJson} {config : AttemptLoopConfig} {accounts : List UpstreamAccount}
  {s : AttemptLoop} {reading : LoopReading}

theorem selectNone_pass (hphase : s.handler.phase = .selecting) :
    Pass config accounts reading.now s false (selectNone config s reading) := by
  unfold selectNone
  split_ifs with hforced hround hdeadline
  · exact .returns _ ⟨_, rfl⟩
  · simp only [Bool.and_eq_true, Bool.not_eq_true'] at hround
    exact .startsOver hphase hround.1.1.2
  · simp only [Bool.and_eq_true, decide_eq_true_eq] at hdeadline
    exact .waits hphase hdeadline.2
  · exact .returns _ (HandlerState.select_noAccount_returned _)

theorem selectSome_pass (hphase : s.handler.phase = .selecting) {account : UpstreamAccount}
    (hid : account.id ∈ accounts.map (·.id)) (hnot : account.id ∉ s.triedAccountIds) :
    Pass config accounts reading.now s true (selectSome config s reading account) := by
  unfold selectSome
  split_ifs with hunhealthy hurl
  · simp only [Bool.and_eq_true, Option.isNone_iff_eq_none] at hunhealthy
    have hforced : config.forcedAccountId.isSome = false := by rw [hunhealthy.1.1]; rfl
    rw [insertTried_of_notMem hnot]
    exact .skips account.id hphase hforced hid hnot
  · exact .selectsAndReturns account.id _ hphase hid hnot ⟨_, rfl⟩
  · cases reading.modelsCache with
    | some body => exact .selectsAndReturns account.id _ hphase hid hnot ⟨_, rfl⟩
    | none => exact .attempts account.id _ _ hphase hid hnot rfl

theorem attempt_pass {bridge : Bool} (hphase : s.handler.phase = .attempting bridge) {id : Uuid}
    (hid : id ∈ accounts.map (·.id)) (hnot : id ∉ s.triedAccountIds) :
    Pass config accounts reading.now s false (attempt codec config s reading bridge id) := by
  unfold attempt
  dsimp only
  rcases HandlerState.attempt_phase config.handler hphase codec
    (attemptFor config s reading id) with ⟨hagain, hdeadline⟩ | ⟨hselecting, hforced⟩ | ⟨reply, hr⟩
  · rw [hagain]
    exact .retries bridge _ hphase hagain (of_decide_eq_true hdeadline)
  · rw [hselecting]
    dsimp only
    rw [insertTried_of_notMem hnot]
    exact .failsOver id bridge _ hphase hforced hid hnot hselecting
  · rw [hr]
    exact .returns _ ⟨reply, hr⟩

theorem step_pass (h : LoopInvariant config accounts s)
    (haccounts : reading.router.accounts = accounts) :
    Pass config accounts reading.now s (selects config s reading)
      (step codec config s reading) := by
  unfold step selects
  cases hphase : s.handler.phase with
  | selecting =>
      cases hnext : nextAccount config s reading with
      | none => exact selectNone_pass hphase
      | some account =>
          rcases mem_of_nextAccount h haccounts hnext with ⟨hid, hnot⟩
          exact selectSome_pass hphase hid hnot
  | attempting bridge =>
      rcases h.attempting (by rw [isAttempting, hphase]) with ⟨id, hid, haccount, hnot⟩
      rw [haccount]
      exact attempt_pass hphase hid hnot
  | returned reply => exact .rests ⟨reply, hphase⟩

/-! ## Runs -/

variable {now : Nat} {selected : Bool} {s' : AttemptLoop}

theorem LoopInvariant.pass (h : LoopInvariant config accounts s)
    (hpass : Pass config accounts now s selected s') : LoopInvariant config accounts s' := by
  cases hpass with
  | rests => exact h
  | returns handler hreturned =>
      rcases hreturned with ⟨reply, hreply⟩
      exact h.withHandler fun bridge => by simp [hreply]
  | selectsAndReturns id handler _ _ _ hreturned =>
      rcases hreturned with ⟨reply, hreply⟩
      exact h.withHandler fun bridge => by simp [hreply]
  | startsOver hphase =>
      exact ⟨List.nodup_nil, List.nil_subset _, fun ha => by simp [isAttempting, hphase] at ha,
        fun _ => rfl⟩
  | waits hphase =>
      exact ⟨List.nodup_nil, List.nil_subset _, fun ha => by simp [isAttempting, hphase] at ha,
        fun _ => rfl⟩
  | skips id hphase hforced hid hnot => exact h.insertTried hid hnot hforced hphase
  | attempts id bridge handler hphase hid hnot =>
      exact ⟨h.nodup, h.listed, fun _ => ⟨id, hid, rfl, hnot⟩, h.forced⟩
  | retries bridge handler hphase =>
      refine ⟨h.nodup, h.listed, fun _ => ?_, h.forced⟩
      exact h.attempting (by rw [isAttempting, hphase])
  | failsOver id bridge handler hphase hforced hid hnot hselecting =>
      exact h.insertTried hid hnot hforced hselecting

theorem invariant_init (pending : Option PendingBillingSession) :
    LoopInvariant config accounts (init config pending) :=
  ⟨List.nodup_nil, List.nil_subset _, fun h => absurd h Bool.false_ne_true, fun _ => rfl⟩

/-- A pass after the deadline that selects an account takes one of the selections that are left. -/
theorem selectionsLeft_pass (h : LoopInvariant config accounts s)
    (hdeadline : config.failoverDeadline ≤ now) (hpass : Pass config accounts now s selected s') :
    selectionsLeft accounts s' + (if selected then 1 else 0) ≤ selectionsLeft accounts s := by
  cases hpass with
  | rests => simp
  | returns handler hreturned =>
      rcases hreturned with ⟨reply, hreply⟩
      simp [selectionsLeft, hreply]
  | selectsAndReturns id handler hphase hid hnot hreturned =>
      rcases hreturned with ⟨reply, hreply⟩
      have hlt := length_tried_lt h hid hnot
      simp only [selectionsLeft, hreply, hphase, accountsLeft, if_true]
      omega
  | startsOver hphase hround => simp [selectionsLeft, hphase, accountsLeft, hround]
  | waits hphase hlt => exact absurd hlt (Nat.not_lt.2 hdeadline)
  | skips id hphase hforced hid hnot =>
      have hlt := length_tried_lt h hid hnot
      simp only [selectionsLeft, hphase, accountsLeft, if_true, List.length_cons]
      omega
  | attempts id bridge handler hphase hid hnot hattempting =>
      have hlt := length_tried_lt h hid hnot
      simp only [selectionsLeft, hphase, hattempting, accountsLeft, if_true]
      omega
  | retries bridge handler hphase hattempting hlt => exact absurd hlt (Nat.not_lt.2 hdeadline)
  | failsOver id bridge handler hphase hforced hid hnot hselecting =>
      have hlt := length_tried_lt h hid hnot
      simp only [selectionsLeft, hphase, hselecting, accountsLeft, List.length_cons]
      simp only [Bool.false_eq_true, if_false]
      omega

/-- A pass after the deadline takes one of the passes that are left. -/
theorem passesLeft_pass (h : LoopInvariant config accounts s)
    (hdeadline : config.failoverDeadline ≤ now) (hpass : Pass config accounts now s selected s') :
    s'.Returned ∨ passesLeft accounts s' < passesLeft accounts s := by
  cases hpass with
  | rests hphase => exact Or.inl hphase
  | returns handler hreturned => exact Or.inl hreturned
  | selectsAndReturns id handler hphase hid hnot hreturned => exact Or.inl hreturned
  | startsOver hphase hround =>
      right
      simp only [passesLeft, hphase, accountsLeft, hround, List.length_nil]
      simp only [if_true, Bool.false_eq_true, if_false]
      omega
  | waits hphase hlt => exact absurd hlt (Nat.not_lt.2 hdeadline)
  | skips id hphase hforced hid hnot =>
      right
      have hlt := length_tried_lt h hid hnot
      simp only [passesLeft, hphase, accountsLeft, List.length_cons]
      omega
  | attempts id bridge handler hphase hid hnot hattempting =>
      right
      simp only [passesLeft, hphase, hattempting, accountsLeft]
      omega
  | retries bridge handler hphase hattempting hlt => exact absurd hlt (Nat.not_lt.2 hdeadline)
  | failsOver id bridge handler hphase hforced hid hnot hselecting =>
      right
      have hlt := length_tried_lt h hid hnot
      simp only [passesLeft, hphase, hselecting, accountsLeft, List.length_cons]
      omega

/-- After the deadline an attempt is the last one with its account. -/
theorem isAttempting_pass (hdeadline : config.failoverDeadline ≤ now)
    (hpass : Pass config accounts now s selected s') :
    s'.isAttempting = true → selected = true := by
  intro hattempting
  cases hpass with
  | rests hphase =>
      rcases hphase with ⟨reply, hreply⟩
      simp [isAttempting, hreply] at hattempting
  | returns handler hreturned =>
      rcases hreturned with ⟨reply, hreply⟩
      simp [isAttempting, hreply] at hattempting
  | startsOver hphase => simp [isAttempting, hphase] at hattempting
  | waits hphase => simp [isAttempting, hphase] at hattempting
  | retries bridge handler hphase hagain hlt => exact absurd hlt (Nat.not_lt.2 hdeadline)
  | failsOver id bridge handler hphase hforced hid hnot hselecting =>
      simp [isAttempting, hselecting] at hattempting
  | _ => rfl

theorem isAttempting_of_sends (h : sends config s reading = true) : s.isAttempting = true := by
  unfold sends at h
  unfold isAttempting
  cases hphase : s.handler.phase with
  | attempting bridge => rfl
  | _ => simp [hphase] at h

end Pass

/-- Whatever came before, once the deadline has passed no more accounts are selected than twice the
number of accounts, each of them is sent the request once at most, and the loop returns. -/
theorem attemptLoop_stops (codec : SerdeJson) (config : AttemptLoopConfig)
    (pending : Option PendingBillingSession) (accounts : List UpstreamAccount)
    (before after : List LoopReading)
    (hbefore : ∀ reading ∈ before, reading.router.accounts = accounts)
    (hafter : ∀ reading ∈ after, reading.router.accounts = accounts ∧
      config.failoverDeadline ≤ reading.now) :
    let s := Machine.run (step codec config) (init config pending) before
    Machine.countAlong (step codec config) (selects config) s after ≤ 2 * accounts.length ∧
      Machine.countAlong (step codec config) (sends config) s after ≤
        Machine.countAlong (step codec config) (selects config) s after +
          (if s.isAttempting then 1 else 0) ∧
      (4 * accounts.length + 2 < after.length →
        (Machine.run (step codec config) s after).Returned) := by
  intro s
  have hstep : ∀ (s : AttemptLoop) (reading : LoopReading), LoopInvariant config accounts s →
      reading.router.accounts = accounts →
        LoopInvariant config accounts (step codec config s reading) :=
    fun s reading h haccounts => h.pass (step_pass h haccounts)
  have hs : LoopInvariant config accounts s :=
    (Machine.along_of_forall hbefore _).invariant hstep (invariant_init pending)
  have hkeep : ∀ (s : AttemptLoop) (reading : LoopReading), LoopInvariant config accounts s →
      reading.router.accounts = accounts ∧ config.failoverDeadline ≤ reading.now →
      LoopInvariant config accounts (step codec config s reading) :=
    fun s reading h hreading => hstep s reading h hreading.1
  have hbound : accountsLeft accounts s ≤ 2 * accounts.length := by
    unfold accountsLeft
    split_ifs <;> omega
  refine ⟨?_, ?_, ?_⟩
  · have hcount : Machine.countAlong (step codec config) (selects config) s after ≤
        selectionsLeft accounts s :=
      Machine.countAlong_le (selectionsLeft accounts) hkeep
        (fun s reading h hreading => selectionsLeft_pass h hreading.2 (step_pass h hreading.1))
        hs hafter
    have hleft : selectionsLeft accounts s ≤ accountsLeft accounts s := by
      unfold selectionsLeft
      split <;> omega
    omega
  · apply Machine.countAlong_le_add (fun s => if s.isAttempting then 1 else 0) hkeep
      (fun s reading h hreading => ?_) hs hafter
    have hnext : (step codec config s reading).isAttempting = true →
        selects config s reading = true := isAttempting_pass hreading.2 (step_pass h hreading.1)
    have hsends : sends config s reading = true → s.isAttempting = true := isAttempting_of_sends
    split_ifs <;> simp_all
  · intro hlength
    have hreturned : ∀ (s : AttemptLoop) (reading : LoopReading), s.Returned →
        (step codec config s reading).Returned := by
      intro s reading hs
      rcases hs with ⟨reply, hreply⟩
      have hsame : step codec config s reading = s := by
        unfold step
        rw [hreply]
      rw [hsame]
      exact ⟨reply, hreply⟩
    have hleft : passesLeft accounts s ≤ 2 * accountsLeft accounts s + 2 := by
      unfold passesLeft
      split
      · split_ifs <;> omega
      · split_ifs <;> omega
      · omega
    exact Machine.run_done (passesLeft accounts) hkeep hreturned
      (fun s reading h hreading => passesLeft_pass h hreading.2 (step_pass h hreading.1))
      hs hafter (by omega)

/-! Two accounts that fail all the time, the first of them from before the deadline. -/

def twoAccountsConfig : AttemptLoopConfig where
  enableRequestFailover := true
  sameAccountQuickRetryMax := 1
  stream := false
  generateBillingRequestId n := String.ofList (List.replicate n 'a')
  sharedRoutingCacheEnabled := true
  stickyPreferNonConflicting := false
  forcedAccountId := none
  model := none
  stickyKey := none
  failoverDeadline := 2000

def failingReading (now : Nat) : LoopReading where
  now := now
  router := .newWithStickyLimits [sampleAccount "free", sampleAccount "paid"] 1800000 10000
  aliveRing := none
  isUnhealthy := false
  upstreamUrlBuilds := true
  modelsCache := none
  bridgeStreamResponse := false
  attempt := HandlerState.sampleAttempt .transportError

theorem attemptLoop_stops_twoAccounts :
    let s := Machine.run (step (.ofTable []) twoAccountsConfig) (init twoAccountsConfig none)
      [failingReading 0]
    Machine.countAlong (step (.ofTable []) twoAccountsConfig) (selects twoAccountsConfig) s
        (List.replicate 11 (failingReading 2000)) ≤ 4 ∧
      Machine.countAlong (step (.ofTable []) twoAccountsConfig) (sends twoAccountsConfig) s
        (List.replicate 11 (failingReading 2000)) ≤
        Machine.countAlong (step (.ofTable []) twoAccountsConfig) (selects twoAccountsConfig) s
          (List.replicate 11 (failingReading 2000)) + (if s.isAttempting then 1 else 0) ∧
      (Machine.run (step (.ofTable []) twoAccountsConfig) s
        (List.replicate 11 (failingReading 2000))).Returned := by
  have h := attemptLoop_stops (.ofTable []) twoAccountsConfig none
    [sampleAccount "free", sampleAccount "paid"] [failingReading 0]
    (List.replicate 11 (failingReading 2000))
    (fun reading hreading => by rw [List.mem_singleton.1 hreading]; rfl)
    (fun reading hreading => by rw [List.eq_of_mem_replicate hreading]; exact ⟨rfl, le_rfl⟩)
  exact ⟨h.1, h.2.1, h.2.2 (by simp)⟩

end AttemptLoop

end CodexPool
