import CodexPool.Proxy.Handler
import Mathlib.Data.List.Infix
import Mathlib.Data.List.Nodup

/-!
# Every hold is closed

The holds of a request are opened one after the other, each under an identifier of its own,
and each is closed once: by a settlement or by a release, before the next one is opened or
after the handler has returned.
-/

namespace CodexPool

/-! ## Holds that are opened and closed -/

/-- The identifier of the request whose hold a command closes. -/
def BillingCommand.requestId : BillingCommand → String
  | .settle session _ _ => session.requestId
  | .release payload => payload.requestId

def authorizedIds (events : List HoldEvent) : List String :=
  events.filterMap fun
    | .authorized session => some session.requestId
    | .asked _ => none

def askedCommands (events : List HoldEvent) : List BillingCommand :=
  events.filterMap fun
    | .authorized _ => none
    | .asked command => some command

def closedIds (events : List HoldEvent) : List String :=
  (askedCommands events).map BillingCommand.requestId

/-- At every time the holds that were opened are those that were closed, in the same order,
and at most one more. -/
def OneOpen (events : List HoldEvent) : Prop :=
  ∀ earlier, earlier <+: events →
    ∃ openId : Option String, authorizedIds earlier = closedIds earlier ++ openId.toList

section Events

variable {events : List HoldEvent}

theorem authorizedIds_append (events events' : List HoldEvent) :
    authorizedIds (events ++ events') = authorizedIds events ++ authorizedIds events' :=
  List.filterMap_append

theorem closedIds_append (events events' : List HoldEvent) :
    closedIds (events ++ events') = closedIds events ++ closedIds events' := by
  simp [closedIds, askedCommands]

theorem OneOpen.concat {event : HoldEvent} (h : OneOpen events)
    (hlast : ∃ openId : Option String, authorizedIds (events ++ [event]) =
      closedIds (events ++ [event]) ++ openId.toList) : OneOpen (events ++ [event]) := by
  intro earlier hearlier
  obtain rfl | hearlier := List.prefix_concat_iff.1 hearlier
  · exact hlast
  · exact h earlier hearlier

theorem OneOpen.authorized (h : OneOpen events) {session : BillingSession}
    (hclosed : authorizedIds events = closedIds events) :
    OneOpen (events ++ [.authorized session]) := by
  refine h.concat ⟨some session.requestId, ?_⟩
  rw [authorizedIds_append, closedIds_append, hclosed]
  simp [authorizedIds, closedIds, askedCommands]

theorem OneOpen.asked (h : OneOpen events) {command : BillingCommand}
    (hopen : authorizedIds events = closedIds events ++ [command.requestId]) :
    OneOpen (events ++ [.asked command]) := by
  refine h.concat ⟨none, ?_⟩
  rw [authorizedIds_append, closedIds_append, hopen]
  simp [authorizedIds, closedIds, askedCommands]

end Events

/-! ## One command closes a hold -/

theorem settleBillingIfNeeded_eq_nil {status : Nat} (h : isSuccess status = false)
    (codec : SerdeJson) (session : Option BillingSession) (body : Bytes) :
    settleBillingIfNeeded codec session status body = [] := by
  cases session with
  | none => rfl
  | some session => simp [settleBillingIfNeeded, h]

theorem settleBillingIfNeeded_eq_singleton {status : Nat} (h : isSuccess status = true)
    (codec : SerdeJson) (session : BillingSession) (body : Bytes) :
    ∃ command, settleBillingIfNeeded codec (some session) status body = [command] ∧
      command.requestId = session.requestId := by
  simp only [settleBillingIfNeeded, h, Bool.not_true, Bool.false_eq_true, if_false]
  split
  · exact ⟨_, rfl, rfl⟩
  · split_ifs
    · exact ⟨_, rfl, rfl⟩
    · exact ⟨_, rfl, rfl⟩

theorem finalizeStreamBilling_eq_singleton (session : BillingSession)
    (observation : StreamUsageObservation) :
    ∃ command, finalizeStreamBilling session observation = [command] ∧
      command.requestId = session.requestId := by
  simp only [finalizeStreamBilling]
  split
  · exact ⟨_, rfl, rfl⟩
  · exact ⟨_, rfl, rfl⟩

/-! ## The ledger of the handler -/

namespace HandlerState

/-- The holds that are open: that of the session, and that which the task will close. -/
def openIds (s : HandlerState) : List String :=
  s.task.map BillingCommand.requestId ++ (s.billingSession.map (·.requestId)).toList

structure Ledger (config : HandlerConfig) (s : HandlerState) : Prop where
  oneOpen : OneOpen s.events
  balance : authorizedIds s.events = closedIds s.events ++ s.openIds
  length_openIds : s.openIds.length ≤ 1
  nodup : (authorizedIds s.events).Nodup
  generated : ∀ id ∈ authorizedIds s.events,
    ∃ n < s.generatedIds, id = config.generateBillingRequestId n
  pendingGenerated : ∀ pending ∈ s.pendingBillingSession,
    ∃ n < s.generatedIds, pending.requestId = config.generateBillingRequestId n

/-- The next hold will be opened under an identifier that none was opened under. -/
def Unused (s : HandlerState) : Prop :=
  ∀ pending ∈ s.pendingBillingSession, pending.requestId ∉ authorizedIds s.events

/-- What holds between two steps of the handler. -/
structure Invariant (config : HandlerConfig) (s : HandlerState) : Prop where
  ledger : s.Ledger config
  selecting : s.phase = .selecting → s.billingSession = none ∧ s.task = [] ∧ s.Unused
  attempting : ∀ bridge, s.phase = .attempting bridge →
    s.task = [] ∧ (s.billingSession = none → s.Unused)
  returned : ∀ reply, s.phase = .returned reply → s.billingSession = none

section Ledger

variable {config : HandlerConfig} {s : HandlerState}

theorem Ledger.congr {s' : HandlerState} (h : s.Ledger config) (hevents : s'.events = s.events)
    (hopen : s'.openIds = s.openIds) (hgenerated : s'.generatedIds = s.generatedIds)
    (hpending : s'.pendingBillingSession = s.pendingBillingSession) : s'.Ledger config where
  oneOpen := by rw [hevents]; exact h.oneOpen
  balance := by rw [hevents, hopen]; exact h.balance
  length_openIds := by rw [hopen]; exact h.length_openIds
  nodup := by rw [hevents]; exact h.nodup
  generated := by rw [hevents, hgenerated]; exact h.generated
  pendingGenerated := by rw [hpending, hgenerated]; exact h.pendingGenerated

theorem ledger_init (pending : Option PendingBillingSession) :
    (init config pending).Ledger config where
  oneOpen earlier hearlier := ⟨none, by rw [List.prefix_nil.1 hearlier]; rfl⟩
  balance := rfl
  length_openIds := Nat.zero_le 1
  nodup := List.nodup_nil
  generated := by simp [init, authorizedIds]
  pendingGenerated := by
    intro p hp
    obtain ⟨p', -, rfl⟩ := Option.map_eq_some_iff.1 hp
    exact ⟨0, Nat.zero_lt_one, rfl⟩

theorem Ledger.authorize (h : s.Ledger config) {pending : PendingBillingSession}
    (hpending : s.pendingBillingSession = some pending) (hsession : s.billingSession = none)
    (htask : s.task = []) (hunused : s.Unused) (session : BillingSession)
    (hid : session.requestId = pending.requestId) :
    Ledger config { s with
      billingSession := some session, events := s.events ++ [.authorized session] } := by
  have hopen : s.openIds = [] := by simp [openIds, hsession, htask]
  have hbalance := h.balance
  rw [hopen, List.append_nil] at hbalance
  have hids : authorizedIds (s.events ++ [.authorized session]) =
      authorizedIds s.events ++ [session.requestId] := by
    rw [authorizedIds_append]
    rfl
  refine ⟨h.oneOpen.authorized hbalance, ?_, ?_, ?_, ?_, h.pendingGenerated⟩
  · rw [hids, hbalance, closedIds_append]
    simp [openIds, htask, closedIds, askedCommands]
  · simp [openIds, htask]
  · rw [hids, List.nodup_append]
    refine ⟨h.nodup, List.nodup_singleton _, ?_⟩
    rintro id hmem id' hid' rfl
    rw [List.mem_singleton.1 hid', hid] at hmem
    exact hunused pending hpending hmem
  · intro id hmem
    rw [hids] at hmem
    obtain hmem | hmem := List.mem_append.1 hmem
    · exact h.generated id hmem
    · rw [List.mem_singleton.1 hmem, hid]
      exact h.pendingGenerated pending hpending

theorem Ledger.close (h : s.Ledger config) (htask : s.task = []) {session : BillingSession}
    (hsession : s.billingSession = some session) {command : BillingCommand}
    (hid : command.requestId = session.requestId) :
    Ledger config { s with billingSession := none, events := s.events ++ [.asked command] } := by
  have hbalance : authorizedIds s.events = closedIds s.events ++ [command.requestId] := by
    rw [h.balance, hid]
    simp [openIds, hsession, htask]
  have hids : authorizedIds (s.events ++ [.asked command]) = authorizedIds s.events := by
    rw [authorizedIds_append]
    exact List.append_nil _
  refine ⟨h.oneOpen.asked hbalance, ?_, ?_, ?_, ?_, h.pendingGenerated⟩
  · rw [hids, hbalance, closedIds_append]
    simp [openIds, htask, closedIds, askedCommands]
  · simp [openIds, htask]
  · rw [hids]
    exact h.nodup
  · rw [hids]
    exact h.generated

theorem Ledger.handOver (h : s.Ledger config) (htask : s.task = []) {session : BillingSession}
    (hsession : s.billingSession = some session) {command : BillingCommand}
    (hid : command.requestId = session.requestId) :
    Ledger config { s with billingSession := none, task := [command] } := by
  refine h.congr rfl ?_ rfl rfl
  simp [openIds, hsession, htask, hid]

theorem authorizedIds_releaseBillingHoldBestEffort (s : HandlerState)
    (context : BillingReleaseFailureContext) :
    authorizedIds (s.releaseBillingHoldBestEffort context).events = authorizedIds s.events := by
  rw [HandlerState.releaseBillingHoldBestEffort, authorizedIds_append]
  cases s.billingSession <;> exact List.append_nil _

theorem Ledger.releaseBillingHoldBestEffort (h : s.Ledger config) (htask : s.task = [])
    (context : BillingReleaseFailureContext) :
    (s.releaseBillingHoldBestEffort context).Ledger config := by
  rw [HandlerState.releaseBillingHoldBestEffort]
  cases hsession : s.billingSession with
  | none =>
      refine h.congr (List.append_nil _) ?_ rfl rfl
      simp [openIds, hsession]
  | some session => exact h.close htask hsession rfl

theorem Ledger.settle (h : s.Ledger config) (htask : s.task = []) (codec : SerdeJson)
    {status : Nat} (hstatus : isSuccess status = true) (body : Bytes) :
    (s.settle codec status body).Ledger config ∧
      (s.settle codec status body).billingSession = none := by
  simp only [HandlerState.settle]
  cases hsession : s.billingSession with
  | none => exact ⟨h, hsession⟩
  | some session =>
      obtain ⟨command, hcommand, hid⟩ :=
        settleBillingIfNeeded_eq_singleton hstatus codec session body
      rw [hcommand]
      split_ifs with hempty
      · cases hempty
      · exact ⟨h.close htask hsession hid, rfl⟩
      · rw [htask]
        exact ⟨h.handOver htask hsession hid, rfl⟩

theorem settle_of_not_isSuccess (codec : SerdeJson) {status : Nat}
    (h : isSuccess status = false) (body : Bytes) : s.settle codec status body = s := by
  rw [HandlerState.settle, settleBillingIfNeeded_eq_nil h]
  rfl

theorem Ledger.mapSession (h : s.Ledger config) {f : BillingSession → BillingSession}
    (hf : ∀ session, (f session).requestId = session.requestId) :
    Ledger config { s with billingSession := s.billingSession.map f } := by
  refine h.congr rfl ?_ rfl rfl
  cases hsession : s.billingSession <;> simp [openIds, hsession, hf]

end Ledger

/-! ## One step -/

section Step

variable {config : HandlerConfig} {s : HandlerState}

/-- What holds while an account is tried. -/
structure Attempting (config : HandlerConfig) (s : HandlerState) : Prop where
  phase : ∃ bridge, s.phase = .attempting bridge
  ledger : s.Ledger config
  task : s.task = []
  unused : s.billingSession = none → s.Unused

theorem Attempting.invariant (h : s.Attempting config) : s.Invariant config := by
  obtain ⟨bridge, hphase⟩ := h.phase
  exact ⟨h.ledger, fun hp => by simp [hphase] at hp, fun _ _ => ⟨h.task, h.unused⟩,
    fun _ hp => by simp [hphase] at hp⟩

theorem invariant_returned {reply : ProxyReply} (hphase : s.phase = .returned reply)
    (hledger : s.Ledger config) (hsession : s.billingSession = none) : s.Invariant config :=
  ⟨hledger, fun hp => by simp [hphase] at hp, fun _ hp => by simp [hphase] at hp,
    fun _ _ => hsession⟩

theorem invariant_releaseAndReturn (hledger : s.Ledger config) (htask : s.task = [])
    (context : BillingReleaseFailureContext) (reply : ProxyReply) :
    ((s.releaseBillingHoldBestEffort context).returnReply reply).Invariant config := by
  refine invariant_returned rfl ?_ rfl
  exact (hledger.releaseBillingHoldBestEffort htask context).congr rfl rfl rfl rfl

/-- A hold that is given up for another account leaves an identifier that is not used. -/
theorem Attempting.failover (h : s.Attempting config)
    (hgenerate : Function.Injective config.generateBillingRequestId) (status : Nat)
    (errorCode : Option String) (reasonClass : String) :
    let s' := s.releaseBillingHoldForCrossAccountFailover config status errorCode reasonClass
    s'.Ledger config ∧ s'.billingSession = none ∧ s'.task = [] ∧ s'.Unused := by
  simp only [releaseBillingHoldForCrossAccountFailover]
  cases hsession : s.billingSession with
  | none =>
      refine ⟨h.ledger.releaseBillingHoldBestEffort h.task _, rfl, h.task, ?_⟩
      intro pending hpending
      rw [authorizedIds_releaseBillingHoldBestEffort]
      exact h.unused hsession pending hpending
  | some session =>
      have hrotated : Ledger config { s with
          pendingBillingSession := s.pendingBillingSession.map fun pending =>
            rotateRequestId pending (config.generateBillingRequestId s.generatedIds)
          generatedIds := s.generatedIds + 1 } := by
        refine ⟨h.ledger.oneOpen, h.ledger.balance, h.ledger.length_openIds, h.ledger.nodup,
          ?_, ?_⟩
        · intro id hid
          obtain ⟨n, hn, rfl⟩ := h.ledger.generated id hid
          exact ⟨n, Nat.lt_succ_of_lt hn, rfl⟩
        · intro pending hpending
          obtain ⟨pending, -, rfl⟩ := Option.map_eq_some_iff.1 hpending
          exact ⟨s.generatedIds, Nat.lt_succ_self _, rfl⟩
      rw [hsession] at hrotated
      refine ⟨hrotated.releaseBillingHoldBestEffort h.task _, rfl, h.task, ?_⟩
      intro pending hpending hmem
      obtain ⟨pending, -, rfl⟩ := Option.map_eq_some_iff.1 hpending
      rw [authorizedIds_releaseBillingHoldBestEffort] at hmem
      obtain ⟨n, hn, heq⟩ := h.ledger.generated _ hmem
      exact absurd (hgenerate heq) (Nat.ne_of_gt hn)

theorem Attempting.fail (h : s.Attempting config)
    (hgenerate : Function.Injective config.generateBillingRequestId) (a : Attempt)
    (failure : Failure) : (s.fail config a failure).Invariant config := by
  rw [HandlerState.fail]
  split_ifs
  · refine Attempting.invariant ⟨h.phase, ?_, h.task, h.unused⟩
    exact h.ledger.congr rfl rfl rfl rfl
  · obtain ⟨hledger, hsession, htask, hunused⟩ :=
      h.failover hgenerate failure.status failure.errorCode failure.failoverReasonClass
    refine ⟨hledger.congr rfl rfl rfl rfl, fun _ => ⟨hsession, htask, hunused⟩, ?_, ?_⟩
    · intro bridge hp
      cases hp
    · intro reply hp
      cases hp
  · exact invariant_releaseAndReturn h.ledger h.task _ _

theorem Attempting.succeed (h : s.Attempting config) (codec : SerdeJson) {status : Nat}
    (hstatus : isSuccess status = true) (body : Bytes) (reply : ProxyReply) :
    ((s.settle codec status body).succeed reply).Invariant config := by
  obtain ⟨hledger, hsession⟩ := h.ledger.settle h.task codec hstatus body
  exact invariant_returned rfl (hledger.congr rfl rfl rfl rfl) hsession

theorem Attempting.bridged (h : s.Attempting config) (codec : SerdeJson)
    (hgenerate : Function.Injective config.generateBillingRequestId) (a : Attempt)
    (status : Nat) (headers : UpstreamHeaders) (body : Bytes) :
    (s.bridged codec config a status headers body).Invariant config := by
  simp only [HandlerState.bridged]
  split_ifs with hstatus
  · exact h.succeed codec hstatus _ _
  · rw [settle_of_not_isSuccess codec (by simpa using hstatus)]
    exact h.fail hgenerate a _

theorem Attempting.streamed (h : s.Attempting config) (codec : SerdeJson)
    (hgenerate : Function.Injective config.generateBillingRequestId) (a : Attempt)
    (status : Nat) (headers : UpstreamHeaders) (items : List UpstreamItem) :
    (s.streamed codec config a status headers items).Invariant config := by
  rw [HandlerState.streamed]
  split
  · rename_i observation _
    refine invariant_returned rfl ?_ rfl
    cases hsession : s.billingSession with
    | none =>
        refine h.ledger.congr rfl ?_ rfl rfl
        simp [openIds, hsession]
    | some session =>
        obtain ⟨command, hcommand, hid⟩ := finalizeStreamBilling_eq_singleton session observation
        simp only [hcommand, h.task, Option.map_some, Option.getD_some, List.nil_append]
        exact (h.ledger.handOver h.task hsession hid).congr rfl rfl rfl rfl
  · exact h.fail hgenerate a _

theorem Attempting.buffered (h : s.Attempting config) (codec : SerdeJson)
    (hgenerate : Function.Injective config.generateBillingRequestId) (a : Attempt)
    (status : Nat) (headers : UpstreamHeaders) (body : Bytes) :
    (s.buffered codec config a status headers body).Invariant config := by
  simp only [HandlerState.buffered]
  split_ifs with hunavailable hstatus
  · exact h.fail hgenerate a _
  · exact h.succeed codec hstatus _ _
  · rw [settle_of_not_isSuccess codec (by simpa using hstatus)]
    exact h.fail hgenerate a _

theorem Attempting.respond (h : s.Attempting config) (codec : SerdeJson)
    (hgenerate : Function.Injective config.generateBillingRequestId) (a : Attempt)
    (bridge : Bool) (status : Nat) (headers : UpstreamHeaders)
    (contentTypeIndicatesStream : Bool) (items : List UpstreamItem) :
    (s.respond codec config a bridge status headers contentTypeIndicatesStream
      items).Invariant config := by
  simp only [HandlerState.respond]
  have hmarked : ∀ isStream : Bool, Attempting config { s with
      billingSession := s.billingSession.map fun session : BillingSession =>
        { session with isStream := isStream } } := by
    intro isStream
    exact ⟨h.phase, h.ledger.mapSession fun _ => rfl, h.task, fun hsession =>
      h.unused (Option.map_eq_none_iff.1 hsession)⟩
  split_ifs
  · exact (hmarked _).bridged codec hgenerate a _ _ _
  · exact (hmarked _).streamed codec hgenerate a _ _ _
  · exact (hmarked _).buffered codec hgenerate a _ _ _

theorem Attempting.authorize (h : s.Attempting config) (reply : Except ErrorReply Uuid) :
    (∀ s', s.authorize config reply = .ok s' → s'.Attempting config) ∧
      ∀ err, s.authorize config reply = .error err → s.billingSession = none := by
  rw [HandlerState.authorize]
  cases hsession : s.billingSession with
  | some session =>
      refine ⟨fun s' hs => ?_, fun err hs => by cases hs⟩
      cases hs
      exact h
  | none =>
      cases hpending : s.pendingBillingSession with
      | none =>
          refine ⟨fun s' hs => ?_, fun _ _ => rfl⟩
          cases hs
          exact h
      | some pending =>
          cases reply with
          | error err => exact ⟨fun s' hs => by (cases hs), fun _ _ => rfl⟩
          | ok authorizationId =>
              refine ⟨fun s' hs => ?_, fun err hs => by (cases hs)⟩
              cases hs
              have hledger := h.ledger.authorize hpending hsession h.task (h.unused hsession)
                (authorizeBillingSession pending config.stream authorizationId) rfl
              rw [hpending] at hledger
              exact ⟨h.phase, hledger, h.task, fun hnone => by cases hnone⟩

theorem Attempting.attempt (h : s.Attempting config) (codec : SerdeJson)
    (hgenerate : Function.Injective config.generateBillingRequestId) (bridge : Bool)
    (a : Attempt) : (s.attempt codec config bridge a).Invariant config := by
  obtain ⟨hok, herror⟩ := h.authorize a.authorizeReply
  rw [HandlerState.attempt]
  cases hauthorize : s.authorize config a.authorizeReply with
  | error err =>
      exact invariant_returned rfl (h.ledger.congr rfl rfl rfl rfl) (herror err hauthorize)
  | ok s' =>
      have hs' := hok s' hauthorize
      cases a.outcome with
      | proxyUnavailable => exact hs'.fail hgenerate a _
      | transportError => exact hs'.fail hgenerate a _
      | response status headers contentTypeIndicatesStream items =>
          exact hs'.respond codec hgenerate a bridge status headers _ items

theorem Invariant.select (h : s.Invariant config) (hphase : s.phase = .selecting)
    (selection : Selection) : (s.select selection).Invariant config := by
  obtain ⟨hsession, htask, hunused⟩ := h.selecting hphase
  cases selection with
  | forcedAccountMissing => exact invariant_releaseAndReturn h.ledger htask _ _
  | waitForRouteUpdate => exact h
  | noAccount =>
      rw [HandlerState.select]
      cases s.lastFailure with
      | none => exact invariant_releaseAndReturn h.ledger htask _ _
      | some reply => exact invariant_releaseAndReturn h.ledger htask _ _
  | unhealthy => exact h
  | invalidUpstreamUrl => exact invariant_releaseAndReturn h.ledger htask _ _
  | servedFromModelsCache body =>
      exact invariant_returned rfl (h.ledger.congr rfl rfl rfl rfl) hsession
  | account bridge =>
      exact Attempting.invariant ⟨⟨bridge, rfl⟩, h.ledger.congr rfl rfl rfl rfl, htask,
        fun _ => hunused⟩

/-- The task closes the hold that was left to it. -/
theorem Invariant.runTask (h : s.Invariant config) {reply : ProxyReply}
    (hphase : s.phase = .returned reply) :
    Invariant config { s with events := s.events ++ s.task.map .asked, task := [] } := by
  have hsession := h.returned reply hphase
  refine invariant_returned hphase ?_ hsession
  cases htask : s.task with
  | nil =>
      refine h.ledger.congr (List.append_nil _) ?_ rfl rfl
      simp [openIds, htask]
  | cons command commands =>
      have hlength := h.ledger.length_openIds
      rw [openIds, hsession, htask] at hlength
      obtain rfl : commands = [] := by simpa using hlength
      have hbalance : authorizedIds s.events = closedIds s.events ++ [command.requestId] := by
        rw [h.ledger.balance]
        simp [openIds, hsession, htask]
      have hids : authorizedIds (s.events ++ [.asked command]) = authorizedIds s.events := by
        rw [authorizedIds_append]
        exact List.append_nil _
      refine ⟨h.ledger.oneOpen.asked hbalance, ?_, ?_, ?_, ?_, h.ledger.pendingGenerated⟩
      · rw [List.map_singleton, hids, hbalance, closedIds_append]
        simp [openIds, hsession, closedIds, askedCommands]
      · simp [openIds, hsession]
      · rw [List.map_singleton, hids]
        exact h.ledger.nodup
      · rw [List.map_singleton, hids]
        exact h.ledger.generated

theorem Invariant.step (h : s.Invariant config) (codec : SerdeJson)
    (hgenerate : Function.Injective config.generateBillingRequestId) (input : HandlerInput) :
    (s.step codec config input).Invariant config := by
  unfold HandlerState.step
  split
  · exact h.select ‹_› _
  · rename_i bridge a hphase
    obtain ⟨htask, hunused⟩ := h.attempting bridge hphase
    exact Attempting.attempt ⟨⟨bridge, hphase⟩, h.ledger, htask, hunused⟩ codec hgenerate bridge a
  · exact h.runTask ‹_›
  · exact h

end Step

/-! ## Runs -/

def Finished (s : HandlerState) : Prop := (∃ reply, s.phase = .returned reply) ∧ s.task = []

theorem invariant_init (config : HandlerConfig) (pending : Option PendingBillingSession) :
    (init config pending).Invariant config := by
  refine ⟨ledger_init pending, fun _ => ⟨rfl, rfl, ?_⟩, fun _ hp => ?_, fun _ hp => ?_⟩
  · intro pending _
    exact List.not_mem_nil
  · cases hp
  · cases hp

/-- The command releases a hold for another account. -/
def IsFailoverRelease : BillingCommand → Prop
  | .release payload => payload.releaseReason = some "cross_account_failover"
  | .settle .. => False

/-- A hold that is released is not settled when the commands are for different holds. -/
theorem requestId_ne_of_nodup {commands : List BillingCommand}
    (h : (commands.map BillingCommand.requestId).Nodup) {command command' : BillingCommand}
    (hcommand : command ∈ commands) (hcommand' : command' ∈ commands)
    (hne : command ≠ command') : command.requestId ≠ command'.requestId :=
  fun heq => hne (List.inj_on_of_nodup_map h hcommand hcommand' heq)

/-- In every run of the handler at most one hold is open at a time, every hold that was opened
is closed once when the handler has returned and its task has run, each under an identifier of
its own, and a hold that was released for another account is not settled. -/
theorem holds_closed (codec : SerdeJson) (config : HandlerConfig)
    (hgenerate : Function.Injective config.generateBillingRequestId)
    (pending : Option PendingBillingSession) (inputs : List HandlerInput) :
    let s := Machine.run (step codec config) (init config pending) inputs
    OneOpen s.events ∧ (authorizedIds s.events).Nodup ∧
      (s.Finished → closedIds s.events = authorizedIds s.events) ∧
      ∀ command ∈ askedCommands s.events, IsFailoverRelease command →
        ∀ session usage tier, BillingCommand.settle session usage tier ∈ askedCommands s.events →
          session.requestId ≠ command.requestId := by
  intro s
  have hinvariant : s.Invariant config :=
    Machine.run_invariant (P := Invariant config)
      (fun s input h => h.step codec hgenerate input) (invariant_init config pending) inputs
  have hledger := hinvariant.ledger
  refine ⟨hledger.oneOpen, hledger.nodup, ?_, ?_⟩
  · rintro ⟨⟨reply, hphase⟩, htask⟩
    rw [hledger.balance]
    simp [openIds, hinvariant.returned reply hphase, htask]
  · intro command hcommand hfailover session usage tier hsettle
    have hnodup : ((askedCommands s.events).map BillingCommand.requestId).Nodup := by
      have hall := hledger.nodup
      rw [hledger.balance] at hall
      exact (List.nodup_append.1 hall).1
    refine requestId_ne_of_nodup hnodup hsettle hcommand ?_
    rintro rfl
    exact hfailover

/-! A request that fails with one account and succeeds with another. -/

def sampleHandlerConfig : HandlerConfig where
  enableRequestFailover := true
  sameAccountQuickRetryMax := 0
  forcedAccountSelection := false
  stream := false
  generateBillingRequestId n := String.ofList (List.replicate n 'a')

def sampleAttempt (outcome : UpstreamOutcome) : Attempt where
  authorizeReply := .ok sampleHold
  outcome := outcome
  beforeDeadline := true
  hasUntriedCandidate := true
  learned _ := none
  client := none
  reads := 0

def failoverInputs : List HandlerInput :=
  [.select (.account false), .attempt (sampleAttempt .transportError), .select (.account false),
    .attempt (sampleAttempt (.response 200 ⟨none, none⟩ false [])), .runTask]

def failoverPending : PendingBillingSession :=
  { tenantId := sampleTenant, apiKeyId := sampleKey, requestId := "", traceRequestId := none
    model := "gpt-5.4", requestedServiceTier := none, sessionKey := ""
    requestKind := "response", estimatedInputTokens := 0 }

theorem generate_injective :
    Function.Injective sampleHandlerConfig.generateBillingRequestId := by
  intro m n h
  simpa [sampleHandlerConfig] using congrArg String.length h

/-- Both holds are closed, the second one by the task. -/
theorem failover_holds_closed :
    let s := Machine.run (step (.ofTable []) sampleHandlerConfig)
      (init sampleHandlerConfig (some failoverPending)) failoverInputs
    authorizedIds s.events = ["", "a"] ∧ closedIds s.events = authorizedIds s.events :=
  ⟨by decide +kernel, (holds_closed (.ofTable []) sampleHandlerConfig generate_injective
    (some failoverPending) failoverInputs).2.2.1 ⟨⟨_, rfl⟩, rfl⟩⟩

end HandlerState

end CodexPool
