import CodexPool.Lib.Custody
import CodexPool.Proxy.Usage
import Mathlib.Data.List.AList
import Mathlib.Tactic.Abel

/-!
# Requests on a socket

Several requests of a client share one socket. The tracker keeps those that wait for a
response in a queue and those whose response is known under its identifier, with the
billing session of each, and turns the events of the upstream into billing actions. An event
that has no identifier, or an unknown one, is for the first request of the queue.
-/

namespace CodexPool

open Saturating

/-! ## Events -/

def wsStringAtPath (value : Json) (path : List String) : Option String :=
  Text.trimmed? ((path.foldl (fun v k => v.bind (·.get k)) (some value)).bind Json.asStr)

def extractWsEventType (value : Json) : Option String := wsStringAtPath value ["type"]

def extractWsResponseId (value : Json) : Option String :=
  (wsStringAtPath value ["response", "id"]).or (wsStringAtPath value ["response_id"])

def extractWsRequestId (value : Json) : Option String :=
  ((wsStringAtPath value ["request_id"]).or (wsStringAtPath value ["client_request_id"])).or
    (wsStringAtPath value ["event_id"])

def extractWsModel (value : Json) : Option String :=
  (wsStringAtPath value ["response", "model"]).or (wsStringAtPath value ["model"])

def isWsResponseCreatedEvent (value : Json) : Bool :=
  extractWsEventType value = some "response.created"

def isWsResponseCompletedEvent (value : Json) : Bool :=
  extractWsEventType value = some "response.completed" ||
    extractWsEventType value = some "response.done"

def isWsResponseIncompleteEvent (value : Json) : Bool :=
  extractWsEventType value = some "response.incomplete"

def isWsResponseFailedEvent (value : Json) : Bool :=
  extractWsEventType value = some "response.failed"

def isWsErrorEvent (value : Json) : Bool := extractWsEventType value = some "error"

/-- The event ends a response. -/
def isTerminalEvent (value : Json) : Bool :=
  isWsResponseIncompleteEvent value || isWsResponseFailedEvent value || isWsErrorEvent value ||
    isWsResponseCompletedEvent value

/-! ## Tracked requests -/

structure WsLogicalResponseSeed where
  requestId : Option String
  responseId : Option String
  model : Option String
  requestedServiceTier : Option String
  startedAt : Nat
deriving DecidableEq

def extractWsLogicalRequestSeed (value : Json) (now : Nat) : Option WsLogicalResponseSeed :=
  if extractWsEventType value = some "response.create" then
    some {
      requestId := extractWsRequestId value
      responseId := extractWsResponseId value
      model := extractWsModel value
      requestedServiceTier := extractServiceTierFromValue value
      startedAt := now }
  else none

structure WsTrackedResponse where
  seed : WsLogicalResponseSeed
  billingSession : Option BillingSession
  replayRequestTexts : List String
  responseStarted : Bool
deriving DecidableEq

inductive WsReleaseReason where
  | responseIncomplete
  | responseFailed
  | upstreamError
deriving DecidableEq

inductive WsPendingBillingAction where
  | capture (billingSession : BillingSession) (usage : Option UsageTokens)
  | release (billingSession : BillingSession) (releaseReason : WsReleaseReason)
deriving DecidableEq

def WsPendingBillingAction.billingSession : WsPendingBillingAction → BillingSession
  | .capture billingSession _ => billingSession
  | .release billingSession _ => billingSession

/-- The requests whose response is known, by its identifier. -/
abbrev ActiveRequests := AList fun _ : String => WsTrackedResponse

structure WsLogicalResponseTracker where
  pendingRequests : List WsTrackedResponse
  activeByResponseId : ActiveRequests
  completedResponseIds : List String
  pendingBillingActions : List WsPendingBillingAction

/-- What is logged for a request without a billing session. -/
structure WsUsageLogEvent where
  requestId : Option String
  model : Option String
  serviceTier : Option String
  usage : Option UsageTokens
deriving DecidableEq

structure VisitOrder where
  entries : ActiveRequests → List (Sigma fun _ : String => WsTrackedResponse)
  perm : ∀ active, (entries active).Perm active.entries

namespace WsTrackedResponse

/-- A response that no request is known for. -/
def untracked (responseId : Option String) (now : Nat) : WsTrackedResponse :=
  ⟨⟨none, responseId, none, none, now⟩, none, [], false⟩

/-- What an event says of the request is added to what is known of it. -/
def withEvent (tracked : WsTrackedResponse) (value : Json) : WsTrackedResponse :=
  let responseId := extractWsResponseId value
  { tracked with
    seed := {
      tracked.seed with
      requestId := tracked.seed.requestId.or ((extractWsRequestId value).or responseId)
      responseId := tracked.seed.responseId.or responseId
      model := tracked.seed.model.or (extractWsModel value) } }

end WsTrackedResponse

namespace WsLogicalResponseTracker

def empty : WsLogicalResponseTracker := ⟨[], ∅, [], []⟩

def registerTrackedRequest (t : WsLogicalResponseTracker) (tracked : WsTrackedResponse) :
    WsLogicalResponseTracker :=
  match tracked.seed.responseId with
  | some responseId =>
    if responseId ∈ t.completedResponseIds then t
    else { t with activeByResponseId := t.activeByResponseId.insert responseId tracked }
  | none => { t with pendingRequests := t.pendingRequests ++ [tracked] }

def registerLogicalRequest (t : WsLogicalResponseTracker) (seed : WsLogicalResponseSeed)
    (billingSession : Option BillingSession) (replayRequestTexts : List String) :
    WsLogicalResponseTracker :=
  t.registerTrackedRequest ⟨seed, billingSession, replayRequestTexts, false⟩

/-- The request that an event is for, which is not tracked any more: the one of the
identifier, else the first that waits, else none that is known. -/
def takeTracked (t : WsLogicalResponseTracker) (responseId : Option String) (now : Nat) :
    WsTrackedResponse × WsLogicalResponseTracker :=
  match responseId.bind fun id => (t.activeByResponseId.lookup id).map (id, ·) with
  | some (id, tracked) =>
    (tracked, { t with activeByResponseId := t.activeByResponseId.erase id })
  | none =>
    match t.pendingRequests with
    | tracked :: pendingRequests => (tracked, { t with pendingRequests := pendingRequests })
    | [] => (.untracked responseId now, t)

def isCompleted (t : WsLogicalResponseTracker) (responseId : Option String) : Bool :=
  responseId.any fun id => id ∈ t.completedResponseIds

/-- Notes the identifier of the response as completed. -/
def complete (t : WsLogicalResponseTracker) (tracked : WsTrackedResponse) :
    WsLogicalResponseTracker :=
  match tracked.seed.responseId with
  | some responseId =>
    { t with completedResponseIds := t.completedResponseIds.insert responseId }
  | none => t

def pushAction (t : WsLogicalResponseTracker) (action : WsPendingBillingAction) :
    WsLogicalResponseTracker :=
  { t with pendingBillingActions := t.pendingBillingActions ++ [action] }

def registerResponseCreated (t : WsLogicalResponseTracker) (value : Json) (now : Nat) :
    WsLogicalResponseTracker :=
  match extractWsResponseId value with
  | none => t
  | some responseId =>
    if responseId ∈ t.completedResponseIds then t
    else
      let (tracked, t) := t.takeTracked (some responseId) now
      let tracked := { tracked.withEvent value with responseStarted := true }
      { t with activeByResponseId := t.activeByResponseId.insert responseId tracked }

/-- A completion that says nothing, of a request that nothing is known of. -/
def isAnonymous (tracked : WsTrackedResponse) (usage : Option UsageTokens) : Bool :=
  tracked.seed.requestId.isNone && tracked.seed.responseId.isNone &&
    tracked.seed.model.isNone && usage.isNone

def completeResponse (t : WsLogicalResponseTracker) (value : Json) (now : Nat) :
    WsLogicalResponseTracker × Option WsUsageLogEvent :=
  let responseId := extractWsResponseId value
  if t.isCompleted responseId then (t, none)
  else
    let (tracked, t) := t.takeTracked responseId now
    let tracked := tracked.withEvent value
    let usage := extractUsageTokensFromValue value
    let effectiveServiceTier :=
      (extractServiceTierFromValue value).or tracked.seed.requestedServiceTier
    if isAnonymous tracked usage then (t, none)
    else
      let t := t.complete tracked
      match tracked.billingSession with
      | some billingSession =>
        let billingSession := { billingSession with
          effectiveServiceTier := billingSession.effectiveServiceTier.or effectiveServiceTier }
        (t.pushAction (.capture billingSession usage), none)
      | none =>
        (t, some {
          requestId := tracked.seed.requestId.or tracked.seed.responseId
          model := tracked.seed.model
          serviceTier := effectiveServiceTier
          usage := usage })

def releaseResponse (t : WsLogicalResponseTracker) (value : Json)
    (releaseReason : WsReleaseReason) (now : Nat) : WsLogicalResponseTracker :=
  let responseId := extractWsResponseId value
  if t.isCompleted responseId then t
  else
    let (tracked, t) := t.takeTracked responseId now
    let tracked := tracked.withEvent value
    let t := t.complete tracked
    match tracked.billingSession with
    | some billingSession => t.pushAction (.release billingSession releaseReason)
    | none => t

def observeUpstreamValue (t : WsLogicalResponseTracker) (value : Json) (now : Nat) :
    WsLogicalResponseTracker × List WsUsageLogEvent :=
  let t := if isWsResponseCreatedEvent value then t.registerResponseCreated value now else t
  if isWsResponseIncompleteEvent value then
    (t.releaseResponse value .responseIncomplete now, [])
  else if isWsResponseFailedEvent value then (t.releaseResponse value .responseFailed now, [])
  else if isWsErrorEvent value then (t.releaseResponse value .upstreamError now, [])
  else if isWsResponseCompletedEvent value then
    let (t, event) := t.completeResponse value now
    (t, event.toList)
  else (t, [])

def observeUpstreamText (codec : SerdeJson) (t : WsLogicalResponseTracker) (text : String)
    (now : Nat) : WsLogicalResponseTracker × List WsUsageLogEvent :=
  match codec.fromStr text with
  | none => (t, [])
  | some value => t.observeUpstreamValue value now

/-! ## Retries -/

def isRetryable (requestId : String) (tracked : WsTrackedResponse) : Bool :=
  tracked.seed.requestId = some requestId && !tracked.responseStarted

/-- The entry of the identifier, when its response has not started. -/
def unstartedActive (t : WsLogicalResponseTracker) (responseId : Option String) :
    Option (String × WsTrackedResponse) :=
  responseId.bind fun id =>
    ((t.activeByResponseId.lookup id).filter (!·.responseStarted)).map (id, ·)

def removeActive (t : WsLogicalResponseTracker) (id : String) : WsLogicalResponseTracker :=
  { t with activeByResponseId := t.activeByResponseId.erase id }

/-- The first request that waits and meets the condition. -/
def takePending (t : WsLogicalResponseTracker) (p : WsTrackedResponse → Bool) :
    Option WsTrackedResponse × WsLogicalResponseTracker :=
  (t.pendingRequests.find? p, { t with pendingRequests := t.pendingRequests.eraseP p })

variable (order : VisitOrder)

/-- The request that has not started, when there is just one. -/
def takeLatestUnstartedRequest (t : WsLogicalResponseTracker) :
    Option WsTrackedResponse × WsLogicalResponseTracker :=
  let pendingCandidates := t.pendingRequests.filter (!·.responseStarted)
  let activeCandidates :=
    (order.entries t.activeByResponseId).filter (!·.2.responseStarted)
  if pendingCandidates.length + activeCandidates.length ≠ 1 then (none, t)
  else
    match pendingCandidates, activeCandidates with
    | _ :: _, _ => t.takePending (!·.responseStarted)
    | [], entry :: _ => (some entry.2, t.removeActive entry.1)
    | [], [] => (none, t)

def takeRetryableRequest (t : WsLogicalResponseTracker) (value : Json) :
    Option WsTrackedResponse × WsLogicalResponseTracker :=
  match t.unstartedActive (extractWsResponseId value) with
  | some (id, tracked) => (some tracked, t.removeActive id)
  | none =>
    match extractWsRequestId value with
    | none => t.takeLatestUnstartedRequest order
    | some requestId =>
      match (order.entries t.activeByResponseId).find? (isRetryable requestId ·.2) with
      | some entry => (some entry.2, t.removeActive entry.1)
      | none =>
        if t.pendingRequests.any (isRetryable requestId) then
          t.takePending (isRetryable requestId)
        else t.takeLatestUnstartedRequest order

def latestUnstartedRequest (t : WsLogicalResponseTracker) : Option WsTrackedResponse :=
  let candidates := t.pendingRequests.filter (!·.responseStarted) ++
    ((order.entries t.activeByResponseId).map (·.2)).filter (!·.responseStarted)
  if candidates.length ≠ 1 then none else candidates.getLast?

def findRetryableRequest (t : WsLogicalResponseTracker) (value : Json) :
    Option WsTrackedResponse :=
  match t.unstartedActive (extractWsResponseId value) with
  | some (_, tracked) => some tracked
  | none =>
    match extractWsRequestId value with
    | none => t.latestUnstartedRequest order
    | some requestId =>
      (((order.entries t.activeByResponseId).map (·.2)).find? (isRetryable requestId)).or
        ((t.pendingRequests.find? (isRetryable requestId)).or (t.latestUnstartedRequest order))

/-! ## The end -/

def takeUnfinishedBillingSessions (t : WsLogicalResponseTracker) :
    List BillingSession × WsLogicalResponseTracker :=
  (t.pendingRequests.filterMap (·.billingSession) ++
      (order.entries t.activeByResponseId).filterMap (·.2.billingSession),
    { t with pendingRequests := [], activeByResponseId := ∅, pendingBillingActions := [] })

def hasUnfinishedRequests (t : WsLogicalResponseTracker) : Bool :=
  !t.pendingRequests.isEmpty || !t.activeByResponseId.entries.isEmpty

/-! ## The request of an event -/

/-- The request that an event is for, if one is known. -/
def requestFor (t : WsLogicalResponseTracker) (responseId : Option String) :
    Option WsTrackedResponse :=
  (responseId.bind t.activeByResponseId.lookup).or t.pendingRequests.head?

theorem bind_lookup_eq_none {t : WsLogicalResponseTracker} {responseId : Option String}
    (h : (responseId.bind fun id => (t.activeByResponseId.lookup id).map (id, ·)) = none) :
    responseId.bind t.activeByResponseId.lookup = none := by
  cases responseId with
  | none => rfl
  | some id => simpa using h

theorem takeTracked_fst (t : WsLogicalResponseTracker) (responseId : Option String)
    (now : Nat) :
    (t.takeTracked responseId now).1 =
      (t.requestFor responseId).getD (.untracked responseId now) := by
  rw [takeTracked, requestFor]
  cases hactive : responseId.bind fun id => (t.activeByResponseId.lookup id).map (id, ·) with
  | some entry =>
      obtain ⟨id, tracked⟩ := entry
      simp only [Option.bind_eq_some_iff, Option.map_eq_some_iff, Prod.mk.injEq] at hactive
      obtain ⟨id, rfl, tracked, hlookup, rfl, rfl⟩ := hactive
      simp [hlookup]
  | none =>
      have hnone := bind_lookup_eq_none hactive
      cases hpending : t.pendingRequests <;> simp [hnone]

theorem takeTracked_frame (t : WsLogicalResponseTracker) (responseId : Option String)
    (now : Nat) :
    (t.takeTracked responseId now).2.completedResponseIds = t.completedResponseIds ∧
      (t.takeTracked responseId now).2.pendingBillingActions = t.pendingBillingActions := by
  rw [takeTracked]
  split
  · exact ⟨rfl, rfl⟩
  · split <;> exact ⟨rfl, rfl⟩

/-! ## One event -/

/-- The kinds of events and what they do to the tracker. -/
inductive EventEffect (t : WsLogicalResponseTracker) (value : Json) (now : Nat) :
    WsLogicalResponseTracker → Prop
  | created (h : isWsResponseCreatedEvent value = true) (hend : isTerminalEvent value = false)
      (hcompleted : isWsResponseCompletedEvent value = false) :
      EventEffect t value now (t.registerResponseCreated value now)
  | released (reason : WsReleaseReason) (h : isWsResponseCreatedEvent value = false)
      (hend : isTerminalEvent value = true)
      (hcompleted : isWsResponseCompletedEvent value = false) :
      EventEffect t value now (t.releaseResponse value reason now)
  | completed (h : isWsResponseCreatedEvent value = false)
      (hend : isTerminalEvent value = true)
      (hcompleted : isWsResponseCompletedEvent value = true) :
      EventEffect t value now (t.completeResponse value now).1
  | ignored (h : isWsResponseCreatedEvent value = false) (hend : isTerminalEvent value = false)
      (hcompleted : isWsResponseCompletedEvent value = false) : EventEffect t value now t

theorem eventEffect_observeUpstreamValue (t : WsLogicalResponseTracker) (value : Json)
    (now : Nat) : EventEffect t value now (t.observeUpstreamValue value now).1 := by
  unfold observeUpstreamValue
  cases hcreated : isWsResponseCreatedEvent value with
  | true =>
      have htype : extractWsEventType value = some "response.created" := by
        simpa [isWsResponseCreatedEvent] using hcreated
      have hincomplete : isWsResponseIncompleteEvent value = false := by
        simp [isWsResponseIncompleteEvent, htype]
      have hfailed : isWsResponseFailedEvent value = false := by
        simp [isWsResponseFailedEvent, htype]
      have herror : isWsErrorEvent value = false := by simp [isWsErrorEvent, htype]
      have hcompleted : isWsResponseCompletedEvent value = false := by
        simp [isWsResponseCompletedEvent, htype]
      simp only [hincomplete, hfailed, herror, hcompleted, Bool.false_eq_true, if_false, if_true]
      exact .created hcreated
        (by simp [isTerminalEvent, hincomplete, hfailed, herror, hcompleted]) hcompleted
  | false =>
      simp only [Bool.false_eq_true, if_false]
      split_ifs with hincomplete hfailed herror hcompleted
      · refine .released _ hcreated (by simp [isTerminalEvent, hincomplete]) ?_
        simp only [isWsResponseIncompleteEvent, decide_eq_true_eq] at hincomplete
        simp [isWsResponseCompletedEvent, hincomplete]
      · refine .released _ hcreated (by simp [isTerminalEvent, hfailed]) ?_
        simp only [isWsResponseFailedEvent, decide_eq_true_eq] at hfailed
        simp [isWsResponseCompletedEvent, hfailed]
      · refine .released _ hcreated (by simp [isTerminalEvent, herror]) ?_
        simp only [isWsErrorEvent, decide_eq_true_eq] at herror
        simp [isWsResponseCompletedEvent, herror]
      · exact .completed hcreated (by simp [isTerminalEvent, hcompleted]) hcompleted
      · simp only [Bool.not_eq_true] at hincomplete hfailed herror hcompleted
        exact .ignored hcreated
          (by simp [isTerminalEvent, hincomplete, hfailed, herror, hcompleted]) hcompleted

/-! ## The two searches agree -/

theorem latestUnstartedRequest_eq (t : WsLogicalResponseTracker) :
    t.latestUnstartedRequest order = (t.takeLatestUnstartedRequest order).1 := by
  have hmap : ((order.entries t.activeByResponseId).map (·.2)).filter (!·.responseStarted) =
      ((order.entries t.activeByResponseId).filter (!·.2.responseStarted)).map (·.2) :=
    List.filter_map
  rw [latestUnstartedRequest, takeLatestUnstartedRequest, hmap, List.length_append,
    List.length_map]
  have hfind : t.pendingRequests.find? (!·.responseStarted) =
      (t.pendingRequests.filter (!·.responseStarted)).head? := List.head?_filter.symm
  generalize t.pendingRequests.filter (!·.responseStarted) = pending at hfind ⊢
  generalize (order.entries t.activeByResponseId).filter (!·.2.responseStarted) = active
  split_ifs with hone
  · rfl
  · match pending, active, hone with
    | [tracked], [], _ => simp [takePending, hfind]
    | [], [entry], _ => simp
    | _ :: _, _ :: _, hone =>
        simp only [List.length_cons, ne_eq, not_not] at hone
        omega
    | _ :: _ :: _, [], hone => simp at hone
    | [], _ :: _ :: _, hone => simp at hone
    | [], [], hone => simp at hone

theorem findRetryableRequest_eq (t : WsLogicalResponseTracker) (value : Json) :
    t.findRetryableRequest order value = (t.takeRetryableRequest order value).1 := by
  rw [findRetryableRequest, takeRetryableRequest]
  cases t.unstartedActive (extractWsResponseId value) with
  | some entry => rfl
  | none =>
      cases extractWsRequestId value with
      | none => exact latestUnstartedRequest_eq order t
      | some requestId =>
          simp only [List.find?_map]
          cases hactive : (order.entries t.activeByResponseId).find?
              (isRetryable requestId ·.2) with
          | some entry => simp only [Function.comp_def, hactive, Option.map_some, Option.some_or]
          | none =>
              simp only [Function.comp_def, hactive, Option.map_none, Option.none_or]
              by_cases hpending : t.pendingRequests.any (isRetryable requestId) = true
              · obtain ⟨tracked, htracked⟩ : ∃ tracked,
                    t.pendingRequests.find? (isRetryable requestId) = some tracked := by
                  rw [← Option.isSome_iff_exists, List.find?_isSome]
                  simpa using hpending
                simp [hpending, takePending, htracked]
              · have hnone : t.pendingRequests.find? (isRetryable requestId) = none := by
                  rw [List.find?_eq_none]
                  simpa using hpending
                rw [if_neg hpending, hnone, Option.none_or]
                exact latestUnstartedRequest_eq order t

/-! ## What is tracked -/

section Weight

variable {M : Type*} [AddCommMonoid M] (f : WsTrackedResponse → M)

/-- A quantity of the requests that are tracked, in all. -/
def weigh (t : WsLogicalResponseTracker) : M :=
  (t.pendingRequests.map f).sum + (t.activeByResponseId.entries.map (f ·.2)).sum

variable {f}

theorem sum_entries_of_lookup {active : ActiveRequests} {id : String}
    {tracked : WsTrackedResponse} (h : active.lookup id = some tracked) :
    (active.entries.map (f ·.2)).sum =
      f tracked + ((active.erase id).entries.map (f ·.2)).sum := by
  have hmem : id ∈ active.entries.keys := AList.lookup_isSome.1 (by simp [h])
  obtain ⟨other, before, after, hbefore, hentries, herase⟩ := List.exists_of_kerase hmem
  have hother : other = tracked := by
    have hin : ⟨id, other⟩ ∈ active.entries := by simp [hentries]
    have hlookup := AList.mem_lookup_iff.2 hin
    rw [h] at hlookup
    exact (Option.some.inj hlookup).symm
  have hrest : (active.erase id).entries = before ++ after := herase
  rw [hrest, hentries, hother]
  simp only [List.map_append, List.map_cons, List.sum_append, List.sum_cons]
  exact add_left_comm _ _ _

theorem erase_of_lookup_none {active : ActiveRequests} {id : String}
    (h : active.lookup id = none) : active.erase id = active :=
  AList.ext (List.kerase_of_notMem_keys (AList.lookup_eq_none.1 h))

theorem sum_entries_insert (active : ActiveRequests) (id : String)
    (tracked : WsTrackedResponse) :
    ((active.insert id tracked).entries.map (f ·.2)).sum =
      f tracked + ((active.erase id).entries.map (f ·.2)).sum := by
  rw [AList.entries_insert, List.map_cons, List.sum_cons]
  rfl

theorem sum_entries_eq (active : ActiveRequests) (id : String) :
    (active.entries.map (f ·.2)).sum =
      ((active.lookup id).map f).getD 0 + ((active.erase id).entries.map (f ·.2)).sum := by
  cases h : active.lookup id with
  | none => simp [erase_of_lookup_none h]
  | some tracked => exact sum_entries_of_lookup h

/-- What is not tracked after a request is registered: the request itself, under an
identifier that is completed, or another one whose place it takes. -/
def displaced (f : WsTrackedResponse → M) (t : WsLogicalResponseTracker)
    (tracked : WsTrackedResponse) : M :=
  if t.isCompleted tracked.seed.responseId then f tracked
  else (tracked.seed.responseId.bind fun id =>
    (t.activeByResponseId.lookup id).map f).getD 0

theorem weigh_registerTrackedRequest (t : WsLogicalResponseTracker)
    (tracked : WsTrackedResponse) :
    weigh f (t.registerTrackedRequest tracked) + displaced f t tracked =
      weigh f t + f tracked := by
  rw [registerTrackedRequest, displaced, isCompleted]
  cases tracked.seed.responseId with
  | none =>
      simp only [weigh, List.map_append, List.sum_append, List.map_cons, List.map_nil,
        List.sum_cons, List.sum_nil, add_zero, Option.any_none, Option.bind_none,
        Option.getD_none, Bool.false_eq_true, if_false]
      exact add_right_comm _ _ _
  | some id =>
      by_cases hid : id ∈ t.completedResponseIds
      · simp [hid]
      · simp only [hid, Option.any_some, decide_false, Bool.false_eq_true, if_false,
          Option.bind_some, weigh, sum_entries_insert]
        rw [sum_entries_eq t.activeByResponseId id]
        abel

/-- The request that an event is for leaves the tracker, if there is one. -/
theorem weigh_takeTracked (t : WsLogicalResponseTracker) (responseId : Option String)
    (now : Nat) :
    weigh f t = ((t.requestFor responseId).map f).getD 0 +
      weigh f (t.takeTracked responseId now).2 := by
  rw [takeTracked, requestFor]
  cases hactive : responseId.bind fun id => (t.activeByResponseId.lookup id).map (id, ·) with
  | some entry =>
      obtain ⟨id, tracked⟩ := entry
      simp only [Option.bind_eq_some_iff, Option.map_eq_some_iff, Prod.mk.injEq] at hactive
      obtain ⟨id, rfl, tracked, hlookup, rfl, rfl⟩ := hactive
      simp only [weigh, sum_entries_of_lookup hlookup, Option.bind_some, hlookup,
        Option.some_or, Option.map_some, Option.getD_some]
      exact add_left_comm _ _ _
  | none =>
      have hnone := bind_lookup_eq_none hactive
      cases hpending : t.pendingRequests with
      | nil => simp [hnone]
      | cons tracked pending =>
          simp only [weigh, hpending, hnone, List.map_cons, List.sum_cons, List.head?_cons,
            Option.none_or, Option.map_some, Option.getD_some]
          exact add_assoc _ _ _

theorem lookup_takeTracked (t : WsLogicalResponseTracker) (id : String) (now : Nat) :
    (t.takeTracked (some id) now).2.activeByResponseId.lookup id = none := by
  rw [takeTracked, Option.bind_some]
  cases hlookup : t.activeByResponseId.lookup id with
  | some tracked => exact AList.lookup_erase id _
  | none =>
      cases hpending : t.pendingRequests with
      | nil => exact hlookup
      | cons tracked pending => exact hlookup

theorem weigh_insert {t : WsLogicalResponseTracker} {id : String}
    (h : t.activeByResponseId.lookup id = none) (tracked : WsTrackedResponse) :
    weigh f { t with activeByResponseId := t.activeByResponseId.insert id tracked } =
      f tracked + weigh f t := by
  simp only [weigh, sum_entries_insert, erase_of_lookup_none h]
  exact add_left_comm _ _ _

theorem sum_eraseP (p : WsTrackedResponse → Bool) (requests : List WsTrackedResponse) :
    (requests.map f).sum =
      ((requests.find? p).map f).getD 0 + ((requests.eraseP p).map f).sum := by
  induction requests with
  | nil => simp
  | cons tracked requests ih =>
      cases h : p tracked with
      | true => simp [h]
      | false =>
          rw [List.find?_cons_of_neg (by simp [h]), List.eraseP_cons_of_neg (by simp [h]),
            List.map_cons, List.sum_cons, List.map_cons, List.sum_cons, ih]
          exact add_left_comm _ _ _

end Weight

/-! ## What is taken -/

/-- What taking a request can do: nothing, or one request leaves the queue or the map. -/
inductive TakeEffect (t : WsLogicalResponseTracker) :
    Option WsTrackedResponse × WsLogicalResponseTracker → Prop
  | none : TakeEffect t (none, t)
  | pending (p : WsTrackedResponse → Bool) : TakeEffect t (t.takePending p)
  | active {id : String} {tracked : WsTrackedResponse}
      (hlookup : t.activeByResponseId.lookup id = some tracked) :
      TakeEffect t (some tracked, t.removeActive id)

theorem lookup_of_mem_order {active : ActiveRequests}
    {entry : Sigma fun _ : String => WsTrackedResponse} (h : entry ∈ order.entries active) :
    active.lookup entry.1 = some entry.2 :=
  AList.mem_lookup_iff.2 ((order.perm active).subset h)

theorem takeEffect_takeLatestUnstartedRequest (t : WsLogicalResponseTracker) :
    TakeEffect t (t.takeLatestUnstartedRequest order) := by
  rw [takeLatestUnstartedRequest]
  split_ifs with hone
  · exact .none
  · cases t.pendingRequests.filter (!·.responseStarted) with
    | cons tracked pending => exact .pending _
    | nil =>
        cases hactive : (order.entries t.activeByResponseId).filter
            (!·.2.responseStarted) with
        | nil => exact .none
        | cons entry active =>
            have hmem : entry ∈ (order.entries t.activeByResponseId).filter
                (!·.2.responseStarted) := by simp [hactive]
            exact .active (lookup_of_mem_order order (List.mem_filter.1 hmem).1)

theorem takeEffect_takeRetryableRequest (t : WsLogicalResponseTracker) (value : Json) :
    TakeEffect t (t.takeRetryableRequest order value) := by
  rw [takeRetryableRequest]
  cases hunstarted : t.unstartedActive (extractWsResponseId value) with
  | some entry =>
      obtain ⟨id, tracked⟩ := entry
      simp only [unstartedActive, Option.bind_eq_some_iff, Option.map_eq_some_iff,
        Option.filter_eq_some_iff, Prod.mk.injEq] at hunstarted
      obtain ⟨id, -, tracked, ⟨hlookup, -⟩, rfl, rfl⟩ := hunstarted
      exact .active hlookup
  | none =>
      cases extractWsRequestId value with
      | none => exact takeEffect_takeLatestUnstartedRequest order t
      | some requestId =>
          simp only
          cases hfind : (order.entries t.activeByResponseId).find?
              (isRetryable requestId ·.2) with
          | some entry =>
              exact .active (lookup_of_mem_order order (List.mem_of_find?_eq_some hfind))
          | none =>
              simp only
              split_ifs
              · exact .pending _
              · exact takeEffect_takeLatestUnstartedRequest order t

section TakeEffect

variable {t : WsLogicalResponseTracker}
  {result : Option WsTrackedResponse × WsLogicalResponseTracker}

theorem TakeEffect.weigh_eq {M : Type*} [AddCommMonoid M] (h : TakeEffect t result)
    (f : WsTrackedResponse → M) :
    weigh f t = (result.1.map f).getD 0 + weigh f result.2 := by
  cases h with
  | none => simp
  | pending p =>
      simp only [weigh, takePending, sum_eraseP p t.pendingRequests]
      exact add_assoc _ _ _
  | active hlookup =>
      simp only [weigh, removeActive, sum_entries_of_lookup hlookup, Option.map_some,
        Option.getD_some]
      exact add_left_comm _ _ _

theorem TakeEffect.pendingBillingActions (h : TakeEffect t result) :
    result.2.pendingBillingActions = t.pendingBillingActions := by
  cases h <;> rfl

end TakeEffect

end WsLogicalResponseTracker

end CodexPool
