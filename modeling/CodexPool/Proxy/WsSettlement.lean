import CodexPool.Proxy.WsTracker

/-!
# Settlement on a socket

A billing session that is handed to the tracker comes out of it as a billing action, with
the request of a retry, or with the unfinished sessions in the end. It comes out just once,
unless one of a few steps loses it: a request that is registered under an identifier that is
taken or completed, a completion that says nothing, and actions that are queued in the end.
-/

namespace CodexPool

open WsLogicalResponseTracker

/-- A session apart from the tier that a completion notes in it. -/
def BillingSession.untiered (session : BillingSession) : BillingSession :=
  { session with effectiveServiceTier := none }

inductive WsTrackerOp where
  | register (seed : WsLogicalResponseSeed) (billingSession : Option BillingSession)
      (replayRequestTexts : List String)
  | observe (text : String) (now : Nat)
  | takeRetryable (value : Json)
  | requeue (tracked : WsTrackedResponse)
  | drain
  | takeUnfinished

/-! ## What goes in and out -/

def sessionOf (tracked : WsTrackedResponse) : Multiset BillingSession :=
  ↑(tracked.billingSession.map BillingSession.untiered).toList

def sessionsOfActions (actions : List WsPendingBillingAction) : Multiset BillingSession :=
  ↑(actions.map fun action => action.billingSession.untiered)

section Steps

variable (codec : SerdeJson) (order : VisitOrder)

def trackerStep (t : WsLogicalResponseTracker) : WsTrackerOp → WsLogicalResponseTracker
  | .register seed billingSession replayRequestTexts =>
    t.registerLogicalRequest seed billingSession replayRequestTexts
  | .observe text now => (t.observeUpstreamText codec text now).1
  | .takeRetryable value => (t.takeRetryableRequest order value).2
  | .requeue tracked => t.registerTrackedRequest tracked
  | .drain => { t with pendingBillingActions := [] }
  | .takeUnfinished => (t.takeUnfinishedBillingSessions order).2

def heldSessions (t : WsLogicalResponseTracker) : Multiset BillingSession :=
  weigh sessionOf t + sessionsOfActions t.pendingBillingActions

def handedSessions (_ : WsLogicalResponseTracker) : WsTrackerOp → Multiset BillingSession
  | .register seed billingSession replayRequestTexts =>
    sessionOf ⟨seed, billingSession, replayRequestTexts, false⟩
  | .requeue tracked => sessionOf tracked
  | .observe .. | .takeRetryable _ | .drain | .takeUnfinished => 0

/-- The sessions that come out of the tracker. -/
def settledSessions (t : WsLogicalResponseTracker) : WsTrackerOp → Multiset BillingSession
  | .takeRetryable value => ((t.takeRetryableRequest order value).1.map sessionOf).getD 0
  | .drain => sessionsOfActions t.pendingBillingActions
  | .takeUnfinished =>
    ↑((t.takeUnfinishedBillingSessions order).1.map BillingSession.untiered)
  | .register .. | .observe .. | .requeue _ => 0

/-! ## What is lost -/

def lostByRegister (t : WsLogicalResponseTracker) (tracked : WsTrackedResponse) :
    Multiset BillingSession :=
  if t.isCompleted tracked.seed.responseId then sessionOf tracked
  else (tracked.seed.responseId.bind fun id =>
    (t.activeByResponseId.lookup id).map sessionOf).getD 0

def lostByCompletion (t : WsLogicalResponseTracker) (value : Json) (now : Nat) :
    Multiset BillingSession :=
  let tracked := (t.takeTracked (extractWsResponseId value) now).1.withEvent value
  if t.isCompleted (extractWsResponseId value) then 0
  else if isAnonymous tracked (extractUsageTokensFromValue value) then sessionOf tracked
  else 0

def lostSessions (t : WsLogicalResponseTracker) : WsTrackerOp → Multiset BillingSession
  | .register seed billingSession replayRequestTexts =>
    lostByRegister t ⟨seed, billingSession, replayRequestTexts, false⟩
  | .observe text now =>
    match codec.fromStr text with
    | some value => if isWsResponseCompletedEvent value then lostByCompletion t value now else 0
    | none => 0
  | .requeue tracked => lostByRegister t tracked
  | .takeUnfinished => sessionsOfActions t.pendingBillingActions
  | .takeRetryable _ | .drain => 0

end Steps

/-! ## One step -/

section Balance

variable {codec : SerdeJson} {order : VisitOrder} {t : WsLogicalResponseTracker}

@[simp] theorem sessionOf_withEvent (tracked : WsTrackedResponse) (value : Json) :
    sessionOf (tracked.withEvent value) = sessionOf tracked := rfl

@[simp] theorem sessionOf_untracked (responseId : Option String) (now : Nat) :
    sessionOf (.untracked responseId now) = 0 := rfl

theorem sessionsOfActions_append (actions actions' : List WsPendingBillingAction) :
    sessionsOfActions (actions ++ actions') =
      sessionsOfActions actions + sessionsOfActions actions' := by
  simp [sessionsOfActions]

theorem heldSessions_complete (tracked : WsTrackedResponse) :
    heldSessions (t.complete tracked) = heldSessions t := by
  rw [WsLogicalResponseTracker.complete]
  cases tracked.seed.responseId <;> rfl

theorem heldSessions_pushAction (action : WsPendingBillingAction) :
    heldSessions (t.pushAction action) =
      heldSessions t + {action.billingSession.untiered} := by
  simp only [heldSessions, pushAction, sessionsOfActions_append]
  exact (add_assoc _ _ _).symm

theorem heldSessions_takeTracked (responseId : Option String) (now : Nat) :
    heldSessions t = sessionOf (t.takeTracked responseId now).1 +
      heldSessions (t.takeTracked responseId now).2 := by
  have hsession : sessionOf (t.takeTracked responseId now).1 =
      ((t.requestFor responseId).map sessionOf).getD 0 := by
    rw [takeTracked_fst]
    cases t.requestFor responseId <;> rfl
  rw [hsession, heldSessions, weigh_takeTracked t responseId now, heldSessions,
    (takeTracked_frame t responseId now).2, add_assoc]

theorem heldSessions_register (tracked : WsTrackedResponse) :
    heldSessions (t.registerTrackedRequest tracked) + lostByRegister t tracked =
      heldSessions t + sessionOf tracked := by
  have hweigh : weigh sessionOf (t.registerTrackedRequest tracked) + lostByRegister t tracked =
      weigh sessionOf t + sessionOf tracked := weigh_registerTrackedRequest t tracked
  have hactions : (t.registerTrackedRequest tracked).pendingBillingActions =
      t.pendingBillingActions := by
    rw [registerTrackedRequest]
    split
    · split_ifs <;> rfl
    · rfl
  rw [heldSessions, heldSessions, hactions, add_right_comm, hweigh, add_right_comm]

theorem heldSessions_registerResponseCreated (value : Json) (now : Nat) :
    heldSessions (t.registerResponseCreated value now) = heldSessions t := by
  rw [registerResponseCreated]
  cases extractWsResponseId value with
  | none => rfl
  | some id =>
      simp only
      split_ifs with hcompleted
      · rfl
      · have hlookup := lookup_takeTracked t id now
        have htaken := heldSessions_takeTracked (t := t) (some id) now
        rw [htaken, heldSessions, weigh_insert hlookup, heldSessions, add_assoc]
        rfl

theorem heldSessions_releaseResponse (value : Json) (reason : WsReleaseReason) (now : Nat) :
    heldSessions (t.releaseResponse value reason now) = heldSessions t := by
  rw [releaseResponse]
  split_ifs with hcompleted
  · rfl
  · have htaken := heldSessions_takeTracked (t := t) (extractWsResponseId value) now
    generalize t.takeTracked (extractWsResponseId value) now = result at htaken
    obtain ⟨tracked, t'⟩ := result
    simp only at htaken ⊢
    rw [htaken]
    have hsession : (tracked.withEvent value).billingSession = tracked.billingSession := rfl
    rw [hsession]
    cases hs : tracked.billingSession with
    | none => simp [heldSessions_complete, sessionOf, hs]
    | some session =>
        rw [heldSessions_pushAction, heldSessions_complete, add_comm]
        simp [sessionOf, hs, WsPendingBillingAction.billingSession]

theorem heldSessions_completeResponse (value : Json) (now : Nat) :
    heldSessions (t.completeResponse value now).1 + lostByCompletion t value now =
      heldSessions t := by
  rw [completeResponse, lostByCompletion]
  by_cases hcompleted : t.isCompleted (extractWsResponseId value) = true
  · simp [hcompleted]
  · have htaken := heldSessions_takeTracked (t := t) (extractWsResponseId value) now
    simp only [hcompleted, Bool.false_eq_true, if_false]
    generalize t.takeTracked (extractWsResponseId value) now = result at htaken
    obtain ⟨tracked, t'⟩ := result
    simp only at htaken ⊢
    rw [htaken]
    split_ifs with hanonymous
    · rw [sessionOf_withEvent, add_comm]
    · have hsession : (tracked.withEvent value).billingSession = tracked.billingSession := rfl
      rw [hsession, add_zero]
      cases hs : tracked.billingSession with
      | none => simp [heldSessions_complete, sessionOf, hs]
      | some session =>
          rw [heldSessions_pushAction, heldSessions_complete, add_comm]
          simp [sessionOf, hs, WsPendingBillingAction.billingSession,
            BillingSession.untiered]

theorem heldSessions_observe (text : String) (now : Nat) :
    heldSessions (t.observeUpstreamText codec text now).1 +
        lostSessions codec t (.observe text now) = heldSessions t := by
  rw [observeUpstreamText, lostSessions]
  cases codec.fromStr text with
  | none => simp
  | some value =>
      have heffect := eventEffect_observeUpstreamValue t value now
      simp only
      generalize (t.observeUpstreamValue value now).1 = t' at heffect
      cases heffect with
      | created h hend hcompleted =>
          simp [hcompleted, heldSessions_registerResponseCreated]
      | released reason h hend hcompleted => simp [hcompleted, heldSessions_releaseResponse]
      | completed h hend hcompleted =>
          simp only [hcompleted, if_true, heldSessions_completeResponse]
      | ignored h hend hcompleted => simp [hcompleted]

theorem heldSessions_takeUnfinished :
    heldSessions t =
      ↑((t.takeUnfinishedBillingSessions order).1.map BillingSession.untiered) +
        sessionsOfActions t.pendingBillingActions := by
  have hsum : ∀ requests : List WsTrackedResponse, (requests.map sessionOf).sum =
      ↑((requests.filterMap (·.billingSession)).map BillingSession.untiered) := by
    intro requests
    induction requests with
    | nil => rfl
    | cons tracked requests ih =>
        rw [List.map_cons, List.sum_cons, ih, sessionOf]
        cases hs : tracked.billingSession <;> simp [hs]
  have hactive : (t.activeByResponseId.entries.map (sessionOf ·.2)).sum =
      (((order.entries t.activeByResponseId).map (·.2)).map sessionOf).sum := by
    rw [List.map_map]
    exact (((order.perm t.activeByResponseId).map _).sum_eq).symm
  rw [heldSessions, weigh, hactive, hsum, hsum, takeUnfinishedBillingSessions]
  simp [List.filterMap_map]

/-- What is handed over is held, comes out or is lost. -/
theorem trackerStep_balance (codec : SerdeJson) (order : VisitOrder)
    (t : WsLogicalResponseTracker) (op : WsTrackerOp) :
    heldSessions t + handedSessions t op =
      heldSessions (trackerStep codec order t op) + settledSessions order t op +
        lostSessions codec t op := by
  cases op with
  | register seed billingSession replayRequestTexts =>
      rw [settledSessions, add_zero]
      exact (heldSessions_register _).symm
  | observe text now =>
      rw [settledSessions, add_zero, handedSessions, add_zero]
      exact (heldSessions_observe text now).symm
  | takeRetryable value =>
      have htaken := takeEffect_takeRetryableRequest order t value
      rw [handedSessions, add_zero, lostSessions, add_zero, heldSessions, trackerStep,
        heldSessions, htaken.pendingBillingActions, htaken.weigh_eq sessionOf, settledSessions]
      abel
  | requeue tracked =>
      rw [settledSessions, add_zero]
      exact (heldSessions_register _).symm
  | drain =>
      rw [handedSessions, add_zero, lostSessions, add_zero]
      show heldSessions t = weigh sessionOf t + 0 + sessionsOfActions t.pendingBillingActions
      rw [add_zero]
      rfl
  | takeUnfinished =>
      have hempty : heldSessions (trackerStep codec order t .takeUnfinished) = 0 := rfl
      rw [handedSessions, add_zero, hempty, zero_add, settledSessions, lostSessions]
      exact heldSessions_takeUnfinished

end Balance

/-! ## Steps that lose nothing -/

section Lossless

variable (codec : SerdeJson) (order : VisitOrder)

/-- The request can be tracked: its identifier is not that of a completed response, and
not that of another request with a session. -/
def Trackable (t : WsLogicalResponseTracker) (tracked : WsTrackedResponse) : Prop :=
  if t.isCompleted tracked.seed.responseId then tracked.billingSession = none
  else ∀ id, tracked.seed.responseId = some id → ∀ other,
    t.activeByResponseId.lookup id = some other → other.billingSession = none

/-- Nothing identifies the response of an event. -/
def NamesNothing (value : Json) : Prop :=
  extractWsResponseId value = none ∧ extractWsRequestId value = none ∧
    extractWsModel value = none ∧ extractUsageTokensFromValue value = none

/-- The step loses no session. -/
def Lossless (t : WsLogicalResponseTracker) : WsTrackerOp → Prop
  | .register seed billingSession replayRequestTexts =>
    Trackable t ⟨seed, billingSession, replayRequestTexts, false⟩
  | .observe text _ =>
    ∀ value, codec.fromStr text = some value → isWsResponseCompletedEvent value = true →
      NamesNothing value → ∀ front ∈ t.pendingRequests.head?,
        front.seed.requestId = none → front.seed.responseId = none →
        front.seed.model = none → front.billingSession = none
  | .requeue tracked => Trackable t tracked
  | .takeUnfinished => t.pendingBillingActions = []
  | .takeRetryable _ | .drain => True

theorem sessionOf_eq_zero_iff (tracked : WsTrackedResponse) :
    sessionOf tracked = 0 ↔ tracked.billingSession = none := by
  rw [sessionOf]
  cases tracked.billingSession <;> simp

theorem lostByRegister_eq_zero_iff (t : WsLogicalResponseTracker)
    (tracked : WsTrackedResponse) :
    lostByRegister t tracked = 0 ↔ Trackable t tracked := by
  rw [lostByRegister, Trackable]
  split_ifs with hcompleted
  · exact sessionOf_eq_zero_iff tracked
  · cases tracked.seed.responseId with
    | none => simp
    | some id =>
        rw [Option.bind_some]
        cases hlookup : t.activeByResponseId.lookup id with
        | none => simp [hlookup]
        | some other => simp [hlookup, sessionOf_eq_zero_iff]

theorem isAnonymous_withEvent (tracked : WsTrackedResponse) (value : Json) :
    isAnonymous (tracked.withEvent value) (extractUsageTokensFromValue value) = true ↔
      NamesNothing value ∧ tracked.seed.requestId = none ∧ tracked.seed.responseId = none ∧
        tracked.seed.model = none := by
  simp only [isAnonymous, WsTrackedResponse.withEvent, NamesNothing, Bool.and_eq_true,
    Option.isNone_iff_eq_none, Option.or_eq_none_iff]
  tauto

theorem lostByCompletion_eq_zero_iff (t : WsLogicalResponseTracker) (value : Json)
    (now : Nat) :
    lostByCompletion t value now = 0 ↔
      (NamesNothing value → ∀ front ∈ t.pendingRequests.head?,
        front.seed.requestId = none → front.seed.responseId = none →
        front.seed.model = none → front.billingSession = none) := by
  simp only [lostByCompletion]
  by_cases hnames : NamesNothing value
  · have hcompleted : t.isCompleted none = false := rfl
    simp only [hnames.1, hnames, hcompleted, Bool.false_eq_true, if_false, forall_const]
    cases hpending : t.pendingRequests with
    | nil => simp [takeTracked, hpending]
    | cons front pending =>
        have htaken : (t.takeTracked none now).1 = front := by simp [takeTracked, hpending]
        rw [htaken, sessionOf_withEvent]
        split_ifs with hfront
        · rw [isAnonymous_withEvent] at hfront
          simp [sessionOf_eq_zero_iff, hfront.2]
        · rw [isAnonymous_withEvent] at hfront
          simpa using fun hrequest hresponse hmodel =>
            absurd ⟨hnames, hrequest, hresponse, hmodel⟩ hfront
  · have hnamed : ∀ tracked : WsTrackedResponse,
        isAnonymous (tracked.withEvent value) (extractUsageTokensFromValue value) = false := by
      intro tracked
      rw [Bool.eq_false_iff]
      exact fun h => hnames ((isAnonymous_withEvent tracked value).1 h).1
    simp [hnames, hnamed]

theorem lostSessions_eq_zero_iff (t : WsLogicalResponseTracker) (op : WsTrackerOp) :
    lostSessions codec t op = 0 ↔ Lossless codec t op := by
  cases op with
  | register seed billingSession replayRequestTexts =>
      exact lostByRegister_eq_zero_iff _ _
  | observe text now =>
      rw [lostSessions, Lossless]
      cases codec.fromStr text with
      | none => simp
      | some value =>
          by_cases hcompleted : isWsResponseCompletedEvent value = true
          · simp [hcompleted, lostByCompletion_eq_zero_iff]
          · simp [hcompleted]
  | takeRetryable value => simp [lostSessions, Lossless]
  | requeue tracked => exact lostByRegister_eq_zero_iff _ _
  | drain => simp [lostSessions, Lossless]
  | takeUnfinished => simp [lostSessions, Lossless, sessionsOfActions]

/-- Every session comes out of the tracker exactly once if and only if no step of the run
loses one. -/
theorem sessions_settledOnce_iff (ops : List WsTrackerOp) :
    Custody.collect (trackerStep codec order) handedSessions .empty
          (ops ++ [.takeUnfinished]) =
        Custody.collect (trackerStep codec order) (settledSessions order) .empty
          (ops ++ [.takeUnfinished]) ↔
      Machine.Along (trackerStep codec order) (Lossless codec) .empty
        (ops ++ [.takeUnfinished]) := by
  have hreturned := Custody.returned_iff (trackerStep_balance codec order)
    (s := .empty) rfl (ops ++ [.takeUnfinished])
  have hlossless : (fun t op => lostSessions codec t op = 0) = Lossless codec := by
    funext t op
    exact propext (lostSessions_eq_zero_iff codec t op)
  have hend : heldSessions (Machine.run (trackerStep codec order) .empty
      (ops ++ [.takeUnfinished])) = 0 := by
    rw [Machine.run_append]
    rfl
  rwa [hend, zero_add, hlossless] at hreturned

end Lossless

/-! ## Two requests with one identifier -/

def sampleSeed : WsLogicalResponseSeed := ⟨none, some "resp_1", none, none, 0⟩

def sameIdentifierOps : List WsTrackerOp :=
  [.register sampleSeed (some sampleSession) [],
    .register sampleSeed (some { sampleSession with requestId := "req-2" }) []]

/-- The second request takes the place of the first one, whose session is lost. -/
theorem sessions_not_settledOnce :
    ¬ ∀ (codec : SerdeJson) (order : VisitOrder) (ops : List WsTrackerOp),
      Custody.collect (trackerStep codec order) handedSessions .empty
          (ops ++ [.takeUnfinished]) =
        Custody.collect (trackerStep codec order) (settledSessions order) .empty
          (ops ++ [.takeUnfinished]) := by
  intro h
  have hcard := congrArg Multiset.card
    (h (.ofTable []) ⟨AList.entries, fun _ => .refl _⟩ sameIdentifierOps)
  revert hcard
  decide +kernel

end CodexPool
