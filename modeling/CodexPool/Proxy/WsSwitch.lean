import CodexPool.Proxy.WsSession

/-!
# Requests that a new connection leaves behind

A request begins when it is sent to the upstream and ends with a terminal event. When the
connection to the upstream is replaced, the requests that have begun on the old one should
have ended, but for the one that is sent again. This is so when the request that is sent
again is the only one that is tracked, and no request was registered under an identifier
that another one has.
-/

namespace CodexPool

open WsLogicalResponseTracker

/-! ## Identifiers -/

namespace WsLogicalResponseTracker

/-- The requests that wait have no identifier, and those that are active have the one they
are kept under, which is not completed. -/
structure WellKeyed (t : WsLogicalResponseTracker) : Prop where
  pending : ∀ tracked ∈ t.pendingRequests, tracked.seed.responseId = none
  active : ∀ id tracked, t.activeByResponseId.lookup id = some tracked →
    tracked.seed.responseId = some id ∧ id ∉ t.completedResponseIds

section WellKeyed

variable {t : WsLogicalResponseTracker}

theorem wellKeyed_empty : WellKeyed empty where
  pending := by simp [empty]
  active := by simp [empty]

theorem WellKeyed.of_subset {t' : WsLogicalResponseTracker} (h : WellKeyed t)
    (hpending : t'.pendingRequests ⊆ t.pendingRequests)
    (hactive : ∀ id tracked, t'.activeByResponseId.lookup id = some tracked →
      t.activeByResponseId.lookup id = some tracked)
    (hcompleted : t'.completedResponseIds = t.completedResponseIds) : WellKeyed t' where
  pending tracked htracked := h.pending tracked (hpending htracked)
  active id tracked hlookup := by
    rw [hcompleted]
    exact h.active id tracked (hactive id tracked hlookup)

theorem lookup_of_lookup_erase {active : ActiveRequests} {key id : String}
    {tracked : WsTrackedResponse} (h : (active.erase key).lookup id = some tracked) :
    id ≠ key ∧ active.lookup id = some tracked := by
  by_cases hid : id = key
  · rw [hid, AList.lookup_erase] at h
    cases h
  · rw [AList.lookup_erase_ne hid] at h
    exact ⟨hid, h⟩

theorem WellKeyed.removeActive (h : WellKeyed t) (key : String) :
    WellKeyed (t.removeActive key) :=
  h.of_subset (fun _ hmem => hmem) (fun _ _ hlookup => (lookup_of_lookup_erase hlookup).2) rfl

theorem WellKeyed.takePending (h : WellKeyed t) (p : WsTrackedResponse → Bool) :
    WellKeyed (t.takePending p).2 :=
  h.of_subset List.eraseP_subset (fun _ _ hlookup => hlookup) rfl

theorem WellKeyed.take {result : Option WsTrackedResponse × WsLogicalResponseTracker}
    (h : WellKeyed t) (htake : TakeEffect t result) : WellKeyed result.2 := by
  cases htake with
  | none => exact h
  | pending p => exact h.takePending p
  | active hlookup => exact h.removeActive _

theorem WellKeyed.insert (h : WellKeyed t) {id : String} {tracked : WsTrackedResponse}
    (hid : tracked.seed.responseId = some id) (hfresh : id ∉ t.completedResponseIds) :
    WellKeyed { t with activeByResponseId := t.activeByResponseId.insert id tracked } where
  pending := h.pending
  active id' tracked' hlookup := by
    by_cases heq : id' = id
    · subst heq
      rw [AList.lookup_insert] at hlookup
      cases hlookup
      exact ⟨hid, hfresh⟩
    · rw [AList.lookup_insert_ne heq] at hlookup
      exact h.active id' tracked' hlookup

theorem WellKeyed.registerTrackedRequest (h : WellKeyed t) (tracked : WsTrackedResponse) :
    WellKeyed (t.registerTrackedRequest tracked) := by
  rw [WsLogicalResponseTracker.registerTrackedRequest]
  cases hid : tracked.seed.responseId with
  | none =>
      refine ⟨fun other hother => ?_, h.active⟩
      obtain hother | hother := List.mem_append.1 hother
      · exact h.pending other hother
      · rw [List.mem_singleton.1 hother, hid]
  | some id =>
      simp only
      split_ifs with hcompleted
      · exact h
      · exact h.insert hid hcompleted

/-- The request of an event has no identifier but that of the event. -/
theorem WellKeyed.takeTracked (h : WellKeyed t) (responseId : Option String) (now : Nat) :
    WellKeyed (t.takeTracked responseId now).2 ∧
      (t.takeTracked responseId now).1.seed.responseId.or responseId = responseId := by
  rw [WsLogicalResponseTracker.takeTracked]
  cases hactive : responseId.bind fun id => (t.activeByResponseId.lookup id).map (id, ·) with
  | some entry =>
      obtain ⟨id, tracked⟩ := entry
      simp only [Option.bind_eq_some_iff, Option.map_eq_some_iff, Prod.mk.injEq] at hactive
      obtain ⟨id, rfl, tracked, hlookup, rfl, rfl⟩ := hactive
      refine ⟨h.removeActive id, ?_⟩
      rw [(h.active id tracked hlookup).1, Option.some_or]
  | none =>
      cases hpending : t.pendingRequests with
      | nil =>
          refine ⟨h, ?_⟩
          cases responseId <;> rfl
      | cons tracked pending =>
          refine ⟨h.of_subset ?_ (fun _ _ hlookup => hlookup) rfl, ?_⟩
          · rw [hpending]
            exact List.subset_cons_self tracked pending
          · rw [h.pending tracked (by simp [hpending]), Option.none_or]

theorem WellKeyed.complete (h : WellKeyed t) {tracked : WsTrackedResponse}
    (hlookup : ∀ id, tracked.seed.responseId = some id →
      t.activeByResponseId.lookup id = none) : WellKeyed (t.complete tracked) := by
  rw [WsLogicalResponseTracker.complete]
  cases hid : tracked.seed.responseId with
  | none => exact h
  | some id =>
      refine ⟨h.pending, fun id' tracked' hlookup' => ?_⟩
      obtain ⟨hkey, hfresh⟩ := h.active id' tracked' hlookup'
      refine ⟨hkey, ?_⟩
      rw [List.mem_insert_iff, not_or]
      refine ⟨?_, hfresh⟩
      rintro rfl
      rw [hlookup id' hid] at hlookup'
      cases hlookup'

theorem WellKeyed.completeTracked (h : WellKeyed t) (value : Json) (now : Nat) :
    WellKeyed ((t.takeTracked (extractWsResponseId value) now).2.complete
      ((t.takeTracked (extractWsResponseId value) now).1.withEvent value)) := by
  obtain ⟨hkeyed, hid⟩ := h.takeTracked (extractWsResponseId value) now
  refine hkeyed.complete fun id hsome => ?_
  have hevent : extractWsResponseId value = some id := by
    rw [← hid]
    exact hsome
  rw [hevent]
  exact lookup_takeTracked t id now

theorem WellKeyed.pushAction (h : WellKeyed t) (action : WsPendingBillingAction) :
    WellKeyed (t.pushAction action) := ⟨h.pending, h.active⟩

theorem WellKeyed.releaseResponse (h : WellKeyed t) (value : Json) (reason : WsReleaseReason)
    (now : Nat) : WellKeyed (t.releaseResponse value reason now) := by
  rw [WsLogicalResponseTracker.releaseResponse]
  split_ifs
  · exact h
  · have hkeyed := h.completeTracked value now
    simp only
    split
    · exact hkeyed.pushAction _
    · exact hkeyed

theorem WellKeyed.completeResponse (h : WellKeyed t) (value : Json) (now : Nat) :
    WellKeyed (t.completeResponse value now).1 := by
  rw [WsLogicalResponseTracker.completeResponse]
  split_ifs with hcompleted
  · exact h
  · have hkeyed := h.completeTracked value now
    simp only
    split_ifs
    · exact (h.takeTracked (extractWsResponseId value) now).1
    · split
      · exact hkeyed.pushAction _
      · exact hkeyed

theorem WellKeyed.registerResponseCreated (h : WellKeyed t) (value : Json) (now : Nat) :
    WellKeyed (t.registerResponseCreated value now) := by
  rw [WsLogicalResponseTracker.registerResponseCreated]
  cases hid : extractWsResponseId value with
  | none => exact h
  | some id =>
      simp only
      split_ifs with hcompleted
      · exact h
      · obtain ⟨hkeyed, hseed⟩ := h.takeTracked (some id) now
        refine hkeyed.insert ?_ ?_
        · show (t.takeTracked (some id) now).1.seed.responseId.or (extractWsResponseId value) = _
          rw [hid, hseed]
        · rw [(takeTracked_frame t (some id) now).1]
          exact hcompleted

theorem WellKeyed.observeUpstreamText (h : WellKeyed t) (codec : SerdeJson) (text : String)
    (now : Nat) : WellKeyed (t.observeUpstreamText codec text now).1 := by
  rw [WsLogicalResponseTracker.observeUpstreamText]
  cases codec.fromStr text with
  | none => exact h
  | some value =>
      show WellKeyed (t.observeUpstreamValue value now).1
      have heffect := eventEffect_observeUpstreamValue t value now
      generalize (t.observeUpstreamValue value now).1 = t' at heffect
      cases heffect with
      | created => exact h.registerResponseCreated value now
      | released reason => exact h.releaseResponse value reason now
      | completed => exact h.completeResponse value now
      | ignored => exact h

end WellKeyed

end WsLogicalResponseTracker

/-! ## Requests that begin and end -/

/-- A request is named by the time at which it began. -/
def startOf (tracked : WsTrackedResponse) : Multiset Nat := {tracked.seed.startedAt}

/-- A response that the upstream begins and that no request is known for. -/
def unsolicited (t : WsLogicalResponseTracker) (value : Json) (now : Nat) : Multiset Nat :=
  if isWsResponseCreatedEvent value ∧ (extractWsResponseId value).isSome ∧
      t.isCompleted (extractWsResponseId value) = false ∧
      t.requestFor (extractWsResponseId value) = none then {now}
  else 0

def terminated (t : WsLogicalResponseTracker) (value : Json) : Multiset Nat :=
  if isTerminalEvent value ∧ t.isCompleted (extractWsResponseId value) = false then
    ((t.requestFor (extractWsResponseId value)).map startOf).getD 0
  else 0

namespace WsLogicalResponseTracker

section Weight

variable {t : WsLogicalResponseTracker}

theorem weigh_complete (tracked : WsTrackedResponse) :
    weigh startOf (t.complete tracked) = weigh startOf t := by
  rw [complete]
  cases tracked.seed.responseId <;> rfl

theorem weigh_releaseResponse (value : Json) (reason : WsReleaseReason) (now : Nat)
    (h : t.isCompleted (extractWsResponseId value) = false) :
    weigh startOf t = ((t.requestFor (extractWsResponseId value)).map startOf).getD 0 +
      weigh startOf (t.releaseResponse value reason now) := by
  rw [weigh_takeTracked t (extractWsResponseId value) now, releaseResponse, h,
    if_neg Bool.false_ne_true]
  congr 1
  simp only
  split
  · exact (weigh_complete _).symm
  · exact (weigh_complete _).symm

theorem weigh_completeResponse (value : Json) (now : Nat)
    (h : t.isCompleted (extractWsResponseId value) = false) :
    weigh startOf t = ((t.requestFor (extractWsResponseId value)).map startOf).getD 0 +
      weigh startOf (t.completeResponse value now).1 := by
  rw [weigh_takeTracked t (extractWsResponseId value) now, completeResponse, h,
    if_neg Bool.false_ne_true]
  congr 1
  simp only
  split_ifs
  · rfl
  · split
    · exact (weigh_complete _).symm
    · exact (weigh_complete _).symm

theorem weigh_registerResponseCreated (value : Json) (now : Nat)
    (h : isWsResponseCreatedEvent value = true) :
    weigh startOf t + unsolicited t value now =
      weigh startOf (t.registerResponseCreated value now) := by
  rw [registerResponseCreated, unsolicited, h]
  cases hid : extractWsResponseId value with
  | none => simp
  | some id =>
      by_cases hcompleted : id ∈ t.completedResponseIds
      · simp [hcompleted, isCompleted]
      · have hlookup := lookup_takeTracked t id now
        have htaken := weigh_takeTracked (f := startOf) t (some id) now
        simp only [hcompleted, if_false, isCompleted, Option.any_some, decide_false,
          Option.isSome_some, true_and]
        rw [weigh_insert hlookup, htaken]
        have hstart : startOf { (t.takeTracked (some id) now).1.withEvent value with
            responseStarted := true } = startOf (t.takeTracked (some id) now).1 := rfl
        rw [hstart, takeTracked_fst]
        cases t.requestFor (some id) with
        | none => simp [startOf, WsTrackedResponse.untracked, add_comm]
        | some tracked => simp

theorem unsolicited_of_not_created {value : Json} (h : isWsResponseCreatedEvent value = false)
    (now : Nat) : unsolicited t value now = 0 := by
  simp [unsolicited, h]

theorem terminated_of_not_terminal {value : Json} (h : isTerminalEvent value = false) :
    terminated t value = 0 := by
  simp [terminated, h]

/-- An event begins or ends a request, or neither. -/
theorem weigh_observeUpstreamValue (value : Json) (now : Nat) :
    weigh startOf t + unsolicited t value now =
      weigh startOf (t.observeUpstreamValue value now).1 + terminated t value := by
  have heffect := eventEffect_observeUpstreamValue t value now
  generalize (t.observeUpstreamValue value now).1 = t' at heffect
  cases heffect with
  | created h hend hcompleted =>
      rw [terminated_of_not_terminal hend, add_zero]
      exact weigh_registerResponseCreated value now h
  | released reason h hend hcompleted =>
      rw [unsolicited_of_not_created h, add_zero, terminated]
      cases hid : t.isCompleted (extractWsResponseId value) with
      | true => simp [releaseResponse, hid]
      | false =>
          rw [if_pos ⟨hend, rfl⟩, add_comm]
          exact weigh_releaseResponse value reason now hid
  | completed h hend hcompleted =>
      rw [unsolicited_of_not_created h, add_zero, terminated]
      cases hid : t.isCompleted (extractWsResponseId value) with
      | true => simp [completeResponse, hid]
      | false =>
          rw [if_pos ⟨hend, rfl⟩, add_comm]
          exact weigh_completeResponse value now hid
  | ignored h hend hcompleted =>
      rw [unsolicited_of_not_created h, terminated_of_not_terminal hend]

theorem weigh_observeUpstreamText (codec : SerdeJson) (text : String) (now : Nat) :
    weigh startOf t + (codec.fromStr text).elim 0 (unsolicited t · now) =
      weigh startOf (t.observeUpstreamText codec text now).1 +
        (codec.fromStr text).elim 0 (terminated t) := by
  rw [observeUpstreamText]
  cases codec.fromStr text with
  | none => rfl
  | some value => exact weigh_observeUpstreamValue value now

theorem WellKeyed.displaced_take {original : WsTrackedResponse}
    {t' : WsLogicalResponseTracker} (h : WellKeyed t)
    (htake : TakeEffect t (some original, t')) : displaced startOf t' original = 0 := by
  rw [displaced, isCompleted]
  generalize hresult : (some original, t') = result at htake
  cases htake with
  | none => cases hresult
  | pending p =>
      obtain ⟨hfind, rfl⟩ := Prod.mk.inj hresult
      rw [h.pending original (List.mem_of_find?_eq_some hfind.symm)]
      rfl
  | active hlookup =>
      cases hresult
      obtain ⟨hkey, hfresh⟩ := h.active _ _ hlookup
      simp [hkey, WsLogicalResponseTracker.removeActive, hfresh, AList.lookup_erase]

theorem displaced_startOf_eq_zero_iff (tracked : WsTrackedResponse) :
    displaced startOf t tracked = 0 ↔ ∀ id, tracked.seed.responseId = some id →
      id ∉ t.completedResponseIds ∧ id ∉ t.activeByResponseId := by
  rw [displaced, isCompleted]
  cases tracked.seed.responseId with
  | none => simp
  | some id =>
      by_cases hcompleted : id ∈ t.completedResponseIds
      · simp [hcompleted, startOf]
      · cases hlookup : t.activeByResponseId.lookup id with
        | none => simp [hcompleted, hlookup, AList.lookup_eq_none.1 hlookup]
        | some other =>
            have hmem : id ∈ t.activeByResponseId := AList.lookup_isSome.1 (by simp [hlookup])
            simp [hcompleted, hlookup, startOf, hmem]

/-- The number of requests that are tracked. -/
def trackedCount (t : WsLogicalResponseTracker) : Nat :=
  t.pendingRequests.length + t.activeByResponseId.entries.length

theorem card_sum_startOf (requests : List WsTrackedResponse) :
    (requests.map startOf).sum.card = requests.length := by
  induction requests with
  | nil => rfl
  | cons tracked requests ih =>
      rw [List.map_cons, List.sum_cons, Multiset.card_add, ih, startOf,
        Multiset.card_singleton, List.length_cons, add_comm]

theorem card_weigh_startOf : (weigh startOf t).card = t.trackedCount := by
  have hactive : t.activeByResponseId.entries.map (startOf ·.2) =
      (t.activeByResponseId.entries.map (·.2)).map startOf := by
    rw [List.map_map]
    rfl
  rw [weigh, Multiset.card_add, hactive, card_sum_startOf, card_sum_startOf, List.length_map,
    trackedCount]

theorem weigh_of_not_hasUnfinishedRequests (h : t.hasUnfinishedRequests = false) :
    weigh startOf t = 0 := by
  simp only [hasUnfinishedRequests, Bool.or_eq_false_iff, Bool.not_eq_false',
    List.isEmpty_iff] at h
  simp [weigh, h.1, h.2]

end Weight

end WsLogicalResponseTracker

/-! ## Sessions -/

namespace WsSession

section Session

variable (codec : SerdeJson) (order : VisitOrder)

/-- The request that is sent again for a text of the upstream, and the session after it. -/
def replayFor (s : WsSession) (text : String) (replies : FailoverReplies) :
    Option (WsTrackedResponse × WsSession) :=
  (failoverErrorContext codec text).bind fun context => s.replay codec order text context replies

/-- The request that a text of the client makes, when it is admitted. -/
def requestOf (s : WsSession) (text : String) (admission : Admission) (now : Nat) :
    Option WsTrackedResponse :=
  match admission with
  | .refused => none
  | .admitted billingSession =>
    ((codec.fromStr text).bind (extractWsLogicalRequestSeed · now)).map fun seed =>
      ⟨seed, billingSession, s.pendingReplayRequestTexts ++ [text], false⟩

/-- The requests that begin with an input. -/
def begun (s : WsSession) (input : WsSessionInput) : Multiset Nat :=
  if s.ended then 0
  else
    match input with
    | .downstreamText text admission _ _ now =>
      (s.requestOf codec text admission now).elim 0 startOf
    | .upstreamText text replies _ now =>
      if (s.replayFor codec order text replies).isSome then 0
      else (codec.fromStr text).elim 0 (unsolicited s.tracker · now)
    | _ => 0

/-- The requests that get their terminal event with an input. -/
def finished (s : WsSession) (input : WsSessionInput) : Multiset Nat :=
  if s.ended then 0
  else
    match input with
    | .upstreamText text replies _ _ =>
      if (s.replayFor codec order text replies).isSome then 0
      else (codec.fromStr text).elim 0 (terminated s.tracker)
    | _ => 0

/-- The request that is sent again on a new connection. -/
def replayed (s : WsSession) (input : WsSessionInput) : Multiset Nat :=
  if s.ended then 0
  else
    match input with
    | .upstreamText text replies _ _ =>
      (s.replayFor codec order text replies).elim 0 (startOf ·.1)
    | _ => 0

def dropped (s : WsSession) (input : WsSessionInput) : Multiset Nat :=
  if s.ended then 0
  else
    match input with
    | .downstreamText text admission _ _ now =>
      (s.requestOf codec text admission now).elim 0 (displaced startOf s.tracker)
    | .upstreamText text replies _ _ =>
      (s.replayFor codec order text replies).elim 0 fun result =>
        displaced startOf (s.withoutOriginal codec order text) result.1
    | _ => 0

variable {codec order} {s s' : WsSession} {text : String} {replies : FailoverReplies}
  {retried : WsTrackedResponse}

/-! ### The request that is sent again -/

/-- What a request that is sent again does to a session. -/
structure ReplayEffect (codec : SerdeJson) (order : VisitOrder) (s : WsSession)
    (text : String) (retried : WsTrackedResponse) (s' : WsSession) : Prop where
  take : ∃ original, retried.seed = original.seed ∧
    TakeEffect s.tracker (some original, s.withoutOriginal codec order text)
  tracker : s'.tracker = (s.withoutOriginal codec order text).registerTrackedRequest retried
  connection : s'.connection = s.connection + 1

theorem takeEffect_originalRequest (codec : SerdeJson) (order : VisitOrder) (s : WsSession)
    (text : String) :
    TakeEffect s.tracker
      (s.originalRequest codec order text, s.withoutOriginal codec order text) := by
  rw [originalRequest, withoutOriginal]
  cases codec.fromStr text with
  | none =>
      simp only [latestUnstartedRequest_eq]
      exact takeEffect_takeLatestUnstartedRequest order s.tracker
  | some value =>
      simp only [findRetryableRequest_eq]
      exact takeEffect_takeRetryableRequest order s.tracker value

theorem seed_buildRetriedWsTrackedRequest {original : WsTrackedResponse}
    {context : UpstreamErrorContext} {retriedSession : Option (Option BillingSession)}
    (h : buildRetriedWsTrackedRequest codec original context retriedSession = some retried) :
    retried.seed = original.seed := by
  rw [buildRetriedWsTrackedRequest] at h
  split at h
  · cases h
  · split at h
    · cases h
    · split_ifs at h
      obtain ⟨billingSession, -, rfl⟩ := Option.map_eq_some_iff.1 h
      rfl

theorem replayEffect (h : s.replayFor codec order text replies = some (retried, s')) :
    ReplayEffect codec order s text retried s' := by
  obtain ⟨context, -, h⟩ := Option.bind_eq_some_iff.1 h
  rw [replay] at h
  split at h
  · rename_i original accountId horiginal haccount
    split at h
    · cases h
    · rename_i retried' hretried
      split_ifs at h
      obtain ⟨rfl, rfl⟩ := Prod.mk.inj (Option.some.inj h)
      refine ⟨⟨original, seed_buildRetriedWsTrackedRequest hretried, ?_⟩, rfl, rfl⟩
      rw [← horiginal]
      exact takeEffect_originalRequest codec order s text
  · cases h

theorem ReplayEffect.weigh_eq (h : ReplayEffect codec order s text retried s') :
    weigh startOf s.tracker =
      startOf retried + weigh startOf (s.withoutOriginal codec order text) := by
  obtain ⟨original, hseed, htake⟩ := h.take
  rw [htake.weigh_eq startOf, startOf, hseed]
  rfl

theorem ReplayEffect.displaced_eq_zero (h : ReplayEffect codec order s text retried s')
    (hkeyed : WellKeyed s.tracker) :
    displaced startOf (s.withoutOriginal codec order text) retried = 0 := by
  obtain ⟨original, hseed, htake⟩ := h.take
  have horiginal := hkeyed.displaced_take htake
  rw [displaced_startOf_eq_zero_iff] at horiginal ⊢
  rwa [hseed]

/-! ### One step -/

/-- What an input can do to a session. -/
inductive StepEffect (codec : SerdeJson) (order : VisitOrder) (s : WsSession) :
    WsSessionInput → WsSession → Prop
  | register {text : String} {admission : Admission} {downstreamOpen upstreamOpen : Bool}
      {now : Nat} {s' : WsSession} (hended : s.ended = false)
      (htracker : s'.tracker = (s.requestOf codec text admission now).elim s.tracker
        s.tracker.registerTrackedRequest)
      (hconnection : s'.connection = s.connection) :
      StepEffect codec order s
        (.downstreamText text admission downstreamOpen upstreamOpen now) s'
  | replay (text : String) (retried : WsTrackedResponse) {replies : FailoverReplies}
      {downstreamOpen : Bool} {now : Nat} {s' : WsSession} (hended : s.ended = false)
      (hreplay : s.replayFor codec order text replies = some (retried, s')) :
      StepEffect codec order s (.upstreamText text replies downstreamOpen now) s'
  | forward (text : String) (now : Nat) {replies : FailoverReplies} {downstreamOpen : Bool}
      {s' : WsSession} (hended : s.ended = false)
      (hreplay : s.replayFor codec order text replies = none)
      (htracker : s'.tracker = (s.forward codec text now).tracker)
      (hconnection : s'.connection = s.connection ∨
        s'.tracker.hasUnfinishedRequests = false) :
      StepEffect codec order s (.upstreamText text replies downstreamOpen now) s'
  | idle {input : WsSessionInput} {s' : WsSession} (htracker : s'.tracker = s.tracker)
      (hconnection : s'.connection = s.connection)
      (hbegun : s.begun codec order input = 0) (hfinished : s.finished codec order input = 0)
      (hdropped : s.dropped codec order input = 0) : StepEffect codec order s input s'

theorem registerText_effect (codec : SerdeJson) (s : WsSession) (text : String)
    (admission : Admission)
    (downstreamOpen upstreamOpen : Bool) (now : Nat) :
    (s.registerText codec text admission downstreamOpen upstreamOpen now).tracker =
        (s.requestOf codec text admission now).elim s.tracker
          s.tracker.registerTrackedRequest ∧
      (s.registerText codec text admission downstreamOpen upstreamOpen now).connection =
        s.connection := by
  simp only [registerText, requestOf]
  cases codec.fromStr text with
  | none => cases admission <;> exact ⟨rfl, rfl⟩
  | some value =>
      simp only [Option.bind_some]
      cases extractWsLogicalRequestSeed value now with
      | none => cases admission <;> exact ⟨rfl, rfl⟩
      | some seed => cases admission <;> exact ⟨rfl, rfl⟩

theorem rotate_effect (s : WsSession) (context : UpstreamErrorContext)
    (replies : FailoverReplies) :
    (s.rotate context replies).tracker = s.tracker ∧
      ((s.rotate context replies).connection = s.connection ∨
        s.tracker.hasUnfinishedRequests = false) := by
  rw [rotate]
  split_ifs with hunfinished
  · exact ⟨rfl, .inl rfl⟩
  · split
    · exact ⟨rfl, .inr (by simpa using hunfinished)⟩
    · exact ⟨rfl, .inl rfl⟩

theorem stepEffect_upstreamText (hended : s.ended = false) (text : String)
    (replies : FailoverReplies) (downstreamOpen : Bool) (now : Nat) :
    StepEffect codec order s (.upstreamText text replies downstreamOpen now)
      (s.upstreamText codec order text replies downstreamOpen now) := by
  simp only [upstreamText]
  split
  · exact .replay text _ hended ‹_›
  · rename_i hreplay
    split_ifs
    · exact .forward text now hended hreplay rfl (.inl rfl)
    · split
      · obtain ⟨htracker, hconnection⟩ := rotate_effect (s.forward codec text now) _ replies
        refine .forward text now hended hreplay htracker ?_
        rw [htracker]
        exact hconnection
      · exact .forward text now hended hreplay rfl (.inl rfl)

theorem stepEffect_step (codec : SerdeJson) (order : VisitOrder) (s : WsSession)
    (input : WsSessionInput) :
    StepEffect codec order s input (s.step codec order input) := by
  simp only [step]
  split_ifs with hended
  · exact .idle rfl rfl (by simp [begun, hended]) (by simp [finished, hended])
      (by simp [dropped, hended])
  · have hopen : s.ended = false := by simpa using hended
    cases input with
    | downstreamText text admission downstreamOpen upstreamOpen now =>
        obtain ⟨htracker, hconnection⟩ := registerText_effect codec s text
          admission downstreamOpen upstreamOpen now
        exact .register hopen htracker hconnection
    | upstreamText text replies downstreamOpen now =>
        exact stepEffect_upstreamText hopen text replies downstreamOpen now
    | _ =>
        exact .idle rfl rfl (by simp [begun]) (by simp [finished]) (by simp [dropped])

theorem wellKeyed_step (hkeyed : WellKeyed s.tracker) (input : WsSessionInput) :
    WellKeyed (s.step codec order input).tracker := by
  have heffect := stepEffect_step codec order s input
  generalize s.step codec order input = s' at heffect
  cases heffect with
  | register hended htracker hconnection =>
      rw [htracker]
      cases s.requestOf codec _ _ _ with
      | none => exact hkeyed
      | some tracked => exact hkeyed.registerTrackedRequest tracked
  | replay text retried hended hreplay =>
      have hreplayed := replayEffect hreplay
      obtain ⟨original, -, htake⟩ := hreplayed.take
      rw [hreplayed.tracker]
      exact (hkeyed.take htake).registerTrackedRequest _
  | forward text now hended hreplay htracker hconnection =>
      rw [htracker]
      have hobserved := hkeyed.observeUpstreamText codec text now
      exact ⟨hobserved.pending, hobserved.active⟩
  | idle htracker hconnection hbegun hfinished hdropped =>
      rw [htracker]
      exact hkeyed

/-- A request that begins is tracked, gets its terminal event, or is dropped. -/
theorem step_balance (codec : SerdeJson) (order : VisitOrder) (s : WsSession)
    (input : WsSessionInput) :
    weigh startOf s.tracker + s.begun codec order input =
      weigh startOf (s.step codec order input).tracker + s.finished codec order input +
        s.dropped codec order input := by
  have heffect := stepEffect_step codec order s input
  generalize s.step codec order input = s' at heffect
  cases heffect with
  | register hended htracker hconnection =>
      rw [htracker]
      simp only [begun, finished, dropped, hended, Bool.false_eq_true, if_false, add_zero]
      cases s.requestOf codec _ _ _ with
      | none => rfl
      | some tracked => exact (weigh_registerTrackedRequest s.tracker tracked).symm
  | replay text retried hended hreplay =>
      have hreplayed := replayEffect hreplay
      simp only [begun, finished, dropped, hended, hreplay, Bool.false_eq_true, if_false,
        Option.isSome_some, if_true, add_zero, Option.elim_some]
      rw [hreplayed.tracker, weigh_registerTrackedRequest, hreplayed.weigh_eq, add_comm]
  | forward text now hended hreplay htracker hconnection =>
      simp only [begun, finished, dropped, hended, hreplay, Bool.false_eq_true, if_false,
        Option.isSome_none, add_zero, Option.elim_none]
      rw [htracker]
      exact weigh_observeUpstreamText codec text now
  | idle htracker hconnection hbegun hfinished hdropped =>
      simp only [htracker, hbegun, hfinished, hdropped, add_zero]

/-! ### Conditions -/

/-- No request begins under an identifier that another one has or had. -/
def FreshlyNamed (codec : SerdeJson) (s : WsSession) (input : WsSessionInput) : Prop :=
  match input with
  | .downstreamText text admission _ _ now =>
    s.ended = false → ∀ tracked ∈ s.requestOf codec text admission now,
      ∀ id ∈ tracked.seed.responseId,
        id ∉ s.tracker.completedResponseIds ∧ id ∉ s.tracker.activeByResponseId
  | _ => True

instance (codec : SerdeJson) (s : WsSession) :
    ∀ input : WsSessionInput, Decidable (s.FreshlyNamed codec input)
  | .downstreamText .. => inferInstanceAs (Decidable (_ → ∀ tracked ∈ _, ∀ id ∈ _, _ ∧ _))
  | .downstreamOther _ | .downstreamClosed | .upstreamText .. | .upstreamOther _
  | .upstreamClosed => inferInstanceAs (Decidable True)

/-- A request that is sent again on a new connection is the only one that is tracked. -/
def ReplayedAlone (codec : SerdeJson) (order : VisitOrder) (s : WsSession)
    (input : WsSessionInput) : Prop :=
  match input with
  | .upstreamText text replies _ _ =>
    (s.replayFor codec order text replies).isSome → s.tracker.trackedCount = 1
  | _ => True

instance (codec : SerdeJson) (order : VisitOrder) (s : WsSession) :
    ∀ input : WsSessionInput, Decidable (s.ReplayedAlone codec order input)
  | .upstreamText .. => inferInstanceAs (Decidable (_ → _))
  | .downstreamText .. | .downstreamOther _ | .downstreamClosed | .upstreamOther _
  | .upstreamClosed => inferInstanceAs (Decidable True)

theorem dropped_eq_zero_iff (hkeyed : WellKeyed s.tracker) (input : WsSessionInput) :
    s.dropped codec order input = 0 ↔ s.FreshlyNamed codec input := by
  cases hended : s.ended with
  | true => cases input <;> simp [dropped, FreshlyNamed, hended]
  | false =>
      cases input with
      | downstreamText text admission downstreamOpen upstreamOpen now =>
          simp only [dropped, FreshlyNamed, hended, Bool.false_eq_true, if_false, forall_const]
          cases s.requestOf codec text admission now with
          | none => simp
          | some tracked => simpa using displaced_startOf_eq_zero_iff tracked
      | upstreamText text replies downstreamOpen now =>
          simp only [dropped, FreshlyNamed, hended, Bool.false_eq_true, if_false, iff_true]
          cases hreplay : s.replayFor codec order text replies with
          | none => rfl
          | some result => exact (replayEffect hreplay).displaced_eq_zero hkeyed
      | _ => simp [dropped, FreshlyNamed]

/-- When the connection is replaced, what is tracked after it is the request that was sent
again, and others only if it was not the only one. -/
theorem weigh_of_switch (hkeyed : WellKeyed s.tracker) (input : WsSessionInput)
    (hswitch : (s.step codec order input).connection ≠ s.connection) :
    ∃ stranded, weigh startOf (s.step codec order input).tracker =
        s.replayed codec order input + stranded ∧
      (stranded = 0 ↔ s.ReplayedAlone codec order input) := by
  have heffect := stepEffect_step codec order s input
  generalize s.step codec order input = s' at heffect hswitch
  cases heffect with
  | register hended htracker hconnection => exact absurd hconnection hswitch
  | replay text retried hended hreplay =>
      have hreplayed := replayEffect hreplay
      refine ⟨weigh startOf (s.withoutOriginal codec order text), ?_, ?_⟩
      · have hweigh := weigh_registerTrackedRequest (f := startOf)
          (s.withoutOriginal codec order text) retried
        rw [hreplayed.displaced_eq_zero hkeyed, add_zero] at hweigh
        rw [hreplayed.tracker, hweigh, add_comm]
        simp [replayed, hended, hreplay]
      · have hcard := congrArg Multiset.card hreplayed.weigh_eq
        rw [card_weigh_startOf, Multiset.card_add, startOf, Multiset.card_singleton] at hcard
        simp only [ReplayedAlone, hreplay, Option.isSome_some, forall_const, hcard]
        rw [← Multiset.card_eq_zero]
        omega
  | forward text now hended hreplay htracker hconnection =>
      have hunfinished := hconnection.resolve_left hswitch
      refine ⟨0, ?_, ?_⟩
      · rw [weigh_of_not_hasUnfinishedRequests hunfinished]
        simp [replayed, hended, hreplay]
      · simp [ReplayedAlone, hreplay]
  | idle htracker hconnection hbegun hfinished hdropped => exact absurd hconnection hswitch

/-! ### Runs -/

/-- The requests that have begun have ended, but for the one that the last input sends
again. -/
def NoneStranded (codec : SerdeJson) (order : VisitOrder) (accountId : Uuid)
    (inputs : List WsSessionInput) (input : WsSessionInput) : Prop :=
  Custody.collect (step codec order) (begun codec order) (new accountId) (inputs ++ [input]) =
    Custody.collect (step codec order) (finished codec order) (new accountId)
        (inputs ++ [input]) +
      (Machine.run (step codec order) (new accountId) inputs).replayed codec order input

/-- An input that replaces the connection strands no request if and only if the request that
it sends again is the only one that is tracked, and no request took the identifier of another
one before. -/
theorem noneStranded_iff (codec : SerdeJson) (order : VisitOrder) (accountId : Uuid)
    (inputs : List WsSessionInput) (input : WsSessionInput)
    (hswitch : (Machine.run (step codec order) (new accountId) (inputs ++ [input])).connection ≠
      (Machine.run (step codec order) (new accountId) inputs).connection) :
    NoneStranded codec order accountId inputs input ↔
      Machine.Along (step codec order) (FreshlyNamed codec) (new accountId)
          (inputs ++ [input]) ∧
        (Machine.run (step codec order) (new accountId) inputs).ReplayedAlone codec order
          input := by
  have hkeyed : WellKeyed (Machine.run (step codec order) (new accountId) inputs).tracker :=
    Machine.run_invariant (P := fun s : WsSession => WellKeyed s.tracker)
      (fun s input h => wellKeyed_step h input) wellKeyed_empty inputs
  have hdropped : Custody.collect (step codec order) (dropped codec order) (new accountId)
      (inputs ++ [input]) = 0 ↔
      Machine.Along (step codec order) (FreshlyNamed codec) (new accountId)
        (inputs ++ [input]) := by
    rw [Custody.collect_eq_zero_iff]
    exact Machine.along_congr (P := fun s : WsSession => WellKeyed s.tracker)
      (fun s input h => wellKeyed_step h input) (fun s input h => dropped_eq_zero_iff h input)
      wellKeyed_empty _
  have hbalance := Custody.balance (fun s input => step_balance codec order s input)
    (new accountId) (inputs ++ [input])
  have hstart : weigh startOf (new accountId).tracker = 0 := rfl
  simp only [Machine.run_append, Machine.run] at hswitch hbalance
  obtain ⟨stranded, hweigh, hstranded⟩ := weigh_of_switch hkeyed input hswitch
  rw [hstart, zero_add, hweigh] at hbalance
  rw [NoneStranded, hbalance, ← hdropped, ← hstranded]
  generalize Custody.collect (step codec order) (dropped codec order) (new accountId)
    (inputs ++ [input]) = lost
  have hsum : ∀ ended sent : Multiset Nat,
      sent + stranded + ended + lost = ended + sent ↔ lost = 0 ∧ stranded = 0 := by
    intro ended sent
    rw [show sent + stranded + ended + lost = ended + sent + (lost + stranded) by abel,
      add_eq_left, add_eq_zero]
  exact hsum _ _

end Session

/-! ## Two requests and an error -/

def createText : String := "\x7b\"type\":\"response.create\"\x7d"

def createdText : String :=
  "\x7b\"response\":\x7b\"id\":\"resp_1\"\x7d,\"type\":\"response.created\"\x7d"

def rateLimitedText : String :=
  "\x7b\"error\":\x7b\"code\":\"rate_limited\"\x7d,\"type\":\"error\"\x7d"

/-- The codec on three texts; only the error is printed. -/
def switchCodec : SerdeJson where
  fromSlice := (SerdeJson.ofTable [
    (createText, .obj [("type", .str "response.create")]),
    (createdText, .obj [("response", .obj [("id", .str "resp_1")]),
      ("type", .str "response.created")]),
    (rateLimitedText, .obj [("error", .obj [("code", .str "rate_limited")]),
      ("type", .str "error")])]).fromSlice
  toText _ := rateLimitedText

def insertionOrder : VisitOrder := ⟨AList.entries, fun _ => .refl _⟩

def createInput (now : Nat) : WsSessionInput :=
  .downstreamText createText (.admitted none) true true now

/-- An error without an identifier, and an account for a new connection. -/
def rateLimitedInput (now : Nat) : WsSessionInput :=
  .upstreamText rateLimitedText ⟨some ⟨"account-2"⟩, some none, true, none⟩ true now

/-- The one request that waits is sent again. -/
theorem noneStranded_of_one_request :
    NoneStranded switchCodec insertionOrder ⟨"account-1"⟩ [createInput 0]
      (rateLimitedInput 1) :=
  (noneStranded_iff switchCodec insertionOrder ⟨"account-1"⟩ [createInput 0]
    (rateLimitedInput 1) (by decide +kernel)).2 (by decide +kernel)

/-- A request that the upstream has begun to answer. -/
def startedInputs : List WsSessionInput :=
  [createInput 0, .upstreamText createdText ⟨none, none, false, none⟩ true 1, createInput 2]

/-- The second request is sent again on a new connection, and the first one, which was being
answered on the old connection, stays behind. -/
theorem not_noneStranded :
    ¬ ∀ (codec : SerdeJson) (order : VisitOrder) (accountId : Uuid)
      (inputs : List WsSessionInput) (input : WsSessionInput),
      (Machine.run (step codec order) (new accountId) (inputs ++ [input])).connection ≠
          (Machine.run (step codec order) (new accountId) inputs).connection →
        NoneStranded codec order accountId inputs input := by
  intro h
  have hcard := congrArg Multiset.card (h switchCodec insertionOrder ⟨"account-1"⟩
    startedInputs (rateLimitedInput 3) (by decide +kernel))
  revert hcard
  decide +kernel

end WsSession

end CodexPool
