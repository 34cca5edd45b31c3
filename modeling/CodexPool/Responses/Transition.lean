import CodexPool.Responses.Worker

/-!
# What a step does to a record

`RecordStep` lists everything that an input can do to the stored record of a
background response and to the phase of its worker. The invariants of the system
are proved over these cases.
-/

namespace CodexPool

open BackgroundRequestSnapshot (afterFrame lastFrameEnd)

/-! ## Values of responses -/

theorem status_setResponseStatus {response : Json} (h : response.isObject = true)
    (status : String) : (setResponseStatus response status).getStr "status" = some status := by
  unfold setResponseStatus Json.getStr
  rw [Json.get_insert_of_ne _ (by decide), Json.get_insert_self h]
  rfl

@[simp] theorem isObject_setResponseStatus (response : Json) (status : String) :
    (setResponseStatus response status).isObject = response.isObject := by
  simp [setResponseStatus]

@[simp] theorem isObject_setResponseTimestamp (response : Json) (key : String) (value : Int) :
    (setResponseTimestamp response key value).isObject = response.isObject := by
  simp [setResponseTimestamp]

theorem status_setResponseTimestamp (response : Json) {key : String} (h : "status" ≠ key)
    (value : Int) :
    (setResponseTimestamp response key value).getStr "status" = response.getStr "status" := by
  unfold setResponseTimestamp Json.getStr
  rw [Json.get_insert_of_ne _ h]

theorem status_buildResponseStub (requestBody : Json) (responseId status : String)
    (background : Bool) (createdAt : Int) (conversationId : Option String) (now : Int) :
    (buildResponseStub requestBody responseId status background createdAt conversationId
      now).getStr "status" = some status := by
  unfold buildResponseStub
  simp only
  split
  · rw [status_setResponseTimestamp _ (by decide), Json.getStr, Json.get_ofFields]
    rfl
  · rw [Json.getStr, Json.get_ofFields]
    rfl

theorem isObject_buildResponseStub (requestBody : Json) (responseId status : String)
    (background : Bool) (createdAt : Int) (conversationId : Option String) (now : Int) :
    (buildResponseStub requestBody responseId status background createdAt conversationId
      now).isObject = true := by
  unfold buildResponseStub
  simp only
  split
  · rw [isObject_setResponseTimestamp]
    rfl
  · rfl

namespace StoredResponseRecord

theorem status_withFailure (codec : SerdeJson) (r : StoredResponseRecord)
    (responseId : String) (requestBody : Json) (statusCode : Nat)
    (responseBody : Option Bytes) (conversationId : Option String) (clock : Clock) :
    (r.withFailure codec responseId requestBody statusCode responseBody conversationId
      clock).status = some "failed" := by
  unfold status withFailure buildFailedBackgroundResponse Json.getStr
  simp only
  rw [Json.get_insert_of_ne _ (by decide), Json.get_insert_of_ne _ (by decide)]
  exact status_buildResponseStub _ _ _ _ _ _ _

theorem isObject_withFailure (codec : SerdeJson) (r : StoredResponseRecord)
    (responseId : String) (requestBody : Json) (statusCode : Nat)
    (responseBody : Option Bytes) (conversationId : Option String) (clock : Clock) :
    (r.withFailure codec responseId requestBody statusCode responseBody conversationId
      clock).response.isObject = true := by
  unfold withFailure buildFailedBackgroundResponse
  simp only [Json.isObject_insert]
  exact isObject_buildResponseStub _ _ _ _ _ _ _

theorem status_markInProgress {r : StoredResponseRecord} (h : r.response.isObject = true)
    (clock : Clock) : (r.markInProgress clock).status = some "in_progress" := by
  unfold status markInProgress
  rw [status_setResponseTimestamp _ (by decide), status_setResponseStatus h]

theorem status_annotate (responseValue : Json) (background : Bool)
    (conversationId : Option String) :
    (annotate responseValue background conversationId).getStr "status" =
      responseValue.getStr "status" := by
  unfold annotate Json.getStr
  cases conversationId with
  | none => simp only [Json.get_insert_of_ne _ (show "status" ≠ "background" by decide)]
  | some id =>
      simp only [Json.get_insertNew_of_ne _ (show "status" ≠ "conversation" by decide),
        Json.get_insert_of_ne _ (show "status" ≠ "background" by decide)]

@[simp] theorem isObject_annotate (responseValue : Json) (background : Bool)
    (conversationId : Option String) :
    (annotate responseValue background conversationId).isObject =
      responseValue.isObject := by
  unfold annotate
  cases conversationId with
  | none => simp
  | some id => simp [Json.insertNew, apply_ite Json.isObject]

theorem expiresAt_of_accessible {r : StoredResponseRecord} {ownerKey : String}
    {clock : Clock} (h : r.accessible ownerKey clock = true) :
    ¬r.expiresAt ≤ clock.instant := by
  simp only [accessible, Bool.and_eq_true, decide_eq_true_eq] at h
  omega

section Cancel

variable (codec : SerdeJson) {r : StoredResponseRecord} (clock : Clock)

theorem cancel_of_terminal (h : isTerminalResponseStatus r.status = true) :
    r.cancel codec clock = { r with cancelled := true } := if_pos h

theorem cancel_of_not_terminal (h : isTerminalResponseStatus r.status = false) :
    r.cancel codec clock =
      { r with
        cancelled := true
        response := r.cancelledResponse clock
        streamState := r.streamState.map fun s =>
          (s.appendFrame codec (some "response.cancelled") (r.cancellationEvent clock)).1 } :=
  if_neg (by simp [h])

@[simp] theorem cancelled_cancel : (r.cancel codec clock).cancelled = true := by
  unfold cancel
  split <;> rfl

@[simp] theorem ownerKey_cancel : (r.cancel codec clock).ownerKey = r.ownerKey := by
  unfold cancel
  split <;> rfl

@[simp] theorem allowRetrieve_cancel :
    (r.cancel codec clock).allowRetrieve = r.allowRetrieve := by
  unfold cancel
  split <;> rfl

theorem streamState_cancel_none (h : r.streamState = none) :
    (r.cancel codec clock).streamState = none := by
  unfold cancel
  split
  · exact h
  · rw [h]
    rfl

theorem status_cancelledResponse (h : r.response.isObject = true) :
    (r.cancelledResponse clock).getStr "status" = some "cancelled" := by
  unfold cancelledResponse
  rw [status_setResponseTimestamp _ (by decide), status_setResponseStatus h]

theorem isObject_cancelledResponse :
    (r.cancelledResponse clock).isObject = r.response.isObject := by
  simp [cancelledResponse]

theorem type_cancellationEvent :
    (r.cancellationEvent clock).getStr "type" = some "response.cancelled" := by
  rw [cancellationEvent, Json.getStr, Json.get_ofFields]
  rfl

end Cancel

end StoredResponseRecord

namespace StoredResponseStream

variable (codec : SerdeJson) (stream : StoredResponseStream) (name : Option String)
  (value : Json)

theorem get_insert_sequenceNumber {k : String} (h : k ≠ "sequence_number") (n : Json) :
    (value.insert "sequence_number" n).getStr k = value.getStr k := by
  rw [Json.getStr, Json.get_insert_of_ne _ h, Json.getStr]

@[simp] theorem response_appendFrame :
    (stream.appendFrame codec name value).2.2.2 = value.get "response" :=
  Json.get_insert_of_ne _ (by decide) _

@[simp] theorem terminal_appendFrame :
    (stream.appendFrame codec name value).2.2.1 =
      isTerminalEventType (value.getStr "type") :=
  congrArg isTerminalEventType (get_insert_sequenceNumber value (by decide) _)

end StoredResponseStream

/-! ## Steps -/

/-- The points at which the worker gives up. -/
inductive FailsAt : WorkerPhase → WorkerEvent → Prop where
  | serialize : FailsAt .sending .serializeFailed
  | send : FailsAt .sending .sendFailed
  | body (status : Nat) (bytes : Option Bytes) : FailsAt (.awaitingBody status) (.body bytes)
  | read (buffer : Bytes) (saw : Bool) : FailsAt (.reading buffer saw) .readFailed
  | finish : FailsAt (.finishing false) .proceed

/-- The points at which the worker takes a frame off its buffer. -/
inductive Takes : WorkerPhase → Bytes → (saw last : Bool) → (frameEnd : Nat) → Prop where
  | next {buffer : Bytes} {saw : Bool} {frameEnd : Nat}
      (h : findSseFrameEnd buffer = some frameEnd) :
      Takes (.draining buffer saw) buffer saw false frameEnd
  | last {buffer : Bytes} {saw : Bool} {frameEnd : Nat}
      (h : lastFrameEnd buffer = some frameEnd) :
      Takes (.lastFrame buffer saw) buffer saw true frameEnd

section Cases

variable (codec : SerdeJson) (snapshot : BackgroundRequestSnapshot)

/-- The steps of the worker that leave the record as it is. -/
inductive Moves (r : StoredResponseRecord) :
    WorkerPhase → WorkerEvent → Clock → WorkerPhase → Prop where
  | idle (p e clock) : Moves r p e clock p
  | refused (clock) (hc : r.cancelled = true) : Moves r .starting .proceed clock .stopped
  | stream (clock) {status : Nat} (hs : snapshot.stream = true) :
      Moves r .sending (.responded status) clock (.reading [] false)
  | plain (clock) {status : Nat}
      (h : (isSuccess status && snapshot.stream) = false) :
      Moves r .sending (.responded status) clock (.awaitingBody status)
  | noBody (clock) {status : Nat} {bytes} (h : isSuccess status = true) :
      Moves r (.awaitingBody status) (.body bytes) clock .stopped
  | failed {p e} (clock) (hf : FailsAt p e) (hc : r.cancelled = true) :
      Moves r p e clock .stopped
  | chunk (buffer bytes saw clock) :
      Moves r (.reading buffer saw) (.chunk bytes) clock (.draining (buffer ++ bytes) saw)
  | ended (buffer saw clock) :
      Moves r (.reading buffer saw) .streamEnd clock (.lastFrame buffer saw)
  | drained (buffer saw clock) :
      Moves r (.draining buffer saw) .proceed clock (.reading buffer saw)
  | noFrame (buffer saw clock) :
      Moves r (.lastFrame buffer saw) .proceed clock (.finishing saw)
  | skipped {p buffer saw last frameEnd} (clock)
      (ht : Takes p buffer saw last frameEnd) :
      Moves r p .proceed clock (afterFrame (buffer.drop frameEnd) saw last)
  | stored (buffer saw last terminal response clock) (hc : r.cancelled = true) :
      Moves r (.storing buffer saw last terminal response) .proceed clock
        (afterFrame buffer saw last)
  | checked (buffer saw clock) :
      Moves r (.checkingStatus buffer saw) .proceed clock
        (.draining buffer (saw || (r.accessible snapshot.ownerKey clock &&
          r.allowRetrieve && isTerminalResponseStatus r.status)))
  | finished (clock) : Moves r (.finishing true) .proceed clock .stopped

def phaseOfEvent (rest : Bytes) (saw last : Bool) (eventValue : Json) : WorkerPhase :=
  match eventValue.get "response" with
  | some response =>
    .storing rest saw last (isTerminalEventType (eventValue.getStr "type")) response
  | none => afterFrame rest saw last

inductive RecordStep : WorkerPhase → StoredResponseRecord → BackgroundInput →
    WorkerPhase → StoredResponseRecord → Prop where
  | move {p p' r e clock} (h : Moves snapshot r p e clock p') :
      RecordStep p r (.worker e clock) p' r
  | other (p r ownerKey responseId clock) :
      RecordStep p r (.cancel ownerKey responseId clock) p r
  | cancel {p r ownerKey clock} (ha : r.accessible ownerKey clock = true)
      (hb : r.background = true) :
      RecordStep p r (.cancel ownerKey snapshot.responseId clock) p (r.cancel codec clock)
  | mark {r clock} (hc : r.cancelled = false) :
      RecordStep .starting r (.worker .proceed clock) .sending (r.markInProgress clock)
  | fail {p e r clock} (hf : FailsAt p e) (hc : r.cancelled = false) (statusCode : Nat)
      (responseBody : Option Bytes) :
      RecordStep p r (.worker e clock) .stopped
        (r.withFailure codec snapshot.responseId snapshot.body statusCode responseBody
          snapshot.conversationId clock)
  | result {r status bytes clock} (hs : isSuccess status = true)
      (hc : r.cancelled = false) (value : Json) :
      RecordStep (.awaitingBody status) r (.worker (.body bytes) clock) .stopped
        (r.withResult value snapshot.conversationId)
  | frame {p r clock buffer saw last frameEnd name value stream}
      (ht : Takes p buffer saw last frameEnd)
      (he : frameEvent codec snapshot.responseId (buffer.take frameEnd) =
        some (name, value))
      (ha : r.accessible snapshot.ownerKey clock = true)
      (hs : r.streamState = some stream) :
      RecordStep p r (.worker .proceed clock)
        (phaseOfEvent (buffer.drop frameEnd) saw last value)
        { r with streamState := some (stream.appendFrame codec name value).1 }
  | store {buffer saw last terminal response r clock} (hc : r.cancelled = false) :
      RecordStep (.storing buffer saw last terminal response) r (.worker .proceed clock)
        (afterFrame buffer saw last)
        (r.withSnapshot response snapshot.conversationId terminal)

variable {codec snapshot}

variable {w : World} {r : StoredResponseRecord}

theorem fail_recordStep {e : WorkerEvent}
    (hr : w.runtime.entries snapshot.responseId = some r) (hf : FailsAt w.phase e)
    (statusCode : Nat) (responseBody : Option Bytes) (clock : Clock) :
    ∃ r', (snapshot.fail codec w.runtime statusCode responseBody clock).runtime.entries
        snapshot.responseId = some r' ∧
      RecordStep codec snapshot w.phase r (.worker e clock)
        (snapshot.fail codec w.runtime statusCode responseBody clock).phase r' := by
  unfold BackgroundRequestSnapshot.fail BackgroundResponsesRuntime.applyBackgroundFailure
  cases hc : r.cancelled with
  | true =>
      simp only [hr, hc, if_true]
      exact ⟨r, rfl, .move (.failed clock hf hc)⟩
  | false =>
      simp only [hr, hc, Bool.false_eq_true, if_false]
      exact ⟨_, BackgroundResponsesRuntime.entries_store _ _ _, .fail hf hc _ _⟩

theorem takeFrame_recordStep {buffer : Bytes} {saw last : Bool} {frameEnd : Nat}
    (hr : w.runtime.entries snapshot.responseId = some r)
    (ht : Takes w.phase buffer saw last frameEnd) (clock : Clock) :
    ∃ r', (snapshot.takeFrame codec w.runtime buffer frameEnd saw last
        clock).runtime.entries snapshot.responseId = some r' ∧
      RecordStep codec snapshot w.phase r (.worker .proceed clock)
        (snapshot.takeFrame codec w.runtime buffer frameEnd saw last clock).phase r' := by
  unfold BackgroundRequestSnapshot.takeFrame
    BackgroundResponsesRuntime.appendBackgroundStreamFrame
  have hskip : RecordStep codec snapshot w.phase r (.worker .proceed clock)
      (afterFrame (buffer.drop frameEnd) saw last) r := .move (.skipped clock ht)
  cases he : frameEvent codec snapshot.responseId (buffer.take frameEnd) with
  | none => exact ⟨r, hr, hskip⟩
  | some event =>
      obtain ⟨name, value⟩ := event
      cases ha : r.accessible snapshot.ownerKey clock with
      | false =>
          simp only [hr, ha, Bool.not_false, if_true]
          exact ⟨r, rfl, hskip⟩
      | true =>
          cases hs : r.streamState with
          | none =>
              simp only [hr, ha, hs, Bool.not_true, Bool.false_eq_true, if_false]
              exact ⟨r, rfl, hskip⟩
          | some stream =>
              have hstep := RecordStep.frame ht he ha hs
              simp only [hr, ha, hs, Bool.not_true, Bool.false_eq_true, if_false]
              unfold phaseOfEvent at hstep
              rw [StoredResponseStream.response_appendFrame,
                StoredResponseStream.terminal_appendFrame]
              cases hresp : value.get "response" with
              | none =>
                  rw [hresp] at hstep
                  exact ⟨_, BackgroundResponsesRuntime.entries_store _ _ _, hstep⟩
              | some response =>
                  rw [hresp] at hstep
                  exact ⟨_, BackgroundResponsesRuntime.entries_store _ _ _, hstep⟩

theorem takeBody_recordStep {status : Nat} (hr : w.runtime.entries snapshot.responseId = some r)
    (hp : w.phase = .awaitingBody status) (bytes : Option Bytes) (clock : Clock) :
    ∃ r', (snapshot.takeBody codec w.runtime status bytes clock).runtime.entries
        snapshot.responseId = some r' ∧
      RecordStep codec snapshot w.phase r (.worker (.body bytes) clock)
        (snapshot.takeBody codec w.runtime status bytes clock).phase r' := by
  have hf : FailsAt w.phase (.body bytes) := hp ▸ .body status bytes
  unfold BackgroundRequestSnapshot.takeBody
  split
  · rename_i hs
    have hstop : RecordStep codec snapshot w.phase r (.worker (.body bytes) clock)
        .stopped r := .move (hp ▸ .noBody clock hs)
    split
    · exact ⟨r, hr, hstop⟩
    · split
      · unfold BackgroundResponsesRuntime.applyBackgroundResult
        cases hc : r.cancelled with
        | true =>
            simp only [hr, hc, if_true]
            exact ⟨r, rfl, hstop⟩
        | false =>
            simp only [hr, hc, Bool.false_eq_true, if_false]
            refine ⟨_, BackgroundResponsesRuntime.entries_storeConversation _ _ _ ▸
              BackgroundResponsesRuntime.entries_store _ _ _, ?_⟩
            rw [hp]
            exact .result hs hc _
      · exact fail_recordStep hr hf _ _ clock
  · exact fail_recordStep hr hf _ _ clock

theorem workerStep_recordStep
    (hr : w.runtime.entries snapshot.responseId = some r) (e : WorkerEvent) (clock : Clock) :
    ∃ r', (snapshot.workerStep codec w e clock).runtime.entries snapshot.responseId =
        some r' ∧
      RecordStep codec snapshot w.phase r (.worker e clock)
        (snapshot.workerStep codec w e clock).phase r' := by
  unfold BackgroundRequestSnapshot.workerStep
  simp only
  split
  · rename_i hp
    unfold BackgroundResponsesRuntime.markBackgroundInProgress
    cases hc : r.cancelled with
    | true =>
        simp only [hr, hc, if_true]
        exact ⟨r, rfl, .move (hp ▸ .refused clock hc)⟩
    | false =>
        simp only [hr, hc, Bool.false_eq_true, if_false]
        exact ⟨_, BackgroundResponsesRuntime.entries_store _ _ _, hp ▸ .mark hc⟩
  · rename_i hp
    exact fail_recordStep hr (hp ▸ .serialize) _ _ clock
  · rename_i hp
    exact fail_recordStep hr (hp ▸ .send) _ _ clock
  · rename_i status hp
    split
    · rename_i hs
      exact ⟨r, hr, .move (hp ▸ .stream clock (Bool.and_eq_true_iff.1 hs).2)⟩
    · rename_i hs
      exact ⟨r, hr, .move (hp ▸ .plain clock (Bool.not_eq_true _ ▸ hs))⟩
  · rename_i status bytes hp
    exact takeBody_recordStep hr hp bytes clock
  · rename_i buffer saw bytes hp
    exact ⟨r, hr, .move (hp ▸ .chunk buffer bytes saw clock)⟩
  · rename_i buffer saw hp
    exact fail_recordStep hr (hp ▸ .read buffer saw) _ _ clock
  · rename_i buffer saw hp
    exact ⟨r, hr, .move (hp ▸ .ended buffer saw clock)⟩
  · rename_i buffer saw hp
    split
    · rename_i frameEnd he
      exact takeFrame_recordStep hr (hp ▸ .next he) clock
    · exact ⟨r, hr, .move (hp ▸ .drained buffer saw clock)⟩
  · rename_i buffer saw hp
    split
    · rename_i frameEnd he
      exact takeFrame_recordStep hr (hp ▸ .last he) clock
    · exact ⟨r, hr, .move (hp ▸ .noFrame buffer saw clock)⟩
  · rename_i buffer saw last terminal response hp
    unfold BackgroundResponsesRuntime.applyBackgroundResponseSnapshot
    cases hc : r.cancelled with
    | true =>
        simp only [hr, hc, if_true]
        exact ⟨r, rfl, .move (hp ▸ .stored buffer saw last terminal response clock hc)⟩
    | false =>
        simp only [hr, hc, Bool.false_eq_true, if_false]
        refine ⟨r.withSnapshot response snapshot.conversationId terminal, ?_, ?_⟩
        · split <;> simp
        · rw [hp]
          exact .store hc
  · rename_i buffer saw hp
    have hstatus : isTerminalResponseStatus ((w.runtime.lookupResponse snapshot.ownerKey
        snapshot.responseId clock).bind (·.getStr "status")) =
        (r.accessible snapshot.ownerKey clock && r.allowRetrieve &&
          isTerminalResponseStatus r.status) := by
      unfold BackgroundResponsesRuntime.lookupResponse
      rw [hr]
      cases ha : r.accessible snapshot.ownerKey clock <;>
        cases hret : r.allowRetrieve <;> simp [ha, hret] <;> rfl
    rw [hstatus, hp]
    exact ⟨r, hr, .move (.checked buffer saw clock)⟩
  · rename_i saw hp
    split
    · rename_i hsaw
      exact ⟨r, hr, .move (hp ▸ hsaw ▸ .finished clock)⟩
    · rename_i hsaw
      have hsaw : saw = false := Bool.not_eq_true _ ▸ hsaw
      exact fail_recordStep hr (hp ▸ hsaw ▸ .finish) _ _ clock
  · exact ⟨r, hr, .move (.idle _ _ _)⟩

/-- Every input does one of the listed steps to a stored record. -/
theorem backgroundStep_recordStep
    (hr : w.runtime.entries snapshot.responseId = some r) (i : BackgroundInput) :
    ∃ r', (backgroundStep codec snapshot w i).runtime.entries snapshot.responseId =
        some r' ∧
      RecordStep codec snapshot w.phase r i (backgroundStep codec snapshot w i).phase r' := by
  cases i with
  | worker e clock => exact workerStep_recordStep hr e clock
  | cancel ownerKey responseId clock =>
      unfold backgroundStep BackgroundResponsesRuntime.cancelResponse
      by_cases hid : responseId = snapshot.responseId
      · subst hid
        simp only [hr]
        cases ha : r.accessible ownerKey clock with
        | false => exact ⟨r, hr, .other _ _ _ _ _⟩
        | true =>
            cases hb : r.background with
            | false => exact ⟨r, hr, .other _ _ _ _ _⟩
            | true =>
                exact ⟨_, BackgroundResponsesRuntime.entries_store _ _ _, .cancel ha hb⟩
      · refine ⟨r, ?_, .other _ _ _ _ _⟩
        simp only
        split
        · exact hr
        · split
          · exact hr
          · split
            · exact hr
            · simp only
              rw [BackgroundResponsesRuntime.entries_store_of_ne _ (Ne.symm hid), hr]

end Cases

end CodexPool
