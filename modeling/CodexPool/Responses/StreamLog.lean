import CodexPool.Responses.Finality

/-!
# The log of a background stream

The events of a log are always numbered from 1. That the log ends with its only
terminal event, and that a finished response has one, holds in runs that keep
clear of three gaps: a frame is appended whether or not the log has ended, a
failure sets the status without an event, and a cancellation may come between
the event of a frame and the response that it carries.
-/

namespace CodexPool

open BackgroundRequestSnapshot (afterFrame lastFrameEnd)

def StoredStreamEvent.isTerminal (e : StoredStreamEvent) : Bool :=
  isTerminalEventType (e.value.getStr "type")

namespace StoredResponseStream

structure Numbered (s : StoredResponseStream) : Prop where
  numbers : s.events.map (·.sequenceNumber) = List.range' 1 s.events.length
  next : s.nextSequenceNumber = s.events.length + 1

/-- No event before the last one is terminal, and the flag tells whether there is
a terminal event. -/
structure Closed (s : StoredResponseStream) : Prop where
  dropLast : ∀ e ∈ s.events.dropLast, e.isTerminal = false
  terminal_iff : s.terminal = true ↔ ∃ e ∈ s.events, e.isTerminal = true

theorem numbered_new : new.Numbered := ⟨rfl, rfl⟩

theorem closed_new : new.Closed := ⟨by simp [new], by simp [new]⟩

section Append

variable (codec : SerdeJson) {s : StoredResponseStream} (name : Option String)
  (value : Json)

theorem fst_appendFrame_terminal :
    (s.appendFrame codec name value).1.terminal =
      (s.terminal || isTerminalEventType (value.getStr "type")) :=
  congrArg (s.terminal || ·) (terminal_appendFrame codec s name value)

theorem Numbered.appendFrame (h : s.Numbered) :
    (s.appendFrame codec name value).1.Numbered := by
  constructor
  · simp [StoredResponseStream.appendFrame, h.numbers, h.next, List.range'_concat,
      Nat.add_comm]
  · simp [StoredResponseStream.appendFrame, h.next]

/-- An event may follow a log that has not ended. -/
theorem Closed.appendFrame (h : s.Closed) (ht : s.terminal = false) :
    (s.appendFrame codec name value).1.Closed := by
  have hnone : ∀ e ∈ s.events, e.isTerminal = false := by
    intro e he
    by_contra hne
    have := h.terminal_iff.2 ⟨e, he, Bool.not_eq_false _ ▸ hne⟩
    rw [ht] at this
    cases this
  obtain ⟨event, hevents, hterm⟩ : ∃ event : StoredStreamEvent,
      (s.appendFrame codec name value).1.events = s.events ++ [event] ∧
        event.isTerminal = isTerminalEventType (value.getStr "type") :=
    ⟨_, rfl, congrArg isTerminalEventType (get_insert_sequenceNumber value (by decide) _)⟩
  constructor
  · rw [hevents, List.dropLast_concat]
    exact hnone
  · rw [hevents, fst_appendFrame_terminal, ht, Bool.false_or, ← hterm]
    constructor
    · exact fun he => ⟨event, by simp, he⟩
    · rintro ⟨e, he, het⟩
      rcases List.mem_append.1 he with he | he
      · rw [hnone e he] at het
        cases het
      · rwa [List.mem_singleton.1 he] at het

end Append

end StoredResponseStream

section Condition

variable (codec : SerdeJson) (req : BackgroundRequest)

/-- A frame that is appended follows no terminal event. A response that it
carries is an object, with a terminal status only when the event is terminal. -/
def frameInOrder (r : StoredResponseRecord) (clock : Clock) (frame : Bytes) : Bool :=
  match r.streamState, frameEvent codec req.responseId frame with
  | some stream, some (_, value) =>
    r.expiresAt ≤ clock.instant || (!stream.terminal &&
      match value.get "response" with
      | some response =>
        response.isObject && (!isTerminalResponseStatus (response.getStr "status") ||
          isTerminalEventType (value.getStr "type"))
      | none => true)
  | _, _ => true

/-- The log has ended, or nothing is logged. -/
def StoredResponseRecord.ended (r : StoredResponseRecord) : Bool :=
  r.streamState.all (·.terminal)

def logInOrder (r : StoredResponseRecord) (clock : Clock) :
    WorkerPhase → WorkerEvent → Bool
  | .sending, .serializeFailed | .sending, .sendFailed | .awaitingBody _, .body _
  | .reading _ _, .readFailed | .finishing false, .proceed => r.cancelled || r.ended
  | .draining buffer _, .proceed =>
    match findSseFrameEnd buffer with
    | some frameEnd => frameInOrder codec req r clock (buffer.take frameEnd)
    | none => true
  | .lastFrame buffer _, .proceed =>
    match lastFrameEnd buffer with
    | some frameEnd => frameInOrder codec req r clock (buffer.take frameEnd)
    | none => true
  | _, _ => true

/-- The response is not cancelled while its log has ended and its status is not
terminal yet. -/
def cancelInOrder (r : StoredResponseRecord) : Bool :=
  isTerminalResponseStatus r.status || r.streamState.all (!·.terminal)

/-- The condition on an input in the state in which it arrives. -/
def LogInOrder (w : World) : BackgroundInput → Prop
  | .worker event clock =>
    ∀ r ∈ req.record w, logInOrder codec req r clock w.phase event = true
  | .cancel ownerKey responseId clock =>
    ∀ r ∈ req.record w, responseId = req.responseId →
      r.accessible ownerKey clock = true → cancelInOrder r = true

instance : ∀ (w : World) (i : BackgroundInput), Decidable (LogInOrder codec req w i)
  | w, .worker event clock =>
    inferInstanceAs
      (Decidable (∀ r ∈ req.record w, logInOrder codec req r clock w.phase event = true))
  | w, .cancel ownerKey responseId clock =>
    inferInstanceAs (Decidable (∀ r ∈ req.record w, responseId = req.responseId →
      r.accessible ownerKey clock = true → cancelInOrder r = true))

end Condition

def LogAt (r : StoredResponseRecord) (s : StoredResponseStream) : WorkerPhase → Prop
  | .awaitingBody status => isSuccess status = false
  | .reading _ saw | .draining _ saw | .lastFrame _ saw | .checkingStatus _ saw
  | .finishing saw => saw = true → isTerminalResponseStatus r.status = true
  | .storing _ saw _ _ response =>
    saw = false ∧ response.isObject = true ∧
      (isTerminalResponseStatus (response.getStr "status") = true → s.terminal = true)
  | .starting | .sending | .stopped => True

structure LogInvariant (req : BackgroundRequest) (p : WorkerPhase)
    (r : StoredResponseRecord) (s : StoredResponseStream) : Prop where
  requested : req.requestedStream = true
  object : r.response.isObject = true
  closed : s.Closed
  terminal_of_status : isTerminalResponseStatus r.status = true → s.terminal = true
  status_terminal : p = .stopped ∨ r.cancelled = true →
    isTerminalResponseStatus r.status = true
  logAt : LogAt r s p

variable {codec : SerdeJson} {req : BackgroundRequest} {p p' : WorkerPhase}
  {r r' : StoredResponseRecord} {s : StoredResponseStream}

theorem LogInvariant.move (h : LogInvariant req p r s) (hat : LogAt r s p')
    (hstop : p' = .stopped → isTerminalResponseStatus r.status = true ∨ r.cancelled = true) :
    LogInvariant req p' r s := by
  refine ⟨h.requested, h.object, h.closed, h.terminal_of_status, ?_, hat⟩
  rintro (hp | hc)
  · exact (hstop hp).elim id fun hc => h.status_terminal (.inr hc)
  · exact h.status_terminal (.inr hc)

theorem Moves.logInvariant {e : WorkerEvent} {clock : Clock}
    (h : Moves req.snapshot r p e clock p') (hinv : LogInvariant req p r s) :
    LogInvariant req p' r s := by
  have hat := hinv.logAt
  cases h with
  | idle => exact hinv
  | refused _ hc => exact hinv.move trivial fun _ => .inr hc
  | stream => exact hinv.move (fun h => by cases h) fun h => by cases h
  | @plain _ status h =>
      have hs : isSuccess status = false := by
        have hreq : req.snapshot.stream = true := hinv.requested
        simpa [hreq] using h
      exact hinv.move hs fun h => by cases h
  | noBody _ hs =>
      rw [show isSuccess _ = false from hat] at hs
      cases hs
  | failed _ _ hc => exact hinv.move trivial fun _ => .inr hc
  | chunk | ended | drained | noFrame => exact hinv.move hat fun h => by cases h
  | skipped _ ht =>
      cases ht with
      | next => exact hinv.move hat fun h => by cases h
      | last => exact hinv.move hat fun h => by cases h
  | stored _ _ last =>
      obtain ⟨rfl, -⟩ := hat
      cases last with
      | false => exact hinv.move (fun h => by cases h) fun h => by cases h
      | true => exact hinv.move (fun h => by cases h) fun h => by cases h
  | checked _ saw =>
      refine hinv.move (fun h => ?_) fun h => by cases h
      rcases Bool.or_eq_true_iff.1 h with hsaw | hterm
      · exact hat hsaw
      · exact (Bool.and_eq_true_iff.1 hterm).2
  | finished => exact hinv.move trivial fun _ => .inl (hat rfl)

/-- A cancellation sets a terminal status and ends the log, unless both were so
before. -/
theorem LogInvariant.cancel (h : LogInvariant req p r s) (hs : r.streamState = some s)
    (hok : cancelInOrder r = true) (clock : Clock) {s' : StoredResponseStream}
    (hs' : (r.cancel codec clock).streamState = some s') :
    LogInvariant req p (r.cancel codec clock) s' := by
  cases ht : isTerminalResponseStatus r.status with
  | true =>
      rw [StoredResponseRecord.cancel_of_terminal codec _ ht] at hs' ⊢
      obtain rfl := Option.some.inj (hs.symm.trans hs')
      exact ⟨h.requested, h.object, h.closed, h.terminal_of_status, fun _ => ht, h.logAt⟩
  | false =>
      have hopen : s.terminal = false := by
        simpa [cancelInOrder, ht, hs] using hok
      rw [StoredResponseRecord.cancel_of_not_terminal codec _ ht] at hs' ⊢
      simp only [hs, Option.map_some] at hs' ⊢
      obtain rfl := Option.some.inj hs'
      have hstatus : isTerminalResponseStatus
          ((r.cancelledResponse clock).getStr "status") = true := by
        rw [StoredResponseRecord.status_cancelledResponse clock h.object]
        rfl
      have hend : (s.appendFrame codec (some "response.cancelled")
          (r.cancellationEvent clock)).1.terminal = true := by
        rw [StoredResponseStream.fst_appendFrame_terminal,
          StoredResponseRecord.type_cancellationEvent, hopen]
        rfl
      refine ⟨h.requested, ?_, h.closed.appendFrame _ _ _ hopen, fun _ => hend,
        fun _ => hstatus, ?_⟩
      · rw [StoredResponseRecord.isObject_cancelledResponse, h.object]
      · have hat := h.logAt
        cases p with
        | storing => exact ⟨hat.1, hat.2.1, fun _ => hend⟩
        | reading | draining | lastFrame | checkingStatus | finishing =>
            exact fun _ => hstatus
        | awaitingBody => exact hat
        | starting | sending | stopped => trivial

theorem logInOrder_of_takes {clock : Clock} {buffer : Bytes} {saw last : Bool}
    {frameEnd : Nat} (ht : Takes p buffer saw last frameEnd)
    (hok : logInOrder codec req r clock p .proceed = true) :
    frameInOrder codec req r clock (buffer.take frameEnd) = true := by
  cases ht with
  | next h => simpa [logInOrder, h] using hok
  | last h => simpa [logInOrder, h] using hok

theorem logInOrder_of_failsAt {clock : Clock} {e : WorkerEvent} (hf : FailsAt p e)
    (hc : r.cancelled = false) (hok : logInOrder codec req r clock p e = true) :
    r.ended = true := by
  cases hf <;> simpa [logInOrder, hc] using hok

/-- A frame that follows no terminal event keeps the log closed. -/
theorem LogInvariant.frame {clock : Clock} {buffer : Bytes} {saw last : Bool}
    {frameEnd : Nat} {name : Option String} {value : Json}
    (h : LogInvariant req p r s) (hs : r.streamState = some s)
    (ht : Takes p buffer saw last frameEnd)
    (he : frameEvent codec req.responseId (buffer.take frameEnd) = some (name, value))
    (ha : ¬r.expiresAt ≤ clock.instant)
    (hok : frameInOrder codec req r clock (buffer.take frameEnd) = true) :
    LogInvariant req (phaseOfEvent (buffer.drop frameEnd) saw last value)
      { r with streamState := some (s.appendFrame codec name value).1 }
      (s.appendFrame codec name value).1 := by
  simp only [frameInOrder, hs, he, ha, decide_false, Bool.false_or, Bool.and_eq_true,
    Bool.not_eq_true'] at hok
  obtain ⟨hopen, hresp⟩ := hok
  have hstatus : isTerminalResponseStatus r.status = false := by
    by_contra hne
    have := h.terminal_of_status (Bool.not_eq_false _ ▸ hne)
    rw [hopen] at this
    cases this
  -- the worker has not seen a terminal status: there is none
  have hsaw : saw = false := by
    by_contra hne
    have hlog : saw = true → isTerminalResponseStatus r.status = true := by
      have hat := h.logAt
      cases ht with
      | next => exact hat
      | last => exact hat
    rw [hlog (Bool.not_eq_false _ ▸ hne)] at hstatus
    cases hstatus
  have hterm : isTerminalEventType (value.getStr "type") = true →
      (s.appendFrame codec name value).1.terminal = true := by
    intro hv
    rw [StoredResponseStream.fst_appendFrame_terminal, hv, Bool.or_true]
  refine ⟨h.requested, h.object, h.closed.appendFrame codec name value hopen, ?_, ?_, ?_⟩
  · intro hst
    rw [show isTerminalResponseStatus r.status = true from hst] at hstatus
    cases hstatus
  · rintro (hp | hc)
    · unfold phaseOfEvent at hp
      split at hp
      · cases hp
      · cases last <;> cases hp
    · exact h.status_terminal (.inr hc)
  · subst hsaw
    unfold phaseOfEvent
    cases hv : value.get "response" with
    | none => cases last <;> exact fun hf => by cases hf
    | some response =>
        simp only [hv, Bool.and_eq_true, Bool.or_eq_true, Bool.not_eq_true'] at hresp
        refine ⟨rfl, hresp.1, fun hst => hterm (hresp.2.resolve_left ?_)⟩
        simp [hst]

theorem LogInvariant.store {buffer : Bytes} {saw last terminal : Bool} {response : Json}
    (h : LogInvariant req (.storing buffer saw last terminal response) r s)
    (hc : r.cancelled = false) :
    LogInvariant req (afterFrame buffer saw last)
      (r.withSnapshot response req.conversationId terminal) s := by
  obtain ⟨rfl, hobj, hterm⟩ := h.logAt
  have hstatus : (r.withSnapshot response req.conversationId terminal).status =
      response.getStr "status" := StoredResponseRecord.status_annotate _ _ _
  refine ⟨h.requested, ?_, h.closed, ?_, ?_, ?_⟩
  · exact (StoredResponseRecord.isObject_annotate _ _ _).trans hobj
  · rw [hstatus]
    exact hterm
  · rintro (hp | hc')
    · cases last <;> cases hp
    · rw [show r.cancelled = true from hc'] at hc
      cases hc
  · cases last <;> exact fun hf => by cases hf

theorem LogInvariant.mark (h : LogInvariant req .starting r s) (hc : r.cancelled = false)
    (clock : Clock) : LogInvariant req .sending (r.markInProgress clock) s := by
  have hstatus := StoredResponseRecord.status_markInProgress h.object clock
  refine ⟨h.requested, ?_, h.closed, ?_, ?_, trivial⟩
  · exact (isObject_setResponseTimestamp _ _ _).trans
      ((isObject_setResponseStatus _ _).trans h.object)
  · rw [hstatus]
    exact fun hf => absurd hf (by decide)
  · rintro (hp | hc')
    · cases hp
    · rw [show r.cancelled = true from hc'] at hc
      cases hc

theorem LogInvariant.fail (h : LogInvariant req p r s) (hs : r.streamState = some s)
    (hended : r.ended = true) (statusCode : Nat) (responseBody : Option Bytes)
    (clock : Clock) :
    LogInvariant req .stopped (r.withFailure codec req.responseId req.requestValue statusCode
      responseBody req.conversationId clock) s := by
  have hterm : s.terminal = true := by
    simpa [StoredResponseRecord.ended, hs] using hended
  refine ⟨h.requested, ?_, h.closed, fun _ => hterm, fun _ => ?_, trivial⟩
  · exact StoredResponseRecord.isObject_withFailure _ _ _ _ _ _ _ _
  · rw [StoredResponseRecord.status_withFailure]
    rfl

/-- The log after an input that meets the condition. -/
theorem RecordStep.logInvariant {i : BackgroundInput}
    (h : RecordStep codec req.snapshot p r i p' r')
    (hinv : ∀ s, r.streamState = some s → LogInvariant req p r s)
    (hworker : ∀ event clock, i = .worker event clock →
      logInOrder codec req r clock p event = true)
    (hcancel : ∀ ownerKey clock, i = .cancel ownerKey req.responseId clock →
      r.accessible ownerKey clock = true → cancelInOrder r = true)
    (s' : StoredResponseStream) (hs' : r'.streamState = some s') :
    LogInvariant req p' r' s' := by
  cases h with
  | move hm => exact hm.logInvariant (hinv s' hs')
  | other => exact hinv s' hs'
  | cancel ha =>
      cases hs : r.streamState with
      | none =>
          rw [StoredResponseRecord.streamState_cancel_none codec _ hs] at hs'
          cases hs'
      | some s => exact (hinv s hs).cancel hs (hcancel _ _ rfl ha) _ hs'
  | mark hc => exact (hinv s' hs').mark hc _
  | fail hf hc =>
      have hended := logInOrder_of_failsAt hf hc (hworker _ _ rfl)
      exact (hinv s' hs').fail hs' hended _ _ _
  | result hs hc =>
      have hat := (hinv s' hs').logAt
      rw [show isSuccess _ = false from hat] at hs
      cases hs
  | frame ht he ha hs =>
      obtain rfl := Option.some.inj hs'
      exact (hinv _ hs).frame hs ht he (StoredResponseRecord.expiresAt_of_accessible ha)
        (logInOrder_of_takes ht (hworker _ _ rfl))
  | store hc => exact (hinv s' hs').store hc

theorem RecordStep.numbered {i : BackgroundInput}
    (h : RecordStep codec req.snapshot p r i p' r')
    (hinv : ∀ s, r.streamState = some s → s.Numbered) (s' : StoredResponseStream)
    (hs' : r'.streamState = some s') : s'.Numbered := by
  cases h with
  | move | other | mark | fail | result | store => exact hinv s' hs'
  | cancel =>
      unfold StoredResponseRecord.cancel at hs'
      split at hs'
      · exact hinv s' hs'
      · obtain ⟨s, hs, rfl⟩ := Option.map_eq_some_iff.1 hs'
        exact (hinv s hs).appendFrame _ _ _
  | frame _ _ _ hs =>
      obtain rfl := Option.some.inj hs'
      exact (hinv _ hs).appendFrame _ _ _

/-! ## Runs -/

/-- The stored log has a property, when there is one. -/
def Logged (req : BackgroundRequest)
    (P : WorkerPhase → StoredResponseRecord → StoredResponseStream → Prop)
    (w : World) : Prop :=
  ∃ r, req.record w = some r ∧ ∀ s, r.streamState = some s → P w.phase r s

theorem requestedStream_of_requestValue (req : BackgroundRequest)
    (h : ((req.requestValue.get "stream").bind Json.asBool).getD false = true) :
    req.requestedStream = true := by
  by_contra hne
  unfold BackgroundRequest.requestValue at h
  rw [if_neg hne] at h
  cases hb : req.body with
  | obj fs =>
      rw [hb, Json.get_insert_self rfl] at h
      cases h
  | _ =>
      rw [hb] at h
      cases h

theorem spawn_logged (req : BackgroundRequest) (rt : BackgroundResponsesRuntime)
    (clock : Clock) :
    Logged req (fun p r s => s.Numbered ∧ LogInvariant req p r s) (req.spawn rt clock) := by
  refine ⟨_, BackgroundResponsesRuntime.entries_store _ _ _, fun s hs => ?_⟩
  simp only at hs
  split at hs
  · rename_i hstream
    obtain rfl := Option.some.inj hs
    refine ⟨StoredResponseStream.numbered_new, requestedStream_of_requestValue req hstream, ?_,
      StoredResponseStream.closed_new, ?_, ?_, trivial⟩
    · dsimp only
      exact isObject_buildResponseStub _ _ _ _ _ _ _
    · intro hst
      simp only [StoredResponseRecord.status, status_buildResponseStub] at hst
      cases hst
    · rintro (hp | hc)
      · cases hp
      · cases hc
  · cases hs

theorem numbered_step (w : World) (i : BackgroundInput)
    (hw : Logged req (fun _ _ s => s.Numbered) w) :
    Logged req (fun _ _ s => s.Numbered) (backgroundStep codec req.snapshot w i) := by
  obtain ⟨r, hr, hinv⟩ := hw
  obtain ⟨r', hr', hstep⟩ :=
    backgroundStep_recordStep (show w.runtime.entries req.snapshot.responseId = some r from hr) i
  exact ⟨r', hr', hstep.numbered hinv⟩

theorem logInvariant_step (w : World) (i : BackgroundInput)
    (hw : Logged req (LogInvariant req) w) (hok : LogInOrder codec req w i) :
    Logged req (LogInvariant req) (backgroundStep codec req.snapshot w i) := by
  obtain ⟨r, hr, hinv⟩ := hw
  obtain ⟨r', hr', hstep⟩ :=
    backgroundStep_recordStep (show w.runtime.entries req.snapshot.responseId = some r from hr) i
  refine ⟨r', hr', hstep.logInvariant hinv ?_ ?_⟩
  · rintro event clock rfl
    exact hok r hr
  · rintro ownerKey clock rfl
    exact hok r hr rfl

/-- After every run the events of the log are numbered from 1. When the inputs
meet the condition, no event before the last one is terminal, and once the worker
has stopped or the response was cancelled, its status is terminal exactly when
the log has ended. -/
theorem streamLog_wellFormed (codec : SerdeJson) (req : BackgroundRequest)
    (rt : BackgroundResponsesRuntime) (clock : Clock) (inputs : List BackgroundInput)
    {r : StoredResponseRecord} {s : StoredResponseStream}
    (hr : req.record (req.run codec rt clock inputs) = some r)
    (hs : r.streamState = some s) :
    s.events.map (·.sequenceNumber) = List.range' 1 s.events.length ∧
      (Machine.Along (backgroundStep codec req.snapshot) (LogInOrder codec req)
          (req.spawn rt clock) inputs →
        (∀ e ∈ s.events.dropLast, e.isTerminal = false) ∧
        ((req.run codec rt clock inputs).phase = .stopped ∨ r.cancelled = true →
          (isTerminalResponseStatus r.status = true ↔ s.terminal = true))) := by
  obtain ⟨r₀, hr₀, hspawn⟩ := spawn_logged req rt clock
  constructor
  · have hnum := Machine.run_invariant (@numbered_step codec req)
      ⟨r₀, hr₀, fun s hs => (hspawn s hs).1⟩ inputs
    obtain ⟨r', hr', hnum⟩ := hnum
    obtain rfl := Option.some.inj (hr.symm.trans hr')
    exact (hnum s hs).numbers
  · intro hok
    obtain ⟨r', hr', hinv⟩ := hok.invariant logInvariant_step
      ⟨r₀, hr₀, fun s hs => (hspawn s hs).2⟩
    obtain rfl := Option.some.inj (hr.symm.trans hr')
    have h := hinv s hs
    refine ⟨h.closed.dropLast, fun hstop => ?_⟩
    have hst := h.status_terminal hstop
    exact ⟨h.terminal_of_status, fun _ => hst⟩

/-! The stream of `sampleStream` to its end, and a stream that is cut off by a read
error before its first frame. -/

def sampleEnded : List BackgroundInput :=
  sampleStream ++ ([.streamEnd, .proceed, .proceed] : List WorkerEvent).map
    (.worker · sampleClock)

def sampleCutOff : List BackgroundInput :=
  ([.proceed, .responded 200, .readFailed] : List WorkerEvent).map (.worker · sampleClock)

/-- The status, the numbers of the events and the flag that are stored after a run
of the sample. -/
def sampleLog (inputs : List BackgroundInput) : Option (Option String × List Nat × Bool) :=
  (sampleRequest.record (sampleRequest.run sampleCodec sampleRuntime sampleClock
    inputs)).bind fun r => r.streamState.map fun s =>
      (r.status, s.events.map (·.sequenceNumber), s.terminal)

theorem sampleLog_eq_some {inputs : List BackgroundInput} {x : Option String × List Nat × Bool}
    (h : sampleLog inputs = some x) :
    ∃ r s, sampleRequest.record (sampleRequest.run sampleCodec sampleRuntime sampleClock
        inputs) = some r ∧ r.streamState = some s ∧
      (r.status, s.events.map (·.sequenceNumber), s.terminal) = x := by
  obtain ⟨r, hr, h⟩ := Option.bind_eq_some_iff.1 h
  obtain ⟨s, hs, h⟩ := Option.map_eq_some_iff.1 h
  exact ⟨r, s, hr, hs, h⟩

theorem streamLog_wellFormed_sample :
    ∃ r s, sampleRequest.record (sampleRequest.run sampleCodec sampleRuntime sampleClock
        sampleEnded) = some r ∧
      r.streamState = some s ∧ r.status = some "completed" ∧
      (isTerminalResponseStatus r.status = true ↔ s.terminal = true) := by
  obtain ⟨r, s, hr, hs, h⟩ := sampleLog_eq_some
    (show sampleLog sampleEnded = some (some "completed", [1], true) by decide +kernel)
  have hlog := (streamLog_wellFormed sampleCodec sampleRequest sampleRuntime sampleClock
    sampleEnded hr hs).2 (by decide +kernel)
  exact ⟨r, s, hr, hs, congrArg Prod.fst h, hlog.2 (.inl (by decide +kernel))⟩

/-- The worker has stopped and the response has failed, but its log has not
ended. -/
theorem streamLog_readFailed :
    ∃ r s, sampleRequest.record (sampleRequest.run sampleCodec sampleRuntime sampleClock
        sampleCutOff) = some r ∧
      (sampleRequest.run sampleCodec sampleRuntime sampleClock sampleCutOff).phase =
        .stopped ∧
      r.streamState = some s ∧
      ¬(isTerminalResponseStatus r.status = true ↔ s.terminal = true) := by
  obtain ⟨r, s, hr, hs, h⟩ := sampleLog_eq_some
    (show sampleLog sampleCutOff = some (some "failed", [], false) by decide +kernel)
  obtain ⟨hstatus, -, hterm⟩ : r.status = some "failed" ∧
      s.events.map (·.sequenceNumber) = [] ∧ s.terminal = false := by
    simpa [Prod.ext_iff] using h
  refine ⟨r, s, hr, by decide +kernel, hs, ?_⟩
  rw [hstatus, hterm]
  decide

end CodexPool
