import CodexPool.Responses.Transition

/-!
# When a terminal response is final

A response whose status is terminal may still be overwritten: none of the
functions that store a response looks at the status, and the worker notes a
terminal status only after a frame that is complete, and only while the record is
kept. A stream that ends with its terminal response, and in good order, leaves
the response as it is.
-/

namespace CodexPool

open BackgroundRequestSnapshot (afterFrame lastFrameEnd)

def StoredResponseRecord.settled (r : StoredResponseRecord) : Bool :=
  isTerminalResponseStatus r.status && !r.cancelled

/-- The response that a frame carries. -/
def frameResponse (codec : SerdeJson) (responseId : String) (frame : Bytes) : Option Json :=
  (frameEvent codec responseId frame).bind (·.2.get "response")

section Condition

variable (codec : SerdeJson) (req : BackgroundRequest)

/-- What the upstream stream may do to a record that is kept: no read error and no
frame with a response come after a settled response, the record does not expire
before the worker has seen that it is settled, and the last frame, when nothing
ends it, brings no terminal status. -/
def streamInOrder (r : StoredResponseRecord) (clock : Clock) :
    WorkerPhase → WorkerEvent → Bool
  | .reading _ _, .readFailed => !r.settled
  | .draining buffer _, .proceed =>
    match findSseFrameEnd buffer with
    | some frameEnd =>
      !r.settled || r.expiresAt ≤ clock.instant ||
        (frameResponse codec req.responseId (buffer.take frameEnd)).isNone
    | none => true
  | .lastFrame buffer _, .proceed =>
    match lastFrameEnd buffer with
    | some frameEnd =>
      match frameResponse codec req.responseId (buffer.take frameEnd) with
      | some response =>
        r.expiresAt ≤ clock.instant || (!r.settled &&
          (r.cancelled || !isTerminalResponseStatus (response.getStr "status")))
      | none => true
    | none => true
  | .checkingStatus _ saw, .proceed => saw || !r.settled || clock.instant < r.expiresAt
  | _, _ => true

/-- The condition on an input in the state in which it arrives. Calls of
`cancel_response` may come at any time. -/
def StreamInOrder (w : World) : BackgroundInput → Prop
  | .worker event clock =>
    ∀ r ∈ req.record w, streamInOrder codec req r clock w.phase event = true
  | .cancel _ _ _ => True

instance : ∀ (w : World) (i : BackgroundInput), Decidable (StreamInOrder codec req w i)
  | w, .worker event clock =>
    inferInstanceAs
      (Decidable (∀ r ∈ req.record w, streamInOrder codec req r clock w.phase event = true))
  | _, .cancel _ _ _ => inferInstanceAs (Decidable True)

end Condition

variable {codec : SerdeJson} {req : BackgroundRequest}

def SettledAt (r : StoredResponseRecord) : WorkerPhase → Prop
  | .starting | .sending | .awaitingBody _ => r.settled = false
  | .reading _ saw | .draining _ saw | .lastFrame _ saw | .finishing saw =>
    r.settled = true → saw = true
  | .storing _ _ last _ response =>
    r.settled = false ∧ (last = true →
      isTerminalResponseStatus (response.getStr "status") = true → r.cancelled = true)
  | .checkingStatus _ _ | .stopped => True

structure FinalInvariant (req : BackgroundRequest) (p : WorkerPhase)
    (r : StoredResponseRecord) : Prop where
  ownerKey : r.ownerKey = req.ownerKey
  allowRetrieve : r.allowRetrieve = true
  settledAt : SettledAt r p

variable {r : StoredResponseRecord}

theorem settled_eq_false_of_cancelled (h : r.cancelled = true) : r.settled = false := by
  simp [StoredResponseRecord.settled, h]

theorem SettledAt.of_cancelled (h : r.cancelled = true) (p : WorkerPhase) : SettledAt r p := by
  have hs := settled_eq_false_of_cancelled h
  cases p <;> simp [SettledAt, hs, h]

theorem not_terminal_markInProgress (r : StoredResponseRecord) (clock : Clock) :
    isTerminalResponseStatus (r.markInProgress clock).status = false := by
  cases hr : r.response with
  | obj fs =>
      rw [StoredResponseRecord.status_markInProgress (by rw [hr]; rfl)]
      rfl
  | _ =>
      unfold StoredResponseRecord.status StoredResponseRecord.markInProgress
      rw [hr]
      rfl

variable {p p' : WorkerPhase}

/-- A step that leaves the record as it is. -/
theorem Moves.settledAt {e : WorkerEvent}
    {clock : Clock} (h : Moves req.snapshot r p e clock p') (hinv : FinalInvariant req p r)
    (hok : streamInOrder codec req r clock p e = true) : SettledAt r p' := by
  have hat := hinv.settledAt
  cases h with
  | idle => exact hat
  | refused | noBody | failed | finished => trivial
  | stream _ => intro hs; exact absurd (hat.symm.trans hs) (by decide)
  | plain => exact hat
  | chunk | ended | drained | noFrame => exact hat
  | skipped _ ht =>
      cases ht with
      | next => trivial
      | last => exact hat
  | stored _ _ last _ _ _ hc =>
      exact SettledAt.of_cancelled hc _
  | checked buffer saw clock =>
      intro hs
      have hterm : isTerminalResponseStatus r.status = true := by
        simp only [StoredResponseRecord.settled, Bool.and_eq_true] at hs
        exact hs.1
      simp only [streamInOrder, hs, Bool.or_eq_true, decide_eq_true_eq, Bool.not_true,
        Bool.false_eq_true, or_false] at hok
      rcases hok with hsaw | hlive
      · simp [hsaw]
      · simp [StoredResponseRecord.accessible, hinv.ownerKey, hinv.allowRetrieve, hlive,
          hterm, BackgroundRequest.snapshot]

/-- A frame is appended to a record that is not settled, or carries no response. -/
theorem SettledAt.frame {clock : Clock}
    {buffer : Bytes} {saw last : Bool} {frameEnd : Nat} {name : Option String}
    {value : Json} {streamState : Option StoredResponseStream}
    (ht : Takes p buffer saw last frameEnd)
    (he : frameEvent codec req.responseId (buffer.take frameEnd) = some (name, value))
    (ha : ¬r.expiresAt ≤ clock.instant) (hat : SettledAt r p)
    (hok : streamInOrder codec req r clock p .proceed = true) :
    SettledAt { r with streamState } (phaseOfEvent (buffer.drop frameEnd) saw last value) := by
  have hresp : frameResponse codec req.responseId (buffer.take frameEnd) =
      value.get "response" := by
    rw [frameResponse, he]
    rfl
  cases ht with
  | next h =>
      simp only [streamInOrder, h, hresp, ha] at hok
      unfold phaseOfEvent
      cases hv : value.get "response" with
      | none => trivial
      | some response =>
          have hs : r.settled = false := by simpa [hv] using hok
          exact ⟨hs, fun hl => by cases hl⟩
  | last h =>
      simp only [streamInOrder, h, hresp, ha] at hok
      unfold phaseOfEvent
      cases hv : value.get "response" with
      | none => exact hat
      | some response =>
          simp only [hv, decide_false, Bool.false_or, Bool.and_eq_true, Bool.or_eq_true,
            Bool.not_eq_true'] at hok
          refine ⟨hok.1, fun _ hterm => hok.2.resolve_right ?_⟩
          simp [hterm]

variable {i : BackgroundInput}

/-- The record after an input that meets the condition. -/
theorem RecordStep.finalInvariant {r' : StoredResponseRecord}
    (h : RecordStep codec req.snapshot p r i p' r') (hinv : FinalInvariant req p r)
    (hok : ∀ event clock, i = .worker event clock →
      streamInOrder codec req r clock p event = true) : FinalInvariant req p' r' := by
  have hat := hinv.settledAt
  cases h with
  | move hm => exact ⟨hinv.ownerKey, hinv.allowRetrieve, hm.settledAt hinv (hok _ _ rfl)⟩
  | other => exact hinv
  | cancel =>
      refine ⟨?_, ?_, SettledAt.of_cancelled (by simp) _⟩
      · rw [StoredResponseRecord.ownerKey_cancel, hinv.ownerKey]
      · rw [StoredResponseRecord.allowRetrieve_cancel, hinv.allowRetrieve]
  | @mark r clock hc =>
      have hs : (r.markInProgress clock).settled = false := by
        simp [StoredResponseRecord.settled, not_terminal_markInProgress]
      exact ⟨hinv.ownerKey, hinv.allowRetrieve, hs⟩
  | fail => exact ⟨hinv.ownerKey, hinv.allowRetrieve, trivial⟩
  | result => exact ⟨hinv.ownerKey, hinv.allowRetrieve, trivial⟩
  | frame ht he ha hs =>
      exact ⟨hinv.ownerKey, hinv.allowRetrieve,
        .frame ht he (StoredResponseRecord.expiresAt_of_accessible ha) hat (hok _ _ rfl)⟩
  | @store buffer saw last terminal response r clock hc =>
      refine ⟨hinv.ownerKey, hinv.allowRetrieve, ?_⟩
      cases last with
      | false => trivial
      | true =>
          -- the last frame has brought no terminal status
          have hterm : isTerminalResponseStatus (response.getStr "status") = false := by
            by_contra hne
            have := hat.2 rfl (Bool.not_eq_false _ ▸ hne)
            rw [hc] at this
            cases this
          have hs : (r.withSnapshot response req.snapshot.conversationId
              terminal).settled = false := by
            simp [StoredResponseRecord.settled, StoredResponseRecord.status,
              StoredResponseRecord.withSnapshot, StoredResponseRecord.status_annotate, hterm]
          intro hs'
          rw [hs] at hs'
          cases hs'

/-- An input that meets the condition does not change a terminal response. -/
theorem RecordStep.response_eq {r' : StoredResponseRecord}
    (h : RecordStep codec req.snapshot p r i p' r') (hinv : FinalInvariant req p r)
    (hok : ∀ event clock, i = .worker event clock →
      streamInOrder codec req r clock p event = true)
    (ht : isTerminalResponseStatus r.status = true) : r'.response = r.response := by
  have hat := hinv.settledAt
  have hsettled : r.cancelled = false → r.settled = true := by
    intro hc
    simp [StoredResponseRecord.settled, ht, hc]
  cases h with
  | move | other => rfl
  | cancel => rw [StoredResponseRecord.cancel_of_terminal codec _ ht]
  | mark hc => exact absurd (hsettled hc) (by rw [show r.settled = false from hat]; decide)
  | fail hf hc =>
      have hs := hsettled hc
      exfalso
      cases hf with
      | serialize | send | body => rw [show r.settled = false from hat] at hs; cases hs
      | read =>
          have := hok _ _ rfl
          simp [streamInOrder, hs] at this
      | finish => cases hat hs
  | result _ hc =>
      exact absurd (hsettled hc) (by rw [show r.settled = false from hat]; decide)
  | frame => rfl
  | store hc => exact absurd (hsettled hc) (by rw [hat.1]; decide)

/-- The invariant in the states of the system. -/
def Final (req : BackgroundRequest) (w : World) : Prop :=
  ∃ r, req.record w = some r ∧ FinalInvariant req w.phase r

theorem spawn_final (req : BackgroundRequest) (rt : BackgroundResponsesRuntime)
    (clock : Clock) : Final req (req.spawn rt clock) := by
  refine ⟨_, BackgroundResponsesRuntime.entries_store _ _ _, rfl, rfl, ?_⟩
  have hs := status_buildResponseStub req.requestValue req.responseId "queued" true
    clock.timestamp req.conversationId clock.timestamp
  simp only [BackgroundRequest.spawn, SettledAt, StoredResponseRecord.settled,
    StoredResponseRecord.status, hs]
  rfl

theorem StreamInOrder.worker {w : World} (hok : StreamInOrder codec req w i)
    (hr : req.record w = some r) (event : WorkerEvent) (clock : Clock)
    (hi : i = .worker event clock) :
    streamInOrder codec req r clock w.phase event = true := by
  subst hi
  exact hok r hr

theorem final_step (w : World) (i : BackgroundInput) (hw : Final req w)
    (hok : StreamInOrder codec req w i) :
    Final req (backgroundStep codec req.snapshot w i) := by
  obtain ⟨r, hr, hinv⟩ := hw
  obtain ⟨r', hr', hstep⟩ :=
    backgroundStep_recordStep (show w.runtime.entries req.snapshot.responseId = some r from hr) i
  exact ⟨r', hr', hstep.finalInvariant hinv (hok.worker hr)⟩

def StoredTerminal (req : BackgroundRequest) (response : Json) (w : World) : Prop :=
  ∃ r, req.record w = some r ∧ r.response = response ∧
    isTerminalResponseStatus r.status = true

theorem storedTerminal_step {response : Json} (w : World) (i : BackgroundInput)
    (hw : Final req w ∧ StoredTerminal req response w)
    (hok : StreamInOrder codec req w i) :
    Final req (backgroundStep codec req.snapshot w i) ∧
      StoredTerminal req response (backgroundStep codec req.snapshot w i) := by
  refine ⟨final_step w i hw.1 hok, ?_⟩
  obtain ⟨⟨r, hr, hinv⟩, r₁, hr₁, rfl, ht⟩ := hw
  obtain rfl := Option.some.inj (hr.symm.trans hr₁)
  obtain ⟨r', hr', hstep⟩ :=
    backgroundStep_recordStep (show w.runtime.entries req.snapshot.responseId = some r from hr) i
  have hresp := hstep.response_eq hinv (hok.worker hr) ht
  refine ⟨r', hr', hresp, ?_⟩
  rw [StoredResponseRecord.status, hresp]
  exact ht

/-- In every run whose inputs meet the condition, with calls of `cancel_response`
at any time, a response whose status is terminal stays as it is. -/
theorem response_final (codec : SerdeJson) (req : BackgroundRequest)
    (rt : BackgroundResponsesRuntime) (clock : Clock)
    (before after : List BackgroundInput)
    (h : Machine.Along (backgroundStep codec req.snapshot) (StreamInOrder codec req)
      (req.spawn rt clock) (before ++ after))
    {r : StoredResponseRecord}
    (hr : req.record (req.run codec rt clock before) = some r)
    (ht : isTerminalResponseStatus r.status = true) :
    ∃ r', req.record (req.run codec rt clock (before ++ after)) = some r' ∧
      r'.response = r.response := by
  obtain ⟨hbefore, hafter⟩ := (Machine.along_append _ _ _).1 h
  have hfinal := hbefore.invariant final_step (spawn_final req rt clock)
  obtain ⟨-, r', hr', hresp, -⟩ :=
    hafter.invariant storedTerminal_step ⟨hfinal, r, hr, rfl, ht⟩
  rw [BackgroundRequest.run, Machine.run_append]
  exact ⟨r', hr', hresp⟩

/-! A stream of one frame, which brings the completed response. -/

def samplePayload : String :=
  "\x7b\"response\":\x7b\"status\":\"completed\"\x7d,\"type\":\"response.completed\"\x7d"

/-- The codec on the payload of the sample; it prints texts that no result reads. -/
def sampleCodec : SerdeJson where
  fromSlice bytes :=
    if bytes = Bytes.ofAscii samplePayload then
      some (.obj [("response", .obj [("status", .str "completed")]),
        ("type", .str "response.completed")])
    else none
  toText _ := ""

def sampleRequest : BackgroundRequest where
  responseId := "resp_1"
  ownerKey := "anonymous"
  body := .ofFields [("background", .bool true), ("stream", .bool true)]
  conversationId := none

def sampleRuntime : BackgroundResponsesRuntime := .new 86400

def sampleClock : Clock := ⟨0, 0⟩

/-- The worker reads the frame and stores the response. -/
def sampleStream : List BackgroundInput :=
  ([.proceed, .responded 200,
    .chunk (Bytes.ofAscii ("data: " ++ samplePayload ++ "\n\n")), .proceed, .proceed,
    .proceed, .proceed] : List WorkerEvent).map (.worker · sampleClock)

/-- The status that is stored after a run of the sample. -/
def sampleStatus (inputs : List BackgroundInput) : Option (Option String) :=
  (sampleRequest.record
    (sampleRequest.run sampleCodec sampleRuntime sampleClock inputs)).map (·.status)

theorem sampleStream_completed :
    ∃ r, sampleRequest.record (sampleRequest.run sampleCodec sampleRuntime sampleClock
      sampleStream) = some r ∧ r.status = some "completed" :=
  Option.map_eq_some_iff.1 (show sampleStatus sampleStream = _ by decide +kernel)

/-- The stream ends, and a late call cancels the response: it stays completed. -/
theorem response_final_sample :
    sampleStatus (sampleStream ++ [.worker .streamEnd sampleClock,
      .worker .proceed sampleClock, .worker .proceed sampleClock,
      .cancel "anonymous" "resp_1" sampleClock]) = some (some "completed") := by
  obtain ⟨r, hr, hs⟩ := sampleStream_completed
  obtain ⟨r', hr', hresp⟩ := response_final sampleCodec sampleRequest sampleRuntime
    sampleClock sampleStream [.worker .streamEnd sampleClock,
      .worker .proceed sampleClock, .worker .proceed sampleClock,
      .cancel "anonymous" "resp_1" sampleClock]
    (by decide +kernel) hr (by rw [hs]; decide)
  rw [sampleStatus, hr', Option.map_some, StoredResponseRecord.status, hresp]
  exact congrArg some hs

/-- A read error after the completed response turns it into a failed one. -/
theorem response_final_readFailed :
    ∃ r r', sampleRequest.record (sampleRequest.run sampleCodec sampleRuntime sampleClock
        sampleStream) = some r ∧
      isTerminalResponseStatus r.status = true ∧
      sampleRequest.record (sampleRequest.run sampleCodec sampleRuntime sampleClock
        (sampleStream ++ [.worker .readFailed sampleClock])) = some r' ∧
      r'.response ≠ r.response := by
  obtain ⟨r, hr, hs⟩ := sampleStream_completed
  obtain ⟨r', hr', hs'⟩ : ∃ r', sampleRequest.record (sampleRequest.run sampleCodec
      sampleRuntime sampleClock (sampleStream ++ [.worker .readFailed sampleClock])) =
      some r' ∧ r'.status = some "failed" :=
    Option.map_eq_some_iff.1 (show sampleStatus _ = _ by decide +kernel)
  refine ⟨r, r', hr, by rw [hs]; decide, hr', fun heq => ?_⟩
  rw [StoredResponseRecord.status, heq] at hs'
  exact absurd (hs.symm.trans hs') (by decide)

end CodexPool
