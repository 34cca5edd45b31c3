import CodexPool.Lib.Machine
import CodexPool.Responses.Store

/-!
# The worker of a background response

A worker sends the request of a background response again, this time in the
foreground, and writes what comes back into the stored record. Other requests
may cancel the response between any two of its steps. A step of the worker takes
the lock of the records at most once.
-/

namespace CodexPool

structure BackgroundRequestSnapshot where
  responseId : String
  ownerKey : String
  body : Json
  conversationId : Option String
  stream : Bool

/-- Where the worker is. `sawTerminal` is its own note that a frame has left the
response in a terminal status. -/
inductive WorkerPhase where
  | starting
  | sending
  | awaitingBody (status : Nat)
  | reading (buffer : Bytes) (sawTerminal : Bool)
  | draining (buffer : Bytes) (sawTerminal : Bool)
  | lastFrame (buffer : Bytes) (sawTerminal : Bool)
  /-- Between the two locks of `append_background_stream_frame`. -/
  | storing (buffer : Bytes) (sawTerminal last terminal : Bool) (response : Json)
  | checkingStatus (buffer : Bytes) (sawTerminal : Bool)
  | finishing (sawTerminal : Bool)
  | stopped

instance (p : WorkerPhase) : Decidable (p = .stopped) :=
  match p with
  | .stopped => .isTrue rfl
  | .starting | .sending | .awaitingBody _ | .reading _ _ | .draining _ _
  | .lastFrame _ _ | .storing _ _ _ _ _ | .checkingStatus _ _ | .finishing _ =>
    .isFalse (by simp)

/-- What the worker waits for. -/
inductive WorkerEvent where
  | proceed
  | serializeFailed
  | sendFailed
  | responded (status : Nat)
  | body (bytes : Option Bytes)
  | chunk (bytes : Bytes)
  | readFailed
  | streamEnd

structure World where
  runtime : BackgroundResponsesRuntime
  phase : WorkerPhase

/-- An input of the system: an event of the worker, or a call of
`cancel_response`. -/
inductive BackgroundInput where
  | worker (event : WorkerEvent) (clock : Clock)
  | cancel (ownerKey responseId : String) (clock : Clock)

section Step

variable (codec : SerdeJson) (snapshot : BackgroundRequestSnapshot)

namespace BackgroundRequestSnapshot

def fail (rt : BackgroundResponsesRuntime) (statusCode : Nat)
    (responseBody : Option Bytes) (clock : Clock) : World :=
  ⟨rt.applyBackgroundFailure codec snapshot.responseId snapshot.body statusCode
    responseBody snapshot.conversationId clock, .stopped⟩

/-- The phase after the frame: the last frame is not looked up again. -/
def afterFrame (buffer : Bytes) (sawTerminal last : Bool) : WorkerPhase :=
  if last then .finishing sawTerminal else .checkingStatus buffer sawTerminal

/-- Takes the first `frameEnd` bytes of the buffer as a frame. -/
def takeFrame (rt : BackgroundResponsesRuntime) (buffer : Bytes) (frameEnd : Nat)
    (sawTerminal last : Bool) (clock : Clock) : World :=
  let rest := buffer.drop frameEnd
  match rt.appendBackgroundStreamFrame codec snapshot.ownerKey snapshot.responseId
      (buffer.take frameEnd) clock with
  | (some (terminal, response), rt) =>
    ⟨rt, .storing rest sawTerminal last terminal response⟩
  | (none, rt) => ⟨rt, afterFrame rest sawTerminal last⟩

/-- The end of the frame that is left when the stream has ended. -/
def lastFrameEnd (buffer : Bytes) : Option Nat :=
  (findSseFrameEnd buffer).or
    (if (Bytes.trimAscii buffer).isEmpty then none else some buffer.length)

/-- The body of a response that is not streamed. -/
def takeBody (rt : BackgroundResponsesRuntime) (status : Nat) (body : Option Bytes)
    (clock : Clock) : World :=
  if isSuccess status then
    match body with
    | none => ⟨rt, .stopped⟩
    | some bytes =>
      match codec.fromSlice bytes with
      | some value =>
        ⟨rt.applyBackgroundResult snapshot.responseId value snapshot.conversationId, .stopped⟩
      | none => snapshot.fail codec rt 502 (some bytes) clock
  else snapshot.fail codec rt status body clock

/-- A step of `spawn_background_response_worker`. An event that the worker does
not wait for is left for later. -/
def workerStep (w : World) (event : WorkerEvent) (clock : Clock) : World :=
  let rt := w.runtime
  match w.phase, event with
  | .starting, .proceed =>
    match rt.markBackgroundInProgress snapshot.responseId clock with
    | (true, rt) => ⟨rt, .sending⟩
    | (false, rt) => ⟨rt, .stopped⟩
  | .sending, .serializeFailed => snapshot.fail codec rt 400 none clock
  | .sending, .sendFailed => snapshot.fail codec rt 502 none clock
  | .sending, .responded status =>
    if isSuccess status && snapshot.stream then ⟨rt, .reading [] false⟩
    else ⟨rt, .awaitingBody status⟩
  | .awaitingBody status, .body bytes => snapshot.takeBody codec rt status bytes clock
  | .reading buffer saw, .chunk bytes => ⟨rt, .draining (buffer ++ bytes) saw⟩
  | .reading _ _, .readFailed => snapshot.fail codec rt 502 none clock
  | .reading buffer saw, .streamEnd => ⟨rt, .lastFrame buffer saw⟩
  | .draining buffer saw, .proceed =>
    match findSseFrameEnd buffer with
    | some frameEnd => snapshot.takeFrame codec rt buffer frameEnd saw false clock
    | none => ⟨rt, .reading buffer saw⟩
  | .lastFrame buffer saw, .proceed =>
    match lastFrameEnd buffer with
    | some frameEnd => snapshot.takeFrame codec rt buffer frameEnd saw true clock
    | none => ⟨rt, .finishing saw⟩
  | .storing buffer saw last terminal response, .proceed =>
    ⟨rt.applyBackgroundResponseSnapshot snapshot.responseId response
      snapshot.conversationId terminal, afterFrame buffer saw last⟩
  | .checkingStatus buffer saw, .proceed =>
    let status := (rt.lookupResponse snapshot.ownerKey snapshot.responseId clock).bind
      (·.getStr "status")
    ⟨rt, .draining buffer (saw || isTerminalResponseStatus status)⟩
  | .finishing saw, .proceed =>
    if saw then ⟨rt, .stopped⟩ else snapshot.fail codec rt 502 none clock
  | _, _ => w

end BackgroundRequestSnapshot

def backgroundStep (w : World) : BackgroundInput → World
  | .worker event clock => snapshot.workerStep codec w event clock
  | .cancel ownerKey responseId clock =>
    { w with runtime := (w.runtime.cancelResponse codec ownerKey responseId clock).2 }

end Step

/-- A background request, as `maybe_handle_background_response_request` takes
it. -/
structure BackgroundRequest where
  responseId : String
  ownerKey : String
  body : Json
  conversationId : Option String

namespace BackgroundRequest

def requestedStream (req : BackgroundRequest) : Bool :=
  ((req.body.get "stream").bind Json.asBool).getD false

/-- The request as it is stored and sent. -/
def requestValue (req : BackgroundRequest) : Json :=
  if req.requestedStream then req.body else req.body.insert "stream" (.bool false)

def snapshot (req : BackgroundRequest) : BackgroundRequestSnapshot :=
  { responseId := req.responseId
    ownerKey := req.ownerKey
    body := req.requestValue
    conversationId := req.conversationId
    stream := req.requestedStream }

/-- The system right after the request was queued and its worker was spawned. -/
def spawn (req : BackgroundRequest) (rt : BackgroundResponsesRuntime) (clock : Clock) :
    World :=
  ⟨rt.queueBackgroundResponse req.responseId req.ownerKey req.requestValue
    req.conversationId clock, .starting⟩

/-- The system after a run of inputs. -/
def run (codec : SerdeJson) (req : BackgroundRequest) (rt : BackgroundResponsesRuntime)
    (clock : Clock) (inputs : List BackgroundInput) : World :=
  Machine.run (backgroundStep codec req.snapshot) (req.spawn rt clock) inputs

def record (req : BackgroundRequest) (w : World) : Option StoredResponseRecord :=
  w.runtime.entries req.responseId

end BackgroundRequest

end CodexPool
