import CodexPool.Lib.LineFeed
import CodexPool.Proxy.Prelude
import CodexPool.Proxy.Usage

/-!
# The task of a stream

A task sends the chunks of a stream to the client, the buffered ones first, and reads its
usage off them. When the client has closed its connection, the task reads on for some time,
so that the usage is billed all the same. The chunks that are still buffered when the
connection is closed are not read any more.
-/

namespace CodexPool

open Saturating

/-! ## The usage of a stream -/

structure StreamUsageObservation where
  usage : Option UsageTokens
  serviceTier : Option String
  estimatedOutputTokens : Option I64
  usedJsonLineFallback : Bool
deriving DecidableEq

/-- What was read off the lines so far. -/
structure StreamUsage where
  usage : Option UsageTokens
  serviceTier : Option String
  outputTextChars : Nat
  sawOutputTextDelta : Bool
  usedJsonLineFallback : Bool

structure SseUsageTracker where
  lineBuffer : Bytes
  seen : StreamUsage

section Tracker

variable (codec : SerdeJson)

namespace StreamUsage

def empty : StreamUsage := ⟨none, none, 0, false, false⟩

/-- The characters of the text, for an estimate. -/
def observeText (seen : StreamUsage) (value : Json) : StreamUsage :=
  if value.getStr "type" = some "response.output_text.delta" then
    match value.getStr "delta" with
    | some delta =>
      { seen with
        outputTextChars := seen.outputTextChars + delta.length
        sawOutputTextDelta := true }
    | none => seen
  else if value.getStr "type" = some "response.output_text.done" && !seen.sawOutputTextDelta then
    match value.getStr "text" with
    | some text => { seen with outputTextChars := seen.outputTextChars + text.length }
    | none => seen
  else seen

def observeValue (seen : StreamUsage) (value : Json) (fromDataLine : Bool) : StreamUsage :=
  let seen := { seen with
    serviceTier := seen.serviceTier.or (extractServiceTierFromValue value) }
  let seen := match extractUsageTokensFromValue value with
    | some tokens =>
      { seen with
        usage := some tokens
        usedJsonLineFallback := seen.usedJsonLineFallback || !fromDataLine }
    | none => seen
  seen.observeText value

def observeLine (seen : StreamUsage) (line : Bytes) : StreamUsage :=
  if line.isEmpty then seen
  else
    let (payload, fromDataLine) := match Bytes.stripPrefix (Bytes.ofAscii "data:") line with
      | some rawPayload => (Bytes.trimAscii rawPayload, true)
      | none => (Bytes.trimAscii line, false)
    if payload.isEmpty || payload = Bytes.ofAscii "[DONE]" then seen
    else
      match codec.fromSlice payload with
      | some value => seen.observeValue value fromDataLine
      | none => seen

/-- A line without its carriage return. -/
def observeRawLine (seen : StreamUsage) (line : Bytes) : StreamUsage :=
  seen.observeLine codec (if line.getLast? = some 0x0D then line.dropLast else line)

end StreamUsage

namespace SseUsageTracker

def empty : SseUsageTracker := ⟨[], .empty⟩

def observeChunk (t : SseUsageTracker) (chunk : Bytes) : SseUsageTracker :=
  let (seen, lineBuffer) := LineFeed.feedPiece 0x0A (StreamUsage.observeRawLine codec)
    (t.seen, t.lineBuffer) chunk
  ⟨lineBuffer, seen⟩

def finishUsage (t : SseUsageTracker) : StreamUsageObservation :=
  let seen := if t.lineBuffer.isEmpty then t.seen
    else t.seen.observeLine codec (Bytes.trimAscii t.lineBuffer)
  { usage := seen.usage
    serviceTier := seen.serviceTier
    estimatedOutputTokens :=
      if seen.outputTextChars = 0 then none
      else some (roughTokenEstimateFromCharCount seen.outputTextChars)
    usedJsonLineFallback := seen.usedJsonLineFallback }

end SseUsageTracker

/-- The observation of a stream as a whole. -/
def streamUsageObservation (bytes : Bytes) : StreamUsageObservation :=
  let (seen, lineBuffer) := LineFeed.feed 0x0A (StreamUsage.observeRawLine codec) .empty [] bytes
  SseUsageTracker.finishUsage codec ⟨lineBuffer, seen⟩

/-- The observation does not depend on how the stream is cut into chunks. -/
theorem finishUsage_observeChunks (chunks : List Bytes) :
    (chunks.foldl (SseUsageTracker.observeChunk codec) .empty).finishUsage codec =
      streamUsageObservation codec chunks.flatten := by
  have hfold : ∀ t : SseUsageTracker,
      (chunks.foldl (SseUsageTracker.observeChunk codec) t) =
        let state := chunks.foldl
          (LineFeed.feedPiece 0x0A (StreamUsage.observeRawLine codec)) (t.seen, t.lineBuffer)
        ⟨state.2, state.1⟩ := by
    induction chunks with
    | nil => exact fun t => rfl
    | cons chunk chunks ih => exact fun t => ih _
  rw [hfold]
  simp only [SseUsageTracker.empty, LineFeed.foldl_feedPiece]
  rfl

/-- What is observed of a stream in chunks is what is observed of it in one chunk. -/
theorem finishUsage_one_chunk (chunks : List Bytes) :
    (chunks.foldl (SseUsageTracker.observeChunk codec) .empty).finishUsage codec =
      (SseUsageTracker.observeChunk codec .empty chunks.flatten).finishUsage codec := by
  have hwhole := finishUsage_observeChunks codec [chunks.flatten]
  rw [List.foldl_cons, List.foldl_nil, List.flatten_singleton] at hwhole
  rw [hwhole]
  exact finishUsage_observeChunks codec chunks

end Tracker

/-! ## The task -/

/-- How many sends a client accepts before it closes its connection, `none` when it reads
to the end. -/
abbrev Client := Option Nat

/-- The client after a send, `none` when it has closed its connection. -/
def Client.send : Client → Option Client
  | none => some none
  | some 0 => none
  | some (n + 1) => some (some n)

section Task

variable (codec : SerdeJson)

/-- Sends the buffered chunks. -/
def replayPrelude (t : SseUsageTracker) (client : Client) :
    List Bytes → SseUsageTracker × Option Client
  | [] => (t, some client)
  | chunk :: chunks =>
    match client.send with
    | none => (t.observeChunk codec chunk, none)
    | some client => replayPrelude (t.observeChunk codec chunk) client chunks

/-- Sends the stream, and gives what is left of it when the connection is closed. -/
def forwardStream (t : SseUsageTracker) (client : Client) :
    List UpstreamItem → SseUsageTracker × Option (List UpstreamItem)
  | [] => (t, none)
  | .error _ :: _ => (t, none)
  | .ok chunk :: stream =>
    match client.send with
    | none => (t.observeChunk codec chunk, some stream)
    | some client => forwardStream (t.observeChunk codec chunk) client stream

/-- Reads the stream until its end or the timeout, before which `reads` items come. -/
def drainUpstreamStreamUntilTimeout (t : SseUsageTracker) :
    (reads : Nat) → List UpstreamItem → SseUsageTracker
  | 0, _ => t
  | _ + 1, [] => t
  | _ + 1, .error _ :: _ => t
  | reads + 1, .ok chunk :: stream =>
    drainUpstreamStreamUntilTimeout (t.observeChunk codec chunk) reads stream

def streamTask (reads : Nat) (client : Client) (preludeChunks : List Bytes)
    (stream : List UpstreamItem) : StreamUsageObservation :=
  let t := match replayPrelude codec .empty client preludeChunks with
    | (t, none) => drainUpstreamStreamUntilTimeout codec t reads stream
    | (t, some client) =>
      match forwardStream codec t client stream with
      | (t, some stream) => drainUpstreamStreamUntilTimeout codec t reads stream
      | (t, none) => t
  t.finishUsage codec

/-- The observation that is handed to the billing. -/
def streamResponseWithFirstChunk (status : Nat) (headers : UpstreamHeaders) (reads : Nat)
    (client : Client) (stream : List UpstreamItem) :
    Except StreamPreludeError StreamUsageObservation :=
  match readStreamPrelude codec status headers [] [] stream with
  | .error e => .error e
  | .ok (preludeChunks, stream) => .ok (streamTask codec reads client preludeChunks stream)

/-! ## What the task reads -/

def streamChunks : List UpstreamItem → List Bytes
  | [] => []
  | .error _ :: _ => []
  | .ok chunk :: stream => chunk :: streamChunks stream

theorem drain_eq_foldl {reads : Nat} {stream : List UpstreamItem} (h : stream.length < reads)
    (t : SseUsageTracker) :
    drainUpstreamStreamUntilTimeout codec t reads stream =
      (streamChunks stream).foldl (SseUsageTracker.observeChunk codec) t := by
  induction stream generalizing reads t with
  | nil => cases reads <;> rfl
  | cons item stream ih =>
      obtain ⟨reads, rfl⟩ := Nat.exists_eq_add_one_of_ne_zero (Nat.ne_of_gt (Nat.zero_lt_of_lt h))
      cases item with
      | error err => rfl
      | ok chunk => exact ih (Nat.lt_of_succ_lt_succ h) _

theorem forwardStream_drain {reads : Nat} {stream : List UpstreamItem}
    (h : stream.length < reads) (t : SseUsageTracker) (client : Client) :
    (match forwardStream codec t client stream with
      | (t, some stream) => drainUpstreamStreamUntilTimeout codec t reads stream
      | (t, none) => t) =
      (streamChunks stream).foldl (SseUsageTracker.observeChunk codec) t := by
  induction stream generalizing t client with
  | nil => rfl
  | cons item stream ih =>
      have hrest : stream.length < reads := Nat.lt_of_succ_lt h
      cases item with
      | error err => rfl
      | ok chunk =>
          rw [forwardStream, streamChunks, List.foldl_cons]
          cases client.send with
          | none => exact drain_eq_foldl codec hrest _
          | some client => exact ih hrest _ _

/-- The buffered chunks are all read when the connection is not closed before the last of
them is sent. -/
theorem replayPrelude_fst (t : SseUsageTracker) {client : Client} {chunks : List Bytes}
    (h : ∀ n, client = some n → chunks.length ≤ n + 1) :
    (replayPrelude codec t client chunks).1 =
      chunks.foldl (SseUsageTracker.observeChunk codec) t := by
  induction chunks generalizing t client with
  | nil => rfl
  | cons chunk chunks ih =>
      rw [replayPrelude, List.foldl_cons]
      match client, h with
      | none, _ => exact ih _ (fun n hn => by cases hn)
      | some 0, h =>
          have hlast : chunks = [] := by
            have hlength := h 0 rfl
            simpa using hlength
          rw [hlast]
          rfl
      | some (n + 1), h =>
          refine ih _ fun m hm => ?_
          have hlength := h (n + 1) rfl
          cases hm
          simpa using hlength

/-- The observation is that of all chunks, cut in any way. -/
theorem streamTask_eq {reads : Nat} {client : Client} {preludeChunks : List Bytes}
    {stream : List UpstreamItem} (hreads : stream.length < reads)
    (hclient : ∀ n, client = some n → preludeChunks.length ≤ n + 1) :
    streamTask codec reads client preludeChunks stream =
      streamUsageObservation codec (preludeChunks ++ streamChunks stream).flatten := by
  have hprelude := replayPrelude_fst codec .empty hclient
  rw [← finishUsage_observeChunks, List.foldl_append, ← hprelude, streamTask]
  obtain ⟨t, client'⟩ := replayPrelude codec .empty client preludeChunks
  cases client' with
  | none => simp only [drain_eq_foldl codec hreads]
  | some client' => simp only [forwardStream_drain codec hreads]

theorem length_of_readStreamPrelude {status : Nat} {headers : UpstreamHeaders}
    {preludeBytes : Bytes} {preludeChunks chunks : List Bytes}
    {stream rest : List UpstreamItem}
    (h : readStreamPrelude codec status headers preludeBytes preludeChunks stream =
      .ok (chunks, rest)) : rest.length ≤ stream.length := by
  induction stream generalizing preludeBytes preludeChunks with
  | nil => cases h
  | cons item stream ih =>
      cases item with
      | error err => cases h
      | ok chunk =>
          rw [readStreamPrelude] at h
          rw [List.length_cons]
          split_ifs at h with hempty
          · exact Nat.le_succ_of_le (ih h)
          · simp only at h
            split at h
            · cases h
            · split_ifs at h with hend
              · cases h
                exact Nat.le_succ _
              · exact Nat.le_succ_of_le (ih h)

/-- A client that closes its connection is billed like one that reads to the end, unless it
does so while a buffered chunk is sent that is not the last. -/
theorem streamResponse_eq_of_disconnect (status : Nat) (headers : UpstreamHeaders)
    {reads : Nat} {client : Client} {stream : List UpstreamItem}
    (hreads : stream.length < reads)
    (hclient : ∀ preludeChunks rest n,
      readStreamPrelude codec status headers [] [] stream = .ok (preludeChunks, rest) →
      client = some n → preludeChunks.length ≤ n + 1) :
    streamResponseWithFirstChunk codec status headers reads client stream =
      streamResponseWithFirstChunk codec status headers reads none stream := by
  rw [streamResponseWithFirstChunk, streamResponseWithFirstChunk]
  cases hprelude : readStreamPrelude codec status headers [] [] stream with
  | error e => rfl
  | ok result =>
      obtain ⟨preludeChunks, rest⟩ := result
      have hrest : rest.length < reads :=
        Nat.lt_of_le_of_lt (length_of_readStreamPrelude codec hprelude) hreads
      have hclosed := streamTask_eq codec hrest (hclient preludeChunks rest · hprelude)
      have hopen : streamTask codec reads none preludeChunks rest =
          streamUsageObservation codec (preludeChunks ++ streamChunks rest).flatten :=
        streamTask_eq codec hrest fun n hn => by cases hn
      simp only [hclosed, hopen]

end Task

/-! ## A connection that is closed early -/

def usagePayload : String := "\x7b\"usage\":" ++ "\x7b\"input_tokens\":7\x7d\x7d"

def usageValue : Json := .obj [("usage", .obj [("input_tokens", .int 7)])]

def usageCodec : SerdeJson := .ofTable [(usagePayload, usageValue)]

def blankChunk : Bytes := [0x0A]

def usageChunk : Bytes := Bytes.ofAscii ("data: " ++ (usagePayload ++ "\n\n"))

theorem usageCodec_buffer : usageCodec.fromSlice (blankChunk ++ usageChunk) = none := by
  have hne : Bytes.ofAscii usagePayload ≠ blankChunk ++ usageChunk := by
    unfold usagePayload
    rw [Bytes.ofAscii_append]
    intro heq
    cases congrArg List.head? heq
  rw [usageCodec, SerdeJson.ofTable_cons_of_ne hne]
  simp [SerdeJson.ofTable]

theorem usageBuffer_readings :
    preludeReadings usageCodec (blankChunk ++ usageChunk) =
      [Bytes.ofAscii usagePayload, blankChunk ++ usageChunk] := by
  decide +kernel

theorem usageBuffer_harmless : HarmlessPrelude usageCodec (blankChunk ++ usageChunk) := by
  intro reading hreading
  rw [usageBuffer_readings, List.mem_pair] at hreading
  obtain rfl | rfl := hreading
  · have hdetails : extractUpstreamErrorDetails usageCodec (Bytes.ofAscii usagePayload) =
        (none, none) := by
      rw [extractUpstreamErrorDetails, usageCodec, SerdeJson.ofTable_cons_self]
      decide
    rw [hdetails]
    exact harmless_none
  · rw [extractUpstreamErrorDetails, usageCodec_buffer]
    apply harmless_raw
    simp only [Text.toList_toAsciiLowercase, Text.toList_trim, Bytes.fromUtf8Lossy,
      String.toList_ofList]
    decide

theorem usageStream_prelude :
    readStreamPrelude usageCodec 200 ⟨none, none⟩ [] [] [.ok blankChunk, .ok usageChunk] =
      .ok ([blankChunk, usageChunk], []) := by
  have hblank : parseStreamPreludeErrorContext usageCodec 200 ⟨none, none⟩ blankChunk = none :=
    (parseStreamPreludeErrorContext_eq_none_iff _ _ rfl _).2 (by decide +kernel)
  have hbuffer : parseStreamPreludeErrorContext usageCodec 200 ⟨none, none⟩
      (blankChunk ++ usageChunk) = none :=
    (parseStreamPreludeErrorContext_eq_none_iff _ _ rfl _).2 usageBuffer_harmless
  have hcontinue : isPreludeEnd usageCodec blankChunk [blankChunk] = false := by decide
  have hend : isPreludeEnd usageCodec (blankChunk ++ usageChunk) [blankChunk, usageChunk] =
      true := by decide
  have hne : usageChunk.isEmpty = false := by decide
  simp [readStreamPrelude, hblank, hbuffer, hcontinue, hend, hne, show blankChunk ≠ [] by decide]

/-- The connection is closed while the event with the usage, the last buffered chunk, is
sent. -/
theorem usageStream_eq_of_disconnect :
    streamResponseWithFirstChunk usageCodec 200 ⟨none, none⟩ 3 (some 1)
        [.ok blankChunk, .ok usageChunk] =
      streamResponseWithFirstChunk usageCodec 200 ⟨none, none⟩ 3 none
        [.ok blankChunk, .ok usageChunk] := by
  apply streamResponse_eq_of_disconnect usageCodec 200 ⟨none, none⟩ (by decide)
  intro preludeChunks rest n hprelude hclient
  rw [usageStream_prelude] at hprelude
  cases hprelude
  cases hclient
  decide

/-- The event with the usage is buffered when the connection is closed at the first chunk. -/
theorem streamResponse_ne_of_early_disconnect :
    ¬ ∀ (codec : SerdeJson) (status : Nat) (headers : UpstreamHeaders) (reads : Nat)
      (client : Client) (stream : List UpstreamItem), stream.length < reads →
      streamResponseWithFirstChunk codec status headers reads client stream =
        streamResponseWithFirstChunk codec status headers reads none stream := by
  intro h
  have heq := h usageCodec 200 ⟨none, none⟩ 3 (some 0) [.ok blankChunk, .ok usageChunk] (by decide)
  rw [streamResponseWithFirstChunk, streamResponseWithFirstChunk, usageStream_prelude] at heq
  have hclosed : (streamTask usageCodec 3 (some 0) [blankChunk, usageChunk] []).usage = none := by
    decide
  have hopen : (streamTask usageCodec 3 none [blankChunk, usageChunk] []).usage ≠ none := by
    rw [streamTask_eq usageCodec (by decide) (fun n hn => by cases hn)]
    decide
  injection heq with heq
  rw [← heq] at hopen
  exact hopen hclosed

end CodexPool
