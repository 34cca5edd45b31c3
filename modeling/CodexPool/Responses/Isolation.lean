import CodexPool.Lib.Unwinding
import CodexPool.Responses.Store

/-!
# Owners of stored responses

Every stored response and every cursor has an owner, and the lookups check it. The
maps are keyed by response ids, conversation ids and session keys alone, though, which
the owners or their upstreams choose: a writer takes the place of whatever another
owner has stored under the same key. The answers to one owner are independent of the
calls of another as long as the latter writes over nothing but its own entries.
-/

namespace CodexPool

open Machine OwnedMap

structure SpawnedWorker where
  ownerKey : String
  responseId : String
  conversationId : Option String
deriving DecidableEq

/-- What a worker does to the record of its response. -/
inductive WorkerAction where
  | markInProgress (clock : Clock)
  | result (responseValue : Json)
  | frame (bytes : Bytes) (clock : Clock)
  | snapshot (responseValue : Json) (terminal : Bool)
  | failure (requestBody : Json) (statusCode : Nat) (responseBody : Option Bytes)
      (clock : Clock)

/-- The lookups of an owner. -/
inductive ResponsesLookup where
  | response (responseId : String)
  | inputItems (responseId : String) (query : BackgroundResponsesRuntime.ResponseInputItemsQuery)
  | conversation (conversationId : String)
  | continuationCursor (continuationCursorKey : String)
  | stream (responseId : String)
  /-- A later read of the reader that `stream_response` has started. -/
  | streamRead (responseId : String) (nextSequence : Nat)

inductive ResponsesCall where
  | storeCompletedResponse (ownerKey : String) (requestBody : Json) (responseBody : Bytes)
      (conversationId : Option String) (forceStore : Bool) (clock : Clock)
  | storeContinuationCursor (ownerKey continuationCursorKey responseId : String)
      (clock : Clock)
  | queueBackgroundResponse (worker : SpawnedWorker) (requestBody : Json) (clock : Clock)
  | worker (worker : SpawnedWorker) (action : WorkerAction)
  | cancelResponse (ownerKey responseId : String) (clock : Clock)
  | lookup (ownerKey : String) (lookup : ResponsesLookup) (clock : Clock)
  /-- The cleanup that runs from time to time, for no owner. -/
  | cleanupExpired (clock : Clock)

inductive ResponsesAnswer where
  | none
  | value (value : Option Json)
  | responseId (responseId : Option String)
  | stream (outcome : BackgroundResponsesRuntime.StreamLookupOutcome)
  | events (events : Option (List StoredStreamEvent × Bool))

def ResponsesCall.ownerKey : ResponsesCall → Option String
  | .storeCompletedResponse ownerKey .. => some ownerKey
  | .storeContinuationCursor ownerKey .. => some ownerKey
  | .queueBackgroundResponse spawned .. => some spawned.ownerKey
  | .worker spawned .. => some spawned.ownerKey
  | .cancelResponse ownerKey .. => some ownerKey
  | .lookup ownerKey .. => some ownerKey
  | .cleanupExpired _ => none

def ResponsesCall.isLookup : ResponsesCall → Bool
  | .lookup .. => true
  | _ => false

structure ResponsesState where
  runtime : BackgroundResponsesRuntime
  workers : List SpawnedWorker

namespace BackgroundResponsesRuntime

def lookup (rt : BackgroundResponsesRuntime) (ownerKey : String) (clock : Clock) :
    ResponsesLookup → ResponsesAnswer
  | .response responseId => .value (rt.lookupResponse ownerKey responseId clock)
  | .inputItems responseId query =>
    .value (rt.lookupInputItems ownerKey responseId query clock)
  | .conversation conversationId =>
    .responseId (rt.currentConversationResponseId ownerKey conversationId clock)
  | .continuationCursor key =>
    .responseId (rt.currentContinuationCursorResponseId ownerKey key clock)
  | .stream responseId => .stream (rt.streamResponse ownerKey responseId clock)
  | .streamRead responseId nextSequence =>
    .events (rt.readStream ownerKey responseId nextSequence clock)

def act (codec : SerdeJson) (rt : BackgroundResponsesRuntime) (worker : SpawnedWorker) :
    WorkerAction → BackgroundResponsesRuntime
  | .markInProgress clock => (rt.markBackgroundInProgress worker.responseId clock).2
  | .result responseValue =>
    rt.applyBackgroundResult worker.responseId responseValue worker.conversationId
  | .frame bytes clock =>
    (rt.appendBackgroundStreamFrame codec worker.ownerKey worker.responseId bytes clock).2
  | .snapshot responseValue terminal =>
    rt.applyBackgroundResponseSnapshot worker.responseId responseValue worker.conversationId
      terminal
  | .failure requestBody statusCode responseBody clock =>
    rt.applyBackgroundFailure codec worker.responseId requestBody statusCode responseBody
      worker.conversationId clock

end BackgroundResponsesRuntime

/-! ## Records that a call alters -/

namespace BackgroundResponsesRuntime

variable {codec : SerdeJson} {rt : BackgroundResponsesRuntime} {r b : String}
  {f : StoredResponseRecord → Option (StoredResponseRecord × Option String)}

/-- Alters the record of a response as `f` says, and then the cursor of the conversation
that `f` names. -/
def alter (rt : BackgroundResponsesRuntime) (responseId : String)
    (f : StoredResponseRecord → Option (StoredResponseRecord × Option String)) :
    BackgroundResponsesRuntime :=
  match (rt.entries responseId).bind f with
  | none => rt
  | some (record, conversationId) =>
    (rt.store responseId record).storeConversation conversationId record

def alteration (codec : SerdeJson) (worker : SpawnedWorker) (record : StoredResponseRecord) :
    WorkerAction → Option (StoredResponseRecord × Option String)
  | .markInProgress clock =>
    if record.cancelled then none else some (record.markInProgress clock, none)
  | .result responseValue =>
    if record.cancelled then none
    else some (record.withResult (rewriteResponseIds responseValue worker.responseId)
      worker.conversationId, worker.conversationId)
  | .frame bytes clock =>
    (frameEvent codec worker.responseId bytes).bind fun event =>
      if !record.accessible worker.ownerKey clock then none
      else record.streamState.map fun streamState =>
        ({ record with
            streamState := some (streamState.appendFrame codec event.1 event.2).1 }, none)
  | .snapshot responseValue terminal =>
    if record.cancelled then none
    else some (record.withSnapshot responseValue worker.conversationId terminal,
      if terminal then worker.conversationId else none)
  | .failure requestBody statusCode responseBody clock =>
    if record.cancelled then none
    else some (record.withFailure codec worker.responseId requestBody statusCode responseBody
      worker.conversationId clock, none)

theorem act_eq_alter (worker : SpawnedWorker) (action : WorkerAction) :
    rt.act codec worker action =
      rt.alter worker.responseId (alteration codec worker · action) := by
  cases action with
  | markInProgress clock =>
      simp only [act, markBackgroundInProgress, alter, alteration]
      cases rt.entries worker.responseId with
      | none => rfl
      | some record => cases hc : record.cancelled <;> simp [hc, storeConversation]
  | result responseValue =>
      simp only [act, applyBackgroundResult, alter, alteration]
      cases rt.entries worker.responseId with
      | none => rfl
      | some record => cases hc : record.cancelled <;> simp [hc]
  | frame bytes clock =>
      simp only [act, appendBackgroundStreamFrame, alter, alteration]
      cases rt.entries worker.responseId with
      | none => cases frameEvent codec worker.responseId bytes <;> rfl
      | some record =>
          cases frameEvent codec worker.responseId bytes with
          | none => rfl
          | some event =>
              cases ha : record.accessible worker.ownerKey clock with
              | false => simp [ha]
              | true => cases hs : record.streamState <;> simp [ha, hs, storeConversation]
  | snapshot responseValue terminal =>
      simp only [act, applyBackgroundResponseSnapshot, alter, alteration]
      cases rt.entries worker.responseId with
      | none => rfl
      | some record =>
          cases hc : record.cancelled <;> cases terminal <;> simp [hc, storeConversation]
  | failure requestBody statusCode responseBody clock =>
      simp only [act, applyBackgroundFailure, alter, alteration]
      cases rt.entries worker.responseId with
      | none => rfl
      | some record => cases hc : record.cancelled <;> simp [hc, storeConversation]

/-- What a cancellation makes of a record. -/
def cancellation (codec : SerdeJson) (ownerKey : String) (clock : Clock)
    (record : StoredResponseRecord) : Option (StoredResponseRecord × Option String) :=
  if !record.accessible ownerKey clock || !record.background then none
  else some (record.cancel codec clock, none)

theorem cancelResponse_eq_alter (ownerKey responseId : String) (clock : Clock) :
    (rt.cancelResponse codec ownerKey responseId clock).2 =
      rt.alter responseId (cancellation codec ownerKey clock) := by
  simp only [cancelResponse, alter]
  cases rt.entries responseId with
  | none => rfl
  | some record =>
      cases ha : record.accessible ownerKey clock with
      | false => simp [cancellation, ha]
      | true =>
          cases hb : record.background <;> simp [cancellation, ha, hb, storeConversation]

variable {record : StoredResponseRecord} {conversationId : Option String}

theorem alteration_ownerKey {worker : SpawnedWorker} {action : WorkerAction}
    {record' : StoredResponseRecord}
    (h : alteration codec worker record action = some (record', conversationId)) :
    record'.ownerKey = record.ownerKey := by
  cases action with
  | markInProgress clock =>
      simp only [alteration, Option.ite_none_left_eq_some, Option.some.injEq,
        Prod.mk.injEq] at h
      rw [← h.2.1, StoredResponseRecord.markInProgress]
  | result responseValue =>
      simp only [alteration, Option.ite_none_left_eq_some, Option.some.injEq,
        Prod.mk.injEq] at h
      rw [← h.2.1, StoredResponseRecord.withResult]
  | frame bytes clock =>
      simp only [alteration, Option.bind_eq_some_iff, Option.ite_none_left_eq_some,
        Option.map_eq_some_iff, Prod.mk.injEq] at h
      obtain ⟨_, _, _, _, _, rfl, _⟩ := h
      rfl
  | snapshot responseValue terminal =>
      simp only [alteration, Option.ite_none_left_eq_some, Option.some.injEq,
        Prod.mk.injEq] at h
      rw [← h.2.1, StoredResponseRecord.withSnapshot]
  | failure requestBody statusCode responseBody clock =>
      simp only [alteration, Option.ite_none_left_eq_some, Option.some.injEq,
        Prod.mk.injEq] at h
      rw [← h.2.1, StoredResponseRecord.withFailure]

variable {ownerKey : String} {clock : Clock}

theorem cancellation_ownerKey {record' : StoredResponseRecord}
    (h : cancellation codec ownerKey clock record = some (record', conversationId)) :
    record'.ownerKey = record.ownerKey := by
  simp only [cancellation, Option.ite_none_left_eq_some, Option.some.injEq,
    Prod.mk.injEq] at h
  rw [← h.2.1, StoredResponseRecord.cancel]
  split <;> rfl

theorem cancellation_of_ne (h : record.ownerKey ≠ ownerKey) :
    cancellation codec ownerKey clock record = none := by
  simp [cancellation, StoredResponseRecord.accessible, h]

/-! ## Without the entries of one owner -/

/-- What is stored for all owners but `b`. -/
def without (b : String) (rt : BackgroundResponsesRuntime) : BackgroundResponsesRuntime where
  entries := withoutOwner StoredResponseRecord.ownerKey b rt.entries
  conversations := withoutOwner ConversationCursor.ownerKey b rt.conversations
  continuationCursors := withoutOwner ConversationCursor.ownerKey b rt.continuationCursors
  retention := rt.retention

theorem without_store (h : record.ownerKey ≠ b) :
    (rt.store r record).without b = (rt.without b).store r record := by
  simp [without, store, withoutOwner_update h]

theorem without_store_self (h : record.ownerKey = b)
    (hr : ∀ record' ∈ rt.entries r, record'.ownerKey = b) :
    (rt.store r record).without b = rt.without b := by
  simp [without, store, withoutOwner_update_self h hr]

theorem without_conversations {c : String} {cursor : ConversationCursor}
    (h : cursor.ownerKey ≠ b) :
    without b { rt with conversations := Function.update rt.conversations c (some cursor) } =
      { rt.without b with
        conversations := Function.update (rt.without b).conversations c (some cursor) } := by
  simp [without, withoutOwner_update h]

theorem without_conversations_self {c : String} {cursor : ConversationCursor}
    (h : cursor.ownerKey = b)
    (hc : ∀ cursor' ∈ rt.conversations c, cursor'.ownerKey = b) :
    without b { rt with conversations := Function.update rt.conversations c (some cursor) } =
      rt.without b := by
  simp [without, withoutOwner_update_self h hc]

theorem without_storeConversation (h : record.ownerKey ≠ b) :
    ((rt.store r record).storeConversation conversationId record).without b =
      ((rt.without b).store r record).storeConversation conversationId record := by
  unfold storeConversation
  split
  · rw [without_conversations h, without_store h]
  · exact without_store h

theorem without_storeConversation_self (h : record.ownerKey = b)
    (hr : ∀ record' ∈ rt.entries r, record'.ownerKey = b)
    (hc : ∀ c ∈ conversationId, ∀ cursor ∈ rt.conversations c, cursor.ownerKey = b) :
    ((rt.store r record).storeConversation conversationId record).without b =
      rt.without b := by
  unfold storeConversation
  split
  · rename_i c finalResponseId _
    have hcursor : ∀ cursor ∈ (rt.store r record).conversations c, cursor.ownerKey = b :=
      hc c rfl
    rw [without_conversations_self h hcursor, without_store_self h hr]
  · exact without_store_self h hr

theorem without_storeContinuationCursor {key responseId : String} (h : ownerKey ≠ b) :
    (rt.storeContinuationCursor ownerKey key responseId clock).without b =
      (rt.without b).storeContinuationCursor ownerKey key responseId clock := by
  simp [without, storeContinuationCursor, withoutOwner_update, h]

theorem without_storeContinuationCursor_self {key responseId : String}
    (hc : ∀ cursor ∈ rt.continuationCursors key, cursor.ownerKey = ownerKey) :
    (rt.storeContinuationCursor ownerKey key responseId clock).without ownerKey =
      rt.without ownerKey := by
  have howner : (⟨ownerKey, responseId, clock.instant + rt.retention⟩ :
      ConversationCursor).ownerKey = ownerKey := rfl
  simp [without, storeContinuationCursor, withoutOwner_update_self howner hc]

theorem without_alter
    (howner : ∀ record record' c, f record = some (record', c) →
      record'.ownerKey = record.ownerKey)
    (hb : ∀ record ∈ rt.entries r, record.ownerKey = b → f record = none) :
    (rt.alter r f).without b = (rt.without b).alter r f := by
  have hbind : ((rt.without b).entries r).bind f = (rt.entries r).bind f :=
    withoutOwner_bind hb
  unfold alter
  rw [hbind]
  cases hf : (rt.entries r).bind f with
  | none => rfl
  | some altered =>
      obtain ⟨record, hrecord, hfr⟩ := Option.bind_eq_some_iff.1 hf
      have hne : altered.1.ownerKey ≠ b := by
        rw [howner _ _ _ hfr]
        intro h
        rw [hb record hrecord h] at hfr
        cases hfr
      exact without_storeConversation hne

/-- An alteration of a record of `b` alone. -/
theorem without_alter_self
    (howner : ∀ record record' c, f record = some (record', c) →
      record'.ownerKey = record.ownerKey)
    (hb : ∀ record ∈ rt.entries r, record.ownerKey ≠ b → f record = none)
    (hc : ∀ record record' c, f record = some (record', some c) →
      ∀ cursor ∈ rt.conversations c, cursor.ownerKey = b) :
    (rt.alter r f).without b = rt.without b := by
  unfold alter
  cases hf : (rt.entries r).bind f with
  | none => rfl
  | some altered =>
      obtain ⟨record, hrecord, hfr⟩ := Option.bind_eq_some_iff.1 hf
      have hown : record.ownerKey = b := by
        by_contra h
        rw [hb record hrecord h] at hfr
        cases hfr
      have hown' : altered.1.ownerKey = b := (howner _ _ _ hfr).trans hown
      have hcursor : ∀ c ∈ altered.2, ∀ cursor ∈ rt.conversations c,
          cursor.ownerKey = b := by
        intro c hcm
        exact hc record altered.1 c (by rw [hfr, ← Option.mem_def.1 hcm])
      have hentry : ∀ record' ∈ rt.entries r, record'.ownerKey = b := by
        intro record' h'
        rw [hrecord] at h'
        rw [← Option.mem_some_iff.1 h', hown]
      exact without_storeConversation_self hown' hentry hcursor

theorem owner_of_mem_alter
    (howner : ∀ record record' c, f record = some (record', c) →
      record'.ownerKey = record.ownerKey)
    {k : String} {record' : StoredResponseRecord} (h : record' ∈ (rt.alter r f).entries k) :
    ∃ record ∈ rt.entries k, record'.ownerKey = record.ownerKey := by
  unfold alter at h
  cases hf : (rt.entries r).bind f with
  | none => exact ⟨record', by simpa [hf] using h, rfl⟩
  | some altered =>
      obtain ⟨record, hrecord, hfr⟩ := Option.bind_eq_some_iff.1 hf
      simp only [hf, entries_storeConversation, store] at h
      by_cases hk : k = r
      · subst hk
        rw [Function.update_self, Option.mem_some_iff] at h
        exact ⟨record, hrecord, by rw [← h, howner _ _ _ hfr]⟩
      · rw [Function.update_of_ne hk] at h
        exact ⟨record', h, rfl⟩

theorem without_cleanupExpired (clock : Clock) :
    (rt.cleanupExpired clock).without b = (rt.without b).cleanupExpired clock := by
  simp [without, cleanupExpired, withoutOwner_filter]

/-- The lookups of other owners read what is left. -/
theorem lookup_without {a : String} (hab : a ≠ b) (clock : Clock) (l : ResponsesLookup) :
    (rt.without b).lookup a clock l = rt.lookup a clock l := by
  have haccess : ∀ record : StoredResponseRecord, record.ownerKey = b →
      record.accessible a clock = false := by
    intro record h
    simp [StoredResponseRecord.accessible, h, hab.symm]
  have hcursor : ∀ cursor : ConversationCursor, cursor.ownerKey = b →
      cursorResponseId (some cursor) a clock = none := by
    intro cursor h
    simp [cursorResponseId, h, hab.symm]
  have hentry (r : String) := withoutOwner_cases StoredResponseRecord.ownerKey b
    rt.entries r
  cases l with
  | response r =>
      obtain h | ⟨h, record, hr, ho⟩ := hentry r <;>
        simp [lookup, lookupResponse, without, h]
      simp [hr, haccess record ho]
  | inputItems r query =>
      obtain h | ⟨h, record, hr, ho⟩ := hentry r <;>
        simp [lookup, lookupInputItems, without, h]
      simp [hr, haccess record ho]
  | conversation c =>
      obtain h | ⟨h, cursor, hc, ho⟩ := withoutOwner_cases
        ConversationCursor.ownerKey b rt.conversations c <;>
        simp [lookup, currentConversationResponseId, without, h]
      rw [hc, hcursor cursor ho, cursorResponseId]
  | continuationCursor key =>
      obtain h | ⟨h, cursor, hc, ho⟩ := withoutOwner_cases
        ConversationCursor.ownerKey b rt.continuationCursors key <;>
        simp [lookup, currentContinuationCursorResponseId, without, h]
      rw [hc, hcursor cursor ho, cursorResponseId]
  | stream r =>
      obtain h | ⟨h, record, hr, ho⟩ := hentry r <;>
        simp [lookup, streamResponse, without, h]
      simp [hr, haccess record ho]
  | streamRead r nextSequence =>
      obtain h | ⟨h, record, hr, ho⟩ := hentry r <;>
        simp [lookup, readStream, without, h]
      simp [hr, haccess record ho]

end BackgroundResponsesRuntime

section Run

variable (codec : SerdeJson)

def responsesStep (st : ResponsesState) : ResponsesCall → ResponsesState
  | .storeCompletedResponse ownerKey requestBody responseBody conversationId forceStore clock =>
    { st with
      runtime := st.runtime.storeCompletedResponse codec ownerKey requestBody responseBody
        conversationId forceStore clock }
  | .storeContinuationCursor ownerKey key responseId clock =>
    { st with runtime := st.runtime.storeContinuationCursor ownerKey key responseId clock }
  | .queueBackgroundResponse worker requestBody clock =>
    { runtime := st.runtime.queueBackgroundResponse worker.responseId worker.ownerKey
        requestBody worker.conversationId clock
      workers := worker :: st.workers }
  | .worker worker action =>
    -- only a worker that was spawned writes into a record
    if worker ∈ st.workers then { st with runtime := st.runtime.act codec worker action }
    else st
  | .cancelResponse ownerKey responseId clock =>
    { st with runtime := (st.runtime.cancelResponse codec ownerKey responseId clock).2 }
  | .lookup .. => st
  | .cleanupExpired clock => { st with runtime := st.runtime.cleanupExpired clock }

def responsesAnswer (st : ResponsesState) : ResponsesCall → ResponsesAnswer
  | .lookup ownerKey lookup clock => st.runtime.lookup ownerKey clock lookup
  | _ => .none

/-- Nothing that another owner has stored or queued has the id. -/
def ResponsesState.FreeFor (st : ResponsesState) (b responseId : String) : Prop :=
  (∀ record ∈ st.runtime.entries responseId, record.ownerKey = b) ∧
    ∀ worker ∈ st.workers, worker.responseId = responseId → worker.ownerKey = b

instance (st : ResponsesState) (b responseId : String) : Decidable (st.FreeFor b responseId) :=
  inferInstanceAs (Decidable (_ ∧ _))

/-- The conversation whose cursor an action of the worker may write. -/
def WorkerAction.conversation (worker : SpawnedWorker) : WorkerAction → Option String
  | .result _ => worker.conversationId
  | .snapshot _ terminal => if terminal then worker.conversationId else none
  | _ => none

/-- A call of the owner `b` writes over nothing but what is its own. -/
def WritesOwn (b : String) (st : ResponsesState) : ResponsesCall → Prop
  | .storeCompletedResponse ownerKey requestBody responseBody conversationId forceStore _ =>
    ownerKey = b → ∀ stored ∈ BackgroundResponsesRuntime.completedResponse codec requestBody
      responseBody conversationId forceStore,
        st.FreeFor b stored.1 ∧
          ∀ c ∈ conversationId, ∀ cursor ∈ st.runtime.conversations c, cursor.ownerKey = b
  | .storeContinuationCursor ownerKey key _ _ =>
    ownerKey = b → ∀ cursor ∈ st.runtime.continuationCursors key, cursor.ownerKey = b
  | .queueBackgroundResponse worker _ _ =>
    worker.ownerKey = b → st.FreeFor b worker.responseId
  | .worker worker action =>
    worker.ownerKey = b →
      (∀ record ∈ st.runtime.entries worker.responseId, record.ownerKey = b) ∧
        ∀ c ∈ action.conversation worker, ∀ cursor ∈ st.runtime.conversations c,
          cursor.ownerKey = b
  | _ => True

instance (b : String) (st : ResponsesState) :
    ∀ call, Decidable (WritesOwn codec b st call)
  | .storeCompletedResponse .. => inferInstanceAs (Decidable (_ → _))
  | .storeContinuationCursor .. => inferInstanceAs (Decidable (_ → _))
  | .queueBackgroundResponse .. => inferInstanceAs (Decidable (_ → _))
  | .worker .. => inferInstanceAs (Decidable (_ → _))
  | .cancelResponse .. => inferInstanceAs (Decidable True)
  | .lookup .. => inferInstanceAs (Decidable True)
  | .cleanupExpired _ => inferInstanceAs (Decidable True)

end Run

/-! ## Isolation -/

namespace ResponsesState

open BackgroundResponsesRuntime

variable {codec : SerdeJson} {st : ResponsesState} {b : String} {call : ResponsesCall}

/-- The state without the entries and the workers of the owner `b`. -/
def without (b : String) (st : ResponsesState) : ResponsesState where
  runtime := st.runtime.without b
  workers := st.workers.filter fun worker => worker.ownerKey ≠ b

/-- The workers of other owners find no record of `b`. -/
def WorkersApart (b : String) (st : ResponsesState) : Prop :=
  ∀ worker ∈ st.workers, worker.ownerKey ≠ b →
    ∀ record ∈ st.runtime.entries worker.responseId, record.ownerKey ≠ b

theorem WorkersApart.of_owners {rt : BackgroundResponsesRuntime} (h : st.WorkersApart b)
    (hrt : ∀ k, ∀ record' ∈ rt.entries k,
      ∃ record ∈ st.runtime.entries k, record'.ownerKey = record.ownerKey) :
    WorkersApart b { st with runtime := rt } := by
  intro worker hw hne record' hr'
  obtain ⟨record, hr, ho⟩ := hrt _ record' hr'
  rw [ho]
  exact h worker hw hne record hr

theorem WorkersApart.store {responseId : String} (h : st.WorkersApart b)
    (record : StoredResponseRecord) (hfree : record.ownerKey = b → st.FreeFor b responseId) :
    WorkersApart b { st with runtime := st.runtime.store responseId record } := by
  intro worker hw hne record' hr'
  by_cases hk : worker.responseId = responseId
  · simp only [hk, entries_store, Option.mem_some_iff] at hr'
    intro hb
    rw [← hr'] at hb
    exact hne ((hfree hb).2 worker hw hk)
  · simp only [entries_store_of_ne _ hk] at hr'
    exact h worker hw hne record' hr'

/-- What a step leaves of the workers and the records keeps them apart. -/
theorem WorkersApart.step (h : st.WorkersApart b) (hown : WritesOwn codec b st call) :
    (responsesStep codec st call).WorkersApart b := by
  cases call with
  | storeCompletedResponse ownerKey requestBody responseBody conversationId forceStore clock =>
      simp only [responsesStep]
      cases hs : completedResponse codec requestBody responseBody
          conversationId forceStore with
      | none =>
          rw [storeCompletedResponse_of_none hs]
          exact h
      | some stored =>
          have hstore := h.store (.completed ownerKey requestBody stored.1 stored.2 forceStore
            (clock.instant + st.runtime.retention)) fun hb => (hown hb _ hs).1
          rw [storeCompletedResponse_of_some hs]
          exact hstore.of_owners fun k record' hr' => ⟨record', by simpa using hr', rfl⟩
  | storeContinuationCursor ownerKey key responseId clock => exact h
  | queueBackgroundResponse spawned requestBody clock =>
      intro worker hw hne record hr
      obtain rfl | hw := List.mem_cons.1 hw
      · simp only [responsesStep, queueBackgroundResponse,
          entries_store, Option.mem_some_iff] at hr
        rw [← hr]
        exact hne
      · have hstore : WorkersApart b { st with
            runtime := st.runtime.queueBackgroundResponse spawned.responseId spawned.ownerKey
              requestBody spawned.conversationId clock } := h.store _ hown
        exact hstore worker hw hne record hr
  | worker worker action =>
      simp only [responsesStep]
      split
      · rw [act_eq_alter]
        exact h.of_owners fun k record' hr' => owner_of_mem_alter
          (fun _ _ _ ha => alteration_ownerKey ha) hr'
      · exact h
  | cancelResponse ownerKey responseId clock =>
      simp only [responsesStep]
      rw [cancelResponse_eq_alter]
      exact h.of_owners fun k record' hr' => owner_of_mem_alter
        (fun _ _ _ ha => cancellation_ownerKey ha) hr'
  | lookup ownerKey lookup clock => exact h
  | cleanupExpired clock =>
      refine h.of_owners fun k record' hr' => ⟨record', ?_, rfl⟩
      exact (Option.mem_filter_iff.1 hr').1

theorem conversation_of_alteration {worker : SpawnedWorker} {action : WorkerAction}
    {record record' : StoredResponseRecord} {c : String}
    (h : alteration codec worker record action =
      some (record', some c)) : c ∈ action.conversation worker := by
  cases action <;>
    simp_all [alteration, WorkerAction.conversation,
      Option.bind_eq_some_iff]

theorem without_step_of_eq (hb : call.ownerKey = some b) (hown : WritesOwn codec b st call) :
    (responsesStep codec st call).without b = st.without b := by
  cases call with
  | storeCompletedResponse ownerKey requestBody responseBody conversationId forceStore clock =>
      obtain rfl : ownerKey = b := Option.some.inj hb
      simp only [responsesStep]
      cases hs : completedResponse codec requestBody responseBody
          conversationId forceStore with
      | none => rw [storeCompletedResponse_of_none hs]
      | some stored =>
          obtain ⟨hfree, hcursor⟩ := hown rfl _ hs
          have howner := StoredResponseRecord.ownerKey_completed ownerKey requestBody stored.1
            stored.2 forceStore (clock.instant + st.runtime.retention)
          simp only [storeCompletedResponse_of_some hs, without]
          rw [without_storeConversation_self howner hfree.1 hcursor]
  | storeContinuationCursor ownerKey key responseId clock =>
      obtain rfl : ownerKey = b := Option.some.inj hb
      simp only [responsesStep, without]
      rw [without_storeContinuationCursor_self (hown rfl)]
  | queueBackgroundResponse worker requestBody clock =>
      obtain rfl : worker.ownerKey = b := Option.some.inj hb
      simp only [responsesStep, without, queueBackgroundResponse]
      rw [List.filter_cons_of_neg (by simp)]
      congr 1
      exact without_store_self rfl (hown rfl).1
  | worker worker action =>
      obtain rfl : worker.ownerKey = b := Option.some.inj hb
      obtain ⟨hrecord, hcursor⟩ := hown rfl
      simp only [responsesStep]
      split
      · rw [act_eq_alter, without,
          without_alter_self
            (fun _ _ _ ha => alteration_ownerKey ha)
            (fun record hr hne => absurd (hrecord record hr) hne)
            (fun _ _ c ha => hcursor c (conversation_of_alteration ha))]
        rfl
      · rfl
  | cancelResponse ownerKey responseId clock =>
      obtain rfl : ownerKey = b := Option.some.inj hb
      simp only [responsesStep]
      rw [cancelResponse_eq_alter, without,
        without_alter_self
          (fun _ _ _ ha => cancellation_ownerKey ha)
          (fun record hr hne => cancellation_of_ne hne)
          (fun _ _ c ha => by simp [cancellation] at ha)]
      rfl
  | lookup ownerKey lookup clock => rfl
  | cleanupExpired clock => cases hb

theorem without_step_of_ne (h : st.WorkersApart b) (hb : call.ownerKey ≠ some b) :
    (responsesStep codec st call).without b = responsesStep codec (st.without b) call := by
  cases call with
  | storeCompletedResponse ownerKey requestBody responseBody conversationId forceStore clock =>
      have hne : ownerKey ≠ b := fun h => hb (congrArg some h)
      simp only [responsesStep]
      cases hs : completedResponse codec requestBody responseBody
          conversationId forceStore with
      | none => simp only [storeCompletedResponse_of_none hs, without]
      | some stored =>
          simp only [storeCompletedResponse_of_some hs, without]
          have howner : (StoredResponseRecord.completed ownerKey requestBody stored.1 stored.2
              forceStore (clock.instant + st.runtime.retention)).ownerKey ≠ b := hne
          rw [without_storeConversation howner]
          rfl
  | storeContinuationCursor ownerKey key responseId clock =>
      have hne : ownerKey ≠ b := fun h => hb (congrArg some h)
      simp only [responsesStep, without]
      rw [without_storeContinuationCursor hne]
  | queueBackgroundResponse worker requestBody clock =>
      have hne : worker.ownerKey ≠ b := fun h => hb (congrArg some h)
      simp only [responsesStep, without, queueBackgroundResponse]
      rw [List.filter_cons_of_pos (by simp [hne]), without_store (by exact hne)]
      rfl
  | worker worker action =>
      have hne : worker.ownerKey ≠ b := fun h => hb (congrArg some h)
      have hmem : worker ∈ (st.without b).workers ↔ worker ∈ st.workers := by
        simp [without, hne]
      simp only [responsesStep, hmem]
      split
      · rename_i hw
        simp only [act_eq_alter, without]
        rw [without_alter
          (fun _ _ _ ha => alteration_ownerKey ha)
          (fun record hr ho => absurd ho (h worker hw hne record hr))]
      · rfl
  | cancelResponse ownerKey responseId clock =>
      have hne : ownerKey ≠ b := fun h => hb (congrArg some h)
      simp only [responsesStep, cancelResponse_eq_alter, without]
      rw [without_alter
        (fun _ _ _ ha => cancellation_ownerKey ha)
        (fun record _ ho => cancellation_of_ne
          (ho ▸ hne.symm))]
  | lookup ownerKey lookup clock => rfl
  | cleanupExpired clock =>
      simp only [responsesStep, without, without_cleanupExpired]

end ResponsesState

section Isolation

variable (codec : SerdeJson)

def ResponsesCall.isOf (b : String) (call : ResponsesCall) : Bool :=
  call.ownerKey = some b

/-- The lookups of the owner `a`. -/
def ResponsesCall.isLookupOf (a : String) (call : ResponsesCall) : Bool :=
  call.isLookup && call.isOf a

theorem unwinding_without {a b : String} (hab : a ≠ b) :
    Unwinding (responsesStep codec) responsesAnswer (WritesOwn codec b)
      (ResponsesCall.isOf b) (ResponsesCall.isLookupOf a) (ResponsesState.WorkersApart b)
      (ResponsesState.without b) where
  inv_step h hown := h.step hown
  erase_hidden _ hown hb :=
    ResponsesState.without_step_of_eq (by simpa [ResponsesCall.isOf] using hb) hown
  erase_shown h hb :=
    ResponsesState.without_step_of_ne h (by simpa [ResponsesCall.isOf] using hb)
  answer_erase {st call} _ hobs := by
    simp only [ResponsesCall.isLookupOf, ResponsesCall.isOf, Bool.and_eq_true,
      decide_eq_true_eq] at hobs
    cases call with
    | lookup ownerKey lookup clock =>
        obtain rfl : ownerKey = a := Option.some.inj hobs.2
        exact (BackgroundResponsesRuntime.lookup_without hab clock lookup).symm
    | _ => cases hobs.1
  shown {call} hobs := by
    simp only [ResponsesCall.isLookupOf, ResponsesCall.isOf, Bool.and_eq_true,
      decide_eq_true_eq] at hobs
    simp [ResponsesCall.isOf, hobs.2, hab]

/-- The answers to the lookups of `a` in a run from the start. -/
def answersTo (a : String) (retention : Nat) (calls : List ResponsesCall) :
    List ResponsesAnswer :=
  answers (responsesStep codec) responsesAnswer (ResponsesCall.isLookupOf a)
    ⟨.new retention, []⟩ calls

/-- Two runs that differ in calls of `b` alone give `a` the same answers as long as `b`
writes over nothing but its own entries. -/
theorem answersTo_eq_of_writesOwn {a b : String} (hab : a ≠ b) (retention : Nat)
    {calls calls' : List ResponsesCall}
    (hcalls : (calls.filter fun call => !call.isOf b) =
      calls'.filter fun call => !call.isOf b)
    (h : Along (responsesStep codec) (WritesOwn codec b) ⟨.new retention, []⟩ calls)
    (h' : Along (responsesStep codec) (WritesOwn codec b) ⟨.new retention, []⟩ calls') :
    answersTo codec a retention calls = answersTo codec a retention calls' :=
  (unwinding_without codec hab).answers_eq h h' (fun _ hw => by cases hw) hcalls

end Isolation

/-! Two tenants, each with a completed response in a conversation. -/

def tenantBody (responseId : String) : Bytes :=
  Bytes.ofAscii ("\x7b\"id\":\"" ++ responseId ++ "\"\x7d")

/-- The codec on the bodies of the two tenants. -/
def tenantCodec : SerdeJson where
  fromSlice bytes :=
    (["resp_a", "resp_b"].find? fun responseId => bytes = tenantBody responseId).map
      fun responseId => .obj [("id", .str responseId)]
  toText _ := ""

def tenantStores (ownerKey responseId conversationId : String) : ResponsesCall :=
  .storeCompletedResponse ownerKey (.obj []) (tenantBody responseId) (some conversationId)
    false ⟨0, 0⟩

def tenantContinues (conversationId : String) : ResponsesCall :=
  .lookup "tenant_a" (.conversation conversationId) ⟨0, 0⟩

def ResponsesAnswer.cursor : ResponsesAnswer → Option String
  | .responseId cursor => cursor
  | _ => Option.none

/-- A tenant that stores a response under the conversation id of another takes the
cursor away from it. -/
theorem answersTo_ne_of_shared_conversation :
    ¬ ∀ (codec : SerdeJson) (a b : String), a ≠ b → ∀ (retention : Nat)
      (calls calls' : List ResponsesCall),
      ((calls.filter fun call => !call.isOf b) = calls'.filter fun call => !call.isOf b) →
      answersTo codec a retention calls = answersTo codec a retention calls' := by
  intro h
  have hanswers := h tenantCodec "tenant_a" "tenant_b" (by decide) 86400
    [tenantStores "tenant_a" "resp_a" "conv_1", tenantStores "tenant_b" "resp_b" "conv_1",
      tenantContinues "conv_1"]
    [tenantStores "tenant_a" "resp_a" "conv_1", tenantContinues "conv_1"] rfl
  have hcursors := congrArg (List.map ResponsesAnswer.cursor) hanswers
  revert hcursors
  decide +kernel

/-- In conversations of their own the tenants do not see each other. -/
theorem answersTo_eq_of_own_conversation :
    (answersTo tenantCodec "tenant_a" 86400
      [tenantStores "tenant_a" "resp_a" "conv_1", tenantStores "tenant_b" "resp_b" "conv_2",
        tenantContinues "conv_1"]).map ResponsesAnswer.cursor = [some "resp_a"] := by
  have heq : answersTo tenantCodec "tenant_a" 86400
      [tenantStores "tenant_a" "resp_a" "conv_1", tenantStores "tenant_b" "resp_b" "conv_2",
        tenantContinues "conv_1"] =
      answersTo tenantCodec "tenant_a" 86400
        [tenantStores "tenant_a" "resp_a" "conv_1", tenantContinues "conv_1"] :=
    answersTo_eq_of_writesOwn tenantCodec (show "tenant_a" ≠ "tenant_b" by decide) 86400 rfl
      (by decide +kernel) (by decide +kernel)
  rw [heq]
  decide +kernel

end CodexPool
