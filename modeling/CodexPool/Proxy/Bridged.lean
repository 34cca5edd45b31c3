import CodexPool.Proxy.Holds

/-!
# Streams that are bridged to a body

A stream that was asked for on behalf of a client that wants a body is read to its end, and
the client gets the response of its completion. When there is none, the client gets an error.
The status of the upstream decides all the same what is settled and reported, so that the
attempt counts as a success.
-/

namespace CodexPool

namespace HandlerState

section Bridged

variable (codec : SerdeJson) (config : HandlerConfig)

def commands (s : HandlerState) : List BillingCommand := askedCommands s.events ++ s.task

/-- The hold of the session before is released, and nothing is captured. -/
def ReleasedOnly (s s' : HandlerState) : Prop :=
  (∀ session usage tier, BillingCommand.settle session usage tier ∈ s'.commands →
      BillingCommand.settle session usage tier ∈ s.commands) ∧
    ∀ session ∈ s.billingSession, ∃ payload : BillingReleaseRequest,
      .release payload ∈ s'.commands ∧ payload.requestId = session.requestId

/-- A reply that is an error is not charged, not counted as a success of the account, and
comes of a failure, which could have been retried. -/
def ChargedForSuccessOnly (s : HandlerState) (a : Attempt) (status : Nat)
    (headers : UpstreamHeaders) (body : Bytes) : Prop :=
  ∀ reply, (s.bridged codec config a status headers body).phase = .returned reply →
    isSuccess reply.status = false →
      ReleasedOnly s (s.bridged codec config a status headers body) ∧
        (s.bridged codec config a status headers body).seenOkReported = false ∧
        ∃ failure, s.bridged codec config a status headers body = s.fail config a failure

theorem bridged_of_isSuccess (s : HandlerState) (a : Attempt) {status : Nat}
    (hstatus : isSuccess status = true) (headers : UpstreamHeaders) (body : Bytes) :
    s.bridged codec config a status headers body =
      (s.settle codec status
        (bufferedCodexCompatResponse codec a.learned status headers body).2.2).succeed
        (bufferedCodexCompatResponse codec a.learned status headers body).1 := by
  simp only [bridged, hstatus, if_true]

theorem isSuccess_bufferedCodexCompatResponse (learned : LearnedDecisions) {status : Nat}
    (hstatus : isSuccess status = true) (headers : UpstreamHeaders) (body : Bytes) :
    isSuccess (bufferedCodexCompatResponse codec learned status headers body).1.status =
      (extractCodexCompletedResponse codec body).isSome := by
  have hlt : ¬ 400 ≤ status := by
    simp only [isSuccess, Bool.and_eq_true, decide_eq_true_eq] at hstatus
    omega
  rw [bufferedCodexCompatResponse, if_neg hlt]
  cases extractCodexCompletedResponse codec body with
  | none => rfl
  | some completedResponse => exact hstatus

/-- The client is charged for successes only if and only if the body has a completed
response. -/
theorem chargedForSuccessOnly_iff (s : HandlerState) (a : Attempt) {status : Nat}
    (hstatus : isSuccess status = true) (headers : UpstreamHeaders) (body : Bytes) :
    ChargedForSuccessOnly codec config s a status headers body ↔
      (extractCodexCompletedResponse codec body).isSome = true := by
  have hbridged := bridged_of_isSuccess codec config s a hstatus headers body
  have hreply := isSuccess_bufferedCodexCompatResponse codec a.learned hstatus headers body
  constructor
  · intro h
    by_contra hnone
    rw [Bool.not_eq_true] at hnone
    rw [hnone] at hreply
    have hreported := (h _ (by rw [hbridged]; rfl) hreply).2.1
    rw [hbridged] at hreported
    cases hreported
  · intro hsome reply hphase herror
    rw [hbridged] at hphase
    cases hphase
    rw [hreply, hsome] at herror
    cases herror

end Bridged

/-! A body that has a response, and one that has none. -/

def objectCodec : SerdeJson where
  fromSlice := (SerdeJson.ofTable [("\x7b\x7d", .obj [])]).fromSlice
  toText _ := "\x7b\x7d"

def bridgedState : HandlerState :=
  { init sampleHandlerConfig none with
    phase := .attempting true
    billingSession := some { sampleSession with estimatedInputTokens := 5 } }

theorem objectBody_chargedForSuccessOnly :
    ChargedForSuccessOnly objectCodec sampleHandlerConfig bridgedState
      (sampleAttempt .transportError) 200 ⟨none, none⟩ (Bytes.ofAscii "\x7b\x7d") :=
  (chargedForSuccessOnly_iff objectCodec sampleHandlerConfig bridgedState
    (sampleAttempt .transportError) rfl ⟨none, none⟩ (Bytes.ofAscii "\x7b\x7d")).2
    (by decide +kernel)

/-- The client gets an error for an empty stream, and its estimate is captured. -/
theorem emptyBody_not_chargedForSuccessOnly :
    ¬ ∀ (codec : SerdeJson) (config : HandlerConfig) (s : HandlerState) (a : Attempt)
      (status : Nat) (headers : UpstreamHeaders) (body : Bytes), isSuccess status = true →
      ChargedForSuccessOnly codec config s a status headers body := by
  intro h
  have hcharged := (h objectCodec sampleHandlerConfig bridgedState
    (sampleAttempt .transportError) 200 ⟨none, none⟩ [] rfl _ rfl (by decide +kernel)).1.1
    { sampleSession with estimatedInputTokens := 5 } ⟨5, 0, 0, 0⟩ none
  have hsettled : BillingCommand.settle { sampleSession with estimatedInputTokens := 5 }
      ⟨5, 0, 0, 0⟩ none ∈ (bridgedState.bridged objectCodec sampleHandlerConfig
        (sampleAttempt .transportError) 200 ⟨none, none⟩ []).commands := List.mem_singleton.2 rfl
  cases hcharged hsettled

end HandlerState

end CodexPool
