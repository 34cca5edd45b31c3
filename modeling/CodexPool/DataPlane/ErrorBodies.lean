import CodexPool.DataPlane.SnapshotPoller
import CodexPool.Lib.CharBoundary
import CodexPool.Responses.Store

/-!
# Error bodies in the snapshot poller

An answer with an error status is reported with the first 200 bytes of its body. The cut panics
inside a character, and the task of the poller ends with the panic.
-/

namespace CodexPool

/-- An answer of the events endpoint: the text of its body, which may fail to arrive, and what its
JSON is decoded to. -/
structure EventsHttpResponse where
  status : Nat
  body : Option String
  payload : Option DataPlaneSnapshotEventsResponse

/-- The errors of a poll; the text of the second one shows the status and a part of the body. -/
inductive PollError where
  | cursorGone
  | status (status : Nat) (shown : Bytes)
  | request
  | decode

/-- The cut of a body, or `none` for a panic. -/
def truncateBody (body : String) : Option Bytes := (Bytes.ofString body).truncate 200

/-- The half of `poll_events_once` that reads the answer; `none` is a panic, and no answer is a
request that failed. -/
def readEvents :
    Option EventsHttpResponse → Option (Except PollError DataPlaneSnapshotEventsResponse)
  | none => some (.error .request)
  | some response =>
    if response.status = 410 then some (.error .cursorGone)
    else if !isSuccess response.status then
      (truncateBody (response.body.getD "")).map fun shown =>
        .error (.status response.status shown)
    else
      match response.payload with
      | none => some (.error .decode)
      | some payload => some (.ok payload)

/-- What the rest of the poller sees of an answer. -/
def answerOf : Except PollError DataPlaneSnapshotEventsResponse → EventsAnswer
  | .ok payload => .events payload
  | .error .cursorGone => .gone
  | .error (.status _ _) => .failed
  | .error .request => .failed
  | .error .decode => .failed

/-- The answers in one round. -/
structure HttpAnswers where
  initial : Option DataPlaneSnapshot
  events : Option EventsHttpResponse
  reload : Option DataPlaneSnapshot

namespace SnapshotPoller

variable (p : SnapshotPoller)

def pollHttp (events : Option EventsHttpResponse) (reload : Option DataPlaneSnapshot) :
    Option SnapshotPoller :=
  (readEvents events).map fun result => p.poll (answerOf result) reload

/-- One round of `run`, or `none` where its task ends with a panic. -/
def runOnceHttp (answers : HttpAnswers) : Option SnapshotPoller :=
  if p.cursor = 0 then
    match p.fetchFullSnapshot answers.initial with
    | none => some p
    | some p' => p'.pollHttp answers.events answers.reload
  else p.pollHttp answers.events answers.reload

def runHttp (rounds : List HttpAnswers) : Option SnapshotPoller :=
  rounds.foldlM runOnceHttp p

end SnapshotPoller

/-! ## Bodies that can be cut -/

/-- The body has at most 200 bytes, or one of its characters starts after the first 200 ones. -/
def Cuttable (body : String) : Prop :=
  (Bytes.ofString body).length ≤ 200 ∨
    ∃ shown rest, body = shown ++ rest ∧ (Bytes.ofString shown).length = 200

theorem ofString_ofList (cs : List Char) :
    Bytes.ofString (String.ofList cs) = Bytes.ofChars cs := by
  rw [Bytes.ofString_eq_ofChars, String.toList_ofList]

theorem truncateBody_ofList (cs : List Char) :
    truncateBody (String.ofList cs) = (Bytes.ofChars cs).truncate 200 := by
  rw [truncateBody, ofString_ofList]

/-- What is left of a body is its beginning, of at most 200 bytes. -/
theorem truncateBody_eq_some {body : String} {kept : Bytes} (h : truncateBody body = some kept) :
    ∃ shown rest, body = shown ++ rest ∧ kept = Bytes.ofString shown ∧ kept.length ≤ 200 := by
  rw [truncateBody, Bytes.ofString_eq_ofChars, Bytes.truncate_ofChars] at h
  rcases h with ⟨hshort, rfl⟩ | ⟨cs, cs', hsplit, hlength, rfl⟩
  · exact ⟨body, "", String.append_empty.symm, (Bytes.ofString_eq_ofChars body).symm, hshort.le⟩
  · refine ⟨String.ofList cs, String.ofList cs', ?_, (ofString_ofList cs).symm, hlength.le⟩
    rw [← String.ofList_append, ← hsplit, String.ofList_toList]

theorem truncateBody_isSome_iff (body : String) :
    (truncateBody body).isSome ↔ Cuttable body := by
  rw [Option.isSome_iff_exists]
  constructor
  · rintro ⟨kept, h⟩
    rw [truncateBody, Bytes.ofString_eq_ofChars, Bytes.truncate_ofChars] at h
    rcases h with ⟨hshort, -⟩ | ⟨cs, cs', hsplit, hlength, -⟩
    · rw [← Bytes.ofString_eq_ofChars] at hshort
      exact Or.inl hshort.le
    · refine Or.inr ⟨String.ofList cs, String.ofList cs', ?_, ?_⟩
      · rw [← String.ofList_append, ← hsplit, String.ofList_toList]
      · rw [ofString_ofList, hlength]
  · rintro (hshort | ⟨shown, rest, rfl, hlength⟩)
    · rcases hshort.lt_or_eq with hlt | heq
      · refine ⟨Bytes.ofString body, ?_⟩
        rw [truncateBody, Bytes.ofString_eq_ofChars, Bytes.truncate_ofChars,
          ← Bytes.ofString_eq_ofChars]
        exact Or.inl ⟨hlt, rfl⟩
      · refine ⟨Bytes.ofString body, ?_⟩
        rw [truncateBody, Bytes.ofString_eq_ofChars, Bytes.truncate_ofChars,
          ← Bytes.ofString_eq_ofChars]
        refine Or.inr ⟨body.toList, [], (List.append_nil _).symm, ?_, ?_⟩
        · rw [← Bytes.ofString_eq_ofChars, heq]
        · exact Bytes.ofString_eq_ofChars body
    · refine ⟨Bytes.ofString shown, ?_⟩
      rw [truncateBody, Bytes.ofString_eq_ofChars, Bytes.truncate_ofChars]
      refine Or.inr ⟨shown.toList, rest.toList, String.toList_append, ?_, ?_⟩
      · rw [← Bytes.ofString_eq_ofChars, hlength]
      · exact Bytes.ofString_eq_ofChars shown

/-! ## Polls and rounds -/

theorem readEvents_error {status : Nat} {body : String}
    {payload : Option DataPlaneSnapshotEventsResponse} (hstatus : isSuccess status = false)
    (hgone : status ≠ 410) :
    readEvents (some ⟨status, some body, payload⟩) =
      (truncateBody body).map fun shown => .error (.status status shown) := by
  simp [readEvents, hgone, hstatus]

/-- No answer of the round is an error with a body that cannot be cut. -/
def HttpAnswers.Cuttable (answers : HttpAnswers) : Prop :=
  ∀ response, answers.events = some response → response.status ≠ 410 →
    isSuccess response.status = false → CodexPool.Cuttable (response.body.getD "")

theorem readEvents_isSome {answers : HttpAnswers} (h : answers.Cuttable) :
    (readEvents answers.events).isSome := by
  rw [HttpAnswers.Cuttable] at h
  cases hevents : answers.events with
  | none => rfl
  | some response =>
      simp only [readEvents]
      split_ifs with hgone hstatus
      · rfl
      · rw [Option.isSome_map, truncateBody_isSome_iff]
        exact h response hevents hgone (by simpa using hstatus)
      · cases response.payload <;> rfl

namespace SnapshotPoller

theorem runOnceHttp_isSome (p : SnapshotPoller) {answers : HttpAnswers} (h : answers.Cuttable) :
    (p.runOnceHttp answers).isSome := by
  rw [runOnceHttp]
  split
  · cases p.fetchFullSnapshot answers.initial with
    | none => rfl
    | some p' => simpa [pollHttp] using readEvents_isSome h
  · simpa [pollHttp] using readEvents_isSome h

theorem runHttp_isSome {rounds : List HttpAnswers} (h : ∀ answers ∈ rounds, answers.Cuttable)
    (p : SnapshotPoller) : (p.runHttp rounds).isSome := by
  induction rounds generalizing p with
  | nil => rfl
  | cons answers rounds ih =>
      rw [List.forall_mem_cons] at h
      obtain ⟨p', hp'⟩ := Option.isSome_iff_exists.1 (p.runOnceHttp_isSome h.1)
      rw [runHttp, List.foldlM_cons, hp']
      exact ih h.2 p'

/-- A poll that meets an error status reports it and goes on exactly if the body can be cut, and a
poller that meets no other bodies goes on for ever. -/
theorem survives_iff_cuttable (p : SnapshotPoller) :
    (∀ status body payload reload, isSuccess status = false → status ≠ 410 →
      ((∃ shown rest, body = shown ++ rest ∧ (Bytes.ofString shown).length ≤ 200 ∧
          truncateBody body = some (Bytes.ofString shown) ∧
          readEvents (some ⟨status, some body, payload⟩) =
            some (.error (.status status (Bytes.ofString shown))) ∧
          p.pollHttp (some ⟨status, some body, payload⟩) reload = some p) ↔
        Cuttable body)) ∧
      ∀ rounds : List HttpAnswers, (∀ answers ∈ rounds, answers.Cuttable) →
        (p.runHttp rounds).isSome := by
  refine ⟨?_, fun rounds h => runHttp_isSome h p⟩
  intro status body payload reload hstatus hgone
  rw [← truncateBody_isSome_iff, Option.isSome_iff_exists]
  constructor
  · rintro ⟨shown, -, -, -, hshown, -⟩
    exact ⟨_, hshown⟩
  · rintro ⟨kept, hkept⟩
    obtain ⟨shown, rest, hsplit, rfl, hlength⟩ := truncateBody_eq_some hkept
    have hread : readEvents (some ⟨status, some body, payload⟩) =
        some (.error (.status status (Bytes.ofString shown))) := by
      rw [readEvents_error hstatus hgone, hkept]
      rfl
    refine ⟨shown, rest, hsplit, hlength, hkept, hread, ?_⟩
    rw [pollHttp, hread]
    rfl

end SnapshotPoller

/-- An `a` and a hundred characters of two bytes each. -/
def wideBody : String := String.ofList ('a' :: List.replicate 100 'é')

/-- The cut of this body is inside of its last character. -/
theorem wideBody_panics :
    ¬ ∀ status body payload, isSuccess status = false → status ≠ 410 →
      ∃ shown, readEvents (some ⟨status, some body, payload⟩) =
        some (.error (.status status shown)) := by
  have hcut : Bytes.truncate (Bytes.ofChars ('a' :: List.replicate 100 'é')) 200 = none := by
    decide +kernel
  have hnone : truncateBody wideBody = none := (truncateBody_ofList _).trans hcut
  intro h
  obtain ⟨shown, hshown⟩ := h 502 wideBody none (by decide) (by decide)
  rw [readEvents_error (by decide) (by decide), hnone] at hshown
  cases hshown

end CodexPool
