import CodexPool.Responses.StreamLog
import Mathlib.Data.List.Induction

/-!
# Readers of a background stream

A reader copies the events that it has not sent yet under the lock, sends them
one by one and, unless the log has ended, waits to be notified. An append wakes
the readers that wait already. A reader that has read the log and does not wait
yet misses it: readers that wait have sent everything only in runs without such
appends.
-/

namespace CodexPool

inductive ReaderPhase where
  | reading
  /-- The events that are left to send, and the flag that was read with them. -/
  | sending (pending : List StoredStreamEvent) (terminal : Bool)
  /-- Waits at the notification, which has or has not come. -/
  | waiting (notified : Bool)
  | stopped

structure Reader where
  startingAfter : Option UInt64
  nextSequence : Nat
  phase : ReaderPhase
  delivered : List StoredStreamEvent

namespace Reader

/-- The first number that a reader sends; the sum wraps around. -/
def startSequence (startingAfter : Option UInt64) : Nat :=
  ((startingAfter.getD 0).toNat + 1) % 2 ^ 64

def new (startingAfter : Option UInt64) : Reader :=
  { startingAfter
    nextSequence := startSequence startingAfter
    phase := .reading
    delivered := [] }

/-- The reader waits, and no notification is on its way. -/
def Parked (r : Reader) : Prop := r.phase = .waiting false

def notify (r : Reader) : Reader :=
  match r.phase with
  | .waiting _ => { r with phase := .waiting true }
  | _ => r

end Reader

/-- What a reader does next. `gone` stands for a record that it does not find any
more, and `closed` for a client that does not read any more. -/
inductive ReaderEvent where
  | read
  | gone
  | send
  | closed
  | proceed

def Reader.step (stream : StoredResponseStream) (r : Reader) : ReaderEvent → Reader
  | .read =>
    match r.phase with
    | .reading =>
      let pending := stream.events.filter fun e => r.nextSequence ≤ e.sequenceNumber
      { r with phase := .sending pending stream.terminal }
    | _ => r
  | .gone =>
    match r.phase with
    | .reading => { r with phase := .stopped }
    | _ => r
  | .send =>
    match r.phase with
    | .sending (e :: pending) terminal =>
      { r with
        nextSequence := e.sequenceNumber + 1
        phase := .sending pending terminal
        delivered := r.delivered ++ [e] }
    | _ => r
  | .closed =>
    match r.phase with
    | .sending (_ :: _) _ => { r with phase := .stopped }
    | _ => r
  | .proceed =>
    match r.phase with
    | .sending [] true => { r with phase := .stopped }
    | .sending [] false => { r with phase := .waiting false }
    | .waiting true => { r with phase := .reading }
    | _ => r

/-- A log and its readers. -/
structure StreamState where
  stream : StoredResponseStream
  readers : Nat → Option Reader

inductive StreamInput where
  | attach (id : Nat) (startingAfter : Option UInt64)
  | append (eventName : Option String) (eventValue : Json)
  | reader (id : Nat) (event : ReaderEvent)

namespace StreamState

def init : StreamState := ⟨.new, fun _ => none⟩

def step (codec : SerdeJson) (w : StreamState) : StreamInput → StreamState
  | .attach id startingAfter =>
    match w.readers id with
    | some _ => w
    | none => { w with readers := Function.update w.readers id (some (.new startingAfter)) }
  | .append eventName eventValue =>
    { stream := (w.stream.appendFrame codec eventName eventValue).1
      readers := fun id => (w.readers id).map Reader.notify }
  | .reader id event =>
    { w with
      readers := Function.update w.readers id ((w.readers id).map (·.step w.stream event)) }

end StreamState

/-- The reader has read a log that had not ended, and does not wait yet. -/
def Reader.BetweenReadAndWait (r : Reader) : Prop :=
  match r.phase with
  | .sending _ false => True
  | _ => False

/-- No event is appended while a reader is between its read and its wait. -/
def AppendInOrder (w : StreamState) : StreamInput → Prop
  | .append _ _ => ∀ id, ∀ r ∈ w.readers id, ¬r.BetweenReadAndWait
  | .attach _ _ | .reader _ _ => True

/-! ## Numbered logs -/

theorem filter_sequenceNumber {l : List StoredStreamEvent}
    (h : l.map (·.sequenceNumber) = List.range' 1 l.length) (a : Nat) :
    l.filter (fun e => a ≤ e.sequenceNumber) = l.drop (a - 1) := by
  induction l using List.reverseRecOn with
  | nil => simp
  | append_singleton l e ih =>
      rw [List.map_append, List.length_append, List.length_singleton, List.range'_concat]
        at h
      obtain ⟨hl, he⟩ := List.append_inj' h rfl
      have he : e.sequenceNumber = 1 + l.length := by simpa using he
      rw [List.filter_append, ih hl]
      by_cases ha : a ≤ e.sequenceNumber
      · rw [List.drop_append_of_le_length (by omega)]
        simp [ha]
      · rw [List.drop_eq_nil_of_le (by omega),
          List.drop_eq_nil_of_le (by rw [List.length_append, List.length_singleton]; omega)]
        simp [ha]

theorem getElem_sequenceNumber {l : List StoredStreamEvent}
    (h : l.map (·.sequenceNumber) = List.range' 1 l.length) {n : Nat} (hn : n < l.length) :
    (l.get ⟨n, hn⟩).sequenceNumber = n + 1 := by
  have hget := congrArg (·[n]?) h
  simp only [List.getElem?_map, List.getElem?_eq_getElem hn, Option.map_some,
    List.getElem?_range' hn] at hget
  rw [List.get_eq_getElem, Option.some.inj hget]
  omega

/-! ## The invariant -/

namespace Reader

/-- The place of the first event in the log that was not sent. -/
def position (r : Reader) : Nat := r.nextSequence - 1

def startPosition (r : Reader) : Nat := startSequence r.startingAfter - 1

/-- What was sent is the part of the log between the start and the position of the
reader, and what it holds to send is the next part. Before it waits and while it
waits, that part reaches to the end of a log that has not ended. -/
structure Sound (stream : StoredResponseStream) (r : Reader) : Prop where
  start_le : r.startPosition ≤ r.position
  bound : r.position ≤ stream.events.length ∨ r.position = r.startPosition
  delivered : r.delivered = (stream.events.take r.position).drop r.startPosition
  pending : ∀ pending terminal, r.phase = .sending pending terminal →
    ∃ n ≤ stream.events.length, pending = (stream.events.take n).drop r.position
  atEnd : ∀ pending, r.phase = .sending pending false →
    pending = stream.events.drop r.position ∧ stream.terminal = false
  parked : r.Parked → stream.events.length ≤ r.position ∧ stream.terminal = false

theorem new_sound (stream : StoredResponseStream) (startingAfter : Option UInt64) :
    (new startingAfter).Sound stream := by
  refine ⟨Nat.le_refl _, .inr rfl, ?_, ?_, ?_, ?_⟩
  · have hlen : (stream.events.take (new startingAfter).position).length ≤
        (new startingAfter).startPosition := List.length_take_le _ _
    rw [List.drop_eq_nil_of_le hlen]
    rfl
  · intro _ _ h
    cases h
  · intro _ h
    cases h
  · intro h
    cases h

variable {stream : StoredResponseStream} {r : Reader}

theorem Sound.quiet (h : r.Sound stream) {phase : ReaderPhase}
    (hp : phase = .stopped ∨ phase = .reading ∨ phase = .waiting true) :
    Sound stream { r with phase } := by
  refine ⟨h.start_le, h.bound, h.delivered, ?_, ?_, ?_⟩
  · rintro pending terminal rfl
    simp at hp
  · rintro pending rfl
    simp at hp
  · intro hpark
    simp only [Parked] at hpark
    subst hpark
    simp at hp

theorem Sound.read (h : r.Sound stream) (hn : stream.Numbered) (hp : r.phase = .reading) :
    (r.step stream .read).Sound stream := by
  have hdrop := filter_sequenceNumber hn.numbers r.nextSequence
  simp only [step, hp]
  refine ⟨h.start_le, h.bound, h.delivered, ?_, ?_, ?_⟩
  · rintro pending terminal heq
    injection heq with hpend _
    refine ⟨stream.events.length, Nat.le_refl _, ?_⟩
    rw [← hpend, hdrop, List.take_length]
    rfl
  · rintro pending heq
    injection heq with hpend hterm
    exact ⟨hpend ▸ hdrop, hterm⟩
  · intro hpark
    cases hpark

/-- The event that is sent is the one at the position of the reader. -/
theorem Sound.send (h : r.Sound stream) (hn : stream.Numbered) {e : StoredStreamEvent}
    {pending : List StoredStreamEvent} {terminal : Bool}
    (hp : r.phase = .sending (e :: pending) terminal) :
    (r.step stream .send).Sound stream := by
  obtain ⟨n, hle, hpend⟩ := h.pending _ _ hp
  have hpos : r.position < n := by
    by_contra hge
    rw [List.drop_eq_nil_of_le (by rw [List.length_take]; omega)] at hpend
    cases hpend
  have hlt : r.position < stream.events.length := by omega
  rw [List.drop_eq_getElem_cons (by rw [List.length_take]; omega), List.getElem_take]
    at hpend
  obtain ⟨he, hrest⟩ := List.cons.inj hpend
  have hseq : e.sequenceNumber = r.position + 1 := by
    rw [he]
    exact getElem_sequenceNumber hn.numbers hlt
  have hstep : r.step stream .send =
      { r with
        nextSequence := e.sequenceNumber + 1
        phase := .sending pending terminal
        delivered := r.delivered ++ [e] } := by
    simp only [step, hp]
  have hnext : (r.step stream .send).position = r.position + 1 := by
    rw [hstep, ← hseq]
    rfl
  have hstart : (r.step stream .send).startPosition = r.startPosition := by
    rw [hstep]
    rfl
  refine ⟨?_, .inl ?_, ?_, ?_, ?_, ?_⟩
  all_goals simp only [hnext, hstart]
  · exact Nat.le_succ_of_le h.start_le
  · exact hlt
  · have hle : r.startPosition ≤ (stream.events.take r.position).length := by
      rw [List.length_take]
      exact Nat.le_min.2 ⟨h.start_le, Nat.le_trans h.start_le (Nat.le_of_lt hlt)⟩
    rw [List.take_succ_eq_append_getElem hlt, List.drop_append_of_le_length hle, ← he,
      ← h.delivered, hstep]
  · rw [hstep]
    rintro _ _ heq
    injection heq with hpend' _
    exact ⟨n, hle, hpend' ▸ hrest⟩
  · rw [hstep]
    rintro _ heq
    injection heq with hpend' hterm
    subst hterm hpend'
    obtain ⟨hall, hopen⟩ := h.atEnd _ hp
    rw [List.drop_eq_getElem_cons hlt] at hall
    exact ⟨(List.cons.inj hall).2, hopen⟩
  · rw [hstep]
    intro hpark
    cases hpark

theorem Sound.wait (h : r.Sound stream) (hp : r.phase = .sending [] false) :
    Sound stream { r with phase := .waiting false } := by
  obtain ⟨hall, hopen⟩ := h.atEnd _ hp
  refine ⟨h.start_le, h.bound, h.delivered, ?_, ?_, fun _ => ⟨?_, hopen⟩⟩
  · rintro _ _ heq
    cases heq
  · rintro _ heq
    cases heq
  · exact List.drop_eq_nil_iff.1 hall.symm

theorem Sound.step (h : r.Sound stream) (hn : stream.Numbered) (event : ReaderEvent) :
    (r.step stream event).Sound stream := by
  cases event with
  | read =>
      cases hp : r.phase with
      | reading => exact h.read hn hp
      | _ => simpa only [Reader.step, hp] using h
  | gone =>
      simp only [Reader.step]
      split
      · exact h.quiet (.inl rfl)
      · exact h
  | send =>
      rcases hp : r.phase with _ | ⟨⟨⟩ | ⟨e, pending⟩, terminal⟩ | _ | _
      case sending.cons => exact h.send hn hp
      all_goals simpa only [Reader.step, hp] using h
  | closed =>
      simp only [Reader.step]
      split
      · exact h.quiet (.inl rfl)
      · exact h
  | proceed =>
      simp only [Reader.step]
      split
      · exact h.quiet (.inl rfl)
      · rename_i hp
        exact h.wait hp
      · exact h.quiet (.inr (.inl rfl))
      · exact h

/-- An append does not change what was sent. It wakes the readers that wait. -/
theorem Sound.append (h : r.Sound stream) (hout : ¬r.BetweenReadAndWait)
    (codec : SerdeJson) (name : Option String) (value : Json) :
    r.notify.Sound (stream.appendFrame codec name value).1 := by
  obtain ⟨x, hevents⟩ : ∃ x, (stream.appendFrame codec name value).1.events =
      stream.events ++ [x] := ⟨_, rfl⟩
  have hdelivered : r.delivered =
      ((stream.events ++ [x]).take r.position).drop r.startPosition := by
    rcases h.bound with hle | heq
    · rw [List.take_append_of_le_length hle]
      exact h.delivered
    · have hnil : ∀ l : List StoredStreamEvent,
          (l.take r.position).drop r.startPosition = [] := by
        intro l
        exact List.drop_eq_nil_of_le (heq ▸ List.length_take_le _ _)
      rw [h.delivered, hnil, hnil]
  have hbound : r.position ≤ (stream.events ++ [x]).length ∨
      r.position = r.startPosition := by
    refine h.bound.imp_left fun hle => ?_
    rw [List.length_append]
    omega
  unfold notify
  split
  · refine ⟨h.start_le, hevents ▸ hbound, hevents ▸ hdelivered, ?_, ?_, ?_⟩
    · rintro _ _ heq
      cases heq
    · rintro _ heq
      cases heq
    · intro hpark
      cases hpark
  · rename_i hwait
    refine ⟨h.start_le, hevents ▸ hbound, hevents ▸ hdelivered, ?_, ?_, ?_⟩
    · intro pending terminal hp
      obtain ⟨n, hn, hpend⟩ := h.pending pending terminal hp
      refine ⟨n, by rw [hevents, List.length_append]; omega, ?_⟩
      rw [hevents, List.take_append_of_le_length hn]
      exact hpend
    · intro pending hp
      exact absurd (show r.BetweenReadAndWait by rw [BetweenReadAndWait, hp]; trivial) hout
    · intro hpark
      exact (hwait false hpark).elim

end Reader

/-! ## Runs -/

/-- The log is numbered, and every reader is sound. -/
structure StreamState.Sound (w : StreamState) : Prop where
  numbered : w.stream.Numbered
  readers : ∀ id, ∀ r ∈ w.readers id, r.Sound w.stream

theorem StreamState.init_sound : init.Sound :=
  ⟨StoredResponseStream.numbered_new, fun _ _ h => by cases h⟩

theorem StreamState.step_sound {codec : SerdeJson} (w : StreamState) (i : StreamInput)
    (hw : w.Sound) (hok : AppendInOrder w i) : (w.step codec i).Sound := by
  cases i with
  | attach id startingAfter =>
      simp only [step]
      split
      · exact hw
      · refine ⟨hw.numbered, fun id' r hr => ?_⟩
        simp only [Function.update_apply] at hr
        split at hr
        · obtain rfl := Option.some.inj hr
          exact Reader.new_sound _ _
        · exact hw.readers id' r hr
  | append name value =>
      refine ⟨hw.numbered.appendFrame codec name value, fun id r hr => ?_⟩
      obtain ⟨r₀, hr₀, rfl⟩ := Option.map_eq_some_iff.1 hr
      exact (hw.readers id r₀ hr₀).append (hok id r₀ hr₀) codec name value
  | reader id event =>
      refine ⟨hw.numbered, fun id' r hr => ?_⟩
      simp only [step, Function.update_apply] at hr
      split at hr
      · obtain ⟨r₀, hr₀, rfl⟩ := Option.map_eq_some_iff.1 hr
        exact (hw.readers id r₀ hr₀).step hw.numbered event
      · exact hw.readers id' r hr

/-- The events after a number, in a log that a parked reader has read to its end. -/
theorem Reader.Sound.delivered_of_parked {stream : StoredResponseStream} {r : Reader}
    (h : r.Sound stream) (hn : stream.Numbered) (hp : r.Parked) :
    r.delivered = stream.events.filter fun e =>
      Reader.startSequence r.startingAfter ≤ e.sequenceNumber := by
  rw [filter_sequenceNumber hn.numbers, h.delivered, List.take_of_length_le (h.parked hp).1]
  rfl

theorem Reader.startSequence_le (startingAfter : Option UInt64) :
    Reader.startSequence startingAfter ≤ (startingAfter.getD 0).toNat + 1 :=
  Nat.mod_le _ _

theorem StoredResponseStream.Numbered.pairwise {stream : StoredResponseStream}
    (h : stream.Numbered) :
    stream.events.Pairwise fun e e' => e.sequenceNumber < e'.sequenceNumber := by
  rw [← List.pairwise_map (R := (· < ·)), h.numbers]
  exact List.pairwise_lt_range' ..

/-- In every run without an append between the read and the wait of a reader, a
reader that is parked has sent every event after its start, in the order of the
log and each of them once, and the log has not ended. -/
theorem parked_reader_delivered (codec : SerdeJson) (inputs : List StreamInput)
    (h : Machine.Along (StreamState.step codec) AppendInOrder .init inputs) {id : Nat}
    {r : Reader}
    (hr : (Machine.run (StreamState.step codec) .init inputs).readers id = some r)
    (hp : r.Parked) :
    let stream := (Machine.run (StreamState.step codec) .init inputs).stream
    (∀ e ∈ stream.events, (r.startingAfter.getD 0).toNat < e.sequenceNumber →
        e ∈ r.delivered) ∧
      r.delivered.Sublist stream.events ∧
      r.delivered.Pairwise (fun e e' => e.sequenceNumber < e'.sequenceNumber) ∧
      stream.terminal = false := by
  intro stream
  have hw := h.invariant StreamState.step_sound StreamState.init_sound
  have hsound := hw.readers id r hr
  have hdel := hsound.delivered_of_parked hw.numbered hp
  have hsub : r.delivered.Sublist stream.events := by
    rw [hdel]
    exact List.filter_sublist
  refine ⟨fun e he hlt => ?_, hsub, hw.numbered.pairwise.sublist hsub, (hsound.parked hp).2⟩
  have hstart := Reader.startSequence_le r.startingAfter
  rw [hdel, List.mem_filter]
  exact ⟨he, decide_eq_true (by omega)⟩

/-! A reader of a log of one event, which comes before or after its read. -/

def sampleEvent : Json := .obj [("type", .str "response.completed")]

def sampleDelta : Json := .obj [("type", .str "response.output_text.delta")]

def sampleDelivered : List StreamInput :=
  [.attach 0 none, .append none sampleDelta, .reader 0 .read, .reader 0 .send,
    .reader 0 .proceed]

def sampleMissed : List StreamInput :=
  [.attach 0 none, .reader 0 .read, .append none sampleEvent, .reader 0 .proceed]

theorem sampleDelivered_along :
    Machine.Along (StreamState.step sampleCodec) AppendInOrder .init sampleDelivered := by
  refine ⟨trivial, fun id r hr => ?_, trivial, trivial, trivial, trivial⟩
  simp only [StreamState.step, StreamState.init, Function.update_apply] at hr
  split at hr
  · obtain rfl := Option.some.inj hr
    exact fun h => h
  · cases hr

theorem parked_reader_delivered_sample :
    ∃ r e, (Machine.run (StreamState.step sampleCodec) .init sampleDelivered).readers 0 =
        some r ∧ r.Parked ∧ e.sequenceNumber = 1 ∧ e ∈ r.delivered := by
  obtain ⟨r, hr, hp, hstart⟩ : ∃ r,
      (Machine.run (StreamState.step sampleCodec) .init sampleDelivered).readers 0 =
        some r ∧ r.Parked ∧ r.startingAfter = none := ⟨_, rfl, rfl, rfl⟩
  obtain ⟨e, he, hseq⟩ : ∃ e ∈ (Machine.run (StreamState.step sampleCodec) .init
      sampleDelivered).stream.events, e.sequenceNumber = 1 := ⟨_, List.mem_cons_self, rfl⟩
  have hdel := (parked_reader_delivered sampleCodec sampleDelivered sampleDelivered_along
    hr hp).1 e he
  refine ⟨r, e, hr, hp, hseq, hdel ?_⟩
  rw [hstart, hseq]
  decide

/-- The event that ends the log is appended between the read and the wait: the
reader is parked for good and has not sent it. -/
theorem parked_reader_missed :
    ∃ r e, (Machine.run (StreamState.step sampleCodec) .init sampleMissed).readers 0 =
        some r ∧ r.Parked ∧
      e ∈ (Machine.run (StreamState.step sampleCodec) .init sampleMissed).stream.events ∧
      (r.startingAfter.getD 0).toNat < e.sequenceNumber ∧ e ∉ r.delivered ∧
      (Machine.run (StreamState.step sampleCodec) .init sampleMissed).stream.terminal =
        true :=
  ⟨_, _, rfl, rfl, List.mem_cons_self, by decide, List.not_mem_nil, by decide +kernel⟩

end CodexPool
