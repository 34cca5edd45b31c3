import CodexPool.ControlPlane.Store
import CodexPool.DataPlane.Snapshot

/-!
# The snapshot poller

A data plane asks the control plane for the events after its cursor, again and again.
When the control plane answers that it has the events after that cursor no more, the
poller reloads a full snapshot. The pauses between its requests are left out, and what
the control plane answers is an input.
-/

namespace CodexPool

/-- The answer to a request for events: the response, the status `410 Gone`, or any
other failure. -/
inductive EventsAnswer where
  | events (response : DataPlaneSnapshotEventsResponse)
  | gone
  | failed
deriving DecidableEq

/-- The status that the control plane gives to the result of its store. -/
def eventsAnswer : Result DataPlaneSnapshotEventsResponse → EventsAnswer
  | .ok response => .events response
  | .error message => if Text.contains message "cursor_gone" then .gone else .failed

inductive PollEventsError where
  | cursorGone
  | other

/-- The answers in one round of the poller; a snapshot that cannot be fetched is
`none`. -/
structure Answers where
  initial : Option DataPlaneSnapshot
  events : EventsAnswer
  reload : Option DataPlaneSnapshot

/-- The poller and the state that it keeps up to date. Nobody else changes the cursor
of that state. -/
structure SnapshotPoller where
  state : AppState
  cursor : Nat
  cursor_eq : cursor = state.snapshotCursor

namespace SnapshotPoller

def fetchFullSnapshot (p : SnapshotPoller) (answer : Option DataPlaneSnapshot) :
    Option SnapshotPoller :=
  answer.map fun snapshot =>
    ⟨p.state.applySnapshot snapshot, (p.state.applySnapshot snapshot).snapshotCursor, rfl⟩

def pollEventsOnce (p : SnapshotPoller) :
    EventsAnswer → Except PollEventsError SnapshotPoller
  | .gone => .error .cursorGone
  | .failed => .error .other
  | .events response =>
    let result := p.state.applySnapshotEvents response
    .ok ⟨result.1, max result.2 p.cursor, by
      rw [p.cursor_eq]
      exact max_eq_left (p.state.snapshotCursor_le_applySnapshotEvents response)⟩

/-- The second half of a round. -/
def poll (p : SnapshotPoller) (events : EventsAnswer) (reload : Option DataPlaneSnapshot) :
    SnapshotPoller :=
  match p.pollEventsOnce events with
  | .ok p' => p'
  | .error .cursorGone => (p.fetchFullSnapshot reload).getD p
  | .error .other => p

/-- One round of `run`. -/
def runOnce (p : SnapshotPoller) (answers : Answers) : SnapshotPoller :=
  if p.cursor = 0 then
    match p.fetchFullSnapshot answers.initial with
    | none => p
    | some p' => p'.poll answers.events answers.reload
  else p.poll answers.events answers.reload

/-- The data plane holds the accounts, the traits and the plan of a snapshot, and its
poller goes on from the cursor of the snapshot. -/
def Recovered (p : SnapshotPoller) (snapshot : DataPlaneSnapshot) : Prop :=
  p.state.router.accounts = snapshot.accounts ∧
    p.state.router.accountTraits = snapshot.traits ∧
    p.state.router.compiledRoutingPlan = snapshot.compiledRoutingPlan ∧
    p.cursor = snapshot.cursor

theorem poll_gone (p : SnapshotPoller) (snapshot : DataPlaneSnapshot) :
    p.poll .gone (some snapshot) =
      ⟨p.state.applySnapshot snapshot, (p.state.applySnapshot snapshot).snapshotCursor, rfl⟩ :=
  rfl

theorem poll_gone_of_not_precedes {p : SnapshotPoller} {snapshot : DataPlaneSnapshot}
    (h : ¬ p.state.Precedes snapshot) : p.poll .gone (some snapshot) = p := by
  obtain ⟨state, cursor, rfl⟩ := p
  rw [poll_gone]
  simp only [AppState.applySnapshot_of_not_precedes h]

/-- After the answer that the cursor is gone, the full snapshot that is served takes
effect exactly when it is newer than the state, or when the data plane has all of it
already. -/
theorem poll_gone_recovered_iff (p : SnapshotPoller) (snapshot : DataPlaneSnapshot) :
    (p.poll .gone (some snapshot)).Recovered snapshot ↔
      (p.state.snapshotRevision < snapshot.revision ∨
          p.state.snapshotRevision = snapshot.revision ∧
            p.state.snapshotCursor < snapshot.cursor) ∨
        p.Recovered snapshot := by
  by_cases h : p.state.Precedes snapshot
  · refine iff_of_true ?_ (Or.inl h)
    rw [poll_gone]
    refine ⟨?_, AppState.applySnapshot_accountTraits h, ?_, ?_⟩
    · simp only [AppState.applySnapshot_of_precedes h]
      rfl
    · simp only [AppState.applySnapshot_of_precedes h]
      rfl
    · simp only [AppState.applySnapshot_of_precedes h]
  · rw [poll_gone_of_not_precedes h]
    exact (or_iff_right h).symm

end SnapshotPoller

/-- The answers to a poller from one state of the control plane. -/
def Database.answers (cfg : StoreConfig) (now : DateTime) (freshId : Uuid) (limit : Nat)
    (db : Database) (p : SnapshotPoller) : Answers where
  initial := some (db.snapshotInner cfg now freshId)
  events :=
    eventsAnswer (db.loadDataPlaneSnapshotEventsInner cfg now (fun _ => freshId) p.cursor limit)
  reload := some (db.snapshotInner cfg now freshId)

/-- A round of a poller against one state of the control plane. -/
def Database.round (cfg : StoreConfig) (now : DateTime) (freshId : Uuid) (limit : Nat)
    (db : Database) (p : SnapshotPoller) : SnapshotPoller :=
  p.runOnce (db.answers cfg now freshId limit p)

namespace SnapshotPoller

section Restored

def sampleVersionId : Uuid := ⟨"6f1c1d5e-0000-4000-8000-000000000001"⟩

/-- A database that was restored from a backup: its revision is 50, and the events 40 to
50 are left of its outbox. -/
def restoredDatabase : Database where
  tables := Tables.empty
  outbox := (List.range' 40 11).map fun id =>
    { id := id, eventType := .routingPlanRefresh, accountId := sampleVersionId }
  outboxSequence := 50
  revision := 50
  dirty := false
  outbox_le := by decide +kernel

/-- A data plane that has last seen revision 100 and cursor 5 of the lost database. -/
def stalePoller : SnapshotPoller where
  state := { AppState.initial 0 [] with
    snapshotRevision := 100, snapshotCursor := 5, snapshotRemoteCursor := 5 }
  cursor := 5
  cursor_eq := rfl

/-- The restored control plane answers that cursor 5 is gone, but its snapshot has an
older revision: it is ignored, and the poller asks for cursor 5 for ever. -/
theorem poll_gone_not_recovered :
    eventsAnswer (restoredDatabase.loadDataPlaneSnapshotEventsInner StoreConfig.plain 0
        (fun _ => sampleVersionId) stalePoller.cursor 500) = .gone ∧
      ¬ (stalePoller.poll .gone
          (some (restoredDatabase.snapshotInner StoreConfig.plain 0 sampleVersionId))).Recovered
        (restoredDatabase.snapshotInner StoreConfig.plain 0 sampleVersionId) ∧
      ∀ n, ((restoredDatabase.round StoreConfig.plain 0 sampleVersionId 500)^[n]
        stalePoller).cursor = 5 := by
  have hgone : eventsAnswer (restoredDatabase.loadDataPlaneSnapshotEventsInner StoreConfig.plain 0
      (fun _ => sampleVersionId) stalePoller.cursor 500) = .gone := by decide +kernel
  have hstale : ¬ stalePoller.state.Precedes
      (restoredDatabase.snapshotInner StoreConfig.plain 0 sampleVersionId) := by decide +kernel
  have hcursor : stalePoller.cursor ≠
      (restoredDatabase.snapshotInner StoreConfig.plain 0 sampleVersionId).cursor := by
    decide +kernel
  refine ⟨hgone, ?_, fun n => ?_⟩
  · rw [poll_gone_of_not_precedes hstale]
    exact fun h => hcursor h.2.2.2
  · have hround : restoredDatabase.round StoreConfig.plain 0 sampleVersionId 500 stalePoller =
        stalePoller := by
      have hpoll : restoredDatabase.round StoreConfig.plain 0 sampleVersionId 500 stalePoller =
          stalePoller.poll (eventsAnswer (restoredDatabase.loadDataPlaneSnapshotEventsInner
            StoreConfig.plain 0 (fun _ => sampleVersionId) stalePoller.cursor 500))
            (some (restoredDatabase.snapshotInner StoreConfig.plain 0 sampleVersionId)) := rfl
      rw [hpoll, hgone]
      exact poll_gone_of_not_precedes hstale
    rw [Function.iterate_fixed hround]
    rfl

end Restored

end SnapshotPoller

end CodexPool
