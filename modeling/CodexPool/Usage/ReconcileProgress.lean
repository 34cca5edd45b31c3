import CodexPool.Usage.ReconcileLoop

/-!
# What the reconcile cursor skips

The cursor of a tick covers the facts that its fetches could see, whatever becomes of them.
The cursor of the loop skips a fact exactly when a tick ends over a failure: by committing the
cursor of the tick because another fact was scanned, or by jumping to the time of the tick
because none was.
-/

namespace CodexPool

open Paging

namespace ReconcileRun

variable (config : ReconcileConfig)

/-- The log holds a fact with the key in the window of the tick. -/
def Logged (s : ReconcileRun) (tick : ReconcileTick) (k : ReconcileCursor) : Prop :=
  ∃ fact ∈ s.log.filterMap BillingReconcileFact.fromRow,
    fact.inWindow tick.lookbackStartTs tick.nowTs = true ∧ fact.cursor = k

/-- What holds while a tick is open. -/
structure Walking (s : ReconcileRun) (tick : ReconcileTick) : Prop where
  covers : Covers tick.localCursor (tick.facts.map BillingReconcileFact.cursor) s.seen
    (s.applied ++ s.failed) tick.lastPage
  logged : ∀ k ∈ s.seen, s.Logged tick k
  cursor_le : s.loop.cursor ≤ tick.localCursor
  ahead : ∀ k ∈ s.seen, s.loop.cursor < k
  facts_seen : ∀ fact ∈ tick.facts, fact.cursor ∈ s.seen
  failed_seen : ∀ k ∈ s.failed, k ∈ s.seen ∧ k ≤ tick.localCursor

def Consistent (s : ReconcileRun) : Prop :=
  ∀ tick, s.loop.tick = some tick → s.Walking tick

variable {config} {s : ReconcileRun} {tick : ReconcileTick}

theorem mem_visible {fact : BillingReconcileFact} :
    fact ∈ ReconcileLoop.visible s.log tick ↔
      fact ∈ s.log.filterMap BillingReconcileFact.fromRow ∧
        fact.inWindow tick.lookbackStartTs tick.nowTs = true ∧ tick.localCursor < fact.cursor := by
  simp only [ReconcileLoop.visible, visibleFacts, List.mem_filter, Bool.and_eq_true,
    decide_eq_true_eq]

theorem fetched_facts (config : ReconcileConfig) (log : List RequestLogRow) (tick : ReconcileTick) :
    (ReconcileLoop.fetched config log tick).facts =
      page BillingReconcileFact.cursor config.batch (ReconcileLoop.visible log tick) := by
  have hmem := config.batch_mem
  have hlimit : min (max config.batch 1) 10000 = config.batch := by
    simp only [minBillingReconcileBatch, maxBillingReconcileBatch] at hmem
    omega
  change page _ (min (max config.batch 1) 10000) _ = _
  rw [hlimit]
  rfl

/-! ## Steps -/

theorem Consistent.setTick (h : s.Walking tick) : (s.setTick tick).Consistent := by
  intro tick' htick
  obtain rfl : tick = tick' := Option.some.inj htick
  exact ⟨h.covers, h.logged, h.cursor_le, h.ahead, h.facts_seen, h.failed_seen⟩

theorem Walking.insert (h : s.Walking tick) (row : RequestLogRow) :
    Walking { s with log := s.log ++ [row] } tick where
  covers := h.covers
  logged k hk := by
    rcases h.logged k hk with ⟨fact, hfact, hwindow⟩
    refine ⟨fact, ?_, hwindow⟩
    rw [List.filterMap_append]
    exact List.mem_append_left _ hfact
  cursor_le := h.cursor_le
  ahead := h.ahead
  facts_seen := h.facts_seen
  failed_seen := h.failed_seen

theorem Walking.fetch (h : s.Walking tick) (hfacts : tick.facts = []) :
    Walking { s with
        seen := s.seen ++ (ReconcileLoop.visible s.log tick).map BillingReconcileFact.cursor }
      (ReconcileLoop.fetched config s.log tick) where
  covers := by
    have hcovers := h.covers
    rw [hfacts] at hcovers
    rw [fetched_facts]
    have hpage := hcovers.fetch BillingReconcileFact.cursor config.batch
      (ReconcileLoop.visible s.log tick) ?_ ?_
    · rw [← fetched_facts config] at hpage ⊢
      exact hpage
    · intro k hk hlt
      rcases h.logged k hk with ⟨fact, hfact, hwindow, rfl⟩
      exact List.mem_map_of_mem (mem_visible.2 ⟨hfact, hwindow, hlt⟩)
    · exact fun fact hfact => (mem_visible.1 hfact).2.2
  logged k hk := by
    rcases List.mem_append.1 hk with hk | hk
    · exact h.logged k hk
    · rcases List.mem_map.1 hk with ⟨fact, hfact, rfl⟩
      rw [mem_visible] at hfact
      exact ⟨fact, hfact.1, hfact.2.1, rfl⟩
  cursor_le := h.cursor_le
  ahead k hk := by
    rcases List.mem_append.1 hk with hk | hk
    · exact h.ahead k hk
    · rcases List.mem_map.1 hk with ⟨fact, hfact, rfl⟩
      exact h.cursor_le.trans_lt (mem_visible.1 hfact).2.2
  facts_seen fact hfact := by
    rw [fetched_facts] at hfact
    exact List.mem_append_right _ (List.mem_map_of_mem (page_subset hfact))
  failed_seen k hk := ⟨List.mem_append_left _ (h.failed_seen k hk).1, (h.failed_seen k hk).2⟩

/-- A fact of the page is read, and is added to the applied or to the failed ones. -/
theorem Walking.apply (h : s.Walking tick) {fact : BillingReconcileFact}
    {rest : List BillingReconcileFact} (hfacts : tick.facts = fact :: rest)
    (outcome : Result BillingReconcileStats) {failed applied : List ReconcileCursor}
    (hdone : ∀ k, k ∈ applied ++ failed ↔ k ∈ s.applied ++ s.failed ∨ k = fact.cursor)
    (hfailed : ∀ k ∈ failed, k ∈ s.failed ∨ k = fact.cursor) :
    Walking { s with failed, applied } (ReconcileLoop.applied fact rest outcome tick) where
  covers := by
    have hcovers := h.covers
    rw [hfacts, List.map_cons] at hcovers
    exact hcovers.read hdone
  logged := h.logged
  cursor_le := by
    have hseen := h.facts_seen fact (by rw [hfacts]; exact List.mem_cons_self)
    exact (h.ahead _ hseen).le
  ahead := h.ahead
  facts_seen fact' hfact' := by
    apply h.facts_seen
    rw [hfacts]
    exact List.mem_cons_of_mem _ hfact'
  failed_seen k hk := by
    have hnext : tick.localCursor ≤ fact.cursor := by
      apply h.covers.next
      rw [hfacts]
      exact List.mem_cons_self
    rcases hfailed k hk with hold | rfl
    · exact ⟨(h.failed_seen k hold).1, (h.failed_seen k hold).2.trans hnext⟩
    · exact ⟨h.facts_seen fact (by rw [hfacts]; exact List.mem_cons_self), le_refl _⟩

theorem Consistent.step (config : ReconcileConfig) (h : s.Consistent) (i : ReconcileInput) :
    (s.step config i).Consistent := by
  cases i with
  | insert row => exact fun tick htick => (h tick htick).insert row
  | start nowTs fullSweepDue =>
      rw [ReconcileRun.step]
      cases htick : s.loop.tick with
      | some tick => exact h
      | none =>
          intro tick' htick'
          obtain rfl := Option.some.inj htick'
          exact ⟨covers_nil, by simp, le_refl _, by simp, by simp, by simp⟩
  | fetch succeeds =>
      rw [ReconcileRun.step]
      cases htick : s.loop.tick with
      | none => exact h
      | some tick =>
          have hwalk := h tick htick
          dsimp only
          rw [fetchStep]
          split
          · exact h
          · rename_i hopen
            rw [Bool.or_eq_true, not_or] at hopen
            have hfacts : tick.facts = [] := by simpa using hopen.1
            split
            · exact Consistent.setTick (hwalk.fetch hfacts)
            · exact Consistent.setTick ⟨hwalk.covers, hwalk.logged, hwalk.cursor_le,
                hwalk.ahead, hwalk.facts_seen, hwalk.failed_seen⟩
  | apply outcome =>
      rw [ReconcileRun.step]
      cases htick : s.loop.tick with
      | none => exact h
      | some tick =>
          have hwalk := h tick htick
          dsimp only
          unfold applyStep
          split
          · exact h
          · rename_i fact rest stats hfacts
            apply Consistent.setTick
            apply hwalk.apply hfacts
            · intro k
              simp only [List.mem_append, List.mem_singleton]
              tauto
            · exact fun k hk => .inl hk
          · rename_i fact rest message hfacts
            apply Consistent.setTick
            apply hwalk.apply hfacts
            · intro k
              simp only [List.mem_append, List.mem_singleton]
              tauto
            · intro k hk
              simpa using hk
  | commit =>
      rw [ReconcileRun.step]
      cases htick : s.loop.tick with
      | none => exact h
      | some tick =>
          dsimp only
          split
          · intro tick' htick'
            exact absurd htick' (Option.some_ne_none tick').symm
          · exact h

/-! ## The end of a tick -/

theorem Consistent.nothingSkipped (h : s.Consistent) (htick : s.loop.tick ≠ none) :
    s.NothingSkipped := by
  rcases Option.ne_none_iff_exists'.1 htick with ⟨tick, htick⟩
  exact fun k hk => .inr ((h tick htick).ahead k hk)

theorem fetchStep_tick (htick : s.loop.tick = some tick) (succeeds : Bool) :
    (s.fetchStep config succeeds tick).loop.tick ≠ none := by
  unfold fetchStep
  split
  · rw [htick]
    exact Option.some_ne_none tick
  · split <;> exact Option.some_ne_none _

theorem applyStep_tick (htick : s.loop.tick = some tick)
    (outcome : Result BillingReconcileStats) : (s.applyStep outcome tick).loop.tick ≠ none := by
  unfold applyStep
  split
  · rw [htick]
    exact Option.some_ne_none tick
  · exact Option.some_ne_none _
  · exact Option.some_ne_none _

/-- The end of a tick skips nothing exactly when its failures are safe. -/
theorem Walking.committed_iff (h : s.Walking tick) (hended : tick.ended = true) :
    (∀ k ∈ s.seen, k ∈ s.applied ∨ s.loop.committed tick < k) ↔
      ∀ k ∈ s.failed, k ∈ s.applied ∨ tick.requestLogStats.scanned = 0 ∧
        (tick.fetchFailed = true ∨ ⟨tick.nowTs, ""⟩ < k) := by
  rw [ReconcileTick.ended, Bool.and_eq_true, Bool.or_eq_true, List.isEmpty_iff] at hended
  have hcovers := h.covers
  rw [hended.1] at hcovers
  rw [ReconcileLoop.committed]
  by_cases hscanned : tick.requestLogStats.scanned = 0
  · rw [if_pos hscanned]
    cases hfetch : tick.fetchFailed with
    | true =>
        -- the cursor stays where it was, before all that the tick has seen
        exact iff_of_true (fun k hk => .inr (h.ahead k hk))
          fun k _ => .inr ⟨hscanned, .inl rfl⟩
    | false =>
        have hwhole : tick.lastPage = true := by simpa [hfetch] using hended.2
        rw [hwhole] at hcovers
        simp only [Bool.false_eq_true, if_false, false_or]
        constructor
        · intro hskip k hk
          exact (hskip k (h.failed_seen k hk).1).imp_right fun hlt => ⟨hscanned, hlt⟩
        · intro hsafe k hk
          rcases List.mem_append.1 (hcovers.mem_done hk) with happlied | hfailed
          · exact .inl happlied
          · exact (hsafe k hfailed).imp_right And.right
  · rw [if_neg hscanned]
    constructor
    · intro hskip k hk
      rcases hskip k (h.failed_seen k hk).1 with happlied | hlt
      · exact .inl happlied
      · exact absurd (h.failed_seen k hk).2 (not_le.2 hlt)
    · intro hsafe k hk
      rcases h.covers.ahead k hk with hdone | hlt
      · rcases List.mem_append.1 hdone with happlied | hfailed
        · exact .inl happlied
        · exact (hsafe k hfailed).imp_right fun hno => absurd hno.1 hscanned
      · exact .inr hlt

theorem nothingSkipped_step_iff (hs : s.Consistent) (hskip : s.NothingSkipped)
    (i : ReconcileInput) : (s.step config i).NothingSkipped ↔ s.FailsSafely i := by
  cases i with
  | insert row => exact iff_of_true hskip trivial
  | start nowTs fullSweepDue =>
      refine iff_of_true ?_ trivial
      rw [ReconcileRun.step]
      cases htick : s.loop.tick with
      | some tick => exact hskip
      | none => exact fun k hk => absurd hk List.not_mem_nil
  | fetch succeeds =>
      refine iff_of_true ?_ trivial
      have hstep := hs.step config (.fetch succeeds)
      rw [ReconcileRun.step] at hstep ⊢
      cases htick : s.loop.tick with
      | none => exact hskip
      | some tick =>
          rw [htick] at hstep
          exact hstep.nothingSkipped (fetchStep_tick htick succeeds)
  | apply outcome =>
      refine iff_of_true ?_ trivial
      have hstep := hs.step config (.apply outcome)
      rw [ReconcileRun.step] at hstep ⊢
      cases htick : s.loop.tick with
      | none => exact hskip
      | some tick =>
          rw [htick] at hstep
          exact hstep.nothingSkipped (applyStep_tick htick outcome)
  | commit =>
      rw [ReconcileRun.step, FailsSafely]
      cases htick : s.loop.tick with
      | none => exact iff_of_true hskip fun _ h => absurd h (Option.some_ne_none _).symm
      | some tick =>
          simp only [Option.some.injEq, forall_eq']
          by_cases hended : tick.ended = true
          · rw [if_pos hended]
            simp only [hended, true_implies]
            exact (hs tick htick).committed_iff hended
          · rw [if_neg hended]
            exact iff_of_true hskip fun h => absurd h hended

/-- A loop that has not started a tick yet. -/
def idle (log : List RequestLogRow) (cursor : ReconcileCursor) : ReconcileRun where
  log := log
  loop := { cursor }

def sampleReconcileRow : RequestLogRow :=
  requestLogRowFromEvent
    { sampleLogEvent "first" "captured" with inputTokens := some 10, createdAt := seconds 50 }
    (some ⟨"tenant"⟩) none

def failedTick : List ReconcileInput :=
  [.start 100 false, .fetch true, .apply (.error "balance"), .commit]

end ReconcileRun

end CodexPool
