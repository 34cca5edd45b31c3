import CodexPool.ImportJobs.Items

/-!
# Each item is executed once

A runner holds the items of its batch until it has marked them. No two runners hold the same item
as long as no item is set back while it is held: neither by a runner that takes the items of a
running job for abandoned, nor when the job is resumed.
-/

namespace CodexPool

open PersistedImportItem

namespace RunnerPhase

theorem held_ofBatch (waiting : List Nat) (running : List ImportExecution) :
    (ofBatch waiting running).held = waiting ++ running.map (·.itemId) := by
  unfold ofBatch
  split
  · rename_i h
    rw [h.1, List.length_eq_zero_iff.1 h.2]
    rfl
  · rfl

theorem waiting_ofBatch (waiting : List Nat) (running : List ImportExecution) :
    (ofBatch waiting running).waiting = waiting := by
  unfold ofBatch
  split
  · rename_i h
    exact h.1.symm
  · rfl

end RunnerPhase

namespace ImportWorld

variable (manager : OAuthImportJobManager) (w : ImportWorld)

/-- A call of `execute_import_with_retry` for the item has yet to return. -/
def IsExecuting (itemId : Nat) : Prop :=
  ∃ runner, ∃ execution ∈ (w.runners runner).running,
    execution.itemId = itemId ∧ execution.result.isNone = true

/-- A call for an item only starts where none for it runs and none has succeeded. -/
def ExecutesOnce (op : ImportOp) : Prop :=
  ∀ runner itemId, op = .launch runner → w.launched manager runner = some itemId →
    ¬ w.IsExecuting itemId ∧ itemId ∉ w.succeeded

/-- No runner holds the item, and it has not been executed with success. -/
def IsFree (itemId : Nat) : Prop :=
  (∀ runner, itemId ∉ (w.runners runner).held) ∧ itemId ∉ w.succeeded

def AreAbandoned (job : ImportJob) : Prop :=
  ∀ it ∈ job.items, it.item.status = .processing → w.IsFree it.item.itemId

/-- The step sets no item back that is held. -/
def SetsBackAbandoned : ImportOp → Prop
  | .startJob runner =>
    w.runners runner = .starting → ∀ job ∈ w.job, job.isStartable = true →
      job.summary.status = .running → w.AreAbandoned job
  | .resumeJob => ∀ job ∈ w.job, job.isResumable = true → w.AreAbandoned job
  | _ => True

/-- The items that runners hold are theirs alone, and the items that have been executed with
success wait nowhere. -/
structure SingleRuns : Prop where
  ids : ∀ job ∈ w.job, (job.items.map (·.item.itemId)).Nodup
  held : ∀ runner, (w.runners runner).held.Nodup
  disjoint : ∀ runner other, runner ≠ other →
    (w.runners runner).held.Disjoint (w.runners other).held
  claimed : ∀ job ∈ w.job, ∀ it ∈ job.items, ∀ runner,
    it.item.itemId ∈ (w.runners runner).held →
      it.item.status = .processing ∨ it.item.status = .cancelled
  succeeded : ∀ job ∈ w.job, ∀ it ∈ job.items, it.item.itemId ∈ w.succeeded →
    it.item.status ≠ .pending
  waiting : ∀ runner, ∀ itemId ∈ (w.runners runner).waiting, itemId ∉ w.succeeded

variable {w}

theorem setRunner_self (runner : Nat) (phase : RunnerPhase) :
    (w.setRunner runner phase).runners runner = phase := if_pos rfl

theorem setRunner_of_ne {runner other : Nat} (h : other ≠ runner) (phase : RunnerPhase) :
    (w.setRunner runner phase).runners other = w.runners other := if_neg h

theorem mem_held_of_running {phase : RunnerPhase} {execution : ImportExecution}
    (h : execution ∈ phase.running) : execution.itemId ∈ phase.held :=
  List.mem_append_right _ (List.mem_map_of_mem h)

theorem mem_held_of_waiting {phase : RunnerPhase} {itemId : Nat} (h : itemId ∈ phase.waiting) :
    itemId ∈ phase.held :=
  List.mem_append_left _ h

theorem itemIds_of_returned {itemId : Nat} {result : ImportTaskResult}
    {running running' : List ImportExecution} (h : returned itemId result running = some running') :
    running'.map (·.itemId) = running.map (·.itemId) ∧ itemId ∈ running.map (·.itemId) := by
  induction running generalizing running' with
  | nil => cases h
  | cons execution running ih =>
      rw [returned] at h
      split at h
      · rename_i hmine
        rw [Bool.and_eq_true, decide_eq_true_eq] at hmine
        rw [← Option.some.inj h]
        exact ⟨rfl, List.mem_map.2 ⟨execution, List.mem_cons_self, hmine.1⟩⟩
      · rcases Option.map_eq_some_iff.1 h with ⟨rest, hrest, rfl⟩
        rw [List.map_cons, List.map_cons, (ih hrest).1]
        exact ⟨rfl, List.mem_cons_of_mem _ (ih hrest).2⟩

theorem perm_of_taken {itemId : Nat} {running rest : List ImportExecution}
    {result : ImportTaskResult} (h : taken itemId running = some (result, rest)) :
    (running.map (·.itemId)).Perm (itemId :: rest.map (·.itemId)) := by
  induction running generalizing rest with
  | nil => cases h
  | cons execution running ih =>
      have hlater (h : (taken itemId running).map
          (fun taken => (taken.1, execution :: taken.2)) = some (result, rest)) :
          ((execution :: running).map (·.itemId)).Perm (itemId :: rest.map (·.itemId)) := by
        rcases Option.map_eq_some_iff.1 h with ⟨⟨result', rest'⟩, hrest, heq⟩
        rw [Prod.mk.injEq] at heq
        dsimp only at heq
        rw [heq.1] at hrest
        rw [← heq.2, List.map_cons, List.map_cons]
        exact ((ih hrest).cons _).trans (.swap _ _ _)
      rw [taken] at h
      split at h
      · split at h
        · rename_i hmine
          rw [← (Prod.mk.inj (Option.some.inj h)).2, List.map_cons, hmine]
        · exact hlater h
      · exact hlater h

namespace SingleRuns

variable (h : w.SingleRuns)

include h

variable {phase : RunnerPhase}

/-- A runner may give items up. -/
theorem narrow (runner : Nat) (hnodup : phase.held.Nodup)
    (hheld : phase.held ⊆ (w.runners runner).held)
    (hwaiting : phase.waiting ⊆ (w.runners runner).waiting) :
    (w.setRunner runner phase).SingleRuns := by
  have hsub (other : Nat) :
      ((w.setRunner runner phase).runners other).held ⊆ (w.runners other).held := by
    by_cases hother : other = runner
    · rw [hother, setRunner_self]
      exact hheld
    · rw [setRunner_of_ne hother]
      exact List.Subset.refl _
  constructor
  · exact h.ids
  · intro other
    by_cases hother : other = runner
    · rw [hother, setRunner_self]
      exact hnodup
    · rw [setRunner_of_ne hother]
      exact h.held other
  · intro other another hne itemId hmem hmem'
    exact h.disjoint other another hne (hsub other hmem) (hsub another hmem')
  · exact fun job hjob it hit other hmem => h.claimed job hjob it hit other (hsub other hmem)
  · exact h.succeeded
  · intro other
    by_cases hother : other = runner
    · rw [hother, setRunner_self]
      exact fun itemId hmem => h.waiting runner itemId (hwaiting hmem)
    · rw [setRunner_of_ne hother]
      exact h.waiting other

theorem narrow_nil (runner : Nat) (hheld : phase.held = []) :
    (w.setRunner runner phase).SingleRuns := by
  apply h.narrow runner
  · rw [hheld]
    exact List.nodup_nil
  · rw [hheld]
    exact List.nil_subset _
  · rw [(List.append_eq_nil_iff.1 hheld).1]
    exact List.nil_subset _

variable {job : ImportJob}

/-- Items that are not free are at most cancelled. -/
theorem setJob {job' : ImportJob} {allowed : PersistedImportItem → PersistedImportItem → Prop}
    (hjob : w.job = some job) (hchanged : ItemsChanged allowed job.items job'.items)
    (hkeep : ∀ it ∈ job.items, ∀ it', allowed it it' → ¬ w.IsFree it.item.itemId →
      it'.item.status = it.item.status ∨ it'.item.status = .cancelled) :
    (w.setJob job').SingleRuns := by
  have hitems : ∀ it' ∈ job'.items, ¬ w.IsFree it'.item.itemId → ∃ it ∈ job.items,
      it.item.itemId = it'.item.itemId ∧
        (it'.item.status = it.item.status ∨ it'.item.status = .cancelled) := by
    intro it' hit' hfree
    rcases hchanged.exists_of_mem hit' with ⟨it, hit, hid, -, hallowed⟩
    exact ⟨it, hit, hid.symm, hkeep it hit it' hallowed (hid ▸ hfree)⟩
  constructor
  · intro _ hmem
    rw [← Option.some.inj hmem, hchanged.itemIds]
    exact h.ids job hjob
  · exact h.held
  · exact h.disjoint
  · intro _ hmem it' hit' runner hheld
    rw [← Option.some.inj hmem] at hit'
    rcases hitems it' hit' (fun hfree => hfree.1 runner hheld) with
      ⟨it, hit, hid, hsame | hcancelled⟩
    · rw [hsame]
      exact h.claimed job hjob it hit runner (hid ▸ hheld)
    · exact .inr hcancelled
  · intro _ hmem it' hit' hsucceeded
    rw [← Option.some.inj hmem] at hit'
    rcases hitems it' hit' (fun hfree => hfree.2 hsucceeded) with ⟨it, hit, hid, hsame | hcancelled⟩
    · rw [hsame]
      exact h.succeeded job hjob it hit (hid ▸ hsucceeded)
    · rw [hcancelled]
      exact nofun
  · exact h.waiting

theorem setJob_closed {job' : ImportJob} (hjob : w.job = some job)
    (hchanged : ItemsChanged PersistedImportItem.Closed job.items job'.items) :
    (w.setJob job').SingleRuns := by
  apply h.setJob hjob hchanged
  rintro it - it' (hsame | ⟨-, hcancelled⟩) -
  · exact .inl hsame
  · exact .inr hcancelled

/-- What is about to be executed is neither executed nor has it been. -/
theorem executesOnce (op : ImportOp) : w.ExecutesOnce manager op := by
  rintro runner itemId - hlaunched
  rcases runners_of_launched manager hlaunched with ⟨waiting, running, hrunner⟩
  have hwaiting : itemId ∈ (w.runners runner).waiting := by
    rw [hrunner]
    exact List.mem_cons_self
  refine ⟨?_, h.waiting runner itemId hwaiting⟩
  rintro ⟨other, execution, hexecution, hid, -⟩
  by_cases hother : other = runner
  · have hnodup := h.held runner
    rw [hother, hrunner] at hexecution
    rw [hrunner] at hnodup
    have hrunning : itemId ∈ running.map (·.itemId) := List.mem_map.2 ⟨execution, hexecution, hid⟩
    exact (List.nodup_cons.1 hnodup).1 (List.mem_append_right _ hrunning)
  · exact h.disjoint other runner hother (hid ▸ mem_held_of_running hexecution)
      (mem_held_of_waiting hwaiting)

/-! ### Steps -/

theorem launch (runner : Nat) : (w.launch manager runner).SingleRuns := by
  unfold ImportWorld.launch
  split
  · rename_i itemId hlaunched
    rcases runners_of_launched manager hlaunched with ⟨waiting, running, hrunner⟩
    rw [hrunner]
    have hperm : (RunnerPhase.batch waiting (⟨itemId, none⟩ :: running)).held.Perm
        (w.runners runner).held := by
      rw [hrunner]
      exact List.perm_middle
    apply h.narrow runner
    · exact hperm.nodup_iff.2 (h.held runner)
    · exact hperm.subset
    · rw [hrunner]
      exact List.subset_cons_self _ _
  · exact h

theorem complete (runner itemId : Nat) (result : ImportTaskResult) :
    (w.complete runner itemId result).SingleRuns := by
  unfold ImportWorld.complete
  split
  · rename_i running hreturned
    rcases itemIds_of_returned hreturned with ⟨hids, hmem⟩
    have hheld : (RunnerPhase.batch (w.runners runner).waiting running).held =
        (w.runners runner).held := congrArg ((w.runners runner).waiting ++ ·) hids
    have hnarrow : (w.setRunner runner (.batch (w.runners runner).waiting running)).SingleRuns := by
      apply h.narrow runner
      · exact hheld ▸ h.held runner
      · exact (hheld ▸ List.Subset.refl _)
      · exact List.Subset.refl _
    have hmine : itemId ∈ (w.runners runner).held := List.mem_append_right _ hmem
    have hsucceeded (id : Nat) (hid : id ∈ if result.isSuccess then itemId :: w.succeeded
        else w.succeeded) : id = itemId ∨ id ∈ w.succeeded := by
      split at hid
      · exact List.mem_cons.1 hid
      · exact .inr hid
    refine ⟨hnarrow.ids, hnarrow.held, hnarrow.disjoint, hnarrow.claimed, ?_, ?_⟩
    · intro job hjob it hit hid
      rcases hsucceeded _ hid with heq | hold
      · rcases h.claimed job hjob it hit runner (heq ▸ hmine) with hstatus | hstatus
        all_goals
          rw [hstatus]
          exact nofun
      · exact h.succeeded job hjob it hit hold
    · intro other id hwaiting hid
      rcases hsucceeded id hid with heq | hold
      · by_cases hother : other = runner
        · have hnodup := h.held runner
          rw [hother] at hwaiting
          have hwaiting' : id ∈ (w.runners runner).waiting := by
            rwa [setRunner_self] at hwaiting
          exact (List.nodup_append.1 hnodup).2.2 id hwaiting' itemId hmem heq
        · have hwaiting' : id ∈ (w.runners other).waiting := by
            rwa [setRunner_of_ne hother] at hwaiting
          exact h.disjoint other runner hother (mem_held_of_waiting hwaiting') (heq ▸ hmine)
      · exact hnarrow.waiting other id hwaiting hold
  · exact h

/-- The item that is marked is given up. -/
theorem taken {runner itemId : Nat} {result : ImportTaskResult} {running : List ImportExecution}
    (htaken : ImportWorld.taken itemId (w.runners runner).running = some (result, running)) :
    (w.setRunner runner (.ofBatch (w.runners runner).waiting running)).SingleRuns ∧
      ∀ other, itemId ∉ ((w.setRunner runner
        (.ofBatch (w.runners runner).waiting running)).runners other).held := by
  have hperm := perm_of_taken htaken
  have hheld : (w.runners runner).held.Perm
      (itemId :: ((w.runners runner).waiting ++ running.map (·.itemId))) :=
    (hperm.append_left _).trans List.perm_middle
  have hnodup := List.nodup_cons.1 (hheld.nodup_iff.1 (h.held runner))
  constructor
  · apply h.narrow runner
    · rw [RunnerPhase.held_ofBatch]
      exact hnodup.2
    · rw [RunnerPhase.held_ofBatch]
      exact fun id hid => hheld.mem_iff.2 (List.mem_cons_of_mem _ hid)
    · rw [RunnerPhase.waiting_ofBatch]
      exact List.Subset.refl _
  · intro other hmem
    by_cases hother : other = runner
    · rw [hother, setRunner_self, RunnerPhase.held_ofBatch] at hmem
      exact hnodup.1 hmem
    · rw [setRunner_of_ne hother] at hmem
      exact h.disjoint other runner hother hmem (hheld.mem_iff.2 List.mem_cons_self)

theorem mark (hjob : w.job = some job) (runner itemId : Nat) :
    (w.mark manager job runner itemId).SingleRuns := by
  unfold ImportWorld.mark
  split
  · rename_i result running htaken
    rcases h.taken htaken with ⟨hnarrow, hgiven⟩
    have hjob' : (w.setRunner runner (.ofBatch (w.runners runner).waiting running)).job =
        some job := hjob
    have hchanged := marked_items manager (h.ids job hjob) itemId result
    have hmarked : ∀ it' ∈ (marked manager job itemId result).items, ∃ it ∈ job.items,
        it'.item.itemId = it.item.itemId ∧ it.Marked itemId it' := by
      intro it' hit'
      rcases hchanged.exists_of_mem hit' with ⟨it, hit, hid, -, hallowed⟩
      exact ⟨it, hit, hid, hallowed⟩
    refine ⟨?_, hnarrow.held, hnarrow.disjoint, ?_, ?_, hnarrow.waiting⟩
    · intro _ hmem
      rw [← Option.some.inj hmem, hchanged.itemIds]
      exact h.ids job hjob
    · intro _ hmem it' hit' other hheld
      rw [← Option.some.inj hmem] at hit'
      rcases hmarked it' hit' with ⟨it, hit, hid, hsame | ⟨hmine, -⟩⟩
      · rw [hsame]
        exact hnarrow.claimed job hjob' it hit other (hid ▸ hheld)
      · rw [hid, hmine] at hheld
        exact absurd hheld (hgiven other)
    · intro _ hmem it' hit' hsucceeded
      rw [← Option.some.inj hmem] at hit'
      rcases hmarked it' hit' with ⟨it, hit, hid, hsame | ⟨-, hprocessed⟩⟩
      · rw [hsame]
        exact h.succeeded job hjob it hit (hid ▸ hsucceeded)
      · intro hpending
        rw [hpending] at hprocessed
        cases hprocessed
  · exact h

theorem loseMark (runner itemId : Nat) : (w.loseMark manager runner itemId).SingleRuns := by
  unfold ImportWorld.loseMark
  split
  · exact h
  · rename_i htaken _
    exact (h.taken htaken).1
  · exact h

theorem failCall (runner : Nat) : (w.failCall manager runner).SingleRuns := by
  unfold ImportWorld.failCall
  split
  · exact h
  · exact h
  · exact h.narrow_nil runner rfl

theorem readSummary (job : ImportJob) (runner : Nat) :
    (w.readSummary manager job runner).SingleRuns := by
  unfold ImportWorld.readSummary
  split
  · apply h.narrow_nil runner
    split <;> rfl
  · exact h

theorem finishRead (hjob : w.job = some job) (runner : Nat) :
    (w.finishRead manager job runner).SingleRuns := by
  unfold ImportWorld.finishRead
  split
  · split
    · rename_i hbackend
      rw [hbackend]
      apply narrow_nil _ runner rfl
      apply h.setJob_closed hjob
      rw [ImportBackend.inMemory_finishJob_items]
      exact ImportBackend.closeItems_items job job.cancelRequested
    · apply narrow_nil _ runner rfl
      exact h.setJob_closed hjob (ImportBackend.closeItems_items job job.cancelRequested)
  · exact h

theorem finishCount (job : ImportJob) (runner : Nat) :
    (w.finishCount job runner).SingleRuns := by
  unfold ImportWorld.finishCount
  split
  · exact h.narrow_nil runner rfl
  · exact h

theorem finishWrite (hjob : w.job = some job) (runner : Nat) :
    (w.finishWrite job runner).SingleRuns := by
  unfold ImportWorld.finishWrite
  split
  · apply narrow_nil _ runner rfl
    exact h.setJob_closed hjob (.refl fun _ _ => .inl rfl)
  · exact h

theorem spawnJob : w.spawnJob.SingleRuns := by
  have hspawn := (h.narrow_nil w.spawned rfl : (w.setRunner w.spawned .starting).SingleRuns)
  exact ⟨hspawn.ids, hspawn.held, hspawn.disjoint, hspawn.claimed, hspawn.succeeded,
    hspawn.waiting⟩

theorem pauseJob (hjob : w.job = some job) :
    (w.setJob (manager.backend.store.pauseJob job).2).SingleRuns := by
  rw [ImportBackend.pauseJob_eq]
  dsimp only
  apply h.setJob_closed hjob
  split
  · exact .refl fun _ _ => .inl rfl
  · exact .refl fun _ _ => .inl rfl

theorem cancelJob (hjob : w.job = some job) :
    (w.setJob (manager.backend.store.cancelJob job)).SingleRuns :=
  h.setJob_closed hjob (ImportBackend.cancelJob_items manager.backend job)

theorem resumeJob (hjob : w.job = some job) (hsafe : w.SetsBackAbandoned .resumeJob) :
    (w.acted (manager.backend.store.resumeJob job)).SingleRuns := by
  unfold ImportWorld.acted
  rw [ImportBackend.resumeJob_accepted]
  split
  · rename_i hresumable
    apply spawnJob
    apply h.setJob hjob (ImportBackend.resumeJob_of_resumable manager.backend job hresumable).1
    intro it hit it' hreset hfree
    left
    rw [PersistedImportItem.Reset, if_neg] at hreset
    · exact hreset
    · exact fun hprocessing => hfree (hsafe job hjob hresumable it hit hprocessing)
  · rename_i hresumable
    rw [ImportBackend.resumeJob_of_not_resumable manager.backend job hresumable, setJob_self hjob]
    exact h

/-- The items that are retried are to be executed again. -/
theorem retryFailed (hjob : w.job = some job) :
    (w.retryFailed manager job).SingleRuns := by
  unfold ImportWorld.retryFailed ImportWorld.acted
  dsimp only
  by_cases hrunning : job.summary.status = .running
  · rw [ImportBackend.retryFailed_of_running manager.backend job hrunning]
    dsimp only
    rw [if_neg Bool.false_ne_true, if_neg Bool.false_ne_true, setJob_self hjob]
    exact h
  · rcases ImportBackend.retryFailed_of_not_running manager.backend job hrunning with
      ⟨haccepted, hchanged, -, -⟩
    rw [haccepted, if_pos rfl, if_pos rfl]
    let retried := (job.items.filter (·.view.isRetried)).map (·.item.itemId)
    have hretried : ∀ it' ∈ (manager.backend.store.retryFailed job).2.items, ∃ it ∈ job.items,
        it'.item.itemId = it.item.itemId ∧ it.Retried it' := by
      intro it' hit'
      rcases hchanged.exists_of_mem hit' with ⟨it, hit, hid, -, hallowed⟩
      exact ⟨it, hit, hid, hallowed⟩
    have hspawn := h.spawnJob
    constructor
    · intro _ hmem
      rw [← Option.some.inj hmem, hchanged.itemIds]
      exact h.ids job hjob
    · exact hspawn.held
    · exact hspawn.disjoint
    · intro _ hmem it' hit' runner hheld
      rw [← Option.some.inj hmem] at hit'
      rcases hretried it' hit' with ⟨it, hit, hid, hallowed⟩
      have hstatus := hspawn.claimed job hjob it hit runner (hid ▸ hheld)
      rw [PersistedImportItem.Retried, if_neg] at hallowed
      · rw [hallowed]
        exact hstatus
      · rw [ImportItemView.isRetried, Bool.and_eq_true, decide_eq_true_eq]
        rintro ⟨hfailed, -⟩
        have hfailed' : it.item.status = .failed := hfailed
        rw [hfailed'] at hstatus
        exact hstatus.elim nofun nofun
    · intro _ hmem it' hit' hsucceeded
      rw [← Option.some.inj hmem] at hit'
      rcases hretried it' hit' with ⟨it, hit, hid, hallowed⟩
      rcases List.mem_filter.1 hsucceeded with ⟨hold, hnot⟩
      rw [decide_eq_true_eq] at hnot
      rw [PersistedImportItem.Retried, if_neg] at hallowed
      · rw [hallowed]
        exact h.succeeded job hjob it hit (hid ▸ hold)
      · exact fun hmine => hnot (List.mem_map.2 ⟨it, List.mem_filter.2 ⟨hit, hmine⟩, hid.symm⟩)
    · exact fun runner itemId hwaiting hmem =>
        hspawn.waiting runner itemId hwaiting (List.mem_filter.1 hmem).1

theorem isFree_of_waits (hjob : w.job = some job)
    (hsafe : job.summary.status = .running → w.AreAbandoned job) {it : PersistedImportItem}
    (hit : it ∈ job.items) (hwaits : it.Waits job) : w.IsFree it.item.itemId := by
  rcases hwaits with hpending | ⟨hrunning, hprocessing⟩
  · constructor
    · intro runner hheld
      rcases h.claimed job hjob it hit runner hheld with hstatus | hstatus
      all_goals
        rw [hpending] at hstatus
        cases hstatus
    · exact fun hsucceeded => h.succeeded job hjob it hit hsucceeded hpending
  · exact hsafe hrunning it hit hprocessing

theorem claim (hjob : w.job = some job)
    (hsafe : job.summary.status = .running → w.AreAbandoned job) (runner : Nat)
    {rows : List PersistedImportItem} (hrows : job.ClaimsRows rows)
    (hwaiting : phase.waiting = rows.map (·.item.itemId)) (hrunning : phase.running = []) :
    ((w.setJob (SqlOAuthImportJobStore.claimed job rows)).setRunner runner phase).SingleRuns := by
  have hheld : phase.held = rows.map (·.item.itemId) := by
    rw [RunnerPhase.held, hwaiting, hrunning]
    exact List.append_nil _
  have hwaits : ∀ itemId ∈ rows.map (·.item.itemId), ∃ it ∈ job.items,
      it.item.itemId = itemId ∧ it.Waits job := by
    intro itemId hmem
    rcases List.mem_map.1 hmem with ⟨row, hrow, rfl⟩
    exact ImportJob.exists_waits (hrows.pending hrow)
  have hfree : ∀ itemId ∈ rows.map (·.item.itemId), w.IsFree itemId := by
    intro itemId hmem
    rcases hwaits itemId hmem with ⟨it, hit, rfl, hwait⟩
    exact h.isFree_of_waits hjob hsafe hit hwait
  have hchanged := SqlOAuthImportJobStore.claimed_items job rows
  have hclaimed : ∀ it' ∈ (SqlOAuthImportJobStore.claimed job rows).items, ∃ it ∈ job.items,
      it'.item.itemId = it.item.itemId ∧
        it.Claimed job (rows.map (·.item.itemId)) it' := by
    intro it' hit'
    rcases hchanged.exists_of_mem hit' with ⟨it, hit, hid, -, hallowed⟩
    exact ⟨it, hit, hid, hallowed⟩
  have hrunners (other : Nat) (hother : other ≠ runner) :
      ((w.setJob (SqlOAuthImportJobStore.claimed job rows)).setRunner runner phase).runners other =
        w.runners other := setRunner_of_ne hother phase
  constructor
  · intro _ hmem
    rw [← Option.some.inj hmem, hchanged.itemIds]
    exact h.ids job hjob
  · intro other
    by_cases hother : other = runner
    · rw [hother, setRunner_self, hheld]
      exact hrows.nodup
    · rw [hrunners other hother]
      exact h.held other
  · intro other another hne itemId hmem hmem'
    by_cases hother : other = runner
    · rw [hother, setRunner_self, hheld] at hmem
      rw [hrunners another fun heq => hne (hother.trans heq.symm)] at hmem'
      exact (hfree itemId hmem).1 another hmem'
    · rw [hrunners other hother] at hmem
      by_cases hanother : another = runner
      · rw [hanother, setRunner_self, hheld] at hmem'
        exact (hfree itemId hmem').1 other hmem
      · rw [hrunners another hanother] at hmem'
        exact h.disjoint other another hne hmem hmem'
  · intro _ hmem it' hit' other hheld'
    rw [← Option.some.inj hmem] at hit'
    rcases hclaimed it' hit' with ⟨it, hit, hid, hallowed⟩
    by_cases hother : other = runner
    · rw [hother, setRunner_self, hheld, hid] at hheld'
      rcases hwaits _ hheld' with ⟨it₂, hit₂, hid₂, hwait⟩
      rw [List.inj_on_of_nodup_map (h.ids job hjob) hit₂ hit hid₂] at hwait
      rcases hallowed with ⟨-, hstatus⟩ | ⟨hnot, -⟩
      · rw [hstatus, if_pos hheld']
        exact .inl rfl
      · exact absurd hwait hnot
    · rw [hrunners other hother, hid] at hheld'
      rcases hallowed with ⟨hwait, -⟩ | ⟨-, hsame⟩
      · exact absurd hheld' ((h.isFree_of_waits hjob hsafe hit hwait).1 other)
      · rw [hsame]
        exact h.claimed job hjob it hit other hheld'
  · intro _ hmem it' hit' hsucceeded
    rw [← Option.some.inj hmem] at hit'
    rcases hclaimed it' hit' with ⟨it, hit, hid, ⟨hwait, -⟩ | ⟨-, hsame⟩⟩
    · exact absurd (hid ▸ hsucceeded) (h.isFree_of_waits hjob hsafe hit hwait).2
    · rw [hsame]
      exact h.succeeded job hjob it hit (hid ▸ hsucceeded)
  · intro other
    by_cases hother : other = runner
    · rw [hother, setRunner_self, hwaiting]
      exact fun itemId hmem => (hfree itemId hmem).2
    · rw [hrunners other hother]
      exact h.waiting other

theorem startJob (hjob : w.job = some job) (runner : Nat)
    (hsafe : w.SetsBackAbandoned (.startJob runner)) :
    (w.startJob manager job runner).SingleRuns := by
  unfold ImportWorld.startJob
  split
  · rename_i hstarting
    have hids := h.ids job hjob
    by_cases hstartable : job.isStartable = true
    · rcases ImportBackend.startJob_of_startable manager.backend hids
        (Nat.le_max_right manager.claimBatchSize 1) hstartable with
          ⟨error, hstart⟩ | ⟨rows, hrows, hstart⟩
      · rw [hstart]
        exact h.narrow_nil runner rfl
      · rw [hstart, ImportWorld.started]
        have htasks := itemIds_filterMap_toTask hrows.requests
        apply h.claim hjob (hsafe hstarting job hjob hstartable) runner hrows
        · split
          · rename_i hempty
            rw [← htasks, List.isEmpty_iff.1 hempty]
            rfl
          · exact htasks
        · split <;> rfl
    · rw [ImportBackend.startJob_of_not_startable manager.backend job _ hstartable,
        ImportWorld.started, setJob_self hjob]
      exact h.narrow_nil runner rfl
  · exact h

end SingleRuns

theorem SingleRuns.of_idle (hids : ∀ job ∈ w.job, (job.items.map (·.item.itemId)).Nodup)
    (hheld : ∀ runner, (w.runners runner).held = []) (hsucceeded : w.succeeded = []) :
    w.SingleRuns := by
  have hnone (runner itemId : Nat) : itemId ∉ (w.runners runner).held := by
    rw [hheld runner]
    exact List.not_mem_nil
  constructor
  · exact hids
  · intro runner
    rw [hheld runner]
    exact List.nodup_nil
  · exact fun runner _ _ itemId hmem => absurd hmem (hnone runner itemId)
  · exact fun _ _ it _ runner hmem => absurd hmem (hnone runner it.item.itemId)
  · intro _ _ it _ hmem
    rw [hsucceeded] at hmem
    cases hmem
  · exact fun runner itemId hmem => absurd (mem_held_of_waiting hmem) (hnone runner itemId)

theorem SingleRuns.restart (h : w.SingleRuns) {job : ImportJob} (hjob : w.job = some job) :
    (w.restart manager job).SingleRuns := by
  let stopped : ImportWorld :=
    { job := if manager.backend = .inMemory then none else some job
      runners := fun _ => .none
      spawned := w.spawned
      succeeded := [] }
  have hstopped : stopped.SingleRuns := by
    apply SingleRuns.of_idle
    · intro job' hmem
      have hsome : stopped.job = none ∨ stopped.job = some job := by
        change (if manager.backend = .inMemory then none else some job) = none ∨
          (if manager.backend = .inMemory then none else some job) = some job
        split
        · exact .inl rfl
        · exact .inr rfl
      rcases hsome with hnone | hsome
      · rw [hnone] at hmem
        cases hmem
      · rw [hsome] at hmem
        exact Option.some.inj hmem ▸ h.ids job hjob
    · exact fun _ => rfl
    · rfl
  change (if manager.backend.store.isRecoverable job then stopped.spawnJob else stopped).SingleRuns
  split
  · exact hstopped.spawnJob
  · exact hstopped

theorem SingleRuns.step (h : w.SingleRuns) {op : ImportOp} (hsafe : w.SetsBackAbandoned op) :
    (w.step manager op).SingleRuns := by
  unfold ImportWorld.step
  split
  · rename_i job hjob
    cases op with
    | startJob runner => exact h.startJob manager hjob runner hsafe
    | launch runner => exact h.launch manager runner
    | complete runner itemId result => exact h.complete runner itemId result
    | mark runner itemId => exact h.mark manager hjob runner itemId
    | loseMark runner itemId => exact h.loseMark manager runner itemId
    | readSummary runner => exact h.readSummary manager job runner
    | finishRead runner => exact h.finishRead manager hjob runner
    | finishCount runner => exact h.finishCount job runner
    | finishWrite runner => exact h.finishWrite hjob runner
    | failCall runner => exact h.failCall manager runner
    | pauseJob => exact h.pauseJob manager hjob
    | resumeJob => exact h.resumeJob manager hjob hsafe
    | cancelJob => exact h.cancelJob manager hjob
    | retryFailed => exact h.retryFailed manager hjob
    | restart => exact h.restart manager hjob
  · exact h

theorem singleRuns_created (records : List ParsedImportItem) : (created records).SingleRuns := by
  apply SingleRuns.of_idle
  · intro job hjob
    rw [← Option.some.inj hjob]
    exact nodup_createdJob records
  · intro runner
    change (if runner = 0 then RunnerPhase.starting else .none).held = []
    split <;> rfl
  · rfl

/-- Each item is executed once in every run whose steps set back only items that have been
abandoned. -/
theorem executesOnce_along (records : List ParsedImportItem) (ops : List ImportOp)
    (hsafe : Machine.Along (step manager) SetsBackAbandoned (created records) ops) :
    Machine.Along (step manager) (ExecutesOnce manager) (created records) ops := by
  apply Machine.Along.of_invariant (P := SingleRuns) _ hsafe hsafe
    (singleRuns_created records)
  exact fun w op h hop _ => ⟨h.step manager hop, h.executesOnce manager op⟩

/-! ## Sample runs -/

def noneProcessed (w : ImportWorld) : Bool :=
  w.job.all fun job => job.items.all fun it => it.item.status ≠ .processing

theorem setsBackAbandoned_of_noneProcessed (h : w.noneProcessed = true) (op : ImportOp) :
    w.SetsBackAbandoned op := by
  have habandoned : ∀ job ∈ w.job, w.AreAbandoned job := by
    intro job hjob it hit hprocessing
    have hitems := (Option.all_eq_true _ _).1 h job hjob
    exact absurd hprocessing (of_decide_eq_true (List.all_eq_true.1 hitems it hit))
  cases op with
  | startJob runner => exact fun _ job hjob _ _ => habandoned job hjob
  | resumeJob => exact fun job hjob _ => habandoned job hjob
  | _ => trivial

def sampleManager : OAuthImportJobManager where
  backend := .sqlite
  concurrency := 1
  claimBatchSize := 1

/-- The job is paused inside its first batch, and resumed when the runner has noticed. -/
def sampleOps : List ImportOp :=
  [.startJob 0, .launch 0, .pauseJob, .complete 0 1 sampleTaskResult, .mark 0 1,
    .startJob 0, .readSummary 0, .resumeJob, .startJob 1, .launch 1,
    .complete 1 2 sampleTaskResult, .mark 1 2, .startJob 1, .readSummary 1, .finishRead 1,
    .finishCount 1, .finishWrite 1]

theorem noneProcessed_along_sampleOps : Machine.Along (step sampleManager)
    (fun w op => (match op with
      | .startJob _ | .resumeJob => w.noneProcessed
      | _ => true) = true) (created [sampleRecord, sampleRecord]) sampleOps := by
  decide +kernel

theorem setsBackAbandoned_along_sampleOps : Machine.Along (step sampleManager)
    SetsBackAbandoned (created [sampleRecord, sampleRecord]) sampleOps := by
  apply Machine.Along.of_invariant (P := fun _ => True) _ noneProcessed_along_sampleOps
    noneProcessed_along_sampleOps trivial
  intro w op _ _ hop
  refine ⟨trivial, ?_⟩
  cases op with
  | startJob runner => exact setsBackAbandoned_of_noneProcessed hop _
  | resumeJob => exact setsBackAbandoned_of_noneProcessed hop _
  | _ => trivial

theorem executesOnce_along_sampleOps :
    Machine.Along (step sampleManager) (ExecutesOnce sampleManager)
      (created [sampleRecord, sampleRecord]) sampleOps :=
  executesOnce_along sampleManager _ _ setsBackAbandoned_along_sampleOps

theorem launched_after_resume :
    let w := Machine.run (step sampleManager) (created [sampleRecord])
      [.startJob 0, .launch 0, .pauseJob, .resumeJob, .startJob 1]
    w.launched sampleManager 1 = some 1 ∧
      (w.runners 0).running.any (fun execution =>
        execution.itemId = 1 && execution.result.isNone) = true := by
  decide +kernel

/-- The job is paused and resumed inside a batch: the next runner executes the item as well. -/
theorem resumed_executes_again : ¬ ∀ manager records ops,
    Machine.Along (step manager) (ExecutesOnce manager) (created records) ops := by
  intro h
  have hrun := h sampleManager [sampleRecord]
    ([.startJob 0, .launch 0, .pauseJob, .resumeJob, .startJob 1] ++ [.launch 1])
  have honce := ((Machine.along_append _ _ _).1 hrun).2.1
  rcases launched_after_resume with ⟨hlaunched, hrunning⟩
  rcases List.any_eq_true.1 hrunning with ⟨execution, hmem, hexecution⟩
  rw [Bool.and_eq_true, decide_eq_true_eq] at hexecution
  exact (honce 1 1 rfl hlaunched).1 ⟨0, execution, hmem, hexecution⟩

end ImportWorld

end CodexPool
