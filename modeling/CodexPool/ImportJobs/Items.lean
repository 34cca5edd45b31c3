import CodexPool.ImportJobs.RunJob

/-!
# What the stores do with the items of a job

Each operation of a store changes the items of a job one by one, and keeps their ids and requests.
The stores differ in which items they touch. The statements here hold of all of them.
-/

namespace CodexPool

open PersistedImportItem

def ItemsChanged (allowed : PersistedImportItem → PersistedImportItem → Prop)
    (items items' : List PersistedImportItem) : Prop :=
  ∃ f, items' = items.map f ∧
    ∀ it ∈ items, (f it).item.itemId = it.item.itemId ∧ (f it).request = it.request ∧
      allowed it (f it)

namespace ItemsChanged

variable {allowed : PersistedImportItem → PersistedImportItem → Prop}
  {items items' : List PersistedImportItem}

theorem of_map {f : PersistedImportItem → PersistedImportItem}
    (hid : ∀ it, (f it).item.itemId = it.item.itemId) (hrequest : ∀ it, (f it).request = it.request)
    (h : ∀ it ∈ items, allowed it (f it)) : ItemsChanged allowed items (items.map f) :=
  ⟨f, rfl, fun it hit => ⟨hid it, hrequest it, h it hit⟩⟩

theorem refl (h : ∀ it ∈ items, allowed it it) : ItemsChanged allowed items items :=
  ⟨id, (List.map_id items).symm, fun it hit => ⟨rfl, rfl, h it hit⟩⟩

theorem itemIds (h : ItemsChanged allowed items items') :
    items'.map (·.item.itemId) = items.map (·.item.itemId) := by
  rcases h with ⟨f, rfl, hf⟩
  rw [List.map_map]
  exact List.map_congr_left fun it hit => (hf it hit).1

theorem exists_of_mem (h : ItemsChanged allowed items items') {it' : PersistedImportItem}
    (hit' : it' ∈ items') :
    ∃ it ∈ items, it'.item.itemId = it.item.itemId ∧ it'.request = it.request ∧
      allowed it it' := by
  rcases h with ⟨f, rfl, hf⟩
  rcases List.mem_map.1 hit' with ⟨it, hit, rfl⟩
  exact ⟨it, hit, hf it hit⟩

end ItemsChanged

/-- Nothing happens to the item, or it is cancelled while it is open. -/
def PersistedImportItem.Closed (it it' : PersistedImportItem) : Prop :=
  it'.item.status = it.item.status ∨
    it.item.status.isOpen = true ∧ it'.item.status = .cancelled

theorem PersistedImportItem.closed_cancelOpen (it : PersistedImportItem) :
    it.Closed it.cancelOpen := by
  unfold PersistedImportItem.Closed cancelOpen
  split
  · rename_i hopen
    exact .inr ⟨hopen, rfl⟩
  · exact .inl rfl

theorem itemsChanged_cancelOpen (items : List PersistedImportItem) :
    ItemsChanged PersistedImportItem.Closed items (items.map cancelOpen) :=
  .of_map itemId_cancelOpen
    (fun it => by unfold cancelOpen; split <;> rfl) fun it _ => closed_cancelOpen it

/-- An item that is processed is set back. -/
def PersistedImportItem.Reset (it it' : PersistedImportItem) : Prop :=
  it'.item.status = if it.item.status = .processing then .pending else it.item.status

theorem itemsChanged_reset (items : List PersistedImportItem) :
    ItemsChanged PersistedImportItem.Reset items (items.map PersistedImportItem.reset) :=
  .of_map itemId_reset
    (fun it => by unfold PersistedImportItem.reset; split <;> rfl) fun it _ => by
      unfold PersistedImportItem.Reset PersistedImportItem.reset
      split <;> rfl

/-- A failed item with a request waits again. -/
def PersistedImportItem.Retried (it it' : PersistedImportItem) : Prop :=
  it'.item.status = if it.view.isRetried then .pending else it.item.status

/-- An item of the id may have been executed. -/
def PersistedImportItem.Marked (itemId : Nat) (it it' : PersistedImportItem) : Prop :=
  it'.item.status = it.item.status ∨
    it.item.itemId = itemId ∧ it'.item.status.isProcessed = true

/-- The item is to be claimed once the job is started. -/
def PersistedImportItem.Waits (job : ImportJob) (it : PersistedImportItem) : Prop :=
  it.item.status = .pending ∨ job.summary.status = .running ∧ it.item.status = .processing

def PersistedImportItem.Claimed (job : ImportJob) (itemIds : List Nat)
    (it it' : PersistedImportItem) : Prop :=
  it.Waits job ∧ it'.item.status = (if it.item.itemId ∈ itemIds then .processing else .pending) ∨
    ¬ it.Waits job ∧ it'.item.status = it.item.status

namespace ImportBackend

variable (backend : ImportBackend) (job : ImportJob)

/-! ## Operators -/

theorem pauseJob_eq : backend.store.pauseJob job =
    (job.isPausable, if job.isPausable then job.withStatus .paused else job) := by
  cases backend <;> rfl

theorem resumeJob_accepted : (backend.store.resumeJob job).1 = job.isResumable := by
  cases backend <;> rfl

theorem resumeJob_of_not_resumable (h : ¬ job.isResumable = true) :
    (backend.store.resumeJob job).2 = job := by
  cases backend <;> exact if_neg h

theorem resumeJob_sql (h : job.isResumable = true) :
    ItemsChanged PersistedImportItem.Reset job.items
        (SqlOAuthImportJobStore.resumeJob job).2.items ∧
      (SqlOAuthImportJobStore.resumeJob job).2.summary.status = .queued ∧
      (SqlOAuthImportJobStore.resumeJob job).2.cancelRequested = false := by
  rw [SqlOAuthImportJobStore.resumeJob]
  dsimp only
  rw [if_pos h]
  exact ⟨itemsChanged_reset _, rfl, rfl⟩

theorem resumeJob_of_resumable (h : job.isResumable = true) :
    ItemsChanged PersistedImportItem.Reset job.items (backend.store.resumeJob job).2.items ∧
      (backend.store.resumeJob job).2.summary.status = .queued ∧
      (backend.store.resumeJob job).2.cancelRequested = false := by
  have hflag : job.cancelRequested = false := by
    rw [ImportJob.isResumable, Bool.and_eq_true] at h
    simpa using h.1
  cases backend with
  | inMemory =>
      change ItemsChanged _ _ (InMemoryOAuthImportJobStore.resumeJob job).2.items ∧
        (InMemoryOAuthImportJobStore.resumeJob job).2.summary.status = .queued ∧
        (InMemoryOAuthImportJobStore.resumeJob job).2.cancelRequested = false
      rw [InMemoryOAuthImportJobStore.resumeJob]
      dsimp only
      rw [if_pos h]
      exact ⟨itemsChanged_reset _, rfl, hflag⟩
  | sqlite => exact resumeJob_sql _ h
  | postgres => exact resumeJob_sql _ h

theorem inMemory_cancelJob_items (h : job.cancelsAtOnce = true) :
    (ImportBackend.inMemory.store.cancelJob job).items = job.items.map cancelOpen := by
  change (InMemoryOAuthImportJobStore.cancelJob job).items = _
  rw [InMemoryOAuthImportJobStore.cancelJob]
  rw [if_pos h]
  rfl

theorem cancelJob_items :
    ItemsChanged PersistedImportItem.Closed job.items (backend.store.cancelJob job).items := by
  have hsql : ItemsChanged PersistedImportItem.Closed job.items
      (SqlOAuthImportJobStore.cancelJob job).items := by
    unfold SqlOAuthImportJobStore.cancelJob
    dsimp only
    split <;> exact .refl fun _ _ => .inl rfl
  cases backend with
  | inMemory =>
      by_cases h : job.cancelsAtOnce = true
      · rw [inMemory_cancelJob_items job h]
        exact itemsChanged_cancelOpen job.items
      · change ItemsChanged _ _ (InMemoryOAuthImportJobStore.cancelJob job).items
        rw [InMemoryOAuthImportJobStore.cancelJob]
        rw [if_neg h]
        exact .refl fun _ _ => .inl rfl
  | sqlite => exact hsql
  | postgres => exact hsql

theorem retryFailed_of_running (h : job.summary.status = .running) :
    backend.store.retryFailed job = (false, job) := by
  cases backend <;> exact if_pos h

theorem retried_retryItem (it : PersistedImportItem) :
    it.Retried (InMemoryOAuthImportJobStore.retryItem it) ∧
      it.Retried (SqlOAuthImportJobStore.retryItem it) := by
  constructor
  · change (InMemoryOAuthImportJobStore.retryItem it).view.status = _
    rw [InMemoryOAuthImportJobStore.view_retryItem, ImportItemView.retry]
    split <;> rfl
  · change (SqlOAuthImportJobStore.retryItem it).view.status = _
    rw [SqlOAuthImportJobStore.view_retryItem, ImportItemView.retryAfresh]
    split <;> rfl

theorem retryFailed_of_not_running (h : job.summary.status ≠ .running) :
    (backend.store.retryFailed job).1 = true ∧
      ItemsChanged PersistedImportItem.Retried job.items
        (backend.store.retryFailed job).2.items ∧
      (backend.store.retryFailed job).2.summary.status = .queued ∧
      (backend.store.retryFailed job).2.cancelRequested = false := by
  have hsql : (SqlOAuthImportJobStore.retryFailed job).1 = true ∧
      ItemsChanged PersistedImportItem.Retried job.items
        (SqlOAuthImportJobStore.retryFailed job).2.items ∧
      (SqlOAuthImportJobStore.retryFailed job).2.summary.status = .queued ∧
      (SqlOAuthImportJobStore.retryFailed job).2.cancelRequested = false := by
    rw [SqlOAuthImportJobStore.retryFailed, if_neg h]
    refine ⟨rfl, .of_map ?_ ?_ fun it _ => (retried_retryItem it).2, rfl, rfl⟩
    all_goals
      intro it
      unfold SqlOAuthImportJobStore.retryItem
      split <;> rfl
  cases backend with
  | inMemory =>
      change (InMemoryOAuthImportJobStore.retryFailed job).1 = true ∧
        ItemsChanged _ _ (InMemoryOAuthImportJobStore.retryFailed job).2.items ∧
        (InMemoryOAuthImportJobStore.retryFailed job).2.summary.status = .queued ∧
        (InMemoryOAuthImportJobStore.retryFailed job).2.cancelRequested = false
      rw [InMemoryOAuthImportJobStore.retryFailed, if_neg h]
      refine ⟨rfl, .of_map ?_ ?_ fun it _ => (retried_retryItem it).1, rfl, rfl⟩
      all_goals
        intro it
        unfold InMemoryOAuthImportJobStore.retryItem
        split <;> rfl
  | sqlite => exact hsql
  | postgres => exact hsql

/-! ## Runners -/

theorem inMemory_finishJob_items : (ImportBackend.inMemory.store.finishJob job).items =
    (SqlOAuthImportJobStore.closeItems job.cancelRequested job).items := by
  change (InMemoryOAuthImportJobStore.finishJob job).items = _
  rw [InMemoryOAuthImportJobStore.finishJob, SqlOAuthImportJobStore.closeItems]
  split <;> rfl

theorem closeItems_items (cancelRequested : Bool) :
    ItemsChanged PersistedImportItem.Closed job.items
      (SqlOAuthImportJobStore.closeItems cancelRequested job).items := by
  unfold SqlOAuthImportJobStore.closeItems
  split
  · exact itemsChanged_cancelOpen job.items
  · exact .refl fun _ _ => .inl rfl

end ImportBackend

/-! ## Marks -/

theorem isProcessed_succeeded (it : PersistedImportItem) (outcome : ImportTaskSuccess) :
    (it.succeeded outcome).item.status.isProcessed = true := by
  unfold PersistedImportItem.succeeded
  dsimp only
  split <;> rfl

variable {job : ImportJob} {itemId : Nat} {update : PersistedImportItem → PersistedImportItem}

theorem InMemoryOAuthImportJobStore.mark_items (hnd : (job.items.map (·.item.itemId)).Nodup)
    (hid : ∀ it, (update it).item.itemId = it.item.itemId)
    (hrequest : ∀ it, (update it).request = it.request)
    (hprocessed : ∀ it, (update it).item.status.isProcessed = true) :
    ItemsChanged (Marked itemId) job.items (mark job itemId update).items := by
  change ItemsChanged _ _ (updateItem itemId update job.items)
  rw [updateItem_eq_map itemId update hnd]
  apply ItemsChanged.of_map
  · intro it
    split
    · exact hid it
    · rfl
  · intro it
    split
    · exact hrequest it
    · rfl
  · intro it _
    split
    · rename_i hmine
      exact .inr ⟨hmine, hprocessed it⟩
    · exact .inl rfl

theorem SqlOAuthImportJobStore.mark_items (job : ImportJob)
    (count : OAuthImportJobSummary → OAuthImportJobSummary)
    (hid : ∀ it, (update it).item.itemId = it.item.itemId)
    (hrequest : ∀ it, (update it).request = it.request)
    (hprocessed : ∀ it, (update it).item.status.isProcessed = true) :
    ItemsChanged (Marked itemId) job.items (mark job itemId update count).items := by
  apply ItemsChanged.of_map
  · intro it
    split
    · exact hid it
    · rfl
  · intro it
    split
    · exact hrequest it
    · rfl
  · intro it _
    split
    · rename_i hmine
      rw [isProcessing, Bool.and_eq_true, decide_eq_true_eq] at hmine
      exact .inr ⟨hmine.1, hprocessed it⟩
    · exact .inl rfl

namespace ImportWorld

variable (manager : OAuthImportJobManager)

theorem marked_items (hnd : (job.items.map (·.item.itemId)).Nodup) (itemId : Nat)
    (result : ImportTaskResult) :
    ItemsChanged (Marked itemId) job.items (marked manager job itemId result).items := by
  cases result with
  | succeeded outcome =>
      unfold marked
      cases manager.backend with
      | inMemory =>
          exact InMemoryOAuthImportJobStore.mark_items hnd (fun _ => rfl) (fun _ => rfl)
            fun it => isProcessed_succeeded it outcome
      | sqlite | postgres =>
          exact SqlOAuthImportJobStore.mark_items job _ (fun _ => rfl) (fun _ => rfl)
            fun it => isProcessed_succeeded it outcome
  | failed errorCode errorMessage =>
      unfold marked
      cases manager.backend with
      | inMemory =>
          exact InMemoryOAuthImportJobStore.mark_items hnd (fun _ => rfl) (fun _ => rfl)
            fun _ => rfl
      | sqlite | postgres =>
          exact SqlOAuthImportJobStore.mark_items job _ (fun _ => rfl) (fun _ => rfl)
            fun _ => rfl

end ImportWorld

/-! ## Claims -/

structure ImportJob.ClaimsRows (job : ImportJob) (rows : List PersistedImportItem) : Prop where
  pending : rows ⊆ job.pendingItems
  requests : ∀ it ∈ rows, it.request.isSome = true
  nodup : (rows.map (·.item.itemId)).Nodup
  all : rows = [] → job.claimableItems = []

theorem ImportJob.nodup_startedItems (hnd : (job.items.map (·.item.itemId)).Nodup) :
    (job.startedItems.map (·.item.itemId)).Nodup := by
  rw [ImportJob.startedItems]
  split
  · rw [itemIds_map itemId_reset]
    exact hnd
  · exact hnd

theorem ImportBackend.startJob_of_not_startable (backend : ImportBackend) (job : ImportJob)
    (limit : Nat) (h : ¬ job.isStartable = true) :
    backend.store.startJob job limit = .ok ([], job) := by
  cases backend <;> exact if_neg h

theorem ImportBackend.startJob_of_startable (backend : ImportBackend)
    (hnd : (job.items.map (·.item.itemId)).Nodup) {limit : Nat} (hlimit : 0 < limit)
    (h : job.isStartable = true) :
    (∃ error, backend.store.startJob job limit = .error error) ∨
      ∃ rows, job.ClaimsRows rows ∧ backend.store.startJob job limit =
        .ok (rows.filterMap toTask, SqlOAuthImportJobStore.claimed job rows) := by
  have hstarted := ImportJob.nodup_startedItems hnd
  have hpages (p : PersistedImportItem → Bool) (limit : Nat) :
      ((SqlOAuthImportJobStore.firstRows limit (job.startedItems.filter p)).map
        (·.item.itemId)).Nodup := by
    have hrows : ((job.startedItems.filter p).map (·.item.itemId)).Nodup :=
      hstarted.sublist (List.filter_sublist.map _)
    exact List.pairwise_map.2 ((Paging.page_leads hrows).1.imp fun hlt => Nat.ne_of_lt hlt)
  cases backend with
  | inMemory =>
      refine .inr ⟨job.leadingItems limit, ?_,
        InMemoryOAuthImportJobStore.startJob_of_startable h hstarted limit⟩
      constructor
      · exact fun it hit =>
          ImportJob.claimableItems_subset (ImportJob.leadingItems_subset limit hit)
      · exact fun it hit => ImportJob.isSome_of_mem_leadingItems hit
      · exact hstarted.sublist
          (((List.take_sublist _ _).trans List.filter_sublist).map _)
      · intro hnil
        rw [ImportJob.leadingItems, List.take_eq_nil_iff] at hnil
        exact hnil.resolve_left (by omega)
  | sqlite =>
      change (∃ error, SqliteOAuthImportJobStore.startJob job limit = .error error) ∨
        ∃ rows, job.ClaimsRows rows ∧ SqliteOAuthImportJobStore.startJob job limit = _
      rw [SqliteOAuthImportJobStore.startJob, if_pos h]
      dsimp only
      split
      · rename_i hall
        refine .inr ⟨_, ⟨Paging.page_subset, List.all_eq_true.1 hall, hpages _ limit, ?_⟩, rfl⟩
        intro hnil
        have hpending : job.pendingItems = [] := Paging.eq_nil_of_page_eq_nil hlimit hnil
        exact List.subset_nil.1 (hpending ▸ ImportJob.claimableItems_subset)
      · exact .inl ⟨_, rfl⟩
  | postgres =>
      change (∃ error, PostgresOAuthImportJobStore.startJob job limit = .error error) ∨
        ∃ rows, job.ClaimsRows rows ∧ PostgresOAuthImportJobStore.startJob job limit = _
      rw [PostgresOAuthImportJobStore.startJob, if_pos h]
      refine .inr ⟨_, ⟨?_, ?_, hpages _ _, ?_⟩, rfl⟩
      · exact fun it hit => ImportJob.claimableItems_subset (Paging.page_subset hit)
      · intro it hit
        have hclaimable := (List.mem_filter.1 (Paging.page_subset hit)).2
        rw [isClaimable, Bool.and_eq_true] at hclaimable
        exact hclaimable.2
      · exact Paging.eq_nil_of_page_eq_nil (by omega)

theorem ImportJob.exists_waits {row : PersistedImportItem} (h : row ∈ job.pendingItems) :
    ∃ it ∈ job.items, it.item.itemId = row.item.itemId ∧ it.Waits job := by
  rcases List.mem_filter.1 h with ⟨hrow, hpending⟩
  rw [decide_eq_true_eq] at hpending
  rw [ImportJob.startedItems] at hrow
  split at hrow
  · rename_i hrunning
    rcases List.mem_map.1 hrow with ⟨it, hit, rfl⟩
    refine ⟨it, hit, (itemId_reset it).symm, ?_⟩
    by_cases hprocessing : it.item.status = .processing
    · exact .inr ⟨hrunning, hprocessing⟩
    · rw [PersistedImportItem.reset, if_neg hprocessing] at hpending
      exact .inl hpending
  · exact ⟨row, hrow, rfl, .inl hpending⟩

theorem SqlOAuthImportJobStore.claimed_items (job : ImportJob) (rows : List PersistedImportItem) :
    ItemsChanged (PersistedImportItem.Claimed job (rows.map (·.item.itemId))) job.items
      (claimed job rows).items := by
  have hclaim (it started : PersistedImportItem) (hid : started.item.itemId = it.item.itemId)
      (hwaits : it.Waits job ∧ started.item.status = .pending ∨
        ¬ it.Waits job ∧ started.item.status = it.item.status ∧
          started.item.status ≠ .pending) :
      it.Claimed job (rows.map (·.item.itemId))
        (if started.item.itemId ∈ rows.map (·.item.itemId) && started.item.status = .pending then
          started.withStatus .processing else started) := by
    rcases hwaits with ⟨hwaits, hpending⟩ | ⟨hnot, hsame, hpending⟩
    · left
      refine ⟨hwaits, ?_⟩
      by_cases hmem : it.item.itemId ∈ rows.map (·.item.itemId)
      · rw [if_pos hmem, if_pos]
        · rfl
        · rw [hid, hpending, decide_eq_true hmem]
          rfl
      · rw [if_neg hmem, if_neg]
        · exact hpending
        · rw [hid, decide_eq_false hmem]
          exact Bool.false_ne_true
    · right
      refine ⟨hnot, ?_⟩
      rw [if_neg]
      · exact hsame
      · rw [decide_eq_false hpending, Bool.and_false]
        exact Bool.false_ne_true
  change ItemsChanged _ _ (claimRows rows job.startedItems)
  rw [claimRows, ImportJob.startedItems]
  split
  · rename_i hrunning
    rw [List.map_map]
    apply ItemsChanged.of_map
    · intro it
      rw [Function.comp_apply]
      split <;> exact itemId_reset it
    · intro it
      rw [Function.comp_apply, PersistedImportItem.reset]
      split <;> split <;> rfl
    · intro it _
      rw [Function.comp_apply]
      apply hclaim it it.reset (itemId_reset it)
      by_cases hprocessing : it.item.status = .processing
      · rw [PersistedImportItem.reset, if_pos hprocessing]
        exact .inl ⟨.inr ⟨hrunning, hprocessing⟩, rfl⟩
      · rw [PersistedImportItem.reset, if_neg hprocessing]
        by_cases hpending : it.item.status = .pending
        · exact .inl ⟨.inl hpending, hpending⟩
        · exact .inr ⟨fun h => h.elim hpending fun h => hprocessing h.2, rfl, hpending⟩
  · rename_i hrunning
    apply ItemsChanged.of_map
    · intro it
      split <;> rfl
    · intro it
      split <;> rfl
    · intro it _
      apply hclaim it it rfl
      by_cases hpending : it.item.status = .pending
      · exact .inl ⟨.inl hpending, hpending⟩
      · exact .inr ⟨fun h => h.elim hpending fun h => hrunning h.1, rfl, hpending⟩

end CodexPool
