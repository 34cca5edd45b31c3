import CodexPool.ImportJobs.Stores
import CodexPool.Lib.Machine

/-!
# Starting import jobs

The store in memory claims the first items of the list that can be claimed, in the way in which
SQLite and Postgres claim the rows that they have picked.
-/

namespace CodexPool

open OAuthImportItemStatus

/-! ## Items -/

/-- What the stores have in common of an item. An admission that is only queued is not counted. -/
structure ImportItemView where
  itemId : Nat
  status : OAuthImportItemStatus
  request : Option ImportTaskRequest
  admission : Option OAuthVaultRecordStatus

def countedAdmission : Option OAuthVaultRecordStatus → Option OAuthVaultRecordStatus
  | some .queued => none
  | admission => admission

namespace ImportItemView

variable (v : ImportItemView)

def isRetried : Bool := v.status = .failed && v.request.isSome

def retry : ImportItemView := if v.isRetried then { v with status := .pending } else v

def retryAfresh : ImportItemView :=
  if v.isRetried then { v with status := .pending, admission := none } else v

end ImportItemView

namespace PersistedImportItem

variable (it : PersistedImportItem)

def view : ImportItemView where
  itemId := it.item.itemId
  status := it.item.status
  request := it.request
  admission := countedAdmission it.item.admissionStatus

theorem itemId_reset : it.reset.item.itemId = it.item.itemId := by
  unfold reset
  split <;> rfl

theorem itemId_cancelOpen : it.cancelOpen.item.itemId = it.item.itemId := by
  unfold cancelOpen
  split <;> rfl

end PersistedImportItem

theorem InMemoryOAuthImportJobStore.view_retryItem (it : PersistedImportItem) :
    (retryItem it).view = it.view.retry := by
  unfold retryItem ImportItemView.retry
  by_cases h : (it.item.status = .failed && it.request.isSome) = true
  · have hview : it.view.isRetried = true := h
    rw [if_pos h, if_pos hview]
    rfl
  · have hview : ¬ it.view.isRetried = true := h
    rw [if_neg h, if_neg hview]

theorem SqlOAuthImportJobStore.view_retryItem (it : PersistedImportItem) :
    (retryItem it).view = it.view.retryAfresh := by
  unfold retryItem ImportItemView.retryAfresh
  by_cases h : (it.item.status = .failed && it.request.isSome) = true
  · have hview : it.view.isRetried = true := h
    rw [if_pos h, if_pos hview]
    rfl
  · have hview : ¬ it.view.isRetried = true := h
    rw [if_neg h, if_neg hview]

open PersistedImportItem

variable {xs : List PersistedImportItem}

theorem map_eq_self {f : PersistedImportItem → PersistedImportItem} (hf : ∀ it ∈ xs, f it = it) :
    xs.map f = xs := by
  rw [List.map_congr_left (g := id) hf, List.map_id]

theorem itemIds_map {f : PersistedImportItem → PersistedImportItem}
    (hf : ∀ it, (f it).item.itemId = it.item.itemId) :
    (xs.map f).map (·.item.itemId) = xs.map (·.item.itemId) := by
  rw [List.map_map]
  exact List.map_congr_left fun it _ => hf it

theorem updateItem_eq_map (itemId : Nat) (update : PersistedImportItem → PersistedImportItem)
    (hnd : (xs.map (·.item.itemId)).Nodup) :
    InMemoryOAuthImportJobStore.updateItem itemId update xs =
      xs.map fun it => if it.item.itemId = itemId then update it else it := by
  induction xs with
  | nil => rfl
  | cons it xs ih =>
      rw [List.map_cons, List.nodup_cons] at hnd
      rw [InMemoryOAuthImportJobStore.updateItem, List.map_cons]
      split
      · rename_i heq
        have hothers :
            xs.map (fun it => if it.item.itemId = itemId then update it else it) = xs := by
          apply map_eq_self
          intro other hother
          apply if_neg
          intro heq'
          exact hnd.1 (List.mem_map.2 ⟨other, hother, heq'.trans heq.symm⟩)
        rw [hothers]
      · rw [ih hnd.2]

variable {items : List PersistedImportItem}

/-! ## Claims in memory -/

namespace InMemoryOAuthImportJobStore

theorem claim_cons_of_claimable {it : PersistedImportItem} (h : it.isClaimable = true)
    (limit : Nat) (items : List PersistedImportItem) :
    ∃ task, toTask it = some task ∧
      claim (limit + 1) (it :: items) =
        (task :: (claim limit items).1, it.withStatus .processing :: (claim limit items).2) := by
  rw [isClaimable, Bool.and_eq_true, decide_eq_true_eq] at h
  rcases Option.isSome_iff_exists.1 h.2 with ⟨request, hrequest⟩
  refine ⟨⟨it.item.itemId, request⟩, by rw [toTask, hrequest]; rfl, ?_⟩
  rw [claim, h.1, hrequest]

theorem claim_cons_of_not_claimable {it : PersistedImportItem} (h : ¬ it.isClaimable = true)
    (limit : Nat) (items : List PersistedImportItem) :
    claim (limit + 1) (it :: items) =
      ((claim (limit + 1) items).1, it :: (claim (limit + 1) items).2) := by
  rw [claim]
  split
  · rename_i hpending hrequest
    exact absurd (by rw [isClaimable, hpending, hrequest]; rfl) h
  · rfl

theorem claim_tasks (limit : Nat) (items : List PersistedImportItem) :
    (claim limit items).1 = ((items.filter isClaimable).take limit).filterMap toTask := by
  induction items generalizing limit with
  | nil => cases limit <;> rfl
  | cons it items ih =>
      cases limit with
      | zero => rfl
      | succ limit =>
          by_cases h : it.isClaimable = true
          · rcases claim_cons_of_claimable h limit items with ⟨task, htask, hclaim⟩
            rw [hclaim, List.filter_cons_of_pos h, List.take_succ_cons,
              List.filterMap_cons_some htask, ih]
          · rw [claim_cons_of_not_claimable h, List.filter_cons_of_neg h, ih]

theorem claim_items (limit : Nat) (hnd : (items.map (·.item.itemId)).Nodup) :
    (claim limit items).2 =
      SqlOAuthImportJobStore.claimRows ((items.filter isClaimable).take limit) items := by
  induction items generalizing limit with
  | nil => cases limit <;> rfl
  | cons it items ih =>
      rw [List.map_cons, List.nodup_cons] at hnd
      cases limit with
      | zero =>
          have hnone (it : PersistedImportItem) :
              (if it.item.itemId ∈ ([] : List PersistedImportItem).map (·.item.itemId) &&
                it.item.status = .pending then it.withStatus .processing else it) = it :=
            if_neg (by simp)
          rw [List.take_zero, SqlOAuthImportJobStore.claimRows, map_eq_self fun it _ => hnone it]
          rfl
      | succ limit =>
          by_cases h : it.isClaimable = true
          · rcases claim_cons_of_claimable h limit items with ⟨task, -, hclaim⟩
            rw [hclaim, List.filter_cons_of_pos h, List.take_succ_cons,
              SqlOAuthImportJobStore.claimRows, List.map_cons, if_pos]
            · dsimp only
              apply congrArg (List.cons _)
              rw [ih limit hnd.2, SqlOAuthImportJobStore.claimRows]
              apply List.map_congr_left
              intro other hother
              have hne : other.item.itemId ≠ it.item.itemId := fun heq =>
                hnd.1 (List.mem_map.2 ⟨other, hother, heq⟩)
              rw [List.map_cons]
              simp only [List.mem_cons, hne, false_or]
            · rw [isClaimable, Bool.and_eq_true] at h
              simp only [List.map_cons, List.mem_cons, true_or, decide_true, Bool.true_and]
              exact h.1
          · rw [claim_cons_of_not_claimable h, List.filter_cons_of_neg h,
              SqlOAuthImportJobStore.claimRows, List.map_cons, if_neg]
            · rw [ih (limit + 1) hnd.2, SqlOAuthImportJobStore.claimRows]
            · rw [Bool.and_eq_true, decide_eq_true_eq]
              rintro ⟨hmem, -⟩
              rcases List.mem_map.1 hmem with ⟨other, hother, heq⟩
              exact hnd.1 (List.mem_map.2
                ⟨other, (List.mem_filter.1 (List.mem_of_mem_take hother)).1, heq⟩)

end InMemoryOAuthImportJobStore

/-! ## Rows -/

theorem itemIds_filterMap_toTask (h : ∀ it ∈ items, it.request.isSome = true) :
    (items.filterMap toTask).map ImportJobTask.itemId = items.map (·.item.itemId) := by
  induction items with
  | nil => rfl
  | cons it items ih =>
      rcases Option.isSome_iff_exists.1 (h it List.mem_cons_self) with ⟨request, hrequest⟩
      have htask : toTask it = some ⟨it.item.itemId, request⟩ := by
        rw [toTask, hrequest]
        rfl
      rw [List.filterMap_cons_some htask, List.map_cons, List.map_cons,
        ih fun it hit => h it (List.mem_cons_of_mem _ hit)]

/-! ## Started jobs -/

namespace ImportJob

variable (job : ImportJob)

def pendingItems : List PersistedImportItem :=
  job.startedItems.filter (·.item.status = .pending)

def claimableItems : List PersistedImportItem := job.startedItems.filter isClaimable

/-- The items that the store in memory claims. -/
def leadingItems (limit : Nat) : List PersistedImportItem := job.claimableItems.take limit

variable {job}

theorem leadingItems_subset (limit : Nat) : job.leadingItems limit ⊆ job.claimableItems :=
  List.take_subset _ _

theorem claimableItems_subset : job.claimableItems ⊆ job.pendingItems := by
  intro it hit
  rcases List.mem_filter.1 hit with ⟨hmem, hclaimable⟩
  rw [isClaimable, Bool.and_eq_true] at hclaimable
  exact List.mem_filter.2 ⟨hmem, hclaimable.1⟩

theorem isSome_of_mem_leadingItems {limit : Nat} {it : PersistedImportItem}
    (h : it ∈ job.leadingItems limit) : it.request.isSome = true := by
  have hclaimable := (List.mem_filter.1 (leadingItems_subset limit h)).2
  rw [isClaimable, Bool.and_eq_true] at hclaimable
  exact hclaimable.2

end ImportJob

theorem InMemoryOAuthImportJobStore.startJob_of_startable {job : ImportJob}
    (h : job.isStartable = true) (hnd : (job.startedItems.map (·.item.itemId)).Nodup)
    (limit : Nat) :
    startJob job limit =
      .ok ((job.leadingItems limit).filterMap toTask,
        SqlOAuthImportJobStore.claimed job (job.leadingItems limit)) := by
  rw [startJob, if_pos h]
  dsimp only
  rw [claim_tasks, claim_items limit hnd]
  rfl

end CodexPool
