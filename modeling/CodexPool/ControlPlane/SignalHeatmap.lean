import CodexPool.ControlPlane.SystemEvents
import Mathlib.Data.List.Dedup

/-!
# The signal heatmap of an account

The rows of the event log are counted in buckets of equal length, of which the last one holds the
present. One pass over the rows counts each of them for the account it names and for the account
that was selected for it. What the pass leaves in a bucket is what there is to be counted.
-/

namespace CodexPool

/-- The columns of an event that the heatmap reads. -/
structure AccountSignalEventRow where
  tsEpochMs : Int
  category : SystemEventCategory
  eventType : String
  severity : SystemEventSeverity
  statusCode : Option Nat
  accountId : Option Uuid
  selectedAccountId : Option Uuid

/-- The counts of a bucket: all signals, active and passive ones, good and bad ones. -/
structure SignalCounts where
  signalCount : Nat
  activeCount : Nat
  passiveCount : Nat
  successCount : Nat
  errorCount : Nat
deriving DecidableEq

structure AccountSignalHeatmapBucket extends SignalCounts where
  startAt : DateTime
  intensity : Nat
deriving DecidableEq

structure AccountSignalHeatmapDetail where
  recordId : Uuid
  bucketMinutes : Nat
  windowMinutes : Nat
  windowStart : DateTime
  buckets : List AccountSignalHeatmapBucket
deriving DecidableEq

structure SignalWindow where
  startEpochMs : Int
  endEpochMs : Int
  bucketMs : Int
  bucketCount : Nat

/-! ## The pass over the rows -/

def signalHeatmapWindowBounds (now : DateTime) (windowMinutes bucketMinutes : Nat) :
    Result SignalWindow :=
  if bucketMinutes = 0 then .error "bucket_minutes must be greater than zero"
  else if windowMinutes = 0 then .error "window_minutes must be greater than zero"
  else
    let bucketMs : Int := bucketMinutes * 60000
    let windowMs : Int := windowMinutes * 60000
    if windowMs % bucketMs ≠ 0 then .error "window_minutes must align with bucket_minutes"
    else
      let endEpochMs := timestampMillis now / bucketMs * bucketMs + bucketMs
      .ok { startEpochMs := endEpochMs - windowMs, endEpochMs, bucketMs
            bucketCount := (windowMs / bucketMs).toNat }

def signalIntensityLevel : Nat → Nat
  | 0 => 0
  | 1 => 1
  | 2 | 3 => 2
  | _ => 3

/-- Whether a signal is an active one. -/
def classifySignalCategory : SystemEventCategory → Option Bool
  | .request => some true
  | .accountPool | .patrol => some false
  | .importing | .infra | .adminAction => none

/-- Whether a signal is a good one. -/
def classifySignalOutcome (row : AccountSignalEventRow) : Option Bool :=
  match row.category with
  | .request =>
    if row.eventType = "request_failed" then some false
    else some !row.statusCode.any (400 ≤ ·)
  | .accountPool | .patrol =>
    match row.severity with
    | .debug | .info => some true
    | .warn | .error => some false
  | .importing | .infra | .adminAction => none

def matchedIds (trackedIds : List Uuid) (row : AccountSignalEventRow) : List Uuid :=
  let named := (row.accountId.filter trackedIds.contains).toList
  match row.selectedAccountId.filter trackedIds.contains with
  | none => named
  | some selected => if named.contains selected then named else named ++ [selected]

def SignalCounts.zero : SignalCounts := ⟨0, 0, 0, 0, 0⟩

def SignalCounts.add (isActive isSuccess : Bool) (counts : SignalCounts) : SignalCounts where
  signalCount := counts.signalCount + 1
  activeCount := counts.activeCount + isActive.toNat
  passiveCount := counts.passiveCount + (!isActive).toNat
  successCount := counts.successCount + isSuccess.toNat
  errorCount := counts.errorCount + (!isSuccess).toNat

abbrev BucketMap := List (Uuid × List SignalCounts)

def countSignal (window : SignalWindow) (trackedIds : List Uuid) (bucketMap : BucketMap)
    (row : AccountSignalEventRow) : BucketMap :=
  if row.tsEpochMs < window.startEpochMs then bucketMap
  else
    let bucketIndex := ((row.tsEpochMs - window.startEpochMs) / window.bucketMs).toNat
    if window.bucketCount ≤ bucketIndex then bucketMap
    else
      match classifySignalCategory row.category, classifySignalOutcome row with
      | some isActive, some isSuccess =>
        (matchedIds trackedIds row).foldl (fun bucketMap id =>
          bucketMap.map fun entry =>
            if entry.1 = id then
              (entry.1, entry.2.modify bucketIndex (SignalCounts.add isActive isSuccess))
            else entry) bucketMap
      | _, _ => bucketMap

def SignalWindow.bucketStart (window : SignalWindow) (index : Nat) : Int :=
  window.startEpochMs + index * window.bucketMs

def heatmapBucket (window : SignalWindow) (index : Nat) (counts : SignalCounts) :
    AccountSignalHeatmapBucket :=
  { counts with
    startAt := window.bucketStart index * 1000
    intensity := signalIntensityLevel counts.signalCount }

def buildAccountSignalHeatmapDetails (accountIds : List Uuid) (rows : List AccountSignalEventRow)
    (now : DateTime) (windowMinutes bucketMinutes : Nat) :
    Result (List (Uuid × AccountSignalHeatmapDetail)) := do
  let window ← signalHeatmapWindowBounds now windowMinutes bucketMinutes
  let bucketMap := rows.foldl (countSignal window accountIds)
    (accountIds.dedup.map fun id => (id, List.replicate window.bucketCount SignalCounts.zero))
  return bucketMap.map fun (id, buckets) =>
    (id, { recordId := id, bucketMinutes, windowMinutes
           windowStart := window.startEpochMs * 1000
           buckets := buckets.mapIdx (heatmapBucket window) })

/-! ## What is to be counted -/

def AccountSignalEventRow.signals (row : AccountSignalEventRow) (window : SignalWindow)
    (id : Uuid) (index : Nat) : Bool :=
  (classifySignalCategory row.category).isSome &&
    (row.accountId = some id || row.selectedAccountId = some id) &&
    window.bucketStart index ≤ row.tsEpochMs && row.tsEpochMs < window.bucketStart (index + 1)

def countsOf (rows : List AccountSignalEventRow) : SignalCounts where
  signalCount := rows.length
  activeCount := rows.countP fun row => classifySignalCategory row.category = some true
  passiveCount := rows.countP fun row => classifySignalCategory row.category = some false
  successCount := rows.countP fun row => classifySignalOutcome row = some true
  errorCount := rows.countP fun row => classifySignalOutcome row = some false

/-- The buckets of an account as they ought to be. -/
def expectedBuckets (window : SignalWindow) (id : Uuid) (rows : List AccountSignalEventRow) :
    List SignalCounts :=
  (List.range window.bucketCount).map fun index =>
    countsOf (rows.filter fun row => row.signals window id index)

/-! ## One row -/

theorem foldl_map_entries {α : Type*} (f : α → α) {ids : List Uuid} (hids : ids.Nodup)
    (entries : List (Uuid × α)) :
    ids.foldl (fun entries id => entries.map fun entry =>
        if entry.1 = id then (entry.1, f entry.2) else entry) entries =
      entries.map fun entry => if entry.1 ∈ ids then (entry.1, f entry.2) else entry := by
  induction ids generalizing entries with
  | nil => simp
  | cons id ids ih =>
      rw [List.nodup_cons] at hids
      rw [List.foldl_cons, ih hids.2, List.map_map]
      apply List.map_congr_left
      intro entry _
      by_cases heq : entry.1 = id
      · simp [heq, hids.1]
      · simp [heq]

variable {trackedIds : List Uuid} {row : AccountSignalEventRow} {window : SignalWindow}

theorem mem_matchedIds {id : Uuid} : id ∈ matchedIds trackedIds row ↔
    id ∈ trackedIds ∧ (row.accountId = some id ∨ row.selectedAccountId = some id) := by
  have hnamed : id ∈ (row.accountId.filter trackedIds.contains).toList ↔
      id ∈ trackedIds ∧ row.accountId = some id := by
    simp [Option.filter_eq_some_iff, and_comm]
  have hselected : row.selectedAccountId.filter trackedIds.contains = some id ↔
      id ∈ trackedIds ∧ row.selectedAccountId = some id := by
    simp [Option.filter_eq_some_iff, and_comm]
  rw [matchedIds, and_or_left, ← hnamed, ← hselected]
  cases row.selectedAccountId.filter trackedIds.contains with
  | none => simp
  | some selected =>
      dsimp only
      split
      · rename_i hcontains
        simp only [Option.some.injEq]
        constructor
        · exact .inl
        · rintro (h | rfl)
          · exact h
          · exact List.contains_iff_mem.1 hcontains
      · simp [eq_comm]

theorem nodup_matchedIds : (matchedIds trackedIds row).Nodup := by
  have hnamed : (row.accountId.filter trackedIds.contains).toList.Nodup := by
    cases row.accountId.filter trackedIds.contains <;> simp
  rw [matchedIds]
  cases row.selectedAccountId.filter trackedIds.contains with
  | none => exact hnamed
  | some selected =>
      dsimp only
      split
      · exact hnamed
      · rename_i hcontains
        rw [List.nodup_append]
        refine ⟨hnamed, List.nodup_singleton _, fun id hid other hother => ?_⟩
        rintro rfl
        rw [List.mem_singleton.1 hother] at hid
        exact hcontains (List.contains_iff_mem.2 hid)

theorem classifySignalOutcome_isSome (row : AccountSignalEventRow) :
    (classifySignalOutcome row).isSome = (classifySignalCategory row.category).isSome := by
  cases hcategory : row.category with
  | request =>
      simp only [classifySignalOutcome, hcategory, classifySignalCategory]
      split <;> rfl
  | accountPool | patrol =>
      cases hseverity : row.severity <;>
        simp [classifySignalOutcome, hcategory, hseverity, classifySignalCategory]
  | importing | infra | adminAction =>
      simp [classifySignalOutcome, hcategory, classifySignalCategory]

/-- A row is in the bucket that its time leads to. -/
theorem signals_iff (hpos : 0 < window.bucketMs) {id : Uuid} {index : Nat} :
    row.signals window id index = true ↔
      (classifySignalCategory row.category).isSome = true ∧
        (row.accountId = some id ∨ row.selectedAccountId = some id) ∧
        window.startEpochMs ≤ row.tsEpochMs ∧
        ((row.tsEpochMs - window.startEpochMs) / window.bucketMs).toNat = index := by
  have hbucket : (window.bucketStart index ≤ row.tsEpochMs ∧
      row.tsEpochMs < window.bucketStart (index + 1)) ↔
      window.startEpochMs ≤ row.tsEpochMs ∧
        ((row.tsEpochMs - window.startEpochMs) / window.bucketMs).toNat = index := by
    have hquot := Int.ediv_eq_iff_of_pos (x := row.tsEpochMs - window.startEpochMs)
      (y := (index : Int)) hpos
    have hnext : window.bucketStart (index + 1) =
        window.startEpochMs + (index * window.bucketMs + window.bucketMs) := by
      rw [SignalWindow.bucketStart, Int.natCast_add, Int.add_mul]
      exact congrArg (fun k => window.startEpochMs + (index * window.bucketMs + k)) (Int.one_mul _)
    rw [hnext, SignalWindow.bucketStart]
    constructor
    · rintro ⟨hle, hlt⟩
      have hindex : 0 ≤ (index : Int) * window.bucketMs :=
        Int.mul_nonneg (Int.natCast_nonneg index) hpos.le
      rw [hquot.2 ⟨by omega, by omega⟩]
      exact ⟨by omega, rfl⟩
    · rintro ⟨hle, rfl⟩
      have hnonneg : 0 ≤ (row.tsEpochMs - window.startEpochMs) / window.bucketMs :=
        Int.ediv_nonneg (by omega) hpos.le
      have hbounds := hquot.1 (Int.toNat_of_nonneg hnonneg).symm
      omega
  simp only [AccountSignalEventRow.signals, Bool.and_eq_true, Bool.or_eq_true, decide_eq_true_eq,
    and_assoc, hbucket]

theorem countsOf_append (rows : List AccountSignalEventRow) {isActive isSuccess : Bool}
    (hactive : classifySignalCategory row.category = some isActive)
    (hsuccess : classifySignalOutcome row = some isSuccess) :
    countsOf (rows ++ [row]) = (countsOf rows).add isActive isSuccess := by
  cases isActive <;> cases isSuccess <;>
    simp [countsOf, SignalCounts.add, List.countP_append, hactive, hsuccess]

theorem modify_map_range {α : Type*} (g : Nat → α) (f : α → α) (n i : Nat) :
    ((List.range n).map g).modify i f =
      (List.range n).map fun j => if j = i then f (g j) else g j := by
  apply List.ext_getElem
  · simp
  · intro j hj hj'
    simp [List.getElem_modify, eq_comm]

/-! ## All rows -/

theorem expectedBuckets_nil (window : SignalWindow) (id : Uuid) :
    expectedBuckets window id [] = List.replicate window.bucketCount SignalCounts.zero := by
  rw [expectedBuckets, List.eq_replicate_iff]
  refine ⟨by simp, fun counts hcounts => ?_⟩
  obtain ⟨index, -, rfl⟩ := List.mem_map.1 hcounts
  rfl

theorem expectedBuckets_of_not {id : Uuid} (rows : List AccountSignalEventRow)
    (h : ∀ index < window.bucketCount, row.signals window id index = false) :
    expectedBuckets window id (rows ++ [row]) = expectedBuckets window id rows := by
  apply List.map_congr_left
  intro index hindex
  rw [List.filter_append, List.filter_cons_of_neg, List.filter_nil, List.append_nil]
  rw [h index (List.mem_range.1 hindex)]
  exact Bool.false_ne_true

theorem expectedBuckets_append (hpos : 0 < window.bucketMs) {id : Uuid}
    (rows : List AccountSignalEventRow) {isActive isSuccess : Bool}
    (hactive : classifySignalCategory row.category = some isActive)
    (hsuccess : classifySignalOutcome row = some isSuccess)
    (hid : row.accountId = some id ∨ row.selectedAccountId = some id)
    (hstart : window.startEpochMs ≤ row.tsEpochMs) :
    expectedBuckets window id (rows ++ [row]) = (expectedBuckets window id rows).modify
      ((row.tsEpochMs - window.startEpochMs) / window.bucketMs).toNat
      (SignalCounts.add isActive isSuccess) := by
  rw [expectedBuckets, expectedBuckets, modify_map_range]
  apply List.map_congr_left
  intro index _
  have hsignals : row.signals window id index = true ↔ _ := signals_iff hpos
  rw [hactive] at hsignals
  by_cases hindex : index = ((row.tsEpochMs - window.startEpochMs) / window.bucketMs).toNat
  · have hcounted := hsignals.2 ⟨rfl, hid, hstart, hindex.symm⟩
    have hfilter : [row].filter (fun row => row.signals window id index) = [row] := by
      simp [hcounted]
    rw [if_pos hindex, List.filter_append, hfilter, countsOf_append _ hactive hsuccess]
  · have hnot : ¬row.signals window id index = true := fun hcounted =>
      hindex (hsignals.1 hcounted).2.2.2.symm
    have hfilter : [row].filter (fun row => row.signals window id index) = [] := by
      simp [hnot]
    rw [if_neg hindex, List.filter_append, hfilter, List.append_nil]

theorem signals_eq_false (hpos : 0 < window.bucketMs) {id : Uuid} {index : Nat}
    (h : (row.accountId = some id ∨ row.selectedAccountId = some id) →
      window.startEpochMs ≤ row.tsEpochMs →
      ((row.tsEpochMs - window.startEpochMs) / window.bucketMs).toNat ≠ index) :
    row.signals window id index = false := by
  rw [Bool.eq_false_iff, ne_eq, signals_iff hpos]
  rintro ⟨-, hconcerned, hstart, hindex⟩
  exact h hconcerned hstart hindex

/-- One row is counted where it ought to be. -/
theorem countSignal_expected (hpos : 0 < window.bucketMs) {ids : List Uuid}
    (hids : ids ⊆ trackedIds) (rows : List AccountSignalEventRow) (row : AccountSignalEventRow) :
    countSignal window trackedIds (ids.map fun id => (id, expectedBuckets window id rows)) row =
      ids.map fun id => (id, expectedBuckets window id (rows ++ [row])) := by
  have hsame (h : ∀ id, ∀ index < window.bucketCount, row.signals window id index = false) :
      (ids.map fun id => (id, expectedBuckets window id rows)) =
        ids.map fun id => (id, expectedBuckets window id (rows ++ [row])) := by
    apply List.map_congr_left
    intro id _
    rw [expectedBuckets_of_not rows (h id)]
  rw [countSignal]
  by_cases hbefore : row.tsEpochMs < window.startEpochMs
  · rw [if_pos hbefore]
    apply hsame
    exact fun id index _ => signals_eq_false hpos fun _ hstart => absurd hbefore hstart.not_gt
  · rw [if_neg hbefore]
    dsimp only
    by_cases hafter : window.bucketCount ≤
        ((row.tsEpochMs - window.startEpochMs) / window.bucketMs).toNat
    · rw [if_pos hafter]
      apply hsame
      exact fun id index hindex => signals_eq_false hpos fun _ _ => (hindex.trans_le hafter).ne'
    · rw [if_neg hafter]
      have hsome := classifySignalOutcome_isSome row
      cases hactive : classifySignalCategory row.category with
      | none =>
          apply hsame
          intro id index _
          simp [AccountSignalEventRow.signals, hactive]
      | some isActive =>
          rw [hactive, Option.isSome_some, Option.isSome_iff_exists] at hsome
          obtain ⟨isSuccess, hsuccess⟩ := hsome
          rw [hsuccess]
          dsimp only
          rw [foldl_map_entries (fun buckets : List SignalCounts => buckets.modify
            ((row.tsEpochMs - window.startEpochMs) / window.bucketMs).toNat
            (SignalCounts.add isActive isSuccess)) nodup_matchedIds, List.map_map]
          apply List.map_congr_left
          intro id hid
          by_cases hmatched : id ∈ matchedIds trackedIds row
          · have hconcerned := (mem_matchedIds.1 hmatched).2
            rw [Function.comp_apply, if_pos hmatched, expectedBuckets_append hpos rows hactive
              hsuccess hconcerned (not_lt.1 hbefore)]
          · rw [Function.comp_apply, if_neg hmatched, expectedBuckets_of_not rows]
            exact fun index _ => signals_eq_false hpos fun hconcerned =>
              absurd (mem_matchedIds.2 ⟨hids hid, hconcerned⟩) hmatched

/-- The pass counts the rows as they ought to be counted. -/
theorem foldl_countSignal (hpos : 0 < window.bucketMs) {ids : List Uuid}
    (hids : ids ⊆ trackedIds) (rows : List AccountSignalEventRow) :
    rows.foldl (countSignal window trackedIds)
        (ids.map fun id => (id, List.replicate window.bucketCount SignalCounts.zero)) =
      ids.map fun id => (id, expectedBuckets window id rows) := by
  induction rows using List.reverseRecOn with
  | nil => simp only [List.foldl_nil, expectedBuckets_nil]
  | append_singleton rows row ih =>
      rw [List.foldl_append, ih]
      exact countSignal_expected hpos hids rows row

theorem bucketMs_pos {now : DateTime} {windowMinutes bucketMinutes : Nat}
    (h : signalHeatmapWindowBounds now windowMinutes bucketMinutes = .ok window) :
    0 < window.bucketMs := by
  unfold signalHeatmapWindowBounds at h
  split at h
  · cases h
  split at h
  · cases h
  dsimp only at h
  split at h
  · cases h
  · obtain rfl := Except.ok.inj h
    dsimp only
    omega

/-- The heatmap of an account shows, in each of its buckets, the signals of the account that are
dated in it, each of them once, whichever rows come in whatever order. -/
theorem buildAccountSignalHeatmapDetails_eq (accountIds : List Uuid)
    (rows : List AccountSignalEventRow) (now : DateTime) (windowMinutes bucketMinutes : Nat) :
    buildAccountSignalHeatmapDetails accountIds rows now windowMinutes bucketMinutes =
      (signalHeatmapWindowBounds now windowMinutes bucketMinutes).map fun window =>
        accountIds.dedup.map fun id =>
          (id, { recordId := id, bucketMinutes, windowMinutes
                 windowStart := window.startEpochMs * 1000
                 buckets := (expectedBuckets window id rows).mapIdx (heatmapBucket window) }) := by
  rw [buildAccountSignalHeatmapDetails]
  cases hwindow : signalHeatmapWindowBounds now windowMinutes bucketMinutes with
  | error e => rfl
  | ok window =>
      have hcounted := foldl_countSignal (bucketMs_pos hwindow) (List.dedup_subset accountIds) rows
      change Except.ok _ = Except.ok _
      rw [hcounted, List.map_map]
      rfl

end CodexPool
