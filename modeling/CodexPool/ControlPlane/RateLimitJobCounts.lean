import CodexPool.ControlPlane.RateLimitJobs

/-!
# The numbers of refresh jobs

Each chunk of a run adds numbers that agree with each other, and a run that goes on from the last
account of each page stays within the total that it has counted. What a failed run and a recovery
add does not agree with the other numbers, and two calls that both find no job create two.
-/

namespace CodexPool

/-! ## Error counts -/

theorem errorTotal_addErrorCount (errorCode : String) (count : Nat) (counts : List (String × Nat)) :
    errorTotal (addErrorCount errorCode count counts) = errorTotal counts + count := by
  unfold errorTotal
  induction counts with
  | nil => simp [addErrorCount]
  | cons entry counts ih =>
      rw [addErrorCount]
      split
      · simp only [List.map_cons, List.sum_cons]
        omega
      · simp only [List.map_cons, List.sum_cons, ih]
        omega

theorem errorTotal_addErrorCounts (counts more : List (String × Nat)) :
    errorTotal (addErrorCounts counts more) = errorTotal counts + errorTotal more := by
  unfold addErrorCounts
  induction more generalizing counts with
  | nil => rfl
  | cons entry more ih =>
      rw [List.foldl_cons, ih, errorTotal_addErrorCount]
      unfold errorTotal
      rw [List.map_cons, List.sum_cons, Nat.add_assoc]

theorem errorTotal_map_one (codes : List String) :
    errorTotal (codes.map fun code => (code, 1)) = codes.length := by
  unfold errorTotal
  induction codes with
  | nil => rfl
  | cons code codes ih =>
      simp only [List.map_cons, List.sum_cons, ih, List.length_cons]
      omega

namespace RateLimitRefreshBatchStats

/-- The numbers of a chunk agree with each other. -/
structure Consistent (stats : RateLimitRefreshBatchStats) : Prop where
  processed : stats.processed = stats.success + stats.failed
  errors : errorTotal stats.errorCounts = stats.failed

theorem ofResults_consistent (results : List (Option String)) : (ofResults results).Consistent where
  processed := by
    change results.length = (results.filter Option.isNone).length +
      (results.filter Option.isSome).length
    induction results with
    | nil => rfl
    | cons result results ih =>
        cases result <;> simp only [List.length_cons, List.filter_cons, Option.isNone_none,
          Option.isNone_some, Option.isSome_none, Option.isSome_some, if_true, Bool.false_eq_true,
          if_false] <;> omega
  errors := by
    change errorTotal (addErrorCounts [] ((results.filterMap id).map fun code => (code, 1))) =
      (results.filter Option.isSome).length
    rw [errorTotal_addErrorCounts, errorTotal_map_one]
    change 0 + (results.filterMap id).length = _
    rw [Nat.zero_add]
    induction results with
    | nil => rfl
    | cons result results ih => cases result <;> simpa using ih

end RateLimitRefreshBatchStats

theorem OAuthRateLimitRefreshJob.Sound.appendProgress {job : OAuthRateLimitRefreshJob}
    (h : job.Sound) {stats : RateLimitRefreshBatchStats} (hstats : stats.Consistent) {steady : Bool}
    (htotal : steady = true → job.processed + stats.processed ≤ job.total) :
    (job.appendProgress stats steady).Sound where
  processed := by
    have hjob := h.processed
    have hadded := hstats.processed
    change job.processed + stats.processed =
      job.successCount + stats.success + (job.failedCount + stats.failed)
    omega
  errors := by
    change errorTotal (addErrorCounts job.errors stats.errorCounts) = job.failedCount + stats.failed
    rw [errorTotal_addErrorCounts, h.errors, hstats.errors]
  total hsteady := htotal (Bool.and_eq_true_iff.1 hsteady).2

namespace RefreshJobs

variable {cfg : RefreshJobsConfig} {w : RefreshJobs}

/-! ## Pages of targets -/

variable {last jobId : Uuid}

theorem text_le_of_mem_page {ids : List Uuid} {limit : Nat} {id : Uuid}
    (hlast : (Paging.page Uuid.text limit ids).getLast? = some last)
    (hid : id ∈ Paging.page Uuid.text limit ids) : id.text ≤ last.text := by
  rcases List.getLast?_eq_some_iff.1 hlast with ⟨front, hfront⟩
  have hsorted : (Paging.page Uuid.text limit ids).Pairwise fun i j => i.text ≤ j.text :=
    Paging.pairwise_page
  rw [hfront] at hsorted hid
  rcases List.mem_append.1 hid with hmem | hmem
  · exact (List.pairwise_append.1 hsorted).2.2 id hmem last (List.mem_singleton_self _)
  · rw [List.mem_singleton.1 hmem]

theorem length_page_add_after {ids : List Uuid} {limit : Nat}
    (hlast : (Paging.page Uuid.text limit ids).getLast? = some last) :
    (Paging.page Uuid.text limit ids).length + (ids.filter (isAfter (some last))).length ≤
      ids.length := by
  let sorted := ids.insertionSort fun i j => i.text ≤ j.text
  have hperm : sorted.Perm ids := List.perm_insertionSort _ ids
  have hnone : (sorted.take limit).filter (isAfter (some last)) = [] := by
    apply List.filter_eq_nil_iff.2
    intro id hid hafter
    exact absurd (text_le_of_mem_page hlast hid) (not_le.2 (of_decide_eq_true hafter))
  have hfilter : (ids.filter (isAfter (some last))).length =
      ((sorted.drop limit).filter (isAfter (some last))).length := by
    rw [← (hperm.filter _).length_eq, ← List.take_append_drop limit sorted, List.filter_append,
      List.take_append_drop, hnone, List.nil_append]
  have hsplit : (sorted.take limit).length + (sorted.drop limit).length = ids.length := by
    rw [← List.length_append, List.take_append_drop, hperm.length_eq]
  have hrest := List.length_filter_le (isAfter (some last)) (sorted.drop limit)
  change (sorted.take limit).length + _ ≤ _
  omega

theorem isAfter_trans {cursor : Option Uuid} {id : Uuid} (hlast : isAfter cursor last = true)
    (hid : isAfter (some last) id = true) : isAfter cursor id = true := by
  cases cursor with
  | none => rfl
  | some first => exact decide_eq_true ((of_decide_eq_true hlast).trans (of_decide_eq_true hid))

theorem length_page_add_targetsAfter (w : RefreshJobs) (cursor : Option Uuid)
    (hlast : (w.page cfg cursor).getLast? = some last) :
    (w.page cfg cursor).length + (w.targetsAfter (some last)).length ≤
      (w.targetsAfter cursor).length := by
  have hmem : last ∈ w.targetsAfter cursor := Paging.page_subset (List.mem_of_getLast? hlast)
  have hafter : isAfter cursor last = true := (List.mem_filter.1 hmem).2
  have hfilter : w.targetsAfter (some last) =
      (w.targetsAfter cursor).filter (isAfter (some last)) := by
    unfold targetsAfter
    rw [List.filter_filter]
    apply List.filter_congr
    intro id _
    cases hid : isAfter (some last) id with
    | false => rfl
    | true => rw [isAfter_trans hafter hid, Bool.true_and]
  rw [hfilter]
  exact length_page_add_after hlast

/-! ## Runs and their jobs -/

/-- What a run has still to do is within the total of its job. -/
def Fits (w : RefreshJobs) (job : OAuthRateLimitRefreshJob) (steady : Bool) :
    RefreshRunStage → Prop
  | .counting => job.processed = 0
  | .counted total => job.processed = 0 ∧ (steady = true → total = w.targets.length)
  | .paging cursor =>
    steady = true → job.processed + (w.targetsAfter cursor).length ≤ job.total
  | .refreshing page cursor _ =>
    steady = true → job.processed + (page.length + (w.targetsAfter cursor).length) ≤ job.total
  | .appending stats page cursor _ =>
    stats.Consistent ∧ (steady = true →
      job.processed + stats.processed + (page.length + (w.targetsAfter cursor).length) ≤ job.total)
  | .finishing => True

/-- Every run that goes on has a job of its own, and every recovery has found some job. -/
structure Tracked (w : RefreshJobs) : Prop where
  nodup : (w.jobs.map (·.id)).Nodup
  fresh : ∀ job ∈ w.jobs, job.status = .queued → job.processed = 0
  owned : ∀ r jobId stage steady, w.runs r = .running jobId stage steady →
    ∃ job, w.job? jobId = some job ∧ job.status ≠ .queued ∧ w.Fits job steady stage
  apart : ∀ r r' jobId stage steady stage' steady', w.runs r = .running jobId stage steady →
    w.runs r' = .running jobId stage' steady' → r = r'
  listed : ∀ q ids, w.recoveries q = some ids → ∃ id ∈ ids, ∃ job, w.job? id = some job

theorem mem_of_job? {job : OAuthRateLimitRefreshJob}
    (h : w.job? jobId = some job) : job ∈ w.jobs ∧ job.id = jobId :=
  ⟨List.mem_of_find?_eq_some h, Keyed.key_of_lookupBy h⟩

variable {f : OAuthRateLimitRefreshJob → OAuthRateLimitRefreshJob}

theorem job?_updateJob (hf : ∀ job, (f job).id = job.id) (id : Uuid) :
    (w.updateJob jobId f).job? id =
      (w.job? id).map fun job => if job.id = jobId then f job else job := by
  apply Keyed.lookupBy_map
  intro job
  split
  · exact hf job
  · rfl

theorem map_id_updateJob (hf : ∀ job, (f job).id = job.id) :
    (w.updateJob jobId f).jobs.map (·.id) = w.jobs.map (·.id) := by
  unfold updateJob
  rw [List.map_map]
  apply List.map_congr_left
  intro job _
  simp only [Function.comp_apply]
  split
  · exact hf job
  · rfl

theorem updateJob_of_job?_eq_none (h : w.job? jobId = none)
    (f : OAuthRateLimitRefreshJob → OAuthRateLimitRefreshJob) : w.updateJob jobId f = w := by
  have hnot : jobId ∉ w.jobs.map (·.id) := Keyed.lookupBy_eq_none_iff.1 h
  have hsame : (w.jobs.map fun job => if job.id = jobId then f job else job) = w.jobs := by
    apply (List.map_congr_left _).trans (List.map_id w.jobs)
    intro job hjob
    apply if_neg
    intro heq
    exact hnot (heq ▸ List.mem_map_of_mem hjob)
  unfold updateJob
  rw [hsame]

/-- The run of a job changes the job and goes on. -/
theorem Tracked.update (h : w.Tracked) {r : Nat} {run : RefreshRun}
    (hid : ∀ job, (f job).id = job.id)
    (hfresh : ∀ job ∈ w.jobs, job.id = jobId → (f job).status = .queued →
      job.status = .queued ∧ (f job).processed = job.processed)
    (hothers : ∀ r' stage steady, r' ≠ r → w.runs r' ≠ .running jobId stage steady)
    (hrun : ∀ jobId' stage steady, run = .running jobId' stage steady → jobId' = jobId ∧
      ∃ job, w.job? jobId = some job ∧ (f job).status ≠ .queued ∧ w.Fits (f job) steady stage) :
    ((w.updateJob jobId f).setRun r run).Tracked := by
  have hjob (id : Uuid) : ((w.updateJob jobId f).setRun r run).job? id =
      (w.job? id).map fun job => if job.id = jobId then f job else job := job?_updateJob hid id
  have hself : ((w.updateJob jobId f).setRun r run).runs r = run := Function.update_self ..
  have hother (r' : Nat) (hne : r' ≠ r) :
      ((w.updateJob jobId f).setRun r run).runs r' = w.runs r' := Function.update_of_ne hne ..
  constructor
  · change ((w.updateJob jobId f).jobs.map (·.id)).Nodup
    rw [map_id_updateJob hid]
    exact h.nodup
  · intro job hmem hqueued
    rcases List.mem_map.1 hmem with ⟨old, hold, heq⟩
    split at heq
    · rename_i hid'
      rw [← heq] at hqueued ⊢
      rcases hfresh old hold hid' hqueued with ⟨hold', hsame⟩
      rw [hsame]
      exact h.fresh old hold hold'
    · rw [← heq] at hqueued ⊢
      exact h.fresh old hold hqueued
  · intro r' jobId' stage steady hrun'
    by_cases hne : r' = r
    · rw [hne, hself] at hrun'
      rcases hrun jobId' stage steady hrun' with ⟨rfl, job, hfound, hstatus, hfits⟩
      refine ⟨f job, ?_, hstatus, hfits⟩
      rw [hjob, hfound, Option.map_some, if_pos (mem_of_job? hfound).2]
    · rw [hother r' hne] at hrun'
      rcases h.owned r' jobId' stage steady hrun' with ⟨job, hfound, hstatus, hfits⟩
      refine ⟨job, ?_, hstatus, hfits⟩
      rw [hjob, hfound, Option.map_some, if_neg]
      rw [(mem_of_job? hfound).2]
      intro heq
      rw [heq] at hrun'
      exact hothers r' stage steady hne hrun'
  · intro r₁ r₂ jobId' stage₁ steady₁ stage₂ steady₂ hrun₁ hrun₂
    by_cases hne₁ : r₁ = r
    · by_cases hne₂ : r₂ = r
      · exact hne₁.trans hne₂.symm
      · rw [hne₁, hself] at hrun₁
        rw [hother r₂ hne₂, (hrun jobId' stage₁ steady₁ hrun₁).1] at hrun₂
        exact absurd hrun₂ (hothers r₂ stage₂ steady₂ hne₂)
    · rw [hother r₁ hne₁] at hrun₁
      by_cases hne₂ : r₂ = r
      · rw [hne₂, hself] at hrun₂
        rw [(hrun jobId' stage₂ steady₂ hrun₂).1] at hrun₁
        exact absurd hrun₁ (hothers r₁ stage₁ steady₁ hne₁)
      · rw [hother r₂ hne₂] at hrun₂
        exact h.apart r₁ r₂ jobId' stage₁ steady₁ stage₂ steady₂ hrun₁ hrun₂
  · intro q ids hlisted
    rcases h.listed q ids hlisted with ⟨id, hmem, job, hfound⟩
    refine ⟨id, hmem, if job.id = jobId then f job else job, ?_⟩
    rw [hjob, hfound]
    rfl

theorem updateJob_id (jobId : Uuid) : w.updateJob jobId id = w := by
  unfold updateJob
  simp only [id_eq, ite_self, List.map_id']

theorem Tracked.setRun_running (h : w.Tracked) {r : Nat}
    {stage stage' : RefreshRunStage} {steady steady' : Bool}
    (hrun : w.runs r = .running jobId stage steady)
    (hfits : ∀ job, w.Fits job steady stage → w.Fits job steady' stage') :
    (w.setRun r (.running jobId stage' steady')).Tracked := by
  rcases h.owned r jobId stage steady hrun with ⟨job, hfound, hstatus, hfit⟩
  have hupdate : ((w.updateJob jobId id).setRun r (.running jobId stage' steady')).Tracked := by
    apply h.update (fun _ => rfl) (fun _ _ _ hqueued => ⟨hqueued, rfl⟩)
    · intro r' stage₂ steady₂ hne hrun'
      exact hne (h.apart r' r jobId stage₂ steady₂ stage steady hrun' hrun)
    · intro jobId' stage₂ steady₂ heq
      rcases RefreshRun.running.inj heq with ⟨rfl, rfl, rfl⟩
      exact ⟨rfl, job, hfound, hstatus, hfits job hfit⟩
  rwa [updateJob_id] at hupdate

theorem Tracked.setRun (h : w.Tracked) (r : Nat) {run : RefreshRun}
    (hrun : ∀ jobId stage steady, run ≠ .running jobId stage steady) :
    (w.setRun r run).Tracked := by
  have hsame (r' : Nat) {jobId : Uuid} {stage : RefreshRunStage} {steady : Bool}
      (hrun' : (w.setRun r run).runs r' = .running jobId stage steady) :
      w.runs r' = .running jobId stage steady := by
    by_cases hne : r' = r
    · have hself : (w.setRun r run).runs r = run := Function.update_self ..
      rw [hne, hself] at hrun'
      exact absurd hrun' (hrun jobId stage steady)
    · rwa [show (w.setRun r run).runs r' = w.runs r' from Function.update_of_ne hne ..] at hrun'
  constructor
  · exact h.nodup
  · exact h.fresh
  · intro r' jobId stage steady hrun'
    exact h.owned r' jobId stage steady (hsame r' hrun')
  · intro r₁ r₂ jobId stage₁ steady₁ stage₂ steady₂ hrun₁ hrun₂
    exact h.apart r₁ r₂ jobId stage₁ steady₁ stage₂ steady₂ (hsame r₁ hrun₁) (hsame r₂ hrun₂)
  · exact h.listed

/-! ## Well-behaved jobs -/

theorem WellBehaved.congr {w' : RefreshJobs} (h : w.WellBehaved) (hjobs : w'.jobs = w.jobs) :
    w'.WellBehaved := by
  constructor
  · rw [hjobs]
    exact h.oneActive
  · rw [hjobs]
    exact h.sound

theorem WellBehaved.setRun (h : w.WellBehaved) (r : Nat) (run : RefreshRun) :
    (w.setRun r run).WellBehaved := h.congr rfl

/-- A change that activates no job and keeps its numbers sound. -/
theorem WellBehaved.updateJob (h : w.WellBehaved)
    (hactive : ∀ job ∈ w.jobs, job.id = jobId → (f job).status.isActive = true →
      job.status.isActive = true) (hsound : ∀ job ∈ w.jobs, job.id = jobId → (f job).Sound) :
    (w.updateJob jobId f).WellBehaved := by
  constructor
  · unfold RefreshJobs.updateJob
    rw [List.countP_map]
    apply le_trans (List.countP_mono_left _) h.oneActive
    intro job hjob hactive'
    simp only [Function.comp_apply] at hactive'
    split at hactive'
    · rename_i hid
      exact hactive job hjob hid hactive'
    · exact hactive'
  · intro job hmem
    rcases List.mem_map.1 hmem with ⟨old, hold, heq⟩
    split at heq
    · rename_i hid
      exact heq ▸ hsound old hold hid
    · exact heq ▸ h.sound old hold

/-! ## Statements of a run -/

section Statements

variable {r : Nat} {jobId : Uuid} {steady : Bool}

theorem job?_of_mem (h : w.Tracked) {job : OAuthRateLimitRefreshJob} (hmem : job ∈ w.jobs) :
    w.job? job.id = some job := Keyed.lookupBy_of_mem h.nodup hmem

theorem eq_of_job? (h : w.Tracked) {job other : OAuthRateLimitRefreshJob}
    (hfound : w.job? jobId = some job) (hmem : other ∈ w.jobs) (hid : other.id = jobId) :
    other = job := by
  have hother := job?_of_mem h hmem
  rw [hid, hfound] at hother
  exact (Option.some.inj hother).symm

theorem markRunning_keeps (hwell : w.WellBehaved) (htracked : w.Tracked) (now : DateTime) :
    (w.markRunning r jobId now).WellBehaved ∧ (w.markRunning r jobId now).Tracked := by
  unfold markRunning
  split
  · exact ⟨hwell.setRun r _, htracked.setRun r nofun⟩
  · rename_i job hfound
    split
    · rename_i hqueued
      constructor
      · apply WellBehaved.setRun
        apply hwell.updateJob
        · intro other hmem hid _
          rw [eq_of_job? htracked hfound hmem hid, hqueued]
          rfl
        · intro other hmem _
          have hsound := hwell.sound other hmem
          exact ⟨hsound.processed, hsound.errors, hsound.total⟩
      · apply htracked.update
        · exact fun _ => rfl
        · exact fun _ _ _ hqueued' => nomatch hqueued'
        · intro r' stage steady' _ hrun
          rcases htracked.owned r' jobId stage steady' hrun with ⟨other, hother, hstatus, -⟩
          rw [hfound] at hother
          exact hstatus (Option.some.inj hother ▸ hqueued)
        · intro jobId' stage steady' heq
          rcases RefreshRun.running.inj heq with ⟨rfl, rfl, rfl⟩
          exact ⟨rfl, job, hfound, nofun, htracked.fresh job (mem_of_job? hfound).1 hqueued⟩
    · exact ⟨hwell.setRun r _, htracked.setRun r nofun⟩

theorem setTotal_keeps (hwell : w.WellBehaved) (htracked : w.Tracked) {total : Nat}
    (hrun : w.runs r = .running jobId (.counted total) steady) :
    ((w.updateJob jobId (·.setTotal total)).setRun r
        (.running jobId (.paging none) steady)).WellBehaved ∧
      ((w.updateJob jobId (·.setTotal total)).setRun r
        (.running jobId (.paging none) steady)).Tracked := by
  rcases htracked.owned r jobId _ steady hrun with ⟨job, hfound, hstatus, hzero, htotal⟩
  constructor
  · apply WellBehaved.setRun
    apply hwell.updateJob
    · exact fun _ _ _ hactive => hactive
    · intro other hmem hid
      have hsound := hwell.sound other hmem
      rw [eq_of_job? htracked hfound hmem hid] at hsound ⊢
      refine ⟨hsound.processed, hsound.errors, fun _ => ?_⟩
      change job.processed ≤ total
      omega
  · apply htracked.update
    · exact fun _ => rfl
    · exact fun _ _ _ hqueued => ⟨hqueued, rfl⟩
    · exact fun r' stage steady' hne hrun' => hne (htracked.apart r' r jobId _ _ _ _ hrun' hrun)
    · intro jobId' stage steady' heq
      rcases RefreshRun.running.inj heq with ⟨rfl, rfl, rfl⟩
      refine ⟨rfl, job, hfound, hstatus, fun hsteady => ?_⟩
      have hall := List.length_filter_le (isAfter none) w.targets
      rw [← htotal hsteady] at hall
      change job.processed + (w.targets.filter (isAfter none)).length ≤ total
      omega

variable {cursor : Option Uuid}

theorem loadPage_keeps (hwell : w.WellBehaved) (htracked : w.Tracked)
    (hrun : w.runs r = .running jobId (.paging cursor) steady) :
    (w.loadPage cfg r jobId cursor steady).WellBehaved ∧
      (w.loadPage cfg r jobId cursor steady).Tracked := by
  refine ⟨hwell.setRun r _, htracked.setRun_running hrun fun job hfits => ?_⟩
  split
  · trivial
  · rename_i hpage
    have hne : w.page cfg cursor ≠ [] := mt List.isEmpty_iff.2 hpage
    intro hsteady
    have hlast := List.getLast?_eq_some_getLast hne
    have hlength := length_page_add_targetsAfter w cursor hlast
    rw [hlast]
    exact le_trans (Nat.add_le_add_left hlength _) (hfits hsteady)

theorem refresh_keeps (hwell : w.WellBehaved) (htracked : w.Tracked) {page : List Uuid}
    {full : Bool} (hrun : w.runs r = .running jobId (.refreshing page cursor full) steady)
    (outcome : Uuid → Option String) :
    (w.setRun r (.running jobId (.appending (refreshChunk cfg page outcome)
        (page.drop (max 1 cfg.concurrency)) cursor full) steady)).WellBehaved ∧
      (w.setRun r (.running jobId (.appending (refreshChunk cfg page outcome)
        (page.drop (max 1 cfg.concurrency)) cursor full) steady)).Tracked := by
  refine ⟨hwell.setRun r _, htracked.setRun_running hrun fun job hfits => ?_⟩
  refine ⟨RateLimitRefreshBatchStats.ofResults_consistent _, fun hsteady => ?_⟩
  have hprocessed : (refreshChunk cfg page outcome).processed =
      (page.take (max 1 cfg.concurrency)).length := List.length_map ..
  have hsplit : (page.take (max 1 cfg.concurrency)).length +
      (page.drop (max 1 cfg.concurrency)).length = page.length := by
    rw [← List.length_append, List.take_append_drop]
  have hle := hfits hsteady
  rw [hprocessed]
  omega

theorem append_keeps (hwell : w.WellBehaved) (htracked : w.Tracked)
    {stats : RateLimitRefreshBatchStats} {page : List Uuid} {full : Bool}
    (hrun : w.runs r = .running jobId (.appending stats page cursor full) steady) :
    ((w.updateJob jobId (·.appendProgress stats steady)).setRun r
        (.running jobId (stageAfter page cursor full) steady)).WellBehaved ∧
      ((w.updateJob jobId (·.appendProgress stats steady)).setRun r
        (.running jobId (stageAfter page cursor full) steady)).Tracked := by
  rcases htracked.owned r jobId _ steady hrun with ⟨job, hfound, hstatus, hstats, htotal⟩
  constructor
  · apply WellBehaved.setRun
    apply hwell.updateJob
    · exact fun _ _ _ hactive => hactive
    · intro other hmem hid
      have hsound := hwell.sound other hmem
      rw [eq_of_job? htracked hfound hmem hid] at hsound ⊢
      apply hsound.appendProgress hstats
      intro hsteady
      have hle := htotal hsteady
      omega
  · apply htracked.update
    · exact fun _ => rfl
    · intro other hmem hid hqueued
      rw [eq_of_job? htracked hfound hmem hid] at hqueued
      exact absurd hqueued hstatus
    · exact fun r' stage steady' hne hrun' => hne (htracked.apart r' r jobId _ _ _ _ hrun' hrun)
    · intro jobId' stage steady' heq
      rcases RefreshRun.running.inj heq with ⟨rfl, rfl, rfl⟩
      refine ⟨rfl, job, hfound, hstatus, ?_⟩
      unfold stageAfter
      split
      · rename_i hempty
        rw [List.isEmpty_iff.1 hempty, List.length_nil, Nat.zero_add] at htotal
        split
        · exact htotal
        · trivial
      · exact htotal

theorem finish_keeps (hwell : w.WellBehaved) (htracked : w.Tracked)
    (hrun : w.runs r = .running jobId .finishing steady) (now : DateTime) :
    ((w.updateJob jobId (·.finish now)).setRun r .idle).WellBehaved ∧
      ((w.updateJob jobId (·.finish now)).setRun r .idle).Tracked := by
  constructor
  · apply WellBehaved.setRun
    apply hwell.updateJob
    · exact fun _ _ _ hactive => nomatch hactive
    · intro other hmem _
      have hsound := hwell.sound other hmem
      exact ⟨hsound.processed, hsound.errors, hsound.total⟩
  · apply htracked.update
    · exact fun _ => rfl
    · exact fun _ _ _ hqueued => nomatch hqueued
    · exact fun r' stage steady' hne hrun' => hne (htracked.apart r' r jobId _ _ _ _ hrun' hrun)
    · exact nofun

theorem perform_keeps (hwell : w.WellBehaved) (htracked : w.Tracked) (r : Nat)
    (statement : RefreshStatement) (now : DateTime) :
    (w.perform cfg r statement now).WellBehaved ∧ (w.perform cfg r statement now).Tracked := by
  unfold perform
  split
  · exact markRunning_keeps hwell htracked now
  · rename_i hrun
    exact ⟨hwell.setRun r _, htracked.setRun_running hrun fun _ hfits => ⟨hfits, fun _ => rfl⟩⟩
  · rename_i hrun
    exact setTotal_keeps hwell htracked hrun
  · rename_i hrun
    exact loadPage_keeps hwell htracked hrun
  · rename_i outcome hrun
    exact refresh_keeps hwell htracked hrun outcome
  · rename_i hrun
    exact append_keeps hwell htracked hrun
  · rename_i hrun
    exact finish_keeps hwell htracked hrun now
  · exact ⟨hwell, htracked⟩

theorem fail_keeps (hwell : w.WellBehaved) (htracked : w.Tracked) (r : Nat) (before : RefreshRun) :
    (w.fail r before).WellBehaved ∧ (w.fail r before).Tracked := by
  cases before with
  | idle => exact ⟨hwell, htracked⟩
  | starting jobId => exact ⟨hwell.setRun r _, htracked.setRun r nofun⟩
  | running jobId stage steady => exact ⟨hwell.setRun r _, htracked.setRun r nofun⟩
  | failing jobId => exact ⟨hwell.setRun r _, htracked.setRun r nofun⟩

theorem execute_keeps (hwell : w.WellBehaved) (htracked : w.Tracked) (r : Nat)
    (statement : RefreshStatement) (now : DateTime) (reported : Bool) :
    (w.execute cfg r statement now reported).WellBehaved ∧
      (w.execute cfg r statement now reported).Tracked := by
  have hperform : (w.perform cfg r statement now).WellBehaved ∧
      (w.perform cfg r statement now).Tracked :=
    perform_keeps hwell htracked r statement now
  unfold execute
  split
  · exact hperform
  · exact fail_keeps hperform.1 hperform.2 r (w.runs r)

theorem startRun_keeps (hwell : w.WellBehaved) (htracked : w.Tracked) (r : Nat) (jobId : Uuid) :
    (w.startRun r jobId).WellBehaved ∧ (w.startRun r jobId).Tracked := by
  unfold startRun
  split
  · exact ⟨hwell.setRun r _, htracked.setRun r nofun⟩
  · exact ⟨hwell, htracked⟩

end Statements

/-! ## Creation, failure and recovery -/

theorem Tracked.congr {w' : RefreshJobs} (h : w.Tracked) (hjobs : w'.jobs = w.jobs)
    (hruns : w'.runs = w.runs) (hrecoveries : w'.recoveries = w.recoveries)
    (htargets : w'.targets = w.targets) : w'.Tracked := by
  cases w
  cases w'
  cases hjobs
  cases hruns
  cases hrecoveries
  cases htargets
  exact ⟨h.nodup, h.fresh, h.owned, h.apart, h.listed⟩

theorem check_keeps (hwell : w.WellBehaved) (htracked : w.Tracked) (c : Nat) :
    (w.check c).WellBehaved ∧ (w.check c).Tracked := by
  unfold check
  split
  · split
    · exact ⟨hwell, htracked⟩
    · exact ⟨hwell.congr rfl, htracked.congr rfl rfl rfl rfl⟩
  · exact ⟨hwell, htracked⟩

theorem anyActive_eq_false_iff : w.anyActive = false ↔
    w.jobs.countP (·.status.isActive) = 0 := by
  unfold anyActive
  rw [List.any_eq_false, List.countP_eq_zero]

theorem job?_append {job : OAuthRateLimitRefreshJob} (jobs : List _) (h : w.job? jobId = some job) :
    Keyed.lookupBy OAuthRateLimitRefreshJob.id (w.jobs ++ jobs) jobId = some job := by
  unfold job? Keyed.lookupBy at h
  unfold Keyed.lookupBy
  rw [List.find?_append, h]
  rfl

/-- A job that is added is one that nothing has been done for. -/
theorem Tracked.insert (h : w.Tracked) (hnew : w.job? jobId = none) (c : Nat) (now : DateTime) :
    RefreshJobs.Tracked
      { w.setCreator c .idle with jobs := w.jobs ++ [.created jobId now] } := by
  constructor
  · change ((w.jobs ++ [OAuthRateLimitRefreshJob.created jobId now]).map (·.id)).Nodup
    rw [List.map_append, List.nodup_append]
    refine ⟨h.nodup, List.nodup_singleton _, ?_⟩
    intro id hid other hother heq
    rw [heq, List.mem_singleton.1 hother] at hid
    exact Keyed.lookupBy_eq_none_iff.1 hnew hid
  · intro job hmem hqueued
    rcases List.mem_append.1 hmem with hold | hadded
    · exact h.fresh job hold hqueued
    · rw [List.mem_singleton.1 hadded]
      rfl
  · intro r jobId' stage steady hrun
    rcases h.owned r jobId' stage steady hrun with ⟨job, hfound, hstatus, hfits⟩
    refine ⟨job, job?_append _ hfound, hstatus, ?_⟩
    cases stage <;> exact hfits
  · exact h.apart
  · intro q ids hlisted
    rcases h.listed q ids hlisted with ⟨id, hmem, job, hfound⟩
    exact ⟨id, hmem, job, job?_append _ hfound⟩

theorem wellBehaved_insert_iff (hwell : w.WellBehaved) (jobId : Uuid) (c : Nat) (now : DateTime) :
    ({ w.setCreator c .idle with
        jobs := w.jobs ++ [.created jobId now] } : RefreshJobs).WellBehaved ↔
      w.anyActive = false := by
  have hcount : (w.jobs ++ [OAuthRateLimitRefreshJob.created jobId now]).countP
      (·.status.isActive) = w.jobs.countP (·.status.isActive) + 1 := by
    rw [List.countP_append]
    rfl
  rw [anyActive_eq_false_iff]
  constructor
  · intro h
    have hone := h.oneActive
    change (w.jobs ++ [OAuthRateLimitRefreshJob.created jobId now]).countP _ ≤ 1 at hone
    omega
  · intro hnone
    constructor
    · change (w.jobs ++ [OAuthRateLimitRefreshJob.created jobId now]).countP _ ≤ 1
      omega
    · intro job hmem
      rcases List.mem_append.1 hmem with hold | hadded
      · exact hwell.sound job hold
      · rw [List.mem_singleton.1 hadded]
        exact ⟨rfl, rfl, fun _ => le_rfl⟩

/-- What a failed run adds to the failures has not been processed. -/
theorem wellBehaved_markFailed_iff (hwell : w.WellBehaved) (r : Nat) (now : DateTime)
    (applied : Bool) :
    (w.markFailed r now applied).WellBehaved ↔ w.Behaves (.markFailed r now applied) := by
  unfold markFailed Behaves
  dsimp only
  split
  · rename_i jobId _
    cases applied with
    | false => exact iff_of_true (hwell.setRun r _) nofun
    | true =>
        cases hfound : w.job? jobId with
        | none =>
            rw [if_pos rfl, updateJob_of_job?_eq_none hfound]
            exact iff_of_true (hwell.setRun r _) fun _ => rfl
        | some job =>
            apply iff_of_false
            · intro h
              rcases mem_of_job? hfound with ⟨hmem, hid⟩
              have hfailed : job.markFailed now ∈ (w.updateJob jobId (·.markFailed now)).jobs := by
                apply List.mem_map.2
                exact ⟨job, hmem, if_pos hid⟩
              have hafter := (h.sound (job.markFailed now) hfailed).processed
              have hbefore := (hwell.sound job hmem).processed
              change job.processed = job.successCount + (job.failedCount + 1) at hafter
              omega
            · intro h
              cases h rfl
  · exact iff_of_true hwell trivial

theorem Tracked.markFailed (h : w.Tracked) {r : Nat} {now : DateTime} {applied : Bool}
    (hok : w.Behaves (.markFailed r now applied)) : (w.markFailed r now applied).Tracked := by
  unfold RefreshJobs.markFailed
  unfold Behaves at hok
  dsimp only at hok
  split
  · rename_i jobId hrun
    rw [hrun] at hok
    split
    · rename_i happlied
      rw [updateJob_of_job?_eq_none (hok happlied)]
      exact h.setRun r nofun
    · exact h.setRun r nofun
  · exact h

/-- The error of a recovery is in no other number. -/
theorem wellBehaved_recover_iff (hwell : w.WellBehaved) (htracked : w.Tracked) (q : Nat)
    (now : DateTime) : (w.recover q now).WellBehaved ↔ w.recoveries q = none := by
  unfold recover
  cases hlisted : w.recoveries q with
  | none => exact iff_of_true hwell rfl
  | some listed =>
      apply iff_of_false
      · intro h
        rcases htracked.listed q listed hlisted with ⟨id, hid, job, hfound⟩
        rcases mem_of_job? hfound with ⟨hmem, heq⟩
        have hrecovered := h.sound (job.recover listed now) (List.mem_map_of_mem hmem)
        have hin : job.id ∈ listed := heq ▸ hid
        have hafter := hrecovered.errors
        have hbefore := (hwell.sound job hmem).errors
        have herrors : (job.recover listed now).errors =
            addErrorCount "job_recovered_after_restart" 1 job.errors := by
          unfold OAuthRateLimitRefreshJob.recover
          dsimp only
          rw [if_pos hin]
        have hfailed : (job.recover listed now).failedCount = job.failedCount := by
          unfold OAuthRateLimitRefreshJob.recover
          dsimp only
          rw [if_pos hin]
          split <;> rfl
        rw [herrors, errorTotal_addErrorCount, hfailed] at hafter
        omega
      · intro hnone
        cases hnone

theorem Tracked.listRunning (h : w.Tracked) (q : Nat) : (w.listRunning q).Tracked := by
  unfold RefreshJobs.listRunning
  dsimp only
  split
  · exact h
  · rename_i hsome
    refine ⟨h.nodup, h.fresh, h.owned, h.apart, fun q' ids hlisted => ?_⟩
    change Function.update w.recoveries q (some _) q' = some ids at hlisted
    by_cases hq : q' = q
    · rw [hq, Function.update_self] at hlisted
      rcases List.exists_mem_of_ne_nil _ (mt List.isEmpty_iff.2 hsome) with ⟨id, hid⟩
      rcases List.mem_map.1 hid with ⟨job, hjob, rfl⟩
      exact ⟨job.id, Option.some.inj hlisted ▸ hid, job, job?_of_mem h (List.mem_filter.1 hjob).1⟩
    · rw [Function.update_of_ne hq] at hlisted
      exact h.listed q' ids hlisted

theorem Tracked.stopRecovery (h : w.Tracked) (q : Nat) : (w.setRecovery q none).Tracked := by
  refine ⟨h.nodup, h.fresh, h.owned, h.apart, fun q' ids hlisted => ?_⟩
  change Function.update w.recoveries q none q' = some ids at hlisted
  by_cases hq : q' = q
  · rw [hq, Function.update_self] at hlisted
    cases hlisted
  · rw [Function.update_of_ne hq] at hlisted
    exact h.listed q' ids hlisted

/-- The numbers of a run are not compared with targets that have changed. -/
theorem Tracked.setTargets (h : w.Tracked) (targets : List Uuid) :
    (w.setTargets targets).Tracked := by
  have hbefore (r : Nat) {jobId : Uuid} {stage : RefreshRunStage} {steady : Bool}
      (hrun : (w.setTargets targets).runs r = .running jobId stage steady) :
      steady = false ∧ ∃ steady', w.runs r = .running jobId stage steady' := by
    unfold RefreshJobs.setTargets at hrun
    dsimp only at hrun
    cases hold : w.runs r with
    | running jobId' stage' steady' =>
        rw [hold] at hrun
        rcases RefreshRun.running.inj hrun with ⟨rfl, rfl, rfl⟩
        exact ⟨rfl, steady', rfl⟩
    | idle | starting | failing =>
        rw [hold] at hrun
        cases hrun
  refine ⟨h.nodup, h.fresh, ?_, ?_, h.listed⟩
  · intro r jobId stage steady hrun
    rcases hbefore r hrun with ⟨rfl, steady', hold⟩
    rcases h.owned r jobId stage steady' hold with ⟨job, hfound, hstatus, hfits⟩
    refine ⟨job, hfound, hstatus, ?_⟩
    cases stage with
    | counting => exact hfits
    | counted total => exact ⟨hfits.1, nofun⟩
    | paging => exact nofun
    | refreshing => exact nofun
    | appending => exact ⟨hfits.1, nofun⟩
    | finishing => trivial
  · intro r r' jobId stage steady stage' steady' hrun hrun'
    rcases hbefore r hrun with ⟨-, before, hold⟩
    rcases hbefore r' hrun' with ⟨-, before', hold'⟩
    exact h.apart r r' jobId stage before stage' before' hold hold'

/-! ## Runs -/

/-- A step leaves the jobs well-behaved exactly when it meets its condition. -/
theorem wellBehaved_step_iff (hwell : w.WellBehaved) (htracked : w.Tracked) (op : RefreshJobsOp) :
    (w.step cfg op).WellBehaved ↔ w.Behaves op := by
  cases op with
  | check c => exact iff_of_true (check_keeps hwell htracked c).1 trivial
  | insert c jobId now =>
      change (w.insert c jobId now).WellBehaved ↔ _
      unfold RefreshJobs.insert RefreshJobs.Behaves
      dsimp only
      cases w.creators c with
      | idle => exact iff_of_true hwell trivial
      | noneActive =>
          cases w.job? jobId with
          | some job => exact iff_of_true (hwell.congr rfl) nofun
          | none =>
              apply (wellBehaved_insert_iff hwell jobId c now).trans
              exact ⟨fun hnone _ => hnone, fun h => h rfl⟩
  | stopCreate c => exact iff_of_true (hwell.congr rfl) trivial
  | startRun r jobId => exact iff_of_true (startRun_keeps hwell htracked r jobId).1 trivial
  | statement r statement now reported =>
      exact iff_of_true (execute_keeps hwell htracked r statement now reported).1 trivial
  | failStatement r => exact iff_of_true (fail_keeps hwell htracked r _).1 trivial
  | markFailed r now applied => exact wellBehaved_markFailed_iff hwell r now applied
  | stopRun r => exact iff_of_true (hwell.setRun r _) trivial
  | listRunning q =>
      refine iff_of_true ?_ trivial
      change (w.listRunning q).WellBehaved
      unfold listRunning
      dsimp only
      split
      · exact hwell
      · exact hwell.congr rfl
  | recover q now => exact wellBehaved_recover_iff hwell htracked q now
  | stopRecovery q => exact iff_of_true (hwell.congr rfl) trivial
  | setTargets targets => exact iff_of_true (hwell.congr rfl) trivial

theorem Tracked.step (hwell : w.WellBehaved) (htracked : w.Tracked) {op : RefreshJobsOp}
    (hok : w.Behaves op) : (w.step cfg op).Tracked := by
  cases op with
  | check c => exact (check_keeps hwell htracked c).2
  | insert c jobId now =>
      change (w.insert c jobId now).Tracked
      unfold RefreshJobs.insert
      split
      · exact htracked
      · cases hfound : w.job? jobId with
        | some job => exact htracked.congr rfl rfl rfl rfl
        | none => exact htracked.insert hfound c now
  | stopCreate c => exact htracked.congr rfl rfl rfl rfl
  | startRun r jobId => exact (startRun_keeps hwell htracked r jobId).2
  | statement r statement now reported =>
      exact (execute_keeps hwell htracked r statement now reported).2
  | failStatement r => exact (fail_keeps hwell htracked r _).2
  | markFailed r now applied => exact htracked.markFailed hok
  | stopRun r => exact htracked.setRun r nofun
  | listRunning q => exact htracked.listRunning q
  | recover q now =>
      have hnone : w.recoveries q = none := hok
      change (w.recover q now).Tracked
      unfold RefreshJobs.recover
      rw [hnone]
      exact htracked
  | stopRecovery q => exact htracked.stopRecovery q
  | setTargets targets => exact htracked.setTargets targets

theorem wellBehaved_start (targets : List Uuid) : (start targets).WellBehaved :=
  ⟨Nat.zero_le 1, fun _ hjob => absurd hjob List.not_mem_nil⟩

theorem tracked_start (targets : List Uuid) : (start targets).Tracked where
  nodup := List.nodup_nil
  fresh _ hjob := absurd hjob List.not_mem_nil
  owned _ _ _ _ hrun := nomatch hrun
  apart _ _ _ _ _ _ _ hrun := nomatch hrun
  listed _ _ hrecovery := nomatch hrecovery

/-- The jobs of a run are well-behaved in all of its states exactly when no step inserts a second
job, writes a failure or recovers a job. -/
theorem wellBehaved_along_iff (cfg : RefreshJobsConfig) (targets : List Uuid)
    (ops : List RefreshJobsOp) :
    (∀ pre, pre <+: ops → (Machine.run (step cfg) (start targets) pre).WellBehaved) ↔
      Machine.Along (step cfg) Behaves (start targets) ops := by
  apply Machine.along_iff_observed (P := fun w => w.WellBehaved ∧ w.Tracked) (Q := WellBehaved)
  · intro w op h hok
    exact ⟨(wellBehaved_step_iff h.1 h.2 op).2 hok, Tracked.step h.1 h.2 hok⟩
  · intro w op h
    exact wellBehaved_step_iff h.1 h.2 op
  · exact ⟨wellBehaved_start targets, tracked_start targets⟩
  · exact wellBehaved_start targets

/-- Two calls find no job before either of them inserts one. -/
theorem two_jobs_are_queued : ¬ ∀ cfg targets ops,
    (Machine.run (step cfg) (start targets) ops).WellBehaved := by
  intro h
  have hone := (h ⟨100, 4⟩ [] [.check 1, .check 2, .insert 1 ⟨"a"⟩ 0, .insert 2 ⟨"b"⟩ 1]).oneActive
  revert hone
  decide +kernel

end RefreshJobs

end CodexPool
