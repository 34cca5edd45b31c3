import CodexPool.Tenant.ApiKeyGroups
import Mathlib.Data.List.Perm.Basic

/-!
# The default group

The unique index keeps a second default group out, and a transaction that sets one has taken the
mark from the group that had it. What no statement looks after is that a default group is left: the
mark can be taken away by changing its group, and a group may get the mark between the check and
the statement that delete it.
-/

namespace CodexPool

/-! ## One default group -/

def OneDefault (rows : GroupRows) : Prop := ∃ group, rows.filter (·.isLiveDefault) = [group]

theorem oneDefault_iff {rows : GroupRows} (hids : (rows.map (·.id)).Nodup) :
    OneDefault rows ↔ ∃ group ∈ rows, group.isLiveDefault = true ∧
      ∀ other ∈ rows, other.isLiveDefault = true → other.id = group.id := by
  constructor
  · rintro ⟨group, hfilter⟩
    have hmem : ∀ other, other ∈ rows ∧ other.isLiveDefault = true ↔ other = group := by
      intro other
      rw [← List.mem_filter, hfilter, List.mem_singleton]
    refine ⟨group, ((hmem group).2 rfl).1, ((hmem group).2 rfl).2, ?_⟩
    intro other hother hlive
    rw [(hmem other).1 ⟨hother, hlive⟩]
  · rintro ⟨group, hgroup, hlive, hothers⟩
    refine ⟨group, List.perm_singleton.1 ?_⟩
    rw [List.perm_ext_iff_of_nodup ((List.Nodup.of_map _ hids).filter _)
      (List.nodup_singleton group)]
    intro other
    rw [List.mem_filter, List.mem_singleton]
    constructor
    · intro h
      exact List.inj_on_of_nodup_map hids h.1 hgroup (hothers other h.1 h.2)
    · rintro rfl
      exact ⟨hgroup, hlive⟩

/-- The one default group is found, whatever the times of the changes are. -/
theorem fetchDefault_of_filter {rows : GroupRows} {group : ApiKeyGroupAdminRecord}
    (h : rows.filter (·.isLiveDefault) = [group]) (times : ApiKeyGroupAdminRecord → DateTime) :
    fetchDefaultApiKeyGroupRecord (rows.map fun g => { g with updatedAt := times g }) =
      some { group with updatedAt := times group } := by
  have hfilter : (rows.map fun g => { g with updatedAt := times g }).filter (·.isLiveDefault) =
      (rows.filter (·.isLiveDefault)).map fun g => { g with updatedAt := times g } := by
    rw [List.filter_map]
    rfl
  rw [fetchDefaultApiKeyGroupRecord, hfilter, h]
  simp

/-! ## The statements -/

section Statements

variable {rows : GroupRows} {g : ApiKeyGroupAdminRecord} {ids : List Uuid} {id : Uuid}
  {now : DateTime} {u : GroupUpsert}

theorem live_clearDefaults_iff : (g ∈ clearDefaults ids now rows ∧ g.isLiveDefault = true) ↔
    g ∈ rows ∧ g.isLiveDefault = true ∧ g.id ∉ ids := by
  constructor
  · rintro ⟨hg, hlive⟩
    obtain ⟨g', hg', rfl⟩ := List.mem_map.1 hg
    by_cases hid : g'.id ∈ ids
    · simp [hid, ApiKeyGroupAdminRecord.isLiveDefault] at hlive
    · rw [if_neg hid] at hlive ⊢
      exact ⟨hg', hlive, hid⟩
  · rintro ⟨hg, hlive, hid⟩
    exact ⟨List.mem_map.2 ⟨g, hg, if_neg hid⟩, hlive⟩

theorem live_deleteGroup_iff : (g ∈ deleteGroup id now rows ∧ g.isLiveDefault = true) ↔
    g ∈ rows ∧ g.isLiveDefault = true ∧ g.id ≠ id := by
  constructor
  · rintro ⟨hg, hlive⟩
    obtain ⟨g', hg', rfl⟩ := List.mem_map.1 hg
    by_cases hid : g'.id = id
    · simp [hid, ApiKeyGroupAdminRecord.isLiveDefault] at hlive
    · rw [if_neg hid] at hlive ⊢
      exact ⟨hg', hlive, hid⟩
  · rintro ⟨hg, hlive, hid⟩
    exact ⟨List.mem_map.2 ⟨g, hg, if_neg hid⟩, hlive⟩

theorem nodup_write (hids : (rows.map (·.id)).Nodup) : ((u.write rows).map (·.id)).Nodup :=
  Keyed.nodup_upsertBy hids _

theorem live_write_iff (hids : (rows.map (·.id)).Nodup) :
    (g ∈ u.write rows ∧ g.isLiveDefault = true) ↔
      (g = u.record rows ∧ u.isDefault = true) ∨
        g ∈ rows ∧ g.isLiveDefault = true ∧ g.id ≠ u.id := by
  have hrecord : (u.record rows).isLiveDefault = u.isDefault := by
    simp [ApiKeyGroupAdminRecord.isLiveDefault, GroupUpsert.record]
  rw [GroupUpsert.write, Keyed.mem_upsertBy hids]
  constructor
  · rintro ⟨rfl | ⟨hg, hne⟩, hlive⟩
    · exact Or.inl ⟨rfl, by rw [← hrecord, hlive]⟩
    · exact Or.inr ⟨hg, hlive, hne⟩
  · rintro (⟨rfl, hdefault⟩ | ⟨hg, hlive, hne⟩)
    · exact ⟨Or.inl rfl, by rw [hrecord, hdefault]⟩
    · exact ⟨Or.inr ⟨hg, hne⟩, hlive⟩

theorem oneDefault_write_default (hids : (rows.map (·.id)).Nodup) (hu : u.isDefault = true)
    (hcover : ∀ g ∈ rows, g.isLiveDefault = true → g.id = u.id ∨ g.id ∈ ids) :
    OneDefault (u.write (clearDefaults ids now rows)) := by
  have hcleared := nodup_clearDefaults hids ids now
  rw [oneDefault_iff (nodup_write hcleared)]
  have hrecord := (live_write_iff (u := u) hcleared).2 (Or.inl ⟨rfl, hu⟩)
  refine ⟨_, hrecord.1, hrecord.2, ?_⟩
  intro other hother hlive
  rcases (live_write_iff hcleared).1 ⟨hother, hlive⟩ with ⟨rfl, -⟩ | ⟨hmem, hlive, hne⟩
  · rfl
  · obtain ⟨hmem, hlive, hnot⟩ := live_clearDefaults_iff.1 ⟨hmem, hlive⟩
    exact absurd (hcover other hmem hlive) (not_or.2 ⟨hne, hnot⟩)

theorem oneDefault_iff_of_live {rows' : GroupRows} (hids : (rows.map (·.id)).Nodup)
    (hids' : (rows'.map (·.id)).Nodup) (hone : OneDefault rows)
    (hlive : ∀ g, (g ∈ rows' ∧ g.isLiveDefault = true) ↔
      g ∈ rows ∧ g.isLiveDefault = true ∧ g.id ≠ id) :
    OneDefault rows' ↔ ∀ g ∈ rows, g.isLiveDefault = true → g.id ≠ id := by
  obtain ⟨group, hgroup, hgroupLive, hothers⟩ := (oneDefault_iff hids).1 hone
  rw [oneDefault_iff hids']
  constructor
  · rintro ⟨group', hgroup', hgroupLive', -⟩ g hg hgLive
    obtain ⟨hmem, hgroupLive', hne⟩ := (hlive group').1 ⟨hgroup', hgroupLive'⟩
    rwa [hothers g hg hgLive, ← hothers group' hmem hgroupLive']
  · intro hspared
    have hkept := (hlive group).2 ⟨hgroup, hgroupLive, hspared group hgroup hgroupLive⟩
    refine ⟨group, hkept.1, hkept.2, ?_⟩
    intro other hother hotherLive
    obtain ⟨hmem, hotherLive, -⟩ := (hlive other).1 ⟨hother, hotherLive⟩
    exact hothers other hmem hotherLive

end Statements

/-! ## What the transactions keep to -/

/-- A call clears rows only if it sets a default group, and once it has written this group it has
cleared all other ones. -/
def GroupTask.Keeps (rows : GroupRows) : GroupTask → Prop
  | .upsert u (.clearing _) => u.isDefault = true
  | .upsert u (.cleared ids) => u.isDefault = false → ids = []
  | .upsert u (.written ids) => (u.isDefault = false → ids = []) ∧
      (u.isDefault = true → ∀ g ∈ rows, g.isLiveDefault = true → g.id = u.id ∨ g.id ∈ ids)
  | _ => True

namespace GroupTask

variable {rows rows' : GroupRows} {task : GroupTask}

theorem Keeps.of_not_wroteDefault (h : task.Keeps rows) (hwrote : task.wroteDefault = false) :
    task.Keeps rows' := by
  cases task with
  | delete id => trivial
  | upsert u phase =>
      cases phase with
      | begun => trivial
      | clearing seen => exact h
      | cleared ids => exact h
      | written ids => exact ⟨h.1, fun hu => absurd hu (by simpa [wroteDefault] using hwrote)⟩

theorem Keeps.of_live (h : task.Keeps rows)
    (hlive : ∀ g ∈ rows', g.isLiveDefault = true → g ∈ rows) : task.Keeps rows' := by
  cases task with
  | delete id => trivial
  | upsert u phase =>
      cases phase with
      | begun => trivial
      | clearing seen => exact h
      | cleared ids => exact h
      | written ids => exact ⟨h.1, fun hu g hg hgLive => h.2 hu g (hlive g hg hgLive) hgLive⟩

end GroupTask

namespace GroupWorld

variable {w : GroupWorld}

/-- All calls keep to that, and one at most has written a default group. -/
structure Disciplined (w : GroupWorld) : Prop where
  keeps : ∀ p ∈ w.tasks, p.2.Keeps w.rows
  single : ∀ p ∈ w.tasks, ∀ q ∈ w.tasks, p.2.wroteDefault = true → q.2.wroteDefault = true →
    p.1 = q.1

theorem Disciplined.endTask (h : w.Disciplined) (call : Nat) : (w.endTask call).Disciplined where
  keeps p hp := h.keeps p (List.mem_filter.1 hp).1
  single p hp q hq := h.single p (List.mem_filter.1 hp).1 q (List.mem_filter.1 hq).1

theorem Disciplined.setTask (h : w.Disciplined) (call : Nat) {task : GroupTask}
    (hkeeps : task.Keeps w.rows)
    (hsingle : task.wroteDefault = true → ∀ other ∈ w.others call, other.wroteDefault = false) :
    (w.setTask call task).Disciplined where
  keeps p hp := by
    rcases List.mem_cons.1 hp with rfl | hp
    · exact hkeeps
    · exact h.keeps p (List.mem_filter.1 hp).1
  single p hp q hq hpWrote hqWrote := by
    have hnone : ∀ p ∈ w.tasks.filter (·.1 ≠ call), p.2.wroteDefault = true →
        task.wroteDefault = false := by
      intro p hp hpWrote
      by_contra hwrote
      have hother := hsingle (by simpa using hwrote) p.2
        (List.mem_map_of_mem hp)
      rw [hother] at hpWrote
      cases hpWrote
    rcases List.mem_cons.1 hp with rfl | hp <;> rcases List.mem_cons.1 hq with rfl | hq
    · rfl
    · exact absurd hpWrote (by simp [hnone q hq hqWrote])
    · exact absurd hqWrote (by simp [hnone p hp hpWrote])
    · exact h.single p (List.mem_filter.1 hp).1 q (List.mem_filter.1 hq).1 hpWrote hqWrote

/-! ## One step -/

/-- The call of the step does not take the default group away: it does not end an upsert that leaves
the mark out for this group, or delete it. -/
def Spares (w : GroupWorld) (s : GroupStep) : Prop :=
  match s.event with
  | .proceed =>
    match w.tasks.lookup s.call with
    | some (.upsert u (.written _)) =>
      u.isDefault = false → ∀ g ∈ w.rows, g.isLiveDefault = true → g.id ≠ u.id
    | some (.delete id) =>
      w.isLocked s.call id = false → ∀ g ∈ w.rows, g.isLiveDefault = true → g.id ≠ id
    | _ => True
  | _ => True

variable {call : Nat}

theorem mem_of_lookup {tasks : List (Nat × GroupTask)} {task : GroupTask}
    (h : tasks.lookup call = some task) : (call, task) ∈ tasks := by
  obtain ⟨before, after, rfl, -⟩ := List.lookup_eq_some_iff.1 h
  simp

variable {u : GroupUpsert} {ids : List Uuid}

theorem covers_of_not_violates (h : w.violates u ids = false) (hu : u.isDefault = true) :
    ∀ g ∈ w.rows, g.isLiveDefault = true → g.id = u.id ∨ g.id ∈ ids := by
  intro g hg hlive
  have hnot := List.any_eq_false.1 h g hg
  by_contra hother
  rw [not_or] at hother
  simp [hother.1, hother.2, hu, hlive] at hnot

theorem not_wroteDefault_of_not_busy (h : w.indexIsBusy call = false) :
    ∀ other ∈ w.others call, other.wroteDefault = false := by
  intro other hother
  have hnot := List.any_eq_false.1 h other hother
  rw [Bool.or_eq_true, not_or] at hnot
  simpa using hnot.1

/-- The end of a transaction keeps to the discipline: if it has written a default group no other
call has, and otherwise it adds none. -/
theorem Disciplined.commit (h : w.Disciplined)
    (hmem : (call, GroupTask.upsert u (.written ids)) ∈ w.tasks) :
    (w.proceedUpsert call u (.written ids)).Disciplined where
  keeps p hp := by
    obtain ⟨hp, hne⟩ := List.mem_filter.1 hp
    have hkeeps := h.keeps _ hmem
    cases hu : u.isDefault with
    | true =>
        apply (h.keeps p hp).of_not_wroteDefault
        by_contra hwrote
        have heq := h.single p hp _ hmem (by simpa using hwrote) hu
        simp [heq] at hne
    | false =>
        apply (h.keeps p hp).of_live
        intro g hg hlive
        rcases (live_write_iff (nodup_clearDefaults w.ids_nodup ids u.now)).1 ⟨hg, hlive⟩ with
          ⟨-, hdefault⟩ | ⟨hg, hlive, -⟩
        · rw [hu] at hdefault
          cases hdefault
        · exact (live_clearDefaults_iff.1 ⟨hg, hlive⟩).1
  single p hp q hq := h.single p (List.mem_filter.1 hp).1 q (List.mem_filter.1 hq).1

theorem Disciplined.proceedUpsert (h : w.Disciplined)
    {phase : UpsertPhase} (hmem : (call, GroupTask.upsert u phase) ∈ w.tasks) :
    (w.proceedUpsert call u phase).Disciplined := by
  have hkeeps := h.keeps _ hmem
  cases phase with
  | begun =>
      rw [GroupWorld.proceedUpsert]
      split
      · rename_i hu
        exact h.setTask call hu nofun
      · exact h.setTask call (fun _ => rfl) nofun
  | clearing seen =>
      have hu : u.isDefault = true := hkeeps
      rw [GroupWorld.proceedUpsert]
      split
      · exact h
      · exact h.setTask call (fun hnot => by simp [hu] at hnot) nofun
  | cleared ids =>
      rw [GroupWorld.proceedUpsert]
      split_ifs with hbusy hviolates
      · exact h
      · exact h.endTask call
      · rw [Bool.or_eq_true, not_or, Bool.and_eq_true, not_and] at hbusy
        apply h.setTask call
        · refine ⟨hkeeps, covers_of_not_violates ?_⟩
          simpa using hviolates
        · intro hu
          apply not_wroteDefault_of_not_busy
          simpa using hbusy.2 hu
  | written ids => exact h.commit hmem

theorem Disciplined.proceedDelete (h : w.Disciplined) (call : Nat) (id : Uuid) (now : DateTime) :
    (w.proceedDelete call id now).Disciplined := by
  rw [GroupWorld.proceedDelete]
  split
  · exact h
  · constructor
    · intro p hp
      apply (h.keeps p (List.mem_filter.1 hp).1).of_live
      exact fun g hg hlive => (live_deleteGroup_iff.1 ⟨hg, hlive⟩).1
    · exact fun p hp q hq => h.single p (List.mem_filter.1 hp).1 q (List.mem_filter.1 hq).1

theorem Disciplined.step (h : w.Disciplined) (s : GroupStep) : (w.step s).Disciplined := by
  obtain ⟨call, now, event⟩ := s
  rw [GroupWorld.step]
  split
  · split
    · exact h
    · exact h.setTask call trivial nofun
  · split
    · exact h
    · split
      · exact h
      · exact h.setTask call trivial nofun
  · rename_i hlookup
    exact h.proceedUpsert (mem_of_lookup hlookup)
  · exact h.proceedDelete call _ now
  · exact h.endTask call
  · exact h

theorem oneDefault_commit_iff (h : w.Disciplined) (hone : OneDefault w.rows)
    (hmem : (call, GroupTask.upsert u (.written ids)) ∈ w.tasks) :
    OneDefault (w.proceedUpsert call u (.written ids)).rows ↔
      (u.isDefault = false → ∀ g ∈ w.rows, g.isLiveDefault = true → g.id ≠ u.id) := by
  have hkeeps := h.keeps _ hmem
  cases hu : u.isDefault with
  | true =>
      exact iff_of_true (oneDefault_write_default w.ids_nodup hu (hkeeps.2 hu)) nofun
  | false =>
      obtain rfl := hkeeps.1 hu
      have hcleared := nodup_clearDefaults w.ids_nodup [] u.now
      refine Iff.trans ?_ (forall_prop_of_true rfl).symm
      apply oneDefault_iff_of_live w.ids_nodup (nodup_write hcleared) hone
      intro g
      rw [live_write_iff hcleared, hu, ← and_assoc (a := g ∈ clearDefaults _ _ _),
        live_clearDefaults_iff]
      simp [and_assoc]

theorem rows_proceedUpsert (w : GroupWorld) (call : Nat) (u : GroupUpsert) (phase : UpsertPhase)
    (h : ∀ ids, phase ≠ .written ids) : (w.proceedUpsert call u phase).rows = w.rows := by
  cases phase with
  | begun =>
      rw [proceedUpsert]
      split <;> rfl
  | clearing seen =>
      rw [proceedUpsert]
      split <;> rfl
  | cleared ids =>
      rw [proceedUpsert]
      split_ifs <;> rfl
  | written ids => exact absurd rfl (h ids)

theorem rows_step (w : GroupWorld) (s : GroupStep) (h : s.event ≠ .proceed) :
    (w.step s).rows = w.rows := by
  obtain ⟨call, now, event⟩ := s
  rw [step]
  split
  · split <;> rfl
  · split
    · rfl
    · split <;> rfl
  · exact absurd (by assumption) h
  · exact absurd (by assumption) h
  · rfl
  · rfl

theorem oneDefault_step_iff (h : w.Disciplined) (hone : OneDefault w.rows) (s : GroupStep) :
    OneDefault (w.step s).rows ↔ w.Spares s := by
  obtain ⟨call, now, event⟩ := s
  cases event with
  | startUpsert req freshId =>
      rw [rows_step w ⟨call, now, .startUpsert req freshId⟩ (by simp)]
      exact iff_of_true hone trivial
  | startDelete id =>
      rw [rows_step w ⟨call, now, .startDelete id⟩ (by simp)]
      exact iff_of_true hone trivial
  | fail =>
      rw [rows_step w ⟨call, now, .fail⟩ (by simp)]
      exact iff_of_true hone trivial
  | proceed =>
      rw [step, Spares]
      dsimp only
      cases htask : w.tasks.lookup call with
      | none => exact iff_of_true hone trivial
      | some task =>
          cases task with
          | delete id =>
              dsimp only
              rw [proceedDelete]
              cases hlocked : w.isLocked call id with
              | true => exact iff_of_true hone nofun
              | false =>
                  refine Iff.trans ?_ (forall_prop_of_true rfl).symm
                  exact oneDefault_iff_of_live w.ids_nodup
                    (nodup_deleteGroup w.ids_nodup id now) hone fun g => live_deleteGroup_iff
          | upsert u phase =>
              dsimp only
              cases phase with
              | begun =>
                  rw [rows_proceedUpsert w call u .begun (by simp)]
                  exact iff_of_true hone trivial
              | clearing seen =>
                  rw [rows_proceedUpsert w call u (.clearing seen) (by simp)]
                  exact iff_of_true hone trivial
              | cleared ids =>
                  rw [rows_proceedUpsert w call u (.cleared ids) (by simp)]
                  exact iff_of_true hone trivial
              | written ids => exact oneDefault_commit_iff h hone (mem_of_lookup htask)

/-! ## All runs -/

/-- From one default group and no call under way: one default group is left in every state of a run
exactly if no call takes it away, and it is then the one that is found, whatever the times of the
changes are. -/
theorem oneDefault_iff_spares (rows : GroupRows) (hids : (rows.map (·.id)).Nodup)
    (hone : OneDefault rows) (steps : List GroupStep) :
    ((∀ pre, pre <+: steps → OneDefault (Machine.run step ⟨rows, [], hids⟩ pre).rows) ↔
        Machine.Along step Spares ⟨rows, [], hids⟩ steps) ∧
      ∀ rows' : GroupRows, OneDefault rows' → ∃ group ∈ rows',
        ∀ times : ApiKeyGroupAdminRecord → DateTime,
          fetchDefaultApiKeyGroupRecord (rows'.map fun g => { g with updatedAt := times g }) =
            some { group with updatedAt := times group } := by
  constructor
  · have hdisciplined : Disciplined ⟨rows, [], hids⟩ :=
      ⟨fun p hp => absurd hp List.not_mem_nil, fun p hp => absurd hp List.not_mem_nil⟩
    exact Machine.along_iff_prefixes (P := Disciplined)
      (Q := fun w : GroupWorld => OneDefault w.rows) (fun w s hw => hw.step s)
      (fun w s hw hq => oneDefault_step_iff hw hq s) hdisciplined hone steps
  · rintro rows' ⟨group, hgroup⟩
    have hmem : group ∈ rows'.filter (·.isLiveDefault) := by simp [hgroup]
    exact ⟨group, (List.mem_filter.1 hmem).1, fetchDefault_of_filter hgroup⟩

/-! ## The mark taken away -/

def sampleGroup : ApiKeyGroupAdminRecord where
  id := ⟨"7a3d0a52-0000-4000-8000-000000000001"⟩
  enabled := true
  allowAllModels := true
  inputMultiplierPpm := ⟨1000000, by decide, by decide⟩
  cachedInputMultiplierPpm := ⟨1000000, by decide, by decide⟩
  outputMultiplierPpm := ⟨1000000, by decide, by decide⟩
  deletedAt := none
  name := "Default"
  description := none
  isDefault := true
  createdAt := 0
  updatedAt := 0

/-- The request that leaves the mark of the default group out. -/
def unmark : ApiKeyGroupUpsertRequest where
  id := some sampleGroup.id
  name := "Default"
  description := none
  isDefault := false
  enabled := true
  allowAllModels := true
  inputMultiplierPpm := ⟨1000000, by decide, by decide⟩
  cachedInputMultiplierPpm := ⟨1000000, by decide, by decide⟩
  outputMultiplierPpm := ⟨1000000, by decide, by decide⟩

/-- The four steps of a call on its own. -/
def unmarkSteps : List GroupStep :=
  [⟨1, 10, .startUpsert unmark sampleGroup.id⟩, ⟨1, 11, .proceed⟩, ⟨1, 12, .proceed⟩,
    ⟨1, 13, .proceed⟩]

def spareGroup : ApiKeyGroupAdminRecord :=
  { sampleGroup with
    id := ⟨"7a3d0a52-0000-4000-8000-000000000002"⟩
    name := "Spare"
    isDefault := false }

/-- The spare group is made the default one, then the other is deleted. -/
def markSteps : List GroupStep :=
  [⟨1, 10, .startUpsert { unmark with id := some spareGroup.id, name := "Spare", isDefault := true }
      spareGroup.id⟩,
    ⟨1, 11, .proceed⟩, ⟨1, 12, .proceed⟩, ⟨1, 13, .proceed⟩, ⟨1, 14, .proceed⟩,
    ⟨2, 15, .startDelete sampleGroup.id⟩, ⟨2, 16, .proceed⟩]

theorem oneDefault_markSteps :
    OneDefault (Machine.run step ⟨[sampleGroup, spareGroup], [], by decide⟩ markSteps).rows := by
  have hiff := (oneDefault_iff_spares [sampleGroup, spareGroup] (by decide) ⟨sampleGroup, rfl⟩
    markSteps).1
  refine hiff.2 ⟨trivial, trivial, trivial, trivial, ?_, trivial, ?_, trivial⟩ _
    (List.prefix_refl _)
  · exact fun hmark => absurd hmark (by decide +kernel)
  -- by then the other group is not the default one any more
  · exact fun _ => by decide +kernel

/-- An upsert of the default group without the mark leaves no default group. -/
theorem unmarked_none : ¬ ∀ (rows : GroupRows) (hids : (rows.map (·.id)).Nodup)
    (steps : List GroupStep), OneDefault rows →
      OneDefault (Machine.run step ⟨rows, [], hids⟩ steps).rows := by
  intro h
  obtain ⟨group, hgroup⟩ := h [sampleGroup] (List.nodup_singleton _) unmarkSteps ⟨sampleGroup, rfl⟩
  have hnone : (Machine.run step ⟨[sampleGroup], [], List.nodup_singleton _⟩
      unmarkSteps).rows.filter (·.isLiveDefault) = [] := by rfl
  rw [hnone] at hgroup
  cases hgroup

end GroupWorld

end CodexPool
