import CodexPool.Usage.Worker

/-!
# What an ack stands for

An entry is acked only after its rows are written. It counts exactly once as long as only
lost entries are reclaimed: those that no worker is going to count and that no flush has
counted before it failed.
-/

namespace CodexPool

open Delivery

/-! ## Calls to Redis -/

/-- What a call to Redis may do to a group: it delivers `fresh`, and acks entries of `seen`
that are malformed. -/
structure ReadEffect (g g' : StreamGroup) (seen fresh : List StreamEntry) : Prop where
  entries : g'.entries = g.entries
  bound : g.delivered ≤ g.entries.length → g'.delivered ≤ g.entries.length
  delivered : g'.entries.take g'.delivered = g.entries.take g.delivered ++ fresh
  pending : ∀ id, id ∉ g'.pending →
    id ∉ g.pending ∧ id ∉ fresh.map (·.id) ∨ ∃ e ∈ seen, e.id = id ∧ e.event = none
  kept : ∀ id ∈ g'.pending, id ∈ g.pending ∨ id ∈ fresh.map (·.id)

theorem ReadEffect.refl (g : StreamGroup) (seen : List StreamEntry) : ReadEffect g g seen [] :=
  ⟨rfl, id, by simp, fun id hid => .inl (by simp [hid]), fun _ hid => .inl hid⟩

theorem readEffect_parseMessagesAndAckInvalid (seen : List StreamEntry)
    (ackInvalid : CallOutcome) (g : StreamGroup) :
    ReadEffect g (parseMessagesAndAckInvalid seen ackInvalid g).2 seen [] ∧
      ∀ messages ∈ (parseMessagesAndAckInvalid seen ackInvalid g).1,
        messages = seen.filterMap parseMessage := by
  have hself := ReadEffect.refl g seen
  rw [parseMessagesAndAckInvalid]
  split
  · exact ⟨hself, fun messages hm => (Option.mem_some_iff.1 hm).symm⟩
  · constructor
    · dsimp only
      split
      · refine ⟨rfl, id, by simp [StreamGroup.ack], fun id hid => ?_,
          fun id hid => .inl (List.mem_filter.1 hid).1⟩
        rw [StreamGroup.ack, List.mem_filter, not_and] at hid
        by_cases hpending : id ∈ g.pending
        · right
          have hacked := hid hpending
          simp only [decide_not, Bool.not_eq_true', decide_eq_false_iff_not, not_not,
            List.mem_map, List.mem_filter] at hacked
          rcases hacked with ⟨e, ⟨he, hnone⟩, rfl⟩
          exact ⟨e, he, rfl, Option.isNone_iff_eq_none.1 hnone⟩
        · exact .inl (by simp [hpending])
      · exact hself
    · intro messages hm
      dsimp only at hm
      split at hm
      · exact (Option.mem_some_iff.1 hm).symm
      · cases hm

theorem readEffect_deliver (g : StreamGroup) (count : Nat) :
    ReadEffect g (g.deliver count) [] (g.fresh count) := by
  refine ⟨rfl, ?_, ?_, ?_, ?_⟩
  · intro hbound
    simp only [StreamGroup.deliver, StreamGroup.fresh, List.length_take, List.length_drop]
    omega
  · simp only [StreamGroup.deliver, List.take_add]
    congr 1
    rw [StreamGroup.fresh, List.length_take, ← List.take_take, List.take_length]
  · intro id hid
    rw [StreamGroup.deliver, List.mem_append, not_or] at hid
    exact .inl hid
  · exact fun id hid => List.mem_append.1 hid

theorem ReadEffect.trans {g g₁ g₂ : StreamGroup} {seen fresh : List StreamEntry}
    (h₁ : ReadEffect g g₁ [] fresh) (h₂ : ReadEffect g₁ g₂ seen []) :
    ReadEffect g g₂ seen fresh := by
  refine ⟨h₂.entries.trans h₁.entries, ?_, ?_, ?_, ?_⟩
  · intro hbound
    rw [← h₁.entries]
    apply h₂.bound
    rw [h₁.entries]
    exact h₁.bound hbound
  · rw [h₂.delivered, h₁.delivered, List.append_nil]
  · intro id hid
    rcases h₂.pending id hid with ⟨hpending, -⟩ | hmalformed
    · rcases h₁.pending id hpending with h | ⟨e, he, -⟩
      · exact .inl h
      · cases he
    · exact .inr hmalformed
  · intro id hid
    rcases h₂.kept id hid with hid | hid
    · exact h₁.kept id hid
    · cases hid

theorem reclaimPending_effect (count : Nat) (idle : List String) (calls : ReadCalls)
    (g : StreamGroup) :
    ReadEffect g (reclaimPending count idle calls g).2 (g.reclaimable count idle) [] ∧
      ∀ messages ∈ (reclaimPending count idle calls g).1,
        messages = (g.reclaimable count idle).filterMap parseMessage := by
  have hself := ReadEffect.refl g (g.reclaimable count idle)
  rw [reclaimPending]
  cases calls.read with
  | done => exact readEffect_parseMessagesAndAckInvalid _ _ _
  | refused => exact ⟨hself, by simp⟩
  | unanswered => exact ⟨hself, by simp⟩

theorem readGroup_effect (count : Nat) (calls : ReadCalls) (g : StreamGroup) :
    ∃ fresh, ReadEffect g (readGroup count calls g).2 (g.fresh count) fresh ∧
      ∀ messages ∈ (readGroup count calls g).1,
        fresh = g.fresh count ∧ messages = fresh.filterMap parseMessage := by
  rw [readGroup]
  cases calls.read with
  | done =>
      have hack := readEffect_parseMessagesAndAckInvalid (g.fresh count) calls.ackInvalid
        (g.deliver count)
      exact ⟨g.fresh count, (readEffect_deliver g count).trans hack.1,
        fun messages hm => ⟨rfl, hack.2 messages hm⟩⟩
  | refused => exact ⟨[], ReadEffect.refl g _, by simp⟩
  | unanswered =>
      have hdeliver := readEffect_deliver g count
      refine ⟨g.fresh count, ⟨hdeliver.entries, hdeliver.bound, hdeliver.delivered,
        fun id hid => ?_, hdeliver.kept⟩, by simp⟩
      rcases hdeliver.pending id hid with h | ⟨e, he, -⟩
      · exact .inl h
      · cases he

namespace StreamGroup

variable {g g' : StreamGroup}

theorem reclaimable_sublist (count : Nat) (idle : List String) :
    (g.reclaimable count idle).Sublist g.entries :=
  (List.take_sublist _ _).trans List.filter_sublist

theorem fresh_sublist (count : Nat) : (g.fresh count).Sublist g.entries :=
  (List.take_sublist _ _).trans (List.drop_sublist _ _)

theorem exists_entry {m : StreamMessage} {entries : List StreamEntry}
    (h : m ∈ entries.filterMap parseMessage) :
    ∃ e ∈ entries, e.id = m.messageId ∧ e.event ≠ none ∧ parseMessage e = some m := by
  rcases List.mem_filterMap.1 h with ⟨e, he, hparse⟩
  refine ⟨e, he, ?_, ?_, hparse⟩
  · rw [parseMessage, Option.map_eq_some_iff] at hparse
    rcases hparse with ⟨event, -, rfl⟩
    rfl
  · intro hnone
    rw [parseMessage, hnone] at hparse
    cases hparse

theorem entry_unique (hids : (g.entries.map (·.id)).Nodup) {e e' : StreamEntry}
    (he : e ∈ g.entries) (he' : e' ∈ g.entries) (hid : e.id = e'.id) : e = e' :=
  List.inj_on_of_nodup_map hids he he' hid

theorem message_unique (hids : (g.entries.map (·.id)).Nodup) {m m' : StreamMessage}
    (hm : m ∈ g.deliveredMessages) (hm' : m' ∈ g.deliveredMessages)
    (hid : m.messageId = m'.messageId) : m = m' := by
  rcases exists_entry hm with ⟨e, he, heid, -, hparse⟩
  rcases exists_entry hm' with ⟨e', he', heid', -, hparse'⟩
  have heq := entry_unique hids (List.mem_of_mem_take he) (List.mem_of_mem_take he')
    (heid.trans (hid.trans heid'.symm))
  rw [heq, hparse'] at hparse
  exact (Option.some.inj hparse).symm

end StreamGroup

theorem ReadEffect.deliveredMessages_eq {g g' : StreamGroup} {seen fresh : List StreamEntry}
    (h : ReadEffect g g' seen fresh) :
    g'.deliveredMessages = g.deliveredMessages ++ fresh.filterMap parseMessage := by
  rw [StreamGroup.deliveredMessages, h.delivered, List.filterMap_append]
  rfl

/-! ## What is known of every state -/

/-- What a worker has in memory was delivered, and a flush has written the rows of the stages
behind it. -/
structure WorkerTracked (g : StreamGroup) (repo : UsageRepo) (w : UsageWorker) : Prop where
  known : ∀ m ∈ w.messages, m ∈ g.deliveredMessages
  logged : ∀ stage messages, w = .flushing stage messages → stage.logged = true →
    ∀ m ∈ messages, m.requestLogRow ∈ repo.requestLogs
  counted : ∀ stage messages, w = .flushing stage messages → stage.counted = true →
    ∀ m ∈ messages, m ∈ repo.accountBatches.flatten

theorem WorkerTracked.mono {g g' : StreamGroup} {repo repo' : UsageRepo} {w : UsageWorker}
    (h : WorkerTracked g repo w) (hgroup : g.deliveredMessages ⊆ g'.deliveredMessages)
    (hlogs : repo.requestLogs ⊆ repo'.requestLogs)
    (hbatches : repo.accountBatches ⊆ repo'.accountBatches) : WorkerTracked g' repo' w where
  known m hm := hgroup (h.known m hm)
  logged stage messages hw hstage m hm := hlogs (h.logged stage messages hw hstage m hm)
  counted stage messages hw hstage m hm := by
    rcases List.mem_flatten.1 (h.counted stage messages hw hstage m hm) with ⟨batch, hb, hm⟩
    exact List.mem_flatten.2 ⟨batch, hbatches hb, hm⟩

theorem workerTracked_polling {g : StreamGroup} {repo : UsageRepo} {buffered : List StreamMessage}
    (h : ∀ m ∈ buffered, m ∈ g.deliveredMessages) :
    WorkerTracked g repo (.polling buffered) :=
  ⟨h, fun _ _ hw => (by cases hw), fun _ _ hw => (by cases hw)⟩

namespace UsageWorld

variable {s : UsageWorld}

structure Tracked (s : UsageWorld) : Prop where
  ids : (s.group.entries.map (·.id)).Nodup
  bound : s.group.delivered ≤ s.group.entries.length
  pending : ∀ id ∈ s.group.pending, ∃ e ∈ s.group.entries.take s.group.delivered, e.id = id
  workers : ∀ consumer, WorkerTracked s.group s.repo (s.workers consumer)
  counted : ∀ m ∈ s.repo.accountBatches.flatten, m ∈ s.group.deliveredMessages
  acked : ∀ m ∈ s.group.deliveredMessages, m.messageId ∉ s.group.pending →
    m.requestLogRow ∈ s.repo.requestLogs ∧ m ∈ s.repo.accountBatches.flatten

theorem tracked_init : Tracked {} where
  ids := List.nodup_nil
  bound := Nat.le_refl _
  pending := by simp
  workers _ := workerTracked_polling (by simp)
  counted := by simp
  acked := by simp [StreamGroup.deliveredMessages]

theorem Tracked.setWorker (h : s.Tracked) {w : UsageWorker}
    (hw : WorkerTracked s.group s.repo w) (consumer : String) :
    (s.setWorker consumer w).Tracked where
  ids := h.ids
  bound := h.bound
  pending := h.pending
  workers consumer' := by
    by_cases hc : consumer' = consumer
    · subst consumer'
      simpa [UsageWorld.setWorker] using hw
    · simpa [UsageWorld.setWorker, hc] using h.workers consumer'
  counted := h.counted
  acked := h.acked

variable {m : StreamMessage}

theorem Tracked.ne_malformed (h : s.Tracked) {entries : List StreamEntry}
    (hentries : entries ⊆ s.group.entries) (hm : m ∈ entries.filterMap parseMessage)
    {e : StreamEntry} (he : e ∈ s.group.entries) (hnone : e.event = none) :
    e.id ≠ m.messageId := by
  intro hid
  rcases StreamGroup.exists_entry hm with ⟨e', he', hid', hsome, -⟩
  have heq := StreamGroup.entry_unique h.ids he (hentries he') (hid.trans hid'.symm)
  exact hsome (heq ▸ hnone)

theorem Tracked.setGroup (h : s.Tracked) {g : StreamGroup} {seen fresh : List StreamEntry}
    (heffect : ReadEffect s.group g seen fresh) (hseen : seen ⊆ s.group.entries)
    (hfresh : fresh ⊆ s.group.entries) : Tracked { s with group := g } where
  ids := by
    rw [heffect.entries]
    exact h.ids
  bound := by
    rw [heffect.entries]
    exact heffect.bound h.bound
  pending id hid := by
    rw [heffect.delivered]
    rcases heffect.kept id hid with hid | hid
    · rcases h.pending id hid with ⟨e, he, heid⟩
      exact ⟨e, List.mem_append_left _ he, heid⟩
    · rcases List.mem_map.1 hid with ⟨e, he, heid⟩
      exact ⟨e, List.mem_append_right _ he, heid⟩
  workers consumer := (h.workers consumer).mono
    (heffect.deliveredMessages_eq ▸ List.subset_append_left _ _) (List.Subset.refl _)
    (List.Subset.refl _)
  counted m hm := by
    rw [heffect.deliveredMessages_eq]
    exact List.mem_append_left _ (h.counted m hm)
  acked m hm hpending := by
    rw [heffect.deliveredMessages_eq, List.mem_append] at hm
    rcases heffect.pending m.messageId hpending with ⟨hold, hnew⟩ | ⟨e, he, hid, hnone⟩
    · rcases hm with hm | hm
      · exact h.acked m hm hold
      · rcases StreamGroup.exists_entry hm with ⟨e, he, hid, -⟩
        exact absurd (List.mem_map.2 ⟨e, he, hid⟩) hnew
    · rcases hm with hm | hm
      · exact absurd hid (h.ne_malformed (List.take_subset _ _) hm (hseen he) hnone)
      · exact absurd hid (h.ne_malformed hfresh hm (hseen he) hnone)

theorem Tracked.append (h : s.Tracked) (entry : StreamEntry) :
    (s.step (.append entry)).Tracked := by
  rw [step]
  split
  · exact h
  · rename_i hnew
    have htake : (s.group.entries ++ [entry]).take s.group.delivered =
        s.group.entries.take s.group.delivered := List.take_append_of_le_length h.bound
    have hdelivered : StreamGroup.deliveredMessages
        { s.group with entries := s.group.entries ++ [entry] } = s.group.deliveredMessages := by
      rw [StreamGroup.deliveredMessages, htake]
      rfl
    refine ⟨?_, ?_, ?_, ?_, ?_, ?_⟩
    · rw [List.map_append, List.nodup_append]
      refine ⟨h.ids, List.nodup_singleton _, ?_⟩
      rintro id hid _ hentry rfl
      rw [List.map_singleton, List.mem_singleton] at hentry
      subst id
      simp only [List.any_eq_true, decide_eq_true_eq] at hnew
      exact hnew (List.mem_map.1 hid)
    · rw [List.length_append]
      exact Nat.le_add_right_of_le h.bound
    · rw [htake]
      exact h.pending
    · intro consumer
      exact (h.workers consumer).mono (by rw [hdelivered]; exact List.Subset.refl _)
        (List.Subset.refl _) (List.Subset.refl _)
    · rw [hdelivered]
      exact h.counted
    · rw [hdelivered]
      exact h.acked

variable {count : Nat}

theorem Tracked.reclaimed (h : s.Tracked) {idle : List String}
    (hm : m ∈ (s.group.reclaimable count idle).filterMap parseMessage) :
    m ∈ s.group.deliveredMessages := by
  rcases StreamGroup.exists_entry hm with ⟨e, he, -, -, hparse⟩
  have hentry := (StreamGroup.reclaimable_sublist count idle).subset he
  have hpending : e.id ∈ s.group.pending := by
    have hselected := (List.mem_filter.1 (List.mem_of_mem_take he)).2
    rw [Bool.and_eq_true] at hselected
    exact of_decide_eq_true hselected.1
  rcases h.pending e.id hpending with ⟨e', he', hid⟩
  have heq := StreamGroup.entry_unique h.ids (List.mem_of_mem_take he') hentry hid
  exact List.mem_filterMap.2 ⟨e, heq ▸ he', hparse⟩

theorem Tracked.reclaim (h : s.Tracked) (consumer : String) (count : Nat) (idle : List String)
    (calls : ReadCalls) : (s.step (.reclaim consumer count idle calls)).Tracked := by
  have heffect := reclaimPending_effect count idle calls s.group
  have hworker := h.workers consumer
  have hgroup := h.setGroup heffect.1 (StreamGroup.reclaimable_sublist _ _).subset
    (List.nil_subset _)
  rw [step]
  cases hw : s.workers consumer with
  | polling buffered =>
      cases hcall : reclaimPending count idle calls s.group with
      | mk messages group =>
          rw [hcall] at heffect hgroup
          rw [hw] at hworker
          cases messages with
          | none => exact hgroup
          | some messages =>
              apply hgroup.setWorker
              have hmessages := heffect.2 messages rfl
              refine ⟨?_, fun _ _ hw => (by cases hw), fun _ _ hw => (by cases hw)⟩
              intro m hm
              rw [heffect.1.deliveredMessages_eq]
              apply List.mem_append_left
              rcases List.mem_append.1 hm with hm | hm
              · exact hworker.known m hm
              · exact h.reclaimed (hmessages ▸ hm)
  | reading buffered reclaimed => exact h
  | flushing stage messages => exact h

theorem Tracked.read (h : s.Tracked) (consumer : String) (count : Nat) (calls : ReadCalls) :
    (s.step (.read consumer count calls)).Tracked := by
  rcases readGroup_effect count calls s.group with ⟨fresh, heffect, hmessages⟩
  have hworker := h.workers consumer
  rw [step]
  cases hw : s.workers consumer with
  | polling buffered => exact h
  | reading buffered reclaimed =>
      cases hcall : readGroup count calls s.group with
      | mk messages group =>
          rw [hcall] at heffect hmessages
          rw [hw] at hworker
          have hfresh : fresh ⊆ s.group.entries := by
            intro e he
            rw [← heffect.entries]
            apply List.take_subset group.delivered
            rw [heffect.delivered]
            exact List.mem_append_right _ he
          have hgroup := h.setGroup heffect (StreamGroup.fresh_sublist _).subset hfresh
          have hdelivered := heffect.deliveredMessages_eq
          cases messages with
          | none =>
              apply hgroup.setWorker
              apply workerTracked_polling
              intro m hm
              rw [hdelivered]
              exact List.mem_append_left _ (hworker.known m (List.mem_append_left _ hm))
          | some messages =>
              apply hgroup.setWorker
              apply workerTracked_polling
              intro m hm
              rw [hdelivered, ← (hmessages messages rfl).2]
              rw [← List.append_assoc, List.mem_append] at hm
              rw [List.mem_append]
              exact hm.imp_left (hworker.known m)
  | flushing stage messages => exact h

theorem Tracked.flush (h : s.Tracked) (consumer : String) : (s.step (.flush consumer)).Tracked := by
  have hworker := h.workers consumer
  rw [step]
  cases hw : s.workers consumer with
  | polling buffered =>
      rw [hw] at hworker
      dsimp only
      split
      · exact h
      · apply h.setWorker
        refine ⟨hworker.known, ?_, ?_⟩
        · rintro stage messages heq hstage
          cases heq
          cases hstage
        · rintro stage messages heq hstage
          cases heq
          cases hstage
  | reading buffered reclaimed => exact h
  | flushing stage messages => exact h

theorem Tracked.restart (h : s.Tracked) (consumer : String) :
    (s.step (.restart consumer)).Tracked :=
  h.setWorker (workerTracked_polling (by simp)) consumer

/-- The state after a call of a flush has had its effect. -/
def applied (s : UsageWorld) (stage : FlushStage) (messages : List StreamMessage) : UsageWorld :=
  { s with
    repo := s.repo.write messages stage
    group := if stage = .ack then s.group.ack (messages.map (·.messageId)) else s.group }

section Write

variable {consumer : String} {stage : FlushStage} {messages : List StreamMessage}

theorem requestLogs_subset_write (repo : UsageRepo) :
    repo.requestLogs ⊆ (repo.write messages stage).requestLogs := by
  cases stage with
  | requestLogs => exact List.subset_append_left _ _
  | _ => exact List.Subset.refl _

theorem accountBatches_subset_write (repo : UsageRepo) :
    repo.accountBatches ⊆ (repo.write messages stage).accountBatches := by
  cases stage with
  | accountRows => exact List.subset_append_left _ _
  | _ => exact List.Subset.refl _

theorem deliveredMessages_applied :
    (s.applied stage messages).group.deliveredMessages = s.group.deliveredMessages := by
  rw [applied]
  dsimp only
  split <;> rfl

theorem Tracked.applied (h : s.Tracked) (hw : s.workers consumer = .flushing stage messages) :
    (s.applied stage messages).Tracked := by
  have hworker := h.workers consumer
  rw [hw] at hworker
  have hentries : (s.applied stage messages).group.entries = s.group.entries ∧
      (s.applied stage messages).group.delivered = s.group.delivered := by
    rw [UsageWorld.applied]
    dsimp only
    split <;> exact ⟨rfl, rfl⟩
  have hpending : ∀ id, id ∉ (s.applied stage messages).group.pending →
      id ∉ s.group.pending ∨ stage = .ack ∧ id ∈ messages.map (·.messageId) := by
    intro id hid
    rw [UsageWorld.applied] at hid
    dsimp only at hid
    split at hid
    · rename_i hstage
      rw [StreamGroup.ack, List.mem_filter, not_and] at hid
      by_cases hold : id ∈ s.group.pending
      · exact .inr ⟨hstage, by simpa using hid hold⟩
      · exact .inl hold
    · exact .inl hid
  have hkept : ∀ id ∈ (s.applied stage messages).group.pending, id ∈ s.group.pending := by
    intro id hid
    rw [UsageWorld.applied] at hid
    dsimp only at hid
    split at hid
    · exact (List.mem_filter.1 hid).1
    · exact hid
  refine ⟨?_, ?_, ?_, ?_, ?_, ?_⟩
  · rw [hentries.1]
    exact h.ids
  · rw [hentries.1, hentries.2]
    exact h.bound
  · rw [hentries.1, hentries.2]
    exact fun id hid => h.pending id (hkept id hid)
  · intro consumer'
    exact (h.workers consumer').mono (by rw [deliveredMessages_applied]; exact List.Subset.refl _)
      (requestLogs_subset_write _) (accountBatches_subset_write _)
  · rw [deliveredMessages_applied]
    intro m hm
    cases stage with
    | accountRows =>
        change m ∈ (s.repo.accountBatches ++ [messages]).flatten at hm
        rw [List.flatten_append, List.mem_append] at hm
        rcases hm with hm | hm
        · exact h.counted m hm
        · have hm : m ∈ messages := by simpa using hm
          exact hworker.known m hm
    | _ => exact h.counted m hm
  · rw [deliveredMessages_applied]
    intro m hm hacked
    have hsubset : s.repo.accountBatches.flatten ⊆
        (s.applied stage messages).repo.accountBatches.flatten := by
      intro m hm
      rcases List.mem_flatten.1 hm with ⟨batch, hbatch, hm⟩
      exact List.mem_flatten.2 ⟨batch, accountBatches_subset_write _ hbatch, hm⟩
    rcases hpending m.messageId hacked with hold | ⟨rfl, hid⟩
    · rcases h.acked m hm hold with ⟨hlog, hcounted⟩
      exact ⟨requestLogs_subset_write _ hlog, hsubset hcounted⟩
    · rcases List.mem_map.1 hid with ⟨m', hm', hid⟩
      obtain rfl := StreamGroup.message_unique h.ids (hworker.known m' hm') hm hid
      exact ⟨hworker.logged _ _ rfl rfl m' hm', hworker.counted _ _ rfl rfl m' hm'⟩

/-- A worker goes on to the next stage once the rows of this one are written. -/
theorem Tracked.workerTracked_next (h : s.Tracked)
    (hw : s.workers consumer = .flushing stage messages) {next : FlushStage}
    (hnext : stage.next = some next) :
    WorkerTracked (s.applied stage messages).group (s.applied stage messages).repo
      (.flushing next messages) := by
  have hold := (h.applied hw).workers consumer
  rw [show (s.applied stage messages).workers consumer = .flushing stage messages from hw] at hold
  refine ⟨hold.known, ?_, ?_⟩
  · rintro _ _ ⟨rfl, rfl⟩ - m hm
    cases stage with
    | requestLogs => exact List.mem_append_right _ (List.mem_map_of_mem hm)
    | accountRows => exact hold.logged _ _ rfl rfl m hm
    | tenantApiKeyRows => exact hold.logged _ _ rfl rfl m hm
    | tenantAccountRows => exact hold.logged _ _ rfl rfl m hm
    | ack => cases hnext
  · rintro _ _ ⟨rfl, rfl⟩ hstage m hm
    cases stage with
    | requestLogs =>
        obtain rfl := Option.some.inj hnext
        cases hstage
    | accountRows =>
        change m ∈ (s.repo.accountBatches ++ [messages]).flatten
        rw [List.flatten_append, List.mem_append]
        exact .inr (by simpa using hm)
    | tenantApiKeyRows => exact hold.counted _ _ rfl rfl m hm
    | tenantAccountRows => exact hold.counted _ _ rfl rfl m hm
    | ack => cases hnext

theorem writeStage_cases (s : UsageWorld) (consumer : String) (stage : FlushStage)
    (messages : List StreamMessage) (outcome : CallOutcome) :
    s.writeStage consumer stage messages outcome = s.setWorker consumer (.polling []) ∨
      s.writeStage consumer stage messages outcome =
        (s.applied stage messages).setWorker consumer (.polling []) ∨
      ∃ next, stage.next = some next ∧
        s.writeStage consumer stage messages outcome =
          (s.applied stage messages).setWorker consumer (.flushing next messages) := by
  rw [writeStage]
  cases (if stage.makesCall messages then outcome else CallOutcome.done) with
  | done =>
      cases hnext : stage.next with
      | none => exact .inr (.inl rfl)
      | some next => exact .inr (.inr ⟨next, rfl, rfl⟩)
  | refused => exact .inl rfl
  | unanswered => exact .inr (.inl rfl)

theorem Tracked.write (h : s.Tracked) (consumer : String) (outcome : CallOutcome) :
    (s.step (.write consumer outcome)).Tracked := by
  rw [step]
  cases hw : s.workers consumer with
  | polling buffered => exact h
  | reading buffered reclaimed => exact h
  | flushing stage messages =>
      dsimp only
      rcases writeStage_cases s consumer stage messages outcome with
        heq | heq | ⟨next, hnext, heq⟩
      · rw [heq]
        exact h.setWorker (workerTracked_polling (by simp)) consumer
      · rw [heq]
        exact (h.applied hw).setWorker (workerTracked_polling (by simp)) consumer
      · rw [heq]
        exact (h.applied hw).setWorker (h.workerTracked_next hw hnext) consumer

end Write

theorem Tracked.step (h : s.Tracked) (i : UsageInput) : (s.step i).Tracked := by
  cases i with
  | append entry => exact h.append entry
  | reclaim consumer count idle calls => exact h.reclaim consumer count idle calls
  | read consumer count calls => exact h.read consumer count calls
  | flush consumer => exact h.flush consumer
  | write consumer outcome => exact h.write consumer outcome
  | restart consumer => exact h.restart consumer

/-- In every run a message is acked only after its log row and the account rows of its batch
are written. -/
theorem acked_written (inputs : List UsageInput) :
    let s := Machine.run UsageWorld.step {} inputs
    ∀ m ∈ s.group.deliveredMessages, m.messageId ∉ s.group.pending →
      m.requestLogRow ∈ s.repo.requestLogs ∧ m ∈ s.repo.accountBatches.flatten := by
  have htracked : (Machine.run UsageWorld.step {} inputs).Tracked :=
    Machine.run_invariant (P := Tracked) (fun _ i h => Tracked.step h i) tracked_init inputs
  exact htracked.acked

/-! ## Counting once -/

variable {messages : List StreamMessage}

theorem mem_countable :
    m ∈ countable messages ↔ m ∈ messages ∧ m.event.isStreamingOpen = false := by
  simp [countable]

theorem countable_append (messages messages' : List StreamMessage) :
    countable (messages ++ messages') = countable messages ++ countable messages' :=
  List.filter_append _ _

theorem ledger_setWorker (s : UsageWorld) (consumer : String) (w : UsageWorker) :
    (s.setWorker consumer w).ledger =
      s.ledger.keep consumer ((countable w.uncounted).map (·.messageId)) := by
  rw [Ledger.keep, ledger, ledger]
  congr 1
  funext consumer'
  by_cases hc : consumer' = consumer
  · subst consumer'
    simp [setWorker]
  · simp [setWorker, hc]

variable {consumer c : String}

theorem ledger_applied (s : UsageWorld) {stage : FlushStage}
    (hw : s.workers consumer = .flushing stage messages) :
    (s.applied stage messages).ledger =
      { s.ledger with
        counted := s.ledger.counted ++
          if stage = .accountRows then s.ledger.held consumer else [] } := by
  cases stage with
  | accountRows =>
      simp [ledger, applied, UsageRepo.write, countable_append, hw, UsageWorker.uncounted,
        FlushStage.counted]
  | requestLogs => simp [ledger, applied, UsageRepo.write]
  | tenantApiKeyRows => simp [ledger, applied, UsageRepo.write]
  | tenantAccountRows => simp [ledger, applied, UsageRepo.write]
  | ack => simp [ledger, applied, UsageRepo.write]

theorem nodup_messageIds {entries : List StreamEntry} (h : (entries.map (·.id)).Nodup) :
    ((countable (entries.filterMap parseMessage)).map (·.messageId)).Nodup := by
  have hids : ((entries.filterMap parseMessage).map (·.messageId)).Sublist
      (entries.map (·.id)) := by
    induction entries with
    | nil => exact List.Sublist.refl _
    | cons e entries ih =>
        have ih := ih (List.nodup_cons.1 h).2
        cases hparse : parseMessage e with
        | none =>
            rw [List.filterMap_cons_none hparse]
            exact ih.trans (List.sublist_cons_self _ _)
        | some m =>
            rw [List.filterMap_cons_some hparse, List.map_cons, List.map_cons]
            rcases Option.map_eq_some_iff.1 hparse with ⟨event, -, rfl⟩
            exact ih.cons_cons _
  exact (h.sublist hids).sublist (List.filter_sublist.map _)

theorem Tracked.free (h : s.Tracked) {id : String}
    (hnew : ∀ m ∈ s.group.deliveredMessages, m.messageId ≠ id) : s.ledger.Free id := by
  constructor
  · intro consumer hid
    rcases List.mem_map.1 hid with ⟨m, hm, hid⟩
    have hm : m ∈ (s.workers consumer).messages := by
      have huncounted := (mem_countable.1 hm).1
      revert huncounted
      cases s.workers consumer with
      | polling buffered => exact fun hm => hm
      | reading buffered reclaimed => exact fun hm => hm
      | flushing stage messages =>
          rw [UsageWorker.uncounted]
          split
          · exact fun hm => absurd hm List.not_mem_nil
          · exact fun hm => hm
    exact hnew m ((h.workers consumer).known m hm) hid
  · intro hid
    rcases List.mem_map.1 hid with ⟨m, hm, hid⟩
    exact hnew m (h.counted m (mem_countable.1 hm).1) hid

theorem Tracked.free_fresh (h : s.Tracked)
    (hm : m ∈ (s.group.fresh count).filterMap parseMessage) : s.ledger.Free m.messageId := by
  apply h.free
  intro m' hm' hid
  rcases StreamGroup.exists_entry hm with ⟨e, he, heid, -⟩
  rcases StreamGroup.exists_entry hm' with ⟨e', he', heid', -⟩
  have hids := h.ids
  rw [← List.take_append_drop s.group.delivered s.group.entries, List.map_append,
    List.nodup_append] at hids
  apply hids.2.2 e'.id (List.mem_map_of_mem he') e.id
  · exact List.mem_map_of_mem (List.mem_of_mem_take he)
  · rw [heid, heid', hid]

theorem once_reclaim (honce : s.ledger.Once) (h : s.Tracked)
    {idle : List String} {calls : ReadCalls}
    (hlost : s.ReclaimsLost (.reclaim consumer count idle calls)) :
    (s.step (.reclaim consumer count idle calls)).ledger.Once := by
  have heffect := reclaimPending_effect count idle calls s.group
  rw [step]
  cases hw : s.workers consumer with
  | polling buffered =>
      have hlost := hlost buffered hw
      cases hcall : reclaimPending count idle calls s.group with
      | mk messages group =>
          rw [hcall] at heffect hlost
          cases messages with
          | none => exact honce
          | some messages =>
              have hheld : s.ledger.held consumer = (countable buffered).map (·.messageId) := by
                simp [ledger, hw, UsageWorker.uncounted]
              have htake : Ledger.Once (s.ledger.take consumer
                  ((countable messages).map (·.messageId))) := by
                apply honce.take
                · rw [heffect.2 messages rfl]
                  exact nodup_messageIds
                    (h.ids.sublist ((StreamGroup.reclaimable_sublist _ _).map _))
                · intro id hid
                  rcases List.mem_map.1 hid with ⟨m, hm, rfl⟩
                  exact hlost messages rfl m hm
              rw [Ledger.take, hheld, ← List.map_append, ← countable_append] at htake
              dsimp only
              rw [ledger_setWorker]
              exact htake
  | reading buffered reclaimed => exact honce
  | flushing stage messages => exact honce

theorem once_read (honce : s.ledger.Once) (h : s.Tracked)
    {calls : ReadCalls} : (s.step (.read consumer count calls)).ledger.Once := by
  rcases readGroup_effect count calls s.group with ⟨fresh, -, hmessages⟩
  rw [step]
  cases hw : s.workers consumer with
  | polling buffered => exact honce
  | reading buffered reclaimed =>
      have hheld : s.ledger.held consumer =
          (countable (buffered ++ reclaimed)).map (·.messageId) := by
        simp [ledger, hw, UsageWorker.uncounted]
      cases hcall : readGroup count calls s.group with
      | mk messages group =>
          rw [hcall] at hmessages
          cases messages with
          | none =>
              dsimp only
              rw [ledger_setWorker]
              apply honce.keep
              rw [hheld, countable_append, List.map_append]
              exact List.sublist_append_left _ _
          | some messages =>
              have hfresh := hmessages messages rfl
              have htake : Ledger.Once (s.ledger.take consumer
                  ((countable messages).map (·.messageId))) := by
                rw [hfresh.2, hfresh.1]
                apply honce.take
                · exact nodup_messageIds (h.ids.sublist ((StreamGroup.fresh_sublist _).map _))
                · intro id hid
                  rcases List.mem_map.1 hid with ⟨m, hm, rfl⟩
                  exact h.free_fresh (mem_countable.1 hm).1
              rw [Ledger.take, hheld, ← List.map_append, ← countable_append,
                List.append_assoc] at htake
              dsimp only
              rw [ledger_setWorker]
              exact htake
  | flushing stage messages => exact honce

theorem once_flush (honce : s.ledger.Once) :
    (s.step (.flush consumer)).ledger.Once := by
  rw [step]
  cases hw : s.workers consumer with
  | polling buffered =>
      dsimp only
      split
      · exact honce
      · rw [ledger_setWorker]
        apply honce.keep
        simp [ledger, hw, UsageWorker.uncounted, FlushStage.counted]
  | reading buffered reclaimed => exact honce
  | flushing stage messages => exact honce

/-- After a call of a flush has had its effect, the worker may drop the batch or go on. -/
theorem once_applied (honce : s.ledger.Once) {stage : FlushStage}
    (hw : s.workers consumer = .flushing stage messages) {w : UsageWorker}
    (hkept : w.uncounted = [] ∨ w.uncounted = messages ∧ stage = .requestLogs) :
    ((s.applied stage messages).setWorker consumer w).ledger.Once := by
  rw [ledger_setWorker, ledger_applied s hw]
  by_cases hstage : stage = .accountRows
  · have hnil : w.uncounted = [] := by
      rcases hkept with hkept | ⟨-, hlogs⟩
      · exact hkept
      · rw [hlogs] at hstage
        cases hstage
    rw [if_pos hstage, hnil]
    exact honce.count
  · rw [if_neg hstage, List.append_nil]
    apply honce.keep
    rcases hkept with hkept | ⟨hkept, rfl⟩
    · rw [hkept]
      exact List.nil_sublist _
    · rw [hkept]
      simp [ledger, hw, UsageWorker.uncounted, FlushStage.counted]

theorem once_write (honce : s.ledger.Once) {outcome : CallOutcome} :
    (s.step (.write consumer outcome)).ledger.Once := by
  rw [step]
  cases hw : s.workers consumer with
  | polling buffered => exact honce
  | reading buffered reclaimed => exact honce
  | flushing stage messages =>
      dsimp only
      rcases writeStage_cases s consumer stage messages outcome with
        heq | heq | ⟨next, hnext, heq⟩
      · rw [heq, ledger_setWorker]
        exact honce.keep (List.nil_sublist _)
      · rw [heq]
        exact once_applied honce hw (.inl rfl)
      · rw [heq]
        apply once_applied honce hw
        cases stage with
        | requestLogs =>
            obtain rfl := Option.some.inj hnext
            exact .inr ⟨rfl, rfl⟩
        | accountRows =>
            obtain rfl := Option.some.inj hnext
            exact .inl rfl
        | tenantApiKeyRows =>
            obtain rfl := Option.some.inj hnext
            exact .inl rfl
        | tenantAccountRows =>
            obtain rfl := Option.some.inj hnext
            exact .inl rfl
        | ack => cases hnext

theorem once_step (honce : s.ledger.Once) (h : s.Tracked) {i : UsageInput}
    (hlost : s.ReclaimsLost i) : (s.step i).ledger.Once := by
  cases i with
  | append entry =>
      rw [step]
      split <;> exact honce
  | reclaim consumer count idle calls => exact once_reclaim honce h hlost
  | read consumer count calls => exact once_read honce h
  | flush consumer => exact once_flush honce
  | write consumer outcome => exact once_write honce
  | restart consumer =>
      rw [step, ledger_setWorker]
      exact honce.keep (List.nil_sublist _)

theorem hourlyTotal_eq (repo : UsageRepo) (accountId : Uuid) (hour : Int) :
    repo.hourlyTotal accountId hour =
      (countable repo.accountBatches.flatten).countP fun m =>
        m.event.accountId = accountId ∧ hourOf m.event.createdAt = hour := by
  have hbatch (messages : List StreamMessage) :
      Tally.sumWhere (·.requestCount)
          (fun r => r.accountId = accountId ∧ timestamp r.hourStart = hour)
          (hourlyRows messages).accountRows =
        (countable messages).countP fun m =>
          m.event.accountId = accountId ∧ hourOf m.event.createdAt = hour :=
    (sumWhere_accountRows (aggregationEvents messages)
      fun b => b.1 = accountId ∧ timestamp b.2 = hour).trans List.countP_map
  rw [UsageRepo.hourlyTotal, UsageRepo.accountRows]
  induction repo.accountBatches with
  | nil => rfl
  | cons messages batches ih =>
      rw [List.flatMap_cons, Tally.sumWhere_append, ih, hbatch, List.flatten_cons,
        countable_append, List.countP_append]

/-- A message that is in the account batches contributes once where every message is counted
at most once. -/
theorem Tracked.contribution_eq_one (h : s.Tracked) (honce : s.ledger.Once)
    (hm : m ∈ s.repo.accountBatches.flatten) (hopen : m.event.isStreamingOpen = false) :
    s.repo.contribution m = 1 := by
  let batches := countable s.repo.accountBatches.flatten
  let atPlace (m' : StreamMessage) : Bool :=
    m'.event.accountId = m.event.accountId ∧
      hourOf m'.event.createdAt = hourOf m.event.createdAt
  let isOther (m' : StreamMessage) : Bool := m'.messageId ≠ m.messageId
  have hwithout : countable (s.repo.without m.messageId).accountBatches.flatten =
      batches.filter isOther := by
    rw [UsageRepo.without, countable, ← List.filter_flatten, List.filter_comm]
    rfl
  have hsplit := List.countP_eq_countP_filter_add batches atPlace isOther
  have hsame : ∀ m' ∈ batches, (atPlace m' && !isOther m') = true ↔
      (m'.messageId == m.messageId) = true := by
    intro m' hm'
    simp only [isOther, decide_not, Bool.not_not, Bool.and_eq_true, decide_eq_true_eq,
      beq_iff_eq, and_iff_right_iff_imp]
    intro hid
    obtain rfl := StreamGroup.message_unique h.ids (h.counted m' (mem_countable.1 hm').1)
      (h.counted m hm) hid
    exact decide_eq_true ⟨rfl, rfl⟩
  have hone : (batches.filter fun m' => !isOther m').countP atPlace = 1 := by
    rw [List.countP_filter, List.countP_congr hsame]
    have hcount := List.count_eq_one_of_mem honce.nodup_counted
      (List.mem_map_of_mem (mem_countable.2 ⟨hm, hopen⟩))
    rw [List.count_eq_countP, ledger, List.countP_map] at hcount
    exact hcount
  rw [UsageRepo.contribution]
  rw [hourlyTotal_eq, hourlyTotal_eq, hwithout]
  change batches.countP atPlace - (batches.filter isOther).countP atPlace = 1
  omega

theorem once_init : (ledger {}).Once where
  nodup_held _ := List.nodup_nil
  apart _ _ _ _ hi := absurd hi List.not_mem_nil
  nodup_counted := List.nodup_nil
  uncounted _ _ hi := absurd hi List.not_mem_nil

/-- In every run that reclaims lost entries only, an acked message has its log row, and counts
once unless its request was still running. -/
theorem acked_counted_once {inputs : List UsageInput}
    (h : Machine.Along UsageWorld.step ReclaimsLost {} inputs) :
    (Machine.run UsageWorld.step {} inputs).AckedCountedOnce := by
  have hinv := h.invariant (P := fun s => s.Tracked ∧ s.ledger.Once)
    (fun s i hs hlost => ⟨hs.1.step i, once_step hs.2 hs.1 hlost⟩)
    ⟨tracked_init, once_init⟩
  intro m hm hacked
  rcases hinv.1.acked m hm hacked with ⟨hlog, hcounted⟩
  exact ⟨hlog, hinv.1.contribution_eq_one hinv.2 hcounted⟩

/-! ## One worker and one entry -/

/-- The consumer that takes the step. -/
def consumer? : UsageInput → Option String
  | .append _ => none
  | .reclaim consumer _ _ _ | .read consumer _ _ | .flush consumer | .write consumer _
  | .restart consumer => some consumer

theorem setWorker_workers_of_ne (hc : c ≠ consumer) (w : UsageWorker) :
    (s.setWorker consumer w).workers c = s.workers c :=
  Function.update_of_ne hc _ _

/-- A step of one consumer leaves the others as they are. -/
theorem workers_step_of_ne {i : UsageInput} (hi : consumer? i ≠ some c) :
    (s.step i).workers c = s.workers c := by
  cases i with
  | append entry =>
      rw [step]
      split <;> rfl
  | reclaim consumer count idle calls =>
      have hc : c ≠ consumer := fun h => hi (congrArg some h.symm)
      rw [step]
      split
      · split
        · exact setWorker_workers_of_ne hc _
        · rfl
      · rfl
  | read consumer count calls =>
      have hc : c ≠ consumer := fun h => hi (congrArg some h.symm)
      rw [step]
      split
      · split <;> exact setWorker_workers_of_ne hc _
      · rfl
  | flush consumer =>
      have hc : c ≠ consumer := fun h => hi (congrArg some h.symm)
      rw [step]
      split
      · split
        · rfl
        · exact setWorker_workers_of_ne hc _
      · rfl
  | write consumer outcome =>
      have hc : c ≠ consumer := fun h => hi (congrArg some h.symm)
      rw [step]
      split
      · rename_i stage messages _
        rcases writeStage_cases s consumer stage messages outcome with
          heq | heq | ⟨next, -, heq⟩ <;>
        rw [heq] <;> exact setWorker_workers_of_ne hc _
      · rfl
  | restart consumer => exact setWorker_workers_of_ne (fun h => hi (congrArg some h.symm)) _

theorem workers_run_of_ne {inputs : List UsageInput}
    (hinputs : ∀ i ∈ inputs, consumer? i ≠ some c) :
    (Machine.run step s inputs).workers c = s.workers c := by
  induction inputs generalizing s with
  | nil => rfl
  | cons i inputs ih =>
      rw [Machine.run, ih fun i' hi' => hinputs i' (List.mem_cons_of_mem i hi')]
      exact workers_step_of_ne (hinputs i List.mem_cons_self)

def sampleEntry : StreamEntry where
  id := "1-0"
  event := some (sampleLogEvent "first" "captured")
  tenantId := none
  apiKeyId := none

def allDone : ReadCalls := ⟨.done, .done⟩

/-- A flush whose calls all succeed. -/
def flushed : List UsageInput :=
  [.flush "worker", .write "worker" .done, .write "worker" .done, .write "worker" .done,
    .write "worker" .done, .write "worker" .done]

/-- The first flush cannot write the log rows. The entry is reclaimed and flushed again. -/
def retriedRun : List UsageInput :=
  [.append sampleEntry, .reclaim "worker" 500 [] allDone, .read "worker" 500 allDone,
    .flush "worker", .write "worker" .refused, .reclaim "worker" 500 ["1-0"] allDone,
    .read "worker" 500 allDone] ++ flushed

theorem retriedRun_acked_counted_once :
    (Machine.run UsageWorld.step {} retriedRun).AckedCountedOnce := by
  apply acked_counted_once
  refine ⟨trivial, ?_, trivial, trivial, trivial, ?_, trivial, trivial, trivial, trivial,
    trivial, trivial, trivial, trivial⟩
  · rintro buffered - messages hm m hmem
    obtain rfl : [] = messages := Option.some.inj hm
    exact absurd hmem List.not_mem_nil
  · rintro buffered - messages hm m hmem
    obtain rfl : [⟨"1-0", sampleLogEvent "first" "captured", none, none⟩] = messages :=
      Option.some.inj hm
    obtain rfl := List.mem_singleton.1 (mem_countable.1 hmem).1
    refine ⟨fun c hc => ?_, List.not_mem_nil⟩
    by_cases hworker : c = "worker"
    · subst c
      exact absurd hc List.not_mem_nil
    · have hidle : (Machine.run step {} (retriedRun.take 5)).workers c = .polling [] := by
        apply workers_run_of_ne
        simp [retriedRun, consumer?, Ne.symm hworker]
      change _ ∈ (countable ((Machine.run step {} (retriedRun.take 5)).workers c).uncounted).map _
        at hc
      rw [hidle] at hc
      exact absurd hc List.not_mem_nil

def ownEntryReclaimed : List UsageInput :=
  [.append sampleEntry, .reclaim "worker" 500 [] allDone, .read "worker" 500 allDone,
    .reclaim "worker" 500 ["1-0"] allDone, .read "worker" 500 allDone] ++ flushed

theorem ownEntryReclaimed_not_counted_once :
    ¬ (Machine.run UsageWorld.step {} ownEntryReclaimed).AckedCountedOnce := by
  intro h
  have hmessages : (Machine.run step {} ownEntryReclaimed).group.deliveredMessages.map (fun m =>
      (m.messageId, m.event.isStreamingOpen,
        (Machine.run step {} ownEntryReclaimed).repo.contribution m)) = [("1-0", false, 2)] := by
    decide +kernel
  rcases List.mem_map.1 (hmessages ▸ List.mem_singleton_self _) with ⟨m, hm, heq⟩
  simp only [Prod.mk.injEq] at heq
  rcases heq with ⟨hid, hopen, htwo⟩
  have hone := (h m hm (by rw [hid]; decide +kernel)).2 hopen
  omega

end UsageWorld

end CodexPool
