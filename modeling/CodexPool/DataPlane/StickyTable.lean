import CodexPool.DataPlane.PickResults
import CodexPool.DataPlane.StickyCounts

/-!
# The table of the sessions

The table of the sessions has a capacity. A session that is bound when the table is full takes the
place of the one that was used longest ago. Selections first drop the session for which they look,
and so they evict another one only for a session that is not in the table. A session that is bound
by itself is not dropped first: binding it again in a full table evicts another one for nothing.
-/

namespace CodexPool

open Stateful

/-! ## The oldest entry -/

section MinByKey

variable {α : Type} {key : α → Nat}

theorem foldl_least (l : List α) (best : α) :
    l.foldl (fun best x => if key x < key best then x else best) best ∈ best :: l ∧
      ∀ a ∈ best :: l,
        key (l.foldl (fun best x => if key x < key best then x else best) best) ≤ key a := by
  induction l generalizing best with
  | nil => simp
  | cons x l ih =>
      rw [List.foldl_cons]
      by_cases hlt : key x < key best
      · rw [if_pos hlt]
        rcases ih x with ⟨hmem, hle⟩
        refine ⟨List.mem_cons_of_mem best hmem, fun a ha => ?_⟩
        rcases List.mem_cons.1 ha with rfl | ha
        · exact (hle x List.mem_cons_self).trans hlt.le
        · exact hle a ha
      · rw [if_neg hlt]
        rcases ih best with ⟨hmem, hle⟩
        refine ⟨?_, fun a ha => ?_⟩
        · rcases List.mem_cons.1 hmem with h | h
          · rw [h]
            exact List.mem_cons_self
          · exact List.mem_cons_of_mem best (List.mem_cons_of_mem x h)
        · rcases List.mem_cons.1 ha with rfl | ha
          · exact hle a List.mem_cons_self
          · rcases List.mem_cons.1 ha with rfl | ha
            · exact (hle best List.mem_cons_self).trans (not_lt.1 hlt)
            · exact hle a (List.mem_cons_of_mem best ha)

theorem minByKey_eq_some {l : List α} {a : α} (h : minByKey key l = some a) :
    a ∈ l ∧ ∀ b ∈ l, key a ≤ key b := by
  cases l with
  | nil => cases h
  | cons x l =>
      rw [← Option.some.inj h]
      exact foldl_least l x

theorem minByKey_of_ne_nil {l : List α} (h : l ≠ []) : ∃ a, minByKey key l = some a := by
  cases l with
  | nil => exact absurd rfl h
  | cons x l => exact ⟨_, rfl⟩

end MinByKey

/-! ## Tables -/

abbrev StickyItems := List (String × StickySessionEntry)

def oldestSession (items : StickyItems) : Option (String × StickySessionEntry) :=
  minByKey (·.2.lastUsedAt) items

/-- The table in which a session was bound. -/
def bindIn (maxEntries : Nat) (stickyKey : String) (entry : StickySessionEntry)
    (items : StickyItems) : StickyItems :=
  (enforceStickyCapacity maxEntries items.length items).filter (·.1 ≠ stickyKey) ++
    [(stickyKey, entry)]

section Tables

variable {now maxEntries : Nat} {key : String} {entry : StickySessionEntry} {items : StickyItems}

theorem prune_of_live (h : ∀ item ∈ items, now < item.2.expiresAt) :
    pruneExpiredStickySessions now items = items :=
  List.filter_eq_self.2 fun item hitem => decide_eq_true (h item hitem)

variable {item : String × StickySessionEntry}

theorem live_of_mem_prune
    (h : item ∈ pruneExpiredStickySessions now items) : now < item.2.expiresAt :=
  of_decide_eq_true (List.mem_filter.1 h).2

theorem enforce_of_lt (hlt : items.length < maxEntries) (fuel : Nat) :
    enforceStickyCapacity maxEntries fuel items = items := by
  cases fuel with
  | zero => rfl
  | succ fuel => rw [enforceStickyCapacity, if_pos hlt]

theorem length_filter_key (hmem : item ∈ items) :
    (items.filter (·.1 ≠ item.1)).length < items.length :=
  List.length_filter_lt_length_iff_exists.2 ⟨item, hmem, by simp⟩

theorem enforce_of_full (hlength : items.length = maxEntries) (hpositive : 0 < maxEntries) :
    ∃ oldest, oldestSession items = some oldest ∧
      enforceStickyCapacity maxEntries items.length items =
        items.filter (·.1 ≠ oldest.1) := by
  have hne : items ≠ [] := by
    rintro rfl
    rw [← hlength] at hpositive
    exact absurd hpositive (lt_irrefl 0)
  rcases minByKey_of_ne_nil hne with ⟨oldest, holdest⟩
  refine ⟨oldest, holdest, ?_⟩
  have hlt : (items.filter (·.1 ≠ oldest.1)).length < maxEntries :=
    hlength ▸ length_filter_key (minByKey_eq_some holdest).1
  rcases Nat.exists_eq_add_one.2 (hlength ▸ hpositive) with ⟨fuel, hfuel⟩
  rw [hfuel, enforceStickyCapacity, if_neg (by omega), holdest]
  exact enforce_of_lt hlt fuel

theorem enforce_sublist (maxEntries fuel : Nat) (items : StickyItems) :
    (enforceStickyCapacity maxEntries fuel items).Sublist items := by
  induction fuel generalizing items with
  | zero => exact .refl items
  | succ fuel ih =>
      rw [enforceStickyCapacity]
      split
      · exact .refl items
      · split
        · exact .refl items
        · exact (ih _).trans List.filter_sublist

theorem mem_bindIn :
    item ∈ bindIn maxEntries key entry items ↔
      item ∈ enforceStickyCapacity maxEntries items.length items ∧ item.1 ≠ key ∨
        item = (key, entry) := by
  rw [bindIn, List.mem_append, List.mem_filter, List.mem_singleton, decide_eq_true_iff]

theorem length_bindIn_le (hle : items.length ≤ maxEntries) (hpositive : 0 < maxEntries) :
    (bindIn maxEntries key entry items).length ≤ maxEntries := by
  have hlt : (enforceStickyCapacity maxEntries items.length items).length < maxEntries := by
    rcases hle.lt_or_eq with hlt | heq
    · rwa [enforce_of_lt hlt]
    · rcases enforce_of_full heq hpositive with ⟨oldest, holdest, henforce⟩
      rw [henforce]
      exact heq ▸ length_filter_key (minByKey_eq_some holdest).1
  rw [bindIn, List.length_append, List.length_singleton]
  exact Nat.succ_le_of_lt ((List.length_filter_le _ _).trans_lt hlt)

theorem nodup_bindIn (hnodup : (items.map (·.1)).Nodup) :
    ((bindIn maxEntries key entry items).map (·.1)).Nodup := by
  rw [bindIn, List.map_append, List.nodup_append]
  refine ⟨?_, List.nodup_singleton _, ?_⟩
  · exact hnodup.sublist ((List.filter_sublist.trans (enforce_sublist _ _ _)).map _)
  · intro k hk k' hk' heq
    rcases List.mem_map.1 hk with ⟨item, hitem, rfl⟩
    exact of_decide_eq_true (List.mem_filter.1 hitem).2 (heq.trans (List.mem_singleton.1 hk'))

/-! ## What a call about a session does to the others -/

/-- What a call about one session does to the entries that are not over. -/
structure KeepsSessions (now maxEntries : Nat) (key : String) (before after : StickyItems) :
    Prop where
  /-- When the session is in the table, or there is room, no other one is lost. -/
  kept : key ∈ before.map (·.1) ∨ before.length < maxEntries →
    ∀ item ∈ before, item.1 ≠ key → item ∈ after
  /-- Else exactly the one that was used longest ago is lost. -/
  evicted : key ∉ before.map (·.1) → key ∈ after.map (·.1) → before.length = maxEntries →
    ∃ oldest ∈ before, (∀ item ∈ before, oldest.2.lastUsedAt ≤ item.2.lastUsedAt) ∧
      ∀ item ∈ before, (item ∈ after ↔ item.1 ≠ oldest.1)
  /-- Only the session itself is marked as used, at the time of the call. -/
  stamped : ∀ item ∈ after, item ∈ before ∨ item.1 = key ∧ item.2.lastUsedAt = now

theorem KeepsSessions.refl (now maxEntries : Nat) (key : String) (items : StickyItems) :
    KeepsSessions now maxEntries key items items where
  kept _ _ hitem _ := hitem
  evicted hnot hmem _ := absurd hmem hnot
  stamped _ hitem := .inl hitem

theorem keepsSessions_drop (now maxEntries : Nat) (key : String) (items : StickyItems) :
    KeepsSessions now maxEntries key items (items.filter (·.1 ≠ key)) where
  kept _ _ hitem hkey := List.mem_filter.2 ⟨hitem, decide_eq_true hkey⟩
  evicted hnot hmem _ := absurd ((List.filter_sublist.map _).subset hmem) hnot
  stamped _ hitem := .inl (List.mem_filter.1 hitem).1

/-- The entry of a session that was used again. -/
def refreshSession (now ttl : Nat) (key : String) (items : StickyItems) : StickyItems :=
  items.map fun item =>
    if item.1 = key then (item.1, { item.2 with lastUsedAt := now, expiresAt := now + ttl })
    else item

theorem keepsSessions_refresh {ttl : Nat} (hmem : key ∈ items.map (·.1)) :
    KeepsSessions now maxEntries key items (refreshSession now ttl key items) where
  kept _ item hitem hkey := List.mem_map.2 ⟨item, hitem, if_neg hkey⟩
  evicted hnot _ _ := absurd hmem hnot
  stamped _ hitem := by
    rcases List.mem_map.1 hitem with ⟨old, hold, rfl⟩
    split
    next hkey => exact .inr ⟨hkey, rfl⟩
    next => exact .inl hold

theorem stamped_bindIn (hentry : entry.lastUsedAt = now)
    (hitem : item ∈ bindIn maxEntries key entry items) :
    item ∈ items ∨ item.1 = key ∧ item.2.lastUsedAt = now := by
  rcases mem_bindIn.1 hitem with ⟨hold, -⟩ | rfl
  · exact .inl ((enforce_sublist _ _ _).subset hold)
  · exact .inr ⟨rfl, hentry⟩

/-- Binding a session that is not in the table, or that is the next to be evicted, is in order,
and so is binding while there is room. -/
theorem keepsSessions_bindIn_iff (hle : items.length ≤ maxEntries)
    (hpositive : 0 < maxEntries) (hentry : entry.lastUsedAt = now) :
    KeepsSessions now maxEntries key items (bindIn maxEntries key entry items) ↔
      (key ∈ items.map (·.1) → items.length < maxEntries ∨
        (oldestSession items).map (·.1) = some key) := by
  rcases hle.lt_or_eq with hlt | hfull
  · refine iff_of_true ⟨?_, ?_, fun _ => stamped_bindIn hentry⟩ fun _ => .inl hlt
    · intro _ item hitem hkey
      rw [mem_bindIn, enforce_of_lt hlt]
      exact .inl ⟨hitem, hkey⟩
    · exact fun _ _ heq => absurd heq hlt.ne
  · rcases enforce_of_full hfull hpositive with ⟨oldest, holdest, henforce⟩
    rcases minByKey_eq_some holdest with ⟨hmem, hleast⟩
    have hkeep : ∀ item ∈ items, item.1 ≠ key →
        (item ∈ bindIn maxEntries key entry items ↔ item.1 ≠ oldest.1) := by
      intro item hitem hkey
      rw [mem_bindIn, henforce, List.mem_filter, decide_eq_true_iff]
      constructor
      · rintro (h | rfl)
        · exact h.1.2
        · exact absurd rfl hkey
      · exact fun h => .inl ⟨⟨hitem, h⟩, hkey⟩
    rw [holdest]
    constructor
    · intro h hkey
      by_contra hnot
      rw [not_or] at hnot
      have hne : oldest.1 ≠ key := fun heq => hnot.2 (congrArg some heq)
      exact (hkeep oldest hmem hne).1 (h.kept (.inl hkey) oldest hmem hne) rfl
    · intro h
      refine ⟨?_, ?_, fun _ => stamped_bindIn hentry⟩
      · rintro (hkey | hlt) item hitem hne
        · rcases h hkey with hlt | heq
          · exact absurd hfull hlt.ne
          · have holdest : oldest.1 = key := Option.some.inj heq
            rw [hkeep item hitem hne, holdest]
            exact hne
        · exact absurd hfull hlt.ne
      · intro hnot _ _
        refine ⟨oldest, hmem, hleast, fun item hitem => hkeep item hitem ?_⟩
        rintro rfl
        exact hnot (List.mem_map_of_mem hitem)

theorem keepsSessions_rebind (hle : items.length ≤ maxEntries)
    (hpositive : 0 < maxEntries) (hentry : entry.lastUsedAt = now) :
    KeepsSessions now maxEntries key items
      (bindIn maxEntries key entry (items.filter (·.1 ≠ key))) := by
  by_cases hkey : key ∈ items.map (·.1)
  · rcases List.mem_map.1 hkey with ⟨item, hitem, rfl⟩
    have hlt := (length_filter_key hitem).trans_le hle
    refine ⟨?_, fun hnot => absurd hkey hnot, ?_⟩
    · intro _ other hother hne
      rw [mem_bindIn, enforce_of_lt hlt]
      exact .inl ⟨List.mem_filter.2 ⟨hother, decide_eq_true hne⟩, hne⟩
    · intro other hother
      exact (stamped_bindIn hentry hother).imp_left fun h => (List.mem_filter.1 h).1
  · have hself : items.filter (·.1 ≠ key) = items := by
      apply List.filter_eq_self.2
      intro item hitem
      exact decide_eq_true fun heq => hkey (List.mem_map.2 ⟨item, hitem, heq⟩)
    rw [hself, keepsSessions_bindIn_iff hle hpositive hentry]
    exact fun h => absurd h hkey

end Tables

/-! ## Selections -/

/-- A router with these sessions. -/
def HasTable (items : StickyItems) (maxEntries ttl : Nat) (r : Router) : Prop :=
  r.stickySessions = items ∧ r.stickySessionMaxEntries = maxEntries ∧ r.stickySessionTtl = ttl

section HasTable

variable {now maxEntries ttl : Nat} {items : StickyItems} {excluded : List Uuid}

theorem keepsTable_of_gives {α : Type} {x : RouterM α}
    (h : ∀ r₀ : Router, ∃ a, Gives (r₀.Sees now) x a) :
    Keeps (HasTable items maxEntries ttl) x := by
  intro r hr
  rcases h r with ⟨a, ha⟩
  have hsees := (ha r (.refl now r)).2
  exact ⟨trivial, hsees.stickySessions.trans hr.1, hsees.stickySessionMaxEntries.trans hr.2.1,
    hsees.stickySessionTtl.trans hr.2.2⟩

theorem pickSpecific_table (id : Uuid) :
    Keeps (HasTable items maxEntries ttl) (pickSpecific now id) :=
  keepsTable_of_gives fun _ => ⟨_, pickSpecific_gives id⟩

theorem isUsable_table (account : UpstreamAccount) :
    Keeps (HasTable items maxEntries ttl) (isUsable now excluded account) :=
  keepsTable_of_gives fun _ => ⟨_, isUsable_gives account⟩

theorem pickCandidateAccount_table (candidateIds : List Uuid) :
    Keeps (HasTable items maxEntries ttl) (pickCandidateAccount now candidateIds excluded) :=
  keepsTable_of_gives fun _ => ⟨_, pickCandidateAccount_gives candidateIds⟩

theorem pickFirstCandidate_table (candidateIds : List Uuid) :
    Keeps (HasTable items maxEntries ttl) (pickFirstCandidate now candidateIds excluded) :=
  keepsTable_of_gives fun _ => ⟨_, pickFirstCandidate_gives candidateIds⟩

theorem pickRoundRobin_table (accounts : List UpstreamAccount) (n : Nat) :
    Keeps (HasTable items maxEntries ttl)
      (pickRoundRobin accounts (isUsable now excluded) n) := by
  induction n with
  | zero => exact .pure none
  | succ n ih =>
      have hturn : Keeps (HasTable items maxEntries ttl) fetchAddCursor := fun _ hr =>
        ⟨trivial, hr⟩
      apply Keeps.bind hturn
      intro cursor
      cases accounts[cursor % accounts.length]? with
      | none => exact .pure none
      | some account =>
          apply Keeps.bind (isUsable_table account)
          intro ok
          cases ok with
          | false => exact ih
          | true => exact .pure _

theorem preferredRecentSuccess_table (accounts : List UpstreamAccount) :
    Keeps (HasTable items maxEntries ttl)
      (preferredRecentSuccessAccountId now accounts excluded) :=
  .bind_get fun _ _ => .bind (.filterM isUsable_table) fun _ => .pure _

theorem preferredRecentProbe_table (accounts : List UpstreamAccount) :
    Keeps (HasTable items maxEntries ttl)
      (preferredRecentProbeAccountId now accounts excluded) :=
  .bind_get fun _ _ => .bind (.filterM isUsable_table) fun _ => .pure _

theorem pickExcluding_table :
    Keeps (HasTable items maxEntries ttl) (pickExcluding now excluded) := by
  apply Keeps.bind_get
  intro r _
  dsimp only
  cases r.accounts.isEmpty with
  | true => exact .pure none
  | false =>
      apply Keeps.bind (preferredRecentSuccess_table r.accounts)
      intro recent
      cases findAccount r.accounts recent with
      | some account => exact .pure _
      | none =>
          apply Keeps.bind (preferredRecentProbe_table r.accounts)
          intro probed
          cases findAccount r.accounts probed with
          | some account => exact .pure _
          | none => exact pickRoundRobin_table r.accounts _

theorem collectConflicts_table (hlive : ∀ item ∈ items, now < item.2.expiresAt) (key : String) :
    Keeps (HasTable items maxEntries ttl) (collectConflictAccountIds now key) := by
  intro r hr
  refine ⟨trivial, ?_, hr.2⟩
  change pruneExpiredStickySessions now r.stickySessions = items
  rw [hr.1, prune_of_live hlive]

/-- What is asked of the two ways to find an account for a session. -/
def LeavesTable (now : Nat) (x : RouterM (Option UpstreamAccount)) : Prop :=
  ∀ {items : StickyItems} {maxEntries ttl : Nat}, (∀ item ∈ items, now < item.2.expiresAt) →
    Keeps (HasTable items maxEntries ttl) x

variable {prefer : Bool} {spread fresh : RouterM (Option UpstreamAccount)}

theorem pickUnbound_table (hspread : LeavesTable now spread) (hfresh : LeavesTable now fresh) :
    LeavesTable now (pickUnbound prefer spread fresh) := by
  intro items maxEntries ttl hlive
  cases prefer with
  | false => exact hfresh hlive
  | true =>
      apply Keeps.bind (hspread hlive)
      intro picked
      cases picked with
      | some account => exact .pure _
      | none => exact hfresh hlive

theorem pickAvoidingStickyConflicts_table (key : String) :
    LeavesTable now (pickAvoidingStickyConflicts now key excluded) := fun hlive =>
  .bind (collectConflicts_table hlive key) fun _ =>
    .bind_get fun r _ => pickRoundRobin_table r.accounts _

theorem pickCandidateAvoidingConflicts_table (key : String) (candidateIds : List Uuid) :
    LeavesTable now (pickCandidateAccountAvoidingConflicts now key candidateIds excluded) :=
  fun hlive => .bind (collectConflicts_table hlive key) fun _ =>
    pickFirstCandidate_table candidateIds

/-! ## Selections for a session -/

variable {key : String}

/-- The tables to which a selection for a session can lead: it keeps the session, drops it, or
drops it and binds it again. -/
def PicksFor (now maxEntries ttl : Nat) (key : String) (before after : StickyItems) : Prop :=
  key ∈ before.map (·.1) ∧ after = refreshSession now ttl key before ∨
    after = before.filter (·.1 ≠ key) ∨
    ∃ accountId, after =
      bindIn maxEntries key ⟨accountId, now + ttl, now⟩ (before.filter (·.1 ≠ key))

/-- Looking for a session marks it as used. -/
theorem getStickyAccountId_table :
    Leads (HasTable items maxEntries ttl) (getStickyAccountId now key) fun bound r =>
      if bound.isSome then
        key ∈ (pruneExpiredStickySessions now items).map (·.1) ∧
          HasTable (refreshSession now ttl key (pruneExpiredStickySessions now items))
            maxEntries ttl r
      else key ∉ (pruneExpiredStickySessions now items).map (·.1) ∧
        HasTable (pruneExpiredStickySessions now items) maxEntries ttl r := by
  have hprune : Leads (HasTable items maxEntries ttl)
      (modify fun r => { r with
        stickySessions := pruneExpiredStickySessions now r.stickySessions } : RouterM PUnit)
      fun _ => HasTable (pruneExpiredStickySessions now items) maxEntries ttl :=
    .modify fun r hr => ⟨congrArg (pruneExpiredStickySessions now) hr.1, hr.2⟩
  refine Leads.bind hprune fun _ => Leads.bind_get fun r hr => ?_
  rcases hr with ⟨hitems, rfl, rfl⟩
  rw [← hitems]
  cases hfind : r.stickySessions.find? (·.1 = key) with
  | none =>
      apply Leads.pure
      rintro _ rfl
      refine ⟨fun hmem => ?_, rfl, rfl, rfl⟩
      rcases List.mem_map.1 hmem with ⟨item, hitem, hkey⟩
      exact List.find?_eq_none.1 hfind item hitem (decide_eq_true hkey)
  | some item =>
      have hmem : key ∈ r.stickySessions.map (·.1) :=
        List.mem_map.2 ⟨item, List.mem_of_find?_eq_some hfind,
          of_decide_eq_true (List.find?_some hfind :)⟩
      have hrefresh : Leads (· = r) (modify fun r => { r with
          stickySessions := r.stickySessions.map fun item =>
            if item.1 = key then
              (item.1, { item.2 with lastUsedAt := now, expiresAt := now + r.stickySessionTtl })
            else item } : RouterM PUnit)
          fun _ => HasTable (refreshSession now r.stickySessionTtl key r.stickySessions)
            r.stickySessionMaxEntries r.stickySessionTtl := by
        apply Leads.modify
        rintro _ rfl
        exact ⟨rfl, rfl, rfl⟩
      exact Leads.bind hrefresh fun _ => Leads.pure fun _ hr => ⟨hmem, hr⟩

theorem removeStickyMapping_table :
    Leads (HasTable items maxEntries ttl) (removeStickyMapping key) fun _ =>
      HasTable (items.filter (·.1 ≠ key)) maxEntries ttl :=
  .modify fun _ hr => ⟨congrArg (List.filter (·.1 ≠ key)) hr.1, hr.2⟩

theorem keepSticky_table (allowed : Uuid → Bool) (accountId : Uuid) :
    Leads (HasTable items maxEntries ttl) (keepSticky now allowed key (some accountId))
      fun kept r =>
        if kept.isSome then HasTable items maxEntries ttl r
        else HasTable (items.filter (·.1 ≠ key)) maxEntries ttl r := by
  have hremove : Leads (HasTable items maxEntries ttl)
      (do removeStickyMapping key; pure none : RouterM (Option UpstreamAccount))
      fun kept r =>
        if kept.isSome then HasTable items maxEntries ttl r
        else HasTable (items.filter (·.1 ≠ key)) maxEntries ttl r :=
    .bind removeStickyMapping_table fun _ => .pure fun _ hr => hr
  unfold keepSticky
  dsimp only
  cases allowed accountId with
  | false => exact hremove
  | true =>
      rw [Bool.not_true, if_neg Bool.false_ne_true]
      refine Leads.bind (pickSpecific_table accountId).leads fun kept => ?_
      cases kept with
      | none => exact hremove
      | some account => exact Leads.pure fun _ hr => hr

theorem insertStickyMapping_table (accountId : Uuid) :
    Leads (HasTable items maxEntries ttl) (insertStickyMapping now key accountId) fun _ =>
      HasTable (bindIn maxEntries key ⟨accountId, now + ttl, now⟩
        (pruneExpiredStickySessions now items)) maxEntries ttl := by
  apply Leads.modify
  rintro r ⟨rfl, rfl, rfl⟩
  exact ⟨rfl, rfl, rfl⟩

theorem filter_refreshSession :
    (refreshSession now ttl key items).filter (·.1 ≠ key) = items.filter (·.1 ≠ key) := by
  induction items with
  | nil => rfl
  | cons item items ih =>
      rw [refreshSession, List.map_cons] at *
      by_cases hkey : item.1 = key
      · simpa [hkey] using ih
      · simpa [hkey] using ih

theorem live_of_mem_filter {item : String × StickySessionEntry}
    (h : item ∈ (pruneExpiredStickySessions now items).filter (·.1 ≠ key)) :
    now < item.2.expiresAt :=
  live_of_mem_prune (List.mem_filter.1 h).1

theorem bindUnbound_table (hspread : LeavesTable now spread) (hfresh : LeavesTable now fresh) :
    Leads (HasTable ((pruneExpiredStickySessions now items).filter (·.1 ≠ key)) maxEntries ttl)
      (do
        match ← pickUnbound prefer spread fresh with
        | none => pure none
        | some account => do
          insertStickyMapping now key account.id
          pure (some account))
      fun _ r => ∃ after, PicksFor now maxEntries ttl key (pruneExpiredStickySessions now items)
        after ∧ HasTable after maxEntries ttl r := by
  refine Leads.bind (pickUnbound_table hspread hfresh fun _ => live_of_mem_filter).leads
    fun picked => ?_
  cases picked with
  | none => exact .pure fun r hr => ⟨_, .inr (.inl rfl), hr⟩
  | some account =>
      refine Leads.bind (insertStickyMapping_table account.id) fun _ => .pure fun r hr => ?_
      rw [prune_of_live fun _ => live_of_mem_filter] at hr
      exact ⟨_, .inr (.inr ⟨account.id, rfl⟩), hr⟩

theorem bindKept_table (allowed : Uuid → Bool) (hspread : LeavesTable now spread)
    (hfresh : LeavesTable now fresh) (accountId : Uuid)
    (hkey : key ∈ (pruneExpiredStickySessions now items).map (·.1)) :
    Leads (HasTable (refreshSession now ttl key (pruneExpiredStickySessions now items)) maxEntries
        ttl)
      (do
        match ← keepSticky now allowed key (some accountId) with
        | some account => pure (some account)
        | none => do
          match ← pickUnbound prefer spread fresh with
          | none => pure none
          | some account => do
            insertStickyMapping now key account.id
            pure (some account))
      fun _ r => ∃ after, PicksFor now maxEntries ttl key
        (pruneExpiredStickySessions now items) after ∧ HasTable after maxEntries ttl r := by
  refine Leads.bind (keepSticky_table allowed accountId) fun kept => ?_
  cases kept with
  | some account => exact .pure fun r hr => ⟨_, .inl ⟨hkey, rfl⟩, hr⟩
  | none =>
      intro r hr
      rw [filter_refreshSession] at hr
      exact bindUnbound_table hspread hfresh r hr

theorem pickSticky_table (allowed : Uuid → Bool) (hspread : LeavesTable now spread)
    (hfresh : LeavesTable now fresh) :
    Leads (HasTable items maxEntries ttl) (pickSticky now allowed key prefer spread fresh)
      fun _ r => ∃ after, PicksFor now maxEntries ttl key (pruneExpiredStickySessions now items)
        after ∧ HasTable after maxEntries ttl r := by
  refine Leads.bind getStickyAccountId_table fun bound => ?_
  cases bound with
  | none =>
      rintro r ⟨hkey, hr⟩
      have hself : (pruneExpiredStickySessions now items).filter (·.1 ≠ key) =
          pruneExpiredStickySessions now items := by
        apply List.filter_eq_self.2
        intro item hitem
        exact decide_eq_true fun heq => hkey (List.mem_map.2 ⟨item, hitem, heq⟩)
      rw [← hself] at hr
      exact bindUnbound_table hspread hfresh r hr
  | some accountId =>
      rintro r ⟨hkey, hr⟩
      exact bindKept_table allowed hspread hfresh accountId hkey r hr

end HasTable

end CodexPool
