import CodexPool.Basic
import CodexPool.Lib.ExpiringMaps
import CodexPool.Lib.Machine

/-!
# The routing cache of the data planes

Each data plane keeps the accounts of its sticky sessions and the unhealthy accounts in a local
map, on top of a map in Redis that all data planes share. What it finds in Redis only is copied
into its own map, for half an hour or for half a minute. Calls are served one after another, each
at one reading of a clock that all data planes have, in nanoseconds.
-/

namespace CodexPool

def nanosOfSeconds (n : Nat) : Nat := n * 1000000000

def localStickyRehydrateTtl : Nat := nanosOfSeconds (30 * 60)

def localUnhealthyRehydrateTtl : Nat := nanosOfSeconds 30

/-- The time to live that Redis is given: whole seconds, and one at least. -/
def redisTtl (ttl : Nat) : Nat := nanosOfSeconds (max (ttl / nanosOfSeconds 1) 1)

section HybridRoutingCache

variable {N κ ν : Type*} [DecidableEq N] [DecidableEq κ]

/-- The two maps are written one after the other; a time to live of zero is not written at all. -/
def setWithTtl (cache : LocalCopies N κ ν) (node : N) (key : κ) (value : ν) (ttl now : Nat) :
    LocalCopies N κ ν :=
  if ttl = 0 then cache else cache.write node key value (now + ttl) (now + redisTtl ttl)

abbrev StickyCaches (N : Type*) := LocalCopies N String Uuid

def StickyCaches.getStickyAccountId (cache : StickyCaches N) (node : N) (stickyKey : String)
    (now : Nat) : Option Uuid × StickyCaches N :=
  LocalCopies.read cache localStickyRehydrateTtl node stickyKey now

def StickyCaches.setStickyAccountId (cache : StickyCaches N) (node : N) (stickyKey : String)
    (accountId : Uuid) (ttl now : Nat) : StickyCaches N :=
  setWithTtl cache node stickyKey accountId ttl now

def StickyCaches.deleteStickyAccountId (cache : StickyCaches N) (node : N) (stickyKey : String) :
    StickyCaches N :=
  LocalCopies.erase cache node stickyKey

abbrev UnhealthyCaches (N : Type*) := LocalCopies N Uuid Unit

def UnhealthyCaches.isUnhealthy (cache : UnhealthyCaches N) (node : N) (accountId : Uuid)
    (now : Nat) : Bool × UnhealthyCaches N :=
  let result := LocalCopies.read cache localUnhealthyRehydrateTtl node accountId now
  (result.1.isSome, result.2)

def UnhealthyCaches.setUnhealthy (cache : UnhealthyCaches N) (node : N) (accountId : Uuid)
    (ttl now : Nat) : UnhealthyCaches N :=
  setWithTtl cache node accountId () ttl now

def UnhealthyCaches.clearUnhealthy (cache : UnhealthyCaches N) (node : N) (accountId : Uuid) :
    UnhealthyCaches N :=
  LocalCopies.erase cache node accountId

end HybridRoutingCache

/-! ## Runs of several data planes -/

inductive RoutingCall where
  | getStickyAccountId (stickyKey : String)
  | setStickyAccountId (stickyKey : String) (accountId : Uuid) (ttl : Nat)
  | deleteStickyAccountId (stickyKey : String)
  | setUnhealthy (accountId : Uuid) (ttl : Nat)
  | isUnhealthy (accountId : Uuid)
  | clearUnhealthy (accountId : Uuid)

/-- A call of one data plane, some time after the last one. -/
structure NodeCall (N : Type*) where
  node : N
  delay : Nat
  call : RoutingCall

/-- A value that has been set for a key: the key, the time and the time to live. -/
structure SetRecord (κ : Type*) where
  key : κ
  time : Nat
  ttl : Nat

/-- The end of the time to live, which is taken to be one second at least. -/
def SetRecord.expiry {κ : Type*} (r : SetRecord κ) : Nat := r.time + max r.ttl (nanosOfSeconds 1)

/-- The maps of all data planes, the time of the last call, and what has been set up to now. -/
structure RoutingWorld (N : Type*) where
  now : Nat
  sticky : StickyCaches N
  unhealthy : UnhealthyCaches N
  stickySets : List (SetRecord String)
  unhealthySets : List (SetRecord Uuid)

namespace RoutingWorld

variable {N : Type*} [DecidableEq N]

def initial : RoutingWorld N := ⟨0, .empty, .empty, [], []⟩

def step (w : RoutingWorld N) (c : NodeCall N) : RoutingWorld N :=
  let now := w.now + c.delay
  match c.call with
  | .getStickyAccountId stickyKey =>
    { w with now, sticky := (w.sticky.getStickyAccountId c.node stickyKey now).2 }
  | .setStickyAccountId stickyKey accountId ttl =>
    { w with
      now, sticky := w.sticky.setStickyAccountId c.node stickyKey accountId ttl now
      stickySets := ⟨stickyKey, now, ttl⟩ :: w.stickySets }
  | .deleteStickyAccountId stickyKey =>
    { w with now, sticky := w.sticky.deleteStickyAccountId c.node stickyKey }
  | .setUnhealthy accountId ttl =>
    { w with
      now, unhealthy := w.unhealthy.setUnhealthy c.node accountId ttl now
      unhealthySets := ⟨accountId, now, ttl⟩ :: w.unhealthySets }
  | .isUnhealthy accountId =>
    { w with now, unhealthy := (w.unhealthy.isUnhealthy c.node accountId now).2 }
  | .clearUnhealthy accountId =>
    { w with now, unhealthy := w.unhealthy.clearUnhealthy c.node accountId }

/-- Every set of the key has ended for as long as a copy of it may be kept. -/
def EndedFor {κ : Type*} (copyTtl : Nat) (sets : List (SetRecord κ)) (key : κ) (t : Nat) : Prop :=
  ∀ r ∈ sets, r.key = key → r.expiry + copyTtl ≤ t

def Ended {κ : Type*} (sets : List (SetRecord κ)) (key : κ) (t : Nat) : Prop :=
  ∀ r ∈ sets, r.key = key → r.expiry ≤ t

/-- From now on no data plane reports a key of which every set has ended for the lifetime of a
copy. -/
def RespectsTtlsOfCopies (w : RoutingWorld N) : Prop :=
  ∀ node t, w.now ≤ t →
    (∀ stickyKey, EndedFor localStickyRehydrateTtl w.stickySets stickyKey t →
      (w.sticky.getStickyAccountId node stickyKey t).1 = none) ∧
    ∀ accountId, EndedFor localUnhealthyRehydrateTtl w.unhealthySets accountId t →
      (w.unhealthy.isUnhealthy node accountId t).1 = false

/-- From now on no data plane reports a key of which every set has ended. -/
def RespectsTtls (w : RoutingWorld N) : Prop :=
  ∀ node t, w.now ≤ t →
    (∀ stickyKey, Ended w.stickySets stickyKey t →
      (w.sticky.getStickyAccountId node stickyKey t).1 = none) ∧
    ∀ accountId, Ended w.unhealthySets accountId t →
      (w.unhealthy.isUnhealthy node accountId t).1 = false

/-- Some set of the key lasts until the given time. -/
def Lasts {κ : Type*} (sets : List (SetRecord κ)) (key : κ) (t : Nat) : Prop :=
  ∃ r ∈ sets, r.key = key ∧ t ≤ r.expiry

/-- Where the call copies an entry of Redis, some set of its key lasts for as long as the copy. -/
def CopyFits (w : RoutingWorld N) (c : NodeCall N) : Prop :=
  match c.call with
  | .getStickyAccountId stickyKey =>
    w.sticky.Copies c.node stickyKey (w.now + c.delay) →
      Lasts w.stickySets stickyKey (w.now + c.delay + localStickyRehydrateTtl)
  | .isUnhealthy accountId =>
    w.unhealthy.Copies c.node accountId (w.now + c.delay) →
      Lasts w.unhealthySets accountId (w.now + c.delay + localUnhealthyRehydrateTtl)
  | _ => True

end RoutingWorld

/-! ## The time at which all sets of a key have ended -/

section Bound

variable {κ : Type*} [DecidableEq κ]

/-- The latest end of a set of the key, put off by some time. -/
def lastEnd (slack : Nat) (sets : List (SetRecord κ)) (key : κ) : Nat :=
  ((sets.filter (·.key = key)).map (·.expiry + slack)).foldr max 0

variable {slack : Nat}

theorem lastEnd_cons (r : SetRecord κ) (sets : List (SetRecord κ)) (key : κ) :
    lastEnd slack (r :: sets) key =
      if r.key = key then max (r.expiry + slack) (lastEnd slack sets key)
      else lastEnd slack sets key := by
  by_cases h : r.key = key <;> simp [lastEnd, h]

theorem lastEnd_le_iff {sets : List (SetRecord κ)} {key : κ} {t : Nat} :
    lastEnd slack sets key ≤ t ↔ RoutingWorld.EndedFor slack sets key t := by
  induction sets with
  | nil => simp [lastEnd, RoutingWorld.EndedFor]
  | cons r sets ih =>
      rw [lastEnd_cons, RoutingWorld.EndedFor, List.forall_mem_cons]
      by_cases h : r.key = key
      · rw [if_pos h, max_le_iff, ih, RoutingWorld.EndedFor]
        simp [h]
      · rw [if_neg h, ih, RoutingWorld.EndedFor]
        simp [h]

omit [DecidableEq κ] in
theorem endedFor_zero {sets : List (SetRecord κ)} {key : κ} {t : Nat} :
    RoutingWorld.EndedFor 0 sets key t ↔ RoutingWorld.Ended sets key t := Iff.rfl

theorem le_lastEnd_iff {sets : List (SetRecord κ)} {key : κ} {t : Nat} (ht : 0 < t) :
    t ≤ lastEnd slack sets key ↔ ∃ r ∈ sets, r.key = key ∧ t ≤ r.expiry + slack := by
  induction sets with
  | nil => simp [lastEnd, ht.ne']
  | cons r sets ih =>
      rw [lastEnd_cons, List.exists_mem_cons_iff]
      by_cases h : r.key = key
      · rw [if_pos h, le_max_iff, ih]
        simp [h]
      · rw [if_neg h, ih]
        simp [h]

theorem lastEnd_le_cons (r : SetRecord κ) (sets : List (SetRecord κ)) (key : κ) :
    lastEnd slack sets key ≤ lastEnd slack (r :: sets) key := by
  rw [lastEnd_cons]
  split
  · exact le_max_right _ _
  · exact le_rfl

variable (slack) in
theorem lastEnd_cons_self (r : SetRecord κ) (sets : List (SetRecord κ)) :
    r.expiry + slack ≤ lastEnd slack (r :: sets) r.key := by
  rw [lastEnd_cons, if_pos rfl]
  exact le_max_left _ _

end Bound

/-! ## One call -/

section Within

variable {N κ ν : Type*} [DecidableEq N] [DecidableEq κ] {cache : LocalCopies N κ ν}
  {sets : List (SetRecord κ)} {node : N} {key : κ} {now : Nat}

theorem redisTtl_le (ttl : Nat) : redisTtl ttl ≤ max ttl (nanosOfSeconds 1) := by
  simp only [redisTtl, nanosOfSeconds]
  omega

theorem within_setWithTtl {slack : Nat} (h : cache.Within (lastEnd 0 sets) (lastEnd slack sets) now)
    (value : ν) (ttl : Nat) :
    (setWithTtl cache node key value ttl now).Within (lastEnd 0 (⟨key, now, ttl⟩ :: sets))
      (lastEnd slack (⟨key, now, ttl⟩ :: sets)) now := by
  have hbound := h.mono (lastEnd_le_cons ⟨key, now, ttl⟩ sets)
    (lastEnd_le_cons ⟨key, now, ttl⟩ sets) le_rfl
  have hend : now + max ttl (nanosOfSeconds 1) ≤ lastEnd 0 (⟨key, now, ttl⟩ :: sets) key :=
    lastEnd_cons_self 0 ⟨key, now, ttl⟩ sets
  have hcopy : now + max ttl (nanosOfSeconds 1) + slack ≤
      lastEnd slack (⟨key, now, ttl⟩ :: sets) key := lastEnd_cons_self slack ⟨key, now, ttl⟩ sets
  have hredis := redisTtl_le ttl
  rw [setWithTtl]
  split
  · exact hbound
  · exact hbound.write (by omega) (by omega)

theorem within_read_iff_lasts {copyTtl : Nat} (hcopy : 0 < copyTtl)
    (h : cache.Within (lastEnd 0 sets) (lastEnd 0 sets) now) :
    (cache.read copyTtl node key now).2.Within (lastEnd 0 sets) (lastEnd 0 sets) now ↔
      (cache.Copies node key now → RoutingWorld.Lasts sets key (now + copyTtl)) := by
  rw [LocalCopies.within_read_iff hcopy h, le_lastEnd_iff (by omega)]
  rfl

theorem within_read_of_copies {copyTtl : Nat} (hcopy : 0 < copyTtl)
    (h : cache.Within (lastEnd 0 sets) (lastEnd copyTtl sets) now) :
    (cache.read copyTtl node key now).2.Within (lastEnd 0 sets) (lastEnd copyTtl sets) now := by
  rw [LocalCopies.within_read_iff hcopy h]
  intro hcopies
  obtain ⟨r, hr, hkey, hle⟩ := (le_lastEnd_iff (Nat.succ_pos now)).1 (h.lt_of_copies hcopies)
  exact (le_lastEnd_iff (by omega)).2 ⟨r, hr, hkey, by omega⟩

end Within

namespace RoutingWorld

variable {N : Type*} [DecidableEq N] {w : RoutingWorld N}

/-- No entry outlives what has been set for its key, but for some time that a local one may. -/
def Within (stickySlack unhealthySlack : Nat) (w : RoutingWorld N) : Prop :=
  w.sticky.Within (lastEnd 0 w.stickySets) (lastEnd stickySlack w.stickySets) w.now ∧
    w.unhealthy.Within (lastEnd 0 w.unhealthySets) (lastEnd unhealthySlack w.unhealthySets) w.now

omit [DecidableEq N] in
theorem within_initial (stickySlack unhealthySlack : Nat) :
    (initial : RoutingWorld N).Within stickySlack unhealthySlack :=
  ⟨LocalCopies.within_empty _ _ _, LocalCopies.within_empty _ _ _⟩

theorem within_step {stickySlack unhealthySlack : Nat} (h : w.Within stickySlack unhealthySlack)
    (c : NodeCall N)
    (hsticky : ∀ key, c.call = .getStickyAccountId key →
      (w.step c).sticky.Within (lastEnd 0 w.stickySets) (lastEnd stickySlack w.stickySets)
        (w.now + c.delay))
    (hunhealthy : ∀ id, c.call = .isUnhealthy id →
      (w.step c).unhealthy.Within (lastEnd 0 w.unhealthySets)
        (lastEnd unhealthySlack w.unhealthySets) (w.now + c.delay)) :
    (w.step c).Within stickySlack unhealthySlack := by
  obtain ⟨node, delay, call⟩ := c
  have hnow := Nat.le_add_right w.now delay
  have hs := h.1.mono (fun _ => le_rfl) (fun _ => le_rfl) hnow
  have hu := h.2.mono (fun _ => le_rfl) (fun _ => le_rfl) hnow
  cases call with
  | getStickyAccountId stickyKey => exact ⟨hsticky stickyKey rfl, hu⟩
  | setStickyAccountId stickyKey accountId ttl => exact ⟨within_setWithTtl hs accountId ttl, hu⟩
  | deleteStickyAccountId stickyKey => exact ⟨hs.erase, hu⟩
  | setUnhealthy accountId ttl => exact ⟨hs, within_setWithTtl hu () ttl⟩
  | isUnhealthy accountId => exact ⟨hs, hunhealthy accountId rfl⟩
  | clearUnhealthy accountId => exact ⟨hs, hu.erase⟩

/-! ## What holds of all runs -/

theorem within_run (calls : List (NodeCall N)) : (Machine.run step initial calls).Within
    localStickyRehydrateTtl localUnhealthyRehydrateTtl := by
  apply Machine.run_invariant _ (within_initial _ _)
  intro w c h
  have hnow := Nat.le_add_right w.now c.delay
  have hs := h.1.mono (fun _ => le_rfl) (fun _ => le_rfl) hnow
  have hu := h.2.mono (fun _ => le_rfl) (fun _ => le_rfl) hnow
  obtain ⟨node, delay, call⟩ := c
  apply within_step h
  · rintro key rfl
    exact within_read_of_copies (by decide) hs
  · rintro id rfl
    exact within_read_of_copies (by decide) hu

theorem respectsTtlsOfCopies_of_within
    (h : w.Within localStickyRehydrateTtl localUnhealthyRehydrateTtl) :
    w.RespectsTtlsOfCopies := by
  intro node t ht
  constructor
  · intro key hended
    have hset : lastEnd 0 w.stickySets key ≤ t :=
      lastEnd_le_iff.2 fun r hr hkey => (Nat.le_add_right _ _).trans (hended r hr hkey)
    exact h.1.read_eq_none ht hset (lastEnd_le_iff.2 hended)
  · intro id hended
    have hset : lastEnd 0 w.unhealthySets id ≤ t :=
      lastEnd_le_iff.2 fun r hr hkey => (Nat.le_add_right _ _).trans (hended r hr hkey)
    have hnone : (LocalCopies.read w.unhealthy localUnhealthyRehydrateTtl node id t).1 = none :=
      h.2.read_eq_none ht hset (lastEnd_le_iff.2 hended)
    simp only [UnhealthyCaches.isUnhealthy, hnone, Option.isSome_none]

/-! ## When the times to live are respected -/

theorem respectsTtls_iff_within (node : N) : w.RespectsTtls ↔ w.Within 0 0 := by
  rw [Within, LocalCopies.within_iff_read localStickyRehydrateTtl node,
    LocalCopies.within_iff_read localUnhealthyRehydrateTtl node]
  simp only [lastEnd_le_iff, endedFor_zero]
  constructor
  · intro h
    refine ⟨fun n key t ht hended => (h n t ht).1 key hended, fun n id t ht hended => ?_⟩
    have hunhealthy := (h n t ht).2 id hended
    simpa [UnhealthyCaches.isUnhealthy] using hunhealthy
  · intro h n t ht
    refine ⟨fun key hended => h.1 n key t ht hended, fun id hended => ?_⟩
    have hnone := h.2 n id t ht hended
    simp [UnhealthyCaches.isUnhealthy, hnone]

theorem within_step_iff (h : w.Within 0 0) (c : NodeCall N) :
    (w.step c).Within 0 0 ↔ w.CopyFits c := by
  have hnow := Nat.le_add_right w.now c.delay
  have hs := h.1.mono (fun _ => le_rfl) (fun _ => le_rfl) hnow
  have hu := h.2.mono (fun _ => le_rfl) (fun _ => le_rfl) hnow
  obtain ⟨node, delay, call⟩ := c
  cases call with
  | getStickyAccountId stickyKey =>
      refine Iff.trans (and_iff_left hu) ?_
      exact within_read_iff_lasts (by decide) hs
  | isUnhealthy accountId =>
      refine Iff.trans (and_iff_right hs) ?_
      exact within_read_iff_lasts (by decide) hu
  | setStickyAccountId stickyKey accountId ttl =>
      exact iff_of_true (within_step h _ nofun nofun) trivial
  | deleteStickyAccountId stickyKey => exact iff_of_true (within_step h _ nofun nofun) trivial
  | setUnhealthy accountId ttl => exact iff_of_true (within_step h _ nofun nofun) trivial
  | clearUnhealthy accountId => exact iff_of_true (within_step h _ nofun nofun) trivial

theorem respectsTtls_initial : (initial : RoutingWorld N).RespectsTtls := by
  intro node
  exact (respectsTtls_iff_within node).2 (within_initial 0 0) node

/-- The data planes respect the times to live all along a run exactly if every copy that one of them
makes of an entry of Redis fits into what has been set. -/
theorem respectsTtls_iff_copyFits (calls : List (NodeCall N)) :
    (∀ pre, pre <+: calls → (Machine.run step initial pre).RespectsTtls) ↔
      Machine.Along step CopyFits initial calls := by
  apply Machine.along_iff_prefixes (P := fun _ => True) (fun _ _ _ => trivial) _ trivial
    respectsTtls_initial
  intro w c _ hw
  rw [respectsTtls_iff_within c.node] at hw ⊢
  exact within_step_iff hw c

end RoutingWorld

/-! ## Keys that are deleted or cleared -/

def RoutingCall.SetsSticky (stickyKey : String) : RoutingCall → Prop
  | .setStickyAccountId key _ _ => key = stickyKey
  | _ => False

def RoutingCall.SetsUnhealthy (accountId : Uuid) : RoutingCall → Prop
  | .setUnhealthy id _ => id = accountId
  | _ => False

section Absent

variable {N κ ν : Type*} [DecidableEq N] [DecidableEq κ] {cache : LocalCopies N κ ν}
  {node node' : N} {key key' : κ}

theorem absent_setWithTtl (h : cache.Absent node key) (hkey : key' ≠ key) (value : ν)
    (ttl now : Nat) : (setWithTtl cache node' key' value ttl now).Absent node key := by
  rw [setWithTtl]
  split
  · exact h
  · exact h.write hkey.symm

end Absent

namespace RoutingWorld

variable {N : Type*} [DecidableEq N] {w : RoutingWorld N}

theorem absent_sticky_step {node : N} {stickyKey : String} (h : w.sticky.Absent node stickyKey)
    {c : NodeCall N} (hc : ¬ c.call.SetsSticky stickyKey) :
    (w.step c).sticky.Absent node stickyKey := by
  obtain ⟨node', delay, call⟩ := c
  cases call with
  | getStickyAccountId key => exact h.read
  | setStickyAccountId key accountId ttl => exact absent_setWithTtl h hc accountId ttl _
  | deleteStickyAccountId key => exact h.erase
  | setUnhealthy accountId ttl => exact h
  | isUnhealthy accountId => exact h
  | clearUnhealthy accountId => exact h

theorem absent_unhealthy_step {node : N} {accountId : Uuid}
    (h : w.unhealthy.Absent node accountId) {c : NodeCall N}
    (hc : ¬ c.call.SetsUnhealthy accountId) : (w.step c).unhealthy.Absent node accountId := by
  obtain ⟨node', delay, call⟩ := c
  cases call with
  | getStickyAccountId key => exact h
  | setStickyAccountId key id ttl => exact h
  | deleteStickyAccountId key => exact h
  | setUnhealthy id ttl => exact absent_setWithTtl h hc () ttl _
  | isUnhealthy id => exact h.read
  | clearUnhealthy id => exact h.erase

/-- What a data plane has deleted it does not report until somebody sets it again. -/
theorem deleted_not_reported (w : RoutingWorld N) (node : N) (stickyKey : String) (delay : Nat)
    {calls : List (NodeCall N)} (h : ∀ c ∈ calls, ¬ c.call.SetsSticky stickyKey) (t : Nat) :
    ((Machine.run step (w.step ⟨node, delay, .deleteStickyAccountId stickyKey⟩)
      calls).sticky.getStickyAccountId node stickyKey t).1 = none := by
  have hgiven : Machine.Along step (fun _ c => ¬ c.call.SetsSticky stickyKey)
      (w.step ⟨node, delay, .deleteStickyAccountId stickyKey⟩) calls :=
    Machine.along_of_forall h _
  have habsent := hgiven.invariant (P := fun w => w.sticky.Absent node stickyKey)
    (fun w c hw hc => absent_sticky_step hw hc) LocalCopies.absent_erase
  exact habsent.read_eq_none

theorem cleared_not_reported (w : RoutingWorld N) (node : N) (accountId : Uuid) (delay : Nat)
    {calls : List (NodeCall N)} (h : ∀ c ∈ calls, ¬ c.call.SetsUnhealthy accountId) (t : Nat) :
    ((Machine.run step (w.step ⟨node, delay, .clearUnhealthy accountId⟩)
      calls).unhealthy.isUnhealthy node accountId t).1 = false := by
  have hgiven : Machine.Along step (fun _ c => ¬ c.call.SetsUnhealthy accountId)
      (w.step ⟨node, delay, .clearUnhealthy accountId⟩) calls :=
    Machine.along_of_forall h _
  have habsent := hgiven.invariant (P := fun w => w.unhealthy.Absent node accountId)
    (fun w c hw hc => absent_unhealthy_step hw hc) LocalCopies.absent_erase
  simp only [UnhealthyCaches.isUnhealthy, habsent.read_eq_none, Option.isSome_none]

/-- In every run no data plane reports a key when all its sets have ended for the lifetime of a
copy; and no data plane reports again what it has deleted or cleared, until somebody sets it. -/
theorem respectsTtlsOfCopies_run (calls : List (NodeCall N)) :
    (Machine.run step initial calls).RespectsTtlsOfCopies ∧
      (∀ (w : RoutingWorld N) node stickyKey delay calls',
        (∀ c ∈ calls', ¬ c.call.SetsSticky stickyKey) → ∀ t,
          ((Machine.run step (w.step ⟨node, delay, .deleteStickyAccountId stickyKey⟩)
            calls').sticky.getStickyAccountId node stickyKey t).1 = none) ∧
      ∀ (w : RoutingWorld N) node accountId delay calls',
        (∀ c ∈ calls', ¬ c.call.SetsUnhealthy accountId) → ∀ t,
          ((Machine.run step (w.step ⟨node, delay, .clearUnhealthy accountId⟩)
            calls').unhealthy.isUnhealthy node accountId t).1 = false :=
  ⟨respectsTtlsOfCopies_of_within (within_run calls),
    fun w node key delay _ h => w.deleted_not_reported node key delay h,
    fun w node id delay _ h => w.cleared_not_reported node id delay h⟩

/-- A session is set for a minute, another data plane reads it before the minute is over, and
reports it one second after the minute. -/
theorem copy_outlives_entry :
    ¬ ∀ (calls : List (NodeCall (Fin 2))) pre, pre <+: calls →
      (Machine.run step initial pre).RespectsTtls := by
  intro h
  have hrun := h [⟨0, 0, .setStickyAccountId "s" ⟨"a"⟩ (nanosOfSeconds 60)⟩,
    ⟨1, nanosOfSeconds 59, .getStickyAccountId "s"⟩] _ (List.prefix_refl _)
  have hnone := (hrun 1 (nanosOfSeconds 61) (by decide)).1 "s" (by
    unfold Ended
    decide)
  exact absurd hnone (by decide)

end RoutingWorld

end CodexPool
