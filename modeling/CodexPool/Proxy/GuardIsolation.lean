import CodexPool.DataPlane.ModelAllowlist
import CodexPool.Lib.Machine
import CodexPool.Proxy.Handler

/-!
# The guard against invalid requests

A principal whose requests are invalid too often is blocked for a while. The guard keeps the times
of the invalid requests in a window, under a key that is made from the principal. What it has under
a key follows the hits of the principals with that key. A principal is judged by its own hits when
no other one has its key, and only then.
-/

namespace CodexPool

/-- The bounds of the guard; its times are in milliseconds. -/
structure InvalidRequestGuardConfig where
  enabled : Bool
  window : Nat
  threshold : Nat
  blockTtl : Nat
  threshold_pos : 0 < threshold
  blockTtl_pos : 0 < blockTtl

/-- The length of a token and its first characters. -/
def tokenFingerprint (token : String) : String :=
  toString token.utf8ByteSize ++ ":" ++ String.ofList (token.toList.take 8)

def invalidRequestGuardKey (principal : ApiPrincipal) : String :=
  match principal.apiKeyId, principal.tenantId with
  | some apiKeyId, _ => "api_key:" ++ apiKeyId.text
  | none, some tenantId =>
    "tenant:" ++ tenantId.text ++ ":token:" ++ tokenFingerprint principal.token
  | none, none => "token:" ++ tokenFingerprint principal.token

namespace RequestGuard

structure GuardEntry where
  hits : List Nat
  blockedUntil : Option Nat

/-- The entries of the guard by their keys. -/
abbrev InvalidRequestGuardState := String → Option GuardEntry

def pruneInvalidRequestWindow (hits : List Nat) (now window : Nat) : List Nat :=
  hits.dropWhile fun hit => window < now - hit

section Guard

variable (learned : LearnedDecisions) (config : InvalidRequestGuardConfig)

/-- The entry without the hits before the window and without a block that is over. -/
def GuardEntry.expire (entry : GuardEntry) (now : Nat) : GuardEntry where
  hits := pruneInvalidRequestWindow entry.hits now config.window
  blockedUntil := entry.blockedUntil.filter (now < ·)

/-- The guard after the check, and whether the request is blocked. -/
def enforceInvalidRequestGuard (guard : InvalidRequestGuardState)
    (principal : Option ApiPrincipal) (now : Nat) : InvalidRequestGuardState × Bool :=
  if !config.enabled then (guard, false)
  else
    match principal.map invalidRequestGuardKey with
    | none => (guard, false)
    | some key =>
      match guard key with
      | none => (guard, false)
      | some entry =>
        let entry := entry.expire config now
        let blocked := entry.blockedUntil.any (now < ·)
        if entry.hits.isEmpty && entry.blockedUntil.isNone then
          (Function.update guard key none, blocked)
        else (Function.update guard key (some entry), blocked)

def shouldTrackInvalidRequestFailure (source : UpstreamErrorSource) (status : Nat)
    (errorContext : Option UpstreamErrorContext) : Bool :=
  match errorContext with
  | some context => (decideLearnedError learned source context).trackInvalidRequest
  | none => (decideUpstreamStatus source status).trackInvalidRequest

/-- A hit is not counted during a block, and the one that reaches the threshold starts a block. -/
def GuardEntry.hit (entry : GuardEntry) (now : Nat) : GuardEntry :=
  if entry.blockedUntil.any (now < ·) then entry
  else
    let hits := entry.hits ++ [now]
    if hits.length < config.threshold then { entry with hits := hits }
    else ⟨[], some (now + config.blockTtl)⟩

def recordInvalidRequestGuardFailure (guard : InvalidRequestGuardState)
    (principal : Option ApiPrincipal) (source : UpstreamErrorSource) (status : Nat)
    (errorContext : Option UpstreamErrorContext) (now : Nat) : InvalidRequestGuardState :=
  if !config.enabled then guard
  else if !shouldTrackInvalidRequestFailure learned source status errorContext then guard
  else
    match principal.map invalidRequestGuardKey with
    | none => guard
    | some key =>
      let entry := ((guard key).getD ⟨[], none⟩).expire config now
      Function.update guard key (some (entry.hit config now))

/-- A request is checked before it is sent, and it is recorded when it has failed. -/
inductive GuardOp where
  | enforce
  | failure (source : UpstreamErrorSource) (status : Nat)
    (errorContext : Option UpstreamErrorContext)

structure GuardCall where
  principal : Option ApiPrincipal
  now : Nat
  op : GuardOp

def step (guard : InvalidRequestGuardState) (call : GuardCall) : InvalidRequestGuardState :=
  match call.op with
  | .enforce => (enforceInvalidRequestGuard config guard call.principal call.now).1
  | .failure source status errorContext =>
    recordInvalidRequestGuardFailure learned config guard call.principal source status
      errorContext call.now

/-- The guard after the calls. -/
def run (calls : List GuardCall) : InvalidRequestGuardState :=
  Machine.run (step learned config) (fun _ => none) calls

/-- Whether a request of the principal is blocked after the calls. -/
def Blocks (calls : List GuardCall) (principal : ApiPrincipal) (now : Nat) : Bool :=
  (enforceInvalidRequestGuard config (run learned config calls) (some principal) now).2

/-! ## What the guard is for -/

def GuardCall.isHit (call : GuardCall) : Bool :=
  match call.op with
  | .enforce => false
  | .failure source status errorContext =>
    shouldTrackInvalidRequestFailure learned source status errorContext

/-- The hits since the last block, and the end of that block. -/
structure HitLog where
  hits : List Nat
  blockedUntil : Option Nat

def HitLog.isBlocked (log : HitLog) (now : Nat) : Bool := log.blockedUntil.any (now < ·)

/-- A hit starts a block when it is the one that makes the threshold number of them in a window. -/
def HitLog.hit (log : HitLog) (now : Nat) : HitLog :=
  if log.isBlocked now then log
  else
    let hits := log.hits ++ [now]
    if config.threshold ≤ hits.countP (fun hit => now - hit ≤ config.window) then
      ⟨[], some (now + config.blockTtl)⟩
    else ⟨hits, none⟩

def hitLog (hits : List Nat) : HitLog := hits.foldl (HitLog.hit config) ⟨[], none⟩

def SamePrincipal (q p : ApiPrincipal) : Prop :=
  q.token = p.token ∧ q.tenantId = p.tenantId ∧ q.apiKeyId = p.apiKeyId

instance (q p : ApiPrincipal) : Decidable (SamePrincipal q p) :=
  inferInstanceAs (Decidable (_ ∧ _))

/-- The times of the hits whose principals meet a condition. -/
def hitsOf (owned : ApiPrincipal → Bool) (calls : List GuardCall) : List Nat :=
  (calls.filter fun call => call.principal.any owned && call.isHit learned).map (·.now)

/-- The principal is blocked exactly when its own hits have started a block that is not over. -/
def Isolates (calls : List GuardCall) (p : ApiPrincipal) (now : Nat) : Prop :=
  Blocks learned config calls p now =
    (hitLog config (hitsOf learned (SamePrincipal · p) calls)).isBlocked now

end Guard

/-! ## Windows -/

theorem dropWhile_window_eq_filter {hits : List Nat} (h : hits.Pairwise (· ≤ ·))
    (now window : Nat) :
    pruneInvalidRequestWindow hits now window = hits.filter fun hit => now - hit ≤ window := by
  unfold pruneInvalidRequestWindow
  induction hits with
  | nil => rfl
  | cons hit hits ih =>
      rcases List.pairwise_cons.1 h with ⟨hfirst, hrest⟩
      by_cases hold : window < now - hit
      · have hpast : ¬now - hit ≤ window := by omega
        rw [List.dropWhile_cons, List.filter_cons]
        simp only [hold, hpast, decide_true, decide_false, if_true, Bool.false_eq_true, if_false]
        exact ih hrest
      · rw [List.dropWhile_cons, eq_comm]
        simp only [hold, decide_false, Bool.false_eq_true, if_false]
        rw [List.filter_eq_self]
        intro later hlater
        rw [decide_eq_true_eq]
        rcases List.mem_cons.1 hlater with rfl | hlater
        · omega
        · have hle := hfirst later hlater
          omega

/-! ## One key -/

section Key

variable {learned : LearnedDecisions} {config : InvalidRequestGuardConfig}

/-- The entry has those hits of the log that are not long past, and the same block. -/
structure Follows (config : InvalidRequestGuardConfig) (last : Nat) (entry : GuardEntry)
    (log : HitLog) : Prop where
  hits : ∃ since ≤ last, entry.hits = log.hits.filter fun hit => since - hit ≤ config.window
  sorted : log.hits.Pairwise (· ≤ ·)
  past : ∀ hit ∈ log.hits, hit ≤ last
  blocked : ∀ now, last ≤ now →
    entry.blockedUntil.filter (now < ·) = log.blockedUntil.filter (now < ·)

variable {last now : Nat} {entry : GuardEntry} {log : HitLog}

theorem Follows.empty : Follows config 0 ⟨[], none⟩ ⟨[], none⟩ :=
  ⟨⟨0, le_rfl, rfl⟩, List.Pairwise.nil, fun _ h => absurd h List.not_mem_nil, fun _ _ => rfl⟩

theorem Follows.mono (h : Follows config last entry log) (hle : last ≤ now) :
    Follows config now entry log := by
  rcases h.hits with ⟨since, hsince, hhits⟩
  exact ⟨⟨since, hsince.trans hle, hhits⟩, h.sorted, fun hit hhit => (h.past hit hhit).trans hle,
    fun now' hnow' => h.blocked now' (hle.trans hnow')⟩

theorem Follows.expire_hits (h : Follows config last entry log) (hle : last ≤ now) :
    (entry.expire config now).hits =
      log.hits.filter fun hit => now - hit ≤ config.window := by
  rcases h.hits with ⟨since, hsince, hhits⟩
  have hsorted : entry.hits.Pairwise (· ≤ ·) := by
    rw [hhits]
    exact h.sorted.filter _
  change pruneInvalidRequestWindow entry.hits now config.window = _
  rw [dropWhile_window_eq_filter hsorted, hhits, List.filter_filter]
  apply List.filter_congr
  intro hit _
  rw [Bool.and_eq_left_iff_imp, decide_eq_true_eq, decide_eq_true_eq]
  omega

theorem filter_filter_of_le (o : Option Nat) {now now' : Nat} (hle : now ≤ now') :
    (o.filter (now < ·)).filter (now' < ·) = o.filter (now' < ·) := by
  cases o with
  | none => rfl
  | some until_ =>
      by_cases hlate : now' < until_
      · have hlate' : now < until_ := by omega
        simp [Option.filter, hlate, hlate']
      · by_cases hnow : now < until_
        · simp [Option.filter, hlate, hnow]
        · simp [Option.filter, hlate, hnow]

theorem any_eq_filter_any (o : Option Nat) (now : Nat) :
    o.any (now < ·) = (o.filter (now < ·)).isSome := by
  cases o with
  | none => rfl
  | some until_ => by_cases hlate : now < until_ <;> simp [hlate]

theorem Follows.expire (h : Follows config last entry log) (hle : last ≤ now) :
    Follows config now (entry.expire config now) log where
  hits := ⟨now, le_rfl, h.expire_hits hle⟩
  sorted := h.sorted
  past hit hhit := (h.past hit hhit).trans hle
  blocked now' hnow' := by
    rw [← h.blocked now' (hle.trans hnow')]
    exact filter_filter_of_le entry.blockedUntil hnow'

theorem Follows.any_eq (h : Follows config last entry log) (hle : last ≤ now) :
    entry.blockedUntil.any (now < ·) = log.isBlocked now := by
  rw [HitLog.isBlocked, any_eq_filter_any, any_eq_filter_any, h.blocked now hle]

/-- A hit is counted by the entry as it is by the log. -/
theorem Follows.hit (h : Follows config now entry log)
    (hhits : entry.hits = log.hits.filter fun hit => now - hit ≤ config.window) :
    Follows config now (entry.hit config now) (log.hit config now) := by
  have hcount : (entry.hits ++ [now]).length =
      (log.hits ++ [now]).countP fun hit => now - hit ≤ config.window := by
    rw [hhits, List.length_append, List.countP_append, List.countP_eq_length_filter]
    simp
  unfold GuardEntry.hit HitLog.hit
  rw [h.any_eq le_rfl]
  by_cases hblocked : log.isBlocked now = true
  · rw [if_pos hblocked, if_pos hblocked]
    exact h
  · rw [if_neg hblocked, if_neg hblocked]
    dsimp only
    rw [hcount]
    by_cases hreached : config.threshold ≤
        (log.hits ++ [now]).countP fun hit => now - hit ≤ config.window
    · rw [if_neg (Nat.not_lt.2 hreached), if_pos hreached]
      exact ⟨⟨now, le_rfl, rfl⟩, List.Pairwise.nil, fun _ hmem => absurd hmem List.not_mem_nil,
        fun _ _ => rfl⟩
    · rw [if_pos (Nat.not_le.1 hreached), if_neg hreached]
      constructor
      · refine ⟨now, le_rfl, ?_⟩
        rw [List.filter_append, ← hhits]
        simp
      · rw [List.pairwise_append]
        refine ⟨h.sorted, List.pairwise_singleton _ _, ?_⟩
        intro hit hhit last hlast
        rw [List.mem_singleton.1 hlast]
        exact h.past hit hhit
      · intro hit hhit
        rcases List.mem_append.1 hhit with hold | hnew
        · exact h.past hit hold
        · exact (List.mem_singleton.1 hnew).le
      · intro now' hnow'
        have hnone : entry.blockedUntil.filter (now < ·) = none := by
          rw [← Option.isNone_iff_eq_none, ← Option.not_isSome, ← any_eq_filter_any,
            h.any_eq le_rfl]
          simpa using hblocked
        change entry.blockedUntil.filter (now' < ·) = none
        rw [← filter_filter_of_le entry.blockedUntil hnow', hnone]
        rfl

/-! ## One call -/

/-- The entry under a key that has none is empty. -/
def entryAt (guard : InvalidRequestGuardState) (key : String) : GuardEntry :=
  (guard key).getD ⟨[], none⟩

theorem entryAt_update_self (guard : InvalidRequestGuardState) (key : String)
    (o : Option GuardEntry) : entryAt (Function.update guard key o) key = o.getD ⟨[], none⟩ := by
  rw [entryAt, Function.update_self]

theorem entryAt_update_of_ne (guard : InvalidRequestGuardState) {key key' : String}
    (h : key ≠ key') (o : Option GuardEntry) :
    entryAt (Function.update guard key' o) key = entryAt guard key := by
  rw [entryAt, Function.update_of_ne h, entryAt]

variable {guard : InvalidRequestGuardState} {key : String}

theorem Follows.enforce (h : Follows config last (entryAt guard key) log) (hle : last ≤ now)
    (principal : Option ApiPrincipal) :
    Follows config now
      (entryAt (enforceInvalidRequestGuard config guard principal now).1 key) log := by
  unfold enforceInvalidRequestGuard
  split_ifs
  · exact h.mono hle
  · cases principal.map invalidRequestGuardKey with
    | none => exact h.mono hle
    | some key' =>
        dsimp only
        cases hentry : guard key' with
        | none => exact h.mono hle
        | some entry =>
            dsimp only
            by_cases hkey : key = key'
            · have hexpire : Follows config now (entry.expire config now) log := by
                rw [entryAt, hkey, hentry] at h
                exact h.expire hle
              rw [hkey]
              split_ifs with hover
              · rw [entryAt_update_self]
                simp only [Bool.and_eq_true, List.isEmpty_iff, Option.isNone_iff_eq_none] at hover
                rcases hexpired : entry.expire config now with ⟨hits, blockedUntil⟩
                rw [hexpired] at hover hexpire
                dsimp only at hover
                rcases hover with ⟨rfl, rfl⟩
                exact hexpire
              · rw [entryAt_update_self]
                exact hexpire
            · split_ifs
              · rw [entryAt_update_of_ne _ hkey]
                exact h.mono hle
              · rw [entryAt_update_of_ne _ hkey]
                exact h.mono hle

def GuardCall.hits (learned : LearnedDecisions) (key : String) (call : GuardCall) : Bool :=
  call.principal.any (invalidRequestGuardKey · = key) && call.isHit learned

variable (henabled : config.enabled = true)

include henabled

variable (learned) in
theorem Follows.step (h : Follows config last (entryAt guard key) log) {call : GuardCall}
    (hle : last ≤ call.now) :
    Follows config call.now (entryAt (step learned config guard call) key)
      (if call.hits learned key then log.hit config call.now else log) := by
  rcases call with ⟨principal, now, op⟩
  cases op with
  | enforce =>
      have hno : GuardCall.hits learned key ⟨principal, now, .enforce⟩ = false := Bool.and_false _
      rw [hno, if_neg Bool.false_ne_true]
      exact h.enforce hle principal
  | failure source status errorContext =>
      change Follows config now (entryAt (recordInvalidRequestGuardFailure learned config guard
        principal source status errorContext now) key) _
      cases htracked : shouldTrackInvalidRequestFailure learned source status errorContext with
      | false =>
          simp only [GuardCall.hits, GuardCall.isHit, recordInvalidRequestGuardFailure, htracked,
            Bool.and_false, Bool.not_false, if_true, ite_self, Bool.false_eq_true, if_false]
          exact h.mono hle
      | true =>
          simp only [GuardCall.hits, GuardCall.isHit, recordInvalidRequestGuardFailure, htracked,
            henabled, Bool.and_true, Bool.not_true, Bool.false_eq_true, if_false]
          cases principal with
          | none => exact h.mono hle
          | some principal =>
              simp only [Option.map_some, Option.any_some, decide_eq_true_eq]
              by_cases hkey : invalidRequestGuardKey principal = key
              · rw [if_pos hkey, hkey, entryAt_update_self, Option.getD_some]
                exact (h.expire hle).hit (h.expire_hits hle)
              · rw [if_neg hkey, entryAt_update_of_ne _ (Ne.symm hkey)]
                exact h.mono hle

/-! ## All calls -/

theorem Follows.run (calls : List GuardCall) (h : Follows config last (entryAt guard key) log)
    (hsorted : calls.Pairwise fun a b => a.now ≤ b.now) (hafter : ∀ call ∈ calls, last ≤ call.now)
    (hbefore : ∀ call ∈ calls, call.now ≤ now) (hlast : last ≤ now) :
    Follows config now (entryAt (Machine.run (RequestGuard.step learned config) guard calls) key)
      (((calls.filter (GuardCall.hits learned key)).map (·.now)).foldl (HitLog.hit config)
        log) := by
  induction calls generalizing guard last log with
  | nil => exact h.mono hlast
  | cons call calls ih =>
      rcases List.pairwise_cons.1 hsorted with ⟨hfirst, hrest⟩
      rw [List.forall_mem_cons] at hafter hbefore
      have hstep := h.step learned henabled hafter.1
      have hnext := ih hstep hrest hfirst hbefore.2 hbefore.1
      cases hhit : call.hits learned key with
      | true =>
          rw [List.filter_cons_of_pos hhit, List.map_cons, List.foldl_cons]
          rw [if_pos hhit] at hnext
          exact hnext
      | false =>
          rw [List.filter_cons_of_neg (by simp [hhit])]
          rw [hhit, if_neg Bool.false_ne_true] at hnext
          exact hnext

/-- A principal is judged by the hits of all principals with its key. -/
theorem blocks_eq {calls : List GuardCall} (hsorted : calls.Pairwise fun a b => a.now ≤ b.now)
    (hbefore : ∀ call ∈ calls, call.now ≤ now) (p : ApiPrincipal) :
    Blocks learned config calls p now = (hitLog config (hitsOf learned
      (invalidRequestGuardKey · = invalidRequestGuardKey p) calls)).isBlocked now := by
  have hfollows : Follows config now
      (entryAt (RequestGuard.run learned config calls) (invalidRequestGuardKey p)) (hitLog config
        (hitsOf learned (invalidRequestGuardKey · = invalidRequestGuardKey p) calls)) :=
    Follows.run henabled calls Follows.empty hsorted (fun _ _ => Nat.zero_le _) hbefore
      (Nat.zero_le _)
  rw [← hfollows.any_eq le_rfl, Blocks, enforceInvalidRequestGuard, henabled]
  simp only [Bool.not_true, Bool.false_eq_true, if_false, Option.map_some]
  unfold entryAt
  cases hentry : RequestGuard.run learned config calls (invalidRequestGuardKey p) with
  | none => rfl
  | some entry =>
      dsimp only
      have hany : ((entry.expire config now).blockedUntil).any (now < ·) =
          entry.blockedUntil.any (now < ·) := by
        rw [any_eq_filter_any, any_eq_filter_any]
        exact congrArg Option.isSome (filter_filter_of_le entry.blockedUntil le_rfl)
      split_ifs <;> exact hany

end Key

theorem invalidRequestGuardKey_congr {p q : ApiPrincipal} (h : SamePrincipal q p) :
    invalidRequestGuardKey q = invalidRequestGuardKey p := by
  rcases h with ⟨htoken, htenant, hkey⟩
  rw [invalidRequestGuardKey, invalidRequestGuardKey, htoken, htenant, hkey]

/-- As many hits at a time as the threshold start a block, and no fewer. -/
theorem hitLog_replicate (config : InvalidRequestGuardConfig) {n : Nat}
    (h : n < config.threshold) :
    hitLog config (List.replicate n 0) = ⟨List.replicate n 0, none⟩ ∧
      (HitLog.mk (List.replicate n 0) none).hit config 0 =
        if n + 1 = config.threshold then ⟨[], some config.blockTtl⟩
        else ⟨List.replicate (n + 1) 0, none⟩ := by
  have hone : ∀ n, n < config.threshold → (HitLog.mk (List.replicate n 0) none).hit config 0 =
      if n + 1 = config.threshold then ⟨[], some config.blockTtl⟩
      else ⟨List.replicate (n + 1) 0, none⟩ := by
    intro n hn
    have hcount : (List.replicate n 0 ++ [0]).countP (fun hit => 0 - hit ≤ config.window) =
        n + 1 := by
      rw [← List.replicate_succ', List.countP_replicate, if_pos (by simp)]
    unfold HitLog.hit
    rw [if_neg (by simp [HitLog.isBlocked])]
    dsimp only
    rw [hcount, Nat.zero_add]
    by_cases hreached : n + 1 = config.threshold
    · rw [if_pos hreached, if_pos hreached.ge]
    · rw [if_neg hreached, if_neg (by omega), List.replicate_succ']
  refine ⟨?_, hone n h⟩
  induction n with
  | zero => rfl
  | succ n ih =>
      have hn : n < config.threshold := by omega
      have hnot : n + 1 ≠ config.threshold := by omega
      rw [List.replicate_succ', hitLog, List.foldl_append, ← hitLog, ih hn, List.foldl_cons,
        List.foldl_nil, hone n hn, if_neg hnot, List.replicate_succ']

theorem hitLog_threshold (config : InvalidRequestGuardConfig) :
    (hitLog config (List.replicate config.threshold 0)).isBlocked 0 = true := by
  have hpos := config.threshold_pos
  have hsucc : config.threshold - 1 + 1 = config.threshold := by omega
  rcases hitLog_replicate config (show config.threshold - 1 < config.threshold by omega) with
    ⟨hlog, hhit⟩
  rw [if_pos hsucc] at hhit
  rw [← hsucc, List.replicate_succ', hitLog, List.foldl_append, ← hitLog, hlog, List.foldl_cons,
    List.foldl_nil, hhit]
  simpa [HitLog.isBlocked] using config.blockTtl_pos

/-- The calls of a principal and of some others, in the order of their times. -/
structure CallsAmong (p : ApiPrincipal) (others : ApiPrincipal → Prop) (calls : List GuardCall)
    (now : Nat) : Prop where
  among : ∀ call ∈ calls, ∀ q, call.principal = some q → SamePrincipal q p ∨ others q
  sorted : calls.Pairwise fun a b => a.now ≤ b.now
  before : ∀ call ∈ calls, call.now ≤ now

/-- As many hits of a principal as the threshold, all at the start. -/
def overHits (config : InvalidRequestGuardConfig) (q : ApiPrincipal) : List GuardCall :=
  List.replicate config.threshold ⟨some q, 0, .failure .http 400 none⟩

theorem callsAmong_overHits (config : InvalidRequestGuardConfig) {p q : ApiPrincipal}
    {others : ApiPrincipal → Prop} (hq : others q) :
    CallsAmong p others (overHits config q) 0 where
  among call hcall q' hq' := by
    rw [List.eq_of_mem_replicate hcall] at hq'
    cases hq'
    exact Or.inr hq
  sorted := List.pairwise_replicate.2 (Or.inr le_rfl)
  before call hcall := by rw [List.eq_of_mem_replicate hcall]

/-- The hits of another principal with the same key block a principal that has none. -/
theorem not_isolates_overHits (learned : LearnedDecisions) {config : InvalidRequestGuardConfig}
    (henabled : config.enabled = true) {p q : ApiPrincipal} (htoken : q.token ≠ p.token)
    (hkey : invalidRequestGuardKey q = invalidRequestGuardKey p) :
    ¬Isolates learned config (overHits config q) p 0 := by
  have hnot : ¬SamePrincipal q p := fun hsame => htoken hsame.1
  have htracked : shouldTrackInvalidRequestFailure learned .http 400 none = true := by
    simp [shouldTrackInvalidRequestFailure, decideUpstreamStatus]
  have hcalls : CallsAmong p (· = q) (overHits config q) 0 := callsAmong_overHits config rfl
  have hall : hitsOf learned (invalidRequestGuardKey · = invalidRequestGuardKey p)
      (overHits config q) = List.replicate config.threshold 0 := by
    simp [hitsOf, overHits, GuardCall.isHit, htracked, hkey]
  have hown : hitsOf learned (SamePrincipal · p) (overHits config q) = [] := by
    simp [hitsOf, overHits, hnot]
  rw [Isolates, blocks_eq henabled hcalls.sorted hcalls.before, hall, hown, hitLog_threshold]
  simp [hitLog, HitLog.isBlocked]

/-- Whatever the calls are, a principal is judged by its own hits exactly when none of the others,
which have other tokens, has its key. -/
theorem isolates_iff (learned : LearnedDecisions) (config : InvalidRequestGuardConfig)
    (henabled : config.enabled = true) (p : ApiPrincipal) (others : ApiPrincipal → Prop)
    (hothers : ∀ q, others q → q.token ≠ p.token) :
    (∀ calls now, CallsAmong p others calls now → Isolates learned config calls p now) ↔
      ∀ q, others q → invalidRequestGuardKey q ≠ invalidRequestGuardKey p := by
  constructor
  · intro h q hq hkey
    exact not_isolates_overHits learned henabled (hothers q hq) hkey
      (h _ 0 (callsAmong_overHits config hq))
  · intro h calls now hcalls
    rw [Isolates, blocks_eq henabled hcalls.sorted hcalls.before]
    have hsame : hitsOf learned (invalidRequestGuardKey · = invalidRequestGuardKey p) calls =
        hitsOf learned (SamePrincipal · p) calls := by
      unfold hitsOf
      congr 1
      apply List.filter_congr
      intro call hcall
      congr 1
      cases hprincipal : call.principal with
      | none => rfl
      | some q =>
          rw [Option.any_some, Option.any_some, decide_eq_decide]
          rcases hcalls.among call hcall q hprincipal with hq | hq
          · exact ⟨fun _ => hq, fun hs => invalidRequestGuardKey_congr hs⟩
          · exact ⟨fun hkey => absurd hkey (h q hq), fun hs => absurd hs.1 (hothers q hq)⟩
    rw [hsame]

/-! Tokens of the same length are told apart by their first eight characters only. -/

def tokenPrincipal (token : String) : ApiPrincipal where
  token := token
  tenantId := none
  apiKeyId := none
  apiKeyGroupId := none
  apiKeyGroupName := none
  apiKeyGroupInvalid := false
  enabled := true
  keyIpAllowlist := []
  keyModelAllowlist := []
  tenantStatus := none
  tenantExpiresAt := none
  balanceMicrocredits := none

def twelveHits : InvalidRequestGuardConfig where
  enabled := true
  window := 60000
  threshold := 12
  blockTtl := 120000
  threshold_pos := by decide
  blockTtl_pos := by decide

theorem isolates_iff_tokens :
    (∀ calls now, CallsAmong (tokenPrincipal "alpha-key") (· = tokenPrincipal "bravo-key") calls
        now → Isolates (fun _ => none) twelveHits calls (tokenPrincipal "alpha-key") now) ↔
      ∀ q, q = tokenPrincipal "bravo-key" →
        invalidRequestGuardKey q ≠ invalidRequestGuardKey (tokenPrincipal "alpha-key") :=
  isolates_iff (fun _ => none) twelveHits rfl (tokenPrincipal "alpha-key")
    (· = tokenPrincipal "bravo-key") (by
      rintro q rfl
      decide +kernel)

theorem teamTokens_not_isolated :
    (tokenPrincipal "sk-team-bravo").token ≠ (tokenPrincipal "sk-team-alpha").token ∧
      ¬Isolates (fun _ => none) twelveHits
        (overHits twelveHits (tokenPrincipal "sk-team-bravo")) (tokenPrincipal "sk-team-alpha") 0 :=
  have htoken :
      (tokenPrincipal "sk-team-bravo").token ≠ (tokenPrincipal "sk-team-alpha").token := by
    decide +kernel
  ⟨htoken, not_isolates_overHits _ rfl htoken (by decide +kernel)⟩

end RequestGuard

end CodexPool
