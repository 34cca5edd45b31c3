import CodexPool.DataPlane.ModelAllowlist
import CodexPool.Lib.Keyed
import CodexPool.Lib.Machine
import CodexPool.Lib.SipHash

/-!
# The cache of validated tokens

The data plane asks the control plane about a token once and keeps the answer under a hash of
the token, a principal in one map and a refusal in another. The hash has 64 bits and no secret
key, and what is found under it is not compared with the token that is looked up. So an answer
about one token is given for every other token with its hash. `hits_sound_iff_distinct` says for
which tokens no answer goes astray.

The sections of a call between two waits are separate steps, and each reads the clock for
itself, so that the steps of several calls come in any order.
-/

namespace CodexPool

/-! ## The two maps -/

/-- A reading of the monotonic clock in nanoseconds. Its seconds are a signed 64-bit word. -/
abbrev Instant := Nat

namespace Instant

def nanosPerSec : Nat := 1000000000

def limit : Instant := 9223372036854775808 * nanosPerSec

def after (now : Instant) (secs : Nat) : Instant := now + nanosPerSec * secs

def checkedAdd (now : Instant) (secs : Nat) : Option Instant :=
  if now.after secs < limit then some (now.after secs) else none

end Instant

/-- The hasher of the standard library. A text is followed by a byte that no text contains. -/
def defaultHasher (s : String) : UInt64 :=
  SipHash.sipHash 1 3 0 0 (s.toUTF8.toList ++ [0xff])

def hashApiKeyToken (token : String) : String :=
  String.ofList (Nat.toDigits 16 (defaultHasher token).toNat)

structure ApiKeyGroupStatus where
  id : Uuid
  name : String
  invalid : Bool

structure ValidateApiKeyResponse where
  tenantId : Uuid
  apiKeyId : Uuid
  enabled : Bool
  group : ApiKeyGroupStatus
  ipAllowlist : List String
  modelAllowlist : List String
  tenantStatus : Option String
  tenantExpiresAt : Option DateTime
  balanceMicrocredits : Option Int
  cacheTtlSec : Nat

def ValidateApiKeyResponse.toApiPrincipal (payload : ValidateApiKeyResponse) (token : String) :
    ApiPrincipal where
  token := token
  tenantId := some payload.tenantId
  apiKeyId := some payload.apiKeyId
  apiKeyGroupId := some payload.group.id
  apiKeyGroupName := some payload.group.name
  apiKeyGroupInvalid := payload.group.invalid
  enabled := payload.enabled
  keyIpAllowlist := payload.ipAllowlist
  keyModelAllowlist := payload.modelAllowlist
  tenantStatus := payload.tenantStatus
  tenantExpiresAt := payload.tenantExpiresAt
  balanceMicrocredits := payload.balanceMicrocredits

/-- What a map holds under a key. -/
structure Cached (α : Type) where
  key : String
  value : α
  expiresAt : Instant

abbrev CacheMap (α : Type) := List (Cached α)

namespace CacheMap

variable {α : Type}

def get (m : CacheMap α) (key : String) : Option (Cached α) := Keyed.lookupBy Cached.key m key

def insert (m : CacheMap α) (c : Cached α) : CacheMap α := Keyed.upsertBy Cached.key c m

def remove (m : CacheMap α) (key : String) : CacheMap α := Keyed.deleteBy Cached.key key m

/-- The entry under the key, unless it has expired. -/
def unexpired (m : CacheMap α) (key : String) (now : Instant) : Option (Cached α) :=
  (m.get key).filter fun c => now < c.expiresAt

def dropExpired (m : CacheMap α) (key : String) (now : Instant) : CacheMap α :=
  if (m.get key).any fun c => c.expiresAt ≤ now then m.remove key else m

def retainUnexpired (m : CacheMap α) (now : Instant) : CacheMap α :=
  m.filter fun c => now < c.expiresAt

end CacheMap

/-- The durations are in seconds. -/
structure AuthValidatorConfig where
  defaultCacheTtl : Nat
  defaultNegativeCacheTtl : Nat

def AuthValidatorConfig.new (defaultCacheTtlSec defaultNegativeCacheTtlSec : Nat) :
    AuthValidatorConfig :=
  ⟨max defaultCacheTtlSec 1, defaultNegativeCacheTtlSec⟩

structure AuthCaches where
  cache : CacheMap ApiPrincipal
  negativeCache : CacheMap Unit

namespace AuthCaches

def cachedPrincipal (s : AuthCaches) (cacheKey : String) (now : Instant) : Option ApiPrincipal :=
  (s.cache.unexpired cacheKey now).map Cached.value

def isCachedUnauthorized (s : AuthCaches) (cacheKey : String) (now : Instant) : Bool :=
  (s.negativeCache.unexpired cacheKey now).isSome

def cacheTtl (config : AuthValidatorConfig) (cacheTtlSec : Nat) : Nat :=
  if cacheTtlSec = 0 then config.defaultCacheTtl else cacheTtlSec

/-- A duration that takes the clock past its range ends the call before it stores. -/
def insertCache (config : AuthValidatorConfig) (s : AuthCaches) (cacheKey : String)
    (principal : ApiPrincipal) (cacheTtlSec : Nat) (now : Instant) : AuthCaches :=
  match now.checkedAdd (cacheTtl config cacheTtlSec) with
  | some expiresAt => { s with cache := s.cache.insert ⟨cacheKey, principal, expiresAt⟩ }
  | none => s

def insertNegativeCache (config : AuthValidatorConfig) (s : AuthCaches) (cacheKey : String)
    (now : Instant) : AuthCaches :=
  if config.defaultNegativeCacheTtl = 0 then s
  else match now.checkedAdd config.defaultNegativeCacheTtl with
    | some expiresAt => { s with negativeCache := s.negativeCache.insert ⟨cacheKey, (), expiresAt⟩ }
    | none => s

def cachedPrincipalTotal (s : AuthCaches) (now : Instant) : Nat × AuthCaches :=
  let cache := s.cache.retainUnexpired now
  (cache.length, { s with cache })

def cachedNegativeTotal (s : AuthCaches) (now : Instant) : Nat × AuthCaches :=
  let negativeCache := s.negativeCache.retainUnexpired now
  (negativeCache.length, { s with negativeCache })

def clearCache (s : AuthCaches) : Nat × AuthCaches := (s.cache.length, ⟨[], []⟩)

structure EvictResult where
  positiveEvicted : Bool
  negativeEvicted : Bool

/-- The lock of the first map is held to the end, so the two maps change as one. -/
def evictToken (s : AuthCaches) (token : String) (now : Instant) : EvictResult × AuthCaches :=
  let cacheKey := hashApiKeyToken token
  let cache := s.cache.dropExpired cacheKey now
  let negativeCache := s.negativeCache.dropExpired cacheKey now
  (⟨(cache.get cacheKey).isSome, (negativeCache.get cacheKey).isSome⟩,
    ⟨cache.remove cacheKey, negativeCache.remove cacheKey⟩)

end AuthCaches

/-! ## The calls -/

inductive CachedAnswer where
  | positiveHit (principal : ApiPrincipal)
  | negativeHit
  | miss

/-- The section of a call that comes next. A section that drops what has expired keeps the
reading of the clock of the one before it. -/
inductive AuthPhase where
  | cached
  | dropCached (now : Instant)
  | unauthorized
  | dropUnauthorized (now : Instant)
  | remote

/-- A call of `validate` asks the remote endpoint where `lookup_cached_token` gives up. -/
structure AuthCall where
  token : String
  validates : Bool
  phase : AuthPhase

inductive AuthProgress where
  | answered (answer : CachedAnswer)
  | next (phase : AuthPhase)

def AuthCall.proceed (s : AuthCaches) (c : AuthCall) (now : Instant) : AuthProgress × AuthCaches :=
  let cacheKey := hashApiKeyToken c.token
  match c.phase with
  | .cached =>
    match s.cachedPrincipal cacheKey now with
    | some principal => (.answered (.positiveHit principal), s)
    | none => (.next (.dropCached now), s)
  | .dropCached now => (.next .unauthorized, { s with cache := s.cache.dropExpired cacheKey now })
  | .unauthorized =>
    if s.isCachedUnauthorized cacheKey now then (.answered .negativeHit, s)
    else (.next (.dropUnauthorized now), s)
  | .dropUnauthorized now =>
    (if c.validates then .next .remote else .answered .miss,
      { s with negativeCache := s.negativeCache.dropExpired cacheKey now })
  | .remote => (.next .remote, s)

/-- The answer of the remote endpoint. An answer that is no success, or that cannot be read,
has failed. -/
inductive RemoteAnswer where
  | failed
  | unauthorized
  | success (payload : ValidateApiKeyResponse)

/-- What the remote endpoint said about a token, when that was to be stored, and for how many
seconds. A refusal has no principal. -/
structure AuthRecord where
  token : String
  principal : Option ApiPrincipal
  storedAt : Instant
  ttl : Nat

namespace AuthRecord

def InTime (a : AuthRecord) (now : Instant) : Prop := now < a.storedAt.after a.ttl

/-- Nothing is stored of a refusal that is kept for no time. -/
def expiresAt (a : AuthRecord) : Option Instant :=
  if a.principal.isNone && a.ttl = 0 then none else a.storedAt.checkedAdd a.ttl

end AuthRecord

/-- The records tell what the caches were told; no step reads them. -/
structure AuthWorld where
  caches : AuthCaches
  calls : Nat → Option AuthCall
  records : List AuthRecord

inductive AuthOp where
  | call (i : Nat) (token : String) (validates : Bool)
  | proceed (i : Nat) (now : Instant)
  | respond (i : Nat) (answer : RemoteAnswer) (now : Instant)
  | abandon (i : Nat)
  | evictToken (token : String) (now : Instant)
  | clearCache
  | cachedPrincipalTotal (now : Instant)
  | cachedNegativeTotal (now : Instant)

/-- The token that an input brings into the run. -/
def AuthOp.token? : AuthOp → Option String
  | .call _ token _ => some token
  | _ => none

namespace AuthWorld

def init : AuthWorld := ⟨⟨[], []⟩, fun _ => none, []⟩

def refuse (config : AuthValidatorConfig) (w : AuthWorld) (token : String) (now : Instant) :
    AuthWorld :=
  { w with
    caches := w.caches.insertNegativeCache config (hashApiKeyToken token) now
    records := ⟨token, none, now, config.defaultNegativeCacheTtl⟩ :: w.records }

def accept (config : AuthValidatorConfig) (w : AuthWorld) (token : String)
    (payload : ValidateApiKeyResponse) (now : Instant) : AuthWorld :=
  let principal := payload.toApiPrincipal token
  { w with
    caches :=
      w.caches.insertCache config (hashApiKeyToken token) principal payload.cacheTtlSec now
    records := ⟨token, some principal, now, AuthCaches.cacheTtl config payload.cacheTtlSec⟩
      :: w.records }

def setCall (w : AuthWorld) (i : Nat) (c : Option AuthCall) : AuthWorld :=
  { w with calls := Function.update w.calls i c }

def proceed (w : AuthWorld) (i : Nat) (c : AuthCall) (now : Instant) : AuthWorld :=
  let (progress, caches) := c.proceed w.caches now
  let w := { w with caches }
  match progress with
  | .answered _ => w.setCall i none
  | .next phase => w.setCall i (some { c with phase })

/-- Only a call whose request is on its way is answered. -/
def respond (config : AuthValidatorConfig) (w : AuthWorld) (i : Nat) (answer : RemoteAnswer)
    (now : Instant) : AuthWorld :=
  match w.calls i with
  | some ⟨token, _, .remote⟩ =>
    let w := w.setCall i none
    match answer with
    | .failed => w
    | .unauthorized => w.refuse config token now
    | .success payload => w.accept config token payload now
  | _ => w

def step (config : AuthValidatorConfig) (w : AuthWorld) : AuthOp → AuthWorld
  | .call i token validates =>
    if (w.calls i).isSome then w else w.setCall i (some ⟨token, validates, .cached⟩)
  | .proceed i now =>
    match w.calls i with
    | some c => w.proceed i c now
    | none => w
  | .respond i answer now => w.respond config i answer now
  | .abandon i => w.setCall i none
  | .evictToken token now => { w with caches := (w.caches.evictToken token now).2 }
  | .clearCache => { w with caches := w.caches.clearCache.2 }
  | .cachedPrincipalTotal now => { w with caches := (w.caches.cachedPrincipalTotal now).2 }
  | .cachedNegativeTotal now => { w with caches := (w.caches.cachedNegativeTotal now).2 }

/-- The last refusal that was stored under the key. -/
def lastRefusal (w : AuthWorld) (cacheKey : String) : Option AuthRecord :=
  w.records.find? fun a =>
    a.principal.isNone && a.expiresAt.isSome && hashApiKeyToken a.token = cacheKey

/-- What an answer out of the caches about the token must rest on: a principal on what the
remote endpoint said about that same token, a refusal on a stored refusal of that same token,
either one no longer ago than it may be kept. -/
def Backed (w : AuthWorld) (token : String) (now : Instant) : CachedAnswer → Prop
  | .positiveHit principal =>
    ∃ a ∈ w.records, a.token = token ∧ a.principal = some principal ∧ a.InTime now
  | .negativeHit =>
    ∃ a, w.lastRefusal (hashApiKeyToken token) = some a ∧ a.token = token ∧ a.InTime now
  | .miss => True

def HitSound (w : AuthWorld) : AuthOp → Prop
  | .proceed i now =>
    ∀ c, w.calls i = some c → ∀ answer, (c.proceed w.caches now).1 = .answered answer →
      w.Backed c.token now answer
  | _ => True

/-- Whether the entry that a section of the call finds is one of the call's own token. -/
def ownEntry (w : AuthWorld) (c : AuthCall) (now : Instant) : Bool :=
  let cacheKey := hashApiKeyToken c.token
  match c.phase with
  | .cached =>
    (w.caches.cache.unexpired cacheKey now).all fun e => e.value.token = c.token
  | .unauthorized =>
    !(w.caches.isCachedUnauthorized cacheKey now) ||
      (w.lastRefusal cacheKey).all fun a => a.token = c.token
  | _ => true

def findsOwn (w : AuthWorld) : AuthOp → Bool
  | .proceed i now => (w.calls i).all fun c => w.ownEntry c now
  | _ => true

end AuthWorld

/-! ## What the entries rest on -/

namespace CacheMap

variable {α : Type} {m : CacheMap α} {R R' : Cached α → Prop}

/-- Each key has one entry, and all entries have the property. -/
structure Holds (m : CacheMap α) (R : Cached α → Prop) : Prop where
  nodup : (m.map Cached.key).Nodup
  all : ∀ e ∈ m, R e

theorem holds_nil (R : Cached α → Prop) : Holds [] R :=
  ⟨List.nodup_nil, fun _ he => absurd he List.not_mem_nil⟩

theorem Holds.mono (h : m.Holds R) (hR : ∀ e, R e → R' e) : m.Holds R' :=
  ⟨h.nodup, fun e he => hR e (h.all e he)⟩

theorem Holds.insert (h : m.Holds R) {c : Cached α} (hc : R' c)
    (hR : ∀ e, e.key ≠ c.key → R e → R' e) : (m.insert c).Holds R' := by
  constructor
  · exact Keyed.nodup_upsertBy h.nodup c
  · intro e he
    rcases (Keyed.mem_upsertBy h.nodup).1 he with rfl | ⟨he, hne⟩
    · exact hc
    · exact hR e hne (h.all e he)

theorem Holds.filter (h : m.Holds R) (p : Cached α → Bool) : Holds (List.filter p m) R :=
  ⟨h.nodup.sublist (List.filter_sublist.map Cached.key),
    fun e he => h.all e (List.mem_filter.1 he).1⟩

theorem Holds.dropExpired (h : m.Holds R) (key : String) (now : Instant) :
    (m.dropExpired key now).Holds R := by
  unfold CacheMap.dropExpired
  split
  · exact h.filter _
  · exact h

theorem Holds.of_unexpired (h : m.Holds R) {key : String} {now : Instant} {e : Cached α}
    (he : m.unexpired key now = some e) : e.key = key ∧ now < e.expiresAt ∧ R e := by
  rcases Option.filter_eq_some_iff.1 he with ⟨hget, hnow⟩
  have hmem : e ∈ m := List.mem_of_find?_eq_some hget
  exact ⟨Keyed.key_of_lookupBy hget, of_decide_eq_true hnow, h.all e hmem⟩

end CacheMap

theorem AuthRecord.expiresAt_of_principal {a : AuthRecord} {principal : ApiPrincipal}
    (h : a.principal = some principal) : a.expiresAt = a.storedAt.checkedAdd a.ttl := by
  rw [AuthRecord.expiresAt, h]
  exact if_neg Bool.false_ne_true

theorem AuthRecord.inTime_of_expiresAt {a : AuthRecord} {expiresAt now : Instant}
    (h : a.expiresAt = some expiresAt) (hnow : now < expiresAt) : a.InTime now := by
  have hadd : a.storedAt.checkedAdd a.ttl = some expiresAt := by
    unfold AuthRecord.expiresAt at h
    split at h
    · cases h
    · exact h
  rw [Instant.checkedAdd, Option.ite_none_right_eq_some] at hadd
  rw [AuthRecord.InTime, Option.some.inj hadd.2]
  exact hnow

namespace AuthCaches

variable {config : AuthValidatorConfig} {s : AuthCaches} {cacheKey : String} {now : Instant}

theorem insertCache_of_none {principal : ApiPrincipal} {cacheTtlSec : Nat}
    (h : now.checkedAdd (cacheTtl config cacheTtlSec) = none) :
    s.insertCache config cacheKey principal cacheTtlSec now = s := by
  rw [insertCache, h]

theorem insertCache_of_some {principal : ApiPrincipal} {cacheTtlSec : Nat} {expiresAt : Instant}
    (h : now.checkedAdd (cacheTtl config cacheTtlSec) = some expiresAt) :
    s.insertCache config cacheKey principal cacheTtlSec now =
      { s with cache := s.cache.insert ⟨cacheKey, principal, expiresAt⟩ } := by
  rw [insertCache, h]

theorem insertNegativeCache_eq (token : String) (now : Instant) :
    s.insertNegativeCache config cacheKey now =
      match (⟨token, none, now, config.defaultNegativeCacheTtl⟩ : AuthRecord).expiresAt with
      | some expiresAt =>
        { s with negativeCache := s.negativeCache.insert ⟨cacheKey, (), expiresAt⟩ }
      | none => s := by
  unfold insertNegativeCache AuthRecord.expiresAt
  by_cases h : config.defaultNegativeCacheTtl = 0
  · simp [h]
  · simp only [h, if_false, Option.isNone_none, decide_false, Bool.and_false, Bool.false_eq_true]

end AuthCaches

namespace AuthWorld

variable {config : AuthValidatorConfig} {w : AuthWorld}

def RestsOnAnswer (records : List AuthRecord) (e : Cached ApiPrincipal) : Prop :=
  ∃ a ∈ records, a.principal = some e.value ∧ hashApiKeyToken a.token = e.key ∧
    a.expiresAt = some e.expiresAt

def RestsOnRefusal (w : AuthWorld) (e : Cached Unit) : Prop :=
  ∃ a, w.lastRefusal e.key = some a ∧ a.expiresAt = some e.expiresAt

/-- Every entry rests on a record, and a recorded principal carries the token it was asked
for. -/
structure Recorded (w : AuthWorld) : Prop where
  positive : w.caches.cache.Holds (RestsOnAnswer w.records)
  negative : w.caches.negativeCache.Holds w.RestsOnRefusal
  carries : ∀ a ∈ w.records, ∀ principal, a.principal = some principal → principal.token = a.token

theorem recorded_init : init.Recorded :=
  ⟨CacheMap.holds_nil _, CacheMap.holds_nil _, fun _ ha => absurd ha List.not_mem_nil⟩

theorem Recorded.of_caches (h : w.Recorded) {caches : AuthCaches}
    (hpositive : caches.cache.Holds (RestsOnAnswer w.records))
    (hnegative : caches.negativeCache.Holds w.RestsOnRefusal) :
    ({ w with caches } : AuthWorld).Recorded :=
  ⟨hpositive, hnegative, h.carries⟩

theorem Recorded.setCall (h : w.Recorded) (i : Nat) (c : Option AuthCall) :
    (w.setCall i c).Recorded :=
  ⟨h.positive, h.negative, h.carries⟩

theorem Recorded.proceed (h : w.Recorded) (i : Nat) (c : AuthCall) (now : Instant) :
    (w.proceed i c now).Recorded := by
  have hcaches : ({ w with caches := (c.proceed w.caches now).2 } : AuthWorld).Recorded := by
    unfold AuthCall.proceed
    cases c.phase with
    | cached =>
      dsimp only
      split
      · exact h
      · exact h
    | dropCached now => exact h.of_caches (h.positive.dropExpired _ now) h.negative
    | unauthorized =>
      dsimp only
      split
      · exact h
      · exact h
    | dropUnauthorized now => exact h.of_caches h.positive (h.negative.dropExpired _ now)
    | remote => exact h
  unfold AuthWorld.proceed
  dsimp only
  split
  · exact hcaches.setCall i none
  · exact hcaches.setCall i _

theorem RestsOnAnswer.cons {records : List AuthRecord} (a : AuthRecord)
    {e : Cached ApiPrincipal} (h : RestsOnAnswer records e) : RestsOnAnswer (a :: records) e := by
  rcases h with ⟨b, hb, hrest⟩
  exact ⟨b, List.mem_cons_of_mem a hb, hrest⟩

theorem Recorded.accept (h : w.Recorded) (token : String) (payload : ValidateApiKeyResponse)
    (now : Instant) : (w.accept config token payload now).Recorded := by
  have hcarries : ∀ a ∈ (w.accept config token payload now).records, ∀ principal,
      a.principal = some principal → principal.token = a.token := by
    intro a ha principal hprincipal
    rcases List.mem_cons.1 ha with rfl | ha
    · cases hprincipal
      rfl
    · exact h.carries a ha principal hprincipal
  have hnegative :
      w.caches.negativeCache.Holds (w.accept config token payload now).RestsOnRefusal :=
    h.negative.mono fun e he => he
  have hpositive :
      w.caches.cache.Holds (RestsOnAnswer (w.accept config token payload now).records) :=
    h.positive.mono fun e he => he.cons _
  cases hadd : now.checkedAdd (AuthCaches.cacheTtl config payload.cacheTtlSec) with
  | none =>
    have heq : (w.accept config token payload now).caches = w.caches :=
      AuthCaches.insertCache_of_none hadd
    refine ⟨?_, ?_, hcarries⟩
    · rw [heq]
      exact hpositive
    · rw [heq]
      exact hnegative
  | some expiresAt =>
    have heq : (w.accept config token payload now).caches = _ :=
      AuthCaches.insertCache_of_some hadd
    refine ⟨?_, ?_, hcarries⟩
    · rw [heq]
      apply hpositive.insert
      · refine ⟨_, List.mem_cons_self, rfl, rfl, ?_⟩
        rw [AuthRecord.expiresAt_of_principal rfl]
        exact hadd
      · exact fun e _ he => he
    · rw [heq]
      exact hnegative

theorem lastRefusal_cons (w : AuthWorld) (a : AuthRecord) (cacheKey : String) :
    ({ w with records := a :: w.records } : AuthWorld).lastRefusal cacheKey =
      if a.principal.isNone && a.expiresAt.isSome && hashApiKeyToken a.token = cacheKey then some a
      else w.lastRefusal cacheKey := by
  unfold lastRefusal
  rw [List.find?_cons]
  split
  next h => rw [if_pos h]
  next h => rw [if_neg (Bool.eq_false_iff.1 h)]

theorem Recorded.refuse (h : w.Recorded) (token : String) (now : Instant) :
    (w.refuse config token now).Recorded := by
  have hcarries : ∀ a ∈ (w.refuse config token now).records, ∀ principal,
      a.principal = some principal → principal.token = a.token := by
    intro a ha principal hprincipal
    rcases List.mem_cons.1 ha with rfl | ha
    · cases hprincipal
    · exact h.carries a ha principal hprincipal
  have hpositive : w.caches.cache.Holds (RestsOnAnswer (w.refuse config token now).records) :=
    h.positive.mono fun e he => he.cons _
  have hcaches : (w.refuse config token now).caches = _ :=
    AuthCaches.insertNegativeCache_eq token now
  have hrefusal (cacheKey : String) : (w.refuse config token now).lastRefusal cacheKey = _ :=
    lastRefusal_cons w _ cacheKey
  cases hexpires : (⟨token, none, now, config.defaultNegativeCacheTtl⟩ : AuthRecord).expiresAt with
  | none =>
    rw [hexpires] at hcaches
    simp only [hexpires, Option.isSome_none, Bool.and_false, Bool.false_and,
      Bool.false_eq_true, if_false] at hrefusal
    refine ⟨?_, ?_, hcarries⟩
    · rw [hcaches]
      exact hpositive
    · rw [hcaches]
      refine h.negative.mono fun e he => ?_
      rw [RestsOnRefusal, hrefusal]
      exact he
  | some expiresAt =>
    rw [hexpires] at hcaches
    simp only [hexpires, Option.isNone_none, Option.isSome_some, Bool.true_and,
      decide_eq_true_eq] at hrefusal
    refine ⟨?_, ?_, hcarries⟩
    · rw [hcaches]
      exact hpositive
    · rw [hcaches]
      apply h.negative.insert
      · exact ⟨_, (hrefusal _).trans (if_pos rfl), hexpires⟩
      · intro e hne he
        rw [RestsOnRefusal, hrefusal, if_neg (Ne.symm hne)]
        exact he

theorem Recorded.respond (h : w.Recorded) (i : Nat) (answer : RemoteAnswer) (now : Instant) :
    (w.respond config i answer now).Recorded := by
  unfold AuthWorld.respond
  split
  · have hdone := h.setCall i none
    cases answer with
    | failed => exact hdone
    | unauthorized => exact hdone.refuse _ now
    | success payload => exact hdone.accept _ payload now
  · exact h

theorem Recorded.step (h : w.Recorded) (op : AuthOp) : (step config w op).Recorded := by
  cases op with
  | call i token validates =>
    dsimp only [AuthWorld.step]
    split
    · exact h
    · exact h.setCall i _
  | proceed i now =>
    dsimp only [AuthWorld.step]
    split
    · exact h.proceed i _ now
    · exact h
  | respond i answer now => exact h.respond i answer now
  | abandon i => exact h.setCall i none
  | evictToken token now =>
    apply h.of_caches
    · exact (h.positive.dropExpired _ now).filter _
    · exact (h.negative.dropExpired _ now).filter _
  | clearCache => exact h.of_caches (CacheMap.holds_nil _) (CacheMap.holds_nil _)
  | cachedPrincipalTotal now => exact h.of_caches (h.positive.filter _) h.negative
  | cachedNegativeTotal now => exact h.of_caches h.positive (h.negative.filter _)

/-! ## Answers about another token -/

theorem Recorded.backed_positive_iff (h : w.Recorded) {token : String} {now : Instant}
    {e : Cached ApiPrincipal}
    (he : w.caches.cache.unexpired (hashApiKeyToken token) now = some e) :
    w.Backed token now (.positiveHit e.value) ↔ e.value.token = token := by
  rcases h.positive.of_unexpired he with ⟨-, hnow, a, ha, hprincipal, -, hexpires⟩
  constructor
  · rintro ⟨b, hb, rfl, hvalue, -⟩
    exact h.carries b hb e.value hvalue
  · rintro rfl
    exact ⟨a, ha, (h.carries a ha e.value hprincipal).symm, hprincipal,
      AuthRecord.inTime_of_expiresAt hexpires hnow⟩

theorem Recorded.backed_negative_iff (h : w.Recorded) {token : String} {now : Instant}
    (he : w.caches.isCachedUnauthorized (hashApiKeyToken token) now = true) :
    w.Backed token now .negativeHit ↔
      (w.lastRefusal (hashApiKeyToken token)).all (fun a => a.token = token) = true := by
  rcases Option.isSome_iff_exists.1 he with ⟨e, he⟩
  rcases h.negative.of_unexpired he with ⟨hkey, hnow, a, ha, hexpires⟩
  rw [hkey] at ha
  rw [ha, Option.all_some, decide_eq_true_eq]
  constructor
  · rintro ⟨b, hb, htoken, -⟩
    rw [ha] at hb
    cases hb
    exact htoken
  · intro htoken
    exact ⟨a, ha, htoken, AuthRecord.inTime_of_expiresAt hexpires hnow⟩

theorem Recorded.answer_backed_iff (h : w.Recorded) (c : AuthCall) (now : Instant) :
    (∀ answer, (c.proceed w.caches now).1 = .answered answer → w.Backed c.token now answer) ↔
      w.ownEntry c now = true := by
  unfold AuthCall.proceed ownEntry
  cases c.phase with
  | cached =>
    dsimp only [AuthCaches.cachedPrincipal]
    cases he : w.caches.cache.unexpired (hashApiKeyToken c.token) now with
    | none => simp
    | some e => simpa using h.backed_positive_iff he
  | dropCached now => simp
  | unauthorized =>
    cases he : w.caches.isCachedUnauthorized (hashApiKeyToken c.token) now with
    | false => simp [he]
    | true => simpa [he] using h.backed_negative_iff he
  | dropUnauthorized now' =>
    cases c.validates with
    | false => simp [Backed]
    | true => simp
  | remote => simp

theorem Recorded.hitSound_iff (h : w.Recorded) (op : AuthOp) :
    w.HitSound op ↔ w.findsOwn op = true := by
  cases op with
  | proceed i now =>
    unfold HitSound findsOwn
    dsimp only
    cases w.calls i with
    | none => simp
    | some c => simpa using h.answer_backed_iff c now
  | _ => simp [HitSound, findsOwn]

/-- All tokens that are asked about are among the given ones. -/
structure AsksAbout (T : String → Prop) (w : AuthWorld) : Prop where
  calls : ∀ i c, w.calls i = some c → T c.token
  records : ∀ a ∈ w.records, T a.token

variable {T : String → Prop}

theorem AsksAbout.setCall (h : w.AsksAbout T) (i : Nat) {c : Option AuthCall}
    (hc : ∀ c', c = some c' → T c'.token) : (w.setCall i c).AsksAbout T := by
  refine ⟨fun j c' hj => ?_, h.records⟩
  change Function.update w.calls i c j = some c' at hj
  by_cases hij : j = i
  · rw [hij, Function.update_self] at hj
    exact hc c' hj
  · rw [Function.update_of_ne hij] at hj
    exact h.calls j c' hj

theorem AsksAbout.cons (h : w.AsksAbout T) {a : AuthRecord} (ha : T a.token)
    (caches : AuthCaches) : AsksAbout T ⟨caches, w.calls, a :: w.records⟩ :=
  ⟨h.calls, List.forall_mem_cons.2 ⟨ha, h.records⟩⟩

theorem AsksAbout.proceed (h : w.AsksAbout T) {i : Nat} {c : AuthCall} (hc : w.calls i = some c)
    (now : Instant) : (w.proceed i c now).AsksAbout T := by
  have hcaches : AsksAbout T { w with caches := (c.proceed w.caches now).2 } :=
    ⟨h.calls, h.records⟩
  unfold AuthWorld.proceed
  dsimp only
  split
  · exact hcaches.setCall i nofun
  · apply hcaches.setCall i
    rintro c' ⟨⟩
    exact h.calls i c hc

theorem AsksAbout.respond (h : w.AsksAbout T) (i : Nat) (answer : RemoteAnswer) (now : Instant) :
    (w.respond config i answer now).AsksAbout T := by
  unfold AuthWorld.respond
  split
  next token validates hcall =>
    have htoken : T token := h.calls i _ hcall
    have hdone : (w.setCall i none).AsksAbout T := h.setCall i nofun
    cases answer with
    | failed => exact hdone
    | unauthorized => exact hdone.cons htoken _
    | success payload => exact hdone.cons htoken _
  next => exact h

theorem AsksAbout.step (h : w.AsksAbout T) {op : AuthOp} (hop : ∀ t, op.token? = some t → T t) :
    (step config w op).AsksAbout T := by
  cases op with
  | call i token validates =>
    dsimp only [AuthWorld.step]
    split
    · exact h
    · apply h.setCall i
      rintro c' ⟨⟩
      exact hop token rfl
  | proceed i now =>
    dsimp only [AuthWorld.step]
    split
    next c hc => exact h.proceed hc now
    next => exact h
  | respond i answer now => exact h.respond i answer now
  | abandon i => exact h.setCall i nofun
  | _ => exact ⟨h.calls, h.records⟩

theorem AsksAbout.findsOwn (h : w.AsksAbout T) (hrec : w.Recorded)
    (hdistinct : ∀ t t', T t → T t' → hashApiKeyToken t = hashApiKeyToken t' → t = t')
    (op : AuthOp) : w.findsOwn op = true := by
  cases op with
  | proceed i now =>
    unfold AuthWorld.findsOwn
    rw [Option.all_eq_true]
    intro c hc
    have hown (a : AuthRecord) (ha : a ∈ w.records)
        (hkey : hashApiKeyToken a.token = hashApiKeyToken c.token) : a.token = c.token :=
      hdistinct _ _ (h.records a ha) (h.calls i c hc) hkey
    unfold ownEntry
    cases c.phase with
    | cached =>
      dsimp only
      rw [Option.all_eq_true]
      intro e he
      rcases hrec.positive.of_unexpired he with ⟨hkey, -, a, ha, hprincipal, hhash, -⟩
      rw [hrec.carries a ha _ hprincipal, decide_eq_true_eq]
      exact hown a ha (hhash.trans hkey)
    | unauthorized =>
      dsimp only
      rw [Bool.or_eq_true, Option.all_eq_true]
      refine .inr fun a ha => ?_
      have hfound := List.find?_some ha
      rw [Bool.and_eq_true, decide_eq_true_eq] at hfound
      exact decide_eq_true (hown a (List.mem_of_find?_eq_some ha) hfound.2)
    | _ => rfl
  | _ => rfl

/-- No answer goes astray in a run whose tokens are among tokens with different hashes. -/
theorem hitSound_of_distinct (config : AuthValidatorConfig)
    (hdistinct : ∀ t t', T t → T t' → hashApiKeyToken t = hashApiKeyToken t' → t = t')
    {ops : List AuthOp} (hops : ∀ op ∈ ops, ∀ t, op.token? = some t → T t) :
    Machine.Along (step config) HitSound init ops := by
  have hgiven : Machine.Along (step config) (fun _ op => ∀ t, op.token? = some t → T t) init ops :=
    Machine.along_of_forall hops init
  have hinit : AsksAbout T init := ⟨nofun, fun _ ha => absurd ha List.not_mem_nil⟩
  have hall : Machine.Along (step config) (fun _ _ => True) init ops :=
    Machine.along_of_forall (fun _ _ => trivial) init
  refine Machine.Along.of_invariant (P := fun w => w.Recorded ∧ w.AsksAbout T) ?_ hgiven hall
    ⟨recorded_init, hinit⟩
  intro w op hw hop _
  refine ⟨⟨hw.1.step op, hw.2.step hop⟩, ?_⟩
  exact (hw.1.hitSound_iff op).2 (hw.2.findsOwn hw.1 hdistinct op)

/-- So no answer goes astray in a run whose tokens have different hashes. -/
theorem hits_sound_of_distinct (config : AuthValidatorConfig) {ops : List AuthOp}
    (hdistinct : ∀ op ∈ ops, ∀ op' ∈ ops, ∀ t t', op.token? = some t → op'.token? = some t' →
      hashApiKeyToken t = hashApiKeyToken t' → t = t') :
    Machine.Along (step config) HitSound init ops := by
  apply hitSound_of_distinct (T := fun t => ∃ op ∈ ops, op.token? = some t) config
  · rintro t t' ⟨op, hop, htoken⟩ ⟨op', hop', htoken'⟩ hkey
    exact hdistinct op hop op' hop' t t' htoken htoken' hkey
  · exact fun op hop t ht => ⟨op, hop, ht⟩

/-! ## Two tokens with one hash -/

def samplePayload : ValidateApiKeyResponse where
  tenantId := ⟨"tenant"⟩
  apiKeyId := ⟨"key"⟩
  enabled := true
  group := ⟨⟨"group"⟩, "default", false⟩
  ipAllowlist := []
  modelAllowlist := []
  tenantStatus := some "active"
  tenantExpiresAt := none
  balanceMicrocredits := none
  cacheTtlSec := 30

/-- A token is accepted, and another one is looked up right after. -/
def crossedRun (token token' : String) : List AuthOp :=
  [.call 0 token true, .proceed 0 5, .proceed 0 5, .proceed 0 5, .proceed 0 5,
    .respond 0 (.success samplePayload) 9, .call 1 token' true, .proceed 1 20]

/-- The second token is answered with the principal of the first when they have one hash. -/
theorem crossedRun_not_sound (config : AuthValidatorConfig) {token token' : String}
    (hkey : hashApiKeyToken token = hashApiKeyToken token') (hne : token ≠ token') :
    ¬ Machine.Along (step config) HitSound init (crossedRun token token') := by
  intro h
  have hlast := h.2.2.2.2.2.2.2.1
  have hanswer : (AuthCall.proceed
      ⟨[⟨hashApiKeyToken token, samplePayload.toApiPrincipal token, Instant.after 9 30⟩], []⟩
      ⟨token', true, .cached⟩ 20).1 =
        .answered (.positiveHit (samplePayload.toApiPrincipal token)) := by
    have hlive : 20 < Instant.after 9 30 := by decide
    simp [AuthCall.proceed, AuthCaches.cachedPrincipal, CacheMap.unexpired, CacheMap.get,
      Keyed.lookupBy_cons, hkey, Option.filter_some, hlive]
  obtain ⟨a, ha, htoken, -⟩ := hlast ⟨token', true, .cached⟩ rfl _ hanswer
  obtain rfl := List.mem_singleton.1 ha
  exact hne htoken

/-- No run that validates tokens of a set gives an answer astray if and only if no two of them
have one hash. -/
theorem hits_sound_iff_distinct (config : AuthValidatorConfig) (T : String → Prop) :
    (∀ ops : List AuthOp, (∀ op ∈ ops, ∀ t, op.token? = some t → T t) →
        Machine.Along (step config) HitSound init ops) ↔
      ∀ t t', T t → T t' → hashApiKeyToken t = hashApiKeyToken t' → t = t' := by
  constructor
  · intro hsound t t' ht ht' hkey
    by_contra hne
    refine crossedRun_not_sound config hkey hne (hsound _ ?_)
    simp [crossedRun, AuthOp.token?, ht, ht']
  · exact fun hdistinct ops => hitSound_of_distinct config hdistinct

/-- Two requests of one key holder, whose tokens have one hash. The second one is answered with
the principal of the first. -/
def collidingTokens : String × String :=
  ("cp_b1a3de9c6f9f4ea18d00000000000000", "cp_7705e9faac2e46788400000000000000")

def collidingRun : List AuthOp := crossedRun collidingTokens.1 collidingTokens.2

/-- The token of the first request and one with another hash. -/
theorem hits_sound_otherHash : Machine.Along (step (.new 30 30)) HitSound init
    (collidingRun.take 6 ++ [AuthOp.call 1 "cp_b1a3" true, .proceed 1 20]) := by
  have hne : hashApiKeyToken collidingTokens.1 ≠ hashApiKeyToken "cp_b1a3" := by decide +kernel
  have htoken : ∀ op ∈ collidingRun.take 6 ++ [AuthOp.call 1 "cp_b1a3" true, .proceed 1 20],
      ∀ t, op.token? = some t → t = collidingTokens.1 ∨ t = "cp_b1a3" := by
    simp [collidingRun, crossedRun, AuthOp.token?, eq_comm]
  apply hits_sound_of_distinct
  intro op hop op' hop' t t' ht ht' heq
  rcases htoken op hop t ht with rfl | rfl <;> rcases htoken op' hop' t' ht' with rfl | rfl
  · rfl
  · exact absurd heq hne
  · exact absurd heq.symm hne
  · rfl

example : defaultHasher collidingTokens.1 = 0x7ff36c4b0bc40bcc := by decide +kernel

theorem other_token_answers :
    ¬ Machine.Along (step (.new 30 30)) HitSound init collidingRun :=
  crossedRun_not_sound _ (by decide +kernel) (by decide +kernel)

end AuthWorld

end CodexPool
