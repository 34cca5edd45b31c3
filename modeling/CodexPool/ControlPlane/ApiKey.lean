import CodexPool.Basic
import CodexPool.Lib.Bytes
import CodexPool.Lib.Json
import CodexPool.Lib.Keyed
import CodexPool.Lib.Machine
import CodexPool.Lib.Text
import Mathlib.Data.List.Sort

/-!
# API keys

The hashes that are kept of API keys, the tables they are kept in, and the operations on
them: a key is created, its token is validated, and the process is started again with other
HMAC keys. A validation that finds a token under an older hash puts the current one in its
place.
-/

namespace CodexPool

/-! ## Hashes of tokens -/

/-- What is taken from the libraries for hashes and encodings. -/
structure ApiKeyCrypto where
  hmacSha256 : Bytes → Bytes → Bytes
  sha256 : Bytes → Bytes
  decodeBase64 : String → Option Bytes

/-- Digests of different messages differ, also under different keys. -/
structure ApiKeyCrypto.Injective (crypto : ApiKeyCrypto) : Prop where
  hmac : ∀ k k' m m', crypto.hmacSha256 k m = crypto.hmacSha256 k' m' → m = m'
  sha : ∀ m m', crypto.sha256 m = crypto.sha256 m' → m = m'

structure ApiKeyHmacKey where
  keyId : String
  secret : Bytes
deriving DecidableEq

/-- The first of the configured keys is the active one. -/
structure ApiKeyTokenHasher where
  active : ApiKeyHmacKey
  all : List ApiKeyHmacKey
  head_eq : all.head? = some active

def apiKeyHmacAlgo : String := "hmac-sha256"

def asBytes (token : String) : Bytes := token.toUTF8.data.toList

variable (crypto : ApiKeyCrypto)

namespace ApiKeyTokenHasher

def isKeyIdChar (c : Char) : Bool := c.isAlphanum || c = '-' || c = '_'

/-- One entry `kid:base64_secret` of the configuration. -/
def parseKey (item : String) : Result ApiKeyHmacKey :=
  match item.toList.span (· ≠ ':') with
  | (_, []) => .error ("invalid api-key hmac key entry: " ++ item)
  | (kid, _ :: secretB64) =>
    let keyId := Text.trim (String.ofList kid)
    if keyId = "" then .error "api-key hmac key id must not be empty"
    else if !keyId.toList.all isKeyIdChar then
      .error ("api-key hmac key id contains invalid characters: " ++ keyId)
    else
      match crypto.decodeBase64 (Text.trim (String.ofList secretB64)) with
      | none => .error ("failed to decode base64 secret for key id " ++ keyId)
      | some secret =>
        if secret.length < 32 then
          .error ("api-key hmac secret for key id " ++ keyId ++ " must be at least 32 bytes")
        else .ok { keyId, secret }

def fromRawKeys (raw : String) : Result ApiKeyTokenHasher :=
  let items := ((raw.toList.splitOn ',').map fun item => Text.trim (String.ofList item)).filter
    (· ≠ "")
  match items.mapM (parseKey crypto) with
  | .error e => .error e
  | .ok [] => .error "CONTROL_PLANE_API_KEY_HMAC_KEYS must contain at least one key"
  | .ok (key :: keys) => .ok { active := key, all := key :: keys, head_eq := rfl }

def hashWithKey (key : ApiKeyHmacKey) (token : String) : String :=
  apiKeyHmacAlgo ++ ":" ++ key.keyId ++ ":" ++
    Bytes.hexEncode (crypto.hmacSha256 key.secret (asBytes token))

def hashActive (hasher : ApiKeyTokenHasher) (token : String) : String :=
  hashWithKey crypto hasher.active token

def legacySha256HashApiKeyToken (token : String) : String :=
  Bytes.hexEncode (crypto.sha256 (asBytes token))

def candidates (hasher : ApiKeyTokenHasher) (token : String) : List String :=
  let values := hasher.all.map fun key => hashWithKey crypto key token
  let legacySha256 := legacySha256HashApiKeyToken crypto token
  let values := if legacySha256 ∈ values then values else values ++ [legacySha256]
  if token ∈ values then values else values ++ [token]

theorem mem_candidates {hasher : ApiKeyTokenHasher} {token value : String} :
    value ∈ hasher.candidates crypto token ↔
      (∃ key ∈ hasher.all, value = hashWithKey crypto key token) ∨
        value = legacySha256HashApiKeyToken crypto token ∨ value = token := by
  have hadd : ∀ (values : List String) (x : String),
      value ∈ (if x ∈ values then values else values ++ [x]) ↔ value ∈ values ∨ value = x := by
    intro values x
    by_cases hx : x ∈ values
    · rw [if_pos hx, iff_self_or]
      exact fun h => h ▸ hx
    · simp [if_neg hx]
  rw [candidates, hadd, hadd, List.mem_map, or_assoc]
  simp only [eq_comm]

theorem active_mem (hasher : ApiKeyTokenHasher) : hasher.active ∈ hasher.all :=
  List.mem_of_head? hasher.head_eq

end ApiKeyTokenHasher

/-! ## Tables -/

/-- A row of `api_keys`. -/
structure ApiKeyRow where
  id : Uuid
  tenantId : Uuid
  groupId : Option Uuid
  name : String
  keyPrefix : String
  keyHash : String
  enabled : Bool
  createdAt : DateTime
  ipAllowlist : Json
  modelAllowlist : Json

/-- A row of `api_key_tokens`. Both columns are unique. -/
structure ApiKeyTokenRow where
  token : String
  apiKeyId : Uuid
deriving DecidableEq

/-- A row of `api_key_groups`. -/
structure ApiKeyGroupRow where
  id : Uuid
  name : String
  isDefault : Bool
  enabled : Bool
  allowAllModels : Bool
  deletedAt : Option DateTime
  updatedAt : DateTime

structure GroupModelPolicyRow where
  groupId : Uuid
  modelId : String
  enabled : Bool

structure TenantRow where
  id : Uuid
  status : Option String
  expiresAt : Option DateTime

/-- The tables that keys are created in and validated against, with the hasher of the
running process. `issued` is not stored: it lists the plaintexts that have been handed out. -/
structure KeyDb where
  hasher : ApiKeyTokenHasher
  tenants : List TenantRow
  balances : Uuid → Option Int
  groups : List ApiKeyGroupRow
  policies : List GroupModelPolicyRow
  catalogModels : List String
  apiKeys : List ApiKeyRow
  apiKeyTokens : List ApiKeyTokenRow
  issued : List (Uuid × String)

structure CreateApiKeyRequest where
  tenantId : Uuid
  name : String

structure TenantCreateApiKeyRequest where
  name : String
  groupId : Option Uuid
  ipAllowlist : List String
  modelAllowlist : List String

/-- What is drawn for a new key: its id, and the bytes of the uuid in its plaintext. -/
structure KeyDraw where
  id : Uuid
  secret : Bytes
  now : DateTime

def KeyDraw.plaintextKey (draw : KeyDraw) : String := "cp_" ++ Bytes.hexEncode draw.secret

structure ValidatedPrincipal where
  tenantId : Uuid
  apiKeyId : Uuid
  apiKeyGroupId : Uuid
  apiKeyGroupName : String
  apiKeyGroupInvalid : Bool
  enabled : Bool
  keyIpAllowlist : List String
  keyModelAllowlist : List String
  tenantStatus : Option String
  tenantExpiresAt : Option DateTime
  balanceMicrocredits : Option Int

def normalizeStrList (items : List String) : List String :=
  (((items.map Text.trim).filter (· ≠ "")).insertionSort (· ≤ ·)).eraseReps

namespace KeyDb

/-! ## Creation -/

def group? (db : KeyDb) (id : Uuid) : Option ApiKeyGroupRow :=
  Keyed.lookupBy ApiKeyGroupRow.id db.groups id

def defaultGroup? (db : KeyDb) : Option ApiKeyGroupRow :=
  ((db.groups.filter fun g => g.isDefault && g.deletedAt.isNone).insertionSort
    fun a b => b.updatedAt ≤ a.updatedAt).head?

/-- The transaction of a creation: a row in each of the two tables, or none when an index or
a reference is violated. -/
def insertKey (db : KeyDb) (row : ApiKeyRow) (plaintextKey : String) : Option KeyDb :=
  if row.id ∈ db.apiKeys.map (·.id) ∨ row.tenantId ∉ db.tenants.map (·.id) ∨
      row.keyHash ∈ db.apiKeyTokens.map (·.token) ∨ row.id ∈ db.apiKeyTokens.map (·.apiKeyId) then
    none
  else
    some { db with
      apiKeys := db.apiKeys ++ [row]
      apiKeyTokens := db.apiKeyTokens ++ [{ token := row.keyHash, apiKeyId := row.id }]
      issued := db.issued ++ [(row.id, plaintextKey)] }

def newKey (db : KeyDb) (draw : KeyDraw) (tenantId : Uuid) (groupId : Option Uuid)
    (name : String) (ipAllowlist modelAllowlist : List String) : ApiKeyRow where
  id := draw.id
  tenantId := tenantId
  groupId := groupId
  name := name
  keyPrefix := String.ofList (draw.plaintextKey.toList.take 12)
  keyHash := db.hasher.hashActive crypto draw.plaintextKey
  enabled := true
  createdAt := draw.now
  ipAllowlist := .arr (ipAllowlist.map .str)
  modelAllowlist := .arr (modelAllowlist.map .str)

/-- The operator's route. It names no group. -/
def insertApiKey (db : KeyDb) (draw : KeyDraw) (req : CreateApiKeyRequest) : Option KeyDb :=
  db.insertKey (db.newKey crypto draw req.tenantId none req.name [] []) draw.plaintextKey

/-- The group of a new key on the tenant's route: the one asked for, if it is usable, or
the default one. -/
def resolveGroup (db : KeyDb) : Option Uuid → Option Uuid
  | some groupId =>
    ((db.group? groupId).filter fun g => g.deletedAt.isNone && g.enabled).map (·.id)
  | none => db.defaultGroup?.map (·.id)

def createTenantApiKey (db : KeyDb) (draw : KeyDraw) (tenantId : Uuid)
    (req : TenantCreateApiKeyRequest) : Option KeyDb :=
  let name := Text.trim req.name
  if name = "" then none
  else do
    let groupId ← db.resolveGroup req.groupId
    db.insertKey
      (db.newKey crypto draw tenantId (some groupId) name (normalizeStrList req.ipAllowlist)
        (normalizeStrList req.modelAllowlist))
      draw.plaintextKey

/-! ## Validation -/

def joined (db : KeyDb) (row : ApiKeyTokenRow) :
    Option (ApiKeyRow × ApiKeyGroupRow × TenantRow) := do
  let key ← Keyed.lookupBy ApiKeyRow.id db.apiKeys row.apiKeyId
  let groupId ← key.groupId
  let group ← db.group? groupId
  let tenant ← Keyed.lookupBy TenantRow.id db.tenants key.tenantId
  some (key, group, tenant)

/-- The row that a token is validated against. -/
def selectByToken (db : KeyDb) (token : String) :
    Option (ApiKeyTokenRow × ApiKeyRow × ApiKeyGroupRow × TenantRow) :=
  db.apiKeyTokens.findSome? fun row =>
    if row.token ∈ db.hasher.candidates crypto token then (db.joined row).map (row, ·) else none

/-- Puts the current hash in the place of the stored one, in both tables or, when it is
another key's already, in none. -/
def upgradeApiKeyTokenHash (db : KeyDb) (apiKeyId : Uuid) (storedToken plaintextToken : String)
    (tokenHash : String) : KeyDb :=
  if storedToken = tokenHash then db
  else if (tokenHash ∈ db.apiKeyTokens.map (·.token)) then db
  else
    let keyHashCandidates := db.hasher.candidates crypto plaintextToken ++
      ["plaintext:" ++ plaintextToken, storedToken]
    { db with
      apiKeyTokens := db.apiKeyTokens.map fun row =>
        if row.apiKeyId = apiKeyId ∧ row.token = storedToken then { row with token := tokenHash }
        else row
      apiKeys := db.apiKeys.map fun key =>
        if key.id = apiKeyId ∧ key.keyHash ∈ keyHashCandidates then
          { key with keyHash := tokenHash }
        else key }

def groupModels (db : KeyDb) (group : ApiKeyGroupRow) : List String :=
  if group.allowAllModels then
    let denied := (db.policies.filter fun p => p.groupId = group.id && !p.enabled).map (·.modelId)
    ((db.catalogModels.filter (· ∉ denied)).insertionSort (· ≤ ·)).eraseReps
  else
    ((db.policies.filter fun p => p.groupId = group.id && p.enabled).map (·.modelId)).insertionSort
      (· ≤ ·)

def principal (db : KeyDb) (key : ApiKeyRow) (group : ApiKeyGroupRow) (tenant : TenantRow) :
    ValidatedPrincipal :=
  let apiKeyGroupInvalid := group.deletedAt.isSome || !group.enabled
  { tenantId := key.tenantId
    apiKeyId := key.id
    apiKeyGroupId := group.id
    apiKeyGroupName := group.name
    apiKeyGroupInvalid
    enabled := key.enabled
    keyIpAllowlist := (key.ipAllowlist.asArray.map fun items => items.filterMap Json.asStr).getD []
    keyModelAllowlist := if apiKeyGroupInvalid then [] else db.groupModels group
    tenantStatus := tenant.status
    tenantExpiresAt := tenant.expiresAt
    balanceMicrocredits := db.balances key.tenantId }

def validateApiKey (db : KeyDb) (token : String) : Option ValidatedPrincipal × KeyDb :=
  match db.selectByToken crypto token with
  | none => (none, db)
  | some (row, key, group, tenant) =>
    let tokenHash := db.hasher.hashActive crypto token
    let db' :=
      if row.token ≠ tokenHash then
        db.upgradeApiKeyTokenHash crypto key.id row.token token tokenHash
      else db
    (some (db'.principal key group tenant), db')

def authenticates (db : KeyDb) (token : String) : Option Uuid :=
  (db.validateApiKey crypto token).1.map (·.apiKeyId)

/-! ## Runs -/

/-- The groups and the default one among them, which is added when there is none. -/
def ensureDefaultGroup (db : KeyDb) (newGroupId : Uuid) (now : DateTime) :
    List ApiKeyGroupRow × Uuid :=
  match db.defaultGroup? with
  | some group => (db.groups, group.id)
  | none =>
    (db.groups ++
      [{ id := newGroupId, name := "Default", isDefault := true, enabled := true,
         allowAllModels := true, deletedAt := none, updatedAt := now }], newGroupId)

def ensureSchema (db : KeyDb) (newGroupId : Uuid) (now : DateTime) : KeyDb :=
  let ensured := db.ensureDefaultGroup newGroupId now
  { db with
    groups := ensured.1
    apiKeys := db.apiKeys.map fun key =>
      if key.groupId = none then { key with groupId := some ensured.2 } else key }

inductive Op where
  | createApiKey (draw : KeyDraw) (req : CreateApiKeyRequest)
  | createTenantApiKey (draw : KeyDraw) (tenantId : Uuid) (req : TenantCreateApiKeyRequest)
  | restart (rawKeys : String) (newGroupId : Uuid) (now : DateTime)
  | validate (token : String)

/-- A process that does not find its HMAC keys does not start. -/
def step (db : KeyDb) : Op → KeyDb
  | .createApiKey draw req => (db.insertApiKey crypto draw req).getD db
  | .createTenantApiKey draw tenantId req =>
    (db.createTenantApiKey crypto draw tenantId req).getD db
  | .restart rawKeys newGroupId now =>
    match ApiKeyTokenHasher.fromRawKeys crypto rawKeys with
    | .error _ => db
    | .ok hasher => { db with hasher := hasher }.ensureSchema newGroupId now
  | .validate token => (db.validateApiKey crypto token).2

end KeyDb

end CodexPool
