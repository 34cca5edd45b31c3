import CodexPool.ImportJobs.Job
import CodexPool.Lib.JsonPaths
import CodexPool.Responses.Store

/-!
# The records of an upload

An upload is a JSON file or a file of JSON lines. Each entry becomes an item: its fields are
brought under the names that a record is decoded with, the record is decoded, and the request of the
item is made of it. What is written to the log is left out, and so is the request in its JSON form.
-/

namespace CodexPool

inductive ImportCredentialMode where
  | auto
  | refreshToken
  | accessToken
deriving DecidableEq

structure ImportUploadFile where
  fileName : String
  content : Bytes

structure CreateOAuthImportJobOptions where
  baseUrl : String
  defaultPriority : Int
  defaultEnabled : Bool
  defaultMode : UpstreamMode
  credentialMode : ImportCredentialMode

/-- What the parser takes from libraries. -/
structure ImportLibraries where
  json : SerdeJson
  parseFromRfc3339 : String → Option DateTime
  parseJwtExpFromAccessToken : String → Option DateTime
  shortHash : String → String

/-- An item with what an upload tells of it. -/
structure RecordItem where
  sourceFile : String
  lineNo : Nat
  label : String
  email : Option String
  rawRecord : Option Json
  persisted : PersistedImportItem

/-! ## Numbers in texts -/

/-- `str::parse::<i64>`: digits, after a sign or not. -/
def parseI64 (s : String) : Option Int :=
  let (sign, digits) := match s.toList with
    | '+' :: digits => (1, digits)
    | '-' :: digits => (-1, digits)
    | digits => (1, digits)
  if digits.isEmpty || !digits.all Char.isDigit then none
  else
    let value : Int := sign * (digits.foldl (fun value c => value * 10 + (c.toNat - '0'.toNat)) 0)
    if -2 ^ 63 ≤ value ∧ value < 2 ^ 63 then some value else none

example : parseI64 "-120" = some (-120) := by decide

def parseBoolLike (raw : String) : Option Bool :=
  let lowered := Text.toAsciiLowercase raw
  if ["1", "true", "yes", "on"].contains lowered then some true
  else if ["0", "false", "no", "off"].contains lowered then some false
  else none

/-- `DateTime::from_timestamp`, which knows the years from -262143 to 262142. -/
def fromTimestamp (epoch : Int) : Option DateTime :=
  if -8334601228800 ≤ epoch ∧ epoch ≤ 8210266876799 then some (epoch * seconds 1) else none

/-! ## Names of fields -/

/-- The text of the string to which a path of keys leads, trimmed, if it is not blank. -/
def getNestedString (root : Json) (path : List String) : Option String :=
  if path.isEmpty then none
  else Text.trimmed? ((path.foldlM Json.get root).bind Json.asStr)

/-- The first text that is not blank among the fields. -/
def getString (root : Json) (keys : List String) : Option String :=
  keys.findSome? fun key => Text.trimmed? (root.getStr key)

/-- Sets a field that the object does not have, when a value for it is found. -/
def fillField (key : String) (find : Json → Option Json) (object : Json) : Json :=
  if (object.get key).isSome then object
  else match find object with
    | some value => object.insert key value
    | none => object

def fillText (key : String) (aliases : List String) : Json → Json :=
  fillField key fun object => (getString object aliases).map .str

/-- The objects in which a token may be nested. -/
def tokenParents : List String := ["token_info", "tokens", "oauth", "auth"]

def nestedToken (object : Json) (key : String) : Option String :=
  tokenParents.findSome? fun parent => getNestedString object [parent, key]

def fillToken (key : String) (aliases : List String) : Json → Json :=
  fillField key fun object => ((getString object aliases).or (nestedToken object key)).map .str

def refreshTokenAliases : List String := ["refreshToken", "rt", "refreshTokenPlaintext"]

def accessTokenAliases : List String := ["accessToken", "token", "bearer_token"]

def fillType (object : Json) : Json :=
  if (object.get "typo").isSome then object
  else fillText "type" ["type", "typo", "provider_type"] object

/-- The fields other than the two tokens. -/
def fillOtherFields (object : Json) : Json :=
  let object := fillType object
  let object := fillText "chatgpt_account_id"
    ["chatgptAccountId", "accountId", "openai_account_id", "chatgpt_account"] object
  let object := fillText "account_id"
    ["accountId", "chatgptAccountId", "openai_account_id", "chatgpt_account"] object
  let object := fillText "email" ["mail", "username", "user_email"] object
  let object := fillText "label" ["name", "account_name"] object
  let object := fillText "base_url" ["baseUrl", "endpoint", "upstream_base_url"] object
  let object := fillField "priority"
    (fun object => ((getString object ["weight", "rank", "prio"]).bind parseI64).map .int) object
  fillField "enabled" (fun object =>
    ((getString object ["is_enabled", "active", "status_enabled"]).bind parseBoolLike).map .bool)
    object

def normalizeRecordAliases (value : Json) : Json :=
  if !value.isObject then value
  else fillOtherFields (fillToken "access_token" accessTokenAliases
    (fillToken "refresh_token" refreshTokenAliases value))

/-! ## Decoding -/

/-- A field that may be missing or `null`; `none` when it cannot be decoded. -/
def optionalField {α : Type} (decode : Json → Option α) (value : Option Json) :
    Option (Option α) :=
  match value with
  | none => some none
  | some value =>
    match value with
    | .null => some none
    | value => (decode value).map some

def asI32 (value : Json) : Option Int :=
  value.asI64.filter fun n => -2 ^ 31 ≤ n ∧ n < 2 ^ 31

/-- A structure of one optional text, as an object or as a list. -/
def decodeTextStruct (key : String) : Json → Option (Option String)
  | .obj fields => optionalField Json.asStr (Json.lookupField key fields)
  | .arr [] => some none
  | .arr [value] => optionalField Json.asStr (some value)
  | _ => none

structure CredentialTokenInfo where
  chatgptAccountId : Option String

structure CredentialOpenAiAuth where
  chatgptPlanType : Option String

structure CredentialRecord where
  refreshToken : Option String
  accessToken : Option String
  bearerToken : Option String
  recordType : Option String
  exp : Option Int
  expired : Option String
  chatgptPlanType : Option String
  openaiAuth : Option CredentialOpenAiAuth
  accountId : Option String
  chatgptAccountId : Option String
  email : Option String
  label : Option String
  baseUrl : Option String
  priority : Option Int
  enabled : Option Bool
  mode : Option String
  tokenInfo : Option CredentialTokenInfo

namespace CredentialRecord

/-- The names of the fields, in the order in which a list is read. -/
def fieldNames : List String :=
  ["refresh_token", "access_token", "bearer_token", "type", "exp", "expired", "chatgpt_plan_type",
    "https://api.openai.com/auth", "account_id", "chatgpt_account_id", "email", "label",
    "base_url", "priority", "enabled", "mode", "token_info"]

/-- A field has one of the two names of the type, and not both. -/
def decodeType (field : String → Option Json) : Option (Option String) :=
  if (field "type").isSome && (field "typo").isSome then none
  else optionalField Json.asStr ((field "type").or (field "typo"))

def ofFields (field : String → Option Json) : Option CredentialRecord := do
  let refreshToken ← optionalField Json.asStr (field "refresh_token")
  let accessToken ← optionalField Json.asStr (field "access_token")
  let bearerToken ← optionalField Json.asStr (field "bearer_token")
  let recordType ← decodeType field
  let exp ← optionalField Json.asI64 (field "exp")
  let expired ← optionalField Json.asStr (field "expired")
  let chatgptPlanType ← optionalField Json.asStr (field "chatgpt_plan_type")
  let openaiAuth ← optionalField
    (fun value => (decodeTextStruct "chatgpt_plan_type" value).map CredentialOpenAiAuth.mk)
    (field "https://api.openai.com/auth")
  let accountId ← optionalField Json.asStr (field "account_id")
  let chatgptAccountId ← optionalField Json.asStr (field "chatgpt_account_id")
  let email ← optionalField Json.asStr (field "email")
  let label ← optionalField Json.asStr (field "label")
  let baseUrl ← optionalField Json.asStr (field "base_url")
  let priority ← optionalField asI32 (field "priority")
  let enabled ← optionalField Json.asBool (field "enabled")
  let mode ← optionalField Json.asStr (field "mode")
  let tokenInfo ← optionalField
    (fun value => (decodeTextStruct "chatgpt_account_id" value).map CredentialTokenInfo.mk)
    (field "token_info")
  pure {
    refreshToken, accessToken, bearerToken, recordType, exp, expired, chatgptPlanType, openaiAuth,
    accountId, chatgptAccountId, email, label, baseUrl, priority, enabled, mode, tokenInfo }

/-- A record is decoded from an object, or from a list of its fields, whose first one is there. -/
def fromValue : Json → Option CredentialRecord
  | .obj fields => ofFields fun key => Json.lookupField key fields
  | .arr items =>
    if items.isEmpty || decide (fieldNames.length < items.length) then none
    else ofFields fun key => Json.lookupField key (fieldNames.zip items)
  | _ => none

end CredentialRecord

/-! ## The request of a record -/

def parseImportMode (rawMode rawType : Option String) (fallback : UpstreamMode) : UpstreamMode :=
  let ofType :=
    if rawType.any fun raw => Text.toAsciiLowercase (Text.trim raw) = "codex" then .codexOauth
    else fallback
  match rawMode with
  | none => ofType
  | some mode =>
    let mode := Text.toAsciiLowercase (Text.trim mode)
    if ["open_ai_api_key", "openai", "api_key"].contains mode then .openAiApiKey
    else if ["chat_gpt_session", "chat_gpt_oauth", "chatgpt", "chatgpt_oauth"].contains mode then
      .chatGptSession
    else if ["codex_oauth", "codex_session", "codex"].contains mode then .codexOauth
    else ofType

section Libraries

variable (libs : ImportLibraries) (options : CreateOAuthImportJobOptions)

def deriveOneTimeExpiresAt (expEpochSec : Option Int) (expiredRaw accessToken : Option String) :
    Option DateTime :=
  match (expEpochSec.filter (0 < ·)).bind fromTimestamp with
  | some expiresAt => some expiresAt
  | none =>
    match (Text.trimmed? expiredRaw).bind libs.parseFromRfc3339 with
    | some expiresAt => some expiresAt
    | none => accessToken.bind libs.parseJwtExpFromAccessToken

namespace CredentialRecord

variable (record : CredentialRecord)

def refreshTokenText : Option String := Text.trimmed? record.refreshToken

def accessTokenText : Option String := Text.trimmed? (record.accessToken.or record.bearerToken)

def chatgptAccountIdText : Option String :=
  Text.trimmed? ((record.chatgptAccountId.or record.accountId).or
    (Text.trimmed? (record.tokenInfo.bind (·.chatgptAccountId))))

def chatgptPlanTypeText : Option String :=
  Text.trimmed? (record.chatgptPlanType.or (record.openaiAuth.bind (·.chatgptPlanType)))

def derivedLabel : String :=
  match Text.trimmed? record.label with
  | some label => label
  | none =>
    match Text.trimmed? record.email with
    | some email => "oauth-" ++ Text.toAsciiLowercase email
    | none =>
      match record.chatgptAccountIdText with
      | some chatgptAccountId => "oauth-" ++ chatgptAccountId
      | none =>
        "oauth-" ++
          libs.shortHash ((record.refreshTokenText.or record.accessTokenText).getD "empty")

def importMode : UpstreamMode :=
  parseImportMode record.mode (Text.trimmed? record.recordType) options.defaultMode

def baseUrlText : String := (Text.trimmed? record.baseUrl).getD options.baseUrl

def expiresAt : Option DateTime :=
  deriveOneTimeExpiresAt libs record.exp record.expired record.accessTokenText

def oauthRefreshRequest (refreshToken : String) : ImportOAuthRefreshTokenRequest where
  label := record.derivedLabel libs
  baseUrl := record.baseUrlText options
  refreshToken := refreshToken
  fallbackAccessToken := record.accessTokenText
  fallbackTokenExpiresAt := record.expiresAt libs
  chatgptAccountId := record.chatgptAccountIdText
  mode := some (record.importMode options)
  enabled := some (record.enabled.getD options.defaultEnabled)
  priority := some (record.priority.getD options.defaultPriority)
  chatgptPlanType := record.chatgptPlanTypeText
  sourceType := Text.trimmed? record.recordType

def oneTimeRequest (accessToken : String) : UpsertOneTimeSessionAccountRequest where
  label := record.derivedLabel libs
  mode := record.importMode options
  baseUrl := record.baseUrlText options
  accessToken := accessToken
  chatgptAccountId := record.chatgptAccountIdText
  enabled := some (record.enabled.getD options.defaultEnabled)
  priority := some (record.priority.getD options.defaultPriority)
  tokenExpiresAt := record.expiresAt libs
  chatgptPlanType := record.chatgptPlanTypeText
  sourceType := Text.trimmed? record.recordType

end CredentialRecord

namespace RecordItem

def withRequest (item : RecordItem) (request : ImportTaskRequest) : RecordItem :=
  { item with persisted := { item.persisted with request := some request } }

/-- The item of a record without a credential for the mode. -/
def failed (item : RecordItem) (errorCode errorMessage : String) : RecordItem :=
  { item with
    persisted := { item.persisted with
      item := { item.persisted.item with
        status := .failed
        errorCode := some errorCode
        errorMessage := some errorMessage } } }

/-- The item of a record that cannot be read. -/
def rejected (item : RecordItem) (errorCode errorMessage : String) : RecordItem :=
  let item := item.failed errorCode errorMessage
  { item with
    persisted := { item.persisted with
      item := { item.persisted.item with
        admissionStatus := some .failed
        admissionReason := some errorCode } } }

/-- An item as it starts. -/
def pending (sourceFile : String) (lineNo : Nat) (rawRecord : Option Json) : RecordItem where
  sourceFile := sourceFile
  lineNo := lineNo
  label := ""
  email := none
  rawRecord := rawRecord
  persisted :=
    { item :=
        { itemId := 0
          status := .pending
          chatgptAccountId := none
          accountId := none
          errorCode := none
          errorMessage := none
          admissionStatus := none
          admissionSource := none
          admissionReason := none
          failureStage := none
          attemptCount := 0
          transientRetryCount := 0
          nextRetryAt := none
          retryable := false
          terminalReason := none }
      request := none
      retryCount := 0 }

end RecordItem

/-- The item of a record that was decoded. -/
def normalizeRecord (record : CredentialRecord) (item : RecordItem) : RecordItem :=
  let item := { item with
    label := record.derivedLabel libs
    email := Text.trimmed? record.email
    persisted := { item.persisted with
      item := { item.persisted.item with chatgptAccountId := record.chatgptAccountIdText } } }
  match options.credentialMode with
  | .auto =>
    match record.refreshTokenText with
    | some refreshToken =>
      item.withRequest (.oauthRefresh (record.oauthRefreshRequest libs options refreshToken))
    | none =>
      match record.accessTokenText with
      | some accessToken =>
        item.withRequest (.oneTimeAccessToken (record.oneTimeRequest libs options accessToken))
      | none =>
        item.failed "missing_credentials"
          "record does not contain refresh_token or access_token"
  | .refreshToken =>
    match record.refreshTokenText with
    | some refreshToken =>
      item.withRequest (.oauthRefresh (record.oauthRefreshRequest libs options refreshToken))
    | none =>
      item.failed "missing_refresh_token"
        "record does not contain refresh_token for selected import mode"
  | .accessToken =>
    match record.accessTokenText with
    | some accessToken =>
      item.withRequest (.oneTimeAccessToken (record.oneTimeRequest libs options accessToken))
    | none =>
      item.failed "missing_access_token"
        "record does not contain access_token for selected import mode"

/-! ## Files -/

def buildItemState (sourceFile : String) (lineNo : Nat) (value : Json) : RecordItem :=
  let item := RecordItem.pending sourceFile lineNo (some value)
  match CredentialRecord.fromValue (normalizeRecordAliases value) with
  | some record => normalizeRecord libs options record item
  | none => item.rejected "invalid_record" "record payload is invalid"

def buildFailedLineItem (sourceFile : String) (lineNo : Nat) (errorCode errorMessage : String)
    (rawRecord : Option Json) : RecordItem :=
  let item := (RecordItem.pending sourceFile lineNo rawRecord).rejected errorCode errorMessage
  { item with
    persisted := { item.persisted with
      item := { item.persisted.item with terminalReason := some errorCode } } }

/-- The item of a line that is not blank. -/
def jsonlItem (fileName : String) (lineNo : Nat) (line : String) : RecordItem :=
  match libs.json.fromStr line with
  | some value => buildItemState libs options fileName lineNo value
  | none =>
    buildFailedLineItem fileName lineNo "invalid_record" "invalid JSON record" (some (.str line))

/-- The loop over the lines, with the index of the next one and the items so far. -/
def pushLines (fileName : String) :
    Nat → List String → List RecordItem → List RecordItem
  | _, [], items => items
  | idx, line :: lines, items =>
    if Text.trim line = "" then pushLines fileName (idx + 1) lines items
    else
      pushLines fileName (idx + 1) lines
        (items ++ [jsonlItem libs options fileName (idx + 1) line])

def parseJsonlRecords (fileName : String) (content : Bytes) : Result (List RecordItem) :=
  match Bytes.fromUtf8 content with
  | none => .error "file is not valid utf-8"
  | some raw => .ok (pushLines libs options fileName 0 (Text.lines raw) [])

/-- The loop over the entries, with the index of the next one and the items so far. -/
def pushEntries (fileName : String) :
    Nat → List Json → List RecordItem → List RecordItem
  | _, [], items => items
  | idx, entry :: entries, items =>
    pushEntries fileName (idx + 1) entries
      (items ++ [buildItemState libs options fileName (idx + 1) entry])

def parseJsonRecords (fileName : String) (content : Bytes) : Result (List RecordItem) :=
  match libs.json.fromSlice content with
  | none => .error "invalid json file content"
  | some (.arr entries) => .ok (pushEntries libs options fileName 0 entries [])
  | some (.obj fields) => .ok [buildItemState libs options fileName 1 (.obj fields)]
  | some _ =>
    .error ("json file " ++ fileName ++ " must be either an object or an array of objects")

def uploadName (file : ImportUploadFile) : String :=
  if Text.trim file.fileName = "" then "uploaded.json" else file.fileName

/-- The extension of a name, whatever the case of its letters. -/
def hasExtension (fileName extension : String) : Bool :=
  extension.toList.isSuffixOf (Text.toAsciiLowercase fileName).toList

def parseFileRecords (file : ImportUploadFile) : Result (List RecordItem) :=
  let fileName := uploadName file
  if hasExtension fileName ".jsonl" then parseJsonlRecords libs options fileName file.content
  else if hasExtension fileName ".json" then parseJsonRecords libs options fileName file.content
  else .error ("unsupported file extension for " ++ fileName ++ " (only .json/.jsonl)")

end Libraries

end CodexPool
