import CodexPool.Basic
import CodexPool.Lib.Saturating
import CodexPool.Lib.Upserts
import CodexPool.Responses.Store
import Mathlib.Data.String.Basic

/-!
# The synchronisation of the model catalogue

The official models replace the rows of the catalogue table: each of them is upserted, and the
rows of other models are deleted. The catalogue is listed in the order of the model ids. Both
backends write the 36 columns of a row with a statement of their own; SQLite keeps dates and
lists as texts. The texts of JSON values and of dates are those of libraries.
-/

namespace CodexPool

open Saturating Upserts

/-! ## Items and rows -/

structure OpenAiModelSectionItem where
  key : String
  label : String
  detail : Option String
  status : Option String
  iconSvg : Option String
deriving DecidableEq

structure OpenAiModelSnapshotItem where
  aliasName : String
  label : String
  latestSnapshot : Option String
  versions : List String
deriving DecidableEq

structure OpenAiModelCatalogItem where
  modelId : String
  ownedBy : String
  title : String
  displayName : Option String
  tagline : Option String
  family : Option String
  familyLabel : Option String
  description : Option String
  avatarRemoteUrl : Option String
  avatarLocalPath : Option String
  avatarSyncedAt : Option DateTime
  deprecated : Option Bool
  contextWindowTokens : Option I64
  maxInputTokens : Option I64
  maxOutputTokens : Option I64
  knowledgeCutoff : Option String
  reasoningTokenSupport : Option Bool
  inputPriceMicrocredits : Option I64
  cachedInputPriceMicrocredits : Option I64
  outputPriceMicrocredits : Option I64
  pricingNotes : Option String
  pricingNoteItems : List String
  inputModalities : List String
  outputModalities : List String
  endpoints : List String
  supportedFeatures : List String
  supportedTools : List String
  snapshots : List String
  modalityItems : List OpenAiModelSectionItem
  endpointItems : List OpenAiModelSectionItem
  featureItems : List OpenAiModelSectionItem
  toolItems : List OpenAiModelSectionItem
  snapshotItems : List OpenAiModelSnapshotItem
  sourceUrl : String
  rawText : Option String
  syncedAt : DateTime

/-- The columns of `openai_models_catalog`. -/
inductive CatalogColumn where
  | modelId
  | ownedBy
  | title
  | displayName
  | tagline
  | family
  | familyLabel
  | description
  | avatarRemoteUrl
  | avatarLocalPath
  | avatarSyncedAt
  | deprecated
  | contextWindowTokens
  | maxInputTokens
  | maxOutputTokens
  | knowledgeCutoff
  | reasoningTokenSupport
  | inputPriceMicrocredits
  | cachedInputPriceMicrocredits
  | outputPriceMicrocredits
  | pricingNotes
  | pricingNoteItemsJson
  | inputModalitiesJson
  | outputModalitiesJson
  | endpointsJson
  | supportedFeaturesJson
  | supportedToolsJson
  | snapshotsJson
  | modalityItemsJson
  | endpointItemsJson
  | featureItemsJson
  | toolItemsJson
  | snapshotItemsJson
  | sourceUrl
  | rawText
  | syncedAt
deriving DecidableEq

def CatalogColumn.name : CatalogColumn → String
  | modelId => "model_id"
  | ownedBy => "owned_by"
  | title => "title"
  | displayName => "display_name"
  | tagline => "tagline"
  | family => "family"
  | familyLabel => "family_label"
  | description => "description"
  | avatarRemoteUrl => "avatar_remote_url"
  | avatarLocalPath => "avatar_local_path"
  | avatarSyncedAt => "avatar_synced_at"
  | deprecated => "deprecated"
  | contextWindowTokens => "context_window_tokens"
  | maxInputTokens => "max_input_tokens"
  | maxOutputTokens => "max_output_tokens"
  | knowledgeCutoff => "knowledge_cutoff"
  | reasoningTokenSupport => "reasoning_token_support"
  | inputPriceMicrocredits => "input_price_microcredits"
  | cachedInputPriceMicrocredits => "cached_input_price_microcredits"
  | outputPriceMicrocredits => "output_price_microcredits"
  | pricingNotes => "pricing_notes"
  | pricingNoteItemsJson => "pricing_note_items_json"
  | inputModalitiesJson => "input_modalities_json"
  | outputModalitiesJson => "output_modalities_json"
  | endpointsJson => "endpoints_json"
  | supportedFeaturesJson => "supported_features_json"
  | supportedToolsJson => "supported_tools_json"
  | snapshotsJson => "snapshots_json"
  | modalityItemsJson => "modality_items_json"
  | endpointItemsJson => "endpoint_items_json"
  | featureItemsJson => "feature_items_json"
  | toolItemsJson => "tool_items_json"
  | snapshotItemsJson => "snapshot_items_json"
  | sourceUrl => "source_url"
  | rawText => "raw_text"
  | syncedAt => "synced_at"

/-- The value of a column; a JSON column is given by its text. -/
inductive CatalogValue where
  | null
  | text (value : String)
  | integer (value : I64)
  | boolean (value : Bool)
  | timestamp (value : DateTime)
  | jsonb (value : String)
deriving DecidableEq

abbrev CatalogRow := CatalogColumn → CatalogValue

/-- The columns in the order of the statements. -/
def catalogColumns : List CatalogColumn :=
  [.modelId, .ownedBy, .title, .displayName, .tagline, .family, .familyLabel, .description,
    .avatarRemoteUrl, .avatarLocalPath, .avatarSyncedAt, .deprecated, .contextWindowTokens,
    .maxInputTokens, .maxOutputTokens, .knowledgeCutoff, .reasoningTokenSupport,
    .inputPriceMicrocredits, .cachedInputPriceMicrocredits, .outputPriceMicrocredits,
    .pricingNotes, .pricingNoteItemsJson, .inputModalitiesJson, .outputModalitiesJson,
    .endpointsJson, .supportedFeaturesJson, .supportedToolsJson, .snapshotsJson,
    .modalityItemsJson, .endpointItemsJson, .featureItemsJson, .toolItemsJson,
    .snapshotItemsJson, .sourceUrl, .rawText, .syncedAt]

/-! ## Values of columns -/

namespace CatalogValue

def ofOption {α : Type*} (f : α → CatalogValue) : Option α → CatalogValue
  | none => null
  | some a => f a

/-- `row.try_get` of an optional value. -/
def tryGet {α : Type} (read : CatalogValue → Option α) (row : CatalogRow) (column : CatalogColumn) :
    Result (Option α) :=
  match row column with
  | null => .ok none
  | value =>
    match read value with
    | some a => .ok (some a)
    | none => .error ("error occurred while decoding column " ++ column.name)

/-- `row.try_get` of a value that is not optional. -/
def tryGetValue {α : Type} (read : CatalogValue → Option α) (row : CatalogRow)
    (column : CatalogColumn) : Result α := do
  match ← tryGet read row column with
  | some a => .ok a
  | none => .error ("error occurred while decoding column " ++ column.name)

def asText : CatalogValue → Option String
  | text value => some value
  | _ => none

def asInteger : CatalogValue → Option I64
  | integer value => some value
  | _ => none

/-- A truth value in SQLite. -/
def asFlag : CatalogValue → Option Bool
  | integer value => some (value ≠ 0)
  | _ => none

def asBoolean : CatalogValue → Option Bool
  | boolean value => some value
  | _ => none

def asTimestamp : CatalogValue → Option DateTime
  | timestamp value => some value
  | _ => none

def asJsonb : CatalogValue → Option String
  | jsonb value => some value
  | _ => none

def ofFlag (value : Bool) : CatalogValue := integer (if value then 1 else 0)

end CatalogValue

/-! ## Lists as JSON -/

namespace OpenAiModelSectionItem

/-- The fields that are skipped are those without a value. -/
def toValue (item : OpenAiModelSectionItem) : Json :=
  .ofFields
    ([("key", .str item.key), ("label", .str item.label)] ++
      (item.detail.map fun text => ("detail", .str text)).toList ++
      (item.status.map fun text => ("status", .str text)).toList ++
      (item.iconSvg.map fun text => ("icon_svg", .str text)).toList)

end OpenAiModelSectionItem

/-- An optional text of an object, `none` for a value of another type. -/
def optionalText (value : Json) (key : String) : Option (Option String) :=
  match value.get key with
  | none => some none
  | some .null => some none
  | some (.str text) => some (some text)
  | some _ => none

def textsOfValue (value : Json) : Option (List String) :=
  value.asArray.bind fun items => items.mapM Json.asStr

def OpenAiModelSectionItem.ofValue (value : Json) : Option OpenAiModelSectionItem := do
  let key ← value.getStr "key"
  let label ← value.getStr "label"
  let detail ← optionalText value "detail"
  let status ← optionalText value "status"
  let iconSvg ← optionalText value "icon_svg"
  some { key, label, detail, status, iconSvg }

def OpenAiModelSnapshotItem.toValue (item : OpenAiModelSnapshotItem) : Json :=
  .ofFields
    ([("alias", .str item.aliasName), ("label", .str item.label)] ++
      (item.latestSnapshot.map fun text => ("latest_snapshot", .str text)).toList ++
      [("versions", .arr (item.versions.map .str))])

def OpenAiModelSnapshotItem.ofValue (value : Json) : Option OpenAiModelSnapshotItem := do
  let aliasName ← value.getStr "alias"
  let label ← value.getStr "label"
  let latestSnapshot ← optionalText value "latest_snapshot"
  let versions ← match value.get "versions" with
    | none => some []
    | some versions => textsOfValue versions
  some { aliasName, label, latestSnapshot, versions }

/-- The texts that libraries print and parse. -/
structure CatalogTexts where
  codec : SerdeJson
  toRfc3339 : DateTime → String
  parseFromRfc3339 : String → Option DateTime

namespace CatalogTexts

variable (texts : CatalogTexts)

def ofTexts (items : List String) : String := texts.codec.toText (.arr (items.map .str))

def ofSections (items : List OpenAiModelSectionItem) : String :=
  texts.codec.toText (.arr (items.map (·.toValue)))

def ofSnapshots (items : List OpenAiModelSnapshotItem) : String :=
  texts.codec.toText (.arr (items.map (·.toValue)))

def toTexts (text : String) : Option (List String) := (texts.codec.fromStr text).bind textsOfValue

def toSections (text : String) : Option (List OpenAiModelSectionItem) :=
  (texts.codec.fromStr text).bind fun value =>
    value.asArray.bind fun items => items.mapM OpenAiModelSectionItem.ofValue

def toSnapshots (text : String) : Option (List OpenAiModelSnapshotItem) :=
  (texts.codec.fromStr text).bind fun value =>
    value.asArray.bind fun items => items.mapM OpenAiModelSnapshotItem.ofValue

/-! ## Postgres -/

/-- The statement has parameters for 34 of its 36 columns. -/
def pgInsert : Insert CatalogColumn where
  columns := catalogColumns
  placeholders := (List.range 34).map (· + 1)
  conflict := .modelId
  updates := catalogColumns.tail

def pgBinds (item : OpenAiModelCatalogItem) : List CatalogValue :=
  [.text item.modelId, .text item.ownedBy, .text item.title, .ofOption .text item.displayName,
    .ofOption .text item.tagline, .ofOption .text item.family,
    .ofOption .text item.familyLabel, .ofOption .text item.description,
    .ofOption .text item.avatarRemoteUrl, .ofOption .text item.avatarLocalPath,
    .ofOption .timestamp item.avatarSyncedAt, .ofOption .boolean item.deprecated,
    .ofOption .integer item.contextWindowTokens, .ofOption .integer item.maxInputTokens,
    .ofOption .integer item.maxOutputTokens, .ofOption .text item.knowledgeCutoff,
    .ofOption .boolean item.reasoningTokenSupport,
    .ofOption .integer item.inputPriceMicrocredits,
    .ofOption .integer item.cachedInputPriceMicrocredits,
    .ofOption .integer item.outputPriceMicrocredits, .ofOption .text item.pricingNotes,
    .jsonb (texts.ofTexts item.pricingNoteItems), .jsonb (texts.ofTexts item.inputModalities),
    .jsonb (texts.ofTexts item.outputModalities), .jsonb (texts.ofTexts item.endpoints),
    .jsonb (texts.ofTexts item.supportedFeatures), .jsonb (texts.ofTexts item.supportedTools),
    .jsonb (texts.ofTexts item.snapshots), .jsonb (texts.ofSections item.modalityItems),
    .jsonb (texts.ofSections item.endpointItems), .jsonb (texts.ofSections item.featureItems),
    .jsonb (texts.ofSections item.toolItems), .jsonb (texts.ofSnapshots item.snapshotItems),
    .text item.sourceUrl, .ofOption .text item.rawText, .timestamp item.syncedAt]

open CatalogValue in
def pgItem (row : CatalogRow) : Result OpenAiModelCatalogItem := do
  let modelId ← tryGetValue asText row .modelId
  let ownedBy ← tryGetValue asText row .ownedBy
  let title ← tryGetValue asText row .title
  let displayName ← tryGet asText row .displayName
  let tagline ← tryGet asText row .tagline
  let family ← tryGet asText row .family
  let familyLabel ← tryGet asText row .familyLabel
  let description ← tryGet asText row .description
  let avatarRemoteUrl ← tryGet asText row .avatarRemoteUrl
  let avatarLocalPath ← tryGet asText row .avatarLocalPath
  let avatarSyncedAt ← tryGet asTimestamp row .avatarSyncedAt
  let deprecated ← tryGet asBoolean row .deprecated
  let contextWindowTokens ← tryGet asInteger row .contextWindowTokens
  let maxInputTokens ← tryGet asInteger row .maxInputTokens
  let maxOutputTokens ← tryGet asInteger row .maxOutputTokens
  let knowledgeCutoff ← tryGet asText row .knowledgeCutoff
  let reasoningTokenSupport ← tryGet asBoolean row .reasoningTokenSupport
  let inputPriceMicrocredits ← tryGet asInteger row .inputPriceMicrocredits
  let cachedInputPriceMicrocredits ← tryGet asInteger row .cachedInputPriceMicrocredits
  let outputPriceMicrocredits ← tryGet asInteger row .outputPriceMicrocredits
  let pricingNotes ← tryGet asText row .pricingNotes
  let pricingNoteItems ←
    tryGetValue (fun value => value.asJsonb.bind texts.toTexts) row .pricingNoteItemsJson
  let inputModalities ←
    tryGetValue (fun value => value.asJsonb.bind texts.toTexts) row .inputModalitiesJson
  let outputModalities ←
    tryGetValue (fun value => value.asJsonb.bind texts.toTexts) row .outputModalitiesJson
  let endpoints ← tryGetValue (fun value => value.asJsonb.bind texts.toTexts) row .endpointsJson
  let supportedFeatures ←
    tryGetValue (fun value => value.asJsonb.bind texts.toTexts) row .supportedFeaturesJson
  let supportedTools ←
    tryGetValue (fun value => value.asJsonb.bind texts.toTexts) row .supportedToolsJson
  let snapshots ← tryGetValue (fun value => value.asJsonb.bind texts.toTexts) row .snapshotsJson
  let modalityItems ←
    tryGetValue (fun value => value.asJsonb.bind texts.toSections) row .modalityItemsJson
  let endpointItems ←
    tryGetValue (fun value => value.asJsonb.bind texts.toSections) row .endpointItemsJson
  let featureItems ←
    tryGetValue (fun value => value.asJsonb.bind texts.toSections) row .featureItemsJson
  let toolItems ←
    tryGetValue (fun value => value.asJsonb.bind texts.toSections) row .toolItemsJson
  let snapshotItems ←
    tryGetValue (fun value => value.asJsonb.bind texts.toSnapshots) row .snapshotItemsJson
  let sourceUrl ← tryGetValue asText row .sourceUrl
  let rawText ← tryGet asText row .rawText
  let syncedAt ← tryGetValue asTimestamp row .syncedAt
  .ok
    { modelId, ownedBy, title, displayName, tagline, family, familyLabel, description,
      avatarRemoteUrl, avatarLocalPath, avatarSyncedAt, deprecated, contextWindowTokens,
      maxInputTokens, maxOutputTokens, knowledgeCutoff, reasoningTokenSupport,
      inputPriceMicrocredits, cachedInputPriceMicrocredits, outputPriceMicrocredits,
      pricingNotes, pricingNoteItems, inputModalities, outputModalities, endpoints,
      supportedFeatures, supportedTools, snapshots, modalityItems, endpointItems, featureItems,
      toolItems, snapshotItems, sourceUrl, rawText, syncedAt }

/-! ## SQLite -/

def sqliteInsert : Insert CatalogColumn where
  columns := catalogColumns
  placeholders := (List.range 36).map (· + 1)
  conflict := .modelId
  updates := catalogColumns.tail

def sqliteBinds (item : OpenAiModelCatalogItem) : List CatalogValue :=
  [.text item.modelId, .text item.ownedBy, .text item.title, .ofOption .text item.displayName,
    .ofOption .text item.tagline, .ofOption .text item.family,
    .ofOption .text item.familyLabel, .ofOption .text item.description,
    .ofOption .text item.avatarRemoteUrl, .ofOption .text item.avatarLocalPath,
    .ofOption (fun date => .text (texts.toRfc3339 date)) item.avatarSyncedAt,
    .ofOption .ofFlag item.deprecated, .ofOption .integer item.contextWindowTokens,
    .ofOption .integer item.maxInputTokens, .ofOption .integer item.maxOutputTokens,
    .ofOption .text item.knowledgeCutoff, .ofOption .ofFlag item.reasoningTokenSupport,
    .ofOption .integer item.inputPriceMicrocredits,
    .ofOption .integer item.cachedInputPriceMicrocredits,
    .ofOption .integer item.outputPriceMicrocredits, .ofOption .text item.pricingNotes,
    .text (texts.ofTexts item.pricingNoteItems), .text (texts.ofTexts item.inputModalities),
    .text (texts.ofTexts item.outputModalities), .text (texts.ofTexts item.endpoints),
    .text (texts.ofTexts item.supportedFeatures), .text (texts.ofTexts item.supportedTools),
    .text (texts.ofTexts item.snapshots), .text (texts.ofSections item.modalityItems),
    .text (texts.ofSections item.endpointItems), .text (texts.ofSections item.featureItems),
    .text (texts.ofSections item.toolItems), .text (texts.ofSnapshots item.snapshotItems),
    .text item.sourceUrl, .ofOption .text item.rawText, .text (texts.toRfc3339 item.syncedAt)]

def parseCreatedAt (raw : String) : Result DateTime :=
  match texts.parseFromRfc3339 raw with
  | some date => .ok date
  | none => .error ("failed to parse created_at timestamp: " ++ raw)

/-- A list in a text column, empty when the column is null. -/
def readList {α : Type} (parse : String → Option (List α)) (context : String) (row : CatalogRow)
    (column : CatalogColumn) : Result (List α) := do
  let text ← CatalogValue.tryGet CatalogValue.asText row column
  match parse (text.getD "[]") with
  | some items => .ok items
  | none => .error ("failed to decode sqlite " ++ context ++ " json")

/-- `Option::map` and `transpose`. -/
def readDate (row : CatalogRow) (column : CatalogColumn) : Result (Option DateTime) := do
  match ← CatalogValue.tryGet CatalogValue.asText row column with
  | none => .ok none
  | some raw => (texts.parseCreatedAt raw).map some

open CatalogValue in
def sqliteItem (now : DateTime) (row : CatalogRow) : Result OpenAiModelCatalogItem := do
  let modelId ← tryGetValue asText row .modelId
  let ownedBy ← (tryGet asText row .ownedBy).map (·.getD "openai")
  let title ← (tryGet asText row .title).map (·.getD modelId)
  let displayName ← tryGet asText row .displayName
  let tagline ← tryGet asText row .tagline
  let family ← tryGet asText row .family
  let familyLabel ← tryGet asText row .familyLabel
  let description ← tryGet asText row .description
  let avatarRemoteUrl ← tryGet asText row .avatarRemoteUrl
  let avatarLocalPath ← tryGet asText row .avatarLocalPath
  let avatarSyncedAt ← texts.readDate row .avatarSyncedAt
  let deprecated ← tryGet asFlag row .deprecated
  let contextWindowTokens ← tryGet asInteger row .contextWindowTokens
  let maxInputTokens ← tryGet asInteger row .maxInputTokens
  let maxOutputTokens ← tryGet asInteger row .maxOutputTokens
  let knowledgeCutoff ← tryGet asText row .knowledgeCutoff
  let reasoningTokenSupport ← tryGet asFlag row .reasoningTokenSupport
  let inputPriceMicrocredits ← tryGet asInteger row .inputPriceMicrocredits
  let cachedInputPriceMicrocredits ← tryGet asInteger row .cachedInputPriceMicrocredits
  let outputPriceMicrocredits ← tryGet asInteger row .outputPriceMicrocredits
  let pricingNotes ← tryGet asText row .pricingNotes
  let pricingNoteItems ← readList texts.toTexts "pricing note items" row .pricingNoteItemsJson
  let inputModalities ← readList texts.toTexts "input modalities" row .inputModalitiesJson
  let outputModalities ← readList texts.toTexts "output modalities" row .outputModalitiesJson
  let endpoints ← readList texts.toTexts "endpoints" row .endpointsJson
  let supportedFeatures ← readList texts.toTexts "supported features" row .supportedFeaturesJson
  let supportedTools ← readList texts.toTexts "supported tools" row .supportedToolsJson
  let snapshots ← readList texts.toTexts "snapshots" row .snapshotsJson
  let modalityItems ← readList texts.toSections "modality items" row .modalityItemsJson
  let endpointItems ← readList texts.toSections "endpoint items" row .endpointItemsJson
  let featureItems ← readList texts.toSections "feature items" row .featureItemsJson
  let toolItems ← readList texts.toSections "tool items" row .toolItemsJson
  let snapshotItems ← readList texts.toSnapshots "snapshot items" row .snapshotItemsJson
  let sourceUrl ← (tryGet asText row .sourceUrl).map
    (·.getD ("https://developers.openai.com/api/docs/models/" ++ modelId))
  let rawText ← tryGet asText row .rawText
  let syncedAt ← (texts.readDate row .syncedAt).map (·.getD now)
  .ok
    { modelId, ownedBy, title, displayName, tagline, family, familyLabel, description,
      avatarRemoteUrl, avatarLocalPath, avatarSyncedAt, deprecated, contextWindowTokens,
      maxInputTokens, maxOutputTokens, knowledgeCutoff, reasoningTokenSupport,
      inputPriceMicrocredits, cachedInputPriceMicrocredits, outputPriceMicrocredits,
      pricingNotes, pricingNoteItems, inputModalities, outputModalities, endpoints,
      supportedFeatures, supportedTools, snapshots, modalityItems, endpointItems, featureItems,
      toolItems, snapshotItems, sourceUrl, rawText, syncedAt }

end CatalogTexts

/-! ## The synchronisation -/

structure OpenAiModelsSyncResponse where
  modelsTotal : Nat
  createdOrUpdated : Nat
  deletedCatalogRows : Nat
  clearedCustomEntities : Nat
  clearedBillingRules : Nat
  deletedLegacyPricingRows : Nat
  syncedAt : DateTime

/-- `DELETE ... WHERE NOT (model_id = ANY(...))` keeps the row: a null is neither in the list
nor outside of it. -/
def keptModel (modelIds : List String) (row : CatalogRow) : Bool :=
  match row .modelId with
  | .text modelId => modelIds.contains modelId
  | _ => true

/-- The key by which the catalogue is listed. -/
def modelIdText (row : CatalogRow) : String := ((row .modelId).asText).getD ""

def sortedByModelId (rows : List CatalogRow) : List CatalogRow :=
  rows.insertionSort fun a b => modelIdText a ≤ modelIdText b

/-- The tables of the Postgres backend that a synchronisation changes; of the other tables
than the catalogue, the rows that were entered by hand and the models that have prices. -/
structure PgCatalog where
  rows : List CatalogRow
  adminModelEntities : Nat
  billingPricingRules : Nat
  modelPricing : List String

/-- What bounds a statement of SQLite. -/
structure SqliteLimits where
  maxVariableNumber : Nat
  insertFits : 36 ≤ maxVariableNumber

namespace CatalogTexts

variable (texts : CatalogTexts)

/-- `apply_openai_model_catalog_items` of the Postgres backend. -/
def applyPostgres (syncedAt : DateTime) (items : List OpenAiModelCatalogItem) (db : PgCatalog) :
    Result OpenAiModelsSyncResponse × PgCatalog :=
  match pgInsert.executeAll .null texts.pgBinds items db.rows with
  | .error item => (.error ("failed to upsert official model " ++ item.modelId), db)
  | .ok rows =>
    let modelIds := items.map (·.modelId)
    let official (model : String) : Bool := !model.endsWith "*" && modelIds.contains model
    let kept := rows.filter (keptModel modelIds)
    let pricing := db.modelPricing.filter official
    (.ok
      { modelsTotal := items.length
        createdOrUpdated := items.length
        deletedCatalogRows := rows.length - kept.length
        clearedCustomEntities := db.adminModelEntities
        clearedBillingRules := db.billingPricingRules
        deletedLegacyPricingRows := db.modelPricing.length - pricing.length
        syncedAt },
      { rows := kept, adminModelEntities := 0, billingPricingRules := 0, modelPricing := pricing })

/-- `admin_list_openai_model_catalog`. -/
def listPostgres (db : PgCatalog) : Result (List OpenAiModelCatalogItem) :=
  (sortedByModelId db.rows).mapM texts.pgItem

/-- `apply_openai_model_catalog_items` of the SQLite backend. -/
def applySqlite (limits : SqliteLimits) (syncedAt : DateTime)
    (items : List OpenAiModelCatalogItem) (db : List CatalogRow) :
    Result OpenAiModelsSyncResponse × List CatalogRow :=
  match sqliteInsert.executeAll .null texts.sqliteBinds items db with
  | .error item => (.error ("failed to upsert sqlite official model " ++ item.modelId), db)
  | .ok rows =>
    let done (kept : List CatalogRow) : Result OpenAiModelsSyncResponse × List CatalogRow :=
      (.ok
        { modelsTotal := items.length
          createdOrUpdated := items.length
          deletedCatalogRows := rows.length - kept.length
          clearedCustomEntities := 0
          clearedBillingRules := 0
          deletedLegacyPricingRows := 0
          syncedAt },
        kept)
    if items.isEmpty then done []
    else if limits.maxVariableNumber < items.length then
      (.error "failed to delete removed sqlite openai catalog rows", db)
    else done (rows.filter (keptModel (items.map (·.modelId))))

/-- `list_openai_model_catalog`. -/
def listSqlite (now : DateTime) (db : List CatalogRow) : Result (List OpenAiModelCatalogItem) :=
  (sortedByModelId db).mapM (texts.sqliteItem now)

end CatalogTexts

/-! ## Rows of items -/

theorem updatesAll_sqliteInsert : CatalogTexts.sqliteInsert.UpdatesAll := fun c => by
  cases c <;> decide

namespace CatalogTexts

variable (texts : CatalogTexts)

/-- The row that SQLite keeps of an item. -/
def sqliteRow (item : OpenAiModelCatalogItem) : CatalogRow :=
  fun c => ((catalogColumns.zip (texts.sqliteBinds item)).lookup c).getD .null

theorem pgInsert_newRow (item : OpenAiModelCatalogItem) :
    pgInsert.newRow .null (texts.pgBinds item) = none :=
  Insert.newRow_eq_none (by decide)

theorem sqliteInsert_newRow (item : OpenAiModelCatalogItem) :
    sqliteInsert.newRow .null (texts.sqliteBinds item) = some (texts.sqliteRow item) := by
  refine (if_pos ⟨by decide, rfl⟩).trans (congrArg some (funext fun c => ?_))
  cases c <;> rfl

end CatalogTexts

namespace CatalogValue

variable {row : CatalogRow}

theorem tryGetValue_text (c : CatalogColumn) {value : String} (h : row c = .text value) :
    tryGetValue asText row c = .ok value := by
  simp only [tryGetValue, tryGet, h, asText]
  rfl

theorem tryGet_ofOption {α : Type} (read : CatalogValue → Option α) (f : α → CatalogValue)
    (hread : ∀ a, read (f a) = some a) (hnull : ∀ a, f a ≠ .null) (c : CatalogColumn)
    {value : Option α} (h : row c = .ofOption f value) : tryGet read row c = .ok value := by
  cases value with
  | none => simp [tryGet, h, ofOption]
  | some a =>
      have hrow : row c = f a := h
      unfold tryGet
      rw [hrow]
      split
      · next hnil => exact absurd hnil (hnull a)
      · rw [hread]

theorem tryGet_text (c : CatalogColumn) {value : Option String}
    (h : row c = .ofOption .text value) : tryGet asText row c = .ok value :=
  tryGet_ofOption asText text (fun _ => rfl) (fun _ => by simp) c h

theorem tryGet_integer (c : CatalogColumn) {value : Option I64}
    (h : row c = .ofOption .integer value) : tryGet asInteger row c = .ok value :=
  tryGet_ofOption asInteger integer (fun _ => rfl) (fun _ => by simp) c h

theorem tryGet_flag (c : CatalogColumn) {value : Option Bool}
    (h : row c = .ofOption ofFlag value) : tryGet asFlag row c = .ok value :=
  tryGet_ofOption asFlag ofFlag (fun flag => by cases flag <;> decide) (fun _ => by simp [ofFlag])
    c h

end CatalogValue

namespace CatalogTexts

variable (texts : CatalogTexts)

theorem readList_text {α : Type} (parse : String → Option (List α)) (context : String)
    {row : CatalogRow} (c : CatalogColumn) {text : String} {items : List α}
    (h : row c = .text text) :
    readList parse context row c = .ok items ↔ parse text = some items := by
  have htext : CatalogValue.tryGet CatalogValue.asText row c = .ok (some text) := by
    simp [CatalogValue.tryGet, h, CatalogValue.asText]
  unfold readList
  rw [htext]
  change (match parse text with
    | some items => .ok items
    | none => .error ("failed to decode sqlite " ++ context ++ " json") : Result (List α)) =
      .ok items ↔ _
  cases parse text <;> simp

theorem readDate_ofOption {row : CatalogRow} (c : CatalogColumn) {date : Option DateTime}
    (h : row c = .ofOption (fun date => .text (texts.toRfc3339 date)) date) :
    texts.readDate row c = .ok date ↔
      ∀ d ∈ date, texts.parseFromRfc3339 (texts.toRfc3339 d) = some d := by
  have htext : CatalogValue.tryGet CatalogValue.asText row c = .ok (date.map texts.toRfc3339) := by
    cases date <;> simp [CatalogValue.tryGet, h, CatalogValue.asText, CatalogValue.ofOption]
  unfold readDate
  rw [htext]
  cases date with
  | none => simp [bind, Except.bind]
  | some d =>
      change (texts.parseCreatedAt (texts.toRfc3339 d)).map some = .ok (some d) ↔ _
      simp only [parseCreatedAt, Option.mem_some_iff, forall_eq']
      cases texts.parseFromRfc3339 (texts.toRfc3339 d) <;> simp [Except.map]

structure ReadsBack (item : OpenAiModelCatalogItem) : Prop where
  avatarSyncedAt : ∀ date ∈ item.avatarSyncedAt,
    texts.parseFromRfc3339 (texts.toRfc3339 date) = some date
  syncedAt : texts.parseFromRfc3339 (texts.toRfc3339 item.syncedAt) = some item.syncedAt
  pricingNoteItems :
    texts.toTexts (texts.ofTexts item.pricingNoteItems) = some item.pricingNoteItems
  inputModalities : texts.toTexts (texts.ofTexts item.inputModalities) = some item.inputModalities
  outputModalities :
    texts.toTexts (texts.ofTexts item.outputModalities) = some item.outputModalities
  endpoints : texts.toTexts (texts.ofTexts item.endpoints) = some item.endpoints
  supportedFeatures :
    texts.toTexts (texts.ofTexts item.supportedFeatures) = some item.supportedFeatures
  supportedTools : texts.toTexts (texts.ofTexts item.supportedTools) = some item.supportedTools
  snapshots : texts.toTexts (texts.ofTexts item.snapshots) = some item.snapshots
  modalityItems : texts.toSections (texts.ofSections item.modalityItems) = some item.modalityItems
  endpointItems : texts.toSections (texts.ofSections item.endpointItems) = some item.endpointItems
  featureItems : texts.toSections (texts.ofSections item.featureItems) = some item.featureItems
  toolItems : texts.toSections (texts.ofSections item.toolItems) = some item.toolItems
  snapshotItems :
    texts.toSnapshots (texts.ofSnapshots item.snapshotItems) = some item.snapshotItems

/-- What SQLite reads of the row of an item, but for the texts. -/
theorem sqliteItem_sqliteRow (now : DateTime) (item : OpenAiModelCatalogItem) :
    texts.sqliteItem now (texts.sqliteRow item) = (do
      let avatarSyncedAt ← texts.readDate (texts.sqliteRow item) .avatarSyncedAt
      let pricingNoteItems ←
        readList texts.toTexts "pricing note items" (texts.sqliteRow item) .pricingNoteItemsJson
      let inputModalities ←
        readList texts.toTexts "input modalities" (texts.sqliteRow item) .inputModalitiesJson
      let outputModalities ←
        readList texts.toTexts "output modalities" (texts.sqliteRow item) .outputModalitiesJson
      let endpoints ← readList texts.toTexts "endpoints" (texts.sqliteRow item) .endpointsJson
      let supportedFeatures ←
        readList texts.toTexts "supported features" (texts.sqliteRow item) .supportedFeaturesJson
      let supportedTools ←
        readList texts.toTexts "supported tools" (texts.sqliteRow item) .supportedToolsJson
      let snapshots ← readList texts.toTexts "snapshots" (texts.sqliteRow item) .snapshotsJson
      let modalityItems ←
        readList texts.toSections "modality items" (texts.sqliteRow item) .modalityItemsJson
      let endpointItems ←
        readList texts.toSections "endpoint items" (texts.sqliteRow item) .endpointItemsJson
      let featureItems ←
        readList texts.toSections "feature items" (texts.sqliteRow item) .featureItemsJson
      let toolItems ← readList texts.toSections "tool items" (texts.sqliteRow item) .toolItemsJson
      let snapshotItems ←
        readList texts.toSnapshots "snapshot items" (texts.sqliteRow item) .snapshotItemsJson
      let syncedAt ← (texts.readDate (texts.sqliteRow item) .syncedAt).map (·.getD now)
      .ok { item with
        avatarSyncedAt := avatarSyncedAt
        pricingNoteItems := pricingNoteItems
        inputModalities := inputModalities
        outputModalities := outputModalities
        endpoints := endpoints
        supportedFeatures := supportedFeatures
        supportedTools := supportedTools
        snapshots := snapshots
        modalityItems := modalityItems
        endpointItems := endpointItems
        featureItems := featureItems
        toolItems := toolItems
        snapshotItems := snapshotItems
        syncedAt := syncedAt }) := by
  have hmodel : CatalogValue.tryGetValue CatalogValue.asText (texts.sqliteRow item) .modelId =
      .ok item.modelId := CatalogValue.tryGetValue_text _ rfl
  have htext : ∀ c value, texts.sqliteRow item c = .ofOption .text value →
      CatalogValue.tryGet CatalogValue.asText (texts.sqliteRow item) c = .ok value :=
    fun c _ h => CatalogValue.tryGet_text c h
  have hinteger : ∀ c value, texts.sqliteRow item c = .ofOption .integer value →
      CatalogValue.tryGet CatalogValue.asInteger (texts.sqliteRow item) c = .ok value :=
    fun c _ h => CatalogValue.tryGet_integer c h
  have hflag : ∀ c value, texts.sqliteRow item c = .ofOption CatalogValue.ofFlag value →
      CatalogValue.tryGet CatalogValue.asFlag (texts.sqliteRow item) c = .ok value :=
    fun c _ h => CatalogValue.tryGet_flag c h
  unfold sqliteItem
  rw [hmodel, htext .ownedBy (some item.ownedBy) rfl, htext .title (some item.title) rfl,
    htext .sourceUrl (some item.sourceUrl) rfl,
    htext .displayName item.displayName rfl, htext .tagline item.tagline rfl,
    htext .family item.family rfl, htext .familyLabel item.familyLabel rfl,
    htext .description item.description rfl, htext .avatarRemoteUrl item.avatarRemoteUrl rfl,
    htext .avatarLocalPath item.avatarLocalPath rfl,
    htext .knowledgeCutoff item.knowledgeCutoff rfl, htext .pricingNotes item.pricingNotes rfl,
    htext .rawText item.rawText rfl,
    hinteger .contextWindowTokens item.contextWindowTokens rfl,
    hinteger .maxInputTokens item.maxInputTokens rfl,
    hinteger .maxOutputTokens item.maxOutputTokens rfl,
    hinteger .inputPriceMicrocredits item.inputPriceMicrocredits rfl,
    hinteger .cachedInputPriceMicrocredits item.cachedInputPriceMicrocredits rfl,
    hinteger .outputPriceMicrocredits item.outputPriceMicrocredits rfl,
    hflag .deprecated item.deprecated rfl,
    hflag .reasoningTokenSupport item.reasoningTokenSupport rfl]
  rfl

theorem readDate_map_getD (now : DateTime) {row : CatalogRow} (c : CatalogColumn)
    {date read : DateTime} (h : row c = .text (texts.toRfc3339 date)) :
    (texts.readDate row c).map (·.getD now) = .ok read ↔
      texts.parseFromRfc3339 (texts.toRfc3339 date) = some read := by
  have hdate : texts.readDate row c = (texts.parseCreatedAt (texts.toRfc3339 date)).map some := by
    simp only [readDate, CatalogValue.tryGet, h, CatalogValue.asText]
    rfl
  rw [hdate]
  simp only [parseCreatedAt]
  cases texts.parseFromRfc3339 (texts.toRfc3339 date) <;> simp [Except.map]

/-- SQLite reads an item as it was written exactly when its texts read back. -/
theorem sqliteItem_eq_ok_iff (now : DateTime) (item : OpenAiModelCatalogItem) :
    texts.sqliteItem now (texts.sqliteRow item) = .ok item ↔ texts.ReadsBack item := by
  rw [sqliteItem_sqliteRow]
  constructor
  · intro h
    obtain ⟨avatar, havatar, h⟩ := Result.bind_eq_ok.1 h
    obtain ⟨pricingNoteItems, hpricingNoteItems, h⟩ := Result.bind_eq_ok.1 h
    obtain ⟨inputModalities, hinputModalities, h⟩ := Result.bind_eq_ok.1 h
    obtain ⟨outputModalities, houtputModalities, h⟩ := Result.bind_eq_ok.1 h
    obtain ⟨endpoints, hendpoints, h⟩ := Result.bind_eq_ok.1 h
    obtain ⟨supportedFeatures, hsupportedFeatures, h⟩ := Result.bind_eq_ok.1 h
    obtain ⟨supportedTools, hsupportedTools, h⟩ := Result.bind_eq_ok.1 h
    obtain ⟨snapshots, hsnapshots, h⟩ := Result.bind_eq_ok.1 h
    obtain ⟨modalityItems, hmodalityItems, h⟩ := Result.bind_eq_ok.1 h
    obtain ⟨endpointItems, hendpointItems, h⟩ := Result.bind_eq_ok.1 h
    obtain ⟨featureItems, hfeatureItems, h⟩ := Result.bind_eq_ok.1 h
    obtain ⟨toolItems, htoolItems, h⟩ := Result.bind_eq_ok.1 h
    obtain ⟨snapshotItems, hsnapshotItems, h⟩ := Result.bind_eq_ok.1 h
    obtain ⟨synced, hsynced, h⟩ := Result.bind_eq_ok.1 h
    have hitem := Except.ok.inj h
    obtain rfl : avatar = item.avatarSyncedAt := congrArg (·.avatarSyncedAt) hitem
    obtain rfl : synced = item.syncedAt := congrArg (·.syncedAt) hitem
    obtain rfl : pricingNoteItems = item.pricingNoteItems := congrArg (·.pricingNoteItems) hitem
    obtain rfl : inputModalities = item.inputModalities := congrArg (·.inputModalities) hitem
    obtain rfl : outputModalities = item.outputModalities := congrArg (·.outputModalities) hitem
    obtain rfl : endpoints = item.endpoints := congrArg (·.endpoints) hitem
    obtain rfl : supportedFeatures = item.supportedFeatures := congrArg (·.supportedFeatures) hitem
    obtain rfl : supportedTools = item.supportedTools := congrArg (·.supportedTools) hitem
    obtain rfl : snapshots = item.snapshots := congrArg (·.snapshots) hitem
    obtain rfl : modalityItems = item.modalityItems := congrArg (·.modalityItems) hitem
    obtain rfl : endpointItems = item.endpointItems := congrArg (·.endpointItems) hitem
    obtain rfl : featureItems = item.featureItems := congrArg (·.featureItems) hitem
    obtain rfl : toolItems = item.toolItems := congrArg (·.toolItems) hitem
    obtain rfl : snapshotItems = item.snapshotItems := congrArg (·.snapshotItems) hitem
    exact
      { avatarSyncedAt := (texts.readDate_ofOption _ rfl).1 havatar
        syncedAt := (texts.readDate_map_getD now _ rfl).1 hsynced
        pricingNoteItems := (readList_text _ _ _ rfl).1 hpricingNoteItems
        inputModalities := (readList_text _ _ _ rfl).1 hinputModalities
        outputModalities := (readList_text _ _ _ rfl).1 houtputModalities
        endpoints := (readList_text _ _ _ rfl).1 hendpoints
        supportedFeatures := (readList_text _ _ _ rfl).1 hsupportedFeatures
        supportedTools := (readList_text _ _ _ rfl).1 hsupportedTools
        snapshots := (readList_text _ _ _ rfl).1 hsnapshots
        modalityItems := (readList_text _ _ _ rfl).1 hmodalityItems
        endpointItems := (readList_text _ _ _ rfl).1 hendpointItems
        featureItems := (readList_text _ _ _ rfl).1 hfeatureItems
        toolItems := (readList_text _ _ _ rfl).1 htoolItems
        snapshotItems := (readList_text _ _ _ rfl).1 hsnapshotItems }
  · intro h
    rw [(texts.readDate_ofOption .avatarSyncedAt rfl).2 h.avatarSyncedAt,
      (texts.readDate_map_getD now .syncedAt rfl).2 h.syncedAt,
      (readList_text _ _ .pricingNoteItemsJson rfl).2 h.pricingNoteItems,
      (readList_text _ _ .inputModalitiesJson rfl).2 h.inputModalities,
      (readList_text _ _ .outputModalitiesJson rfl).2 h.outputModalities,
      (readList_text _ _ .endpointsJson rfl).2 h.endpoints,
      (readList_text _ _ .supportedFeaturesJson rfl).2 h.supportedFeatures,
      (readList_text _ _ .supportedToolsJson rfl).2 h.supportedTools,
      (readList_text _ _ .snapshotsJson rfl).2 h.snapshots,
      (readList_text _ _ .modalityItemsJson rfl).2 h.modalityItems,
      (readList_text _ _ .endpointItemsJson rfl).2 h.endpointItems,
      (readList_text _ _ .featureItemsJson rfl).2 h.featureItems,
      (readList_text _ _ .toolItemsJson rfl).2 h.toolItems,
      (readList_text _ _ .snapshotItemsJson rfl).2 h.snapshotItems]
    rfl

end CatalogTexts

/-! ## Round trips -/

/-- The rows of a table with `model_id` as its primary key. -/
structure KeyedByModelId (rows : List CatalogRow) : Prop where
  text : ∀ row ∈ rows, ∃ modelId, row .modelId = .text modelId
  nodup : (rows.map (· .modelId)).Nodup

def sortedItems (items : List OpenAiModelCatalogItem) : List OpenAiModelCatalogItem :=
  items.insertionSort fun a b => a.modelId ≤ b.modelId

def RoundTrips {Tables : Type} (apply : List OpenAiModelCatalogItem → Tables →
      Result OpenAiModelsSyncResponse × Tables)
    (list : Tables → Result (List OpenAiModelCatalogItem)) (items : List OpenAiModelCatalogItem)
    (tables : Tables) : Prop :=
  (∃ response, (apply items tables).1 = .ok response) ∧
    list (apply items tables).2 = .ok (sortedItems items)

theorem keptModel_iff {modelIds : List String} {row : CatalogRow} {modelId : String}
    (h : row .modelId = .text modelId) :
    keptModel modelIds row = true ↔ modelId ∈ modelIds := by
  simp [keptModel, h]

theorem mapM_map_eq_ok_iff {α β : Type} {f : α → β} {g : β → Result α} {xs : List α} :
    (xs.map f).mapM g = .ok xs ↔ ∀ x ∈ xs, g (f x) = .ok x := by
  induction xs with
  | nil => simp [pure, Except.pure]
  | cons x xs ih =>
      rw [List.map_cons, List.mapM_cons, Result.bind_eq_ok, List.forall_mem_cons, ← ih]
      constructor
      · rintro ⟨y, hy, h⟩
        obtain ⟨ys, hys, h⟩ := Result.bind_eq_ok.1 h
        obtain ⟨rfl, rfl⟩ := List.cons.inj (Except.ok.inj h)
        exact ⟨hy, hys⟩
      · rintro ⟨hx, hxs⟩
        exact ⟨x, hx, Result.bind_eq_ok.2 ⟨xs, hxs, rfl⟩⟩

namespace CatalogTexts

variable (texts : CatalogTexts)

/-- In Postgres only the empty list of models is synchronised. -/
theorem roundTrips_postgres_iff (syncedAt : DateTime) (items : List OpenAiModelCatalogItem)
    {db : PgCatalog} (hdb : KeyedByModelId db.rows) :
    RoundTrips (texts.applyPostgres syncedAt) texts.listPostgres items db ↔ items = [] := by
  cases items with
  | nil =>
      have hnone : db.rows.filter (keptModel []) = [] := by
        refine List.filter_eq_nil_iff.2 fun row hrow => ?_
        obtain ⟨modelId, hid⟩ := hdb.text row hrow
        simp [keptModel, hid]
      refine iff_of_true ⟨⟨_, rfl⟩, ?_⟩ rfl
      change ((sortedByModelId (db.rows.filter (keptModel []))).mapM texts.pgItem) = _
      rw [hnone]
      rfl
  | cons item items =>
      refine iff_of_false (fun h => ?_) (by simp)
      obtain ⟨response, hresponse⟩ := h.1
      simp only [applyPostgres,
        Insert.executeAll_cons_eq_error items (texts.pgInsert_newRow item)] at hresponse
      cases hresponse

/-- The rows that remain after a synchronisation of SQLite, in the order of the catalogue. -/
theorem sortedByModelId_synced {items : List OpenAiModelCatalogItem}
    (hids : (items.map (·.modelId)).Nodup) {rows : List CatalogRow} (hrows : KeyedByModelId rows) :
    sortedByModelId ((items.foldl (fun rows item => Keyed.upsertBy
        (fun r : CatalogRow => r .modelId) (texts.sqliteRow item) rows) rows).filter
          (keptModel (items.map (·.modelId)))) =
      (sortedItems items).map texts.sqliteRow := by
  have hkeys : (items.map fun item => texts.sqliteRow item .modelId).Nodup := by
    have htexts := hids.map (f := CatalogValue.text) fun a b hab => CatalogValue.text.inj hab
    rwa [List.map_map] at htexts
  have hkept : ∀ row ∈ rows, keptModel (items.map (·.modelId)) row = true ↔
      ∃ item ∈ items, texts.sqliteRow item .modelId = row .modelId := by
    intro row hrow
    obtain ⟨modelId, hid⟩ := hrows.text row hrow
    rw [keptModel_iff hid, List.mem_map, hid]
    exact exists_congr fun item => and_congr_right fun _ => CatalogValue.text.injEq .. ▸ Iff.rfl
  have hnew : ∀ item ∈ items, keptModel (items.map (·.modelId)) (texts.sqliteRow item) = true :=
    fun item hitem => (keptModel_iff rfl).2 (List.mem_map_of_mem hitem)
  have hperm := perm_filter_foldl_upsertBy hrows.nodup hkeys hkept hnew
  have htext : ∀ item, modelIdText (texts.sqliteRow item) = item.modelId := fun _ => rfl
  have hnodup : ((items.map texts.sqliteRow).map modelIdText).Nodup := by
    simpa [Function.comp_def, htext] using hids
  have hsorted := insertionSort_eq_of_perm (fun a b : String => a ≤ b) hperm.symm hnodup
  rw [sortedByModelId, ← hsorted]
  exact (List.map_insertionSort _ _ _ _ fun a _ b _ => by rw [htext, htext]).symm

/-- In SQLite a list of models is synchronised that one statement can name, and whose texts read
back. -/
theorem roundTrips_sqlite_iff_readsBack (limits : SqliteLimits) (syncedAt now : DateTime)
    {items : List OpenAiModelCatalogItem} (hids : (items.map (·.modelId)).Nodup)
    {rows : List CatalogRow} (hrows : KeyedByModelId rows) :
    RoundTrips (texts.applySqlite limits syncedAt) (texts.listSqlite now) items rows ↔
      items.length ≤ limits.maxVariableNumber ∧ ∀ item ∈ items, texts.ReadsBack item := by
  have hexec : sqliteInsert.executeAll .null texts.sqliteBinds items rows =
      .ok (items.foldl (fun rows item => Keyed.upsertBy (fun r : CatalogRow => r .modelId)
        (texts.sqliteRow item) rows) rows) :=
    Insert.executeAll_eq_foldl updatesAll_sqliteInsert texts.sqliteInsert_newRow items rows
  by_cases hempty : items = []
  · subst hempty
    exact iff_of_true ⟨⟨_, rfl⟩, rfl⟩ ⟨Nat.zero_le _, by simp⟩
  by_cases hlong : limits.maxVariableNumber < items.length
  · refine iff_of_false (fun h => ?_) fun h => absurd h.1 (by omega)
    obtain ⟨response, hresponse⟩ := h.1
    simp [applySqlite, hexec, hempty, hlong] at hresponse
  · have hlist : (texts.applySqlite limits syncedAt items rows).2 =
        (items.foldl (fun rows item => Keyed.upsertBy (fun r : CatalogRow => r .modelId)
          (texts.sqliteRow item) rows) rows).filter (keptModel (items.map (·.modelId))) := by
      simp [applySqlite, hexec, hempty, hlong]
    have hok : ∃ response, (texts.applySqlite limits syncedAt items rows).1 = .ok response := by
      simp [applySqlite, hexec, hempty, hlong]
    have hmem : (∀ item ∈ sortedItems items, texts.sqliteItem now (texts.sqliteRow item) =
        .ok item) ↔ ∀ item ∈ items, texts.ReadsBack item := by
      simp only [sortedItems, List.mem_insertionSort, texts.sqliteItem_eq_ok_iff now]
    rw [RoundTrips, hlist, listSqlite, texts.sortedByModelId_synced hids hrows,
      mapM_map_eq_ok_iff, hmem]
    exact and_congr_left fun _ => iff_of_true hok (Nat.le_of_not_lt hlong)

end CatalogTexts

/-! ## Lists that read back -/

def OpenAiModelCatalogItem.jsonLists (item : OpenAiModelCatalogItem) : List Json :=
  [.arr (item.pricingNoteItems.map .str), .arr (item.inputModalities.map .str),
    .arr (item.outputModalities.map .str), .arr (item.endpoints.map .str),
    .arr (item.supportedFeatures.map .str), .arr (item.supportedTools.map .str),
    .arr (item.snapshots.map .str), .arr (item.modalityItems.map (·.toValue)),
    .arr (item.endpointItems.map (·.toValue)), .arr (item.featureItems.map (·.toValue)),
    .arr (item.toolItems.map (·.toValue)), .arr (item.snapshotItems.map (·.toValue))]

theorem mapM_map_eq_some {α β : Type} {f : α → β} {g : β → Option α} (h : ∀ x, g (f x) = some x)
    (xs : List α) : (xs.map f).mapM g = some xs := by
  induction xs with
  | nil => rfl
  | cons x xs ih => simp [List.mapM_cons, h, ih]

theorem textsOfValue_arr (items : List String) :
    textsOfValue (.arr (items.map .str)) = some items :=
  mapM_map_eq_some (f := Json.str) (g := Json.asStr) (fun _ => rfl) items

theorem OpenAiModelSectionItem.ofValue_toValue (item : OpenAiModelSectionItem) :
    ofValue item.toValue = some item := by
  obtain ⟨key, label, detail, status, iconSvg⟩ := item
  have hget : ∀ k, (toValue ⟨key, label, detail, status, iconSvg⟩).get k = _ :=
    fun k => Json.get_ofFields k _
  simp only [ofValue, Json.getStr, optionalText, hget]
  cases detail <;> cases status <;> cases iconSvg <;> simp [Json.lookupField, Json.asStr]

theorem OpenAiModelSnapshotItem.ofValue_toValue (item : OpenAiModelSnapshotItem) :
    ofValue item.toValue = some item := by
  obtain ⟨aliasName, label, latestSnapshot, versions⟩ := item
  have hget : ∀ k, (toValue ⟨aliasName, label, latestSnapshot, versions⟩).get k = _ :=
    fun k => Json.get_ofFields k _
  simp only [ofValue, Json.getStr, optionalText, hget]
  cases latestSnapshot <;> simp [Json.lookupField, Json.asStr, textsOfValue_arr]

namespace CatalogTexts

variable (texts : CatalogTexts)

def GivesBackLists (item : OpenAiModelCatalogItem) : Prop :=
  ∀ value ∈ item.jsonLists, texts.codec.fromStr (texts.codec.toText value) = some value

structure DatesReadBack (item : OpenAiModelCatalogItem) : Prop where
  avatarSyncedAt : ∀ date ∈ item.avatarSyncedAt,
    texts.parseFromRfc3339 (texts.toRfc3339 date) = some date
  syncedAt : texts.parseFromRfc3339 (texts.toRfc3339 item.syncedAt) = some item.syncedAt

variable {texts}

theorem toTexts_ofTexts {items : List String}
    (h : texts.codec.fromStr (texts.ofTexts items) = some (.arr (items.map .str))) :
    texts.toTexts (texts.ofTexts items) = some items := by
  rw [toTexts, h, Option.bind_some, textsOfValue_arr]

theorem toSections_ofSections {items : List OpenAiModelSectionItem}
    (h : texts.codec.fromStr (texts.ofSections items) = some (.arr (items.map (·.toValue)))) :
    texts.toSections (texts.ofSections items) = some items := by
  rw [toSections, h]
  exact mapM_map_eq_some OpenAiModelSectionItem.ofValue_toValue items

theorem toSnapshots_ofSnapshots {items : List OpenAiModelSnapshotItem}
    (h : texts.codec.fromStr (texts.ofSnapshots items) = some (.arr (items.map (·.toValue)))) :
    texts.toSnapshots (texts.ofSnapshots items) = some items := by
  rw [toSnapshots, h]
  exact mapM_map_eq_some OpenAiModelSnapshotItem.ofValue_toValue items

theorem readsBack_iff {item : OpenAiModelCatalogItem} (h : texts.GivesBackLists item) :
    texts.ReadsBack item ↔ texts.DatesReadBack item := by
  refine ⟨fun hread => ⟨hread.avatarSyncedAt, hread.syncedAt⟩, fun hdates => ?_⟩
  simp only [GivesBackLists, OpenAiModelCatalogItem.jsonLists, List.forall_mem_cons] at h
  obtain ⟨hnotes, hinput, houtput, hendpoints, hfeatures, htools, hsnapshots, hmodalityItems,
    hendpointItems, hfeatureItems, htoolItems, hsnapshotItems, -⟩ := h
  exact
    { avatarSyncedAt := hdates.avatarSyncedAt
      syncedAt := hdates.syncedAt
      pricingNoteItems := toTexts_ofTexts hnotes
      inputModalities := toTexts_ofTexts hinput
      outputModalities := toTexts_ofTexts houtput
      endpoints := toTexts_ofTexts hendpoints
      supportedFeatures := toTexts_ofTexts hfeatures
      supportedTools := toTexts_ofTexts htools
      snapshots := toTexts_ofTexts hsnapshots
      modalityItems := toSections_ofSections hmodalityItems
      endpointItems := toSections_ofSections hendpointItems
      featureItems := toSections_ofSections hfeatureItems
      toolItems := toSections_ofSections htoolItems
      snapshotItems := toSnapshots_ofSnapshots hsnapshotItems }

end CatalogTexts

/-- The official models are synchronised in Postgres when there are none; in SQLite, when one
statement can name them and their dates read back. -/
theorem catalogSync_roundTrips_iff (texts : CatalogTexts) (limits : SqliteLimits)
    (syncedAt now : DateTime) {items : List OpenAiModelCatalogItem}
    (hids : (items.map (·.modelId)).Nodup) (hcodec : ∀ item ∈ items, texts.GivesBackLists item)
    {db : PgCatalog} (hdb : KeyedByModelId db.rows) {rows : List CatalogRow}
    (hrows : KeyedByModelId rows) :
    (RoundTrips (texts.applyPostgres syncedAt) texts.listPostgres items db ↔ items = []) ∧
      (RoundTrips (texts.applySqlite limits syncedAt) (texts.listSqlite now) items rows ↔
        items.length ≤ limits.maxVariableNumber ∧ ∀ item ∈ items, texts.DatesReadBack item) := by
  refine ⟨texts.roundTrips_postgres_iff syncedAt items hdb, ?_⟩
  rw [texts.roundTrips_sqlite_iff_readsBack limits syncedAt now hids hrows]
  exact and_congr_right fun _ => forall₂_congr fun item hitem =>
    CatalogTexts.readsBack_iff (hcodec item hitem)

/-! ## Two models -/

/-- The empty list, the list of one text, and one date. -/
def sampleCatalogTexts : CatalogTexts where
  codec := {
    fromSlice := fun bytes =>
      some (.arr (if bytes = Bytes.ofAscii "[]" then [] else [.str "text"]))
    toText
      | .arr [] => "[]"
      | _ => "[\"text\"]" }
  toRfc3339 _ := "1970-01-01T00:00:00+00:00"
  parseFromRfc3339 _ := some 0

def sampleCatalogItem : OpenAiModelCatalogItem where
  modelId := "gpt-5"
  ownedBy := "openai"
  title := "GPT-5"
  displayName := none
  tagline := none
  family := none
  familyLabel := none
  description := none
  avatarRemoteUrl := none
  avatarLocalPath := none
  avatarSyncedAt := none
  deprecated := some false
  contextWindowTokens := none
  maxInputTokens := none
  maxOutputTokens := none
  knowledgeCutoff := none
  reasoningTokenSupport := some true
  inputPriceMicrocredits := none
  cachedInputPriceMicrocredits := none
  outputPriceMicrocredits := none
  pricingNotes := none
  pricingNoteItems := []
  inputModalities := ["text"]
  outputModalities := ["text"]
  endpoints := []
  supportedFeatures := []
  supportedTools := []
  snapshots := []
  modalityItems := []
  endpointItems := []
  featureItems := []
  toolItems := []
  snapshotItems := []
  sourceUrl := "https://developers.openai.com/api/docs/models/gpt-5"
  rawText := none
  syncedAt := 0

def emptyPgCatalog : PgCatalog where
  rows := []
  adminModelEntities := 0
  billingPricingRules := 0
  modelPricing := []

def defaultSqliteLimits : SqliteLimits := ⟨32766, by decide⟩

theorem keyedByModelId_nil : KeyedByModelId [] := ⟨by simp, List.nodup_nil⟩

def sampleCatalogItems : List OpenAiModelCatalogItem :=
  [sampleCatalogItem,
    { sampleCatalogItem with modelId := "gpt-4", outputModalities := [], avatarSyncedAt := some 0 }]

/-- The row of a model that is listed no more. -/
def retiredCatalogRow : CatalogRow :=
  sampleCatalogTexts.sqliteRow { sampleCatalogItem with modelId := "gpt-3" }

theorem keyedByModelId_retiredCatalogRow : KeyedByModelId [retiredCatalogRow] where
  text row hrow := by
    obtain rfl := List.mem_singleton.1 hrow
    exact ⟨"gpt-3", rfl⟩
  nodup := List.nodup_singleton _

theorem sampleCatalogItems_givesBackLists :
    ∀ item ∈ sampleCatalogItems, sampleCatalogTexts.GivesBackLists item := by
  have hlists : ∀ item ∈ sampleCatalogItems, ∀ value ∈ item.jsonLists,
      value = .arr [] ∨ value = .arr [.str "text"] := by
    simp [sampleCatalogItems, sampleCatalogItem, OpenAiModelCatalogItem.jsonLists]
  have hempty : "[]".toUTF8.toList = Bytes.ofAscii "[]" := by decide +kernel
  have htext : "[\"text\"]".toUTF8.toList ≠ Bytes.ofAscii "[]" := by decide +kernel
  intro item hitem value hvalue
  obtain rfl | rfl := hlists item hitem value hvalue
  · simp only [SerdeJson.fromStr, sampleCatalogTexts, hempty, if_true]
  · simp only [SerdeJson.fromStr, sampleCatalogTexts, htext, if_false]

theorem sampleCatalogItems_datesReadBack :
    ∀ item ∈ sampleCatalogItems, sampleCatalogTexts.DatesReadBack item := by
  have hdates : ∀ item ∈ sampleCatalogItems, item.syncedAt = 0 ∧ ∀ date ∈ item.avatarSyncedAt,
      date = 0 := by
    simp [sampleCatalogItems, sampleCatalogItem]
  intro item hitem
  obtain ⟨hsynced, havatar⟩ := hdates item hitem
  exact ⟨fun date hdate => congrArg some (havatar date hdate).symm, congrArg some hsynced.symm⟩

/-- SQLite lists two models after their synchronisation and a third one no more, Postgres does
not. -/
theorem catalogSync_roundTrips_sample :
    ¬ RoundTrips (sampleCatalogTexts.applyPostgres 0) sampleCatalogTexts.listPostgres
        sampleCatalogItems emptyPgCatalog ∧
      RoundTrips (sampleCatalogTexts.applySqlite defaultSqliteLimits 0)
        (sampleCatalogTexts.listSqlite 0) sampleCatalogItems [retiredCatalogRow] := by
  have hids : (sampleCatalogItems.map (·.modelId)).Nodup := by decide
  have hdb : KeyedByModelId emptyPgCatalog.rows := keyedByModelId_nil
  have hiff := catalogSync_roundTrips_iff sampleCatalogTexts defaultSqliteLimits 0 0 hids
    sampleCatalogItems_givesBackLists hdb keyedByModelId_retiredCatalogRow
  exact ⟨fun h => List.cons_ne_nil _ _ (hiff.1.1 h),
    hiff.2.2 ⟨by decide, sampleCatalogItems_datesReadBack⟩⟩

/-- The synchronisation of two models fails in Postgres. -/
theorem not_catalogSync_roundTrips :
    ¬ ∀ (texts : CatalogTexts) (limits : SqliteLimits) (syncedAt now : DateTime)
      (items : List OpenAiModelCatalogItem) (db : PgCatalog) (rows : List CatalogRow),
      (items.map (·.modelId)).Nodup → (∀ item ∈ items, texts.GivesBackLists item) →
      (∀ item ∈ items, texts.DatesReadBack item) → items.length ≤ limits.maxVariableNumber →
      KeyedByModelId db.rows → KeyedByModelId rows →
      RoundTrips (texts.applyPostgres syncedAt) texts.listPostgres items db ∧
        RoundTrips (texts.applySqlite limits syncedAt) (texts.listSqlite now) items rows := by
  intro h
  have hpostgres := (h sampleCatalogTexts defaultSqliteLimits 0 0 sampleCatalogItems
    emptyPgCatalog [] (by decide) sampleCatalogItems_givesBackLists
    sampleCatalogItems_datesReadBack (by decide) keyedByModelId_nil keyedByModelId_nil).1
  have hempty := (sampleCatalogTexts.roundTrips_postgres_iff 0 sampleCatalogItems
    keyedByModelId_nil).1 hpostgres
  exact List.cons_ne_nil _ _ hempty

end CodexPool
