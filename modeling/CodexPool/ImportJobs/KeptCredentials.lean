import CodexPool.ImportJobs.Records
import CodexPool.ImportJobs.RunJob

/-!
# Credentials in an upload

A token can stand under several names. The name that records are decoded with is filled from the
others when the record does not have it, and a blank token is dropped after the record has been
decoded. So a record that has the name, with nothing under it, hides the tokens under the others.
-/

namespace CodexPool

open Json (HoldsText HasText)

variable {v object value : Json}

theorem getNestedString_eq_some_iff {path : List String} {text : String}
    (hpath : path ≠ []) : getNestedString v path = some text ↔ v.HoldsText path text := by
  rw [getNestedString, if_neg (by simpa using hpath), Text.trimmed?_eq_some_iff, ← Json.part_keys]
  unfold HoldsText
  simp only [Option.bind_eq_some_iff, Json.asStr_eq_some_iff, exists_eq_right]

theorem getNestedString_singleton (v : Json) (key : String) :
    getNestedString v [key] = Text.trimmed? (v.getStr key) := by
  rw [getNestedString, if_neg (by simp), Json.getStr, List.foldlM_cons]
  cases v.get key <;> rfl

theorem trimmed?_of_getNestedString {path : List String} {text : String}
    (h : getNestedString v path = some text) : Text.trimmed? (some text) = some text := by
  unfold getNestedString at h
  split at h
  · exact absurd h (by simp)
  · exact Text.trimmed?_trimmed? h

/-! ## The first text under several names -/

def firstText (v : Json) (paths : List (List String)) : Option String :=
  paths.findSome? (getNestedString v)

theorem firstText_append (v : Json) (paths paths' : List (List String)) :
    firstText v (paths ++ paths') = (firstText v paths).or (firstText v paths') :=
  List.findSome?_append

theorem getString_eq_firstText (v : Json) (keys : List String) :
    getString v keys = firstText v (keys.map ([·])) := by
  rw [getString, firstText, List.findSome?_map]
  congr
  funext key
  exact (getNestedString_singleton v key).symm

theorem nestedToken_eq_firstText (v : Json) (key : String) :
    nestedToken v key = firstText v (tokenParents.map ([·, key])) := by
  rw [nestedToken, firstText, List.findSome?_map]
  rfl

theorem firstText_eq_some {paths : List (List String)} {text : String}
    (hpaths : [] ∉ paths) (h : firstText v paths = some text) :
    ∃ path ∈ paths, v.HoldsText path text := by
  obtain ⟨path, hmem, htext⟩ := List.exists_of_findSome?_eq_some h
  have hne : path ≠ [] := fun hnil => hpaths (hnil ▸ hmem)
  exact ⟨path, hmem, (getNestedString_eq_some_iff hne).1 htext⟩

theorem firstText_eq_none_iff {paths : List (List String)} (hpaths : [] ∉ paths) :
    firstText v paths = none ↔ ¬ v.HasText paths := by
  rw [firstText, List.findSome?_eq_none_iff]
  unfold HasText
  simp only [not_exists, not_and]
  apply forall₂_congr
  intro path hmem
  have hne : path ≠ [] := fun hnil => hpaths (hnil ▸ hmem)
  rw [Option.eq_none_iff_forall_ne_some]
  exact forall_congr' fun text => not_congr (getNestedString_eq_some_iff hne)

/-! ## Fields that are filled -/

section Fill

variable {key : String} {find : Json → Option Json} {object : Json}

theorem get_fillField_of_ne {k : String} (h : k ≠ key) :
    (fillField key find object).get k = object.get k := by
  unfold fillField
  split
  · rfl
  · split
    · exact Json.get_insert_of_ne object h _
    · rfl

theorem get_fillField_self (hobject : object.isObject = true) :
    (fillField key find object).get key = (object.get key).or (find object) := by
  unfold fillField
  cases hkey : object.get key with
  | some value =>
      rw [if_pos (by rfl), hkey]
      rfl
  | none =>
      rw [if_neg (by simp)]
      cases find object with
      | some value => exact Json.get_insert_self hobject key value
      | none => exact hkey

theorem isObject_fillField : (fillField key find object).isObject = object.isObject := by
  unfold fillField
  split
  · rfl
  · split
    · exact Json.isObject_insert object _ _
    · rfl

theorem getNestedString_fillField {k : String} {path : List String} (h : k ≠ key) :
    getNestedString (fillField key find object) (k :: path) =
      getNestedString object (k :: path) := by
  unfold getNestedString
  rw [List.foldlM_cons, List.foldlM_cons, get_fillField_of_ne h]

theorem firstText_fillField {paths : List (List String)}
    (h : ∀ path ∈ paths, ∃ k rest, path = k :: rest ∧ k ≠ key) :
    firstText (fillField key find object) paths = firstText object paths := by
  unfold firstText
  induction paths with
  | nil => rfl
  | cons path paths ih =>
      obtain ⟨k, rest, rfl, hne⟩ := h path List.mem_cons_self
      rw [List.findSome?_cons, List.findSome?_cons, getNestedString_fillField hne,
        ih fun path' hmem => h path' (List.mem_cons_of_mem _ hmem)]

end Fill

/-- The names that are filled after the tokens. -/
def otherFields : List String :=
  ["type", "chatgpt_account_id", "account_id", "email", "label", "base_url", "priority", "enabled"]

theorem get_fillOtherFields {k : String} (h : k ∉ otherFields) :
    (fillOtherFields object).get k = object.get k := by
  simp only [otherFields, List.mem_cons, List.not_mem_nil, not_or, or_false] at h
  obtain ⟨htype, hchatgpt, haccount, hemail, hlabel, hbase, hpriority, henabled⟩ := h
  have hfill : (fillType object).get k = object.get k := by
    unfold fillType fillText
    split
    · rfl
    · exact get_fillField_of_ne htype
  unfold fillOtherFields fillText
  rw [get_fillField_of_ne henabled, get_fillField_of_ne hpriority, get_fillField_of_ne hbase,
    get_fillField_of_ne hlabel, get_fillField_of_ne hemail, get_fillField_of_ne haccount,
    get_fillField_of_ne hchatgpt, hfill]

/-! ## The tokens of a record -/

/-- The names of a token other than the one that records are decoded with. -/
def otherPaths (key : String) (aliases : List String) : List (List String) :=
  aliases.map ([·]) ++ tokenParents.map ([·, key])

def refreshTokenPaths : List (List String) :=
  ["refresh_token"] :: otherPaths "refresh_token" refreshTokenAliases

def accessTokenPaths : List (List String) :=
  ["access_token"] :: otherPaths "access_token" accessTokenAliases

theorem get_fillToken_self (hobject : object.isObject = true) (key : String)
    (aliases : List String) :
    (fillToken key aliases object).get key =
      (object.get key).or ((firstText object (otherPaths key aliases)).map .str) := by
  rw [fillToken, get_fillField_self hobject, getString_eq_firstText, nestedToken_eq_firstText,
    otherPaths, firstText_append]

theorem get_refreshToken (hobject : value.isObject = true) :
    (normalizeRecordAliases value).get "refresh_token" = (value.get "refresh_token").or
      ((firstText value (otherPaths "refresh_token" refreshTokenAliases)).map .str) := by
  rw [normalizeRecordAliases, hobject, Bool.not_true, if_neg Bool.false_ne_true,
    get_fillOtherFields (by decide), fillToken, get_fillField_of_ne (by decide),
    get_fillToken_self hobject]

theorem get_accessToken (hobject : value.isObject = true) :
    (normalizeRecordAliases value).get "access_token" = (value.get "access_token").or
      ((firstText value (otherPaths "access_token" accessTokenAliases)).map .str) := by
  have hfirst : firstText (fillToken "refresh_token" refreshTokenAliases value)
      (otherPaths "access_token" accessTokenAliases) =
        firstText value (otherPaths "access_token" accessTokenAliases) := by
    apply firstText_fillField
    simp [otherPaths, accessTokenAliases, tokenParents]
  rw [normalizeRecordAliases, hobject, Bool.not_true, if_neg Bool.false_ne_true,
    get_fillOtherFields (by decide), get_fillToken_self, hfirst, fillToken,
    get_fillField_of_ne (by decide)]
  exact isObject_fillField.trans hobject

theorem get_bearerToken (hobject : value.isObject = true) :
    (normalizeRecordAliases value).get "bearer_token" = value.get "bearer_token" := by
  rw [normalizeRecordAliases, hobject, Bool.not_true, if_neg Bool.false_ne_true,
    get_fillOtherFields (by decide), fillToken, get_fillField_of_ne (by decide), fillToken,
    get_fillField_of_ne (by decide)]

theorem isObject_normalizeRecordAliases (hobject : value.isObject = true) :
    (normalizeRecordAliases value).isObject = true := by
  rw [normalizeRecordAliases, hobject, Bool.not_true, if_neg Bool.false_ne_true]
  unfold fillOtherFields fillText fillToken
  simp only [isObject_fillField]
  unfold fillType fillText
  split
  · rw [isObject_fillField, isObject_fillField, hobject]
  · rw [isObject_fillField, isObject_fillField, isObject_fillField, hobject]

/-! ## Decoding -/

theorem optionalField_asStr {value : Option Json} {text : Option String}
    (h : optionalField Json.asStr value = some text) :
    text = value.bind Json.asStr ∧ ∀ v, value = some v → v = .null ∨ ∃ raw, v = .str raw := by
  cases value with
  | none => exact ⟨(Option.some.inj h).symm, fun v hv => absurd hv (by simp)⟩
  | some v =>
      cases v with
      | null => exact ⟨(Option.some.inj h).symm, fun v hv => Or.inl (Option.some.inj hv).symm⟩
      | str raw =>
          exact ⟨(Option.some.inj h).symm, fun v hv => Or.inr ⟨raw, (Option.some.inj hv).symm⟩⟩
      | _ => exact absurd h (by simp [optionalField, Json.asStr])

structure DecodedTokens (object : Json) (record : CredentialRecord) : Prop where
  refreshToken : optionalField Json.asStr (object.get "refresh_token") = some record.refreshToken
  accessToken : optionalField Json.asStr (object.get "access_token") = some record.accessToken
  bearerToken : optionalField Json.asStr (object.get "bearer_token") = some record.bearerToken

theorem decodedTokens (hobject : object.isObject = true)
    {record : CredentialRecord} (h : CredentialRecord.fromValue object = some record) :
    DecodedTokens object record := by
  cases object with
  | obj fields =>
      unfold CredentialRecord.fromValue CredentialRecord.ofFields at h
      obtain ⟨refreshToken, hrefresh, h⟩ := Option.bind_eq_some_iff.1 h
      obtain ⟨accessToken, haccess, h⟩ := Option.bind_eq_some_iff.1 h
      obtain ⟨bearerToken, hbearer, h⟩ := Option.bind_eq_some_iff.1 h
      -- the other fields are read from here on
      iterate 14 obtain ⟨_, -, h⟩ := Option.bind_eq_some_iff.1 h
      obtain rfl := Option.some.inj h
      exact ⟨hrefresh, haccess, hbearer⟩
  | _ => cases hobject

section Record

variable {value : Json} {record : CredentialRecord}

theorem refreshTokenText_eq (hobject : value.isObject = true)
    (h : CredentialRecord.fromValue (normalizeRecordAliases value) = some record) :
    record.refreshTokenText =
      match value.get "refresh_token" with
      | some _ => getNestedString value ["refresh_token"]
      | none => firstText value (otherPaths "refresh_token" refreshTokenAliases) := by
  have htokens := decodedTokens (isObject_normalizeRecordAliases hobject) h
  rw [CredentialRecord.refreshTokenText, (optionalField_asStr htokens.refreshToken).1,
    get_refreshToken hobject]
  cases hkey : value.get "refresh_token" with
  | some v =>
      rw [getNestedString_singleton, Json.getStr, hkey]
      rfl
  | none =>
      cases hfirst : firstText value (otherPaths "refresh_token" refreshTokenAliases) with
      | none => rfl
      | some text =>
          obtain ⟨path, -, htext⟩ := List.exists_of_findSome?_eq_some hfirst
          exact trimmed?_of_getNestedString htext

theorem accessTokenText_eq (hobject : value.isObject = true)
    (h : CredentialRecord.fromValue (normalizeRecordAliases value) = some record) :
    record.accessTokenText =
      match value.get "access_token" with
      | some .null => getNestedString value ["bearer_token"]
      | some _ => getNestedString value ["access_token"]
      | none => firstText value (otherPaths "access_token" accessTokenAliases) := by
  have htokens := decodedTokens (isObject_normalizeRecordAliases hobject) h
  have haccess := optionalField_asStr htokens.accessToken
  rw [get_accessToken hobject] at haccess
  rw [CredentialRecord.accessTokenText, haccess.1, (optionalField_asStr htokens.bearerToken).1,
    get_bearerToken hobject]
  cases hkey : value.get "access_token" with
  | some v =>
      rw [hkey] at haccess
      rcases haccess.2 v rfl with rfl | ⟨raw, rfl⟩
      · change _ = getNestedString value ["bearer_token"]
        rw [getNestedString_singleton]
        rfl
      · change _ = getNestedString value ["access_token"]
        rw [getNestedString_singleton, Json.getStr, hkey]
        rfl
  | none =>
      cases hfirst : firstText value (otherPaths "access_token" accessTokenAliases) with
      | some text =>
          obtain ⟨path, -, htext⟩ := List.exists_of_findSome?_eq_some hfirst
          exact trimmed?_of_getNestedString htext
      | none =>
          have hbearer := List.findSome?_eq_none_iff.1 hfirst ["bearer_token"] (by decide)
          rw [getNestedString_singleton] at hbearer
          exact hbearer

end Record

/-! ## Tokens that are hidden -/

/-- The record has the name with nothing under it, and a refresh token under another name. -/
def HidesRefreshToken (value : Json) : Prop :=
  (value.get "refresh_token").isSome = true ∧ ¬ value.HasText [["refresh_token"]] ∧
    value.HasText (otherPaths "refresh_token" refreshTokenAliases)

/-- As for the refresh token. A bearer token is read where the name stands before `null`. -/
def HidesAccessToken (value : Json) : Prop :=
  ∃ v, value.get "access_token" = some v ∧ ¬ value.HasText [["access_token"]] ∧
    (v = .null → ¬ value.HasText [["bearer_token"]]) ∧
    value.HasText (otherPaths "access_token" accessTokenAliases)

section Hidden

variable {value : Json} {record : CredentialRecord}

variable {path : List String} {paths : List (List String)}

theorem hasText_cons :
    value.HasText (path :: paths) ↔ value.HasText [path] ∨ value.HasText paths := by
  simp [HasText]

theorem hasText_mono {paths' : List (List String)} (hsub : ∀ path ∈ paths, path ∈ paths')
    (h : value.HasText paths) : value.HasText paths' := by
  obtain ⟨path, hmem, htext⟩ := h
  exact ⟨path, hsub path hmem, htext⟩

theorem getNestedString_eq_none_iff (hpath : path ≠ []) :
    getNestedString value path = none ↔ ¬ value.HasText [path] := by
  rw [← firstText_eq_none_iff (by simpa using hpath.symm), firstText, List.findSome?_cons]
  cases getNestedString value path <;> simp

theorem not_hasText_of_get {key : String} (h : ∀ raw, value.get key ≠ some (.str raw)) :
    ¬ value.HasText [[key]] := by
  rintro ⟨path, hmem, text, raw, hpart, -⟩
  obtain rfl := List.mem_singleton.1 hmem
  rw [Json.part_keys, List.foldlM_cons] at hpart
  apply h raw
  cases hkey : value.get key with
  | none =>
      rw [hkey] at hpart
      exact absurd hpart (by simp)
  | some v =>
      rw [hkey] at hpart
      exact hpart

variable {text : String}

theorem getNestedString_holds
    (hmem : path ∈ paths) (hpath : path ≠ []) (h : getNestedString value path = some text) :
    ∃ path ∈ paths, value.HoldsText path text :=
  ⟨path, hmem, (getNestedString_eq_some_iff hpath).1 h⟩

theorem firstText_holds (hpaths : [] ∉ paths) (h : firstText value paths = some text) :
    ∃ path' ∈ path :: paths, value.HoldsText path' text := by
  obtain ⟨path', hmem, htext⟩ := firstText_eq_some hpaths h
  exact ⟨path', List.mem_cons_of_mem _ hmem, htext⟩

theorem refreshTokenText_holds (hobject : value.isObject = true)
    (h : CredentialRecord.fromValue (normalizeRecordAliases value) = some record)
    (htext : record.refreshTokenText = some text) :
    ∃ path ∈ refreshTokenPaths, value.HoldsText path text := by
  rw [refreshTokenText_eq hobject h] at htext
  split at htext
  · exact getNestedString_holds List.mem_cons_self (by simp) htext
  · exact firstText_holds (by decide) htext

theorem refreshTokenText_eq_none_iff (hobject : value.isObject = true)
    (h : CredentialRecord.fromValue (normalizeRecordAliases value) = some record) :
    record.refreshTokenText = none ↔
      ¬ value.HasText refreshTokenPaths ∨ HidesRefreshToken value := by
  rw [refreshTokenText_eq hobject h, refreshTokenPaths, hasText_cons]
  unfold HidesRefreshToken
  cases hkey : value.get "refresh_token" with
  | some v =>
      dsimp only
      rw [getNestedString_eq_none_iff (by simp), Option.isSome_some]
      tauto
  | none =>
      have hown : ¬ value.HasText [["refresh_token"]] := by
        apply not_hasText_of_get
        simp [hkey]
      dsimp only
      rw [firstText_eq_none_iff (by decide), Option.isSome_none]
      tauto

theorem accessTokenText_holds (hobject : value.isObject = true)
    (h : CredentialRecord.fromValue (normalizeRecordAliases value) = some record)
    (htext : record.accessTokenText = some text) :
    ∃ path ∈ accessTokenPaths, value.HoldsText path text := by
  rw [accessTokenText_eq hobject h] at htext
  split at htext
  · exact getNestedString_holds (by decide) (by simp) htext
  · exact getNestedString_holds List.mem_cons_self (by simp) htext
  · exact firstText_holds (by decide) htext

theorem accessTokenText_eq_none_iff (hobject : value.isObject = true)
    (h : CredentialRecord.fromValue (normalizeRecordAliases value) = some record) :
    record.accessTokenText = none ↔
      ¬ value.HasText accessTokenPaths ∨ HidesAccessToken value := by
  rw [accessTokenText_eq hobject h, accessTokenPaths, hasText_cons]
  unfold HidesAccessToken
  have hbearer : value.HasText [["bearer_token"]] →
      value.HasText (otherPaths "access_token" accessTokenAliases) :=
    hasText_mono (by decide)
  cases hkey : value.get "access_token" with
  | some v =>
      simp only [Option.some.injEq, exists_eq_left']
      cases v with
      | null =>
          have hown : ¬ value.HasText [["access_token"]] := by
            apply not_hasText_of_get
            simp [hkey]
          dsimp only
          rw [getNestedString_eq_none_iff (by simp)]
          tauto
      | _ =>
          dsimp only
          rw [getNestedString_eq_none_iff (by simp)]
          tauto
  | none =>
      have hown : ¬ value.HasText [["access_token"]] := by
        apply not_hasText_of_get
        simp [hkey]
      dsimp only
      rw [firstText_eq_none_iff (by decide)]
      simp only [reduceCtorEq, false_and, exists_false, or_false]
      tauto

end Hidden

/-! ## Tokens that are kept -/

/-- A refresh token under any of its names is the one that the item is executed with. -/
def KeepsRefreshToken (mode : ImportCredentialMode) (value : Json) (item : RecordItem) : Prop :=
  mode ≠ .accessToken → value.HasText refreshTokenPaths →
    ∃ req, item.persisted.request = some (.oauthRefresh req) ∧
      ∃ path ∈ refreshTokenPaths, value.HoldsText path req.refreshToken

def UsesAccessToken (mode : ImportCredentialMode) (value : Json) : Prop :=
  mode = .accessToken ∨ mode = .auto ∧ ¬ value.HasText refreshTokenPaths

def KeepsAccessToken (mode : ImportCredentialMode) (value : Json) (item : RecordItem) : Prop :=
  UsesAccessToken mode value → value.HasText accessTokenPaths →
    ∃ req, item.persisted.request = some (.oneTimeAccessToken req) ∧
      ∃ path ∈ accessTokenPaths, value.HoldsText path req.accessToken

section Kept

variable {libs : ImportLibraries} {options : CreateOAuthImportJobOptions} {value : Json}
  {record : CredentialRecord} {sourceFile : String} {lineNo : Nat}

theorem buildItemState_of_record
    (h : CredentialRecord.fromValue (normalizeRecordAliases value) = some record) :
    buildItemState libs options sourceFile lineNo value =
      normalizeRecord libs options record (.pending sourceFile lineNo (some value)) := by
  simp only [buildItemState, h]

theorem request_of_refreshToken (item : RecordItem) {text : String}
    (hmode : options.credentialMode ≠ .accessToken) (htext : record.refreshTokenText = some text) :
    (normalizeRecord libs options record item).persisted.request =
      some (.oauthRefresh (record.oauthRefreshRequest libs options text)) := by
  unfold normalizeRecord
  cases hcase : options.credentialMode with
  | auto => simp [htext, RecordItem.withRequest]
  | refreshToken => simp [htext, RecordItem.withRequest]
  | accessToken => exact absurd hcase hmode

theorem request_of_no_refreshToken {item : RecordItem} (hitem : item.persisted.request = none)
    (htext : record.refreshTokenText = none) (req : ImportOAuthRefreshTokenRequest) :
    (normalizeRecord libs options record item).persisted.request ≠ some (.oauthRefresh req) := by
  unfold normalizeRecord
  cases options.credentialMode with
  | refreshToken => simp [htext, RecordItem.failed, hitem]
  | auto =>
      cases record.accessTokenText with
      | none => simp [htext, RecordItem.failed, hitem]
      | some text => simp [htext, RecordItem.withRequest]
  | accessToken =>
      cases record.accessTokenText with
      | none => simp [RecordItem.failed, hitem]
      | some text => simp [RecordItem.withRequest]

theorem request_of_accessToken (item : RecordItem) {text : String}
    (hmode : options.credentialMode = .accessToken ∨
      options.credentialMode = .auto ∧ record.refreshTokenText = none)
    (htext : record.accessTokenText = some text) :
    (normalizeRecord libs options record item).persisted.request =
      some (.oneTimeAccessToken (record.oneTimeRequest libs options text)) := by
  unfold normalizeRecord
  rcases hmode with hmode | ⟨hmode, hrefresh⟩
  · simp [hmode, htext, RecordItem.withRequest]
  · simp [hmode, hrefresh, htext, RecordItem.withRequest]

theorem request_of_no_accessToken {item : RecordItem} (hitem : item.persisted.request = none)
    (htext : record.accessTokenText = none) (req : UpsertOneTimeSessionAccountRequest) :
    (normalizeRecord libs options record item).persisted.request ≠
      some (.oneTimeAccessToken req) := by
  unfold normalizeRecord
  cases options.credentialMode with
  | accessToken => simp [htext, RecordItem.failed, hitem]
  | auto =>
      cases record.refreshTokenText with
      | none => simp [htext, RecordItem.failed, hitem]
      | some text => simp [RecordItem.withRequest]
  | refreshToken =>
      cases record.refreshTokenText with
      | none => simp [RecordItem.failed, hitem]
      | some text => simp [RecordItem.withRequest]

theorem keepsRefreshToken_iff (hobject : value.isObject = true)
    (h : CredentialRecord.fromValue (normalizeRecordAliases value) = some record) :
    KeepsRefreshToken options.credentialMode value
        (buildItemState libs options sourceFile lineNo value) ↔
      (options.credentialMode ≠ .accessToken → ¬ HidesRefreshToken value) := by
  rw [buildItemState_of_record h]
  apply forall_congr'
  intro hmode
  constructor
  · intro hkept hhides
    have htext := (refreshTokenText_eq_none_iff hobject h).2 (Or.inr hhides)
    have hall : value.HasText refreshTokenPaths :=
      hasText_mono (fun path hmem => List.mem_cons_of_mem _ hmem) hhides.2.2
    obtain ⟨req, hreq, -⟩ := hkept hall
    exact request_of_no_refreshToken rfl htext req hreq
  · intro hshown hall
    cases htext : record.refreshTokenText with
    | none =>
        rcases (refreshTokenText_eq_none_iff hobject h).1 htext with hnone | hhides
        · exact absurd hall hnone
        · exact absurd hhides hshown
    | some text =>
        exact ⟨_, request_of_refreshToken _ hmode htext, refreshTokenText_holds hobject h htext⟩

theorem keepsAccessToken_iff (hobject : value.isObject = true)
    (h : CredentialRecord.fromValue (normalizeRecordAliases value) = some record) :
    KeepsAccessToken options.credentialMode value
        (buildItemState libs options sourceFile lineNo value) ↔
      (UsesAccessToken options.credentialMode value → ¬ HidesAccessToken value) := by
  rw [buildItemState_of_record h]
  apply forall_congr'
  intro huses
  constructor
  · intro hkept hhides
    have htext := (accessTokenText_eq_none_iff hobject h).2 (Or.inr hhides)
    obtain ⟨v, -, -, -, hothers⟩ := hhides
    have hall : value.HasText accessTokenPaths :=
      hasText_mono (fun path hmem => List.mem_cons_of_mem _ hmem) hothers
    obtain ⟨req, hreq, -⟩ := hkept hall
    exact request_of_no_accessToken rfl htext req hreq
  · intro hshown hall
    cases htext : record.accessTokenText with
    | none =>
        rcases (accessTokenText_eq_none_iff hobject h).1 htext with hnone | hhides
        · exact absurd hall hnone
        · exact absurd hhides hshown
    | some text =>
        have hmode : options.credentialMode = .accessToken ∨
            options.credentialMode = .auto ∧ record.refreshTokenText = none := by
          rcases huses with hmode | ⟨hmode, hnone⟩
          · exact Or.inl hmode
          · exact Or.inr ⟨hmode, (refreshTokenText_eq_none_iff hobject h).2 (Or.inl hnone)⟩
        exact ⟨_, request_of_accessToken _ hmode htext, accessTokenText_holds hobject h htext⟩

end Kept

/-! ## The entries of an upload -/

inductive UploadEntry where
  | value (v : Json)
  | brokenLine (line : String)

/-- What the item of an entry keeps of it. -/
def UploadEntry.raw : UploadEntry → Json
  | .value v => v
  | .brokenLine line => .str line

section Upload

variable (libs : ImportLibraries) (options : CreateOAuthImportJobOptions)

def lineEntry (line : String) : UploadEntry :=
  match libs.json.fromStr line with
  | some v => .value v
  | none => .brokenLine line

/-- The entries of an upload with their numbers: those of an array, or the lines that are not
blank. -/
def uploadEntries (file : ImportUploadFile) : Option (List (UploadEntry × Nat)) :=
  if hasExtension (uploadName file) ".jsonl" then
    (Bytes.fromUtf8 file.content).map fun raw =>
      (((Text.lines raw).zipIdx 1).filter fun line => Text.trim line.1 ≠ "").map fun line =>
        (lineEntry libs line.1, line.2)
  else
    match libs.json.fromSlice file.content with
    | some (.arr entries) => some ((entries.zipIdx 1).map fun entry => (.value entry.1, entry.2))
    | some (.obj fields) => some [(.value (.obj fields), 1)]
    | _ => none

def entryItem (fileName : String) (entry : UploadEntry × Nat) : RecordItem :=
  match entry.1 with
  | .value v => buildItemState libs options fileName entry.2 v
  | .brokenLine line =>
    buildFailedLineItem fileName entry.2 "invalid_record" "invalid JSON record" (some (.str line))

variable {libs options}

theorem pushEntries_eq (fileName : String) (idx : Nat) (entries : List Json)
    (items : List RecordItem) :
    pushEntries libs options fileName idx entries items =
      items ++ (entries.zipIdx (idx + 1)).map fun entry =>
        entryItem libs options fileName (.value entry.1, entry.2) := by
  induction entries generalizing idx items with
  | nil => simp [pushEntries]
  | cons entry entries ih =>
      rw [pushEntries, ih, List.zipIdx_cons, List.map_cons, List.append_assoc]
      rfl

theorem entryItem_lineEntry (fileName : String) (line : String) (lineNo : Nat) :
    entryItem libs options fileName (lineEntry libs line, lineNo) =
      jsonlItem libs options fileName lineNo line := by
  unfold entryItem lineEntry jsonlItem
  cases libs.json.fromStr line <;> rfl

theorem pushLines_eq (fileName : String) (idx : Nat) (lines : List String)
    (items : List RecordItem) :
    pushLines libs options fileName idx lines items =
      items ++ ((lines.zipIdx (idx + 1)).filter fun line => Text.trim line.1 ≠ "").map
        fun line => entryItem libs options fileName (lineEntry libs line.1, line.2) := by
  induction lines generalizing idx items with
  | nil => simp [pushLines]
  | cons line lines ih =>
      rw [pushLines, List.zipIdx_cons]
      split
      · rename_i hblank
        rw [ih, List.filter_cons_of_neg (by simpa using hblank)]
      · rename_i hblank
        rw [ih, List.filter_cons_of_pos (by simpa using hblank), List.map_cons,
          entryItem_lineEntry, List.append_assoc]
        rfl

/-- The items of an upload that is accepted are those of its entries. -/
theorem parseFileRecords_eq_ok {file : ImportUploadFile} {items : List RecordItem}
    (h : parseFileRecords libs options file = .ok items) :
    ∃ entries, uploadEntries libs file = some entries ∧
      items = entries.map (entryItem libs options (uploadName file)) := by
  unfold parseFileRecords at h
  unfold uploadEntries
  dsimp only at h
  split at h
  · rename_i hjsonl
    rw [if_pos hjsonl]
    unfold parseJsonlRecords at h
    cases hraw : Bytes.fromUtf8 file.content with
    | none =>
        rw [hraw] at h
        exact absurd h (by simp)
    | some raw =>
        rw [hraw] at h
        refine ⟨_, rfl, ?_⟩
        rw [← Except.ok.inj h, pushLines_eq, List.nil_append, List.map_map]
        rfl
  · rename_i hjsonl
    rw [if_neg hjsonl]
    split at h
    · unfold parseJsonRecords at h
      split at h
      · exact absurd h (by simp)
      · rename_i entries hvalue
        rw [hvalue]
        refine ⟨_, rfl, ?_⟩
        rw [← Except.ok.inj h, pushEntries_eq, List.nil_append, List.map_map]
        rfl
      · rename_i fields hvalue
        rw [hvalue]
        refine ⟨_, rfl, ?_⟩
        rw [← Except.ok.inj h]
        rfl
      · exact absurd h (by simp)
    · exact absurd h (by simp)

/-! ## What becomes of the entries -/

def CarriesEntry (fileName : String) (entry : UploadEntry × Nat) (item : RecordItem) : Prop :=
  item.sourceFile = fileName ∧ item.lineNo = entry.2 ∧ item.rawRecord = some entry.1.raw

/-- The tokens of a record that can be decoded are kept. -/
def KeepsCredentials (mode : ImportCredentialMode) (entry : UploadEntry × Nat)
    (item : RecordItem) : Prop :=
  ∀ fields record, entry.1 = .value (.obj fields) →
    CredentialRecord.fromValue (normalizeRecordAliases (.obj fields)) = some record →
    KeepsRefreshToken mode (.obj fields) item ∧ KeepsAccessToken mode (.obj fields) item

/-- The entry is a record that can be decoded and hides a token which the mode asks for. -/
def HidesCredential (mode : ImportCredentialMode) (entry : UploadEntry × Nat) : Prop :=
  ∃ fields record, entry.1 = .value (.obj fields) ∧
    CredentialRecord.fromValue (normalizeRecordAliases (.obj fields)) = some record ∧
    (mode ≠ .accessToken ∧ HidesRefreshToken (.obj fields) ∨
      UsesAccessToken mode (.obj fields) ∧ HidesAccessToken (.obj fields))

theorem normalizeRecord_carries (record : CredentialRecord) (item : RecordItem) :
    (normalizeRecord libs options record item).sourceFile = item.sourceFile ∧
      (normalizeRecord libs options record item).lineNo = item.lineNo ∧
      (normalizeRecord libs options record item).rawRecord = item.rawRecord := by
  unfold normalizeRecord
  dsimp only
  split <;> split <;> first | exact ⟨rfl, rfl, rfl⟩ | (split <;> exact ⟨rfl, rfl, rfl⟩)

theorem entryItem_carries (fileName : String) (entry : UploadEntry × Nat) :
    CarriesEntry fileName entry (entryItem libs options fileName entry) := by
  obtain ⟨entry, lineNo⟩ := entry
  cases entry with
  | brokenLine line => exact ⟨rfl, rfl, rfl⟩
  | value v =>
      unfold entryItem buildItemState
      dsimp only
      split
      · rename_i record hrecord
        exact normalizeRecord_carries record (.pending fileName lineNo (some v))
      · exact ⟨rfl, rfl, rfl⟩

theorem entryItem_keeps_iff (fileName : String) (entry : UploadEntry × Nat) :
    KeepsCredentials options.credentialMode entry (entryItem libs options fileName entry) ↔
      ¬ HidesCredential options.credentialMode entry := by
  obtain ⟨entry, lineNo⟩ := entry
  unfold KeepsCredentials HidesCredential
  simp only [not_exists, not_and, not_or]
  apply forall₂_congr
  intro fields record
  apply forall₂_congr
  intro hentry hrecord
  subst hentry
  change KeepsRefreshToken _ _ (buildItemState libs options fileName lineNo (.obj fields)) ∧
    KeepsAccessToken _ _ (buildItemState libs options fileName lineNo (.obj fields)) ↔ _
  rw [keepsRefreshToken_iff rfl hrecord, keepsAccessToken_iff rfl hrecord]

variable (libs options) in
/-- The items of an upload are those of its entries, in order; they keep the tokens of their records
exactly when no record hides one. -/
theorem parseFileRecords_keeps_iff (file : ImportUploadFile) (items : List RecordItem)
    (h : parseFileRecords libs options file = .ok items) :
    ∃ entries, uploadEntries libs file = some entries ∧
      List.Forall₂ (CarriesEntry (uploadName file)) entries items ∧
      (List.Forall₂ (KeepsCredentials options.credentialMode) entries items ↔
        ∀ entry ∈ entries, ¬ HidesCredential options.credentialMode entry) := by
  obtain ⟨entries, hentries, rfl⟩ := parseFileRecords_eq_ok h
  refine ⟨entries, hentries, ?_, ?_⟩
  · rw [List.forall₂_map_right_iff, List.forall₂_same]
    exact fun entry _ => entryItem_carries (uploadName file) entry
  · rw [List.forall₂_map_right_iff, List.forall₂_same]
    exact forall₂_congr fun entry _ => entryItem_keeps_iff (uploadName file) entry

end Upload

/-! ## Two uploads -/

/-- Libraries that know one text, that of an array with one record. -/
def oneRecordLibraries (text : String) (value : Json) : ImportLibraries where
  json := .ofTable [(text, .arr [value])]
  parseFromRfc3339 := fun _ => none
  parseJwtExpFromAccessToken := fun _ => none
  shortHash := fun _ => "5ebe2294ecd0"

def accountsFile (text : String) : ImportUploadFile := ⟨"accounts.json", Bytes.ofAscii text⟩

def defaultImportOptions : CreateOAuthImportJobOptions where
  baseUrl := "https://chatgpt.com/backend-api/codex"
  defaultPriority := 100
  defaultEnabled := true
  defaultMode := .chatGptSession
  credentialMode := .auto

theorem parse_accountsFile (text : String) (value : Json) :
    parseFileRecords (oneRecordLibraries text value) defaultImportOptions (accountsFile text) =
      .ok [buildItemState (oneRecordLibraries text value) defaultImportOptions "accounts.json" 1
        value] := by
  have hname : uploadName (accountsFile text) = "accounts.json" := by
    have hnamed : Text.trim "accounts.json" ≠ "" := by decide
    exact if_neg hnamed
  have hparsed : (oneRecordLibraries text value).json.fromSlice (accountsFile text).content =
      some (.arr [value]) :=
    SerdeJson.ofTable_cons_self text (.arr [value]) []
  simp only [parseFileRecords, hname]
  rw [if_neg (by decide), if_pos (by decide), parseJsonRecords, hparsed]
  rfl

def aliasRecord : Json := .obj [("rt", .str "secret")]

def aliasText : String := "[\x7b\"rt\":\"secret\"\x7d]"

/-- The refresh token of this record is kept. -/
theorem aliasRecord_kept :
    ∃ entries, uploadEntries (oneRecordLibraries aliasText aliasRecord) (accountsFile aliasText) =
        some entries ∧
      List.Forall₂ (CarriesEntry (uploadName (accountsFile aliasText))) entries
        [buildItemState (oneRecordLibraries aliasText aliasRecord) defaultImportOptions
          "accounts.json" 1 aliasRecord] ∧
      (List.Forall₂ (KeepsCredentials .auto) entries
          [buildItemState (oneRecordLibraries aliasText aliasRecord) defaultImportOptions
            "accounts.json" 1 aliasRecord] ↔
        ∀ entry ∈ entries, ¬ HidesCredential .auto entry) :=
  parseFileRecords_keeps_iff (oneRecordLibraries aliasText aliasRecord) defaultImportOptions
    (accountsFile aliasText) _ (parse_accountsFile aliasText aliasRecord)

def nullRecord : Json := .obj [("refresh_token", .null), ("rt", .str "secret")]

def nullText : String := "[\x7b\"refresh_token\":null,\"rt\":\"secret\"\x7d]"

/-- A `null` hides the refresh token, and the record fails. -/
theorem nullRecord_not_kept :
    ¬ ∀ items, parseFileRecords (oneRecordLibraries nullText nullRecord) defaultImportOptions
        (accountsFile nullText) = .ok items →
      ∀ item ∈ items, KeepsCredentials .auto (.value nullRecord, 1) item := by
  intro h
  have hkept := h _ (parse_accountsFile nullText nullRecord) _ List.mem_cons_self
  have hdecoded :
      (CredentialRecord.fromValue (normalizeRecordAliases nullRecord)).isSome = true := by
    decide +kernel
  obtain ⟨record, hrecord⟩ := Option.isSome_iff_exists.1 hdecoded
  have htoken : nullRecord.HasText refreshTokenPaths := by
    refine ⟨["rt"], by decide, "secret", "secret", rfl, ?_, by decide⟩
    decide +kernel
  obtain ⟨req, hreq, -⟩ := (hkept _ record rfl hrecord).1 (by decide) htoken
  have hnone : (buildItemState (oneRecordLibraries nullText nullRecord) defaultImportOptions
      "accounts.json" 1 nullRecord).persisted.request.isNone = true := by
    decide +kernel
  rw [hreq] at hnone
  exact Bool.false_ne_true hnone

end CodexPool
