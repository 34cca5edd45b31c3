import CodexPool.Lib.CursorPages
import CodexPool.Responses.Store

/-!
# Reading the input items of a response

A client reads the input items page by page: it passes the last identifier of a page as `after`
for the next one, as long as there is more. The items keep the identifiers that the client of the
response gave them.
-/

namespace CodexPool

namespace InputPages

open BackgroundResponsesRuntime

/-- A client that reads to the last page, in at most `fuel` requests, `none` if it does not get
there. -/
def readPages (fetch : Option String → Option Json) : Nat → Option String → Option (List Json)
  | 0, _ => none
  | fuel + 1, after =>
    (fetch after).bind fun page =>
      let data := ((page.get "data").bind Json.asArray).getD []
      if (page.get "has_more").bind Json.asBool = some true then
        (readPages fetch fuel (page.getStr "last_id")).map (data ++ ·)
      else some data

/-- The items in the order of the query. -/
def ordered (items : List Json) (order : Option String) : List Json :=
  if order.getD "desc" = "asc" then items else items.reverse

/-- The number of items on a page. -/
def pageLimit (limit : Option Nat) : Nat := max 1 (min (limit.getD 20) 100)

/-- The identifier that a cursor can name. -/
def itemId (item : Json) : Option String := item.getStr "id"

theorem pageLimit_pos (limit : Option Nat) : 0 < pageLimit limit :=
  Nat.lt_of_lt_of_le Nat.zero_lt_one (Nat.le_max_left _ _)

variable {items : List Json} {limit : Option Nat} {order : Option String}

theorem drop_position (items : List Json) (after : Option String) :
    (match after with
      | none => items
      | some after =>
        match items.findIdx? fun item : Json => item.getStr "id" = some after with
        | some position => items.drop (position + 1)
        | none => items) = items.drop (CursorPages.position itemId items after) := by
  cases after with
  | none => rfl
  | some after =>
      unfold CursorPages.position itemId
      dsimp only
      cases items.findIdx? fun item : Json => item.getStr "id" = some after with
      | none => rfl
      | some position => rfl

theorem inputItemsPage_data (after : Option String) :
    (((inputItemsPage items ⟨limit, order, after⟩).get "data").bind Json.asArray) =
      some (((ordered items order).drop
        (CursorPages.position itemId (ordered items order) after)).take (pageLimit limit)) := by
  rw [← drop_position, inputItemsPage, Json.get_ofFields]
  rfl

theorem inputItemsPage_hasMore (after : Option String) :
    (((inputItemsPage items ⟨limit, order, after⟩).get "has_more").bind Json.asBool) =
      some (decide (pageLimit limit < ((ordered items order).drop
        (CursorPages.position itemId (ordered items order) after)).length)) := by
  rw [← drop_position, inputItemsPage, Json.get_ofFields]
  rfl

theorem inputItemsPage_lastId (after : Option String) :
    (inputItemsPage items ⟨limit, order, after⟩).getStr "last_id" =
      CursorPages.nextCursor itemId (ordered items order) (pageLimit limit)
        (CursorPages.position itemId (ordered items order) after) := by
  have hlast : ∀ last : Option Json,
      Json.asStr ((last.bind (·.get "id")).getD .null) = last.bind itemId := by
    intro last
    cases last with
    | none => rfl
    | some item =>
        rw [Option.bind_some, Option.bind_some, itemId, Json.getStr]
        cases item.get "id" with
        | none => rfl
        | some id => rfl
  rw [CursorPages.nextCursor, ← drop_position, ← hlast, Json.getStr, inputItemsPage,
    Json.get_ofFields]
  rfl

theorem readPages_eq_read (fuel : Nat) (after : Option String) :
    readPages (fun after => some (inputItemsPage items ⟨limit, order, after⟩)) fuel after =
      CursorPages.read itemId (ordered items order) (pageLimit limit) fuel
        (CursorPages.position itemId (ordered items order) after) := by
  induction fuel generalizing after with
  | zero => rfl
  | succ fuel ih =>
      rw [readPages, Option.bind_some, inputItemsPage_data, inputItemsPage_hasMore,
        inputItemsPage_lastId, ih, CursorPages.read, Option.getD_some]
      split_ifs with hmore hmore' hmore'
      · rfl
      · exact absurd (of_decide_eq_true (Option.some.inj hmore)) hmore'
      · exact absurd (congrArg some (decide_eq_true hmore')) hmore
      · rw [List.take_of_length_le (Nat.le_of_not_lt hmore')]

/-! ## Stored responses -/

variable {rt : BackgroundResponsesRuntime} {ownerKey responseId : String} {clock : Clock}
  {record : StoredResponseRecord}

/-- The client that reads the input items of a stored response from the first page on gets each of
them once, in the order it asks for, and comes to the end. -/
def Exhaustive (rt : BackgroundResponsesRuntime) (ownerKey responseId : String) (clock : Clock)
    (items : List Json) (limit : Option Nat) (order : Option String) : Prop :=
  ∃ fuel, readPages (fun after => rt.lookupInputItems ownerKey responseId ⟨limit, order, after⟩
    clock) fuel none = some (ordered items order)

/-- In the order of the query the last item of each page but the last has an identifier that no
item before it has. -/
def LastIdsFresh (items : List Json) (limit : Option Nat) (order : Option String) : Prop :=
  ∀ m, (m + 1) * pageLimit limit < items.length →
    ∃ id, ((ordered items order)[(m + 1) * pageLimit limit - 1]?).bind itemId = some id ∧
      ∀ j < (m + 1) * pageLimit limit - 1, ((ordered items order)[j]?).bind itemId ≠ some id

theorem length_ordered (items : List Json) (order : Option String) :
    (ordered items order).length = items.length := by
  unfold ordered
  split_ifs
  · rfl
  · exact List.length_reverse

theorem lastIdsFresh_iff : LastIdsFresh items limit order ↔
    CursorPages.PagesFresh itemId (ordered items order) (pageLimit limit) 0 := by
  simp only [LastIdsFresh, CursorPages.PagesFresh, CursorPages.Fresh, Nat.zero_add, length_ordered]

/-- What the client gets of a stored response that it has access to. -/
theorem readPages_lookupInputItems (hrecord : rt.entries responseId = some record)
    (haccess : record.accessible ownerKey clock = true) (hallow : record.allowRetrieve = true)
    (limit : Option Nat) (order : Option String) (fuel : Nat) :
    readPages (fun after => rt.lookupInputItems ownerKey responseId ⟨limit, order, after⟩ clock)
      fuel none =
    CursorPages.read itemId (ordered record.inputItems order) (pageLimit limit) fuel 0 := by
  have hfetch : ∀ query, rt.lookupInputItems ownerKey responseId query clock =
      some (inputItemsPage record.inputItems query) := by
    intro query
    unfold lookupInputItems
    simp [hrecord, haccess, hallow]
  simp only [hfetch]
  exact readPages_eq_read fuel none

/-- The input items are read exactly if the last identifiers of the pages are fresh. -/
theorem inputItems_exhaustive_iff (hrecord : rt.entries responseId = some record)
    (haccess : record.accessible ownerKey clock = true) (hallow : record.allowRetrieve = true)
    (limit : Option Nat) (order : Option String) :
    Exhaustive rt ownerKey responseId clock record.inputItems limit order ↔
      LastIdsFresh record.inputItems limit order := by
  simp only [Exhaustive, readPages_lookupInputItems hrecord haccess hallow]
  rw [lastIdsFresh_iff, CursorPages.read_eq_some_iff (pageLimit_pos limit)]

/-- Different identifiers are read in every order and with every limit. -/
theorem lastIdsFresh_of_nodup (hids : ∀ item ∈ items, (itemId item).isSome)
    (hnodup : (items.map itemId).Nodup) (limit : Option Nat) (order : Option String) :
    LastIdsFresh items limit order := by
  rw [lastIdsFresh_iff]
  apply CursorPages.pagesFresh_of_nodup _ _ (pageLimit_pos limit)
  · unfold ordered
    split_ifs
    · exact hids
    · exact fun item hitem => hids item (List.mem_reverse.1 hitem)
  · unfold ordered
    split_ifs
    · exact hnodup
    · rw [List.map_reverse]
      exact List.nodup_reverse.2 hnodup

/-! ## Items without identifiers of their own -/

theorem itemId_ensureInputItemShape {item : Json} (hobject : item.isObject = true)
    (hid : item.get "id" = none) (responseId : String) (index : Nat) :
    itemId (ensureInputItemShape item responseId index) =
      some ("item_" ++ responseId ++ "_" ++ toString index) := by
  have hkept : ∀ shaped : Json, shaped.isObject = true → shaped.get "id" = none →
      itemId (shaped.insertNew "id" (.str ("item_" ++ responseId ++ "_" ++ toString index))) =
        some ("item_" ++ responseId ++ "_" ++ toString index) := by
    intro shaped hshaped hnone
    rw [Json.insertNew, hnone, itemId, Json.getStr]
    exact congrArg (Option.bind · Json.asStr) (Json.get_insert_self hshaped "id" _)
  unfold ensureInputItemShape
  dsimp only
  split_ifs
  · apply hkept
    · rw [Json.isObject_insert, hobject]
    · rw [Json.get_insert_of_ne item (by decide), hid]
  · exact hkept item hobject hid

theorem toString_injective {m n : Nat} (h : toString m = toString n) : m = n := by
  have hdigits : Nat.toDigits 10 m = Nat.toDigits 10 n := String.ofList_injective h
  rw [← Nat.ofDigitChars_toDigits (b := 10) (n := m) (by decide) (by decide), hdigits,
    Nat.ofDigitChars_toDigits (by decide) (by decide)]

/-- The items that a client sends without identifiers are read in every order and with every
limit. -/
theorem lastIdsFresh_deriveInputItems {requestBody : Json} {inputs : List Json}
    (hinput : requestBody.get "input" = some (.arr inputs))
    (hinputs : ∀ item ∈ inputs, item.isObject = true ∧ item.get "id" = none)
    (limit : Option Nat) (order : Option String) :
    LastIdsFresh (deriveInputItems requestBody responseId) limit order := by
  have hitems : deriveInputItems requestBody responseId =
      inputs.mapIdx fun index item => ensureInputItemShape item responseId index := by
    rw [deriveInputItems, hinput]
  have hid : ∀ index (hlt : index < inputs.length),
      itemId (ensureInputItemShape inputs[index] responseId index) =
        some ("item_" ++ responseId ++ "_" ++ toString index) := by
    intro index hlt
    rcases hinputs inputs[index] (List.getElem_mem hlt) with ⟨hobject, hnone⟩
    exact itemId_ensureInputItemShape hobject hnone responseId index
  rw [hitems]
  apply lastIdsFresh_of_nodup
  · intro item hitem
    rcases List.mem_mapIdx.1 hitem with ⟨index, hlt, rfl⟩
    rw [hid index hlt]
    rfl
  · rw [List.nodup_iff_injective_getElem]
    rintro ⟨m, hm⟩ ⟨n, hn⟩ heq
    simp only [List.length_map, List.length_mapIdx] at hm hn
    simp only [List.getElem_map, List.getElem_mapIdx, hid m hm, hid n hn, Option.some_inj] at heq
    exact Fin.ext (toString_injective (String.append_right_inj _ |>.1 heq))

/-! ## Items that name each other -/

/-- An input message with an identifier. -/
def namedMessage (id : String) : Json :=
  .ofFields [("type", .str "message"), ("role", .str "user"), ("content", .str "hi"),
    ("id", .str id)]

/-- A request with those input items. -/
def requestOf (inputs : List Json) : Json := .ofFields [("input", .arr inputs)]

def queued (inputs : List Json) : BackgroundResponsesRuntime :=
  (new 86400).queueBackgroundResponse "resp_1" "tenant" (requestOf inputs) none ⟨0, 0⟩

def queuedRecord (inputs : List Json) : StoredResponseRecord where
  ownerKey := "tenant"
  response := buildResponseStub (requestOf inputs) "resp_1" "queued" true 0 none 0
  allowRetrieve := true
  inputItems := deriveInputItems (requestOf inputs) "resp_1"
  requestBody := some (requestOf inputs)
  cancelled := false
  background := true
  streamState := none
  expiresAt := 86400

theorem entries_queued (inputs : List Json) :
    (queued inputs).entries "resp_1" = some (queuedRecord inputs) := rfl

theorem inputItems_exhaustive_two :
    Exhaustive (queued [namedMessage "a", namedMessage "b"]) "tenant" "resp_1" ⟨1, 1⟩
      (queuedRecord [namedMessage "a", namedMessage "b"]).inputItems (some 1) (some "asc") := by
  apply (inputItems_exhaustive_iff (entries_queued _) (by decide) rfl (some 1) (some "asc")).2
  exact lastIdsFresh_of_nodup (by decide) (by decide) _ _

/-- The second page ends with the identifier of the first item, and the client gets it again and
again. -/
theorem repeated_id_stalls :
    ¬Exhaustive (queued [namedMessage "a", namedMessage "a", namedMessage "b"]) "tenant" "resp_1"
      ⟨1, 1⟩ (queuedRecord [namedMessage "a", namedMessage "a", namedMessage "b"]).inputItems
      (some 1) (some "asc") := by
  rintro ⟨fuel, h⟩
  rw [readPages_lookupInputItems (entries_queued _) (by decide) rfl] at h
  have hfresh := (CursorPages.read_eq_some_iff (pageLimit_pos (some 1))).1 ⟨fuel, h⟩
  rcases hfresh 1 (by decide) with ⟨id, hid, hnew⟩
  exact hnew 0 (by decide) (hid ▸ by decide)

end InputPages

end CodexPool
