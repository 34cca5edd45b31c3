import CodexPool.ImportJobs.Records
import CodexPool.Lib.KeysetPages
import CodexPool.Lib.Saturating
import Mathlib.Data.Prod.Lex
import Mathlib.Data.String.Basic

/-!
# The log of system events

The log is shown newest first, a page at a time. The cursor that a page gives away is the key of
the row that was fetched over the limit, and the next page shows the rows behind that key. The
row itself is shown on neither of the two.
-/

namespace CodexPool

open KeysetPages

inductive SystemEventCategory where
  | request
  | accountPool
  | patrol
  | importing
  | infra
  | adminAction
deriving DecidableEq

inductive SystemEventSeverity where
  | debug
  | info
  | warn
  | error
deriving DecidableEq

/-- A row of `system_event_logs`, with the columns that a query filters by. -/
structure SystemEventRecord where
  id : Uuid
  ts : DateTime
  category : SystemEventCategory
  eventType : String
  severity : SystemEventSeverity
  source : String
  tenantId : Option Uuid
  accountId : Option Uuid
  requestId : Option String
  jobId : Option Uuid
  accountLabel : Option String
  reasonCode : Option String
  message : Option String
  previewText : Option String
deriving DecidableEq

structure SystemEventQuery where
  startTs : Option Int
  endTs : Option Int
  accountId : Option Uuid
  requestId : Option String
  jobId : Option Uuid
  tenantId : Option Uuid
  category : Option SystemEventCategory
  eventType : Option String
  severity : Option SystemEventSeverity
  reasonCode : Option String
  keyword : Option String
  limit : Option Nat
  cursor : Option String

structure ParsedCursor where
  tsEpochMs : Int
  id : Uuid
deriving DecidableEq

structure SystemEventListResponse where
  items : List SystemEventRecord
  nextCursor : Option String
deriving DecidableEq

/-! ## The cursor -/

def timestampMillis (ts : DateTime) : Int := ts / 1000

def encodeCursor (ts : DateTime) (id : Uuid) : String :=
  toString (timestampMillis ts) ++ "|" ++ id.text

section Query

-- `Uuid::parse_str`, and `LIKE` of the database, the pattern first
variable (parseUuid : String → Option Uuid) (like : String → String → Bool)

def parseCursor (raw : String) : Option ParsedCursor :=
  let trimmed := (Text.trim raw).toList
  match trimmed.dropWhile (· ≠ '|') with
  | [] => none
  | _ :: idRaw =>
    match parseI64 (String.ofList (trimmed.takeWhile (· ≠ '|'))),
      parseUuid (String.ofList idRaw) with
    | some tsEpochMs, some id => some { tsEpochMs, id }
    | _, _ => none

/-! ## The filters -/

def SystemEventQuery.normalizedLimit (query : SystemEventQuery) : Nat :=
  max 1 (min (query.limit.getD 200) 1000)

/-- `saturating_mul(1000)` of an `i64`. -/
def saturatingMillis (ts : Int) : Int :=
  Saturating.clamp (-9223372036854775808) 9223372036854775807 (ts * 1000)

/-- A column is compared with a trimmed text, unless this is empty. -/
def textFilter (wanted column : Option String) : Bool :=
  match (wanted.map Text.trim).filter (· ≠ "") with
  | none => true
  | some value => column = some value

def keywordFilter (keyword : Option String) (row : SystemEventRecord) : Bool :=
  match (keyword.map Text.trim).filter (· ≠ "") with
  | none => true
  | some value =>
    [row.message, row.previewText, some row.eventType, some row.source, row.accountLabel,
      row.requestId, row.reasonCode].any fun column =>
        column.any (like ("%" ++ value ++ "%"))

/-- The filters of a query, but for the cursor. -/
def SystemEventQuery.filters (query : SystemEventQuery) (row : SystemEventRecord) : Bool :=
  query.startTs.all (fun ts => saturatingMillis ts ≤ timestampMillis row.ts) &&
  query.endTs.all (fun ts => timestampMillis row.ts ≤ saturatingMillis ts) &&
  query.accountId.all (fun id => row.accountId = some id) &&
  textFilter query.requestId row.requestId &&
  query.jobId.all (fun id => row.jobId = some id) &&
  query.tenantId.all (fun id => row.tenantId = some id) &&
  query.category.all (fun category => row.category = category) &&
  textFilter query.eventType (some row.eventType) &&
  query.severity.all (fun severity => row.severity = severity) &&
  textFilter query.reasonCode row.reasonCode &&
  keywordFilter like query.keyword row

def ParsedCursor.isBehind (cursor : ParsedCursor) (row : SystemEventRecord) : Bool :=
  timestampMillis row.ts < cursor.tsEpochMs ||
    (timestampMillis row.ts = cursor.tsEpochMs && row.id.text < cursor.id.text)

/-- All filters of a query. A cursor that cannot be read is no filter. -/
def SystemEventQuery.applies (query : SystemEventQuery) (row : SystemEventRecord) : Bool :=
  query.filters like row && (query.cursor.bind (parseCursor parseUuid)).all (·.isBehind row)

/-- The order `ts_epoch_ms DESC, id DESC`: the newest row has the least key. -/
def SystemEventRecord.key (row : SystemEventRecord) : OrderDual (Int ×ₗ String) :=
  OrderDual.toDual (toLex (timestampMillis row.ts, row.id.text))

def queryRows (log : List SystemEventRecord) (query : SystemEventQuery) :
    SystemEventListResponse :=
  let limit := query.normalizedLimit
  let items := Paging.page SystemEventRecord.key (limit + 1)
    (log.filter (query.applies parseUuid like))
  if limit < items.length then
    { items := items.dropLast
      nextCursor := items.getLast?.map fun extra => encodeCursor extra.ts extra.id }
  else { items, nextCursor := none }

/-- A reader passes each `next_cursor` on, until there is none. The log grows meanwhile. -/
def readLog (logs : Nat → List SystemEventRecord) (query : SystemEventQuery) :
    Nat → Nat → Option String → Option (List SystemEventRecord)
  | 0, _, _ => none
  | calls + 1, t, cursor =>
    let response := queryRows parseUuid like (logs t) { query with cursor }
    match response.nextCursor with
    | none => some response.items
    | some next =>
      (readLog logs query calls (t + 1) (some next)).map (response.items ++ ·)

end Query

/-! ## The cursor is read back -/

theorem foldl_digits (digits : List Char) :
    digits.foldl (fun value c => value * 10 + (c.toNat - '0'.toNat)) 0 =
      Nat.ofDigitChars 10 digits 0 := by
  simp only [Nat.ofDigitChars_eq_foldl, Nat.mul_comm]

theorem parseI64_of_digits {digits : List Char} (hne : digits ≠ [])
    (hdigits : ∀ c ∈ digits, c.isDigit = true)
    (hhigh : (Nat.ofDigitChars 10 digits 0 : Int) < 2 ^ 63) :
    parseI64 (String.ofList digits) = some (Nat.ofDigitChars 10 digits 0 : Int) := by
  unfold parseI64
  rw [String.toList_ofList]
  split
  rename_i sign rest heq
  have hsplit : (sign, rest) = (1, digits) := by
    rw [← heq]
    split
    · exact absurd (hdigits '+' List.mem_cons_self) (by decide)
    · exact absurd (hdigits '-' List.mem_cons_self) (by decide)
    · rfl
  obtain ⟨rfl, rfl⟩ := Prod.mk.inj hsplit
  rw [if_neg (by simpa [hne] using hdigits)]
  dsimp only
  rw [foldl_digits, one_mul, if_pos ⟨by omega, hhigh⟩]

theorem parseI64_of_negative {digits : List Char} (hne : digits ≠ [])
    (hdigits : ∀ c ∈ digits, c.isDigit = true)
    (hlow : (Nat.ofDigitChars 10 digits 0 : Int) ≤ 2 ^ 63) :
    parseI64 (String.ofList ('-' :: digits)) = some (-(Nat.ofDigitChars 10 digits 0 : Int)) := by
  unfold parseI64
  rw [String.toList_ofList]
  split
  rename_i sign rest heq
  obtain ⟨rfl, rfl⟩ := Prod.mk.inj (heq : (-1, digits) = (sign, rest))
  rw [if_neg (by simpa [hne] using hdigits)]
  dsimp only
  rw [foldl_digits, Int.neg_mul, one_mul, if_pos ⟨by omega, by omega⟩]

theorem parseI64_toString {n : Int} (hlow : -2 ^ 63 ≤ n) (hhigh : n < 2 ^ 63) :
    parseI64 (toString n) = some n := by
  have hread (m : Nat) : Nat.ofDigitChars 10 (Nat.toDigits 10 m) 0 = m :=
    Nat.ofDigitChars_toDigits (by decide) (by decide)
  have hdigits (m : Nat) : ∀ c ∈ Nat.toDigits 10 m, c.isDigit = true := fun c hc =>
    Nat.isDigit_of_mem_toDigits (by decide) (by decide) hc
  have hne (m : Nat) : Nat.toDigits 10 m ≠ [] := by
    rw [← Nat.toList_repr]
    simp
  rw [Int.toString_eq_repr, Int.repr_eq_if]
  split
  · rw [Nat.repr_eq_ofList_toDigits, parseI64_of_digits (hne _) (hdigits _), hread]
    · congr 1
      omega
    · rw [hread]
      omega
  · have htext : "-" ++ Nat.repr (-n).toNat =
        String.ofList ('-' :: Nat.toDigits 10 (-n).toNat) := by
      rw [Nat.repr_eq_ofList_toDigits]
      exact String.ofList_append.symm
    rw [htext, parseI64_of_negative (hne _) (hdigits _), hread]
    · congr 1
      omega
    · rw [hread]
      omega

section Reading

variable {parseUuid : String → Option Uuid} {like : String → String → Bool}

/-- What the columns of a row are known to hold: a time in 64 bits, and an id that is read back from
its text. -/
structure SystemEventRecord.Sound (parseUuid : String → Option Uuid) (row : SystemEventRecord) :
    Prop where
  low : -2 ^ 63 ≤ timestampMillis row.ts
  high : timestampMillis row.ts < 2 ^ 63
  text : ∀ c ∈ row.id.text.toList, Text.isWhitespace c = false
  parse : parseUuid row.id.text = some row.id

theorem isDigit_of_mem_toString {n : Int} {c : Char} (hc : c ∈ (toString n).toList) :
    c.isDigit = true ∨ c = '-' := by
  have hdigit (m : Nat) (hc : c ∈ (Nat.repr m).toList) : c.isDigit = true := by
    rw [Nat.toList_repr] at hc
    exact Nat.isDigit_of_mem_toDigits (by decide) (by decide) hc
  rw [Int.toString_eq_repr, Int.repr_eq_if] at hc
  split at hc
  · exact .inl (hdigit _ hc)
  · rw [String.toList_append, List.mem_append] at hc
    rcases hc with hc | hc
    · exact .inr (List.mem_singleton.1 hc)
    · exact .inl (hdigit _ hc)

theorem isWhitespace_of_isDigit {c : Char} (h : c.isDigit = true) :
    Text.isWhitespace c = false := by
  have hlow : 48 ≤ c.toNat := by
    simp only [Char.isDigit, Bool.and_eq_true, decide_eq_true_eq] at h
    exact h.1
  have hhigh : c.toNat ≤ 57 := by
    simp only [Char.isDigit, Bool.and_eq_true, decide_eq_true_eq] at h
    exact h.2
  by_contra hspace
  simp [Text.isWhitespace] at hspace
  omega

theorem trim_of_forall {s : String} (h : ∀ c ∈ s.toList, Text.isWhitespace c = false) :
    Text.trim s = s := by
  have hfront : s.toList.dropWhile Text.isWhitespace = s.toList :=
    List.dropWhile_eq_self_iff.2 fun hlt => by simp [h _ (List.getElem_mem hlt)]
  have hback : s.toList.reverse.dropWhile Text.isWhitespace = s.toList.reverse :=
    List.dropWhile_eq_self_iff.2 fun hlt => by
      rw [h _ (List.mem_reverse.1 (List.getElem_mem hlt))]
      exact Bool.false_ne_true
  rw [Text.trim, hfront, hback, List.reverse_reverse, String.ofList_toList]

/-- A cursor is read back as the key that it was made from. -/
theorem parseCursor_encodeCursor {row : SystemEventRecord} (h : row.Sound parseUuid) :
    parseCursor parseUuid (encodeCursor row.ts row.id) =
      some ⟨timestampMillis row.ts, row.id⟩ := by
  let millis := (toString (timestampMillis row.ts)).toList
  have hlist : (encodeCursor row.ts row.id).toList = millis ++ '|' :: row.id.text.toList := by
    rw [encodeCursor, String.toList_append, String.toList_append]
    exact List.append_assoc _ ['|'] _
  have hbar : ∀ c ∈ millis, decide (c ≠ '|') = true := by
    intro c hc
    apply decide_eq_true
    rintro rfl
    rcases isDigit_of_mem_toString hc with hdigit | hminus
    · exact absurd hdigit (by decide)
    · exact absurd hminus (by decide)
  have htrim : Text.trim (encodeCursor row.ts row.id) = encodeCursor row.ts row.id := by
    apply trim_of_forall
    intro c hc
    rw [hlist, List.mem_append, List.mem_cons] at hc
    rcases hc with hc | rfl | hc
    · rcases isDigit_of_mem_toString hc with hdigit | rfl
      · exact isWhitespace_of_isDigit hdigit
      · rfl
    · rfl
    · exact h.text c hc
  have hrest : (millis ++ '|' :: row.id.text.toList).dropWhile (fun c => decide (c ≠ '|')) =
      '|' :: row.id.text.toList := by
    rw [List.dropWhile_append_of_pos hbar]
    rfl
  have hmillis : (millis ++ '|' :: row.id.text.toList).takeWhile (fun c => decide (c ≠ '|')) =
      millis := by
    rw [List.takeWhile_append_of_pos hbar]
    exact List.append_nil _
  rw [parseCursor, htrim, hlist]
  simp only [hrest, hmillis]
  rw [String.ofList_toList, String.ofList_toList, parseI64_toString h.low h.high, h.parse]

/-! ## The whole log -/

def ParsedCursor.key (cursor : ParsedCursor) : OrderDual (Int ×ₗ String) :=
  OrderDual.toDual (toLex (cursor.tsEpochMs, cursor.id.text))

theorem ParsedCursor.isBehind_eq (cursor : ParsedCursor) (row : SystemEventRecord) :
    cursor.isBehind row = decide (cursor.key < row.key) := by
  have hlt : cursor.key < row.key ↔ timestampMillis row.ts < cursor.tsEpochMs ∨
      timestampMillis row.ts = cursor.tsEpochMs ∧ row.id.text < cursor.id.text := by
    rw [ParsedCursor.key, SystemEventRecord.key, OrderDual.toDual_lt_toDual,
      Prod.Lex.toLex_lt_toLex]
  rw [ParsedCursor.isBehind, decide_eq_decide.2 hlt, Bool.decide_or, Bool.decide_and]

theorem filter_applies (query : SystemEventQuery) (log : List SystemEventRecord) :
    log.filter (query.applies parseUuid like) =
      behind SystemEventRecord.key ((query.cursor.bind (parseCursor parseUuid)).map
        ParsedCursor.key) (log.filter (query.filters like)) := by
  rw [behind, List.filter_filter]
  congr 1
  funext row
  rw [SystemEventQuery.applies, Bool.and_comm]
  cases query.cursor.bind (parseCursor parseUuid) with
  | none => rfl
  | some cursor => simp [ParsedCursor.isBehind_eq]

theorem queryRows_read (log : List SystemEventRecord) (query : SystemEventQuery) :
    ∃ extra : Option SystemEventRecord, (∀ row ∈ extra, row ∈ log) ∧
      (queryRows parseUuid like log query).nextCursor =
        extra.map (fun row => encodeCursor row.ts row.id) ∧
      KeysetPages.read SystemEventRecord.key query.normalizedLimit
          (log.filter (query.filters like))
          ((query.cursor.bind (parseCursor parseUuid)).map ParsedCursor.key) =
        ((queryRows parseUuid like log query).items, extra.map SystemEventRecord.key) := by
  rw [KeysetPages.read, ← filter_applies]
  dsimp only [queryRows]
  generalize hfound : Paging.page SystemEventRecord.key (query.normalizedLimit + 1)
    (log.filter (query.applies parseUuid like)) = found
  by_cases hlt : query.normalizedLimit < found.length
  · rw [if_pos hlt, if_pos hlt]
    refine ⟨found.getLast?, fun row hrow => ?_, rfl, rfl⟩
    have hmem : row ∈ found := List.mem_of_getLast? hrow
    rw [← hfound] at hmem
    exact List.mem_of_mem_filter (Paging.page_subset hmem)
  · rw [if_neg hlt, if_neg hlt]
    exact ⟨none, fun row hrow => absurd hrow (Option.not_mem_none row), rfl, rfl⟩

theorem readLog_eq_readAll {logs : Nat → List SystemEventRecord}
    (hsound : ∀ t, ∀ row ∈ logs t, row.Sound parseUuid) (query : SystemEventQuery)
    (calls t : Nat) (cursor : Option String) :
    readLog parseUuid like logs query calls t cursor =
      readAll SystemEventRecord.key query.normalizedLimit
        (fun t => (logs t).filter (query.filters like)) calls t
        ((cursor.bind (parseCursor parseUuid)).map ParsedCursor.key) := by
  induction calls generalizing t cursor with
  | zero => rfl
  | succ calls ih =>
      obtain ⟨extra, hmem, hnext, hread⟩ := @queryRows_read parseUuid like (logs t)
        { query with cursor }
      rw [readLog, readAll]
      change KeysetPages.read SystemEventRecord.key query.normalizedLimit
        ((logs t).filter (query.filters like)) _ = _ at hread
      rw [hread]
      cases extra with
      | none => simp only [hnext, Option.map_none]
      | some row =>
          have hparse := parseCursor_encodeCursor (hsound t row (hmem row rfl))
          simp only [hnext, Option.map_some, ih, Option.bind_some, hparse]
          rfl

/-- Only newer events are logged. -/
def LogsForward (logs : Nat → List SystemEventRecord) : Prop :=
  ∀ t, ∃ more, logs t = logs 0 ++ more ∧
    ∀ row ∈ more, ∀ row' ∈ logs 0, timestampMillis row'.ts < timestampMillis row.ts

/-- Whoever reads the log to its end has been shown, newest first, the events that the filters let
through, but for those at every `limit + 1`-th place: the cursor of a page names an event that is
on no page. -/
theorem readLog_eq_gapped {logs : Nat → List SystemEventRecord}
    (hsound : ∀ t, ∀ row ∈ logs t, row.Sound parseUuid) (hids : ((logs 0).map (·.id)).Nodup)
    (hforward : LogsForward logs) (query : SystemEventQuery) {calls : Nat}
    (hcalls : (logs 0).length < calls) :
    readLog parseUuid like logs query calls 0 none =
      some (gapped query.normalizedLimit
        (sorted SystemEventRecord.key ((logs 0).filter (query.filters like)))) := by
  have hkeys : ((logs 0).map SystemEventRecord.key).Nodup := by
    have hcongr : (logs 0).map (·.id) =
        ((logs 0).map SystemEventRecord.key).map fun key =>
          ⟨(ofLex (OrderDual.ofDual key)).2⟩ := by
      rw [List.map_map]
      rfl
    rw [hcongr] at hids
    exact hids.of_map _
  rw [readLog_eq_readAll hsound]
  apply readAll_eq _ (hkeys.sublist (List.filter_sublist.map _)) rfl
  · intro t
    rcases hforward t with ⟨more, hlog, hnewer⟩
    refine ⟨more.filter (query.filters like), ?_, fun row hrow row' hrow' => ?_⟩
    · exact (congrArg _ hlog).trans (List.filter_append _ _)
    · have hlt := hnewer row (List.mem_of_mem_filter hrow) row' (List.mem_of_mem_filter hrow')
      rw [SystemEventRecord.key, SystemEventRecord.key, OrderDual.toDual_lt_toDual,
        Prod.Lex.toLex_lt_toLex]
      exact .inl hlt
  · exact (List.length_filter_le _ _).trans_lt hcalls

end Reading

/-! Three events, read one at a time. -/

def sampleSystemEvent (id : String) (ts : DateTime) : SystemEventRecord where
  id := ⟨id⟩
  ts := ts
  category := .request
  eventType := "request_failed"
  severity := .warn
  source := "data_plane"
  tenantId := none
  accountId := none
  requestId := none
  jobId := none
  accountLabel := none
  reasonCode := none
  message := none
  previewText := none

def sampleEventQuery : SystemEventQuery where
  startTs := none
  endTs := none
  accountId := none
  requestId := none
  jobId := none
  tenantId := none
  category := none
  eventType := none
  severity := none
  reasonCode := none
  keyword := none
  limit := some 1
  cursor := none

def sampleEventLog : List SystemEventRecord :=
  [sampleSystemEvent "a" 1000, sampleSystemEvent "b" 2000, sampleSystemEvent "c" 3000]

theorem sampleEventLog_sound : ∀ row ∈ sampleEventLog, row.Sound fun s => some ⟨s⟩ := by
  intro row hrow
  simp only [sampleEventLog, List.mem_cons, List.not_mem_nil, or_false] at hrow
  obtain rfl | rfl | rfl := hrow
  all_goals exact ⟨by decide, by decide, by simp [sampleSystemEvent, Text.isWhitespace], rfl⟩

theorem sampleEventLog_forward : LogsForward fun _ => sampleEventLog := fun _ =>
  ⟨[], (List.append_nil _).symm, fun _ hrow => absurd hrow List.not_mem_nil⟩

/-- The event in the middle is on no page. -/
theorem readLog_sampleEventLog :
    readLog (fun s => some ⟨s⟩) (fun _ _ => false) (fun _ => sampleEventLog) sampleEventQuery
        4 0 none =
      some [sampleSystemEvent "c" 3000, sampleSystemEvent "a" 1000] := by
  rw [readLog_eq_gapped (fun _ => sampleEventLog_sound) (by decide) sampleEventLog_forward
    sampleEventQuery (Nat.lt_succ_self 3)]
  decide +kernel

end CodexPool
