import CodexPool.Lib.Replacing
import CodexPool.Usage.Event

/-!
# The hourly tables of ClickHouse

Each flush of the worker appends one row per hour and key to three tables, and the
queries add up whatever rows they find. The tables are `ReplacingMergeTree`s ordered by
hour and key, so that a merge keeps one row of a key where two flushes have each written a
part of its count.
-/

namespace CodexPool

structure ClickHouseHourlyAccountUsageRow where
  accountId : Uuid
  hourStart : Int
  requestCount : Nat

structure ClickHouseHourlyTenantApiKeyUsageRow where
  tenantId : Uuid
  apiKeyId : Uuid
  hourStart : Int
  requestCount : Nat

structure ClickHouseHourlyTenantAccountUsageRow where
  tenantId : Uuid
  accountId : Uuid
  hourStart : Int
  requestCount : Nat

def ClickHouseHourlyAccountUsageRow.from (row : HourlyAccountUsageRow) :
    ClickHouseHourlyAccountUsageRow :=
  ⟨row.accountId, timestamp row.hourStart, row.requestCount⟩

def ClickHouseHourlyTenantApiKeyUsageRow.from (row : HourlyTenantApiKeyUsageRow) :
    ClickHouseHourlyTenantApiKeyUsageRow :=
  ⟨row.tenantId, row.apiKeyId, timestamp row.hourStart, row.requestCount⟩

def ClickHouseHourlyTenantAccountUsageRow.from (row : HourlyTenantAccountUsageRow) :
    ClickHouseHourlyTenantAccountUsageRow :=
  ⟨row.tenantId, row.accountId, timestamp row.hourStart, row.requestCount⟩

/-! The `ORDER BY` keys of the tables. -/

def ClickHouseHourlyAccountUsageRow.key (row : ClickHouseHourlyAccountUsageRow) : Uuid × Int :=
  (row.accountId, row.hourStart)

def ClickHouseHourlyTenantApiKeyUsageRow.key (row : ClickHouseHourlyTenantApiKeyUsageRow) :
    Uuid × Uuid × Int :=
  (row.tenantId, row.apiKeyId, row.hourStart)

def ClickHouseHourlyTenantAccountUsageRow.key (row : ClickHouseHourlyTenantAccountUsageRow) :
    Uuid × Uuid × Int :=
  (row.tenantId, row.accountId, row.hourStart)

structure ClickHouseUsageRepo where
  accountTable : List (List ClickHouseHourlyAccountUsageRow)
  tenantApiKeyTable : List (List ClickHouseHourlyTenantApiKeyUsageRow)
  tenantAccountTable : List (List ClickHouseHourlyTenantAccountUsageRow)

/-! ## Query results -/

structure HourlyUsageTotalPoint where
  hourStart : Int
  requestCount : Nat
deriving DecidableEq

structure HourlyTenantUsageTotalPoint where
  tenantId : Uuid
  hourStart : Int
  requestCount : Nat
deriving DecidableEq

structure UsageSummaryQueryResponse where
  startTs : Int
  endTs : Int
  accountTotalRequests : Nat
  tenantApiKeyTotalRequests : Nat
  uniqueAccountCount : Nat
  uniqueTenantApiKeyCount : Nat
deriving DecidableEq

structure AccountUsageLeaderboardItem where
  accountId : Uuid
  totalRequests : Nat
deriving DecidableEq

structure ApiKeyUsageLeaderboardItem where
  tenantId : Uuid
  apiKeyId : Uuid
  totalRequests : Nat
deriving DecidableEq

namespace ClickHouseUsageRepo

open Tally

/-! ## Inserting -/

/-- An insertion writes one part, and nothing where there are no rows. -/
def insertRows {ρ σ : Type*} (toRow : ρ → σ) (rows : List ρ) : Option (Replacing.Op σ) :=
  if rows.isEmpty then none else some (.insert (rows.map toRow))

def insertAccountRows (rows : List HourlyAccountUsageRow) :
    Option (Replacing.Op ClickHouseHourlyAccountUsageRow) :=
  insertRows .from rows

def insertTenantApiKeyRows (rows : List HourlyTenantApiKeyUsageRow) :
    Option (Replacing.Op ClickHouseHourlyTenantApiKeyUsageRow) :=
  insertRows .from rows

def insertTenantAccountRows (rows : List HourlyTenantAccountUsageRow) :
    Option (Replacing.Op ClickHouseHourlyTenantAccountUsageRow) :=
  insertRows .from rows

/-! ## Queries -/

variable (repo : ClickHouseUsageRepo)

/-- `AND column = ?`, where the argument is given. -/
def optionally (arg : Option Uuid) (column : Uuid) : Bool := arg.all (· = column)

/-- `ORDER BY total_requests DESC`, then by the text of the group. -/
def leaderboardLe {γ : Type*} (text : γ → String × String) (x y : γ × Nat) : Bool :=
  y.2 < x.2 || (x.2 = y.2 && ((text x.1).1 < (text y.1).1 ||
    ((text x.1).1 = (text y.1).1 && !((text y.1).2 < (text x.1).2))))

def fetchHourlyAccountTotals (startTs endTs : Int) (limit : Nat) (accountId : Option Uuid) :
    List HourlyUsageTotalPoint :=
  (querySums
    (fun r : ClickHouseHourlyAccountUsageRow =>
      startTs ≤ r.hourStart && r.hourStart < endTs && optionally accountId r.accountId)
    (·.hourStart) (·.requestCount) (fun x y => x.1 ≤ y.1) limit
    repo.accountTable.flatten).map fun g => ⟨g.1, g.2⟩

def fetchHourlyTenantApiKeyTotals (startTs endTs : Int) (limit : Nat)
    (tenantId apiKeyId : Option Uuid) : List HourlyUsageTotalPoint :=
  (querySums
    (fun r : ClickHouseHourlyTenantApiKeyUsageRow =>
      startTs ≤ r.hourStart && r.hourStart < endTs && optionally tenantId r.tenantId &&
        optionally apiKeyId r.apiKeyId)
    (·.hourStart) (·.requestCount) (fun x y => x.1 ≤ y.1) limit
    repo.tenantApiKeyTable.flatten).map fun g => ⟨g.1, g.2⟩

def fetchHourlyTenantTotals (startTs endTs : Int) (limit : Nat)
    (tenantId apiKeyId : Option Uuid) : List HourlyTenantUsageTotalPoint :=
  (querySums
    (fun r : ClickHouseHourlyTenantApiKeyUsageRow =>
      startTs ≤ r.hourStart && r.hourStart < endTs && optionally tenantId r.tenantId &&
        optionally apiKeyId r.apiKeyId)
    (fun r => (r.tenantId, r.hourStart)) (·.requestCount)
    (fun x y => x.1.2 < y.1.2 || (x.1.2 = y.1.2 && !(y.1.1.text < x.1.1.text))) limit
    repo.tenantApiKeyTable.flatten).map fun g => ⟨g.1.1, g.1.2, g.2⟩

def fetchSummary (startTs endTs : Int) (tenantId accountId apiKeyId : Option Uuid) :
    UsageSummaryQueryResponse :=
  let ofAccount (r : ClickHouseHourlyAccountUsageRow) : Bool :=
    startTs ≤ r.hourStart && r.hourStart ≤ endTs && optionally accountId r.accountId
  let ofTenantApiKey (r : ClickHouseHourlyTenantApiKeyUsageRow) : Bool :=
    startTs ≤ r.hourStart && r.hourStart ≤ endTs && optionally tenantId r.tenantId &&
      optionally apiKeyId r.apiKeyId
  { startTs, endTs
    accountTotalRequests := sumWhere (·.requestCount) ofAccount repo.accountTable.flatten
    tenantApiKeyTotalRequests :=
      sumWhere (·.requestCount) ofTenantApiKey repo.tenantApiKeyTable.flatten
    uniqueAccountCount :=
      ((repo.accountTable.flatten.filter ofAccount).map (·.accountId)).dedup.length
    uniqueTenantApiKeyCount :=
      ((repo.tenantApiKeyTable.flatten.filter ofTenantApiKey).map fun r =>
        (r.tenantId, r.apiKeyId)).dedup.length }

def fetchAccountLeaderboard (startTs endTs : Int) (limit : Nat) (accountId : Option Uuid) :
    List AccountUsageLeaderboardItem :=
  (querySums
    (fun r : ClickHouseHourlyAccountUsageRow =>
      startTs ≤ r.hourStart && r.hourStart ≤ endTs && optionally accountId r.accountId)
    (·.accountId) (·.requestCount) (leaderboardLe fun g => (g.text, "")) limit
    repo.accountTable.flatten).map fun g => ⟨g.1, g.2⟩

def fetchTenantScopedAccountLeaderboard (startTs endTs : Int) (limit : Nat) (tenantId : Uuid)
    (accountId : Option Uuid) : List AccountUsageLeaderboardItem :=
  (querySums
    (fun r : ClickHouseHourlyTenantAccountUsageRow =>
      startTs ≤ r.hourStart && r.hourStart ≤ endTs && decide (tenantId = r.tenantId) &&
        optionally accountId r.accountId)
    (·.accountId) (·.requestCount) (leaderboardLe fun g => (g.text, "")) limit
    repo.tenantAccountTable.flatten).map fun g => ⟨g.1, g.2⟩

def fetchApiKeyLeaderboard (startTs endTs : Int) (limit : Nat)
    (tenantId apiKeyId : Option Uuid) : List ApiKeyUsageLeaderboardItem :=
  (querySums
    (fun r : ClickHouseHourlyTenantApiKeyUsageRow =>
      startTs ≤ r.hourStart && r.hourStart ≤ endTs && optionally tenantId r.tenantId &&
        optionally apiKeyId r.apiKeyId)
    (fun r => (r.tenantId, r.apiKeyId)) (·.requestCount)
    (leaderboardLe fun g => (g.1.text, g.2.text)) limit
    repo.tenantApiKeyTable.flatten).map fun g => ⟨g.1.1, g.1.2, g.2⟩

/-! ## What the queries return for one key -/

/-- The counts that the queries for an account and an hour return. -/
def accountReads (accountId : Uuid) (hour : Int) (limit : Nat) : List Nat :=
  [(repo.fetchSummary hour hour none (some accountId) none).accountTotalRequests,
    ((repo.fetchHourlyAccountTotals hour (hour + 1) limit (some accountId)).map
      (·.requestCount)).sum,
    ((repo.fetchAccountLeaderboard hour hour limit (some accountId)).map (·.totalRequests)).sum]

/-- The counts that the queries for a tenant, an API key and an hour return. -/
def tenantApiKeyReads (tenantId apiKeyId : Uuid) (hour : Int) (limit : Nat) : List Nat :=
  [(repo.fetchSummary hour hour (some tenantId) none (some apiKeyId)).tenantApiKeyTotalRequests,
    ((repo.fetchHourlyTenantApiKeyTotals hour (hour + 1) limit (some tenantId)
      (some apiKeyId)).map (·.requestCount)).sum,
    ((repo.fetchHourlyTenantTotals hour (hour + 1) limit (some tenantId) (some apiKeyId)).map
      (·.requestCount)).sum,
    ((repo.fetchApiKeyLeaderboard hour hour limit (some tenantId) (some apiKeyId)).map
      (·.totalRequests)).sum]

/-- The counts that the query for a tenant, an account and an hour returns. -/
def tenantAccountReads (tenantId accountId : Uuid) (hour : Int) (limit : Nat) : List Nat :=
  [((repo.fetchTenantScopedAccountLeaderboard hour hour limit tenantId (some accountId)).map
    (·.totalRequests)).sum]

variable {repo} {limit : Nat}

theorem sum_map_querySums {ρ γ δ κ : Type*} [DecidableEq γ] [DecidableEq κ]
    (hlimit : 0 < limit) {p : ρ → Bool} {key : ρ → κ} {k : κ}
    (hp : ∀ r, p r = decide (key r = k)) {group : ρ → γ} {g : γ}
    (hgroup : ∀ r, key r = k → group r = g) {amount : ρ → Nat} {le : γ × Nat → γ × Nat → Bool}
    {point : γ × Nat → δ} {count : δ → Nat} (hpoint : ∀ b, count (point b) = b.2)
    (rows : List ρ) :
    (((querySums p group amount le limit rows).map point).map count).sum =
      sumWhere amount (key · = k) rows := by
  have hcount : count ∘ point = Prod.snd := funext hpoint
  have hconst : ∀ r ∈ rows, p r = true → group r = g := by
    intro r _ hr
    rw [hp] at hr
    exact hgroup r (of_decide_eq_true hr)
  rw [List.map_map, hcount, sum_querySums hlimit hconst]
  exact sumWhere_congr fun r _ => hp r

theorem accountReads_eq (hlimit : 0 < limit) (accountId : Uuid) (hour : Int) :
    ∀ n ∈ repo.accountReads accountId hour limit,
      n = sumWhere (·.requestCount) (·.key = (accountId, hour)) repo.accountTable.flatten := by
  have hupTo (r : ClickHouseHourlyAccountUsageRow) :
      (hour ≤ r.hourStart && r.hourStart ≤ hour && optionally (some accountId) r.accountId) =
        decide (r.key = (accountId, hour)) := by
    simp only [optionally, ClickHouseHourlyAccountUsageRow.key, Option.all_some, Prod.mk.injEq]
    grind
  have hbefore (r : ClickHouseHourlyAccountUsageRow) :
      (hour ≤ r.hourStart && r.hourStart < hour + 1 &&
        optionally (some accountId) r.accountId) = decide (r.key = (accountId, hour)) := by
    simp only [optionally, ClickHouseHourlyAccountUsageRow.key, Option.all_some, Prod.mk.injEq]
    grind
  simp only [accountReads, List.forall_mem_cons, List.not_mem_nil, IsEmpty.forall_iff,
    implies_true, and_true]
  refine ⟨sumWhere_congr fun r _ => hupTo r, ?_, ?_⟩
  · apply sum_map_querySums hlimit hbefore (g := hour)
    · exact fun r hr => congrArg Prod.snd hr
    · exact fun _ => rfl
  · apply sum_map_querySums hlimit hupTo (g := accountId)
    · exact fun r hr => congrArg Prod.fst hr
    · exact fun _ => rfl

theorem tenantApiKeyReads_eq (hlimit : 0 < limit) (tenantId apiKeyId : Uuid) (hour : Int) :
    ∀ n ∈ repo.tenantApiKeyReads tenantId apiKeyId hour limit,
      n = sumWhere (·.requestCount) (·.key = (tenantId, apiKeyId, hour))
        repo.tenantApiKeyTable.flatten := by
  have hupTo (r : ClickHouseHourlyTenantApiKeyUsageRow) :
      (hour ≤ r.hourStart && r.hourStart ≤ hour && optionally (some tenantId) r.tenantId &&
        optionally (some apiKeyId) r.apiKeyId) =
          decide (r.key = (tenantId, apiKeyId, hour)) := by
    simp only [optionally, ClickHouseHourlyTenantApiKeyUsageRow.key, Option.all_some,
      Prod.mk.injEq]
    grind
  have hbefore (r : ClickHouseHourlyTenantApiKeyUsageRow) :
      (hour ≤ r.hourStart && r.hourStart < hour + 1 && optionally (some tenantId) r.tenantId &&
        optionally (some apiKeyId) r.apiKeyId) =
          decide (r.key = (tenantId, apiKeyId, hour)) := by
    simp only [optionally, ClickHouseHourlyTenantApiKeyUsageRow.key, Option.all_some,
      Prod.mk.injEq]
    grind
  simp only [tenantApiKeyReads, List.forall_mem_cons, List.not_mem_nil, IsEmpty.forall_iff,
    implies_true, and_true]
  refine ⟨sumWhere_congr fun r _ => hupTo r, ?_, ?_, ?_⟩
  · apply sum_map_querySums hlimit hbefore (g := hour)
    · exact fun r hr => congrArg (·.2.2) hr
    · exact fun _ => rfl
  · apply sum_map_querySums hlimit hbefore (g := (tenantId, hour))
    · exact fun r hr => congrArg (fun k => (k.1, k.2.2)) hr
    · exact fun _ => rfl
  · apply sum_map_querySums hlimit hupTo (g := (tenantId, apiKeyId))
    · exact fun r hr => congrArg (fun k => (k.1, k.2.1)) hr
    · exact fun _ => rfl

theorem tenantAccountReads_eq (hlimit : 0 < limit) (tenantId accountId : Uuid) (hour : Int) :
    ∀ n ∈ repo.tenantAccountReads tenantId accountId hour limit,
      n = sumWhere (·.requestCount) (·.key = (tenantId, accountId, hour))
        repo.tenantAccountTable.flatten := by
  have hupTo (r : ClickHouseHourlyTenantAccountUsageRow) :
      (hour ≤ r.hourStart && r.hourStart ≤ hour && decide (tenantId = r.tenantId) &&
        optionally (some accountId) r.accountId) =
          decide (r.key = (tenantId, accountId, hour)) := by
    simp only [optionally, ClickHouseHourlyTenantAccountUsageRow.key, Option.all_some,
      Prod.mk.injEq]
    grind
  simp only [tenantAccountReads, List.forall_mem_cons, List.not_mem_nil, IsEmpty.forall_iff,
    implies_true, and_true]
  apply sum_map_querySums hlimit hupTo (g := accountId)
  · exact fun r hr => congrArg (·.2.1) hr
  · exact fun _ => rfl

end ClickHouseUsageRepo

/-! ## Flushes and merges -/

/-- What happens to the hourly tables: the worker flushes a batch, or ClickHouse merges some
parts of one of them. -/
inductive UsageTableStep where
  | flush (messages : List StreamMessage)
  | mergeAccountTable (first count : Nat)
  | mergeTenantApiKeyTable (first count : Nat)
  | mergeTenantAccountTable (first count : Nat)

namespace UsageTableStep

open Replacing

def accountOp : UsageTableStep → Option (Op ClickHouseHourlyAccountUsageRow)
  | flush messages => ClickHouseUsageRepo.insertAccountRows (hourlyRows messages).accountRows
  | mergeAccountTable first count => some (.merge first count)
  | _ => none

def tenantApiKeyOp : UsageTableStep → Option (Op ClickHouseHourlyTenantApiKeyUsageRow)
  | flush messages =>
    ClickHouseUsageRepo.insertTenantApiKeyRows (hourlyRows messages).tenantApiKeyRows
  | mergeTenantApiKeyTable first count => some (.merge first count)
  | _ => none

def tenantAccountOp : UsageTableStep → Option (Op ClickHouseHourlyTenantAccountUsageRow)
  | flush messages =>
    ClickHouseUsageRepo.insertTenantAccountRows (hourlyRows messages).tenantAccountRows
  | mergeTenantAccountTable first count => some (.merge first count)
  | _ => none

def flushed : UsageTableStep → List UsageAggregationEvent
  | flush messages => aggregationEvents messages
  | _ => []

end UsageTableStep

namespace ClickHouseUsageRepo

open Replacing

def empty : ClickHouseUsageRepo := ⟨[], [], []⟩

def step (repo : ClickHouseUsageRepo) (i : UsageTableStep) : ClickHouseUsageRepo where
  accountTable := applyOp ClickHouseHourlyAccountUsageRow.key repo.accountTable i.accountOp
  tenantApiKeyTable :=
    applyOp ClickHouseHourlyTenantApiKeyUsageRow.key repo.tenantApiKeyTable i.tenantApiKeyOp
  tenantAccountTable :=
    applyOp ClickHouseHourlyTenantAccountUsageRow.key repo.tenantAccountTable i.tenantAccountOp

/-- The tables after a run of flushes and merges. -/
def afterSteps (steps : List UsageTableStep) : ClickHouseUsageRepo :=
  Machine.run step empty steps

/-- Every query for one key returns the number of the events of that key. -/
structure Counts (repo : ClickHouseUsageRepo) (events : List UsageAggregationEvent) : Prop where
  account : ∀ accountId hour limit, 0 < limit →
    ∀ n ∈ repo.accountReads accountId hour limit,
      n = events.countP fun e => e.accountId = accountId ∧ hourOf e.createdAt = hour
  tenantApiKey : ∀ tenantId apiKeyId hour limit, 0 < limit →
    ∀ n ∈ repo.tenantApiKeyReads tenantId apiKeyId hour limit,
      n = events.countP fun e =>
        e.tenantId = some tenantId ∧ e.apiKeyId = some apiKeyId ∧ hourOf e.createdAt = hour
  tenantAccount : ∀ tenantId accountId hour limit, 0 < limit →
    ∀ n ∈ repo.tenantAccountReads tenantId accountId hour limit,
      n = events.countP fun e =>
        e.tenantId = some tenantId ∧ e.accountId = accountId ∧ hourOf e.createdAt = hour

structure MeetsNoKeyTwice (repo : ClickHouseUsageRepo) (i : UsageTableStep) : Prop where
  account : ∀ k, ∀ op ∈ i.accountOp,
    MergesOnce ClickHouseHourlyAccountUsageRow.key k repo.accountTable op
  tenantApiKey : ∀ k, ∀ op ∈ i.tenantApiKeyOp,
    MergesOnce ClickHouseHourlyTenantApiKeyUsageRow.key k repo.tenantApiKeyTable op
  tenantAccount : ∀ k, ∀ op ∈ i.tenantAccountOp,
    MergesOnce ClickHouseHourlyTenantAccountUsageRow.key k repo.tenantAccountTable op

/-! ## What the tables count -/

section Counts

variable {repo : ClickHouseUsageRepo} {events : List UsageAggregationEvent}

theorem forall_reads_iff {m n : Nat} (reads : Nat → List Nat) (hne : reads 1 ≠ [])
    (h : ∀ limit, 0 < limit → ∀ n ∈ reads limit, n = m) :
    (∀ limit, 0 < limit → ∀ k ∈ reads limit, k = n) ↔ m = n := by
  constructor
  · intro hall
    rcases List.exists_mem_of_ne_nil _ hne with ⟨k, hk⟩
    rw [← h 1 Nat.one_pos k hk, hall 1 Nat.one_pos k hk]
  · rintro rfl
    exact h

theorem counts_iff :
    repo.Counts events ↔
      (∀ k : Uuid × Int,
        Tally.sumWhere (·.requestCount) (·.key = k) repo.accountTable.flatten =
          events.countP fun e => e.accountId = k.1 ∧ hourOf e.createdAt = k.2) ∧
      (∀ k : Uuid × Uuid × Int,
        Tally.sumWhere (·.requestCount) (·.key = k) repo.tenantApiKeyTable.flatten =
          events.countP fun e =>
            e.tenantId = some k.1 ∧ e.apiKeyId = some k.2.1 ∧ hourOf e.createdAt = k.2.2) ∧
      ∀ k : Uuid × Uuid × Int,
        Tally.sumWhere (·.requestCount) (·.key = k) repo.tenantAccountTable.flatten =
          events.countP fun e =>
            e.tenantId = some k.1 ∧ e.accountId = k.2.1 ∧ hourOf e.createdAt = k.2.2 := by
  have haccount (k : Uuid × Int) := forall_reads_iff
    (n := events.countP fun e => e.accountId = k.1 ∧ hourOf e.createdAt = k.2)
    (repo.accountReads k.1 k.2) (List.cons_ne_nil _ _)
    fun limit hlimit => accountReads_eq hlimit k.1 k.2
  have htenantApiKey (k : Uuid × Uuid × Int) := forall_reads_iff
    (n := events.countP fun e =>
      e.tenantId = some k.1 ∧ e.apiKeyId = some k.2.1 ∧ hourOf e.createdAt = k.2.2)
    (repo.tenantApiKeyReads k.1 k.2.1 k.2.2) (List.cons_ne_nil _ _)
    fun limit hlimit => tenantApiKeyReads_eq hlimit k.1 k.2.1 k.2.2
  have htenantAccount (k : Uuid × Uuid × Int) := forall_reads_iff
    (n := events.countP fun e =>
      e.tenantId = some k.1 ∧ e.accountId = k.2.1 ∧ hourOf e.createdAt = k.2.2)
    (repo.tenantAccountReads k.1 k.2.1 k.2.2) (List.cons_ne_nil _ _)
    fun limit hlimit => tenantAccountReads_eq hlimit k.1 k.2.1 k.2.2
  constructor
  · intro h
    exact ⟨fun k => (haccount k).1 (h.account k.1 k.2),
      fun k => (htenantApiKey k).1 (h.tenantApiKey k.1 k.2.1 k.2.2),
      fun k => (htenantAccount k).1 (h.tenantAccount k.1 k.2.1 k.2.2)⟩
  · rintro ⟨h₁, h₂, h₃⟩
    exact
      { account := fun a h => (haccount (a, h)).2 (h₁ (a, h))
        tenantApiKey := fun t k h => (htenantApiKey (t, k, h)).2 (h₂ (t, k, h))
        tenantAccount := fun t a h => (htenantAccount (t, a, h)).2 (h₃ (t, a, h)) }

theorem insertedBy_insertRows {ρ σ κ : Type*} [DecidableEq κ] (key : σ → κ) (amount : σ → Nat)
    (toRow : ρ → σ) (k : κ) (rows : List ρ) :
    insertedBy key amount k (insertRows toRow rows) =
      Tally.sumWhere amount (key · = k) (rows.map toRow) := by
  cases rows with
  | nil => rfl
  | cons r rows => rfl

theorem insertedBy_accountOp (k : Uuid × Int) (i : UsageTableStep) :
    insertedBy ClickHouseHourlyAccountUsageRow.key (·.requestCount) k i.accountOp =
      i.flushed.countP fun e => e.accountId = k.1 ∧ hourOf e.createdAt = k.2 := by
  cases i with
  | flush messages =>
      have hrows := sumWhere_accountRows (aggregationEvents messages)
        fun b => b.1 = k.1 ∧ timestamp b.2 = k.2
      rw [UsageTableStep.accountOp, insertAccountRows, insertedBy_insertRows,
        Tally.sumWhere_map]
      apply Eq.trans _ hrows
      apply Tally.sumWhere_congr
      intro r _
      apply decide_eq_decide.2
      simp [ClickHouseHourlyAccountUsageRow.key, ClickHouseHourlyAccountUsageRow.from,
        Prod.ext_iff]
  | mergeAccountTable first count => rfl
  | mergeTenantApiKeyTable first count => rfl
  | mergeTenantAccountTable first count => rfl

theorem insertedBy_tenantApiKeyOp (k : Uuid × Uuid × Int) (i : UsageTableStep) :
    insertedBy ClickHouseHourlyTenantApiKeyUsageRow.key (·.requestCount) k i.tenantApiKeyOp =
      i.flushed.countP fun e =>
        e.tenantId = some k.1 ∧ e.apiKeyId = some k.2.1 ∧ hourOf e.createdAt = k.2.2 := by
  cases i with
  | flush messages =>
      have hrows := sumWhere_tenantApiKeyRows (aggregationEvents messages)
        fun b => b.1 = k.1 ∧ b.2.1 = k.2.1 ∧ timestamp b.2.2 = k.2.2
      have hevents : ∀ e ∈ aggregationEvents messages,
          (e.tenantBucket.any fun b =>
            decide (b.1 = k.1 ∧ b.2.1 = k.2.1 ∧ timestamp b.2.2 = k.2.2)) = true ↔
          decide (e.tenantId = some k.1 ∧ e.apiKeyId = some k.2.1 ∧
            hourOf e.createdAt = k.2.2) = true := by
        intro e _
        rw [UsageAggregationEvent.tenantBucket]
        cases e.tenantId <;> cases e.apiKeyId <;> simp [hourOf]
      rw [UsageTableStep.tenantApiKeyOp, insertTenantApiKeyRows, insertedBy_insertRows,
        Tally.sumWhere_map]
      apply Eq.trans _ (hrows.trans (List.countP_congr hevents))
      apply Tally.sumWhere_congr
      intro r _
      apply decide_eq_decide.2
      simp [ClickHouseHourlyTenantApiKeyUsageRow.key, ClickHouseHourlyTenantApiKeyUsageRow.from,
        Prod.ext_iff]
  | mergeAccountTable first count => rfl
  | mergeTenantApiKeyTable first count => rfl
  | mergeTenantAccountTable first count => rfl

theorem insertedBy_tenantAccountOp (k : Uuid × Uuid × Int) (i : UsageTableStep) :
    insertedBy ClickHouseHourlyTenantAccountUsageRow.key (·.requestCount) k i.tenantAccountOp =
      i.flushed.countP fun e =>
        e.tenantId = some k.1 ∧ e.accountId = k.2.1 ∧ hourOf e.createdAt = k.2.2 := by
  cases i with
  | flush messages =>
      have hrows := sumWhere_tenantAccountRows (aggregationEvents messages)
        fun b => b.1 = k.1 ∧ b.2.1 = k.2.1 ∧ timestamp b.2.2 = k.2.2
      have hevents : ∀ e ∈ aggregationEvents messages,
          (e.tenantAccountBucket.any fun b =>
            decide (b.1 = k.1 ∧ b.2.1 = k.2.1 ∧ timestamp b.2.2 = k.2.2)) = true ↔
          decide (e.tenantId = some k.1 ∧ e.accountId = k.2.1 ∧
            hourOf e.createdAt = k.2.2) = true := by
        intro e _
        rw [UsageAggregationEvent.tenantAccountBucket]
        cases e.tenantId <;> simp [hourOf]
      rw [UsageTableStep.tenantAccountOp, insertTenantAccountRows, insertedBy_insertRows,
        Tally.sumWhere_map]
      apply Eq.trans _ (hrows.trans (List.countP_congr hevents))
      apply Tally.sumWhere_congr
      intro r _
      apply decide_eq_decide.2
      simp [ClickHouseHourlyTenantAccountUsageRow.key, ClickHouseHourlyTenantAccountUsageRow.from,
        Prod.ext_iff]
  | mergeAccountTable first count => rfl
  | mergeTenantApiKeyTable first count => rfl
  | mergeTenantAccountTable first count => rfl

theorem positive_insertRows {ρ σ κ : Type*} [DecidableEq κ] {buckets : List κ}
    {row : κ × Nat → ρ} {le : ρ → ρ → Bool} {toRow : ρ → σ} {amount : σ → Nat}
    (hamount : ∀ b, amount (toRow (row b)) = b.2) :
    ∀ o ∈ insertRows toRow (((bucketCounts buckets).map row).mergeSort le),
      Positive amount o := by
  intro o ho
  rw [insertRows] at ho
  split at ho
  · cases ho
  · rw [Option.mem_some_iff] at ho
    subst ho
    intro r hr
    rcases List.mem_map.1 hr with ⟨row', hrow', rfl⟩
    rcases List.mem_map.1 (List.mem_mergeSort.1 hrow') with ⟨b, hb, rfl⟩
    rw [hamount]
    exact pos_of_mem_bucketCounts b hb

theorem positive_accountOp (i : UsageTableStep) :
    ∀ o ∈ i.accountOp, Positive (·.requestCount) o := by
  cases i with
  | flush messages => exact positive_insertRows fun _ => rfl
  | mergeAccountTable first count => simp [UsageTableStep.accountOp, Positive]
  | mergeTenantApiKeyTable first count => simp [UsageTableStep.accountOp]
  | mergeTenantAccountTable first count => simp [UsageTableStep.accountOp]

theorem positive_tenantApiKeyOp (i : UsageTableStep) :
    ∀ o ∈ i.tenantApiKeyOp, Positive (·.requestCount) o := by
  cases i with
  | flush messages => exact positive_insertRows fun _ => rfl
  | mergeAccountTable first count => simp [UsageTableStep.tenantApiKeyOp]
  | mergeTenantApiKeyTable first count => simp [UsageTableStep.tenantApiKeyOp, Positive]
  | mergeTenantAccountTable first count => simp [UsageTableStep.tenantApiKeyOp]

theorem positive_tenantAccountOp (i : UsageTableStep) :
    ∀ o ∈ i.tenantAccountOp, Positive (·.requestCount) o := by
  cases i with
  | flush messages => exact positive_insertRows fun _ => rfl
  | mergeAccountTable first count => simp [UsageTableStep.tenantAccountOp]
  | mergeTenantApiKeyTable first count => simp [UsageTableStep.tenantAccountOp]
  | mergeTenantAccountTable first count => simp [UsageTableStep.tenantAccountOp, Positive]

end Counts

theorem meetsNoKeyTwice_iff (repo : ClickHouseUsageRepo) (i : UsageTableStep) :
    repo.MeetsNoKeyTwice i ↔
      (∀ k, ∀ op ∈ i.accountOp,
        MergesOnce ClickHouseHourlyAccountUsageRow.key k repo.accountTable op) ∧
      (∀ k, ∀ op ∈ i.tenantApiKeyOp,
        MergesOnce ClickHouseHourlyTenantApiKeyUsageRow.key k repo.tenantApiKeyTable op) ∧
      ∀ k, ∀ op ∈ i.tenantAccountOp,
        MergesOnce ClickHouseHourlyTenantAccountUsageRow.key k repo.tenantAccountTable op :=
  ⟨fun h => ⟨h.account, h.tenantApiKey, h.tenantAccount⟩, fun ⟨h₁, h₂, h₃⟩ => ⟨h₁, h₂, h₃⟩⟩

/-- After every run of flushes and merges and in all states before, the queries return what
was flushed, if and only if no merge of the run meets a key twice. -/
theorem counts_along_iff (steps : List UsageTableStep) :
    (∀ pre, pre <+: steps →
        (afterSteps pre).Counts (pre.flatMap UsageTableStep.flushed)) ↔
      Machine.Along step MeetsNoKeyTwice empty steps := by
  have htable (repo : ClickHouseUsageRepo) (i : UsageTableStep) :
      (repo.step i).accountTable = applyOp _ repo.accountTable i.accountOp ∧
        (repo.step i).tenantApiKeyTable =
          applyOp _ repo.tenantApiKeyTable i.tenantApiKeyOp ∧
        (repo.step i).tenantAccountTable =
          applyOp _ repo.tenantAccountTable i.tenantAccountOp := ⟨rfl, rfl, rfl⟩
  have haccount (k : Uuid × Int) := sum_along_iff accountTable k (fun s i => (htable s i).1)
    positive_accountOp (s := empty) (by simp [empty]) steps
  have htenantApiKey (k : Uuid × Uuid × Int) := sum_along_iff tenantApiKeyTable k
    (fun s i => (htable s i).2.1) positive_tenantApiKeyOp (s := empty) (by simp [empty]) steps
  have htenantAccount (k : Uuid × Uuid × Int) := sum_along_iff tenantAccountTable k
    (fun s i => (htable s i).2.2) positive_tenantAccountOp (s := empty) (by simp [empty]) steps
  have hany (repo : ClickHouseUsageRepo) (i : UsageTableStep) : True → True := fun _ => trivial
  have hok : Machine.Along step MeetsNoKeyTwice empty steps ↔ _ :=
    Machine.along_congr hany (fun repo i _ => meetsNoKeyTwice_iff repo i) trivial steps
  rw [hok, Machine.along_and, Machine.along_and, Machine.along_forall, Machine.along_forall,
    Machine.along_forall]
  simp only [← haccount, ← htenantApiKey, ← htenantAccount, counts_iff, List.countP_flatMap,
    insertedBy_accountOp, insertedBy_tenantApiKeyOp, insertedBy_tenantAccountOp]
  constructor
  · intro h
    exact ⟨fun k pre hpre => ((h pre hpre).1 k).trans (Nat.zero_add _).symm,
      fun k pre hpre => ((h pre hpre).2.1 k).trans (Nat.zero_add _).symm,
      fun k pre hpre => ((h pre hpre).2.2 k).trans (Nat.zero_add _).symm⟩
  · rintro ⟨h₁, h₂, h₃⟩ pre hpre
    exact ⟨fun k => (h₁ k pre hpre).trans (Nat.zero_add _),
      fun k => (h₂ k pre hpre).trans (Nat.zero_add _),
      fun k => (h₃ k pre hpre).trans (Nat.zero_add _)⟩

/-! ## Two flushes in one hour -/

/-- Two flushes of one request each, and a merge of what they have written. -/
def twoFlushesMerged : List UsageTableStep :=
  [.flush [sampleMessage "first" "captured"], .flush [sampleMessage "second" "captured"],
    .mergeAccountTable 0 2]

theorem twoFlushesMerged_not_counted :
    ¬ ∀ pre, pre <+: twoFlushesMerged →
      (afterSteps pre).Counts (pre.flatMap UsageTableStep.flushed) := by
  intro h
  have haccount := (h twoFlushesMerged (List.prefix_refl _)).account ⟨"account"⟩ 0 1
    Nat.one_pos _ List.mem_cons_self
  revert haccount
  decide +kernel

end ClickHouseUsageRepo

end CodexPool
