import CodexPool.Lib.CountedRows
import CodexPool.Usage.Event
import Mathlib.Data.Prod.Lex
import Mathlib.Data.String.Basic

/-!
# The totals of the hourly rows

The worker counts the events of one batch at a time, and the tables add up what the batches yield.
Each list of rows is determined by its counts, so that the batches make no difference.
-/

namespace CodexPool

open CountedRows

/-! ## The order of the rows -/

theorem rowLe_iff (x y : DateTime × String × String) :
    rowLe x y = true ↔ toLex (x.1, toLex x.2) ≤ toLex (y.1, toLex y.2) := by
  simp only [rowLe, Prod.Lex.toLex_le_toLex, Bool.or_eq_true, Bool.and_eq_true,
    decide_eq_true_eq, Bool.not_eq_true', decide_eq_false_iff_not, not_lt]

theorem rowLe_total (x y : DateTime × String × String) : (rowLe x y || rowLe y x) = true := by
  rw [Bool.or_eq_true, rowLe_iff, rowLe_iff]
  exact le_total _ _

theorem rowLe_trans (x y z : DateTime × String × String) (h : rowLe x y = true)
    (h' : rowLe y z = true) : rowLe x z = true := by
  rw [rowLe_iff] at h h' ⊢
  exact h.trans h'

theorem rowLe_antisymm (x y : DateTime × String × String) (h : rowLe x y = true)
    (h' : rowLe y x = true) : x = y := by
  rw [rowLe_iff] at h h'
  have heq := le_antisymm h h'
  simpa [Prod.ext_iff] using heq

theorem Uuid.eq_of_text {a b : Uuid} (h : a.text = b.text) : a = b := by
  cases a
  cases b
  exact congrArg _ h

/-! ## The three kinds of rows -/

def accountLayout : Layout HourlyAccountUsageRow (Uuid × DateTime) where
  row b := ⟨b.1.1, b.1.2, b.2⟩
  key r := (r.accountId, r.hourStart)
  count r := r.requestCount
  key_row _ := rfl
  count_row _ := rfl
  row_eq _ := rfl
  le a b := rowLe (a.2, a.1.text, "") (b.2, b.1.text, "")
  le_total _ _ := rowLe_total _ _
  le_trans _ _ _ := rowLe_trans _ _ _
  le_antisymm a b h h' := by
    have heq := Prod.ext_iff.1 (rowLe_antisymm _ _ h h')
    exact Prod.ext (Uuid.eq_of_text (Prod.ext_iff.1 heq.2).1) heq.1

/-- The order by hour, then by the first name and by the second one. -/
def nameLe (a b : Uuid × Uuid × DateTime) : Bool :=
  rowLe (a.2.2, a.1.text, a.2.1.text) (b.2.2, b.1.text, b.2.1.text)

theorem nameLe_antisymm (a b : Uuid × Uuid × DateTime) (h : nameLe a b = true)
    (h' : nameLe b a = true) : a = b := by
  have heq := Prod.ext_iff.1 (rowLe_antisymm _ _ h h')
  have hnames := Prod.ext_iff.1 heq.2
  exact Prod.ext (Uuid.eq_of_text hnames.1) (Prod.ext (Uuid.eq_of_text hnames.2) heq.1)

def tenantApiKeyLayout : Layout HourlyTenantApiKeyUsageRow (Uuid × Uuid × DateTime) where
  row b := ⟨b.1.1, b.1.2.1, b.1.2.2, b.2⟩
  key r := (r.tenantId, r.apiKeyId, r.hourStart)
  count r := r.requestCount
  key_row _ := rfl
  count_row _ := rfl
  row_eq _ := rfl
  le := nameLe
  le_total _ _ := rowLe_total _ _
  le_trans _ _ _ := rowLe_trans _ _ _
  le_antisymm := nameLe_antisymm

def tenantAccountLayout : Layout HourlyTenantAccountUsageRow (Uuid × Uuid × DateTime) where
  row b := ⟨b.1.1, b.1.2.1, b.1.2.2, b.2⟩
  key r := (r.tenantId, r.accountId, r.hourStart)
  count r := r.requestCount
  key_row _ := rfl
  count_row _ := rfl
  row_eq _ := rfl
  le := nameLe
  le_total _ _ := rowLe_total _ _
  le_trans _ _ _ := rowLe_trans _ _ _
  le_antisymm := nameLe_antisymm

theorem aggregateByHour_eq (events : List UsageAggregationEvent) :
    aggregateByHour events =
      ⟨accountLayout.ofKeys (events.map (·.accountBucket)),
        tenantApiKeyLayout.ofKeys (events.filterMap (·.tenantBucket)),
        tenantAccountLayout.ofKeys (events.filterMap (·.tenantAccountBucket))⟩ := rfl

theorem aggregateByHour_nil : aggregateByHour [] = ⟨[], [], []⟩ := by
  simp [aggregateByHour, bucketCounts, Tally.groupSums]

/-! ## Adding up batches -/

namespace HourlyUsageRows

/-- The rows of two batches added up key by key. -/
def add (x y : HourlyUsageRows) : HourlyUsageRows where
  accountRows := accountLayout.merged (x.accountRows ++ y.accountRows)
  tenantApiKeyRows := tenantApiKeyLayout.merged (x.tenantApiKeyRows ++ y.tenantApiKeyRows)
  tenantAccountRows := tenantAccountLayout.merged (x.tenantAccountRows ++ y.tenantAccountRows)

/-- Each list of rows increases strictly by its key. -/
def Sorted (rows : HourlyUsageRows) : Prop :=
  accountLayout.Sorted rows.accountRows ∧ tenantApiKeyLayout.Sorted rows.tenantApiKeyRows ∧
    tenantAccountLayout.Sorted rows.tenantAccountRows

end HourlyUsageRows

theorem aggregateByHour_sorted (events : List UsageAggregationEvent) :
    (aggregateByHour events).Sorted :=
  ⟨accountLayout.sorted_ofKeys _, tenantApiKeyLayout.sorted_ofKeys _,
    tenantAccountLayout.sorted_ofKeys _⟩

theorem aggregateByHour_perm {events events' : List UsageAggregationEvent}
    (h : events.Perm events') : aggregateByHour events = aggregateByHour events' := by
  rw [aggregateByHour_eq, aggregateByHour_eq, accountLayout.ofKeys_eq_of_perm (h.map _),
    tenantApiKeyLayout.ofKeys_eq_of_perm (h.filterMap _),
    tenantAccountLayout.ofKeys_eq_of_perm (h.filterMap _)]

theorem aggregateByHour_append (events events' : List UsageAggregationEvent) :
    aggregateByHour (events ++ events') =
      (aggregateByHour events).add (aggregateByHour events') := by
  simp only [aggregateByHour_eq, HourlyUsageRows.add, Layout.merged_ofKeys, List.map_append,
    List.filterMap_append]

theorem aggregateByHour_flatten (events : List UsageAggregationEvent)
    (batches : List (List UsageAggregationEvent)) :
    (batches.map aggregateByHour).foldl HourlyUsageRows.add (aggregateByHour events) =
      aggregateByHour (events ++ batches.flatten) := by
  induction batches generalizing events with
  | nil => simp
  | cons batch batches ih =>
      rw [List.map_cons, List.foldl_cons, ← aggregateByHour_append, ih, List.flatten_cons,
        List.append_assoc]

/-- The hourly rows of any batches of the same events add up to the same totals. -/
theorem aggregateByHour_totals (events : List UsageAggregationEvent) :
    (aggregateByHour events).Sorted ∧
      ((aggregateByHour events).accountRows.map (·.requestCount)).sum = events.length ∧
      (∀ events', events'.Perm events → aggregateByHour events' = aggregateByHour events) ∧
      (∀ xs ys, xs ++ ys = events →
        (aggregateByHour xs).add (aggregateByHour ys) = aggregateByHour events) ∧
      ∀ batches : List (List UsageAggregationEvent), batches.flatten.Perm events →
        (batches.map aggregateByHour).foldl HourlyUsageRows.add ⟨[], [], []⟩ =
          aggregateByHour events := by
  refine ⟨aggregateByHour_sorted events, ?_, fun _ h => aggregateByHour_perm h, ?_, ?_⟩
  · have hsum := accountLayout.sum_ofKeys (events.map (·.accountBucket))
    rwa [List.length_map] at hsum
  · intro xs ys h
    rw [← aggregateByHour_append, h]
  · intro batches h
    rw [← aggregateByHour_nil, aggregateByHour_flatten, List.nil_append]
    exact aggregateByHour_perm h

end CodexPool
