import CodexPool.ControlPlane.OutboxPolls

/-!
# Cleanup of the outbox

Rows of the outbox are deleted once they are old. A poller whose cursor is behind a deleted row has
to be told that its cursor is gone. What it is told depends on the rows that are left: it is not
told when there are none, nor when its cursor is still 0, nor when a row just behind the cursor has
outlived a later one. Rows that are dated in order do not outlive later ones.
-/

namespace CodexPool

open OutboxRow

/-- A row is dated with the time at which its transaction began. -/
structure DatedOutboxRow extends OutboxRow where
  createdAt : DateTime
deriving DecidableEq

/-- The rows, a poller with its cursor, and the rows that have been deleted since the poller last
read a whole snapshot. -/
structure OutboxCleanup where
  rows : List DatedOutboxRow
  sequence : Nat
  cursor : Nat
  removed : List DatedOutboxRow

inductive OutboxCleanupOp where
  | append (eventType : DataPlaneSnapshotEventType) (accountId : Uuid) (createdAt : DateTime)
  | cleanup (now : DateTime) (retention : Int)
  | poll (limit : Nat)
  | reload

namespace OutboxCleanup

variable (w : OutboxCleanup)

def outbox : List OutboxRow := w.rows.map (·.toOutboxRow)

def append (eventType : DataPlaneSnapshotEventType) (accountId : Uuid) (createdAt : DateTime) :
    OutboxCleanup :=
  { w with
    rows := w.rows ++ [⟨⟨w.sequence + 1, eventType, accountId⟩, createdAt⟩]
    sequence := w.sequence + 1 }

def isOld (now : DateTime) (retention : Int) (row : DatedOutboxRow) : Bool :=
  decide (row.createdAt < now - max retention 0)

def cleanupDataPlaneOutboxInner (now : DateTime) (retention : Int) : OutboxCleanup :=
  { w with
    rows := w.rows.filter fun row => !isOld now retention row
    removed := w.removed ++ w.rows.filter (isOld now retention) }

/-- The poll is answered with `cursor_gone`, and leaves the cursor, or moves it. -/
def poll (limit : Nat) : OutboxCleanup :=
  if cursorGone w.cursor w.outbox then w
  else { w with
    cursor := answeredCursor (highWatermark w.outbox) w.cursor (page w.outbox w.cursor limit) }

/-- A whole snapshot shows what all rows so far have told of. -/
def reload : OutboxCleanup := { w with cursor := highWatermark w.outbox, removed := [] }

def step (w : OutboxCleanup) : OutboxCleanupOp → OutboxCleanup
  | .append eventType accountId createdAt => w.append eventType accountId createdAt
  | .cleanup now retention => w.cleanupDataPlaneOutboxInner now retention
  | .poll limit => w.poll limit
  | .reload => w.reload

/-- A row ahead of the cursor has been deleted. -/
def Missed : Prop := ∃ row ∈ w.removed, w.cursor < row.id

/-- A poll tells of rows that were missed. -/
def Notices (w : OutboxCleanup) : OutboxCleanupOp → Prop
  | .poll _ => w.Missed → cursorGone w.cursor w.outbox = true
  | _ => True

/-- When a row has been missed, the cursor is not 0, rows are left, and none of them is at the
cursor, before it or next to it. -/
def Noticeable (w : OutboxCleanup) : OutboxCleanupOp → Prop
  | .poll _ => w.Missed → 0 < w.cursor ∧ w.rows ≠ [] ∧ ∀ row ∈ w.rows, w.cursor + 1 < row.id
  | _ => True

variable {w}

/-- What the check of a poll says of the rows that are left. -/
theorem cursorGone_eq_true_iff :
    cursorGone w.cursor w.outbox = true ↔
      0 < w.cursor ∧ w.rows ≠ [] ∧ ∀ row ∈ w.rows, w.cursor + 1 < row.id := by
  have hmap : w.outbox.map (·.id) = w.rows.map (·.id) := by
    unfold outbox
    rw [List.map_map]
    rfl
  rw [cursorGone, Bool.and_eq_true, decide_eq_true_eq, minCursor, hmap]
  apply and_congr_right
  intro _
  cases hmin : (w.rows.map (·.id)).min? with
  | none =>
      rw [List.min?_eq_none_iff, List.map_eq_nil_iff] at hmin
      exact iff_of_false Bool.false_ne_true fun h => h.1 hmin
  | some least =>
      rcases List.mem_map.1 (List.min?_mem hmin) with ⟨first, hfirst, rfl⟩
      rw [Option.any_some, Bool.and_eq_true, decide_eq_true_eq, decide_eq_true_eq]
      constructor
      · intro h
        refine ⟨List.ne_nil_of_mem hfirst, fun row hrow => ?_⟩
        have hle := (List.min?_eq_some_iff.1 hmin).2 row.id (List.mem_map_of_mem hrow)
        omega
      · intro h
        have hlt := h.2 first hfirst
        exact ⟨by omega, hlt⟩

theorem notices_iff (op : OutboxCleanupOp) : w.Notices op ↔ w.Noticeable op := by
  cases op with
  | poll limit => exact imp_congr_right fun _ => cursorGone_eq_true_iff
  | append | cleanup | reload => exact Iff.rfl

/-- Every poll of a run tells of the rows that were missed exactly when the rows that are left at
each of them let it. -/
theorem notices_along_iff (w : OutboxCleanup) (ops : List OutboxCleanupOp) :
    Machine.Along step Notices w ops ↔ Machine.Along step Noticeable w ops := by
  apply Machine.along_congr (P := fun _ => True) (fun _ _ _ => trivial) _ trivial
  exact fun w op _ => notices_iff op

/-! ## Rows that are dated in order -/

/-- A row is dated no earlier than the rows before it. -/
def DatedInOrder (w : OutboxCleanup) : OutboxCleanupOp → Prop
  | .append _ _ createdAt => ∀ row ∈ w.rows, row.createdAt ≤ createdAt
  | _ => True

/-- Later rows are dated later, and a row that was deleted comes before all that are left. -/
structure Ordered (w : OutboxCleanup) : Prop where
  rows_le : ∀ row ∈ w.rows, row.id ≤ w.sequence
  removed_le : ∀ row ∈ w.removed, row.id ≤ w.sequence
  dated : ∀ row ∈ w.rows, ∀ later ∈ w.rows, row.id ≤ later.id → row.createdAt ≤ later.createdAt
  removed_lt : ∀ gone ∈ w.removed, ∀ row ∈ w.rows, gone.id < row.id

theorem Ordered.append (h : w.Ordered) {eventType : DataPlaneSnapshotEventType} {accountId : Uuid}
    {createdAt : DateTime} (hdated : ∀ row ∈ w.rows, row.createdAt ≤ createdAt) :
    (w.append eventType accountId createdAt).Ordered := by
  have hid (row : DatedOutboxRow) (hrow : row ∈ w.rows) : row.id < w.sequence + 1 :=
    Nat.lt_succ_of_le (h.rows_le row hrow)
  constructor
  · intro row hrow
    rcases List.mem_append.1 hrow with hold | hnew
    · exact (hid row hold).le
    · rw [List.mem_singleton.1 hnew]
      exact le_rfl
  · exact fun row hrow => (h.removed_le row hrow).trans (Nat.le_succ _)
  · intro row hrow later hlater hle
    rcases List.mem_append.1 hlater with hold' | hnew'
    · rcases List.mem_append.1 hrow with hold | hnew
      · exact h.dated row hold later hold' hle
      · rw [List.mem_singleton.1 hnew] at hle
        exact absurd hle (not_le.2 (hid later hold'))
    · rw [List.mem_singleton.1 hnew']
      rcases List.mem_append.1 hrow with hold | hnew
      · exact hdated row hold
      · rw [List.mem_singleton.1 hnew]
  · intro gone hgone row hrow
    rcases List.mem_append.1 hrow with hold | hnew
    · exact h.removed_lt gone hgone row hold
    · rw [List.mem_singleton.1 hnew]
      exact Nat.lt_succ_of_le (h.removed_le gone hgone)

/-- Of rows that are dated in order the first ones are deleted. -/
theorem Ordered.cleanup (h : w.Ordered) (now : DateTime) (retention : Int) :
    (w.cleanupDataPlaneOutboxInner now retention).Ordered := by
  have hkept {row : DatedOutboxRow}
      (hrow : row ∈ (w.cleanupDataPlaneOutboxInner now retention).rows) :
      row ∈ w.rows ∧ isOld now retention row = false := by
    rcases List.mem_filter.1 hrow with ⟨hmem, hold⟩
    rw [Bool.not_eq_true'] at hold
    exact ⟨hmem, hold⟩
  constructor
  · exact fun row hrow => h.rows_le row (hkept hrow).1
  · intro row hrow
    rcases List.mem_append.1 hrow with hold | hnew
    · exact h.removed_le row hold
    · exact h.rows_le row (List.mem_filter.1 hnew).1
  · exact fun row hrow later hlater => h.dated row (hkept hrow).1 later (hkept hlater).1
  · intro gone hgone row hrow
    rcases hkept hrow with ⟨hmem, hyoung⟩
    rcases List.mem_append.1 hgone with hold | hnew
    · exact h.removed_lt gone hold row hmem
    · rcases List.mem_filter.1 hnew with ⟨hgone', hold⟩
      by_contra hle
      have hdate := h.dated row hmem gone hgone' (not_lt.1 hle)
      have hbefore : gone.createdAt < now - max retention 0 := of_decide_eq_true hold
      have hafter : ¬ row.createdAt < now - max retention 0 := of_decide_eq_false hyoung
      exact hafter (lt_of_le_of_lt hdate hbefore)

theorem Ordered.poll (h : w.Ordered) (limit : Nat) : (w.poll limit).Ordered := by
  unfold OutboxCleanup.poll
  split
  · exact h
  · exact ⟨h.rows_le, h.removed_le, h.dated, h.removed_lt⟩

theorem Ordered.step (h : w.Ordered) {op : OutboxCleanupOp} (hdated : w.DatedInOrder op) :
    (w.step op).Ordered := by
  cases op with
  | append eventType accountId createdAt => exact h.append hdated
  | cleanup now retention => exact h.cleanup now retention
  | poll limit => exact h.poll limit
  | reload => exact ⟨h.rows_le, nofun, h.dated, nofun⟩

def RowsLeft (w : OutboxCleanup) : OutboxCleanupOp → Prop
  | .poll _ => w.Missed → 0 < w.cursor ∧ w.rows ≠ []
  | _ => True

theorem notices_along_iff_of_dated {ops : List OutboxCleanupOp} (h : w.Ordered)
    (hdated : Machine.Along step DatedInOrder w ops) :
    Machine.Along step Notices w ops ↔ Machine.Along step RowsLeft w ops := by
  apply hdated.congr (P := Ordered) (fun w op h hdated _ => h.step hdated) _ h
  intro w op h _
  rw [notices_iff]
  cases op with
  | poll limit =>
      apply imp_congr_right
      rintro ⟨gone, hgone, hlt⟩
      constructor
      · exact fun hleft => ⟨hleft.1, hleft.2.1⟩
      · intro hleft
        refine ⟨hleft.1, hleft.2, fun row hrow => ?_⟩
        have hafter := h.removed_lt gone hgone row hrow
        omega
  | append | cleanup | reload => exact Iff.rfl

/-- The only row ahead of the cursor is deleted, and no row is left. -/
theorem emptied_outbox_is_not_noticed : ¬ ∀ ops, Machine.Along step Notices ⟨[], 0, 0, []⟩ ops := by
  intro h
  have hnotices := h [.append .accountUpsert ⟨"a"⟩ 0, .reload, .append .accountUpsert ⟨"b"⟩ 1,
    .cleanup 5 0, .poll 100]
  have hgone := hnotices.2.2.2.2.1
    ⟨⟨⟨2, .accountUpsert, ⟨"b"⟩⟩, 1⟩, by decide +kernel, by decide +kernel⟩
  revert hgone
  decide +kernel

end OutboxCleanup

end CodexPool
