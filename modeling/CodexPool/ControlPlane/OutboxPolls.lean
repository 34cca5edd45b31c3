import CodexPool.ControlPlane.Store
import CodexPool.Lib.Machine
import CodexPool.Lib.Paging

/-!
# Polls of the outbox

A transaction draws the ids of its rows when it inserts them, and the rows are seen once it
commits, so that rows may become visible in another order than that of their ids. A data plane
that polls keeps a single cursor. It misses exactly the rows of transactions that commit behind
the cursor.
-/

namespace CodexPool

/-! ## The statements of a poll -/

namespace OutboxRow

/-- `SELECT MAX(id)` -/
def highWatermark (rows : List OutboxRow) : Nat := (rows.map (·.id)).max?.getD 0

def minCursor (rows : List OutboxRow) : Option Nat := (rows.map (·.id)).min?

/-- Rows after the cursor may have been deleted. -/
def cursorGone (after : Nat) (rows : List OutboxRow) : Bool :=
  decide (0 < after) && (minCursor rows).any fun minCursor =>
    decide (0 < minCursor) && decide (after + 1 < minCursor)

/-- `WHERE id > .. ORDER BY id ASC LIMIT ..` -/
def page (rows : List OutboxRow) (after limit : Nat) : List OutboxRow :=
  Paging.page (·.id) (max 1 (min limit 5000)) (rows.filter fun row => after < row.id)

def answeredCursor (highWatermark after : Nat) (page : List OutboxRow) : Nat :=
  if page.isEmpty then max highWatermark after
  else page.foldl (fun cursor row => max cursor row.id) after

end OutboxRow

open OutboxRow

/-! ## Transactions and a poller -/

inductive PollPhase where
  | idle
  | watermarked (highWatermark : Nat)
  | checked (highWatermark : Nat)

/-- The rows that are visible, the rows of transactions that are open, and a poller with its cursor
and the rows that it has been given. -/
structure OutboxPolls where
  outbox : List OutboxRow
  openRows : Nat → List OutboxRow
  sequence : Nat
  cursor : Nat
  phase : PollPhase
  answered : Nat
  returned : List OutboxRow

inductive OutboxOp where
  | insert (tx : Nat) (eventType : DataPlaneSnapshotEventType) (accountId : Uuid)
  | commit (tx : Nat)
  | abort (tx : Nat)
  | readWatermark
  | readMinCursor
  | fetch (limit : Nat)

namespace OutboxPolls

/-- The poller has the cursor of a snapshot that has just been read. -/
def start (outbox : List OutboxRow) (openRows : Nat → List OutboxRow) (sequence : Nat) :
    OutboxPolls where
  outbox := outbox
  openRows := openRows
  sequence := sequence
  cursor := highWatermark outbox
  phase := .idle
  answered := 0
  returned := []

variable (w : OutboxPolls)

def setOpen (tx : Nat) (rows : List OutboxRow) : OutboxPolls :=
  { w with openRows := fun other => if other = tx then rows else w.openRows other }

def insert (tx : Nat) (eventType : DataPlaneSnapshotEventType) (accountId : Uuid) : OutboxPolls :=
  { w.setOpen tx (w.openRows tx ++ [⟨w.sequence + 1, eventType, accountId⟩]) with
    sequence := w.sequence + 1 }

def commit (tx : Nat) : OutboxPolls :=
  { w.setOpen tx [] with outbox := w.outbox ++ w.openRows tx }

/-- The poll that fails leaves the cursor. -/
def readMinCursor (highWatermark : Nat) : OutboxPolls :=
  if cursorGone w.cursor w.outbox then { w with phase := .idle }
  else { w with phase := .checked highWatermark }

def fetch (highWatermark limit : Nat) : OutboxPolls :=
  let rows := page w.outbox w.cursor limit
  { w with
    cursor := answeredCursor highWatermark w.cursor rows
    phase := .idle
    answered := w.answered + 1
    returned := w.returned ++ rows }

def step (op : OutboxOp) : OutboxPolls :=
  match op, w.phase with
  | .insert tx eventType accountId, _ => w.insert tx eventType accountId
  | .commit tx, _ => w.commit tx
  | .abort tx, _ => w.setOpen tx []
  | .readWatermark, .idle => { w with phase := .watermarked (highWatermark w.outbox) }
  | .readMinCursor, .watermarked highWatermark => w.readMinCursor highWatermark
  | .fetch limit, .checked highWatermark => w.fetch highWatermark limit
  | _, _ => w

theorem step_elim (op : OutboxOp) (P : OutboxOp → OutboxPolls → Prop)
    (hinsert : ∀ tx eventType accountId,
      P (.insert tx eventType accountId) (w.insert tx eventType accountId))
    (hcommit : ∀ tx, P (.commit tx) (w.commit tx))
    (habort : ∀ tx, P (.abort tx) (w.setOpen tx []))
    (hwatermark : P .readWatermark { w with phase := .watermarked (highWatermark w.outbox) })
    (hmin : ∀ high, w.phase = .watermarked high → P .readMinCursor (w.readMinCursor high))
    (hfetch : ∀ limit high, w.phase = .checked high → P (.fetch limit) (w.fetch high limit))
    (hother : ∀ op, P op w) : P op (w.step op) := by
  unfold step
  split
  · exact hinsert _ _ _
  · exact hcommit _
  · exact habort _
  · exact hwatermark
  · exact hmin _ ‹_›
  · exact hfetch _ _ ‹_›
  · exact hother _

/-- Each row that has become visible in the run, above the cursor of the start, is returned once
enough polls are answered. -/
def Delivers (ops : List OutboxOp) : Prop :=
  ∀ pre, pre <+: ops → ∀ row ∈ (Machine.run step w pre).outbox, w.cursor < row.id →
    ∀ more, (Machine.run step w pre).answered + row.id ≤
        (Machine.run step w (pre ++ more)).answered →
      row ∈ (Machine.run step w (pre ++ more)).returned

/-- A transaction commits ahead of the cursor, for rows above the cursor of the start. -/
def CommitsAhead (first : Nat) (w : OutboxPolls) : OutboxOp → Prop
  | .commit tx => ∀ row ∈ w.openRows tx, first < row.id → w.cursor < row.id
  | _ => True

/-- Ids are drawn once, and the cursor is that of a row. -/
structure Sound : Prop where
  outbox_le : ∀ row ∈ w.outbox, row.id ≤ w.sequence
  open_le : ∀ tx, ∀ row ∈ w.openRows tx, row.id ≤ w.sequence
  outbox_unique : ∀ row ∈ w.outbox, ∀ row' ∈ w.outbox, row.id = row'.id → row = row'
  open_unique : ∀ tx, ∀ row ∈ w.openRows tx, ∀ row' ∈ w.openRows tx, row.id = row'.id → row = row'
  apart : ∀ tx, ∀ row ∈ w.openRows tx, ∀ row' ∈ w.outbox, row.id ≠ row'.id
  open_apart : ∀ tx tx', tx ≠ tx' → ∀ row ∈ w.openRows tx, ∀ row' ∈ w.openRows tx',
    row.id ≠ row'.id
  returned_subset : ∀ row ∈ w.returned, row ∈ w.outbox

/-- What a poll compares is the id of a visible row. -/
structure Answerable : Prop where
  cursor : w.cursor = 0 ∨ ∃ row ∈ w.outbox, row.id ≤ w.cursor
  watermark : ∀ highWatermark, w.phase = .watermarked highWatermark ∨
    w.phase = .checked highWatermark → highWatermark = 0 ∨ ∃ row ∈ w.outbox, row.id = highWatermark

end OutboxPolls

/-! ## Pages -/

namespace OutboxRow

variable {rows : List OutboxRow} {after limit : Nat}

theorem highWatermark_eq (rows : List OutboxRow) :
    highWatermark rows = 0 ∨ ∃ row ∈ rows, row.id = highWatermark rows := by
  unfold highWatermark
  cases hmax : (rows.map (·.id)).max? with
  | none => exact .inl rfl
  | some id => exact .inr (List.mem_map.1 (List.max?_mem hmax))

theorem cursorGone_of_le {row : OutboxRow} (hrow : row ∈ rows) (hle : row.id ≤ after) :
    cursorGone after rows = false := by
  rw [cursorGone, Bool.and_eq_false_iff]
  right
  cases hmin : minCursor rows with
  | none => rfl
  | some least =>
      have hleast : least ≤ row.id :=
        (List.min?_eq_some_iff.1 hmin).2 row.id (List.mem_map_of_mem hrow)
      rw [Option.any_some, Bool.and_eq_false_iff]
      right
      exact decide_eq_false (by omega)

theorem mem_page {row : OutboxRow} (h : row ∈ page rows after limit) :
    row ∈ rows ∧ after < row.id := by
  rcases List.mem_filter.1 (Paging.page_subset h) with ⟨hmem, hlt⟩
  exact ⟨hmem, of_decide_eq_true hlt⟩

theorem le_foldl (page : List OutboxRow) (after : Nat) :
    after ≤ page.foldl (fun cursor row => max cursor row.id) after := by
  induction page generalizing after with
  | nil => exact le_rfl
  | cons row page ih => exact (le_max_left _ _).trans (ih _)

theorem id_le_foldl {page : List OutboxRow} {row : OutboxRow} (h : row ∈ page) (after : Nat) :
    row.id ≤ page.foldl (fun cursor row => max cursor row.id) after := by
  induction page generalizing after with
  | nil => cases h
  | cons other page ih =>
      rcases List.mem_cons.1 h with rfl | hrest
      · exact (le_max_right _ _).trans (le_foldl page _)
      · exact ih hrest _

theorem foldl_eq (page : List OutboxRow) (after : Nat) :
    page.foldl (fun cursor row => max cursor row.id) after = after ∨
      ∃ row ∈ page, row.id = page.foldl (fun cursor row => max cursor row.id) after := by
  induction page generalizing after with
  | nil => exact .inl rfl
  | cons row page ih =>
      rw [List.foldl_cons]
      rcases ih (max after row.id) with hsame | ⟨last, hlast, hid⟩
      · rw [hsame]
        rcases le_total row.id after with hle | hle
        · exact .inl (max_eq_left hle)
        · exact .inr ⟨row, List.mem_cons_self, (max_eq_right hle).symm⟩
      · exact .inr ⟨last, List.mem_cons_of_mem _ hlast, hid⟩

/-- An answer moves the cursor past the rows it shows, and not past rows that it leaves out. -/
theorem answeredCursor_spec (high limit : Nat) {row : OutboxRow} (hrow : row ∈ rows)
    (hlt : after < row.id) (hunique : ∀ other ∈ rows, other.id = row.id → other = row) :
    after < answeredCursor high after (page rows after limit) ∧
      (row ∈ page rows after limit ∨
        answeredCursor high after (page rows after limit) < row.id) := by
  have hmem : row ∈ rows.filter fun row => after < row.id :=
    List.mem_filter.2 ⟨hrow, decide_eq_true hlt⟩
  have hcase := Paging.mem_page_or (·.id) (max 1 (min limit 5000)) hmem
  have hne : page rows after limit ≠ [] := by
    intro hnil
    rcases hcase with hin | ⟨hfull, -⟩
    · rw [page] at hnil
      rw [hnil] at hin
      cases hin
    · rw [page] at hnil
      rw [hnil, List.length_nil] at hfull
      omega
  have hcursor : answeredCursor high after (page rows after limit) =
      (page rows after limit).foldl (fun cursor row => max cursor row.id) after := by
    rw [answeredCursor, if_neg]
    rwa [List.isEmpty_iff]
  rw [hcursor]
  constructor
  · rcases List.exists_mem_of_ne_nil _ hne with ⟨first, hfirst⟩
    exact (mem_page hfirst).2.trans_le (id_le_foldl hfirst after)
  · rcases hcase with hin | ⟨-, hle⟩
    · exact .inl hin
    · by_cases hin : row ∈ page rows after limit
      · exact .inl hin
      · right
        rcases foldl_eq (page rows after limit) after with hsame | ⟨last, hlast, hid⟩
        · rw [hsame]
          exact hlt
        · rw [← hid]
          apply lt_of_le_of_ne (hle last hlast)
          intro heq
          rw [hunique last (mem_page hlast).1 heq] at hlast
          exact hin hlast

theorem le_answeredCursor (high after : Nat) (page : List OutboxRow) :
    after ≤ answeredCursor high after page := by
  unfold answeredCursor
  split
  · exact le_max_right _ _
  · exact le_foldl page after

end OutboxRow

/-! ## Steps -/

namespace OutboxPolls

variable {w : OutboxPolls}

namespace Sound

theorem setOpen_nil (h : w.Sound) (tx : Nat) : (w.setOpen tx []).Sound := by
  have hsub (other : Nat) : ∀ row ∈ (w.setOpen tx []).openRows other, row ∈ w.openRows other := by
    intro row hrow
    by_cases hother : other = tx
    · have hnil : (w.setOpen tx []).openRows other = [] := if_pos hother
      rw [hnil] at hrow
      cases hrow
    · have hsame : (w.setOpen tx []).openRows other = w.openRows other := if_neg hother
      rwa [hsame] at hrow
  constructor
  · exact h.outbox_le
  · exact fun other row hrow => h.open_le other row (hsub other row hrow)
  · exact h.outbox_unique
  · exact fun other row hrow row' hrow' =>
      h.open_unique other row (hsub other row hrow) row' (hsub other row' hrow')
  · exact fun other row hrow => h.apart other row (hsub other row hrow)
  · exact fun other another hne row hrow row' hrow' =>
      h.open_apart other another hne row (hsub other row hrow) row' (hsub another row' hrow')
  · exact h.returned_subset

theorem insert (h : w.Sound) (tx : Nat) (eventType : DataPlaneSnapshotEventType)
    (accountId : Uuid) : (w.insert tx eventType accountId).Sound := by
  let new : OutboxRow := ⟨w.sequence + 1, eventType, accountId⟩
  have hrows (other : Nat) : ∀ row ∈ (w.insert tx eventType accountId).openRows other,
      row ∈ w.openRows other ∨ other = tx ∧ row = new := by
    intro row hrow
    by_cases hother : other = tx
    · have hadded : (w.insert tx eventType accountId).openRows other =
          w.openRows tx ++ [new] := if_pos hother
      rw [hadded] at hrow
      rcases List.mem_append.1 hrow with hold | hnew
      · exact .inl (hother ▸ hold)
      · exact .inr ⟨hother, List.mem_singleton.1 hnew⟩
    · have hsame : (w.insert tx eventType accountId).openRows other = w.openRows other :=
        if_neg hother
      rw [hsame] at hrow
      exact .inl hrow
  have hid : new.id = w.sequence + 1 := rfl
  have hold (other : Nat) (row : OutboxRow) (hrow : row ∈ w.openRows other) :
      row.id ≠ new.id := by
    have hle := h.open_le other row hrow
    omega
  constructor
  · exact fun row hrow => (h.outbox_le row hrow).trans (Nat.le_succ _)
  · intro other row hrow
    rcases hrows other row hrow with hmem | ⟨-, rfl⟩
    · exact (h.open_le other row hmem).trans (Nat.le_succ _)
    · exact le_rfl
  · exact h.outbox_unique
  · intro other row hrow row' hrow' heq
    rcases hrows other row hrow with hmem | ⟨-, rfl⟩
    · rcases hrows other row' hrow' with hmem' | ⟨-, rfl⟩
      · exact h.open_unique other row hmem row' hmem' heq
      · exact absurd heq (hold other row hmem)
    · rcases hrows other row' hrow' with hmem' | ⟨-, rfl⟩
      · exact absurd heq.symm (hold other row' hmem')
      · rfl
  · intro other row hrow row' hrow'
    rcases hrows other row hrow with hmem | ⟨-, rfl⟩
    · exact h.apart other row hmem row' hrow'
    · have hle := h.outbox_le row' hrow'
      omega
  · intro other another hne row hrow row' hrow'
    rcases hrows other row hrow with hmem | ⟨hother, rfl⟩
    · rcases hrows another row' hrow' with hmem' | ⟨-, rfl⟩
      · exact h.open_apart other another hne row hmem row' hmem'
      · exact hold other row hmem
    · rcases hrows another row' hrow' with hmem' | ⟨hanother, rfl⟩
      · exact (hold another row' hmem').symm
      · exact absurd (hother.trans hanother.symm) hne
  · exact h.returned_subset

theorem commit (h : w.Sound) (tx : Nat) : (w.commit tx).Sound := by
  have hclosed := h.setOpen_nil tx
  have hapart (other : Nat) (hne : other ≠ tx) : ∀ row ∈ w.openRows other,
      ∀ row' ∈ w.openRows tx, row.id ≠ row'.id := h.open_apart other tx hne
  constructor
  · intro row hrow
    rcases List.mem_append.1 hrow with hold | hnew
    · exact h.outbox_le row hold
    · exact h.open_le tx row hnew
  · exact hclosed.open_le
  · intro row hrow row' hrow' heq
    rcases List.mem_append.1 hrow with hold | hnew
    · rcases List.mem_append.1 hrow' with hold' | hnew'
      · exact h.outbox_unique row hold row' hold' heq
      · exact absurd heq.symm (h.apart tx row' hnew' row hold)
    · rcases List.mem_append.1 hrow' with hold' | hnew'
      · exact absurd heq (h.apart tx row hnew row' hold')
      · exact h.open_unique tx row hnew row' hnew' heq
  · exact hclosed.open_unique
  · intro other row hrow row' hrow'
    rcases List.mem_append.1 hrow' with hold | hnew
    · exact hclosed.apart other row hrow row' hold
    · by_cases hother : other = tx
      · have hnil : (w.commit tx).openRows other = [] := if_pos hother
        rw [hnil] at hrow
        cases hrow
      · have hsame : (w.commit tx).openRows other = w.openRows other := if_neg hother
        rw [hsame] at hrow
        exact hapart other hother row hrow row' hnew
  · exact hclosed.open_apart
  · exact fun row hrow => List.mem_append_left _ (h.returned_subset row hrow)

theorem fetch (h : w.Sound) (high limit : Nat) : (w.fetch high limit).Sound where
  outbox_le := h.outbox_le
  open_le := h.open_le
  outbox_unique := h.outbox_unique
  open_unique := h.open_unique
  apart := h.apart
  open_apart := h.open_apart
  returned_subset := by
    intro row hrow
    rcases List.mem_append.1 hrow with hold | hnew
    · exact h.returned_subset row hold
    · exact (mem_page hnew).1

theorem step (w : OutboxPolls) (op : OutboxOp) (h : w.Sound) : (w.step op).Sound := by
  refine w.step_elim op (fun _ w' => w'.Sound) h.insert h.commit h.setOpen_nil ?_ ?_ ?_ ?_
  · exact ⟨h.outbox_le, h.open_le, h.outbox_unique, h.open_unique, h.apart, h.open_apart,
      h.returned_subset⟩
  · intro high _
    unfold OutboxPolls.readMinCursor
    split <;>
      exact ⟨h.outbox_le, h.open_le, h.outbox_unique, h.open_unique, h.apart, h.open_apart,
        h.returned_subset⟩
  · exact fun limit high _ => h.fetch high limit
  · exact fun _ => h

end Sound

/-- No poll is refused. -/
theorem Answerable.step (h : w.Answerable) (op : OutboxOp) : (w.step op).Answerable := by
  refine w.step_elim op (fun _ w' => w'.Answerable) ?_ ?_ ?_ ?_ ?_ ?_ ?_
  · exact fun _ _ _ => ⟨h.cursor, h.watermark⟩
  · intro tx
    constructor
    · rcases h.cursor with hzero | ⟨row, hrow, hle⟩
      · exact .inl hzero
      · exact .inr ⟨row, List.mem_append_left _ hrow, hle⟩
    · intro high hphase
      rcases h.watermark high hphase with hzero | ⟨row, hrow, hid⟩
      · exact .inl hzero
      · exact .inr ⟨row, List.mem_append_left _ hrow, hid⟩
  · exact fun _ => ⟨h.cursor, h.watermark⟩
  · refine ⟨h.cursor, fun high hphase => ?_⟩
    rcases hphase with hphase | hphase
    · rw [← PollPhase.watermarked.inj hphase]
      exact highWatermark_eq w.outbox
    · cases hphase
  · intro high hwatermarked
    unfold OutboxPolls.readMinCursor
    split
    · exact ⟨h.cursor, fun _ hphase => hphase.elim nofun nofun⟩
    · refine ⟨h.cursor, fun other hphase => ?_⟩
      rcases hphase with hphase | hphase
      · cases hphase
      · rw [← PollPhase.checked.inj hphase]
        exact h.watermark high (.inl hwatermarked)
  · intro limit high hchecked
    refine ⟨?_, fun _ hphase => hphase.elim nofun nofun⟩
    change answeredCursor high w.cursor (page w.outbox w.cursor limit) = 0 ∨
      ∃ row ∈ w.outbox, row.id ≤ answeredCursor high w.cursor (page w.outbox w.cursor limit)
    have hle := le_answeredCursor high w.cursor (page w.outbox w.cursor limit)
    rcases h.cursor with hzero | ⟨row, hrow, hrowle⟩
    · unfold answeredCursor
      split
      · rw [hzero, Nat.max_zero]
        rcases h.watermark high (.inr hchecked) with hhigh | ⟨row, hrow, hid⟩
        · exact .inl hhigh
        · exact .inr ⟨row, hrow, hid.le⟩
      · rcases foldl_eq (page w.outbox w.cursor limit) w.cursor with hsame | ⟨row, hrow, hid⟩
        · exact .inl (hsame.trans hzero)
        · exact .inr ⟨row, (mem_page hrow).1, hid.le⟩
    · exact .inr ⟨row, hrow, hrowle.trans hle⟩
  · exact fun _ => h

theorem Answerable.cursorGone_eq_false (h : w.Answerable) :
    cursorGone w.cursor w.outbox = false := by
  rcases h.cursor with hzero | ⟨row, hrow, hle⟩
  · rw [hzero]
    rfl
  · exact cursorGone_of_le hrow hle

theorem answerable_start (outbox : List OutboxRow) (openRows : Nat → List OutboxRow)
    (sequence : Nat) : (start outbox openRows sequence).Answerable where
  cursor := (highWatermark_eq outbox).imp_right fun ⟨row, hrow, hid⟩ => ⟨row, hrow, hid.le⟩
  watermark _ hphase := hphase.elim nofun nofun

/-! ## Rows ahead of the cursor are returned -/

/-- A row that was ahead of the cursor when some polls had been answered has been returned, or is
ahead of the cursor still, and the cursor has moved with every poll since. -/
def Awaits (row : OutboxRow) (since : Nat) (w : OutboxPolls) : Prop :=
  row ∈ w.outbox ∧ (row ∈ w.returned ∨ w.cursor < row.id ∧ w.answered ≤ since + w.cursor)

theorem Awaits.step {row : OutboxRow} {since : Nat} (hsound : w.Sound) (h : w.Awaits row since)
    (op : OutboxOp) : (w.step op).Awaits row since := by
  rcases h with ⟨hrow, hawaits⟩
  refine w.step_elim op (fun _ w' => w'.Awaits row since) ?_ ?_ ?_ ?_ ?_ ?_ ?_
  · exact fun _ _ _ => ⟨hrow, hawaits⟩
  · exact fun _ => ⟨List.mem_append_left _ hrow, hawaits⟩
  · exact fun _ => ⟨hrow, hawaits⟩
  · exact ⟨hrow, hawaits⟩
  · intro high _
    unfold OutboxPolls.readMinCursor
    split
    · exact ⟨hrow, hawaits⟩
    · exact ⟨hrow, hawaits⟩
  · intro limit high hchecked
    refine ⟨hrow, ?_⟩
    rcases hawaits with hreturned | ⟨hahead, hanswered⟩
    · exact .inl (List.mem_append_left _ hreturned)
    · have hspec := answeredCursor_spec high limit hrow hahead
        fun other hother heq => hsound.outbox_unique other hother row hrow heq
      rcases hspec.2 with hin | hlt
      · exact .inl (List.mem_append_right _ hin)
      · refine .inr ⟨hlt, ?_⟩
        change w.answered + 1 ≤ since + answeredCursor high w.cursor (page w.outbox w.cursor limit)
        have hmoved := hspec.1
        omega
  · exact fun _ => ⟨hrow, hawaits⟩

theorem Awaits.run {row : OutboxRow} {since : Nat} (hsound : w.Sound) (h : w.Awaits row since)
    (ops : List OutboxOp) : (Machine.run OutboxPolls.step w ops).Awaits row since :=
  (Machine.run_invariant (P := fun w => w.Sound ∧ w.Awaits row since)
    (fun w op hw => ⟨Sound.step w op hw.1, hw.2.step hw.1 op⟩) ⟨hsound, h⟩ ops).2

/-- Every visible row above the first cursor has been returned or is still ahead. -/
def NoneMissed (first : Nat) (w : OutboxPolls) : Prop :=
  ∀ row ∈ w.outbox, first < row.id → row ∈ w.returned ∨ w.cursor < row.id

theorem NoneMissed.step {first : Nat} (hsound : w.Sound) (h : w.NoneMissed first) {op : OutboxOp}
    (hahead : CommitsAhead first w op) : (w.step op).NoneMissed first := by
  revert hahead
  refine w.step_elim op (fun op w' => CommitsAhead first w op → w'.NoneMissed first)
    ?_ ?_ ?_ ?_ ?_ ?_ ?_
  · exact fun _ _ _ _ => h
  · intro tx hahead row hrow hfirst
    rcases List.mem_append.1 hrow with hold | hnew
    · exact h row hold hfirst
    · exact .inr (hahead row hnew hfirst)
  · exact fun _ _ => h
  · exact fun _ => h
  · intro high _ _
    unfold OutboxPolls.readMinCursor
    split
    · exact h
    · exact h
  · intro limit high hchecked _ row hrow hfirst
    rcases h row hrow hfirst with hreturned | hlt
    · exact .inl (List.mem_append_left _ hreturned)
    · have hspec := answeredCursor_spec high limit hrow hlt
        fun other hother heq => hsound.outbox_unique other hother row hrow heq
      exact hspec.2.imp_left (List.mem_append_right _)
  · exact fun _ _ => h

theorem delivers_of_commitsAhead (hsound : w.Sound) (hnone : w.NoneMissed w.cursor)
    {ops : List OutboxOp} (h : Machine.Along OutboxPolls.step (CommitsAhead w.cursor) w ops) :
    w.Delivers ops := by
  rintro pre ⟨post, rfl⟩ row hrow hfirst more hmore
  have hpre := ((Machine.along_append _ _ _).1 h).1
  have hinv := Machine.Along.invariant (P := fun v => v.Sound ∧ v.NoneMissed w.cursor)
    (fun v op hv hop => ⟨Sound.step v op hv.1, hv.2.step hv.1 hop⟩) hpre ⟨hsound, hnone⟩
  rw [Machine.run_append] at hmore ⊢
  have hawaits : (Machine.run OutboxPolls.step w pre).Awaits row
      (Machine.run OutboxPolls.step w pre).answered :=
    ⟨hrow, (hinv.2 row hrow hfirst).imp_right fun hlt => ⟨hlt, Nat.le_add_right _ _⟩⟩
  rcases (hawaits.run hinv.1 more).2 with hreturned | ⟨hlt, hanswered⟩
  · exact hreturned
  · omega

/-! ## Rows behind the cursor are lost -/

def IsLost (row : OutboxRow) (w : OutboxPolls) : Prop :=
  row.id ≤ w.cursor ∧ row ∉ w.returned

theorem IsLost.step {row : OutboxRow} (h : w.IsLost row) (op : OutboxOp) :
    (w.step op).IsLost row := by
  refine w.step_elim op (fun _ w' => w'.IsLost row) ?_ ?_ ?_ ?_ ?_ ?_ ?_
  · exact fun _ _ _ => h
  · exact fun _ => h
  · exact fun _ => h
  · exact h
  · intro high _
    unfold OutboxPolls.readMinCursor
    split
    · exact h
    · exact h
  · intro limit high hchecked
    constructor
    · exact h.1.trans (le_answeredCursor high w.cursor _)
    · intro hmem
      rcases List.mem_append.1 hmem with hold | hnew
      · exact h.2 hold
      · exact absurd (mem_page hnew).2 (Nat.not_lt.2 h.1)
  · exact fun _ => h

theorem IsLost.run {row : OutboxRow} (h : w.IsLost row) (ops : List OutboxOp) :
    (Machine.run OutboxPolls.step w ops).IsLost row :=
  Machine.run_invariant (P := IsLost row) (fun _ op hw => hw.step op) h ops

/-- One whole poll, whatever phase it starts in. -/
def wholePoll : List OutboxOp := [.readWatermark, .readMinCursor, .fetch 1]

theorem step_readWatermark (hphase : w.phase = .idle) :
    w.step .readWatermark = { w with phase := .watermarked (highWatermark w.outbox) } := by
  unfold OutboxPolls.step
  rw [hphase]

theorem step_readMinCursor (h : w.Answerable) {high : Nat} (hphase : w.phase = .watermarked high) :
    w.step .readMinCursor = { w with phase := .checked high } := by
  unfold OutboxPolls.step
  rw [hphase]
  change w.readMinCursor high = _
  rw [OutboxPolls.readMinCursor, h.cursorGone_eq_false]
  exact if_neg Bool.false_ne_true

theorem step_fetch {high : Nat} (hphase : w.phase = .checked high) (limit : Nat) :
    w.step (.fetch limit) = w.fetch high limit := by
  unfold OutboxPolls.step
  rw [hphase]

theorem answered_lt_fetch {high : Nat} (hphase : w.phase = .checked high) (limit : Nat) :
    w.answered < (w.step (.fetch limit)).answered := by
  rw [step_fetch hphase]
  exact Nat.lt_succ_self w.answered

theorem answered_lt_wholePoll (h : w.Answerable) :
    w.answered < (Machine.run OutboxPolls.step w wholePoll).answered := by
  change w.answered < (((w.step .readWatermark).step .readMinCursor).step (.fetch 1)).answered
  cases hphase : w.phase with
  | idle =>
      have hread := step_readWatermark hphase
      have hcheck := step_readMinCursor (h.step .readWatermark) (by rw [hread])
      rw [hcheck, hread]
      exact answered_lt_fetch (w := { w with phase := .checked (highWatermark w.outbox) }) rfl 1
  | watermarked high =>
      have hread : w.step .readWatermark = w := by
        unfold OutboxPolls.step
        rw [hphase]
      rw [hread, step_readMinCursor h hphase]
      exact answered_lt_fetch (w := { w with phase := .checked high }) rfl 1
  | checked high =>
      have hread : w.step .readWatermark = w := by
        unfold OutboxPolls.step
        rw [hphase]
      have hcheck : w.step .readMinCursor = w := by
        unfold OutboxPolls.step
        rw [hphase]
      rw [hread, hcheck]
      exact answered_lt_fetch hphase 1

theorem exists_answered (h : w.Answerable) (n : Nat) :
    ∃ more, w.answered + n ≤ (Machine.run OutboxPolls.step w more).answered := by
  induction n with
  | zero => exact ⟨[], le_rfl⟩
  | succ n ih =>
      rcases ih with ⟨more, hmore⟩
      have hanswerable := Machine.run_invariant (P := Answerable) (fun _ op hw => hw.step op) h more
      refine ⟨more ++ wholePoll, ?_⟩
      rw [Machine.run_append]
      exact Nat.succ_le_of_lt (hmore.trans_lt (answered_lt_wholePoll hanswerable))

theorem commitsAhead_of_delivers (hsound : w.Sound) (hanswerable : w.Answerable)
    {ops : List OutboxOp} (h : w.Delivers ops) :
    Machine.Along OutboxPolls.step (CommitsAhead w.cursor) w ops := by
  induction ops using List.reverseRecOn with
  | nil => trivial
  | append_singleton ops op ih =>
      rw [Machine.along_append]
      refine ⟨ih fun pre hpre => h pre (hpre.trans (List.prefix_append _ _)), ?_, trivial⟩
      have hsound' := Machine.run_invariant Sound.step hsound ops
      cases op with
      | commit tx =>
          intro row hrow hfirst
          by_contra hbehind
          have hrun : Machine.run OutboxPolls.step w (ops ++ [.commit tx]) =
              (Machine.run OutboxPolls.step w ops).commit tx := by
            rw [Machine.run_append]
            rfl
          have hvisible : row ∈ (Machine.run OutboxPolls.step w (ops ++ [.commit tx])).outbox := by
            rw [hrun]
            exact List.mem_append_right _ hrow
          have hlost : (Machine.run OutboxPolls.step w (ops ++ [.commit tx])).IsLost row := by
            rw [hrun]
            refine ⟨Nat.not_lt.1 hbehind, fun hreturned => ?_⟩
            exact hsound'.apart tx row hrow row (hsound'.returned_subset row hreturned) rfl
          have hanswerable' := Machine.run_invariant (P := Answerable) (fun _ op hw => hw.step op)
            hanswerable (ops ++ [.commit tx])
          rcases exists_answered hanswerable' row.id with ⟨more, hmore⟩
          rw [← Machine.run_append] at hmore
          have hreturned := h _ (List.prefix_refl _) row hvisible hfirst more hmore
          rw [Machine.run_append] at hreturned
          exact (hlost.run more).2 hreturned
      | insert | abort | readWatermark | readMinCursor | fetch => trivial

/-- All rows of a run are delivered exactly when every transaction commits ahead of the cursor. -/
theorem delivers_iff (outbox : List OutboxRow) (openRows : Nat → List OutboxRow) (sequence : Nat)
    (hsound : (start outbox openRows sequence).Sound) (ops : List OutboxOp) :
    (start outbox openRows sequence).Delivers ops ↔
      Machine.Along OutboxPolls.step (CommitsAhead (highWatermark outbox))
        (start outbox openRows sequence) ops := by
  constructor
  · exact commitsAhead_of_delivers hsound (answerable_start outbox openRows sequence)
  · apply delivers_of_commitsAhead hsound
    exact fun _ _ hlt => .inr hlt

/-! ## Sample runs -/

theorem sound_empty : (start [] (fun _ => []) 0).Sound where
  outbox_le := nofun
  open_le := nofun
  outbox_unique := nofun
  open_unique := nofun
  apart := nofun
  open_apart := nofun
  returned_subset := nofun

theorem delivers_in_order :
    (start [] (fun _ => []) 0).Delivers
        [.insert 1 .accountUpsert ⟨"a"⟩, .insert 2 .accountUpsert ⟨"b"⟩, .commit 1, .readWatermark,
          .readMinCursor, .fetch 100, .commit 2] ↔
      Machine.Along OutboxPolls.step (CommitsAhead 0) (start [] (fun _ => []) 0)
        [.insert 1 .accountUpsert ⟨"a"⟩, .insert 2 .accountUpsert ⟨"b"⟩, .commit 1, .readWatermark,
          .readMinCursor, .fetch 100, .commit 2] :=
  delivers_iff [] (fun _ => []) 0 sound_empty _

/-- The second transaction commits first, and a poll comes in between. -/
theorem overtaken_row_is_lost : ¬ ∀ outbox openRows sequence,
    (start outbox openRows sequence).Sound →
      ∀ ops, (start outbox openRows sequence).Delivers ops := by
  intro h
  have hdelivers := h [] (fun _ => []) 0 sound_empty
    [.insert 1 .accountUpsert ⟨"a"⟩, .insert 2 .accountUpsert ⟨"b"⟩, .commit 2, .readWatermark,
      .readMinCursor, .fetch 100, .commit 1]
  have hreturned := hdelivers _ (List.prefix_refl _) ⟨1, .accountUpsert, ⟨"a"⟩⟩
    (by decide +kernel) (by decide +kernel) wholePoll (by decide +kernel)
  revert hreturned
  decide +kernel

end OutboxPolls

end CodexPool
