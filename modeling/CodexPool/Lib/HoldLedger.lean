import CodexPool.Lib.Table

/-!
# Ledgers with holds

A book is a list of entries, each of which posts an amount to an account, and
a list of holds. A hold reserves an amount of its account, is settled at a
captured amount, and is closed; it may be closed without having been settled.
An entry that belongs to a hold names it.

`Step` lists the moves on a book and what each of them posts. The two facts
about runs are `Run.sound`, that the entries of a hold always add up to minus
its net debit, and `Run.conservation`, that the entries of an account and the
net debits of its holds add up to what the account was granted.
-/

namespace HoldLedger

open Table

inductive Phase where
  | held
  | settled
  | closed
deriving DecidableEq, Repr

structure Hold (A I : Type*) where
  id : I
  account : A
  reserved : Int
  captured : Int
  phase : Phase

structure Entry (A I : Type*) where
  account : A
  hold : Option I
  delta : Int

structure Book (A I : Type*) where
  entries : List (Entry A I)
  holds : List (Hold A I)

/-- A move on a book: a grant of credit to an account, or one of the three
moves in the life of a hold. -/
inductive Move (A I : Type*) where
  | grant (a : A) (d : Int)
  | hold (i : I) (a : A) (r : Int)
  | settle (i : I) (c : Int)
  | close (i : I)

variable {A I : Type*}

namespace Hold

/-- What a hold takes from its account in total: the reservation while it is
held, the larger of reservation and capture when it is settled, and only the
capture once it is closed. -/
def net (h : Hold A I) : Int :=
  match h.phase with
  | .held => h.reserved
  | .settled => max h.reserved h.captured
  | .closed => h.captured

def settle (c : Int) (h : Hold A I) : Hold A I :=
  { h with captured := c, phase := .settled }

def close (h : Hold A I) : Hold A I := { h with phase := .closed }

/-- The part of the reservation that was not captured. -/
def unused (h : Hold A I) : Int := max (h.reserved - h.captured) 0

/-- What closing a hold posts: nothing, when nothing is left to refund. -/
def refund (h : Hold A I) : List (Entry A I) :=
  if 0 < h.unused then [⟨h.account, some h.id, h.unused⟩] else []

theorem sumOver_refund (p : Entry A I → Bool) (h : Hold A I) :
    sumOver p Entry.delta h.refund =
      if p ⟨h.account, some h.id, h.unused⟩ then h.unused else 0 := by
  unfold refund
  by_cases hu : 0 < h.unused
  · rw [if_pos hu, sumOver_singleton]
  · have hz : h.unused = 0 := by
      have : 0 ≤ h.unused := le_max_right _ _
      omega
    rw [if_neg hu, sumOver_nil, hz, ite_self]

theorem mem_refund {h : Hold A I} {e : Entry A I} (he : e ∈ h.refund) :
    e = ⟨h.account, some h.id, h.unused⟩ := by
  unfold refund at he
  by_cases hu : 0 < h.unused
  · rw [if_pos hu] at he
    exact List.mem_singleton.1 he
  · rw [if_neg hu] at he
    cases he

theorem net_settle {h : Hold A I} (hp : h.phase = .held) (c : Int) :
    (h.settle c).net = h.net + max (c - h.reserved) 0 := by
  simp only [net, settle, hp]
  omega

theorem net_close {h : Hold A I} (hr : 0 < h.reserved)
    (hc : h.phase = .held → h.captured = 0) (hp : h.phase ≠ .closed) :
    h.close.net = h.net - h.unused := by
  cases hphase : h.phase with
  | held =>
      have hz := hc hphase
      simp only [net, close, unused, hphase, hz]
      omega
  | settled =>
      simp only [net, close, unused, hphase]
      omega
  | closed => exact absurd hphase hp

end Hold

variable [DecidableEq I]

namespace Book

def total [DecidableEq A] (b : Book A I) (a : A) : Int :=
  sumOver (fun e => e.account = a) Entry.delta b.entries

def totalOf (b : Book A I) (i : I) : Int :=
  sumOver (fun e => e.hold = some i) Entry.delta b.entries

def debited [DecidableEq A] (b : Book A I) (a : A) : Int :=
  sumOver (fun h => h.account = a) Hold.net b.holds

def post (b : Book A I) (es : List (Entry A I)) : Book A I :=
  { b with entries := b.entries ++ es }

def update (b : Book A I) (i : I) (g : Hold A I → Hold A I) : Book A I :=
  { b with holds := updateKey Hold.id i g b.holds }

/-- The shape of a book: ids are unique, reservations are positive, captures
are not negative, and an entry that names a hold names one of the book. -/
structure WellFormed (b : Book A I) : Prop where
  ids : (b.holds.map Hold.id).Nodup
  reserved_pos : ∀ h ∈ b.holds, 0 < h.reserved
  captured_nonneg : ∀ h ∈ b.holds, 0 ≤ h.captured
  entry_hold : ∀ e ∈ b.entries, ∀ i, e.hold = some i → ∃ h ∈ b.holds, h.id = i

/-- A well-formed book in which nothing is captured before the settlement and
the entries of every hold add up to minus its net debit. -/
structure Sound (b : Book A I) : Prop extends WellFormed b where
  held_captured : ∀ h ∈ b.holds, h.phase = .held → h.captured = 0
  totalOf_eq : ∀ h ∈ b.holds, b.totalOf h.id = -h.net

end Book

/-- The moves on a book. -/
inductive Step : Book A I → Move A I → Book A I → Prop where
  | grant (b : Book A I) (a : A) (d : Int) :
      Step b (.grant a d) (b.post [⟨a, none, d⟩])
  | hold (b : Book A I) (i : I) (a : A) (r : Int) (hr : 0 < r)
      (hi : i ∉ b.holds.map Hold.id) :
      Step b (.hold i a r)
        { entries := b.entries ++ [⟨a, some i, -r⟩]
          holds := b.holds ++ [⟨i, a, r, 0, .held⟩] }
  | settle (b : Book A I) (h : Hold A I) (c : Int) (hh : h ∈ b.holds)
      (hp : h.phase = .held) (hc : 0 ≤ c) :
      Step b (.settle h.id c)
        ((b.post [⟨h.account, some h.id, -max (c - h.reserved) 0⟩]).update h.id
          (Hold.settle c))
  | close (b : Book A I) (h : Hold A I) (hh : h ∈ b.holds)
      (hp : h.phase ≠ .closed) :
      Step b (.close h.id) ((b.post h.refund).update h.id Hold.close)

/-- A sequence of moves. -/
inductive Run : Book A I → List (Move A I) → Book A I → Prop where
  | nil (b : Book A I) : Run b [] b
  | cons {b b' b'' : Book A I} {m : Move A I} {ms : List (Move A I)} :
      Step b m b' → Run b' ms b'' → Run b (m :: ms) b''

/-- What a sequence of moves grants to an account. -/
def granted [DecidableEq A] (a : A) : List (Move A I) → Int
  | [] => 0
  | .grant a' d :: ms => (if a' = a then d else 0) + granted a ms
  | _ :: ms => granted a ms

variable {b b' : Book A I} {m : Move A I}

theorem Run.single (h : Step b m b') :
    Run b [m] b' := .cons h (.nil b')

theorem Run.single_iff :
    Run b [m] b' ↔ Step b m b' := by
  constructor
  · intro h
    cases h with
    | cons hs hr =>
        cases hr
        exact hs
  · exact Run.single

theorem Run.append {b'' : Book A I} {ms ms' : List (Move A I)}
    (h : Run b ms b') (h' : Run b' ms' b'') : Run b (ms ++ ms') b'' := by
  induction h with
  | nil b => exact h'
  | cons hs _ ih => exact .cons hs (ih h')

namespace Book

theorem totalOf_post (b : Book A I) (es : List (Entry A I)) (i : I) :
    (b.post es).totalOf i =
      b.totalOf i + sumOver (fun e => e.hold = some i) Entry.delta es :=
  sumOver_append _ _ _ _

variable {b : Book A I}

omit [DecidableEq I] in
theorem WellFormed.post (hb : b.WellFormed) {es : List (Entry A I)}
    (hes : ∀ e ∈ es, ∀ i, e.hold = some i → ∃ h ∈ b.holds, h.id = i) :
    (b.post es).WellFormed where
  ids := hb.ids
  reserved_pos := hb.reserved_pos
  captured_nonneg := hb.captured_nonneg
  entry_hold := by
    intro e he i hi
    rcases List.mem_append.1 he with he | he
    · exact hb.entry_hold e he i hi
    · exact hes e he i hi

variable {g : Hold A I → Hold A I}

theorem WellFormed.update (hb : b.WellFormed) (i : I) (hid : ∀ h, (g h).id = h.id)
    (hr : ∀ h, (g h).reserved = h.reserved) (hc : ∀ h, 0 ≤ h.captured → 0 ≤ (g h).captured) :
    (b.update i g).WellFormed where
  ids := by
    rw [Book.update, map_key_updateKey i hid]
    exact hb.ids
  reserved_pos := by
    intro h hh
    obtain ⟨x, hx, rfl⟩ := mem_updateKey.1 hh
    have hpos := hb.reserved_pos x hx
    split
    · rw [hr]
      exact hpos
    · exact hpos
  captured_nonneg := by
    intro h hh
    obtain ⟨x, hx, rfl⟩ := mem_updateKey.1 hh
    have hnn := hb.captured_nonneg x hx
    split
    · exact hc x hnn
    · exact hnn
  entry_hold := by
    intro e he j hj
    obtain ⟨h, hh, rfl⟩ := hb.entry_hold e he j hj
    refine ⟨_, mem_updateKey.2 ⟨h, hh, rfl⟩, ?_⟩
    split
    · exact hid h
    · rfl

omit [DecidableEq I] in
theorem WellFormed.hold (hb : b.WellFormed) {i : I} {a : A} {r : Int}
    (hr : 0 < r) (hi : i ∉ b.holds.map Hold.id) :
    Book.WellFormed
      { entries := b.entries ++ [⟨a, some i, -r⟩]
        holds := b.holds ++ [⟨i, a, r, 0, .held⟩] } where
  ids := by
    rw [List.map_append, List.map_singleton, List.nodup_append]
    refine ⟨hb.ids, List.nodup_singleton i, ?_⟩
    intro x hx y hy hxy
    have hyi : y = i := List.mem_singleton.1 hy
    exact hi (hyi ▸ hxy ▸ hx)
  reserved_pos := by
    intro h hh
    rcases List.mem_append.1 hh with hh | hh
    · exact hb.reserved_pos h hh
    · rw [List.mem_singleton.1 hh]
      exact hr
  captured_nonneg := by
    intro h hh
    rcases List.mem_append.1 hh with hh | hh
    · exact hb.captured_nonneg h hh
    · rw [List.mem_singleton.1 hh]
  entry_hold := by
    intro e he j hj
    rcases List.mem_append.1 he with he | he
    · obtain ⟨h, hh, hid⟩ := hb.entry_hold e he j hj
      exact ⟨h, List.mem_append_left _ hh, hid⟩
    · rw [List.mem_singleton.1 he] at hj
      exact ⟨_, List.mem_append_right _ (List.mem_singleton_self _),
        Option.some.inj hj⟩

theorem mem_update (hb : (b.holds.map Hold.id).Nodup) {h x : Hold A I} (hh : h ∈ b.holds) :
    x ∈ (b.update h.id g).holds ↔ x = g h ∨ x ∈ b.holds ∧ x.id ≠ h.id := by
  rw [Book.update, mem_updateKey]
  constructor
  · rintro ⟨y, hy, rfl⟩
    by_cases hyh : y.id = h.id
    · left
      rw [if_pos hyh, List.inj_on_of_nodup_map hb hy hh hyh]
    · right
      rw [if_neg hyh]
      exact ⟨hy, hyh⟩
  · rintro (rfl | ⟨hx, hne⟩)
    · exact ⟨h, hh, if_pos rfl⟩
    · exact ⟨x, hx, if_neg hne⟩

/-- A move that posts `es` for the hold `h` and rewrites it keeps the book
sound when `es` makes up for the change of the net debit. -/
theorem Sound.post_update (hb : b.Sound) {h : Hold A I} (hh : h ∈ b.holds) {es : List (Entry A I)}
    (hes : ∀ e ∈ es, e.hold = some h.id) (hid : ∀ h, (g h).id = h.id)
    (hr : ∀ h, (g h).reserved = h.reserved) (hc : ∀ h, 0 ≤ h.captured → 0 ≤ (g h).captured)
    (hheld : (g h).phase = .held → (g h).captured = 0)
    (hnet : sumOver (fun e => e.hold = some h.id) Entry.delta es =
      h.net - (g h).net) :
    ((b.post es).update h.id g).Sound := by
  have hwf : (b.post es).WellFormed :=
    hb.toWellFormed.post fun e he i hi => by
      rw [hes e he] at hi
      exact ⟨h, hh, Option.some.inj hi⟩
  refine ⟨hwf.update h.id hid hr hc, ?_, ?_⟩
  · intro x hx hp
    rcases (mem_update hwf.ids hh).1 hx with rfl | ⟨hx, -⟩
    · exact hheld hp
    · exact hb.held_captured x hx hp
  · intro x hx
    have hpost : ((b.post es).update h.id g).totalOf x.id =
        b.totalOf x.id + sumOver (fun e => e.hold = some x.id) Entry.delta es :=
      b.totalOf_post es x.id
    rw [hpost]
    rcases (mem_update hwf.ids hh).1 hx with rfl | ⟨hx, hne⟩
    · rw [hid, hb.totalOf_eq h hh, hnet]
      ring
    · have hnone : sumOver (fun e => e.hold = some x.id) Entry.delta es = 0 := by
        refine sumOver_eq_zero _ fun e he => ?_
        simp [hes e he, Ne.symm hne]
      rw [hnone, add_zero, hb.totalOf_eq x hx]

end Book

theorem Step.wellFormed (hs : Step b m b') (hb : b.WellFormed) : b'.WellFormed := by
  cases hs with
  | grant a d => exact hb.post (by simp)
  | hold i a r hr hi => exact hb.hold hr hi
  | settle h c hh hp hc =>
      refine (hb.post ?_).update h.id (fun _ => rfl) (fun _ => rfl) fun _ _ => hc
      intro e he i hei
      rw [List.mem_singleton.1 he] at hei
      exact ⟨h, hh, Option.some.inj hei⟩
  | close h hh hp =>
      refine (hb.post ?_).update h.id (fun _ => rfl) (fun _ => rfl) fun _ hc => hc
      intro e he i hei
      rw [Hold.mem_refund he] at hei
      exact ⟨h, hh, Option.some.inj hei⟩

/-- A move keeps a book sound. -/
theorem Step.sound (hs : Step b m b') (hb : b.Sound) : b'.Sound := by
  cases hs with
  | grant a d =>
      refine ⟨hb.toWellFormed.post ?_, hb.held_captured, ?_⟩
      · simp
      · intro h hh
        rw [Book.totalOf_post, sumOver_singleton]
        simpa using hb.totalOf_eq h hh
  | hold i a r hr hi =>
      refine ⟨hb.toWellFormed.hold hr hi, ?_, ?_⟩
      · intro h hh hp
        rcases List.mem_append.1 hh with hh | hh
        · exact hb.held_captured h hh hp
        · rw [List.mem_singleton.1 hh]
      · intro h hh
        have hpost : Book.totalOf
            { entries := b.entries ++ [⟨a, some i, -r⟩]
              holds := b.holds ++ [⟨i, a, r, 0, .held⟩] } h.id =
            b.totalOf h.id + if i = h.id then -r else 0 := by
          rw [Book.totalOf, sumOver_append, sumOver_singleton]
          simp [Book.totalOf]
        rw [hpost]
        rcases List.mem_append.1 hh with hh | hh
        · have hne : i ≠ h.id := fun h' => hi (h' ▸ List.mem_map_of_mem hh)
          rw [if_neg hne, add_zero, hb.totalOf_eq h hh]
        · -- the entries of the new hold are the reservation alone, since an
          -- earlier entry could only name a hold that was already there
          have hzero : b.totalOf i = 0 := by
            refine sumOver_eq_zero _ fun e he => ?_
            by_contra hne
            have hei : e.hold = some i := by simpa using hne
            obtain ⟨k, hk, hki⟩ := hb.entry_hold e he i hei
            exact hi (hki ▸ List.mem_map_of_mem hk)
          rw [List.mem_singleton.1 hh, if_pos rfl, hzero]
          simp [Hold.net]
  | settle h c hh hp hc =>
      refine hb.post_update hh (by simp) (fun _ => rfl) (fun _ => rfl)
        (fun _ _ => hc) (fun hheld => nomatch hheld) ?_
      rw [sumOver_singleton, Hold.net_settle hp]
      simp
  | close h hh hp =>
      have hheld := hb.held_captured h hh
      refine hb.post_update hh (fun e he => by rw [Hold.mem_refund he])
        (fun _ => rfl) (fun _ => rfl) (fun _ hc => hc)
        (fun hclosed => nomatch hclosed) ?_
      rw [Hold.sumOver_refund, Hold.net_close (hb.reserved_pos h hh) hheld hp]
      simp

theorem Run.wellFormed {ms : List (Move A I)} (h : Run b ms b')
    (hb : b.WellFormed) : b'.WellFormed := by
  induction h with
  | nil b => exact hb
  | cons hs _ ih => exact ih (hs.wellFormed hb)

/-- A run keeps a book sound. -/
theorem Run.sound {ms : List (Move A I)} (h : Run b ms b') (hb : b.Sound) : b'.Sound := by
  induction h with
  | nil b => exact hb
  | cons hs _ ih => exact ih (hs.sound hb)

/-- After a sequence of closings, a hold is closed and refunded, or it is as
it was. -/
theorem Run.closes {is : List I} (h : Run b (is.map .close) b')
    (hb : b.WellFormed) {x : Hold A I} (hx : x ∈ b.holds) :
    (x.phase ≠ .closed ∧ x.close ∈ b'.holds ∧
      b'.totalOf x.id = b.totalOf x.id + x.unused) ∨
    (x ∈ b'.holds ∧ b'.totalOf x.id = b.totalOf x.id) := by
  induction is generalizing b x with
  | nil =>
      cases h
      exact .inr ⟨hx, rfl⟩
  | cons i is ih =>
      rw [List.map_cons] at h
      cases h with
      | @cons _ b₁ _ _ _ hs hr =>
          have hb₁ := hs.wellFormed hb
          cases hs with
          | close h₀ hh₀ hp =>
              have htot : ∀ j, Book.totalOf ((b.post h₀.refund).update h₀.id Hold.close) j =
                  b.totalOf j + if h₀.id = j then h₀.unused else 0 := by
                intro j
                change Book.totalOf (b.post h₀.refund) j = _
                rw [Book.totalOf_post, Hold.sumOver_refund]
                simp
              by_cases hid : h₀.id = x.id
              · -- a closed hold cannot be closed again by the rest of the run
                obtain rfl := List.inj_on_of_nodup_map hb.ids hh₀ hx hid
                have hmem := (Book.mem_update (b := b.post h₀.refund) (g := Hold.close)
                  hb.ids hh₀ (x := h₀.close)).2 (.inl rfl)
                rcases ih hr hb₁ hmem with ⟨hne, -, -⟩ | ⟨hmem', htot'⟩
                · exact absurd rfl hne
                · refine .inl ⟨hp, hmem', ?_⟩
                  have hclose : h₀.close.id = h₀.id := rfl
                  rw [hclose, htot, if_pos rfl] at htot'
                  exact htot'
              · have hmem := (Book.mem_update (b := b.post h₀.refund) (g := Hold.close)
                  hb.ids hh₀ (x := x)).2 (.inr ⟨hx, Ne.symm hid⟩)
                have hrest := ih hr hb₁ hmem
                rw [htot, if_neg hid, add_zero] at hrest
                exact hrest

section Conservation

variable [DecidableEq A]

omit [DecidableEq I] in
theorem granted_append (a : A) (ms ms' : List (Move A I)) :
    granted a (ms ++ ms') = granted a ms + granted a ms' := by
  induction ms with
  | nil => simp [granted]
  | cons m ms ih => cases m <;> simp [granted, ih, add_assoc]

omit [DecidableEq I] in
theorem granted_map_close {R : Type*} (a : A) (rows : List R) (f : R → I) :
    granted a (rows.map fun row => (.close (f row) : Move A I)) = 0 := by
  induction rows with
  | nil => rfl
  | cons row rows ih => exact ih

omit [DecidableEq I] in
theorem Book.total_post (b : Book A I) (es : List (Entry A I)) (a : A) :
    (b.post es).total a =
      b.total a + sumOver (fun e => e.account = a) Entry.delta es :=
  sumOver_append _ _ _ _

variable {b b' : Book A I}

theorem Book.debited_update (hb : (b.holds.map Hold.id).Nodup)
    {h : Hold A I} (hh : h ∈ b.holds) {g : Hold A I → Hold A I}
    (hg : (g h).account = h.account) (a : A) :
    (b.update h.id g).debited a =
      b.debited a + (if h.account = a then (g h).net - h.net else 0) := by
  have hsum := sumOver_updateKey (p := fun h : Hold A I => h.account = a)
    (g := g) Hold.net hb hh (by rw [hg])
  simpa [debited, update] using hsum

theorem Book.conservation_post_update
    (hb : (b.holds.map Hold.id).Nodup) {h : Hold A I} (hh : h ∈ b.holds)
    {es : List (Entry A I)} {g : Hold A I → Hold A I} (hg : (g h).account = h.account) (a : A)
    (hnet : sumOver (fun e => e.account = a) Entry.delta es =
      if h.account = a then h.net - (g h).net else 0) :
    ((b.post es).update h.id g).total a + ((b.post es).update h.id g).debited a =
      b.total a + b.debited a := by
  have htot : ((b.post es).update h.id g).total a =
      b.total a + sumOver (fun e => e.account = a) Entry.delta es :=
    b.total_post es a
  have hdeb : ((b.post es).update h.id g).debited a =
      b.debited a + (if h.account = a then (g h).net - h.net else 0) :=
    Book.debited_update (b := b.post es) hb hh hg a
  rw [htot, hdeb, hnet]
  by_cases ha : h.account = a
  · rw [if_pos ha, if_pos ha]
    ring
  · rw [if_neg ha, if_neg ha]
    ring

namespace Book

/-- Nothing is captured from the account before a settlement. -/
def UncapturedAt (b : Book A I) (a : A) : Prop :=
  ∀ h ∈ b.holds, h.account = a → h.phase = .held → h.captured = 0

def capturedAt (b : Book A I) (a : A) : Int :=
  sumOver (fun h => h.account = a) Hold.captured b.holds

omit [DecidableEq I] in
/-- An account whose holds are closed is debited what they captured. -/
theorem debited_of_closed {b : Book A I} {a : A}
    (h : ∀ x ∈ b.holds, x.account = a → x.phase = .closed) : b.debited a = b.capturedAt a := by
  refine congrArg List.sum (List.map_congr_left fun x hx => ?_)
  obtain ⟨hmem, hacc⟩ := List.mem_filter.1 hx
  simp [Hold.net, h x hmem (of_decide_eq_true hacc)]

theorem capturedAt_update {b : Book A I} (hb : (b.holds.map Hold.id).Nodup)
    {h : Hold A I} (hh : h ∈ b.holds) {g : Hold A I → Hold A I}
    (hg : (g h).account = h.account) (a : A) :
    (b.update h.id g).capturedAt a =
      b.capturedAt a + (if h.account = a then (g h).captured - h.captured else 0) := by
  have hsum := sumOver_updateKey (p := fun h : Hold A I => h.account = a)
    (g := g) Hold.captured hb hh (by rw [hg])
  simpa [capturedAt, update] using hsum

omit [DecidableEq A] in
theorem UncapturedAt.update {b : Book A I} {a : A} (hb : b.UncapturedAt a) {i : I}
    {g : Hold A I → Hold A I}
    (hg : ∀ h ∈ b.holds, h.id = i → (g h).account = a → (g h).phase = .held →
      (g h).captured = 0) : (b.update i g).UncapturedAt a := by
  intro h hh
  obtain ⟨x, hx, rfl⟩ := mem_updateKey.1 hh
  split
  · next hid => exact hg x hx hid
  · exact hb x hx

end Book

omit [DecidableEq A] in
theorem Step.uncapturedAt {m : Move A I} {a : A} (hs : Step b m b')
    (hb : b.UncapturedAt a) : b'.UncapturedAt a := by
  cases hs with
  | grant a' d => exact hb
  | hold i a' r hr hi =>
      intro h hh hacc hp
      rcases List.mem_append.1 hh with hh | hh
      · exact hb h hh hacc hp
      · rw [List.mem_singleton.1 hh]
  | settle h c hh hp hc =>
      exact Book.UncapturedAt.update (b := b.post _) hb fun _ _ _ _ hheld => nomatch hheld
  | close h hh hp =>
      exact Book.UncapturedAt.update (b := b.post _) hb fun _ _ _ _ hheld => nomatch hheld

/-- A move changes the entries and the debits of an account by what it grants
together. -/
theorem Step.conservation {m : Move A I} {a : A} (hs : Step b m b')
    (hb : b.WellFormed) (hun : b.UncapturedAt a) :
    b'.total a + b'.debited a = b.total a + b.debited a + granted a [m] := by
  cases hs with
  | grant a' d =>
      have hdeb : (b.post [⟨a', none, d⟩]).debited a = b.debited a := rfl
      rw [Book.total_post, sumOver_singleton, hdeb]
      simp only [granted, decide_eq_true_eq]
      ring
  | hold i a' r hr hi =>
      simp only [Book.total, Book.debited, sumOver_append, sumOver_singleton,
        granted, Hold.net, decide_eq_true_eq]
      by_cases ha : a' = a
      · rw [if_pos ha, if_pos ha]
        ring
      · rw [if_neg ha, if_neg ha]
        ring
  | settle h c hh hp hc =>
      rw [Book.conservation_post_update (g := Hold.settle c) hb.ids hh rfl]
      · simp [granted]
      · rw [sumOver_singleton, Hold.net_settle hp]
        simp
  | close h hh hp =>
      rw [Book.conservation_post_update (g := Hold.close) hb.ids hh rfl]
      · simp [granted]
      · rw [Hold.sumOver_refund]
        by_cases ha : h.account = a
        · rw [Hold.net_close (hb.reserved_pos h hh) (hun h hh ha) hp]
          simp
        · simp [ha]

variable {ms : List (Move A I)}

omit [DecidableEq A] in
theorem Run.uncapturedAt {a : A} (h : Run b ms b') (hb : b.UncapturedAt a) : b'.UncapturedAt a := by
  induction h with
  | nil b => exact hb
  | cons hs _ ih => exact ih (hs.uncapturedAt hb)

/-- Over a run, the entries of an account and the net debits of its holds
grow together by what the run grants to it. -/
theorem Run.conservation {a : A} (h : Run b ms b') (hb : b.WellFormed) (hun : b.UncapturedAt a) :
    b'.total a + b'.debited a = b.total a + b.debited a + granted a ms := by
  induction h with
  | nil b => simp [granted]
  | @cons b b' b'' m ms hs hr ih =>
      have hgr : granted a (m :: ms) = granted a [m] + granted a ms :=
        granted_append a [m] ms
      rw [ih (hs.wellFormed hb) (hs.uncapturedAt hun), hs.conservation hb hun, hgr]
      ring

omit [DecidableEq A] in
theorem Book.Sound.uncapturedAt (hb : b.Sound) (a : A) : b.UncapturedAt a :=
  fun h hh _ hp => hb.held_captured h hh hp

theorem Step.capturedAt_eq {m : Move A I} (hs : Step b m b')
    (hb : b.WellFormed) (hm : ∀ i c, m ≠ .settle i c) (a : A) :
    b'.capturedAt a = b.capturedAt a := by
  cases hs with
  | grant a' d => rfl
  | hold i a' r hr hi =>
      simp [Book.capturedAt, sumOver_append, sumOver_singleton]
  | settle h c hh hp hc => exact absurd rfl (hm h.id c)
  | close h hh hp =>
      have hupdate := Book.capturedAt_update (b := b.post h.refund) (g := Hold.close) hb.ids hh
        rfl a
      rw [hupdate]
      simp [Hold.close, Book.capturedAt, Book.post]

theorem Run.capturedAt_eq (h : Run b ms b')
    (hb : b.WellFormed) (hms : ∀ m ∈ ms, ∀ i c, m ≠ .settle i c) (a : A) :
    b'.capturedAt a = b.capturedAt a := by
  induction h with
  | nil b => rfl
  | cons hs _ ih =>
      rw [ih (hs.wellFormed hb) fun m hm => hms m (List.mem_cons_of_mem _ hm),
        hs.capturedAt_eq hb (hms _ List.mem_cons_self) a]

end Conservation

end HoldLedger
