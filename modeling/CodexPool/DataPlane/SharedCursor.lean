import CodexPool.DataPlane.PickResults
import CodexPool.Lib.Machine
import Mathlib.Data.Finset.Card
import Mathlib.Data.Finset.Range
import Mathlib.Data.List.Infix
import Mathlib.Data.Nat.ModEq

/-!
# Calls at the same time

The calls that go round take their turns from one cursor. Each of them takes one turn for every
account, and calls at the same time may take turns from one another.
-/

namespace CodexPool

namespace SharedCursor

/-- Where a call is: it looks for a recent success, then for a probe, then it goes round. An
account is looked at when its turn has been taken. -/
inductive PickPhase where
  | recent (left usable : List UpstreamAccount)
  | probed (left usable : List UpstreamAccount)
  | turn
  | check (account : UpstreamAccount)
  | done (result : Option UpstreamAccount)

/-- A call holds the lock of the accounts, and sees the same ones to its end. The positions of the
turns that it has taken are listed. -/
structure PickCall where
  accounts : List UpstreamAccount
  excluded : List Uuid
  turns : List Nat
  phase : PickPhase

structure World where
  router : Router
  now : Nat
  calls : List PickCall

/-- A selection is started or goes on; in between, all but the accounts that are locked and the
cursor may change, and the cursor is set back by a change of the accounts. -/
inductive WorldStep where
  | beginExcluding (excluded : List Uuid)
  | beginAvoiding (stickyKey : String) (excluded : List Uuid)
  | advance (i : Nat)
  | change (router : Router) (now : Nat)
  | storeCursor

namespace PickCall

def isDone (call : PickCall) : Bool :=
  match call.phase with
  | .done _ => true
  | _ => false

/-- The next step of a call. -/
def advance (call : PickCall) (now : Nat) (r : Router) : PickCall × Router :=
  match call.phase with
  | .recent (account :: left) usable =>
    let looked := isUsable now call.excluded account r
    ({ call with phase := .recent left (if looked.1 then usable ++ [account] else usable) },
      looked.2)
  | .recent [] usable =>
    match findAccount call.accounts (r.latestSuccess (usable.map (·.id))) with
    | some account => ({ call with phase := .done (some account) }, r)
    | none => ({ call with phase := .probed call.accounts [] }, r)
  | .probed (account :: left) usable =>
    let looked := isUsable now call.excluded account r
    ({ call with phase := .probed left (if looked.1 then usable ++ [account] else usable) },
      looked.2)
  | .probed [] usable =>
    match findAccount call.accounts (r.freshestProbe (usable.map (·.id))) with
    | some account => ({ call with phase := .done (some account) }, r)
    | none => ({ call with phase := .turn }, r)
  | .turn =>
    if call.turns.length < call.accounts.length then
      let taken := fetchAddCursor r
      let turn := taken.1 % call.accounts.length
      match call.accounts[turn]? with
      | none => ({ call with phase := .done none }, taken.2)
      | some account =>
        ({ call with turns := call.turns ++ [turn], phase := .check account }, taken.2)
    else ({ call with phase := .done none }, r)
  | .check account =>
    let looked := isUsable now call.excluded account r
    ({ call with phase := if looked.1 then .done (some account) else .turn }, looked.2)
  | .done _ => (call, r)

end PickCall

/-- `pick_excluding` and its list of accounts. -/
def beginPickExcluding (accounts : List UpstreamAccount) (excluded : List Uuid) : PickCall :=
  ⟨accounts, excluded, [], if accounts.isEmpty then .done none else .recent accounts []⟩

/-- `pick_avoiding_sticky_conflicts`, which excludes the accounts of other sessions. -/
def beginPickAvoiding (accounts : List UpstreamAccount) (excluded : List Uuid) : PickCall :=
  ⟨accounts, excluded, [], if accounts.isEmpty then .done none else .turn⟩

def step (w : World) : WorldStep → World
  | .beginExcluding excluded =>
    { w with calls := w.calls ++ [beginPickExcluding w.router.accounts excluded] }
  | .beginAvoiding stickyKey excluded =>
    let (conflictIds, r) := collectConflictAccountIds w.now stickyKey w.router
    { w with
      router := r
      calls := w.calls ++ [beginPickAvoiding r.accounts (excluded ++ conflictIds)] }
  | .advance i =>
    match w.calls[i]? with
    | none => w
    | some call =>
      let (call, r) := call.advance w.now w.router
      { w with router := r, calls := w.calls.set i call }
  | .change router now =>
    { w with
      router := { router with
        accounts := if w.calls.all (·.isDone) then router.accounts else w.router.accounts
        cursor := w.router.cursor }
      now := now }
  | .storeCursor => { w with router := { w.router with cursor := 0 } }

/-! ## What is asked of a call -/

/-- The call has taken all its turns, and will find nothing. -/
def PickCall.givesUp (call : PickCall) : Bool :=
  match call.phase with
  | .turn => call.accounts.length ≤ call.turns.length
  | _ => false

/-- The next step of the call takes a turn. -/
def PickCall.takesTurn (call : PickCall) : Bool :=
  match call.phase with
  | .turn => call.turns.length < call.accounts.length
  | _ => false

def World.takesTurn (w : World) (j : Nat) : Bool := w.calls[j]?.any (·.takesTurn)

/-- A step of the world and, for each turn that call `i` has taken, how many turns all calls have
taken since, that one included. -/
def agedStep (i : Nat) (s : List Nat × World) (next : WorldStep) : List Nat × World :=
  (match next with
    | .advance j =>
      if s.2.takesTurn j then s.1.map (· + 1) ++ (if j = i then [1] else []) else s.1
    | _ => s.1,
    step s.2 next)

/-- Call `i` has had no turn again when it gives up. -/
def TurnsDiffer (i : Nat) (w : World) : Prop :=
  ∀ call, w.calls[i]? = some call → call.givesUp = true → call.turns.Nodup

/-- Call `i` has taken a turn and is not done. -/
def goesRound (i : Nat) (s : List Nat × World) : Bool :=
  !s.1.isEmpty && s.2.calls[i]?.any (!·.isDone)

/-- Call `i` takes no turn a whole number of rounds of `n` after one that it has taken before, and
while it goes round the cursor is set back only where a round ends and does not wrap unless
`2 ^ 64` is a whole number of rounds. -/
def KeepsRound (n i : Nat) (s : List Nat × World) : WorldStep → Prop
  | .advance j => s.2.takesTurn j = true →
    (goesRound i s = true ∨ j = i → s.2.router.cursor + 1 < 2 ^ 64 ∨ n ∣ 2 ^ 64) ∧
      (j = i → ∀ age ∈ s.1, ¬ n ∣ age)
  | .storeCursor => goesRound i s = true → n ∣ s.2.router.cursor
  | _ => True

instance (n i : Nat) (s : List Nat × World) : ∀ next, Decidable (KeepsRound n i s next)
  | .advance _ => inferInstanceAs (Decidable (_ → _ ∧ _))
  | .beginExcluding _ => .isTrue trivial
  | .beginAvoiding _ _ => .isTrue trivial
  | .change _ _ => .isTrue trivial
  | .storeCursor => inferInstanceAs (Decidable (_ → _))

def WorldStep.advances (i : Nat) : WorldStep → Bool
  | .advance j => i == j
  | _ => false

def Healthy (w : World) (account : UpstreamAccount) : Prop :=
  w.router.healthyAt w.now account.id = true

/-- In every state of the run. -/
def Throughout (P : World → Prop) (w : World) (steps : List WorldStep) : Prop :=
  ∀ before, before <+: steps → P (Machine.run step w before)

/-- The account is one of the list, is enabled and not excluded, and was healthy in some state of
the run. -/
structure Chosen (w : World) (steps : List WorldStep) (accounts : List UpstreamAccount)
    (excluded : List Uuid) (account : UpstreamAccount) : Prop where
  mem : account ∈ accounts
  enabled : account.enabled = true
  notExcluded : account.id ∉ excluded
  healthy : ∃ before, before <+: steps ∧ Healthy (Machine.run step w before) account

def ReturnsChosen (w : World) (steps : List WorldStep) (i : Nat) (accounts : List UpstreamAccount)
    (excluded : List Uuid) : Prop :=
  ∃ call, (Machine.run step w steps).calls[i]? = some call ∧
    (∀ result, call.phase = .done result →
      ∃ account, result = some account ∧ Chosen w steps accounts excluded account) ∧
    (4 * accounts.length + 3 ≤ steps.countP (·.advances i) → call.isDone = true)

/-! ## One step of a call -/

section Step

variable {accounts : List UpstreamAccount} {excluded : List Uuid} {found : UpstreamAccount → Prop}
  {p : Nat} {now : Nat} {r : Router}

/-- What has been found in the phase is right, and an account whose turn was taken was chosen when
it could be. -/
def PhaseFits (accounts : List UpstreamAccount) (found : UpstreamAccount → Prop) (p : Nat)
    (turns : List Nat) : PickPhase → Prop
  | .recent left usable | .probed left usable =>
    turns = [] ∧ left ⊆ accounts ∧ ∀ account ∈ usable, account ∈ accounts ∧ found account
  | .turn => p ∉ turns
  | .check account =>
    account ∈ accounts ∧ (p ∈ turns → accounts[p]? = some account)
  | .done result => ∃ account, result = some account ∧ found account

/-- The call has the accounts, and its turns are positions of theirs. -/
structure Fits (accounts : List UpstreamAccount) (excluded : List Uuid)
    (found : UpstreamAccount → Prop) (p : Nat) (call : PickCall) : Prop where
  sameAccounts : call.accounts = accounts
  sameExcluded : call.excluded = excluded
  turns : ∀ turn ∈ call.turns, turn < accounts.length
  phase : PhaseFits accounts found p call.turns call.phase

theorem mem_turns {turns : List Nat} {n : Nat} (hnodup : turns.Nodup)
    (hlt : ∀ turn ∈ turns, turn < n) (hlength : n ≤ turns.length) (hp : p < n) : p ∈ turns := by
  have hsub : turns.toFinset ⊆ Finset.range n := by
    intro turn hturn
    exact Finset.mem_range.2 (hlt turn (List.mem_toFinset.1 hturn))
  have heq : turns.toFinset = Finset.range n := by
    apply Finset.eq_of_subset_of_card_le hsub
    rw [Finset.card_range, List.toFinset_card_of_nodup hnodup]
    exact hlength
  rw [← List.mem_toFinset, heq]
  exact Finset.mem_range.2 hp

theorem usable_eq_true_iff {account : UpstreamAccount} :
    r.usable now excluded account = true ↔
      account.id ∉ excluded ∧ account.enabled = true ∧ r.healthyAt now account.id = true := by
  simp [Router.usable, and_assoc]

theorem isUsable_fst (account : UpstreamAccount) (r : Router) :
    (isUsable now excluded account r).1 = r.usable now excluded account :=
  (isUsable_gives account r (.refl now r)).1

theorem found_of_preferred (hids : (accounts.map (·.id)).Nodup) {usable : List UpstreamAccount}
    (husable : ∀ account ∈ usable, account ∈ accounts ∧ found account) {id : Option Uuid}
    (hid : ∀ x, id = some x → x ∈ usable.map (·.id)) {account : UpstreamAccount}
    (h : findAccount accounts id = some account) : found account := by
  rcases Option.bind_eq_some_iff.1 h with ⟨x, hx, hfind⟩
  rcases List.mem_map.1 (hid x hx) with ⟨best, hbest, rfl⟩
  have hsame : account.id = best.id := by simpa using List.find?_some hfind
  have heq : account = best :=
    List.inj_on_of_nodup_map hids (List.mem_of_find?_eq_some hfind) (husable best hbest).1 hsame
  rw [heq]
  exact (husable best hbest).2

variable {call : PickCall} {account : UpstreamAccount}

theorem forall_mem_usable {usable : List UpstreamAccount}
    (husable : ∀ account ∈ usable, account ∈ accounts ∧ found account) (hmem : account ∈ accounts)
    (hfound : ∀ b ∈ accounts, r.usable now excluded b = true → found b) :
    ∀ b ∈ if (isUsable now excluded account r).1 then usable ++ [account] else usable,
      b ∈ accounts ∧ found b := by
  rw [isUsable_fst]
  split_ifs with hok
  · intro b hb
    rcases List.mem_append.1 hb with hold | hnew
    · exact husable b hold
    · rw [List.mem_singleton.1 hnew]
      exact ⟨hmem, hfound account hmem hok⟩
  · exact husable

/-- A call that takes a turn looks at the account at the cursor, which goes on by one. -/
theorem advance_of_takesTurn (now : Nat) (r : Router) (h : call.takesTurn = true) :
    ∃ b, call.accounts[r.cursor % call.accounts.length]? = some b ∧
      call.advance now r =
        ({ call with
            turns := call.turns ++ [r.cursor % call.accounts.length]
            phase := .check b },
          { r with cursor := (r.cursor + 1) % 2 ^ 64 }) := by
  rcases call with ⟨accounts, excluded, turns, phase⟩
  cases phase with
  | turn =>
      have hleft : turns.length < accounts.length := of_decide_eq_true h
      have hturn : r.cursor % accounts.length < accounts.length := Nat.mod_lt _ (by omega)
      have hget := List.getElem?_eq_getElem hturn
      refine ⟨_, hget, ?_⟩
      have hcursor : fetchAddCursor r = (r.cursor, { r with cursor := (r.cursor + 1) % 2 ^ 64 }) :=
        rfl
      simp only [PickCall.advance, hleft, if_true, hcursor, hget]
  | recent left usable => cases h
  | probed left usable => cases h
  | check account => cases h
  | done result => cases h

theorem Fits.advance (hids : (accounts.map (·.id)).Nodup) (hp : accounts[p]? = some account)
    (hok : r.usable now excluded account = true)
    (hfound : ∀ b ∈ accounts, r.usable now excluded b = true → found b)
    (hturns : call.givesUp = true → call.turns.Nodup)
    (h : Fits accounts excluded found p call) :
    Fits accounts excluded found p (call.advance now r).1 := by
  rcases call with ⟨callAccounts, callExcluded, turns, phase⟩
  rcases h with ⟨haccounts, hexcluded, hlt, hphase⟩
  dsimp only at haccounts hexcluded hlt hphase
  subst haccounts hexcluded
  cases phase with
  | recent left usable =>
      rcases hphase with ⟨hnil, hleft, husable⟩
      cases left with
      | cons b left =>
          rcases List.cons_subset.1 hleft with ⟨hb, hrest⟩
          exact ⟨rfl, rfl, hlt, hnil, hrest, forall_mem_usable husable hb hfound⟩
      | nil =>
          unfold PickCall.advance
          dsimp only
          cases hfind : findAccount callAccounts (r.latestSuccess (usable.map (·.id))) with
          | some b =>
              exact ⟨rfl, rfl, hlt, b, rfl,
                found_of_preferred hids husable (fun _ => mem_of_latestSuccess) hfind⟩
          | none =>
              exact ⟨rfl, rfl, hlt, hnil, List.Subset.refl _, List.forall_mem_nil _⟩
  | probed left usable =>
      rcases hphase with ⟨hnil, hleft, husable⟩
      cases left with
      | cons b left =>
          rcases List.cons_subset.1 hleft with ⟨hb, hrest⟩
          exact ⟨rfl, rfl, hlt, hnil, hrest, forall_mem_usable husable hb hfound⟩
      | nil =>
          unfold PickCall.advance
          dsimp only
          cases hfind : findAccount callAccounts (r.freshestProbe (usable.map (·.id))) with
          | some b =>
              exact ⟨rfl, rfl, hlt, b, rfl,
                found_of_preferred hids husable (fun _ => mem_of_freshestProbe) hfind⟩
          | none =>
              refine ⟨rfl, rfl, hlt, ?_⟩
              change p ∉ turns
              rw [hnil]
              exact List.not_mem_nil
  | turn =>
      have hlength : p < callAccounts.length := (List.getElem?_eq_some_iff.1 hp).1
      by_cases hleft : turns.length < callAccounts.length
      · have htakes : PickCall.takesTurn ⟨callAccounts, callExcluded, turns, .turn⟩ = true :=
          decide_eq_true hleft
        rcases advance_of_takesTurn now r htakes with ⟨b, hb, hadvance⟩
        rcases List.getElem?_eq_some_iff.1 hb with ⟨hturn, -⟩
        rw [hadvance]
        refine ⟨rfl, rfl, ?_, List.mem_of_getElem? hb, ?_⟩
        · intro turn hmem
          rcases List.mem_append.1 hmem with hold | hnew
          · exact hlt turn hold
          · rw [List.mem_singleton.1 hnew]
            exact hturn
        · intro hmem
          rcases List.mem_append.1 hmem with hold | hnew
          · exact absurd hold hphase
          · rw [List.mem_singleton.1 hnew]
            exact hb
      · have hdiffer := hturns (by simpa [PickCall.givesUp] using hleft)
        exact absurd (mem_turns hdiffer hlt (Nat.not_lt.1 hleft) hlength) hphase
  | check b =>
      rcases hphase with ⟨hb, hturn⟩
      unfold PickCall.advance
      dsimp only
      rw [isUsable_fst]
      refine ⟨rfl, rfl, hlt, ?_⟩
      dsimp only
      split_ifs with husable
      · exact ⟨b, rfl, hfound b hb husable⟩
      · intro hmem
        have heq := (hturn hmem).symm.trans hp
        rw [Option.some.inj heq] at husable
        exact husable hok
  | done result => exact ⟨rfl, rfl, hlt, hphase⟩

/-! ## The turns of a call -/

theorem advance_of_not_takesTurn (now : Nat) (r : Router) (h : call.takesTurn = false) :
    (call.advance now r).1.accounts = call.accounts ∧
      (call.advance now r).1.turns = call.turns ∧ (call.advance now r).2.cursor = r.cursor := by
  have hlooked (excluded : List Uuid) (account : UpstreamAccount) :
      (isUsable now excluded account r).2.cursor = r.cursor :=
    (isUsable_gives account r (.refl now r)).2.cursor
  unfold PickCall.advance
  split
  · exact ⟨rfl, rfl, hlooked _ _⟩
  · split <;> exact ⟨rfl, rfl, rfl⟩
  · exact ⟨rfl, rfl, hlooked _ _⟩
  · split <;> exact ⟨rfl, rfl, rfl⟩
  · rename_i hphase
    rw [PickCall.takesTurn, hphase] at h
    rw [if_neg (of_decide_eq_false h)]
    exact ⟨rfl, rfl, rfl⟩
  · exact ⟨rfl, rfl, hlooked _ _⟩
  · exact ⟨rfl, rfl, rfl⟩

theorem advance_of_isDone (now : Nat) (r : Router) (h : call.isDone = true) :
    (call.advance now r).1 = call := by
  rcases call with ⟨accounts, excluded, turns, phase⟩
  cases phase with
  | done result => rfl
  | _ => cases h

/-! ## The end of a call -/

/-- The steps that a call has before it, at most. -/
def PickCall.work (call : PickCall) : Nat :=
  let turnsLeft := 2 * (call.accounts.length - call.turns.length) + 1
  match call.phase with
  | .recent left _ => left.length + 1 + (call.accounts.length + 1) + turnsLeft
  | .probed left _ => left.length + 1 + turnsLeft
  | .turn => turnsLeft
  | .check _ => turnsLeft + 1
  | .done _ => 0

theorem isDone_of_work (h : call.work = 0) : call.isDone = true := by
  rcases call with ⟨accounts, excluded, turns, phase⟩
  cases phase with
  | done result => rfl
  | recent left usable => simp [PickCall.work] at h
  | probed left usable => simp [PickCall.work] at h
  | turn => simp [PickCall.work] at h
  | check account => simp [PickCall.work] at h

theorem work_advance (call : PickCall) (now : Nat) (r : Router) :
    (call.advance now r).1.work ≤ call.work - 1 := by
  rcases call with ⟨accounts, excluded, turns, phase⟩
  cases phase with
  | recent left usable =>
      cases left with
      | cons b left => simp [PickCall.advance, PickCall.work]; omega
      | nil =>
          unfold PickCall.advance
          dsimp only
          cases findAccount accounts (r.latestSuccess (usable.map (·.id))) with
          | some b => exact Nat.zero_le _
          | none => simp [PickCall.work]; omega
  | probed left usable =>
      cases left with
      | cons b left => simp [PickCall.advance, PickCall.work]; omega
      | nil =>
          unfold PickCall.advance
          dsimp only
          cases findAccount accounts (r.freshestProbe (usable.map (·.id))) with
          | some b => exact Nat.zero_le _
          | none => simp [PickCall.work]
  | turn =>
      unfold PickCall.advance
      dsimp only
      split_ifs with hleft
      · cases hget : accounts[(fetchAddCursor r).1 % accounts.length]? with
        | none => exact Nat.zero_le _
        | some b =>
            simp only [PickCall.work, List.length_append, List.length_singleton]
            omega
      · exact Nat.zero_le _
  | check b =>
      unfold PickCall.advance
      dsimp only
      split_ifs
      · exact Nat.zero_le _
      · simp [PickCall.work]
  | done result => exact Nat.zero_le _

end Step

/-! ## All steps -/

section Run

variable {w : World} {i : Nat} {call : PickCall}

theorem step_calls (h : w.calls[i]? = some call) (s : WorldStep) :
    (step w s).calls[i]? =
      some (if s.advances i then (call.advance w.now w.router).1 else call) := by
  have hlt : i < w.calls.length := (List.getElem?_eq_some_iff.1 h).1
  cases s with
  | beginExcluding excluded => exact (List.getElem?_append_left hlt).trans h
  | beginAvoiding stickyKey excluded => exact (List.getElem?_append_left hlt).trans h
  | change router now => exact h
  | storeCursor => exact h
  | advance j =>
      unfold step WorldStep.advances
      dsimp only
      by_cases hj : i = j
      · subst hj
        rw [h]
        simp [List.getElem?_set_self hlt]
      · cases hcall : w.calls[j]? with
        | none => simp [hj, h]
        | some other =>
            dsimp only
            rw [List.getElem?_set_ne (Ne.symm hj), h]
            simp [hj]

theorem work_run (h : w.calls[i]? = some call) (steps : List WorldStep) :
    ∃ call', (Machine.run step w steps).calls[i]? = some call' ∧
      call'.work ≤ call.work - steps.countP (·.advances i) := by
  induction steps generalizing w call with
  | nil => exact ⟨call, h, le_rfl⟩
  | cons s steps ih =>
      rcases ih (step_calls h s) with ⟨call', hcall', hwork⟩
      refine ⟨call', hcall', hwork.trans ?_⟩
      rw [List.countP_cons]
      have hadvance := work_advance call w.now w.router
      split_ifs <;> omega

/-! ## The round of a call -/

/-- No turn has come again, and since each turn the cursor has gone on as far as its age says. -/
structure InRound (n : Nat) (ages : List Nat) (call : PickCall) (cursor : Nat) : Prop where
  nodup : call.turns.Nodup
  aged : ∀ turn ∈ call.turns, ∃ age ∈ ages, (turn + age) % n = cursor % n

/-- The call has `n` accounts, and is done or in its round. -/
def RoundAt (n i : Nat) (s : List Nat × World) : Prop :=
  ∃ call, s.2.calls[i]? = some call ∧ call.accounts.length = n ∧
    (call.isDone = true ∨ InRound n s.1 call s.2.router.cursor)

section Round

variable {n : Nat} {ages : List Nat} {cursor cursor' : Nat}

theorem InRound.of_cursor (h : InRound n ages call cursor)
    (hcursor : ages ≠ [] → cursor' % n = cursor % n) : InRound n ages call cursor' := by
  refine ⟨h.nodup, fun turn hturn => ?_⟩
  obtain ⟨age, hage, heq⟩ := h.aged turn hturn
  exact ⟨age, hage, heq.trans (hcursor (List.ne_nil_of_mem hage)).symm⟩

theorem cursor_succ_mod (hwrap : cursor + 1 < 2 ^ 64 ∨ n ∣ 2 ^ 64) :
    (cursor + 1) % 2 ^ 64 % n = (cursor + 1) % n := by
  obtain hlt | hdvd := hwrap
  · rw [Nat.mod_eq_of_lt hlt]
  · exact Nat.mod_mod_of_dvd _ hdvd

theorem InRound.older (h : InRound n ages call cursor)
    (hwrap : ages ≠ [] → cursor + 1 < 2 ^ 64 ∨ n ∣ 2 ^ 64) :
    InRound n (ages.map (· + 1)) call ((cursor + 1) % 2 ^ 64) := by
  refine ⟨h.nodup, fun turn hturn => ?_⟩
  obtain ⟨age, hage, heq⟩ := h.aged turn hturn
  refine ⟨age + 1, List.mem_map_of_mem hage, ?_⟩
  rw [cursor_succ_mod (hwrap (List.ne_nil_of_mem hage)), ← Nat.add_assoc, Nat.add_mod, heq,
    ← Nat.add_mod]

theorem InRound.not_mem (h : InRound n ages call cursor) (hages : ∀ age ∈ ages, ¬ n ∣ age) :
    cursor % n ∉ call.turns := by
  intro hmem
  obtain ⟨age, hage, heq⟩ := h.aged _ hmem
  rw [Nat.mod_add_mod] at heq
  have hzero : Nat.ModEq n age 0 := Nat.ModEq.add_left_cancel' cursor heq
  exact hages age hage (Nat.modEq_zero_iff_dvd.1 hzero)

theorem InRound.turn (h : InRound n ages call cursor) (hages : ∀ age ∈ ages, ¬ n ∣ age)
    (hwrap : cursor + 1 < 2 ^ 64 ∨ n ∣ 2 ^ 64) {call' : PickCall}
    (hturns : call'.turns = call.turns ++ [cursor % n]) :
    InRound n (ages.map (· + 1) ++ [1]) call' ((cursor + 1) % 2 ^ 64) := by
  have holder := h.older fun _ => hwrap
  refine ⟨?_, fun turn hturn => ?_⟩
  · rw [hturns]
    exact h.nodup.append (List.nodup_singleton _)
      (List.disjoint_singleton.2 (h.not_mem hages))
  · rw [hturns] at hturn
    obtain hold | hnew := List.mem_append.1 hturn
    · obtain ⟨age, hage, heq⟩ := holder.aged turn hold
      exact ⟨age, List.mem_append_left _ hage, heq⟩
    · refine ⟨1, List.mem_append_right _ List.mem_cons_self, ?_⟩
      rw [List.mem_singleton.1 hnew, Nat.mod_add_mod, cursor_succ_mod hwrap]

theorem cursor_step_advance (w : World) (j : Nat) :
    (step w (.advance j)).router.cursor =
      if w.takesTurn j then (w.router.cursor + 1) % 2 ^ 64 else w.router.cursor := by
  unfold World.takesTurn
  simp only [step]
  cases w.calls[j]? with
  | none => rfl
  | some call =>
      rw [Option.any_some]
      cases htakes : call.takesTurn with
      | false => exact (advance_of_not_takesTurn w.now w.router htakes).2.2
      | true =>
          rcases advance_of_takesTurn w.now w.router htakes with ⟨b, -, hadvance⟩
          exact congrArg (fun taken => taken.2.cursor) hadvance

theorem InRound.advance {i : Nat} (h : InRound call.accounts.length ages call w.router.cursor)
    (hcall : w.calls[i]? = some call)
    (hkeeps : KeepsRound call.accounts.length i (ages, w) (.advance i)) :
    (call.advance w.now w.router).1.accounts = call.accounts ∧
      InRound call.accounts.length (agedStep i (ages, w) (.advance i)).1
        (call.advance w.now w.router).1 (step w (.advance i)).router.cursor := by
  have htakes : w.takesTurn i = call.takesTurn := by simp [World.takesTurn, hcall]
  rw [cursor_step_advance, agedStep]
  simp only [htakes]
  cases htake : call.takesTurn with
  | false =>
      rcases advance_of_not_takesTurn w.now w.router htake with ⟨haccounts, hturns, -⟩
      exact ⟨haccounts, hturns ▸ h.nodup, hturns ▸ h.aged⟩
  | true =>
      obtain ⟨hwrap, hages⟩ := hkeeps (htakes.trans htake)
      rcases advance_of_takesTurn w.now w.router htake with ⟨b, -, hadvance⟩
      rw [hadvance]
      refine ⟨rfl, ?_⟩
      simp only [if_true]
      exact h.turn (hages rfl) (hwrap (.inr rfl)) rfl

theorem roundAt_step {i : Nat} {s : List Nat × World} {next : WorldStep} (h : RoundAt n i s)
    (hkeeps : KeepsRound n i s next) : RoundAt n i (agedStep i s next) := by
  rcases s with ⟨ages, w⟩
  rcases h with ⟨call, hcall, rfl, hround⟩
  dsimp only at hcall hround
  have hstep := step_calls hcall next
  cases hdone : call.isDone with
  | true =>
      refine ⟨call, hstep.trans ?_, rfl, .inl hdone⟩
      rw [advance_of_isDone w.now w.router hdone, ite_self]
  | false =>
      replace hround := hround.resolve_left (by simp [hdone])
      have hgoes (hages : ages ≠ []) : goesRound i (ages, w) = true := by
        simp [goesRound, hcall, hdone, hages]
      cases next with
      | beginExcluding excluded => exact ⟨call, hstep, rfl, .inr hround⟩
      | beginAvoiding stickyKey excluded => exact ⟨call, hstep, rfl, .inr hround⟩
      | change router now => exact ⟨call, hstep, rfl, .inr hround⟩
      | storeCursor =>
          refine ⟨call, hstep, rfl, .inr (hround.of_cursor fun hages => ?_)⟩
          exact (Nat.mod_eq_zero_of_dvd (hkeeps (hgoes hages))).symm
      | advance j =>
          by_cases hj : i = j
          · subst hj
            rcases hround.advance hcall hkeeps with ⟨haccounts, hround'⟩
            have hself : WorldStep.advances i (.advance i) = true := beq_self_eq_true i
            rw [hself, if_pos rfl] at hstep
            exact ⟨_, hstep, congrArg List.length haccounts, .inr hround'⟩
          · rw [if_neg (by simpa [WorldStep.advances] using hj)] at hstep
            refine ⟨call, hstep, rfl, .inr ?_⟩
            dsimp only [agedStep]
            rw [cursor_step_advance, if_neg (Ne.symm hj), List.append_nil]
            cases htake : w.takesTurn j with
            | false => exact hround
            | true => exact hround.older fun hages => (hkeeps htake).1 (.inl (hgoes hages))

/-- A call that keeps its round has had no turn again when it gives up. -/
theorem turnsDiffer_of_keepsRound {i : Nat} {s : List Nat × World} {steps : List WorldStep}
    (h : RoundAt n i s) (hkeeps : Machine.Along (agedStep i) (KeepsRound n i) s steps) :
    Machine.Along step (fun w _ => TurnsDiffer i w) s.2 steps := by
  induction steps generalizing s with
  | nil => trivial
  | cons next steps ih =>
      refine ⟨fun call hcall hgives => ?_, ih (roundAt_step h hkeeps.1) hkeeps.2⟩
      rcases h with ⟨call', hcall', -, hround⟩
      obtain rfl := Option.some.inj (hcall'.symm.trans hcall)
      refine (hround.resolve_left fun hdone => ?_).nodup
      unfold PickCall.isDone at hdone
      unfold PickCall.givesUp at hgives
      split at hdone
      · simp_all
      · cases hdone

end Round

variable {accounts : List UpstreamAccount} {excluded : List Uuid}

/-- A call that fits at its beginning chooses an account when one of them may be used in every
state, whatever the other calls do. -/
theorem returnsChosen (hids : (accounts.map (·.id)).Nodup) {steps : List WorldStep}
    (hturns : Machine.Along step (fun w _ => TurnsDiffer i w) w steps) {account : UpstreamAccount}
    (hmem : account ∈ accounts) (henabled : account.enabled = true) (hnot : account.id ∉ excluded)
    (hhealthy : Throughout (Healthy · account) w steps) (hcall : w.calls[i]? = some call)
    (hwork : call.work ≤ 4 * accounts.length + 3)
    (hfits : ∀ p found, Fits accounts excluded found p call) :
    ReturnsChosen w steps i accounts excluded := by
  rcases List.getElem?_of_mem hmem with ⟨p, hp⟩
  have hstates : Machine.Along step (fun w' _ =>
      w'.router.usable w'.now excluded account = true ∧
        ∀ b ∈ accounts, w'.router.usable w'.now excluded b = true →
          Chosen w steps accounts excluded b) w steps := by
    apply Machine.along_of_prefixes
    intro before hbefore
    refine ⟨usable_eq_true_iff.2 ⟨hnot, henabled, hhealthy before hbefore⟩, ?_⟩
    intro b hb husable
    rcases usable_eq_true_iff.1 husable with ⟨hnotb, henabledb, hhealthyb⟩
    exact ⟨hb, henabledb, hnotb, before, hbefore, hhealthyb⟩
  have hrun : ∃ call', (Machine.run step w steps).calls[i]? = some call' ∧
      Fits accounts excluded (Chosen w steps accounts excluded) p call' := by
    apply ((Machine.along_and w steps).2 ⟨hturns, hstates⟩).invariant (P := fun w' => ∃ call',
      w'.calls[i]? = some call' ∧ Fits accounts excluded (Chosen w steps accounts excluded) p call')
    · rintro w' s ⟨call', hcall', hfits'⟩ ⟨hturn, hok, hfound⟩
      refine ⟨_, step_calls hcall' s, ?_⟩
      split_ifs with hadvance
      · exact hfits'.advance hids hp hok hfound (hturn call' hcall')
      · exact hfits'
    · exact ⟨call, hcall, hfits p _⟩
  rcases hrun with ⟨call', hcall', hfits'⟩
  refine ⟨call', hcall', ?_, ?_⟩
  · intro result hdone
    have hphase := hfits'.phase
    rw [hdone] at hphase
    exact hphase
  · intro henough
    rcases work_run hcall steps with ⟨call'', hcall'', hless⟩
    rw [hcall'] at hcall''
    rw [← Option.some.inj hcall''] at hless
    exact isDone_of_work (by omega)

/-- In every run in which the call keeps its round, it chooses an account when one may be used
throughout. -/
theorem pickExcluding_returns (w : World) (excluded : List Uuid)
    (hids : (w.router.accounts.map (·.id)).Nodup) {steps : List WorldStep}
    (hround : Machine.Along (agedStep w.calls.length)
      (KeepsRound w.router.accounts.length w.calls.length)
      ([], step w (.beginExcluding excluded)) steps)
    {account : UpstreamAccount} (hmem : account ∈ w.router.accounts)
    (henabled : account.enabled = true) (hnot : account.id ∉ excluded)
    (hhealthy : Throughout (Healthy · account) (step w (.beginExcluding excluded)) steps) :
    ReturnsChosen (step w (.beginExcluding excluded)) steps w.calls.length w.router.accounts
      excluded := by
  have hne : w.router.accounts.isEmpty = false :=
    List.isEmpty_eq_false_iff.2 (List.ne_nil_of_mem hmem)
  have hcall : (step w (.beginExcluding excluded)).calls[w.calls.length]? =
      some ⟨w.router.accounts, excluded, [], .recent w.router.accounts []⟩ := by
    simp [step, beginPickExcluding, hne]
  have hbegin : RoundAt w.router.accounts.length w.calls.length
      ([], step w (.beginExcluding excluded)) :=
    ⟨_, hcall, rfl, .inr ⟨List.nodup_nil, List.forall_mem_nil _⟩⟩
  have hturns := turnsDiffer_of_keepsRound hbegin hround
  refine returnsChosen hids hturns hmem henabled hnot hhealthy hcall ?_ ?_
  · simp only [PickCall.work, List.length_nil]
    omega
  · intro p found
    exact ⟨rfl, rfl, List.forall_mem_nil _, rfl, List.Subset.refl _, List.forall_mem_nil _⟩

end Run

/-! Two accounts, of which the first is excluded. -/

def twoCallsRouter : Router := Router.new [sampleAccount "a", sampleAccount "b"]

def twoCallsWorld : World := ⟨twoCallsRouter, 0, []⟩

/-- Between the two turns of the call another one, for which both accounts are excluded, takes the
turns of both. -/
def roundBetween : List WorldStep :=
  .beginExcluding [⟨"a"⟩, ⟨"b"⟩] :: List.replicate 7 (.advance 0) ++
    List.replicate 12 (.advance 1) ++ List.replicate 4 (.advance 0)

/-- A call at the same time takes the turn of the second. -/
def crossedCalls : List WorldStep :=
  .beginExcluding [⟨"a"⟩] :: List.replicate 6 (.advance 0) ++ List.replicate 6 (.advance 1) ++
    [.advance 0, .advance 0, .advance 1, .advance 0, .advance 0, .advance 0]

theorem throughout_of_inits {P : World → Prop} {w : World} {steps : List WorldStep}
    (h : ∀ before ∈ steps.inits, P (Machine.run step w before)) : Throughout P w steps :=
  fun before hbefore => h before ((List.mem_inits before steps).2 hbefore)

instance (account : UpstreamAccount) : DecidablePred (Healthy · account) :=
  fun _ => inferInstanceAs (Decidable (_ = true))

theorem roundBetween_returns :
    ReturnsChosen (step twoCallsWorld (.beginExcluding [⟨"a"⟩])) roundBetween 0
      twoCallsRouter.accounts [⟨"a"⟩] :=
  pickExcluding_returns twoCallsWorld [⟨"a"⟩] (by decide +kernel) (by decide +kernel)
    (List.mem_cons_of_mem _ List.mem_cons_self : sampleAccount "b" ∈ twoCallsRouter.accounts) rfl
    (by decide +kernel) (throughout_of_inits (by decide +kernel))

/-- The call takes the turn of the first account again, and gives up. -/
theorem crossedCalls_giveUp :
    ¬ ∀ (w : World) (excluded : List Uuid) (steps : List WorldStep) (account : UpstreamAccount),
      (w.router.accounts.map (·.id)).Nodup → account ∈ w.router.accounts →
      account.enabled = true → account.id ∉ excluded →
      Throughout (Healthy · account) (step w (.beginExcluding excluded)) steps →
      ReturnsChosen (step w (.beginExcluding excluded)) steps w.calls.length w.router.accounts
        excluded := by
  intro h
  rcases h twoCallsWorld [⟨"a"⟩] crossedCalls (sampleAccount "b") (by decide +kernel)
    (List.mem_cons_of_mem _ List.mem_cons_self) rfl (by decide +kernel)
    (throughout_of_inits (by decide +kernel)) with ⟨call, hcall, hchosen, -⟩
  have hphase : (Machine.run step (step twoCallsWorld (.beginExcluding [⟨"a"⟩]))
      crossedCalls).calls[0]?.map (·.phase) = some (.done none) := rfl
  change (Machine.run step (step twoCallsWorld (.beginExcluding [⟨"a"⟩]))
      crossedCalls).calls[0]? = some call at hcall
  rw [hcall] at hphase
  rcases hchosen none (Option.some.inj hphase) with ⟨account, hnone, -⟩
  cases hnone

end SharedCursor

end CodexPool
