import CodexPool.Tenant.GuessLimit

/-!
# The calls that are sent for a code

The stored count never stops a guess, so the senders have to. A call is sent for a code when it
comes to be one that the code may yet be compared with: it comes in while the code is the newest
of its user and purpose and live, or such a code is issued while it is in flight. Where no more
calls are sent for a code than its limit, or fewer than that with another code, it stands up to
guessing.
-/

namespace CodexPool

open Trial

/-- What is sent: the calls and, for each code, whether those that were sent for it have it
right. -/
structure Sent where
  calls : List Nat
  hits : Uuid → List Bool

namespace SelfServiceWorld

/-! ## Calls that a code may yet be compared with -/

/-- A call about the code's user and purpose, while the code is live and the newest, or one that
has selected the code, while it is live. -/
def Concerns (w : SelfServiceWorld) (row : EmailCodeRow) : Flight → Option Guess
  | .guessing guess =>
    if (w.db.guessedUser? guess).map (·.id) = some row.tenantUserId ∧
      row.purpose = guess.kind.purpose ∧ w.db.Newest row then some guess else none
  | .found guess user =>
    if user.id = row.tenantUserId ∧ row.purpose = guess.kind.purpose ∧ w.db.Newest row then
      some guess else none
  | .selected guess _ codeId => if codeId = row.id then some guess else none
  | _ => none

/-- The code may yet be compared with what the call guesses, and whether that is right. -/
def pending (w : SelfServiceWorld) (id : Uuid) (call : Nat) : Option Bool :=
  (w.db.code? id).bind fun row =>
    ((w.Concerns row (w.flights call)).filter (row.live ·.now)).map (row.codeHash = ·.codeHash)

/-- What the calls have of a code that comes to be pending for them. -/
def newHits (w w' : SelfServiceWorld) (calls : List Nat) (id : Uuid) : List Bool :=
  calls.filterMap fun call =>
    if w'.pending id call = w.pending id call then none else w'.pending id call

/-- A call is counted for a code when the code comes to be pending for it. -/
def send (w w' : SelfServiceWorld) (sent : Sent) (op : SelfServiceOp) : Sent :=
  let calls := match op with
    | .start call _ => sent.calls.insert call
    | _ => sent.calls
  { calls, hits := fun id => newHits w w' calls id ++ sent.hits id }

def stepSending (env : SelfServiceEnv) (s : Sent × SelfServiceWorld) (op : SelfServiceOp) :
    Sent × SelfServiceWorld :=
  (send s.2 (s.2.step env op).1 s.1 op, (s.2.step env op).1)

/-- For each code no more calls have been sent than its limit, or fewer than that with another
code. -/
def Paced (s : Sent × SelfServiceWorld) : Prop :=
  ∀ row ∈ s.2.db.codes, ((s.1.hits row.id).length : Int) ≤ row.maxAttempts ∨
    ((s.1.hits row.id).countP not : Int) < row.maxAttempts

instance (s : Sent × SelfServiceWorld) : Decidable (Paced s) :=
  inferInstanceAs (Decidable (∀ row ∈ s.2.db.codes, _ ∨ _))

/-! ## Each comparison was sent -/

/-- Of the comparisons of each code and the calls that it is pending for, those that have it right
or wrong, as asked, are no more than were sent. -/
structure AllSent (p : Bool → Bool) (s : Sent × SelfServiceWorld) : Prop where
  calls : ∀ call, s.2.flights call = .idle ∨ call ∈ s.1.calls
  counted : ∀ id, (s.2.attempts.countP fun a => a.target = id && p a.hit) +
    (s.1.calls.countP fun call => (s.2.pending id call).any p) ≤ (s.1.hits id).countP p

/-- What a step does to the calls in flight and the comparisons: no call is in flight that was not
before or is sent now, and a comparison is one that was pending for its call and is no more. -/
structure StepEffect (w w' : SelfServiceWorld) (op : SelfServiceOp) : Prop where
  flights : ∀ call, w'.flights call ≠ .idle → w.flights call ≠ .idle ∨
    ∃ request, op = .start call request
  attempts : w'.attempts = w.attempts ∨ ∃ call a, w'.attempts = a :: w.attempts ∧
    w.pending a.target call = some a.hit ∧ ∀ id, w'.pending id call = none

variable {p : Bool → Bool} {w w' : SelfServiceWorld} {sent : Sent} {op : SelfServiceOp}
  {call : Nat}

theorem StepEffect.of_update {flight : Flight}
    (hflights : w'.flights = Function.update w.flights call flight)
    (hbusy : flight ≠ .idle → w.flights call ≠ .idle ∨ ∃ request, op = .start call request)
    (hattempts : w'.attempts = w.attempts ∨ ∃ a, w'.attempts = a :: w.attempts ∧
      w.pending a.target call = some a.hit ∧ ∀ id, w'.pending id call = none) :
    StepEffect w w' op := by
  refine ⟨fun other hother => ?_, hattempts.imp_right fun h => ⟨call, h⟩⟩
  rw [hflights] at hother
  by_cases hcall : other = call
  · subst hcall
    rw [Function.update_self] at hother
    exact hbusy hother
  · rw [Function.update_of_ne hcall] at hother
    exact .inl hother

theorem StepEffect.unchanged : StepEffect w w op := ⟨fun _ => .inl, .inl rfl⟩

theorem stepEffect_finish (w : SelfServiceWorld) (call : Nat) : StepEffect w (w.finish call) op :=
  .of_update rfl (fun h => absurd rfl h) (.inl rfl)

theorem stepEffect_setFlight (hbusy : w.flights call ≠ .idle) (flight : Flight) :
    StepEffect w (w.setFlight call flight) op :=
  .of_update rfl (fun _ => .inl hbusy) (.inl rfl)

theorem stepEffect_compared {guess : Guess} {user : TenantUserRow}
    {row : EmailCodeRow} (hcode : w.db.code? row.id = some row)
    (hflight : w.flights call = .selected guess user row.id) (flight : Flight)
    (hflights : w'.flights = Function.update w.flights call flight)
    (hattempts : w'.attempts = w.attempted row guess)
    (hpast : ∀ row, w'.Concerns row flight = none) : StepEffect w w' op := by
  refine .of_update hflights (fun _ => .inl (by simp [hflight])) ?_
  rw [hattempts, attempted]
  split_ifs with hlive
  · refine .inr ⟨_, rfl, ?_, fun id => ?_⟩
    · simp [pending, hcode, hflight, Concerns, hlive]
    · unfold pending
      rw [hflights, Function.update_self]
      cases w'.db.code? id with
      | none => rfl
      | some other => rw [Option.bind_some, hpast, Option.filter_none, Option.map_none]
  · exact .inl rfl

theorem stepEffect_step (w : SelfServiceWorld) (env : SelfServiceEnv) (op : SelfServiceOp) :
    StepEffect w (w.step env op).1 op := by
  cases op with
  | start call request =>
      unfold SelfServiceWorld.step SelfServiceWorld.start
      dsimp only
      split
      · split
        · exact .of_update rfl (fun _ => .inr ⟨request, rfl⟩) (.inl rfl)
        · exact .unchanged
      · exact .unchanged
  | selectUser call =>
      unfold SelfServiceWorld.step SelfServiceWorld.selectUser
      dsimp only
      split
      · rename_i hflight
        split
        · exact stepEffect_finish w call
        · exact stepEffect_setFlight (by simp [hflight]) _
      · rename_i hflight
        split
        · exact stepEffect_finish w call
        · exact stepEffect_setFlight (by simp [hflight]) _
      · exact .unchanged
  | selectCode call codeId =>
      unfold SelfServiceWorld.step SelfServiceWorld.selectCode
      dsimp only
      split
      · rename_i hflight
        split
        · split
          · exact .unchanged
          · exact stepEffect_setFlight (by simp [hflight]) _
        · exact stepEffect_finish w call
      · exact .unchanged
  | lockCode call =>
      unfold SelfServiceWorld.step SelfServiceWorld.lockCode
      dsimp only
      split
      · rename_i guess user codeId hflight
        split
        · exact .unchanged
        · exact stepEffect_finish w call
        · rename_i row hfree hcode
          obtain ⟨-, rfl⟩ := Sound.code?_mem hcode
          split
          · exact stepEffect_compared hcode hflight .idle rfl rfl fun _ => rfl
          · exact stepEffect_compared hcode hflight (.consumed guess user row) rfl rfl fun _ => rfl
      · exact .unchanged
  | commit call =>
      unfold SelfServiceWorld.step SelfServiceWorld.commit
      dsimp only
      split
      · split
        · exact stepEffect_finish w call
        · exact .of_update rfl (fun h => absurd rfl h) (.inl rfl)
      · split
        · exact stepEffect_finish w call
        · exact .of_update rfl (fun h => absurd rfl h) (.inl rfl)
      · exact .of_update rfl (fun h => absurd rfl h) (.inl rfl)
      · exact .unchanged
  | abort call err =>
      unfold SelfServiceWorld.step SelfServiceWorld.abort
      dsimp only
      split
      · exact .unchanged
      · exact stepEffect_finish w call

/-! ## Runs -/

theorem countP_lt_of_mem {l : List Nat} {q r : Nat → Bool} (hqr : ∀ k, q k = true → r k = true)
    {k : Nat} (hk : k ∈ l) (hq : q k = false) (hr : r k = true) : l.countP q < l.countP r := by
  obtain ⟨l, l', rfl⟩ := List.append_of_mem hk
  have hl := List.countP_mono_left fun k (_ : k ∈ l) => hqr k
  have hl' := List.countP_mono_left fun k (_ : k ∈ l') => hqr k
  simp only [List.countP_append, List.countP_cons, hq, hr, if_true, Bool.false_eq_true, if_false]
  omega

theorem countP_le_add {l : List Nat} {q r r' : Nat → Bool}
    (h : ∀ k, q k = true → r k = true ∨ r' k = true) : l.countP q ≤ l.countP r + l.countP r' := by
  induction l with
  | nil => exact le_rfl
  | cons k l ih =>
      have hk := h k
      simp only [List.countP_cons]
      cases hq : q k with
      | false => simp only [Bool.false_eq_true, if_false]; omega
      | true =>
          obtain hr | hr := hk hq
          · simp only [hr, if_true]; omega
          · simp only [hr, if_true]; omega

theorem pending_of_idle (h : w.flights call = .idle) (id : Uuid) :
    w.pending id call = none := by
  unfold pending
  rw [h]
  cases w.db.code? id with
  | none => rfl
  | some row => rfl

/-- A call that a code is pending for as before. -/
def stillPending (p : Bool → Bool) (w w' : SelfServiceWorld) (id : Uuid) (call : Nat) : Bool :=
  w'.pending id call = w.pending id call && (w.pending id call).any p

variable (p w w') in
theorem countP_pending_le (calls : List Nat) (id : Uuid) :
    (calls.countP fun call => (w'.pending id call).any p) ≤
      (newHits w w' calls id).countP p + calls.countP (stillPending p w w' id) := by
  rw [newHits, List.countP_filterMap]
  refine countP_le_add fun call hany => ?_
  by_cases hsame : w'.pending id call = w.pending id call
  · exact .inr (by simpa [stillPending, hsame] using hsame ▸ hany)
  · left
    rw [if_neg hsame]
    cases hpending : w'.pending id call with
    | none => rw [hpending] at hany; cases hany
    | some hit => rw [hpending] at hany; exact hany

theorem mem_send_calls (hmem : call ∈ sent.calls) : call ∈ (send w w' sent op).calls := by
  cases op with
  | start other request => exact List.mem_insert_of_mem hmem
  | _ => exact hmem

theorem countP_send_calls (hcalls : ∀ call, w.flights call = .idle ∨ call ∈ sent.calls)
    (id : Uuid) : (send w w' sent op).calls.countP (stillPending p w w' id) ≤
      sent.calls.countP (stillPending p w w' id) := by
  cases op with
  | start call request =>
      change (sent.calls.insert call).countP _ ≤ _
      by_cases hmem : call ∈ sent.calls
      · rw [List.insert_of_mem hmem]
      · have hnone := pending_of_idle ((hcalls call).resolve_right hmem) id
        rw [List.insert_of_not_mem hmem, List.countP_cons_of_neg]
        simp [stillPending, hnone]
  | _ => exact le_rfl

theorem AllSent.step (h : AllSent p (sent, w)) (env : SelfServiceEnv) (op : SelfServiceOp) :
    AllSent p (stepSending env (sent, w) op) := by
  have heffect := stepEffect_step w env op
  unfold stepSending
  generalize (w.step env op).1 = w' at heffect
  refine ⟨fun call => ?_, fun id => ?_⟩
  · by_cases hidle : w'.flights call = .idle
    · exact .inl hidle
    · right
      obtain hbusy | ⟨request, rfl⟩ := heffect.flights call hidle
      · exact mem_send_calls ((h.calls call).resolve_left hbusy)
      · exact List.mem_insert_self
  have hcount := h.counted id
  have hnew := (countP_pending_le p w w' (send w w' sent op).calls id).trans
    (Nat.add_le_add_left (countP_send_calls h.calls id) _)
  have hstill : ∀ call, stillPending p w w' id call = true → (w.pending id call).any p = true :=
    fun call hcall => (Bool.and_eq_true_iff.1 hcall).2
  have hhits : ((send w w' sent op).hits id).countP p =
      (newHits w w' (send w w' sent op).calls id).countP p + (sent.hits id).countP p :=
    List.countP_append
  dsimp only at hcount hnew ⊢
  obtain hsame | ⟨call, a, hattempts, hpending, hpast⟩ := heffect.attempts
  · have hle := List.countP_mono_left fun call (_ : call ∈ sent.calls) => hstill call
    rw [hsame]
    omega
  · rw [hattempts, List.countP_cons]
    split_ifs with hcounts
    · obtain ⟨htarget, hp⟩ := Bool.and_eq_true_iff.1 hcounts
      obtain rfl := of_decide_eq_true htarget
      have hmem : call ∈ sent.calls := by
        refine (h.calls call).resolve_left fun hidle => ?_
        rw [pending_of_idle hidle] at hpending
        cases hpending
      have hlt := countP_lt_of_mem hstill hmem (by simp [stillPending, hpast, hpending])
        (by rw [hpending]; exact hp)
      omega
    · have hle := List.countP_mono_left fun call (_ : call ∈ sent.calls) => hstill call
      omega

/-- A code for which so few calls are sent has been missed less often than its limit when one of
them comes to compare it. -/
theorem belowLimit_of_paced (hsound : w.Sound) (hall : AllSent (fun _ => true) (sent, w))
    (hwrong : AllSent not (sent, w)) (hpaced : Paced (sent, w)) : w.BelowLimit := by
  intro call guess user row hrow hflight hlive
  have hcode : w.db.code? row.id = some row := Keyed.lookupBy_of_mem hsound.valid.ids hrow
  have hmem : call ∈ sent.calls := (hall.calls call).resolve_left (by simp [hflight])
  have hpending : w.pending row.id call = some (decide (row.codeHash = guess.codeHash)) := by
    simp [pending, hcode, hflight, Concerns, hlive]
  obtain hcalls | hmisses := hpaced row hrow
  · have hcount := hall.counted row.id
    have hpos : 0 < sent.calls.countP fun call => (w.pending row.id call).any fun _ => true :=
      List.countP_pos_iff.2 ⟨call, hmem, by rw [hpending]; rfl⟩
    have hless : misses w.attempts row.id ≤
        w.attempts.countP fun a => a.target = row.id && true :=
      List.countP_mono_left fun a _ ha => by simp_all [missed]
    rw [List.countP_true] at hcount
    dsimp only at hcount hcalls
    omega
  · have hcount := hwrong.counted row.id
    have hless : misses w.attempts row.id ≤
        w.attempts.countP fun a => a.target = row.id && !a.hit := le_rfl
    dsimp only at hcount hmisses
    omega

/-- In a run in which the calls that are sent for each code are so few and no code is issued over
one that a call in flight names, codes stand up to guessing in every state. -/
theorem resistsGuessing_of_paced {db : SelfServiceDb} (hdb : db.Valid) (env : SelfServiceEnv)
    {ops : List SelfServiceOp}
    (hpaced : Machine.Along (stepSending env) (fun s op => Paced s ∧ s.2.InOrder op)
      (⟨[], fun _ => []⟩, initial db) ops)
    {before : List SelfServiceOp} (hbefore : before <+: ops) :
    ((initial db).after env before).ResistsGuessing env := by
  obtain ⟨rest, rfl⟩ := hbefore
  have hpre := ((Machine.along_append _ _ _).1 hpaced).1
  have hinitial (p : Bool → Bool) : AllSent p (⟨[], fun _ => []⟩, initial db) :=
    ⟨fun _ => .inl rfl, fun _ => le_rfl⟩
  have hrun := hpre.invariant (P := fun s : Sent × SelfServiceWorld =>
      s.2.Sound ∧ AllSent (fun _ => true) s ∧ AllSent not s)
    (fun s op hs hok =>
      ⟨hs.1.step env (belowLimit_of_paced hs.1 hs.2.1 hs.2.2 hok.1) hok.2,
        hs.2.1.step env op, hs.2.2.step env op⟩)
    ⟨sound_initial hdb, hinitial _, hinitial _⟩
  have hworld : (Machine.run (stepSending env) (⟨[], fun _ => []⟩, initial db) before).2 =
      (initial db).after env before :=
    Machine.run_simulates (R := fun (s : Sent × SelfServiceWorld) w => s.2 = w)
      (fun _ _ op h => congrArg (fun w => (step env w op).1) h) rfl before
  rw [← hworld]
  exact hrun.1.resistsGuessing env

/-! ## One code -/

def sampleEnv : SelfServiceEnv where
  sha256Hex := fun text => "sha256:" ++ text
  bcryptHash := fun salt password => .ok (salt ++ password)
  exposeDebugCode := false

def sampleUser : TenantUserRow where
  id := ⟨"3c1f0a9e-5b72-4d68-8e13-f0a6b2c4d811"⟩
  tenantId := ⟨"9d2b7c40-1e8f-4a35-b6c7-2f5d0e9a1b22"⟩
  email := "ann@example.com"
  passwordHash := "$2b$12$old"
  emailVerified := true
  enabled := true
  createdAt := 0
  updatedAt := 0

def sampleCode : EmailCodeRow :=
  codeRow sampleEnv sampleUser.tenantId sampleUser.id .passwordReset (seconds 600)
    { id := ⟨"c7e5a8d1-40b6-4f92-9a3d-6b1e8f2c7d33"⟩, number := 40312, now := 0 }

/-- A user with a reset code. -/
def sampleDb : SelfServiceDb where
  tenants := []
  users := [sampleUser]
  creditAccounts := []
  codes := [sampleCode]

def selectReset (call : Nat) (code : String) : List SelfServiceOp :=
  [.start call (.resetPassword ⟨sampleUser.email, code, "a new password"⟩ "$2b$12$" (call + 1)),
    .selectUser call, .selectCode call sampleCode.id]

def resetWith (call : Nat) (code : String) : List SelfServiceOp :=
  selectReset call code ++ [.lockCode call]

theorem sampleDb_valid : sampleDb.Valid where
  ids := List.nodup_singleton _
  owners := by simp [sampleDb, sampleCode, codeRow]
  limits := by simp [sampleDb, sampleCode, codeRow]

/-- Two wrong guesses and the right one, sent before the second is compared. -/
def threeGuesses : List SelfServiceOp :=
  resetWith 0 "999999" ++ selectReset 1 "111111" ++ resetWith 2 "040312" ++ [.lockCode 1]

theorem threeGuesses_paced :
    Machine.Along (stepSending sampleEnv) (fun s op => Paced s ∧ s.2.InOrder op)
      (⟨[], fun _ => []⟩, initial sampleDb) (threeGuesses ++ [.commit 2]) := by
  refine (Machine.along_and _ _).2 ⟨by decide +kernel, ?_⟩
  refine (Machine.along_append _ _ _).2 ⟨?_, fun code debugCode hissuing => ?_, trivial⟩
  · exact ⟨trivial, trivial, trivial, trivial, trivial, trivial, trivial, trivial, trivial, trivial,
      trivial, trivial, trivial⟩
  · have hconsumed : ((Machine.run (stepSending sampleEnv) (⟨[], fun _ => []⟩, initial sampleDb)
        threeGuesses).2.flights 2).target?.isSome = true := by decide +kernel
    rw [hissuing] at hconsumed
    cases hconsumed

/-- The stored count does not stop eight more guesses, but only three are sent, and the code is
accepted. -/
theorem threeGuesses_resistsGuessing :
    ((initial sampleDb).after sampleEnv (threeGuesses ++ [.commit 2])).ResistsGuessing sampleEnv :=
  resistsGuessing_of_paced sampleDb_valid sampleEnv threeGuesses_paced List.prefix_rfl

/-- Eight wrong guesses, and a ninth call with the right code. -/
def nineGuesses : List SelfServiceOp :=
  (List.range 8).flatMap (resetWith · "999999") ++ resetWith 8 "040312" ++ [.commit 8]

theorem nineGuesses_attempts :
    ¬ WithinLimit ((initial sampleDb).after sampleEnv nineGuesses).attempts := by
  decide +kernel

theorem nineGuesses_accepted :
    ((initial sampleDb).after sampleEnv nineGuesses).accepted.map (·.row.id) = [sampleCode.id] := by
  decide +kernel

theorem not_resistsGuessing_of_attempts {env : SelfServiceEnv} {w : SelfServiceWorld}
    (h : ¬ WithinLimit w.attempts) : ¬ w.ResistsGuessing env := fun hresists => h hresists.refused

/-- After as many misses as the code's limit, the ninth call is not refused: its code is
accepted. -/
theorem ninthGuess_not_refused :
    ¬ ((initial sampleDb).after sampleEnv nineGuesses).ResistsGuessing sampleEnv ∧
      ((initial sampleDb).after sampleEnv nineGuesses).accepted.map (·.row.id) =
        [sampleCode.id] := by
  constructor
  · apply not_resistsGuessing_of_attempts
    exact nineGuesses_attempts
  · exact nineGuesses_accepted

end SelfServiceWorld

end CodexPool
