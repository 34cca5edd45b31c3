import CodexPool.Lib.Machine
import CodexPool.Tenant.SelfService

/-!
# Guessing a verification code

A wrong guess is counted in the transaction whose failure reports it, so the count is dropped
with the transaction. As long as no code is compared after as many misses as its limit, and no
reset code is issued while a call that names the one before it is in flight, codes are accepted
as they should be.
-/

namespace CodexPool

open Trial

/-! ## What a call in flight knows -/

/-- The code that a call has selected, with the guess it makes. -/
def Flight.target? : Flight → Option (Guess × Uuid)
  | .selected guess _ codeId => some (guess, codeId)
  | .consumed guess _ row => some (guess, row.id)
  | _ => none

/-- The row is a code of the user and the purpose that a call is about. -/
structure EmailCodeRow.For (row : EmailCodeRow) (guess : Guess) (user : TenantUserRow) :
    Prop where
  email : user.email = guess.email
  owner : row.tenantUserId = user.id
  purpose : row.purpose = guess.kind.purpose

def EmailCodeRow.Named (row : EmailCodeRow) (guess : Guess) : Prop :=
  row.codeHash = guess.codeHash ∧ row.live guess.now = true

namespace SelfServiceDb

def FlightOk (db : SelfServiceDb) (locks : Uuid → Option Nat) (call : Nat) : Flight → Prop
  | .found guess user => user.email = guess.email
  | .selected guess user codeId =>
    ∃ row ∈ db.codes, row.id = codeId ∧ row.For guess user ∧ (row.Named guess → db.Newest row)
  | .consumed guess user row =>
    row ∈ db.codes ∧ row.For guess user ∧ row.Named guess ∧ db.Newest row ∧
      locks row.id = some call
  | .registering rows => rows.code.tenantUserId = rows.user.id ∧ 0 ≤ rows.code.maxAttempts
  | .issuing code _ => 0 ≤ code.maxAttempts
  | _ => True

/-- The keys of the tables: the ids of the codes are unique, and each code belongs to a user. -/
structure Valid (db : SelfServiceDb) : Prop where
  ids : (db.codes.map (·.id)).Nodup
  owners : ∀ c ∈ db.codes, c.tenantUserId ∈ db.users.map (·.id)
  limits : ∀ c ∈ db.codes, 0 ≤ c.maxAttempts

variable {db : SelfServiceDb} {locks : Uuid → Option Nat} {call : Nat} {flight : Flight}

theorem FlightOk.relock {locks' : Uuid → Option Nat} (h : db.FlightOk locks call flight)
    (hlocks : ∀ id, locks id = some call → locks' id = some call) :
    db.FlightOk locks' call flight := by
  cases flight with
  | consumed guess user row =>
      rcases h with ⟨hrow, hfor, hnamed, hnewest, hlock⟩
      exact ⟨hrow, hfor, hnamed, hnewest, hlocks _ hlock⟩
  | _ => exact h

variable {row : EmailCodeRow} {db' : SelfServiceDb}

theorem Newest.append {code : EmailCodeRow} (h : db.Newest row)
    (hcodes : db'.codes = db.codes ++ [code])
    (hcode : code.tenantUserId = row.tenantUserId → code.purpose = row.purpose →
      code.createdAt ≤ row.createdAt) : db'.Newest row := by
  intro c hc
  rw [hcodes, List.mem_append, List.mem_singleton] at hc
  rcases hc with hc | rfl
  · exact h c hc
  · exact hcode

theorem FlightOk.append {code : EmailCodeRow} (h : db.FlightOk locks call flight)
    (hcodes : db'.codes = db.codes ++ [code])
    (hcode : ∀ guess codeId, flight.target? = some (guess, codeId) →
      ∀ row ∈ db.codes, row.id = codeId → row.Named guess →
        code.tenantUserId = row.tenantUserId → code.purpose = row.purpose →
          code.createdAt ≤ row.createdAt) : db'.FlightOk locks call flight := by
  have hmem : ∀ row ∈ db.codes, row ∈ db'.codes := by
    intro row hrow
    rw [hcodes]
    exact List.mem_append_left _ hrow
  cases flight with
  | selected guess user codeId =>
      rcases h with ⟨row, hrow, hid, hfor, hnewest⟩
      refine ⟨row, hmem row hrow, hid, hfor, fun hnamed => ?_⟩
      exact (hnewest hnamed).append hcodes (hcode guess codeId rfl row hrow hid hnamed)
  | consumed guess user row =>
      rcases h with ⟨hrow, hfor, hnamed, hnewest, hlock⟩
      have hnewest' := hnewest.append hcodes (hcode guess row.id rfl row hrow rfl hnamed)
      exact ⟨hmem row hrow, hfor, hnamed, hnewest', hlock⟩
  | _ => exact h

/-! ## Consuming a code -/

def consumeAt (codeId : Uuid) (now : DateTime) (row : EmailCodeRow) : EmailCodeRow :=
  if row.id = codeId then { row with consumedAt := some now } else row

@[simp] theorem consumeAt_id (codeId : Uuid) (now : DateTime) (row : EmailCodeRow) :
    (consumeAt codeId now row).id = row.id := by
  unfold consumeAt
  split <;> rfl

@[simp] theorem consumeAt_tenantUserId (codeId : Uuid) (now : DateTime) (row : EmailCodeRow) :
    (consumeAt codeId now row).tenantUserId = row.tenantUserId := by
  unfold consumeAt
  split <;> rfl

@[simp] theorem consumeAt_purpose (codeId : Uuid) (now : DateTime) (row : EmailCodeRow) :
    (consumeAt codeId now row).purpose = row.purpose := by
  unfold consumeAt
  split <;> rfl

@[simp] theorem consumeAt_codeHash (codeId : Uuid) (now : DateTime) (row : EmailCodeRow) :
    (consumeAt codeId now row).codeHash = row.codeHash := by
  unfold consumeAt
  split <;> rfl

@[simp] theorem consumeAt_createdAt (codeId : Uuid) (now : DateTime) (row : EmailCodeRow) :
    (consumeAt codeId now row).createdAt = row.createdAt := by
  unfold consumeAt
  split <;> rfl

@[simp] theorem consumeAt_maxAttempts (codeId : Uuid) (now : DateTime) (row : EmailCodeRow) :
    (consumeAt codeId now row).maxAttempts = row.maxAttempts := by
  unfold consumeAt
  split <;> rfl

variable {codeId : Uuid}

theorem consumeAt_of_ne (h : row.id ≠ codeId)
    (now : DateTime) : consumeAt codeId now row = row := if_neg h

theorem consumeAt_consumedAt (h : row.id = codeId)
    (now : DateTime) : (consumeAt codeId now row).consumedAt = some now := by
  rw [consumeAt, if_pos h]

theorem Named.of_consumeAt {now : DateTime} {guess : Guess}
    (h : (consumeAt codeId now row).Named guess) : row.Named guess := by
  by_cases hid : row.id = codeId
  · have hlive := h.2
    simp [EmailCodeRow.live, consumeAt_consumedAt hid] at hlive
  · rwa [consumeAt_of_ne hid] at h

theorem acceptGuess_codes (db : SelfServiceDb) (guess : Guess) (user : TenantUserRow)
    (codeId : Uuid) :
    (db.acceptGuess guess user codeId).codes = db.codes.map (consumeAt codeId guess.now) := rfl

theorem Newest.consume {now : DateTime} (h : db.Newest row)
    (hcodes : db'.codes = db.codes.map (consumeAt codeId now)) :
    db'.Newest (consumeAt codeId now row) := by
  intro c hc howner hpurpose
  rw [hcodes] at hc
  rcases List.mem_map.1 hc with ⟨d, hd, rfl⟩
  simp only [consumeAt_tenantUserId, consumeAt_purpose] at howner hpurpose
  simpa only [consumeAt_createdAt] using h d hd howner hpurpose

/-- Consuming a code leaves a call alone that does not hold the code. -/
theorem FlightOk.consume {now : DateTime} (h : db.FlightOk locks call flight)
    (hcodes : db'.codes = db.codes.map (consumeAt codeId now))
    (hlock : locks codeId ≠ some call) : db'.FlightOk locks call flight := by
  have hmem : ∀ row ∈ db.codes, consumeAt codeId now row ∈ db'.codes := by
    intro row hrow
    rw [hcodes]
    exact List.mem_map_of_mem hrow
  cases flight with
  | selected guess user id =>
      rcases h with ⟨row, hrow, hid, hfor, hnewest⟩
      refine ⟨_, hmem row hrow, by rw [consumeAt_id, hid], ⟨hfor.email, ?_, ?_⟩, fun hnamed => ?_⟩
      · rw [consumeAt_tenantUserId, hfor.owner]
      · rw [consumeAt_purpose, hfor.purpose]
      · exact (hnewest (Named.of_consumeAt hnamed)).consume hcodes
  | consumed guess user row =>
      rcases h with ⟨hrow, hfor, hnamed, hnewest, hheld⟩
      have hne : row.id ≠ codeId := by
        rintro rfl
        exact hlock hheld
      have hsame := consumeAt_of_ne hne now
      have hrow' := hmem row hrow
      have hnewest' := hnewest.consume hcodes
      rw [hsame] at hrow' hnewest'
      exact ⟨hrow', hfor, hnamed, hnewest', hheld⟩
  | _ => exact h

end SelfServiceDb

/-! ## The invariant -/

/-- An accepted code was its user's own for the purpose, named in time, and the newest one. -/
structure AcceptedCode.Justified (a : AcceptedCode) : Prop where
  own : a.row.For a.guess a.user
  hash : a.row.codeHash = a.guess.codeHash
  unexpired : a.guess.now < a.row.expiresAt
  unconsumed : a.row.consumedAt = none
  newest : ∀ c ∈ a.codes, c.tenantUserId = a.row.tenantUserId → c.purpose = a.row.purpose →
    c.createdAt ≤ a.row.createdAt

theorem EmailCodeRow.live_iff {row : EmailCodeRow} {now : DateTime} :
    row.live now = true ↔ row.consumedAt = none ∧ now < row.expiresAt ∧
      row.attemptCount < row.maxAttempts := by
  unfold live
  simp only [Bool.not_eq_true', Bool.or_eq_false_iff, Option.isSome_eq_false_iff,
    Option.isNone_iff_eq_none, decide_eq_false_iff_not, Int.not_le, and_assoc]

namespace SelfServiceWorld

structure Sound (w : SelfServiceWorld) : Prop where
  valid : w.db.Valid
  flights : ∀ call, w.db.FlightOk w.locks call (w.flights call)
  targets : ∀ a ∈ w.attempts, ∃ c ∈ w.db.codes, c.id = a.target ∧ c.maxAttempts = a.limit
  within : WithinLimit w.attempts
  once : (w.accepted.map (·.row.id)).Nodup
  spent : ∀ a ∈ w.accepted, ∃ c ∈ w.db.codes, c.id = a.row.id ∧ c.consumedAt.isSome
  justified : ∀ a ∈ w.accepted, a.Justified

/-- A code that a call is about to compare has been missed less often than its limit. -/
def BelowLimit (w : SelfServiceWorld) : Prop :=
  ∀ call guess user, ∀ row ∈ w.db.codes, w.flights call = .selected guess user row.id →
    row.live guess.now = true → (misses w.attempts row.id : Int) < row.maxAttempts

def InOrder (w : SelfServiceWorld) : SelfServiceOp → Prop
  | .commit call => ∀ code debugCode, w.flights call = .issuing code debugCode →
      ∀ other guess codeId, (w.flights other).target? = some (guess, codeId) →
        ∀ row ∈ w.db.codes, row.id = codeId → row.Named guess →
          code.tenantUserId = row.tenantUserId → code.purpose = row.purpose →
            code.createdAt ≤ row.createdAt
  | _ => True

variable {w : SelfServiceWorld} {call : Nat}

theorem Sound.setFlight (h : w.Sound) {flight : Flight}
    (hflight : w.db.FlightOk w.locks call flight) : (w.setFlight call flight).Sound where
  valid := h.valid
  flights := by
    intro other
    by_cases hother : other = call
    · subst hother
      simpa only [SelfServiceWorld.setFlight, Function.update_self] using hflight
    · simpa only [SelfServiceWorld.setFlight, Function.update_of_ne hother] using h.flights other
  targets := h.targets
  within := h.within
  once := h.once
  spent := h.spent
  justified := h.justified

theorem Sound.finish (h : w.Sound) (call : Nat) : (w.finish call).Sound where
  valid := h.valid
  flights := by
    intro other
    by_cases hother : other = call
    · subst hother
      simp only [SelfServiceWorld.finish, Function.update_self, SelfServiceDb.FlightOk]
    · simp only [SelfServiceWorld.finish, Function.update_of_ne hother]
      apply (h.flights other).relock
      intro id hid
      rw [hid, Option.filter_some, if_pos (by simpa using hother)]
  targets := h.targets
  within := h.within
  once := h.once
  spent := h.spent
  justified := h.justified

variable {row : EmailCodeRow} {guess : Guess}

/-- A comparison that comes after fewer misses than the limit. -/
theorem Sound.attempted (h : w.Sound) (hrow : row ∈ w.db.codes)
    (hguard : row.live guess.now = true → (misses w.attempts row.id : Int) < row.maxAttempts) :
    ({ w with attempts := w.attempted row guess } : SelfServiceWorld).Sound where
  valid := h.valid
  flights := h.flights
  targets := by
    intro a ha
    change a ∈ w.attempted row guess at ha
    unfold SelfServiceWorld.attempted at ha
    split at ha
    · rcases List.mem_cons.1 ha with rfl | ha
      · exact ⟨row, hrow, rfl, rfl⟩
      · exact h.targets a ha
    · exact h.targets a ha
  within := by
    change WithinLimit (w.attempted row guess)
    unfold SelfServiceWorld.attempted
    split
    · rename_i hlive
      exact ⟨hguard hlive, h.within⟩
    · exact h.within
  once := h.once
  spent := h.spent
  justified := h.justified

variable {user : TenantUserRow}

theorem Sound.lock (h : w.Sound)
    (hfree : w.locks row.id = none) (hrow : row ∈ w.db.codes) (hfor : row.For guess user)
    (hnamed : row.Named guess) (hnewest : w.db.Newest row) :
    ({ w.setFlight call (.consumed guess user row) with
      locks := Function.update w.locks row.id (some call) } : SelfServiceWorld).Sound where
  valid := h.valid
  flights := by
    intro other
    by_cases hother : other = call
    · subst hother
      simp only [SelfServiceWorld.setFlight, Function.update_self]
      exact ⟨hrow, hfor, hnamed, hnewest, Function.update_self _ _ _⟩
    · simp only [SelfServiceWorld.setFlight, Function.update_of_ne hother]
      apply (h.flights other).relock
      intro id hid
      have hne : id ≠ row.id := by
        rintro rfl
        rw [hfree] at hid
        cases hid
      rw [Function.update_of_ne hne, hid]
  targets := h.targets
  within := h.within
  once := h.once
  spent := h.spent
  justified := h.justified

variable {db : SelfServiceDb}

/-- A code is added that is not newer than one that a call in flight names. -/
theorem Sound.issue (h : w.Sound) {code : EmailCodeRow} (hcodes : db.codes = w.db.codes ++ [code])
    (husers : ∀ id ∈ w.db.users.map (·.id), id ∈ db.users.map (·.id))
    (hnew : code.id ∉ w.db.codes.map (·.id)) (howner : code.tenantUserId ∈ db.users.map (·.id))
    (hlimit : 0 ≤ code.maxAttempts)
    (hcode : ∀ other guess codeId, (w.flights other).target? = some (guess, codeId) →
      ∀ row ∈ w.db.codes, row.id = codeId → row.Named guess →
        code.tenantUserId = row.tenantUserId → code.purpose = row.purpose →
          code.createdAt ≤ row.createdAt) :
    ({ w with db := db } : SelfServiceWorld).Sound where
  valid :=
    { ids := by
        rw [hcodes, List.map_append]
        exact h.valid.ids.append (List.nodup_singleton _) (by simpa using hnew)
      owners := by
        intro c hc
        rw [hcodes, List.mem_append, List.mem_singleton] at hc
        rcases hc with hc | rfl
        · exact husers _ (h.valid.owners c hc)
        · exact howner
      limits := by
        intro c hc
        rw [hcodes, List.mem_append, List.mem_singleton] at hc
        rcases hc with hc | rfl
        · exact h.valid.limits c hc
        · exact hlimit }
  flights := fun other => (h.flights other).append hcodes (hcode other)
  targets := by
    intro a ha
    rcases h.targets a ha with ⟨c, hc, hfacts⟩
    exact ⟨c, by rw [hcodes]; exact List.mem_append_left _ hc, hfacts⟩
  within := h.within
  once := h.once
  spent := by
    intro a ha
    rcases h.spent a ha with ⟨c, hc, hfacts⟩
    exact ⟨c, by rw [hcodes]; exact List.mem_append_left _ hc, hfacts⟩
  justified := h.justified

/-- The call that holds the lock of a code consumes it. -/
theorem Sound.accept (h : w.Sound) (hflight : w.flights call = .consumed guess user row) :
    ({ w.finish call with
        db := w.db.acceptGuess guess user row.id
        accepted := { guess, user, row, codes := w.db.codes } :: w.accepted } :
      SelfServiceWorld).Sound := by
  have hok := h.flights call
  rw [hflight] at hok
  rcases hok with ⟨hrow, hfor, hnamed, hnewest, hlock⟩
  rcases EmailCodeRow.live_iff.1 hnamed.2 with ⟨hunconsumed, hunexpired, -⟩
  have hcodes := SelfServiceDb.acceptGuess_codes w.db guess user row.id
  have hmem : ∀ c ∈ w.db.codes, SelfServiceDb.consumeAt row.id guess.now c ∈
      (w.db.acceptGuess guess user row.id).codes := fun c hc => List.mem_map_of_mem hc
  have husers : (w.db.acceptGuess guess user row.id).users.map (·.id) =
      w.db.users.map (·.id) := by
    simp only [SelfServiceDb.acceptGuess, List.map_map]
    apply List.map_congr_left
    intro other _
    simp only [Function.comp_apply]
    split
    · unfold SelfServiceDb.guessUpdate
      cases guess.kind <;> rfl
    · rfl
  refine
    { valid := { ids := ?_, owners := ?_, limits := ?_ }, flights := ?_, targets := ?_,
      within := h.within, once := ?_, spent := ?_, justified := ?_ }
  · have hids : (w.db.acceptGuess guess user row.id).codes.map (·.id) =
        w.db.codes.map (·.id) := by
      rw [hcodes, List.map_map]
      exact List.map_congr_left fun c _ => SelfServiceDb.consumeAt_id _ _ c
    rw [hids]
    exact h.valid.ids
  · intro c hc
    rw [husers]
    rcases List.mem_map.1 hc with ⟨d, hd, rfl⟩
    have howner := h.valid.owners d hd
    rwa [← SelfServiceDb.consumeAt_tenantUserId row.id guess.now d] at howner
  · intro c hc
    rcases List.mem_map.1 hc with ⟨d, hd, rfl⟩
    have hlimit := h.valid.limits d hd
    rwa [← SelfServiceDb.consumeAt_maxAttempts row.id guess.now d] at hlimit
  · intro other
    by_cases hother : other = call
    · subst hother
      simp only [SelfServiceWorld.finish, Function.update_self, SelfServiceDb.FlightOk]
    · have hkept := (h.finish call).flights other
      simp only [SelfServiceWorld.finish, Function.update_of_ne hother] at hkept ⊢
      apply hkept.consume hcodes
      rw [hlock, Option.filter_some, if_neg (by simp)]
      exact (Option.some_ne_none other).symm
  · intro a ha
    rcases h.targets a ha with ⟨c, hc, hid, hlimit⟩
    exact ⟨_, hmem c hc, by rw [SelfServiceDb.consumeAt_id, hid],
      by rw [SelfServiceDb.consumeAt_maxAttempts, hlimit]⟩
  · rw [List.map_cons, List.nodup_cons]
    refine ⟨fun hspent => ?_, h.once⟩
    rcases List.mem_map.1 hspent with ⟨a, ha, hid⟩
    rcases h.spent a ha with ⟨c, hc, hcid, hconsumed⟩
    have hsame : c = row := List.inj_on_of_nodup_map h.valid.ids hc hrow (hcid.trans hid)
    rw [hsame, hunconsumed] at hconsumed
    cases hconsumed
  · intro a ha
    rcases List.mem_cons.1 ha with rfl | ha
    · exact ⟨_, hmem row hrow, SelfServiceDb.consumeAt_id _ _ _,
        by rw [SelfServiceDb.consumeAt_consumedAt rfl]; rfl⟩
    · rcases h.spent a ha with ⟨c, hc, hid, hconsumed⟩
      refine ⟨_, hmem c hc, by rw [SelfServiceDb.consumeAt_id, hid], ?_⟩
      unfold SelfServiceDb.consumeAt
      split
      · rfl
      · exact hconsumed
  · intro a ha
    rcases List.mem_cons.1 ha with rfl | ha
    · exact ⟨hfor, hnamed.1, hunexpired, hunconsumed, hnewest⟩
    · exact h.justified a ha

/-! ## Every step -/

theorem Sound.code?_mem {codeId : Uuid}
    (hrow : w.db.code? codeId = some row) : row ∈ w.db.codes ∧ row.id = codeId :=
  ⟨List.mem_of_find?_eq_some hrow, Keyed.key_of_lookupBy hrow⟩

theorem SelfServiceCall.flightOk_of_start {env : SelfServiceEnv} {request : SelfServiceCall}
    {flight : Flight} (h : request.start env = .ok flight) (db : SelfServiceDb)
    (locks : Uuid → Option Nat) (call : Nat) : db.FlightOk locks call flight := by
  cases request with
  | register req draw =>
      simp only [SelfServiceCall.start] at h
      split at h
      · cases h
      · simp only [Result.bind_eq_ok, pure, Except.pure, Except.ok.injEq] at h
        rcases h with ⟨email, -, -, -, passwordHash, -, rfl⟩
        exact ⟨rfl, show (0 : Int) ≤ 8 by decide⟩
  | verifyEmail req now =>
      simp only [SelfServiceCall.start, Result.bind_eq_ok, pure, Except.pure,
        Except.ok.injEq] at h
      rcases h with ⟨email, -, rfl⟩
      trivial
  | forgotPassword email draw =>
      simp only [SelfServiceCall.start, Result.bind_eq_ok, pure, Except.pure,
        Except.ok.injEq] at h
      rcases h with ⟨email, -, rfl⟩
      trivial
  | resetPassword req salt now =>
      simp only [SelfServiceCall.start, Result.bind_eq_ok, pure, Except.pure,
        Except.ok.injEq] at h
      rcases h with ⟨email, -, -, -, newPasswordHash, -, rfl⟩
      trivial

theorem SelfServiceDb.email_of_guessedUser? (h : db.guessedUser? guess = some user) :
    user.email = guess.email := by
  have hfound := List.find?_some h
  cases hkind : guess.kind with
  | verifyEmail =>
      rw [hkind] at hfound
      exact of_decide_eq_true hfound
  | resetPassword newPasswordHash =>
      rw [hkind] at hfound
      exact (of_decide_eq_true hfound).1

theorem Sound.start (h : w.Sound) (env : SelfServiceEnv) (call : Nat)
    (request : SelfServiceCall) : (w.start env call request).1.Sound := by
  unfold SelfServiceWorld.start
  split
  · split
    · rename_i flight hstart
      exact h.setFlight (SelfServiceCall.flightOk_of_start hstart _ _ _)
    · exact h
  · exact h

theorem Sound.selectUser (h : w.Sound) (env : SelfServiceEnv) (call : Nat) :
    (w.selectUser env call).1.Sound := by
  unfold SelfServiceWorld.selectUser
  split
  · split
    · exact h.finish call
    · apply h.setFlight
      exact show (0 : Int) ≤ 8 by decide
  · split
    · exact h.finish call
    · rename_i user huser
      apply h.setFlight
      exact SelfServiceDb.email_of_guessedUser? huser
  · exact h

theorem Sound.selectCode (h : w.Sound) (call : Nat) (codeId : Uuid) :
    (w.selectCode call codeId).1.Sound := by
  unfold SelfServiceWorld.selectCode
  split
  · rename_i guess user hflight
    split
    · split
      · exact h
      · rename_i row hrow
        rcases Option.filter_eq_some_iff.1 hrow with ⟨hcode, hfacts⟩
        rw [decide_eq_true_eq] at hfacts
        have hok := h.flights call
        rw [hflight] at hok
        apply h.setFlight
        exact ⟨row, (Sound.code?_mem hcode).1, rfl, ⟨hok, hfacts.1, hfacts.2.1⟩,
          fun _ => hfacts.2.2⟩
    · exact h.finish call
  · exact h

theorem EmailCodeRow.named_of_consumeCodeInner
    (h : (row.consumeCodeInner guess.codeHash guess.now).1 = .ok ()) : row.Named guess := by
  unfold EmailCodeRow.consumeCodeInner at h
  split at h
  · cases h
  · rename_i hlive
    split at h
    · cases h
    · rename_i hhash
      exact ⟨not_not.1 hhash, by simpa using hlive⟩

theorem Sound.lockCode (h : w.Sound) (call : Nat) (hbelow : w.BelowLimit) :
    (w.lockCode call).1.Sound := by
  unfold SelfServiceWorld.lockCode
  split
  · rename_i guess user codeId hflight
    split
    · exact h
    · exact h.finish call
    · rename_i row hfree hcode
      rcases Sound.code?_mem hcode with ⟨hrow, rfl⟩
      have hcompared := h.attempted hrow (hbelow call guess user row hrow hflight)
      have hok := h.flights call
      rw [hflight] at hok
      rcases hok with ⟨row', hrow', hid, hfor, hnewest⟩
      have hsame : row' = row := List.inj_on_of_nodup_map h.valid.ids hrow' hrow hid
      rw [hsame] at hfor hnewest
      dsimp only
      split
      · exact hcompared.finish call
      · rename_i hconsumed
        have hnamed := EmailCodeRow.named_of_consumeCodeInner (congrArg Prod.fst hconsumed)
        exact hcompared.lock hfree hrow hfor hnamed (hnewest hnamed)
  · exact h

theorem SelfServiceDb.register_eq_ok {db' : SelfServiceDb} {rows : Registration}
    (h : db.register rows = .ok db') :
    rows.user.id ∉ db.users.map (·.id) ∧ rows.code.id ∉ db.codes.map (·.id) ∧
      db'.users = db.users ++ [rows.user] ∧ db'.codes = db.codes ++ [rows.code] := by
  unfold SelfServiceDb.register at h
  split at h
  · cases h
  · split at h
    · cases h
    · rename_i huser
      split at h
      · cases h
      · split at h
        · cases h
        · rename_i hcode
          cases h
          exact ⟨fun hmem => huser (Or.inl hmem), hcode, rfl, rfl⟩

theorem SelfServiceDb.insertCode_eq_ok {db' : SelfServiceDb} {code : EmailCodeRow}
    (h : db.insertCode code = .ok db') :
    code.id ∉ db.codes.map (·.id) ∧ code.tenantUserId ∈ db.users.map (·.id) ∧
      db' = { db with codes := db.codes ++ [code] } := by
  unfold SelfServiceDb.insertCode at h
  split at h
  · cases h
  · rename_i hkeys
    rw [not_or, not_not] at hkeys
    cases h
    exact ⟨hkeys.1, hkeys.2, rfl⟩

theorem Sound.commit (h : w.Sound) (call : Nat) (horder : w.InOrder (.commit call)) :
    (w.commit call).1.Sound := by
  unfold SelfServiceWorld.commit
  have hok := h.flights call
  split
  · rename_i rows hflight
    rw [hflight] at hok
    split
    · exact h.finish call
    · rename_i db hdb
      rcases SelfServiceDb.register_eq_ok hdb with ⟨hnewUser, hnewCode, husers, hcodes⟩
      have hissued : ({ w with db := db } : SelfServiceWorld).Sound := by
        refine h.issue hcodes ?_ hnewCode ?_ hok.2 ?_
        · intro id hid
          rw [husers, List.map_append]
          exact List.mem_append_left _ hid
        · rw [hok.1, husers, List.map_append]
          exact List.mem_append_right _ (List.mem_singleton_self _)
        · -- no code is the new user's yet
          intro other guess codeId _ row hrow _ _ howner
          have hold := h.valid.owners row hrow
          rw [← howner, hok.1] at hold
          exact absurd hold hnewUser
      exact hissued.finish call
  · rename_i code debugCode hflight
    rw [hflight] at hok
    split
    · exact h.finish call
    · rename_i db hdb
      rcases SelfServiceDb.insertCode_eq_ok hdb with ⟨hnew, howner, rfl⟩
      have hissued : ({ w with
          db := { w.db with codes := w.db.codes ++ [code] } } : SelfServiceWorld).Sound :=
        h.issue rfl (fun _ hid => hid) hnew howner hok (horder code debugCode hflight)
      exact hissued.finish call
  · rename_i guess user row hflight
    exact h.accept hflight
  · exact h

theorem Sound.step (h : w.Sound) (env : SelfServiceEnv) {op : SelfServiceOp}
    (hbelow : w.BelowLimit) (horder : w.InOrder op) : (w.step env op).1.Sound := by
  cases op with
  | start call request => exact h.start env call request
  | selectUser call => exact h.selectUser env call
  | selectCode call codeId => exact h.selectCode call codeId
  | lockCode call => exact h.lockCode call hbelow
  | commit call => exact h.commit call horder
  | abort call err =>
      unfold SelfServiceWorld.step SelfServiceWorld.abort
      dsimp only
      split
      · exact h
      · exact h.finish call

/-- What a step does to the tables: nothing, or what a commit writes that answers well. -/
inductive DbEffect (db : SelfServiceDb) (outcome : Outcome) : Prop where
  | same (h : outcome.1.db = db)
  | registered (rows : Registration) (h : db.register rows = .ok outcome.1.db)
      (reply : SelfServiceReply) (hreply : outcome.2 = some (.ok reply))
  | issued (code : EmailCodeRow) (h : db.insertCode code = .ok outcome.1.db)
      (reply : SelfServiceReply) (hreply : outcome.2 = some (.ok reply))
  | accepted (guess : Guess) (user : TenantUserRow) (codeId : Uuid)
      (h : outcome.1.db = db.acceptGuess guess user codeId)
      (reply : SelfServiceReply) (hreply : outcome.2 = some (.ok reply))

theorem dbEffect_step (w : SelfServiceWorld) (env : SelfServiceEnv) (op : SelfServiceOp) :
    DbEffect w.db (w.step env op) := by
  cases op with
  | start call request =>
      unfold SelfServiceWorld.step SelfServiceWorld.start
      dsimp only
      split
      · split <;> exact .same rfl
      · exact .same rfl
  | selectUser call =>
      unfold SelfServiceWorld.step SelfServiceWorld.selectUser
      dsimp only
      split
      · split <;> exact .same rfl
      · split <;> exact .same rfl
      · exact .same rfl
  | selectCode call codeId =>
      unfold SelfServiceWorld.step SelfServiceWorld.selectCode
      dsimp only
      split
      · split
        · split <;> exact .same rfl
        · exact .same rfl
      · exact .same rfl
  | lockCode call =>
      unfold SelfServiceWorld.step SelfServiceWorld.lockCode
      dsimp only
      split
      · split
        · exact .same rfl
        · exact .same rfl
        · split <;> exact .same rfl
      · exact .same rfl
  | commit call =>
      unfold SelfServiceWorld.step SelfServiceWorld.commit
      dsimp only
      split
      · split
        · exact .same rfl
        · rename_i rows _ _ db hdb
          exact .registered rows hdb _ rfl
      · split
        · exact .same rfl
        · rename_i code _ _ _ db hdb
          exact .issued code hdb _ rfl
      · rename_i guess user row hflight
        exact .accepted guess user row.id rfl _ rfl
      · exact .same rfl
  | abort call err =>
      unfold SelfServiceWorld.step SelfServiceWorld.abort
      dsimp only
      split <;> exact .same rfl

theorem users_step_of_not_ok (w : SelfServiceWorld) (env : SelfServiceEnv) (op : SelfServiceOp)
    (h : ∀ reply, (w.step env op).2 ≠ some (.ok reply)) :
    (w.step env op).1.db.users = w.db.users := by
  cases w.dbEffect_step env op with
  | same hdb => rw [hdb]
  | registered _ _ reply hreply => exact absurd hreply (h reply)
  | issued _ _ reply hreply => exact absurd hreply (h reply)
  | accepted _ _ _ _ reply hreply => exact absurd hreply (h reply)

/-! ## Runs -/

/-- Codes stand up to guessing: a code is compared after fewer misses than its limit only, and
so missed at most that often; each accepted code is accepted once and was its user's own,
unexpired and newest; and a step that does not end a call well changes no user. -/
structure ResistsGuessing (env : SelfServiceEnv) (w : SelfServiceWorld) : Prop where
  refused : WithinLimit w.attempts
  bounded : ∀ c ∈ w.db.codes, (misses w.attempts c.id : Int) ≤ c.maxAttempts
  once : (w.accepted.map (·.row.id)).Nodup
  justified : ∀ a ∈ w.accepted, a.Justified
  failures : ∀ op, (∀ reply, (w.step env op).2 ≠ some (.ok reply)) →
    (w.step env op).1.db.users = w.db.users

theorem Sound.resistsGuessing (h : w.Sound) (env : SelfServiceEnv) :
    w.ResistsGuessing env where
  refused := h.within
  bounded := by
    intro c hc
    have hlimit := h.valid.limits c hc
    have hmisses : misses w.attempts c.id ≤ c.maxAttempts.toNat := by
      apply h.within.misses_le
      intro a ha htarget
      rcases h.targets a ha with ⟨d, hd, hid, hmax⟩
      have hsame : d = c := List.inj_on_of_nodup_map h.valid.ids hd hc (hid.trans htarget)
      rw [← hmax, hsame]
      exact Int.self_le_toNat _
    omega
  once := h.once
  justified := h.justified
  failures := w.users_step_of_not_ok env

/-- The service as it starts on a database. -/
def initial (db : SelfServiceDb) : SelfServiceWorld where
  db := db
  locks := fun _ => none
  flights := fun _ => .idle
  attempts := []
  accepted := []

theorem sound_initial (h : db.Valid) : (initial db).Sound where
  valid := h
  flights := fun _ => trivial
  targets := fun _ ha => absurd ha List.not_mem_nil
  within := trivial
  once := List.nodup_nil
  spent := fun _ ha => absurd ha List.not_mem_nil
  justified := fun _ ha => absurd ha List.not_mem_nil

/-- The state after a run. -/
def after (env : SelfServiceEnv) (w : SelfServiceWorld) (ops : List SelfServiceOp) :
    SelfServiceWorld :=
  Machine.run (fun w op => (w.step env op).1) w ops

end SelfServiceWorld

end CodexPool
