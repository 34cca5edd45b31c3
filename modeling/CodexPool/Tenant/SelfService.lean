import CodexPool.Basic
import CodexPool.Lib.Attempts
import CodexPool.Lib.Keyed
import CodexPool.Lib.Text
import Mathlib.Logic.Function.Basic

/-!
# Tenant self-service

A tenant registers, verifies an email address, asks for a reset code and resets a password.
Each call is a transaction. Its statements are separate steps, so that calls may overlap in any
order: a statement reads what is committed, a row that is selected for an update is locked until
the transaction ends, and what a transaction has written is applied when it is committed and
dropped when it is not.
-/

namespace CodexPool

/-! ## Tables -/

inductive CodePurpose where
  | emailVerify
  | passwordReset
deriving DecidableEq

/-- A row of `tenants` with the columns that are written here. -/
structure SelfServiceTenantRow where
  id : Uuid
  name : String
  status : String
  plan : String
  expiresAt : Option DateTime
  createdAt : DateTime
  updatedAt : DateTime

structure TenantUserRow where
  id : Uuid
  tenantId : Uuid
  email : String
  passwordHash : String
  emailVerified : Bool
  enabled : Bool
  createdAt : DateTime
  updatedAt : DateTime

structure TenantCreditAccountRow where
  tenantId : Uuid
  balanceMicrocredits : Int
  updatedAt : DateTime

/-- A row of `tenant_email_verification_codes`. -/
structure EmailCodeRow where
  id : Uuid
  tenantId : Uuid
  tenantUserId : Uuid
  purpose : CodePurpose
  codeHash : String
  expiresAt : DateTime
  consumedAt : Option DateTime
  attemptCount : Int
  maxAttempts : Int
  createdAt : DateTime

structure SelfServiceDb where
  tenants : List SelfServiceTenantRow
  users : List TenantUserRow
  creditAccounts : List TenantCreditAccountRow
  codes : List EmailCodeRow

/-- The libraries' hashes and the setting of the service. -/
structure SelfServiceEnv where
  sha256Hex : String → String
  bcryptHash : String → String → Result String
  exposeDebugCode : Bool

/-! ## Requests -/

structure TenantRegisterRequest where
  tenantName : String
  email : String
  password : String

structure TenantRegisterResponse where
  tenantId : Uuid
  userId : Uuid
  requiresEmailVerification : Bool
  debugCode : Option String

structure TenantVerifyEmailRequest where
  email : String
  code : String

structure TenantResetPasswordRequest where
  email : String
  code : String
  newPassword : String

structure CodeDraw where
  id : Uuid
  number : Fin 1000000
  now : DateTime

structure RegisterDraw where
  tenantId : Uuid
  tenantUserId : Uuid
  salt : String
  code : CodeDraw

inductive SelfServiceCall where
  | register (req : TenantRegisterRequest) (draw : RegisterDraw)
  | verifyEmail (req : TenantVerifyEmailRequest) (now : DateTime)
  | forgotPassword (email : String) (draw : CodeDraw)
  | resetPassword (req : TenantResetPasswordRequest) (salt : String) (now : DateTime)

inductive SelfServiceReply where
  | registered (response : TenantRegisterResponse)
  | emailVerified
  | resetRequested (debugCode : Option String)
  | passwordReset

def normalizeEmail (raw : String) : Result String :=
  let normalized := Text.toAsciiLowercase (Text.trim raw)
  if normalized = "" ∨ '@' ∉ normalized.toList ∨ 320 < normalized.utf8ByteSize then
    .error "invalid email"
  else .ok normalized

def validatePassword (password : String) : Result Unit :=
  if password.utf8ByteSize < 8 then .error "password must be at least 8 characters" else .ok ()

/-- Six digits. -/
def emailCode (number : Fin 1000000) : String :=
  String.ofList (List.leftpad 6 '0' (Nat.toDigits 10 number))

/-! ## Codes -/

/-- The row that `insert_code_inner` inserts; the last columns have their defaults. -/
def codeRow (env : SelfServiceEnv) (tenantId tenantUserId : Uuid) (purpose : CodePurpose)
    (lifetime : Int) (draw : CodeDraw) : EmailCodeRow where
  id := draw.id
  tenantId := tenantId
  tenantUserId := tenantUserId
  purpose := purpose
  codeHash := env.sha256Hex (emailCode draw.number)
  expiresAt := draw.now + lifetime
  consumedAt := none
  attemptCount := 0
  maxAttempts := 8
  createdAt := draw.now

namespace EmailCodeRow

/-- The code may still be compared with a guess. -/
def live (row : EmailCodeRow) (now : DateTime) : Bool :=
  !(row.consumedAt.isSome || row.expiresAt ≤ now || row.maxAttempts ≤ row.attemptCount)

/-- What `consume_code_inner` answers once it has locked the row, and the row as its
transaction has written it. -/
def consumeCodeInner (row : EmailCodeRow) (codeHash : String) (now : DateTime) :
    Result Unit × EmailCodeRow :=
  if !row.live now then (.error "email or code is invalid", row)
  else if row.codeHash ≠ codeHash then
    (.error "email or code is invalid", { row with attemptCount := row.attemptCount + 1 })
  else (.ok (), { row with consumedAt := some now })

end EmailCodeRow

namespace SelfServiceDb

/-- No code of the same user and purpose was created later. -/
def Newest (db : SelfServiceDb) (row : EmailCodeRow) : Prop :=
  ∀ c ∈ db.codes, c.tenantUserId = row.tenantUserId → c.purpose = row.purpose →
    c.createdAt ≤ row.createdAt

instance (db : SelfServiceDb) (row : EmailCodeRow) : Decidable (db.Newest row) :=
  inferInstanceAs (Decidable (∀ c ∈ db.codes, _ → _ → _))

def code? (db : SelfServiceDb) (id : Uuid) : Option EmailCodeRow :=
  Keyed.lookupBy EmailCodeRow.id db.codes id

/-- One of the rows that the query for the newest code of a user may answer. -/
def newestCode? (db : SelfServiceDb) (tenantUserId : Uuid) (purpose : CodePurpose) (id : Uuid) :
    Option EmailCodeRow :=
  (db.code? id).filter fun row =>
    row.tenantUserId = tenantUserId ∧ row.purpose = purpose ∧ db.Newest row

def hasCode (db : SelfServiceDb) (tenantUserId : Uuid) (purpose : CodePurpose) : Bool :=
  db.codes.any fun row => row.tenantUserId = tenantUserId ∧ row.purpose = purpose

end SelfServiceDb

/-! ## Calls in flight -/

inductive GuessKind where
  | verifyEmail
  | resetPassword (newPasswordHash : String)

def GuessKind.purpose : GuessKind → CodePurpose
  | verifyEmail => .emailVerify
  | resetPassword _ => .passwordReset

/-- A call that has to name a code, after its request has been checked. -/
structure Guess where
  kind : GuessKind
  email : String
  codeHash : String
  now : DateTime

structure Registration where
  tenant : SelfServiceTenantRow
  user : TenantUserRow
  account : TenantCreditAccountRow
  code : EmailCodeRow
  response : TenantRegisterResponse

/-- How far a call has come. -/
inductive Flight where
  | idle
  | registering (rows : Registration)
  | forgetting (email : String) (draw : CodeDraw)
  | issuing (code : EmailCodeRow) (debugCode : Option String)
  | guessing (guess : Guess)
  | found (guess : Guess) (user : TenantUserRow)
  | selected (guess : Guess) (user : TenantUserRow) (codeId : Uuid)
  | consumed (guess : Guess) (user : TenantUserRow) (row : EmailCodeRow)

/-- An accepted code: the call, the user, the row before it was consumed, and the codes that
were committed when the call was. -/
structure AcceptedCode where
  guess : Guess
  user : TenantUserRow
  row : EmailCodeRow
  codes : List EmailCodeRow

/-- The committed tables, the locked rows and the calls in flight. `attempts` and `accepted` are
not stored: they list the comparisons of a code with a guess and the accepted codes, the latest
first. -/
structure SelfServiceWorld where
  db : SelfServiceDb
  locks : Uuid → Option Nat
  flights : Nat → Flight
  attempts : List (Trial Uuid)
  accepted : List AcceptedCode

def registration (env : SelfServiceEnv) (draw : RegisterDraw) (tenantName email passwordHash :
    String) : Registration where
  tenant :=
    { id := draw.tenantId, name := tenantName, status := "active", plan := "credit"
      expiresAt := none, createdAt := draw.code.now, updatedAt := draw.code.now }
  user :=
    { id := draw.tenantUserId, tenantId := draw.tenantId, email, passwordHash
      emailVerified := false, enabled := true
      createdAt := draw.code.now, updatedAt := draw.code.now }
  account :=
    { tenantId := draw.tenantId, balanceMicrocredits := 0, updatedAt := draw.code.now }
  code := codeRow env draw.tenantId draw.tenantUserId .emailVerify (seconds 900) draw.code
  response :=
    { tenantId := draw.tenantId, userId := draw.tenantUserId, requiresEmailVerification := true
      debugCode := if env.exposeDebugCode then some (emailCode draw.code.number) else none }

/-- What a call does before its first statement. -/
def SelfServiceCall.start (env : SelfServiceEnv) : SelfServiceCall → Result Flight
  | .register req draw => do
    let tenantName := Text.trim req.tenantName
    if tenantName = "" then .error "tenant_name must not be empty"
    else
      let email ← normalizeEmail req.email
      validatePassword req.password
      let passwordHash ← env.bcryptHash draw.salt req.password
      pure (.registering (registration env draw tenantName email passwordHash))
  | .verifyEmail req now => do
    let email ← normalizeEmail req.email
    pure (.guessing
      { kind := .verifyEmail, email, codeHash := env.sha256Hex (Text.trim req.code), now })
  | .forgotPassword email draw => do
    let email ← normalizeEmail email
    pure (.forgetting email draw)
  | .resetPassword req salt now => do
    let email ← normalizeEmail req.email
    validatePassword req.newPassword
    let newPasswordHash ← env.bcryptHash salt req.newPassword
    pure (.guessing
      { kind := .resetPassword newPasswordHash, email
        codeHash := env.sha256Hex (Text.trim req.code), now })

namespace SelfServiceDb

/-- The user that a call is about. A user who is not enabled may still verify an address. -/
def guessedUser? (db : SelfServiceDb) (guess : Guess) : Option TenantUserRow :=
  db.users.find? fun user =>
    match guess.kind with
    | .verifyEmail => user.email = guess.email
    | .resetPassword _ => user.email = guess.email ∧ user.enabled

def enabledUser? (db : SelfServiceDb) (email : String) : Option TenantUserRow :=
  db.users.find? fun user => user.email = email ∧ user.enabled

/-- Inserts the rows of a registration, unless one of them is there already. -/
def register (db : SelfServiceDb) (rows : Registration) : Result SelfServiceDb :=
  if rows.tenant.id ∈ db.tenants.map (·.id) then .error "failed to create tenant"
  else if rows.user.id ∈ db.users.map (·.id) ∨ rows.user.email ∈ db.users.map (·.email) then
    .error "failed to create tenant user"
  else if rows.account.tenantId ∈ db.creditAccounts.map (·.tenantId) then
    .error "failed to initialize tenant credit account"
  else if rows.code.id ∈ db.codes.map (·.id) then
    .error "failed to insert tenant email verification code"
  else
    .ok { tenants := db.tenants ++ [rows.tenant]
          users := db.users ++ [rows.user]
          creditAccounts := db.creditAccounts ++ [rows.account]
          codes := db.codes ++ [rows.code] }

def insertCode (db : SelfServiceDb) (code : EmailCodeRow) : Result SelfServiceDb :=
  if code.id ∈ db.codes.map (·.id) ∨ code.tenantUserId ∉ db.users.map (·.id) then
    .error "failed to insert tenant email verification code"
  else .ok { db with codes := db.codes ++ [code] }

def guessUpdate (guess : Guess) (user : TenantUserRow) : TenantUserRow :=
  match guess.kind with
  | .verifyEmail => { user with emailVerified := true, updatedAt := guess.now }
  | .resetPassword newPasswordHash =>
    { user with passwordHash := newPasswordHash, updatedAt := guess.now }

/-- What a call that was given the right code writes. -/
def acceptGuess (db : SelfServiceDb) (guess : Guess) (user : TenantUserRow) (codeId : Uuid) :
    SelfServiceDb where
  tenants := db.tenants.map fun tenant =>
    match guess.kind with
    | .verifyEmail =>
      if tenant.id = user.tenantId then { tenant with updatedAt := guess.now } else tenant
    | .resetPassword _ => tenant
  users := db.users.map fun other => if other.id = user.id then guessUpdate guess other else other
  creditAccounts := db.creditAccounts
  codes := db.codes.map fun row =>
    if row.id = codeId then { row with consumedAt := some guess.now } else row

end SelfServiceDb

/-! ## Steps -/

/-- The statements of the calls, in the order in which a call makes them. A call is known by
its number. -/
inductive SelfServiceOp where
  | start (call : Nat) (request : SelfServiceCall)
  | selectUser (call : Nat)
  | selectCode (call : Nat) (codeId : Uuid)
  | lockCode (call : Nat)
  | commit (call : Nat)
  | abort (call : Nat) (err : String)

namespace SelfServiceWorld

def setFlight (w : SelfServiceWorld) (call : Nat) (flight : Flight) : SelfServiceWorld :=
  { w with flights := Function.update w.flights call flight }

/-- The end of a call. Its locks are released, and what it has not committed is gone. -/
def finish (w : SelfServiceWorld) (call : Nat) : SelfServiceWorld :=
  { w with
    flights := Function.update w.flights call .idle
    locks := fun codeId => (w.locks codeId).filter (· ≠ call) }

abbrev Outcome := SelfServiceWorld × Option (Result SelfServiceReply)

def start (env : SelfServiceEnv) (w : SelfServiceWorld) (call : Nat)
    (request : SelfServiceCall) : Outcome :=
  match w.flights call with
  | .idle =>
    match request.start env with
    | .ok flight => (w.setFlight call flight, none)
    | .error err => (w, some (.error err))
  | _ => (w, none)

def selectUser (env : SelfServiceEnv) (w : SelfServiceWorld) (call : Nat) : Outcome :=
  match w.flights call with
  | .forgetting email draw =>
    match w.db.enabledUser? email with
    | none => (w.finish call, some (.ok (.resetRequested none)))
    | some user =>
      let code := codeRow env user.tenantId user.id .passwordReset (seconds 600) draw
      let debugCode := if env.exposeDebugCode then some (emailCode draw.number) else none
      (w.setFlight call (.issuing code debugCode), none)
  | .guessing guess =>
    match w.db.guessedUser? guess with
    | none => (w.finish call, some (.error "email or code is invalid"))
    | some user => (w.setFlight call (.found guess user), none)
  | _ => (w, none)

/-- The query for the newest code answers one of the rows with the latest time, or none when
there is no row. -/
def selectCode (w : SelfServiceWorld) (call : Nat) (codeId : Uuid) : Outcome :=
  match w.flights call with
  | .found guess user =>
    if w.db.hasCode user.id guess.kind.purpose then
      match w.db.newestCode? user.id guess.kind.purpose codeId with
      | none => (w, none)
      | some row => (w.setFlight call (.selected guess user row.id), none)
    else (w.finish call, some (.error "email or code is invalid"))
  | _ => (w, none)

/-- A comparison is made on a live code only. -/
def attempted (w : SelfServiceWorld) (row : EmailCodeRow) (guess : Guess) :
    List (Trial Uuid) :=
  if row.live guess.now then
    { target := row.id, limit := row.maxAttempts, hit := row.codeHash = guess.codeHash } ::
      w.attempts
  else w.attempts

/-- The row is read again when its lock is granted. When the code is refused, the caller returns
the error without a commit: the row as the transaction has written it is dropped. -/
def lockCode (w : SelfServiceWorld) (call : Nat) : Outcome :=
  match w.flights call with
  | .selected guess user codeId =>
    match w.locks codeId, w.db.code? codeId with
    | some _, _ => (w, none)
    | none, none => (w.finish call, some (.error "email or code is invalid"))
    | none, some row =>
      let w' := { w with attempts := w.attempted row guess }
      match row.consumeCodeInner guess.codeHash guess.now with
      | (.error err, _) => (w'.finish call, some (.error err))
      | (.ok (), _) =>
        ({ w'.setFlight call (.consumed guess user row) with
            locks := Function.update w.locks codeId (some call) }, none)
  | _ => (w, none)

def commit (w : SelfServiceWorld) (call : Nat) : Outcome :=
  match w.flights call with
  | .registering rows =>
    match w.db.register rows with
    | .error err => (w.finish call, some (.error err))
    | .ok db => ({ w.finish call with db }, some (.ok (.registered rows.response)))
  | .issuing code debugCode =>
    match w.db.insertCode code with
    | .error err => (w.finish call, some (.error err))
    | .ok db => ({ w.finish call with db }, some (.ok (.resetRequested debugCode)))
  | .consumed guess user row =>
    ({ w.finish call with
        db := w.db.acceptGuess guess user row.id
        accepted := { guess, user, row, codes := w.db.codes } :: w.accepted },
      some (.ok (match guess.kind with
        | .verifyEmail => .emailVerified
        | .resetPassword _ => .passwordReset)))
  | _ => (w, none)

/-- A statement fails, or the call is dropped. -/
def abort (w : SelfServiceWorld) (call : Nat) (err : String) : Outcome :=
  match w.flights call with
  | .idle => (w, none)
  | _ => (w.finish call, some (.error err))

def step (env : SelfServiceEnv) (w : SelfServiceWorld) : SelfServiceOp → Outcome
  | .start call request => w.start env call request
  | .selectUser call => w.selectUser env call
  | .selectCode call codeId => w.selectCode call codeId
  | .lockCode call => w.lockCode call
  | .commit call => w.commit call
  | .abort call err => w.abort call err

end SelfServiceWorld

end CodexPool
