import CodexPool.Lib.Machine
import CodexPool.Lib.SlidingWindow
import CodexPool.Tenant.SelfService

/-!
# Failed logins

A login is refused when its email and client address have failed too often within a window. The
check takes the lock of the failures once, and the failure is recorded under the lock taken again,
after a query and the verification of a password, so that calls which overlap do not see each
other's failures. What the database answers and what the verification yields are inputs; each step
takes place at one reading of the clock.
-/

namespace CodexPool

/-- The part of `TenantAuthService` that throttles logins. The limit is one at least. -/
structure LoginLimits where
  loginRateLimitWindow : Nat
  loginRateLimitMaxAttempts : Nat
  maxAttempts_pos : 1 ≤ loginRateLimitMaxAttempts

/-- What `login` reads of a row of `tenant_users`. -/
structure LoginUserRow where
  enabled : Bool
  emailVerified : Bool

/-- A call of `login`, with the email that it has normalized. -/
structure LoginCall where
  id : Nat
  email : String
  requestIp : Option String
deriving DecidableEq

def LoginCall.key (call : LoginCall) : String := call.email ++ "|" ++ call.requestIp.getD "-"

/-- The recorded failures, the calls by how far they are, and what has happened: the verifications
that have failed and the logins that have succeeded, with their times. -/
structure LoginWorld where
  now : Nat
  attempts : String → List Nat
  admitted : List LoginCall
  verifying : List LoginCall
  failing : List LoginCall
  succeeding : List LoginCall
  failures : List (String × Nat)
  successes : List (String × Nat)

inductive LoginEvent where
  | check (id : Nat) (email : String) (requestIp : Option String)
  | query (call : LoginCall) (row : Option LoginUserRow)
  | verify (call : LoginCall) (outcome : Option Bool)
  | record (call : LoginCall)
  | finish (call : LoginCall) (updated : Bool)
  | abort (call : LoginCall)

/-- An event some time after the last one. -/
structure LoginStep where
  delay : Nat
  event : LoginEvent

namespace LoginWorld

def initial : LoginWorld := ⟨0, fun _ => [], [], [], [], [], [], []⟩

variable (limits : LoginLimits) (w : LoginWorld)

/-- The failures of a bucket that are not older than the window. -/
def retained (key : String) : List Nat :=
  (w.attempts key).filter fun attempt => w.now - attempt ≤ limits.loginRateLimitWindow

def isRateLimited (key : String) : Bool × LoginWorld :=
  let bucket := w.retained limits key
  (limits.loginRateLimitMaxAttempts ≤ bucket.length,
    { w with attempts := Function.update w.attempts key bucket })

def recordLoginFailure (key : String) : LoginWorld :=
  { w with attempts := Function.update w.attempts key (w.attempts key ++ [w.now]) }

def clearLoginFailures (key : String) : LoginWorld :=
  { w with
    attempts := Function.update w.attempts key []
    successes := (key, w.now) :: w.successes }

/-- The start of a call. -/
def check (call : LoginCall) : LoginWorld :=
  let result := w.isRateLimited limits call.key
  if result.1 then result.2 else { result.2 with admitted := call :: w.admitted }

/-- The next step of a call; a step that its call is not ready for is none. -/
def handle : LoginEvent → LoginWorld
  | .check id rawEmail requestIp =>
    match normalizeEmail rawEmail with
    | .error _ => w
    | .ok email => w.check limits ⟨id, email, requestIp⟩
  | .query call row =>
    if call ∈ w.admitted then
      let w := { w with admitted := w.admitted.erase call }
      match row with
      | none => { w with failing := call :: w.failing }
      | some row =>
        if !row.enabled || !row.emailVerified then { w with failing := call :: w.failing }
        else { w with verifying := call :: w.verifying }
    else w
  | .verify call outcome =>
    if call ∈ w.verifying then
      let w := { w with verifying := w.verifying.erase call }
      match outcome with
      | none => w
      | some false =>
        { w with failing := call :: w.failing, failures := (call.key, w.now) :: w.failures }
      | some true => { w with succeeding := call :: w.succeeding }
    else w
  | .record call =>
    if call ∈ w.failing then
      { w with failing := w.failing.erase call }.recordLoginFailure call.key
    else w
  | .finish call updated =>
    if call ∈ w.succeeding then
      let w := { w with succeeding := w.succeeding.erase call }
      if updated then w.clearLoginFailures call.key else w
    else w
  | .abort call => if call ∈ w.admitted then { w with admitted := w.admitted.erase call } else w

def later (delay : Nat) : LoginWorld := { w with now := w.now + delay }

def step (s : LoginStep) : LoginWorld := (w.later s.delay).handle limits s.event

def failureTimes (key : String) : List Nat := (w.failures.filter (·.1 = key)).map Prod.snd

/-- In every interval as long as the window that has no successful login, the limit is kept to. -/
def Throttled : Prop :=
  ∀ key start,
    (∀ success ∈ w.successes, success.1 = key →
      ¬ (start ≤ success.2 ∧ success.2 ≤ start + limits.loginRateLimitWindow)) →
    ((w.failureTimes key).filter fun t =>
      start ≤ t && t ≤ start + limits.loginRateLimitWindow).length ≤
        limits.loginRateLimitMaxAttempts

/-- The calls that are past the check and have neither verified a password nor recorded a failure.
-/
def unsettled (key : String) : Nat :=
  w.admitted.countP (·.key = key) + w.verifying.countP (·.key = key) +
    w.failing.countP (·.key = key)

/-- A call that is let through finds less failures and unsettled calls than the limit. -/
def HasRoom (call : LoginCall) : Prop :=
  (w.isRateLimited limits call.key).1 = false →
    (w.retained limits call.key).length + w.unsettled call.key <
      limits.loginRateLimitMaxAttempts

def Roomy (s : LoginStep) : Prop :=
  match s.event with
  | .check id rawEmail requestIp =>
    ∀ email, normalizeEmail rawEmail = .ok email →
      (w.later s.delay).HasRoom limits ⟨id, email, requestIp⟩
  | _ => True

/-! ## The attempts for one key -/

/-- The calls for one key, as attempts under a limit over a sliding window. -/
def view (key : String) : SlidingWindow.State where
  now := w.now
  recorded := w.attempts key
  waiting := w.admitted.countP (·.key = key) + w.verifying.countP (·.key = key)
  unrecorded := w.failing.countP (·.key = key)
  failures := w.failureTimes key
  resets := (w.successes.filter (·.1 = key)).map Prod.snd

end LoginWorld

section Counts

variable {key : String} {call : LoginCall} {calls : List LoginCall}

theorem countP_erase_key (hmem : call ∈ calls) (hkey : call.key = key) :
    (calls.erase call).countP (·.key = key) + 1 = calls.countP (·.key = key) := by
  have hpos : 0 < calls.countP (·.key = key) :=
    List.countP_pos_iff.2 ⟨call, hmem, by simpa using hkey⟩
  rw [List.countP_erase, if_pos ⟨hmem, by simpa using hkey⟩]
  omega

theorem countP_erase_other (hkey : call.key ≠ key) :
    (calls.erase call).countP (·.key = key) = calls.countP (·.key = key) := by
  rw [List.countP_erase, if_neg (by simp [hkey]), Nat.sub_zero]

theorem countP_cons_key (hkey : call.key = key) :
    (call :: calls).countP (·.key = key) = calls.countP (·.key = key) + 1 :=
  List.countP_cons_of_pos (by simpa using hkey)

theorem countP_cons_other (hkey : call.key ≠ key) :
    (call :: calls).countP (·.key = key) = calls.countP (·.key = key) :=
  List.countP_cons_of_neg (by simpa using hkey)

end Counts

namespace LoginWorld

variable {limits : LoginLimits} {w : LoginWorld} {key : String} {now : Nat}

/-- The moves of the attempts for a key under the limits. -/
abbrev Moves (limits : LoginLimits) : SlidingWindow.State → SlidingWindow.State → Prop :=
  Relation.ReflTransGen
    (SlidingWindow.Move limits.loginRateLimitWindow limits.loginRateLimitMaxAttempts)

theorem Moves.single {s s' t : SlidingWindow.State}
    (h : SlidingWindow.Move limits.loginRateLimitWindow limits.loginRateLimitMaxAttempts s t)
    (heq : s' = t) : Moves limits s s' :=
  Relation.ReflTransGen.single (heq ▸ h)

theorem Moves.of_eq {s s' : SlidingWindow.State} (heq : s' = s) : Moves limits s s' :=
  heq ▸ .refl

theorem moves_later (delay : Nat) : Moves limits (w.view key) ((w.later delay).view key) :=
  Moves.single (.pass (w.view key) delay) rfl

theorem moves_check {call : LoginCall} (h : w.HasRoom limits call) :
    Moves limits (w.view key) ((w.check limits call).view key) := by
  have hprune : Moves limits (w.view key) ((w.isRateLimited limits call.key).2.view key) := by
    by_cases hkey : call.key = key
    · subst hkey
      apply Moves.single (.prune _)
      simp [view, isRateLimited, retained, failureTimes]
    · apply Moves.of_eq
      simp [view, isRateLimited, failureTimes, Function.update_of_ne (Ne.symm hkey)]
  rw [check]
  dsimp only
  split
  · exact hprune
  · rename_i hfree
    apply hprune.trans
    by_cases hkey : call.key = key
    · subst hkey
      have hroom := h (by simpa using hfree)
      apply Moves.single (.enter _ _)
      · simp only [view, isRateLimited, failureTimes, countP_cons_key rfl,
          SlidingWindow.State.mk.injEq]
        refine ⟨trivial, trivial, ?_, trivial, trivial, trivial⟩
        omega
      · simpa [view, isRateLimited, unsettled, Nat.add_assoc] using hroom
    · apply Moves.of_eq
      simp [view, isRateLimited, failureTimes, countP_cons_other hkey]

section Calls

variable {call : LoginCall}

theorem moves_refuse (hmem : call ∈ w.admitted) :
    Moves limits (w.view key) (LoginWorld.view { w with
      admitted := w.admitted.erase call, failing := call :: w.failing } key) := by
  by_cases hkey : call.key = key
  · have hcount := countP_erase_key hmem hkey
    apply Moves.single (.refuse _ _)
    · simp only [view, failureTimes, countP_cons_key hkey, SlidingWindow.State.mk.injEq]
      refine ⟨trivial, trivial, ?_, trivial, trivial, trivial⟩
      omega
    · dsimp only [view]
      omega
  · apply Moves.of_eq
    simp [view, failureTimes, countP_erase_other hkey, countP_cons_other hkey]

theorem moves_verifying (hmem : call ∈ w.admitted) :
    Moves limits (w.view key) (LoginWorld.view { w with
      admitted := w.admitted.erase call, verifying := call :: w.verifying } key) := by
  apply Moves.of_eq
  by_cases hkey : call.key = key
  · have hcount := countP_erase_key hmem hkey
    simp only [view, failureTimes, countP_cons_key hkey, SlidingWindow.State.mk.injEq]
    refine ⟨trivial, trivial, ?_, trivial, trivial, trivial⟩
    omega
  · simp [view, failureTimes, countP_erase_other hkey, countP_cons_other hkey]

theorem moves_leave_admitted (hmem : call ∈ w.admitted) :
    Moves limits (w.view key)
      (LoginWorld.view { w with admitted := w.admitted.erase call } key) := by
  by_cases hkey : call.key = key
  · have hcount := countP_erase_key hmem hkey
    apply Moves.single (.leave _ _)
    · simp only [view, failureTimes, SlidingWindow.State.mk.injEq]
      refine ⟨trivial, trivial, ?_, trivial, trivial, trivial⟩
      omega
    · dsimp only [view]
      omega
  · apply Moves.of_eq
    simp [view, failureTimes, countP_erase_other hkey]

theorem moves_leave_verifying (hmem : call ∈ w.verifying) (succeeding : List LoginCall) :
    Moves limits (w.view key) (LoginWorld.view { w with
      verifying := w.verifying.erase call, succeeding } key) := by
  by_cases hkey : call.key = key
  · have hcount := countP_erase_key hmem hkey
    apply Moves.single (.leave _ _)
    · simp only [view, failureTimes, SlidingWindow.State.mk.injEq]
      refine ⟨trivial, trivial, ?_, trivial, trivial, trivial⟩
      omega
    · dsimp only [view]
      omega
  · apply Moves.of_eq
    simp [view, failureTimes, countP_erase_other hkey]

theorem moves_fail (hmem : call ∈ w.verifying) :
    Moves limits (w.view key) (LoginWorld.view { w with
      verifying := w.verifying.erase call, failing := call :: w.failing
      failures := (call.key, w.now) :: w.failures } key) := by
  by_cases hkey : call.key = key
  · have hcount := countP_erase_key hmem hkey
    apply Moves.single (.fail _ _)
    · simp only [view, failureTimes, countP_cons_key hkey, SlidingWindow.State.mk.injEq]
      refine ⟨trivial, trivial, ?_, trivial, ?_, trivial⟩
      · omega
      · simp [hkey]
    · dsimp only [view]
      omega
  · apply Moves.of_eq
    simp [view, failureTimes, countP_erase_other hkey, countP_cons_other hkey, hkey]

theorem moves_record (hmem : call ∈ w.failing) :
    Moves limits (w.view key) (({ w with
      failing := w.failing.erase call }.recordLoginFailure call.key).view key) := by
  by_cases hkey : call.key = key
  · have hcount := countP_erase_key hmem hkey
    subst hkey
    apply Moves.single (.record _ _)
    · simp only [view, recordLoginFailure, failureTimes, Function.update_self,
        SlidingWindow.State.mk.injEq]
      refine ⟨trivial, trivial, trivial, ?_, trivial, trivial⟩
      omega
    · dsimp only [view]
      omega
  · apply Moves.of_eq
    simp [view, recordLoginFailure, failureTimes, countP_erase_other hkey,
      Function.update_of_ne (Ne.symm hkey)]

theorem moves_clear (succeeding : List LoginCall) :
    Moves limits (w.view key)
      (({ w with succeeding }.clearLoginFailures call.key).view key) := by
  by_cases hkey : call.key = key
  · subst hkey
    apply Moves.single (.reset _)
    simp [view, clearLoginFailures, failureTimes]
  · apply Moves.of_eq
    simp [view, clearLoginFailures, failureTimes, Function.update_of_ne (Ne.symm hkey), hkey]

end Calls

theorem moves_step {s : LoginStep} (h : w.Roomy limits s) :
    Moves limits (w.view key) ((w.step limits s).view key) := by
  obtain ⟨delay, event⟩ := s
  apply (moves_later delay).trans
  cases event with
  | check id rawEmail requestIp =>
      rw [step, handle]
      cases hemail : normalizeEmail rawEmail with
      | error e => exact .refl
      | ok email => exact moves_check (h email hemail)
  | query call row =>
      rw [step, handle]
      split
      · rename_i hmem
        cases row with
        | none => exact moves_refuse hmem
        | some row =>
            dsimp only
            split
            · exact moves_refuse hmem
            · exact moves_verifying hmem
      · exact .refl
  | verify call outcome =>
      rw [step, handle]
      split
      · rename_i hmem
        cases outcome with
        | none => exact moves_leave_verifying hmem _
        | some outcome =>
            cases outcome with
            | false => exact moves_fail hmem
            | true => exact moves_leave_verifying hmem _
      · exact .refl
  | record call =>
      rw [step, handle]
      split
      · rename_i hmem
        exact moves_record hmem
      · exact .refl
  | finish call updated =>
      rw [step, handle]
      split
      · cases updated with
        | false => exact Moves.of_eq rfl
        | true => exact moves_clear _
      · exact .refl
  | abort call =>
      rw [step, handle]
      split
      · rename_i hmem
        exact moves_leave_admitted hmem
      · exact .refl

/-! ## All runs -/

def Kept (limits : LoginLimits) (w : LoginWorld) : Prop :=
  ∀ key, SlidingWindow.Kept limits.loginRateLimitWindow limits.loginRateLimitMaxAttempts
    (w.view key)

theorem Kept.throttled (h : w.Kept limits) : w.Throttled limits := by
  intro key start hsuccess
  have hbounded := (h key).bounded start
  rw [SlidingWindow.inWindow, List.countP_eq_length_filter] at hbounded
  apply hbounded
  intro t ht
  obtain ⟨success, hmem, rfl⟩ := List.mem_map.1 ht
  rw [List.mem_filter, decide_eq_true_eq] at hmem
  exact hsuccess success hmem.1 hmem.2

/-- A caller whose recorded failures are all older than the window is not refused. -/
theorem not_rateLimited_of_old (limits : LoginLimits) (w : LoginWorld)
    (h : ∀ t ∈ w.attempts key, limits.loginRateLimitWindow < w.now - t) :
    (w.isRateLimited limits key).1 = false := by
  have hnone : w.retained limits key = [] := by
    rw [retained, List.filter_eq_nil_iff]
    intro t ht
    rw [decide_eq_true_eq, not_le]
    exact h t ht
  have hpos := limits.maxAttempts_pos
  simp only [isRateLimited, hnone, List.length_nil, decide_eq_false_iff_not]
  omega

/-- In every run in which each call that is let through finds room for all calls on the way, logins
are throttled; and no caller is refused for old failures. -/
theorem throttled_of_roomy (limits : LoginLimits) (steps : List LoginStep)
    (h : Machine.Along (step limits) (Roomy limits) initial steps) :
    (Machine.run (step limits) initial steps).Throttled limits ∧
      ∀ key, (∀ t ∈ (Machine.run (step limits) initial steps).attempts key,
          limits.loginRateLimitWindow < (Machine.run (step limits) initial steps).now - t) →
        ((Machine.run (step limits) initial steps).isRateLimited limits key).1 = false := by
  refine ⟨?_, fun key hold => not_rateLimited_of_old limits _ hold⟩
  apply Kept.throttled
  apply h.invariant (P := Kept limits)
  · intro w s hw hs key
    exact (hw key).moves (moves_step hs)
  · exact fun key => SlidingWindow.kept_initial _ _ 0

/-! ## Two calls at once -/

/-- One failure in five minutes, in milliseconds. -/
def strictLimits : LoginLimits where
  loginRateLimitWindow := 300000
  loginRateLimitMaxAttempts := 1
  maxAttempts_pos := le_rfl

def firstCall : LoginCall := ⟨1, "ann@example.com", none⟩

def secondCall : LoginCall := ⟨2, "ann@example.com", none⟩

/-- Two failures in five minutes. -/
def doubleLimits : LoginLimits where
  loginRateLimitWindow := 300000
  loginRateLimitMaxAttempts := 2
  maxAttempts_pos := by decide

/-- Two calls at once, both with a wrong password, and a third one that is refused. -/
def overlappingFailures : List LoginStep :=
  [⟨1, .check 1 "ann@example.com" none⟩, ⟨1, .check 2 "ann@example.com" none⟩,
    ⟨1, .query firstCall (some ⟨true, true⟩)⟩, ⟨1, .query secondCall (some ⟨true, true⟩)⟩,
    ⟨80, .verify firstCall (some false)⟩, ⟨1, .verify secondCall (some false)⟩,
    ⟨1, .record firstCall⟩, ⟨1, .record secondCall⟩, ⟨1, .check 3 "ann@example.com" none⟩]

theorem overlappingFailures_throttled :
    (Machine.run (step doubleLimits) initial overlappingFailures).Throttled doubleLimits := by
  have hemail {email : String} (h : normalizeEmail "ann@example.com" = .ok email) :
      "ann@example.com" = email := Except.ok.inj h
  have hroomy : Machine.Along (step doubleLimits) (Roomy doubleLimits) initial
      overlappingFailures := by
    refine ⟨fun email h => ?_, fun email h => ?_, trivial, trivial, trivial, trivial, trivial,
      trivial, fun email h => ?_, trivial⟩
    all_goals
      obtain rfl := hemail h
      unfold HasRoom
      decide +kernel
  exact (throttled_of_roomy doubleLimits overlappingFailures hroomy).1

/-- Two calls that are both let through before either has recorded its failure. -/
theorem overlapping_not_throttled :
    ¬ ∀ steps : List LoginStep,
      (Machine.run (step strictLimits) initial steps).Throttled strictLimits := by
  intro h
  have hrun := h [⟨1, .check 1 "ann@example.com" none⟩, ⟨1, .check 2 "ann@example.com" none⟩,
    ⟨1, .query firstCall (some ⟨true, true⟩)⟩, ⟨1, .query secondCall (some ⟨true, true⟩)⟩,
    ⟨80, .verify firstCall (some false)⟩, ⟨1, .verify secondCall (some false)⟩]
    firstCall.key 0 (by decide +kernel)
  exact absurd hrun (by decide +kernel)

end LoginWorld

end CodexPool
