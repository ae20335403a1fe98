import FinylDcp.Fences
import FinylDcp.OneTimeCodes

/-!
# Signing in

The password leg of a sign-in on one account: the lock, the comparison, the failure count, and
the tenant's fences before anything is handed out.
-/
namespace FinylDcp

/-- `hash_password` -/
def hashPassword [Bcrypt] (password : String) : String := Bcrypt.hashpw password

/-- `verify_password`, for a text without the NUL characters that `passlib` refuses. -/
def verifyPassword [Bcrypt] (plain hashed : String) : Bool := Bcrypt.checkpw plain hashed

/-- The columns of a user that signing in and sessions use. -/
structure UserAccount where
  email : String
  hashedPassword : String
  role : String
  tenantId : Option ℕ
  active : Bool
  isLocked : Bool
  forcePasswordReset : Bool
  failedLoginAttempts : ℕ
  lockedUntil : Option ℤ
  tokenVersion : ℕ
  deriving DecidableEq

def maxFailedAttempts : ℕ := 5

def lockoutMinutes : ℤ := 15

/-- The temporary lock still runs. -/
def UserAccount.lockRuns (user : UserAccount) (now : ℤ) : Bool :=
  match user.lockedUntil with
  | none => false
  | some lockedUntil => now < lockedUntil

/-- `_is_locked`: an administrator's lock, or a temporary one that still runs. -/
def UserAccount.lockedAt (user : UserAccount) (now : ℤ) : Bool :=
  user.isLocked || user.lockRuns now

/-- The second factor is asked for. -/
def stepUp (role : String) (config : Option SecurityConfig) : Bool :=
  match config with
  | none => false
  | some cfg => cfg.requireOtp && role ≠ "super_admin"

structure LoginAttempt where
  now : ℤ
  password : String
  config : Option SecurityConfig
  surroundings : Surroundings
  deriving DecidableEq

inductive LoginReply
  | locked
  | invalid
  | disabled
  | fenced (failure : Failure)
  | otpRequired
  | granted
  deriving DecidableEq

/-- The password comparison of an attempt, if it came to one. -/
def LoginReply.compared : LoginReply → Option Bool
  | .locked => none
  | .invalid => some false
  | _ => some true

/-- The attempt succeeds: a token, or the challenge for the second factor. -/
def LoginReply.succeeds : LoginReply → Bool
  | .otpRequired => true
  | .granted => true
  | _ => false

/-- The account after a wrong password. -/
def UserAccount.countFailure (user : UserAccount) (now : ℤ) : UserAccount :=
  let failed := user.failedLoginAttempts + 1
  { user with
    failedLoginAttempts := failed
    lockedUntil := if maxFailedAttempts ≤ failed then some (now + lockoutMinutes * minute)
      else user.lockedUntil }

def UserAccount.clearFailures (user : UserAccount) : UserAccount :=
  { user with failedLoginAttempts := 0, lockedUntil := none }

section Login

variable [Bcrypt] [Geography]

/-- `_login` on the account that the email belongs to. The right password clears the counters
before any fence is looked at. -/
def UserAccount.login (user : UserAccount) (attempt : LoginAttempt) :
    LoginReply × UserAccount :=
  if user.lockedAt attempt.now then (.locked, user)
  else if !verifyPassword attempt.password user.hashedPassword then
    (.invalid, user.countFailure attempt.now)
  else if !user.active then (.disabled, user)
  else
    let user := user.clearFailures
    match enforceLoginFences user.role attempt.config attempt.now attempt.surroundings with
    | .error failure => (.fenced failure, user)
    | .ok () =>
      if stepUp user.role attempt.config then (.otpRequired, user) else (.granted, user)

variable (user : UserAccount) (attempt : LoginAttempt)

theorem login_of_locked (h : user.lockedAt attempt.now = true) :
    user.login attempt = (.locked, user) := by
  rw [UserAccount.login, if_pos h]

/-- What an attempt comes to: the lock, a wrong password, a disabled account, or the right
password, which clears the count. -/
theorem login_cases :
    (user.lockedAt attempt.now = true ∧ user.login attempt = (.locked, user)) ∨
    (user.lockedAt attempt.now = false ∧
      user.login attempt = (.invalid, user.countFailure attempt.now)) ∨
    (user.lockedAt attempt.now = false ∧ user.login attempt = (.disabled, user)) ∨
    (user.lockedAt attempt.now = false ∧ user.active = true ∧
      (user.login attempt).1.compared = some true ∧
      (user.login attempt).2 = user.clearFailures) := by
  unfold UserAccount.login
  split_ifs with hlocked hwrong hactive
  · exact .inl ⟨hlocked, rfl⟩
  · exact .inr (.inl ⟨Bool.eq_false_iff.mpr hlocked, rfl⟩)
  · exact .inr (.inr (.inl ⟨Bool.eq_false_iff.mpr hlocked, rfl⟩))
  · refine .inr (.inr (.inr ⟨Bool.eq_false_iff.mpr hlocked, by simpa using hactive, ?_⟩))
    dsimp only
    split
    · exact ⟨rfl, rfl⟩
    · split_ifs
      · exact ⟨rfl, rfl⟩
      · exact ⟨rfl, rfl⟩

end Login

end FinylDcp
