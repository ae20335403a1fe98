import FinylDcp.SignIn
import FinylDcp.Text

/-!
# Sessions

The access tokens: what sign-ins hand out, what the guard of every route accepts, and the
routes that change a user's credentials. Revocation rests on the version that a token carries.
-/
namespace FinylDcp
open FinylDcp.Runs

/-- The claims of a signed token; `exp` is in whole seconds. -/
structure AccessToken where
  sub : ℕ
  role : String
  tenantId : Option ℕ
  tv : ℕ
  jti : String
  exp : ℤ
  deriving DecidableEq

/-- A second, in microseconds. -/
def second : ℤ := 1000000

/-- `create_access_token` -/
def createAccessToken (jwtExpiryMinutes : ℤ) (userId : ℕ) (user : UserAccount) (jti : String)
    (now : ℤ) : AccessToken where
  sub := userId
  role := user.role
  tenantId := user.tenantId
  tv := user.tokenVersion
  jti := jti
  exp := (now + jwtExpiryMinutes * minute) / second

inductive AuthRefusal
  | tokenExpired
  | userInactive
  | tokenRevoked
  | accountLocked
  | temporarilyLocked
  deriving DecidableEq

/-- The status and text of the answer. -/
def AuthRefusal.answer : AuthRefusal → ℕ × String
  | .tokenExpired => (401, "Token expired")
  | .userInactive => (401, "User not found or inactive")
  | .tokenRevoked => (401, "Token has been revoked")
  | .accountLocked => (403, "Account is locked")
  | .temporarilyLocked => (423, "Account temporarily locked")

/-- `get_current_user`, for a token with a valid signature. -/
def getCurrentUser (users : List UserAccount) (token : AccessToken) (now : ℤ) :
    Except AuthRefusal UserAccount :=
  if token.exp * second ≤ now then .error .tokenExpired
  else match users[token.sub]? with
    | none => .error .userInactive
    | some user =>
      if !user.active then .error .userInactive
      else if token.tv ≠ user.tokenVersion then .error .tokenRevoked
      else if user.isLocked then .error .accountLocked
      else if user.lockRuns now then .error .temporarilyLocked
      else .ok user

/-- The users, their one-time codes, and the tokens handed out so far. -/
structure SessionHub where
  users : List UserAccount
  otps : List OtpToken
  issued : List AccessToken

inductive SessionEvent
  | login (email password : String) (config : Option SecurityConfig)
    (surroundings : Surroundings) (otpCode jti : String) (ip : Option String)
  | loginOtp (email code jti : String)
  | changePassword (token : AccessToken) (currentPassword newPassword jti : String)
  | logout (token : AccessToken)
  | resetPassword (tenantId userId : ℕ) (password : Option String)

namespace SessionHub

variable [Bcrypt] [Geography] (jwtExpiryMinutes : ℤ) (hub : SessionHub)

/-- The user with the email, as the routes bring it to lower case. -/
def userByEmail (email : String) : Option ℕ :=
  hub.users.findIdx? (fun u => u.email = Text.strip (Text.lower email))

/-- `_issue_login_token` -/
def issue (userId : ℕ) (user : UserAccount) (jti : String) (now : ℤ) : SessionHub :=
  { hub with issued := hub.issued ++ [createAccessToken jwtExpiryMinutes userId user jti now] }

/-- `_login` -/
def login (now : ℤ) (email password : String) (config : Option SecurityConfig)
    (surroundings : Surroundings) (otpCode jti : String) (ip : Option String) : SessionHub :=
  match hub.userByEmail email with
  | none => hub
  | some userId =>
    match hub.users[userId]? with
    | none => hub
    | some user =>
      let (reply, user) := user.login ⟨now, password, config, surroundings⟩
      let hub := { hub with users := hub.users.set userId user }
      match reply with
      | .granted => hub.issue jwtExpiryMinutes userId user jti now
      | .otpRequired =>
        { hub with otps := generateOtp hub.otps userId "login" otpCode ip now }
      | _ => hub

/-- `login_otp` -/
def loginOtp (now : ℤ) (email code jti : String) : SessionHub :=
  match hub.userByEmail email with
  | none => hub
  | some userId =>
    match hub.users[userId]? with
    | none => hub
    | some user =>
      if user.lockedAt now || !user.active then hub
      else
        let (outcome, otps) := verifyOtp hub.otps userId code "login" now
        let hub := { hub with otps := otps }
        if outcome.isOk then hub.issue jwtExpiryMinutes userId user jti now else hub

/-- The user that `change_password` leaves, unless it refuses. -/
def changedUser (now : ℤ) (token : AccessToken) (currentPassword newPassword : String) :
    Option UserAccount :=
  match getCurrentUser hub.users token now with
  | .error _ => none
  | .ok user =>
    let newPw := Text.strip newPassword
    if !verifyPassword currentPassword user.hashedPassword then none
    else if newPw.length < 8 then none
    else if verifyPassword newPw user.hashedPassword then none
    else some { user with
      hashedPassword := hashPassword newPw
      forcePasswordReset := false
      failedLoginAttempts := 0
      lockedUntil := none
      tokenVersion := user.tokenVersion + 1 }

/-- `change_password` -/
def changePassword (now : ℤ) (token : AccessToken) (currentPassword newPassword jti : String) :
    SessionHub :=
  match hub.changedUser now token currentPassword newPassword with
  | none => hub
  | some user =>
    issue jwtExpiryMinutes { hub with users := hub.users.set token.sub user } token.sub user jti
      now

/-- The user that `logout` leaves, unless the guard refuses. -/
def loggedOutUser (now : ℤ) (token : AccessToken) : Option UserAccount :=
  match getCurrentUser hub.users token now with
  | .error _ => none
  | .ok user => some { user with tokenVersion := user.tokenVersion + 1 }

/-- `logout` -/
def logout (now : ℤ) (token : AccessToken) : SessionHub :=
  match hub.loggedOutUser now token with
  | none => hub
  | some user => { hub with users := hub.users.set token.sub user }

/-- The user that an administrator's `reset_password` leaves, unless `_get_user` refuses. -/
def resetUser (tenantId userId : ℕ) (password : Option String) : Option UserAccount :=
  match hub.users[userId]? with
  | none => none
  | some user =>
    if user.tenantId ≠ some tenantId then none
    else if user.role = "super_admin" then none
    else match Text.nonEmpty password with
      | some password =>
        some { user with hashedPassword := hashPassword password, forcePasswordReset := false }
      | none => some { user with forcePasswordReset := true }

/-- `reset_password` -/
def resetPassword (tenantId userId : ℕ) (password : Option String) : SessionHub :=
  match hub.resetUser tenantId userId password with
  | none => hub
  | some user => { hub with users := hub.users.set userId user }

/-- One request at its time. -/
def step (hub : SessionHub) : ℤ × SessionEvent → SessionHub
  | (now, .login email password config surroundings otpCode jti ip) =>
    hub.login jwtExpiryMinutes now email password config surroundings otpCode jti ip
  | (now, .loginOtp email code jti) => hub.loginOtp jwtExpiryMinutes now email code jti
  | (now, .changePassword token currentPassword newPassword jti) =>
    hub.changePassword jwtExpiryMinutes now token currentPassword newPassword jti
  | (now, .logout token) => hub.logout now token
  | (_, .resetPassword tenantId userId password) => hub.resetPassword tenantId userId password

/-- The user whose credentials a request changes: a logout, a change or a reset that is not
refused. -/
def revokes : ℤ × SessionEvent → Option ℕ
  | (now, .changePassword token currentPassword newPassword _) =>
    (hub.changedUser now token currentPassword newPassword).map (fun _ => token.sub)
  | (now, .logout token) => (hub.loggedOutUser now token).map (fun _ => token.sub)
  | (_, .resetPassword tenantId userId password) =>
    (hub.resetUser tenantId userId password).map (fun _ => userId)
  | _ => none

end SessionHub

end FinylDcp
