import FinylDcp.Components
import FinylDcp.Sessions

/-!
# The desk of the sign-ins

Sessions together with what surrounds them: the devices that users register, the tenants'
security settings, and the codes that a signed-in user may ask for, which are drawn from the
table that the second leg of a sign-in reads.
-/
namespace FinylDcp
open FinylDcp.Runs FinylDcp.Traces

/-- A row of `user_devices`; ids are positions. -/
structure UserDevice where
  userId : ℕ
  deviceFingerprint : String
  deviceName : Option String
  platform : Option String
  registeredByIp : Option String
  active : Bool
  deriving DecidableEq, Repr

def UserDevice.isOf (userId : ℕ) (fingerprint : String) (d : UserDevice) : Bool :=
  d.userId = userId && d.deviceFingerprint = fingerprint

/-- `register`: a device that is there comes back into use, under a new name where one is given. -/
def registerDevice (devices : List UserDevice) (userId : ℕ) (fingerprint : String)
    (name platform ip : Option String) : List UserDevice :=
  match devices.findIdx? (·.isOf userId fingerprint) with
  | some row => devices.modify row (fun d => { d with
      active := true
      deviceName := (Text.nonEmpty name).or d.deviceName
      platform := (Text.nonEmpty platform).or d.platform })
  | none => devices ++ [⟨userId, fingerprint, name, platform, ip, true⟩]

/-- `revoke`: whether there was such a device, and the devices after it. -/
def revokeDevice (devices : List UserDevice) (userId deviceId : ℕ) : Bool × List UserDevice :=
  match devices[deviceId]? with
  | none => (false, devices)
  | some d =>
    if d.userId = userId then (true, devices.set deviceId { d with active := false })
    else (false, devices)

/-- `is_known` -/
def isKnown (devices : List UserDevice) (userId : ℕ) (fingerprint : String) : Bool :=
  fingerprint ≠ "" && devices.any (fun d => d.isOf userId fingerprint && d.active)

/-- What an update of the security settings names. A time of day is given as it was parsed: a
blank text takes it away. -/
structure SecurityConfigUpdate where
  timeFenceEnabled : Option Bool
  timeFenceStart : Option (Option ℤ)
  timeFenceEnd : Option (Option ℤ)
  timeFenceTimezone : Option String
  geofenceEnabled : Option Bool
  geofenceCenterLat : Option ℚ
  geofenceCenterLng : Option ℚ
  geofenceRadiusKm : Option ℚ
  deviceBindingEnabled : Option Bool
  requireOtp : Option Bool
  deriving DecidableEq

/-- `update_security` on the row of the tenant. -/
def SecurityConfigUpdate.apply (body : SecurityConfigUpdate) (c : SecurityConfig) :
    SecurityConfig where
  timeFenceEnabled := body.timeFenceEnabled.getD c.timeFenceEnabled
  timeFenceStart := body.timeFenceStart.getD c.timeFenceStart
  timeFenceEnd := body.timeFenceEnd.getD c.timeFenceEnd
  timeFenceTimezone := body.timeFenceTimezone.getD c.timeFenceTimezone
  geofenceEnabled := body.geofenceEnabled.getD c.geofenceEnabled
  geofenceCenterLat := body.geofenceCenterLat.or c.geofenceCenterLat
  geofenceCenterLng := body.geofenceCenterLng.or c.geofenceCenterLng
  geofenceRadiusKm := body.geofenceRadiusKm.or c.geofenceRadiusKm
  deviceBindingEnabled := body.deviceBindingEnabled.getD c.deviceBindingEnabled
  requireOtp := body.requireOtp.getD c.requireOtp

/-- The headers `X-Geo-Lat` and `X-Geo-Lng` of a request. -/
structure Whereabouts where
  geoLat : Option String
  geoLng : Option String
  deriving DecidableEq

inductive SignInEvent
  | login (email password : String) (whereabouts : Whereabouts) (fingerprint : Option String)
    (otpCode jti : String) (ip : Option String)
  | loginOtp (email code jti : String)
  | otpRequest (token : AccessToken) (purpose code : String) (ip : Option String)
  | otpVerify (token : AccessToken) (code purpose : String)
  | cleanupExpired
  | changePassword (token : AccessToken) (currentPassword newPassword jti : String)
  | logout (token : AccessToken)
  | registerDevice (token : AccessToken) (userId : ℕ) (fingerprint : String)
    (name platform ip : Option String)
  | revokeDevice (token : AccessToken) (userId deviceId : ℕ)
  | updateSecurity (tenantId : ℕ) (body : SecurityConfigUpdate)
  /-- An administrator's routes leave the account so, a reset of its password included. -/
  | administered (userId : ℕ) (user : UserAccount)
  | registered (user : UserAccount)
  deriving DecidableEq

/-- The token that a request comes with. -/
def SignInEvent.token : SignInEvent → Option AccessToken
  | .otpRequest token _ _ _ => some token
  | .otpVerify token _ _ => some token
  | .changePassword token _ _ _ => some token
  | .logout token => some token
  | .registerDevice token _ _ _ _ _ => some token
  | .revokeDevice token _ _ => some token
  | _ => none

structure SignInDesk where
  hub : SessionHub
  /-- The settings of a tenant, once there are some. -/
  configs : ℕ → Option SecurityConfig
  devices : List UserDevice

namespace SignInDesk

/-- A desk that nobody has signed in at. -/
def opening (users : List UserAccount) (configs : ℕ → Option SecurityConfig)
    (devices : List UserDevice) : SignInDesk :=
  ⟨⟨users, [], []⟩, configs, devices⟩

section Desk

variable (desk : SignInDesk)

/-- `get_config`, for the tenant of a user. -/
def configOf (user : UserAccount) : Option SecurityConfig := user.tenantId.bind desk.configs

/-- What a sign-in of the account is surrounded by. -/
def surroundings (userId : ℕ) (whereabouts : Whereabouts) (fingerprint : Option String) :
    Surroundings where
  geoLat := whereabouts.geoLat
  geoLng := whereabouts.geoLng
  knownDevice := isKnown desk.devices userId (fingerprint.getD "")

/-- The account that an email belongs to, with its id. -/
def account (email : String) : Option (ℕ × UserAccount) :=
  (desk.hub.userByEmail email).bind (fun userId =>
    (desk.hub.users[userId]?).map (fun user => (userId, user)))

/-- The account of a token that is accepted. -/
def caller (token : AccessToken) (now : ℤ) : Option UserAccount :=
  (getCurrentUser desk.hub.users token now).toOption

/-- `_authorize_device_target`: whose devices the caller may touch. -/
def mayTouchDevices (token : AccessToken) (now : ℤ) (userId : ℕ) : Bool :=
  match desk.caller token now, desk.hub.users[userId]? with
  | some actor, some target =>
    (actor.role = "super_admin" || target.tenantId = actor.tenantId) &&
      (token.sub = userId || ["super_admin", "system_admin", "tenant_admin"].contains actor.role)
  | _, _ => false

def withOtps (otps : List OtpToken) : SignInDesk :=
  { desk with hub := { desk.hub with otps := otps } }

def withUsers (users : List UserAccount) : SignInDesk :=
  { desk with hub := { desk.hub with users := users } }

variable [Bcrypt]

/-- `otp_request`, and the request for a consent code, which only differs in its purpose. -/
def otpRequest (now : ℤ) (token : AccessToken) (purpose code : String) (ip : Option String) :
    List OtpToken :=
  match desk.caller token now with
  | none => desk.hub.otps
  | some _ => generateOtp desk.hub.otps token.sub purpose code ip now

/-- `otp_verify` -/
def otpVerify (now : ℤ) (token : AccessToken) (code purpose : String) : List OtpToken :=
  match desk.caller token now with
  | none => desk.hub.otps
  | some _ => (verifyOtp desk.hub.otps token.sub code purpose now).2

variable [Geography] (jwtExpiryMinutes : ℤ)

/-- `_login`, with the settings and the devices as they are. -/
def login (now : ℤ) (email password : String) (whereabouts : Whereabouts)
    (fingerprint : Option String) (otpCode jti : String) (ip : Option String) : SessionHub :=
  match desk.account email with
  | none => desk.hub
  | some (userId, user) =>
    desk.hub.login jwtExpiryMinutes now email password (desk.configOf user)
      (desk.surroundings userId whereabouts fingerprint) otpCode jti ip

/-- One request at its time. -/
def step (desk : SignInDesk) : ℤ × SignInEvent → SignInDesk
  | (now, .login email password whereabouts fingerprint otpCode jti ip) =>
    { desk with
      hub := desk.login jwtExpiryMinutes now email password whereabouts fingerprint otpCode jti
        ip }
  | (now, .loginOtp email code jti) =>
    { desk with hub := desk.hub.loginOtp jwtExpiryMinutes now email code jti }
  | (now, .otpRequest token purpose code ip) =>
    desk.withOtps (desk.otpRequest now token purpose code ip)
  | (now, .otpVerify token code purpose) => desk.withOtps (desk.otpVerify now token code purpose)
  | (now, .cleanupExpired) => desk.withOtps (FinylDcp.cleanupExpired desk.hub.otps now).2
  | (now, .changePassword token currentPassword newPassword jti) =>
    { desk with
      hub := desk.hub.changePassword jwtExpiryMinutes now token currentPassword newPassword jti }
  | (now, .logout token) => { desk with hub := desk.hub.logout now token }
  | (now, .registerDevice token userId fingerprint name platform ip) =>
    if desk.mayTouchDevices token now userId then
      { desk with
        devices := FinylDcp.registerDevice desk.devices userId fingerprint name platform ip }
    else desk
  | (now, .revokeDevice token userId deviceId) =>
    if desk.mayTouchDevices token now userId then
      { desk with devices := (FinylDcp.revokeDevice desk.devices userId deviceId).2 }
    else desk
  | (_, .updateSecurity tenantId body) =>
    { desk with
      configs := Function.update desk.configs tenantId
        (some (body.apply ((desk.configs tenantId).getD .default))) }
  | (_, .administered userId user) => desk.withUsers (desk.hub.users.set userId user)
  | (_, .registered user) => desk.withUsers (desk.hub.users ++ [user])

end Desk

end SignInDesk

end FinylDcp
