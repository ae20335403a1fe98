import FinylDcp.Schema

/-!
# Fences

The hours and the circle that a tenant lets its users sign in from, as its security settings
give them and as the guard of a sign-in applies them.
-/
namespace FinylDcp

/-- The libraries under the fences: the local time of day in a zone, in microseconds, `float` of a
text, and the great-circle distance of a place from a centre. What raises has no value: an
unknown zone, a text that is no number, a coordinate that is infinite. -/
class Geography where
  Coordinate : Type
  localTime : String → ℤ → Option ℤ
  float : String → Option Coordinate
  haversineKm : ℚ → ℚ → Coordinate → Coordinate → Option ℚ

/-- The columns of `tenant_security_config` that a sign-in reads; times of day are in
microseconds. -/
structure SecurityConfig where
  timeFenceEnabled : Bool
  timeFenceStart : Option ℤ
  timeFenceEnd : Option ℤ
  timeFenceTimezone : String
  geofenceEnabled : Bool
  geofenceCenterLat : Option ℚ
  geofenceCenterLng : Option ℚ
  geofenceRadiusKm : Option ℚ
  deviceBindingEnabled : Bool
  requireOtp : Bool
  deriving DecidableEq

/-- The row that a tenant starts with. -/
def SecurityConfig.default : SecurityConfig where
  timeFenceEnabled := false
  timeFenceStart := none
  timeFenceEnd := none
  timeFenceTimezone := "Africa/Nairobi"
  geofenceEnabled := false
  geofenceCenterLat := none
  geofenceCenterLng := none
  geofenceRadiusKm := none
  deviceBindingEnabled := false
  requireOtp := false

/-- The verdict of a fence. -/
inductive Fence
  | disabled
  | inside
  | outside
  deriving DecidableEq

/-- What a request says of where it comes from: its two headers, and whether the device it names
is known. -/
structure Surroundings where
  geoLat : Option String
  geoLng : Option String
  knownDevice : Bool
  deriving DecidableEq

/-- The time of day lies in the window, which may span midnight. -/
def inWindow (start stop cur : ℤ) : Bool :=
  if start ≤ stop then start ≤ cur && cur ≤ stop else start ≤ cur || cur ≤ stop

section Fences

variable [Geography] (cfg : SecurityConfig)

/-- `evaluate_timefence` -/
def SecurityConfig.evaluateTimefence (now : ℤ) : Except Failure Fence :=
  if !cfg.timeFenceEnabled then .ok .disabled
  else match cfg.timeFenceStart, cfg.timeFenceEnd with
    | some start, some stop =>
      let zone := if cfg.timeFenceTimezone = "" then "Africa/Nairobi" else cfg.timeFenceTimezone
      match Geography.localTime zone now with
      | none => .error (.crash "ZoneInfoNotFoundError")
      | some cur => .ok (if inWindow start stop cur then .inside else .outside)
    | _, _ => .ok .disabled

/-- `evaluate_geofence` -/
def SecurityConfig.evaluateGeofence (lat lng : Option Geography.Coordinate) :
    Except Failure Fence :=
  if !cfg.geofenceEnabled then .ok .disabled
  else match cfg.geofenceCenterLat, cfg.geofenceCenterLng, cfg.geofenceRadiusKm with
    | some centerLat, some centerLng, some radius =>
      match lat, lng with
      | some lat, some lng =>
        match Geography.haversineKm centerLat centerLng lat lng with
        | none => .error (.crash "ValueError")
        | some dist => .ok (if dist ≤ radius then .inside else .outside)
      | _, _ => .ok .outside
    | _, _, _ => .ok .disabled

/-- A coordinate of a request: none where the header is missing or blank, and no answer where it
is no number. -/
def readCoordinate (header : Option String) : Option (Option Geography.Coordinate) :=
  match Text.nonEmpty header with
  | none => some none
  | some text => (Geography.float text).map some

/-- `_geo_from_request` -/
def geoFromRequest (at_ : Surroundings) :
    Option Geography.Coordinate × Option Geography.Coordinate :=
  match readCoordinate at_.geoLat, readCoordinate at_.geoLng with
  | some lat, some lng => (lat, lng)
  | _, _ => (none, none)

/-- The guard of the hours, where they are switched on. -/
def SecurityConfig.enforceHours (now : ℤ) : Except Failure Unit :=
  if cfg.timeFenceEnabled then do
    let fence ← cfg.evaluateTimefence now
    refuseIf (fence = .outside)
      (.http 403 "Login is not permitted outside your organisation's working hours.")
  else .ok ()

/-- The guard of the place, where it is switched on. -/
def SecurityConfig.enforcePlace (at_ : Surroundings) : Except Failure Unit :=
  if cfg.geofenceEnabled then do
    let (lat, lng) := geoFromRequest at_
    let fence ← cfg.evaluateGeofence lat lng
    refuseIf (fence = .outside) (.http 403 "Login is not permitted from your current location.")
  else .ok ()

/-- The guard of the device. -/
def SecurityConfig.enforceDevice (at_ : Surroundings) : Except Failure Unit :=
  refuseIf (cfg.deviceBindingEnabled = true ∧ at_.knownDevice = false)
    (.http 403 "This device is not registered. Register it before signing in.")

/-- `_enforce_login_fences` -/
def enforceLoginFences (role : String) (config : Option SecurityConfig) (now : ℤ)
    (at_ : Surroundings) : Except Failure Unit :=
  if role = "super_admin" then .ok ()
  else match config with
    | none => .ok ()
    | some cfg => do
      cfg.enforceHours now
      cfg.enforcePlace at_
      cfg.enforceDevice at_

variable {cfg}

/-- A fence that is switched off lets everyone through, so that its switch need not be asked
first. -/
theorem enforceHours_eq_ok {now : ℤ} :
    cfg.enforceHours now = .ok () ↔
      ∃ fence, cfg.evaluateTimefence now = .ok fence ∧ fence ≠ .outside := by
  by_cases henabled : cfg.timeFenceEnabled = true
  · simp only [SecurityConfig.enforceHours, if_pos henabled, bind_eq_ok, refuseIf_eq_ok]
  · simp [henabled, SecurityConfig.enforceHours, SecurityConfig.evaluateTimefence]

theorem enforcePlace_eq_ok {at_ : Surroundings} :
    cfg.enforcePlace at_ = .ok () ↔
      ∃ fence, cfg.evaluateGeofence (geoFromRequest at_).1 (geoFromRequest at_).2 = .ok fence ∧
        fence ≠ .outside := by
  by_cases henabled : cfg.geofenceEnabled = true
  · simp only [SecurityConfig.enforcePlace, if_pos henabled, bind_eq_ok, refuseIf_eq_ok]
  · simp [henabled, SecurityConfig.enforcePlace, SecurityConfig.evaluateGeofence]

/-- The fences that a sign-in has passed: neither the hour nor the place is outside, and the
device is known where devices are bound. -/
theorem enforceLoginFences_eq_ok {role : String} {now : ℤ} {at_ : Surroundings}
    (hrole : role ≠ "super_admin") :
    enforceLoginFences role (some cfg) now at_ = .ok () ↔
      (∃ fence, cfg.evaluateTimefence now = .ok fence ∧ fence ≠ .outside) ∧
      (∃ fence, cfg.evaluateGeofence (geoFromRequest at_).1 (geoFromRequest at_).2 = .ok fence ∧
        fence ≠ .outside) ∧
      (cfg.deviceBindingEnabled = true → at_.knownDevice = true) := by
  rw [enforceLoginFences, if_neg hrole]
  constructor
  · intro hpassed
    obtain ⟨_, hhours, hrest⟩ := bind_eq_ok.mp hpassed
    obtain ⟨_, hplace, hdevice⟩ := bind_eq_ok.mp hrest
    refine ⟨enforceHours_eq_ok.mp hhours, enforcePlace_eq_ok.mp hplace, fun hbound => ?_⟩
    by_contra hunknown
    exact refuseIf_eq_ok.mp hdevice ⟨hbound, Bool.eq_false_iff.mpr hunknown⟩
  · rintro ⟨hhours, hplace, hdevice⟩
    refine bind_eq_ok.mpr ⟨(), enforceHours_eq_ok.mpr hhours, ?_⟩
    refine bind_eq_ok.mpr ⟨(), enforcePlace_eq_ok.mpr hplace, ?_⟩
    refine refuseIf_eq_ok.mpr fun hunknown => ?_
    rw [hdevice hunknown.1] at hunknown
    nomatch hunknown.2

end Fences

/-- The zone that the settings start with, and a place at the centre of its circle. -/
abbrev nairobi : Geography where
  Coordinate := ℚ
  localTime zone now :=
    if zone = "Africa/Nairobi" then some ((now + 3 * 3600000000) % (24 * 3600000000)) else none
  float text := if text = "0" then some 0 else none
  haversineKm centerLat centerLng lat lng :=
    if lat = centerLat ∧ lng = centerLng then some 0 else none

end FinylDcp
