import FinylDcp.SecondFactor

/-!
# The devices behind a sign-in

Where a tenant binds its users to their devices, a password only opens a session from a device
that someone who may touch the user's devices has registered, and that has not been revoked
since.
-/
namespace FinylDcp
open FinylDcp.Runs SignInDesk

section Table

variable {devices : List UserDevice} {userId row : ℕ} {fingerprint : String}
  {name platform ip : Option String} {d : UserDevice}

theorem isOf_iff : d.isOf userId fingerprint = true ↔
    d.userId = userId ∧ d.deviceFingerprint = fingerprint := by
  simp [UserDevice.isOf]

/-- A row after a registration is the one registered or was there before. -/
theorem registerDevice_row
    (h : (registerDevice devices userId fingerprint name platform ip)[row]? = some d) :
    (d.userId = userId ∧ d.deviceFingerprint = fingerprint) ∨ devices[row]? = some d := by
  unfold registerDevice at h
  split at h
  · next found hfound =>
    rw [List.getElem?_modify] at h
    obtain ⟨old, hold, hd⟩ := Option.map_eq_some_iff.mp h
    by_cases hrow : found = row
    · left
      obtain ⟨hlt, hof, -⟩ := List.findIdx?_eq_some_iff_getElem.mp hfound
      subst hrow
      have hsame : devices[found] = old := Option.some.inj
        ((List.getElem?_eq_getElem hlt).symm.trans hold)
      rw [hsame] at hof
      obtain ⟨huser, hprint⟩ := isOf_iff.mp hof
      simp only [if_true] at hd
      exact hd ▸ ⟨huser, hprint⟩
    · right
      rw [if_neg hrow] at hd
      exact hd ▸ hold
  · obtain hlt | hge := lt_or_ge row devices.length
    · right
      rwa [List.getElem?_append_left hlt] at h
    · left
      rw [List.getElem?_append_right hge] at h
      obtain rfl := List.mem_singleton.mp (List.mem_of_getElem? h)
      exact ⟨rfl, rfl⟩

/-- A row in use after a revocation was in use before it, and is not the one revoked. -/
theorem revokeDevice_row {deviceId : ℕ}
    (h : (revokeDevice devices userId deviceId).2[row]? = some d) (hactive : d.active = true) :
    devices[row]? = some d ∧ ¬ (deviceId = row ∧ d.userId = userId) := by
  unfold revokeDevice at h
  split at h
  · next hnone =>
    refine ⟨h, ?_⟩
    rintro ⟨rfl, -⟩
    rw [hnone] at h
    nomatch h
  · next found hfound =>
    split_ifs at h with hmine
    · by_cases hrow : deviceId = row
      · subst hrow
        have hlt := (List.getElem?_eq_some_iff.mp hfound).1
        rw [List.getElem?_set_self hlt] at h
        obtain rfl := Option.some.inj h
        nomatch hactive
      · rw [List.getElem?_set_ne hrow] at h
        exact ⟨h, fun hboth => hrow hboth.1⟩
    · refine ⟨h, ?_⟩
      rintro ⟨rfl, huser⟩
      obtain rfl := Option.some.inj (hfound.symm.trans h)
      exact hmine huser

end Table

/-- The request registers the fingerprint as a device of the user. -/
inductive Registers (desk : SignInDesk) : ℤ × SignInEvent → ℕ → String → Prop
  | intro {now : ℤ} {token : AccessToken} {userId : ℕ} {fingerprint : String}
    {name platform ip : Option String}
    (allowed : desk.mayTouchDevices token now userId = true) :
    Registers desk (now, .registerDevice token userId fingerprint name platform ip) userId
      fingerprint

/-- The request revokes the device of the user. -/
inductive Revokes (desk : SignInDesk) : ℤ × SignInEvent → ℕ → ℕ → Prop
  | intro {now : ℤ} {token : AccessToken} {userId deviceId : ℕ}
    (allowed : desk.mayTouchDevices token now userId = true) :
    Revokes desk (now, .revokeDevice token userId deviceId) userId deviceId

section Runs

variable [Bcrypt] [Geography]

/-- The row is there since a registration of the run, with no revocation in between. -/
structure RegisteredSince (jwtExpiryMinutes : ℤ) (start : SignInDesk)
    (es : List (ℤ × SignInEvent)) (userId row : ℕ) (fingerprint : String) : Prop where
  history : ∃ before event later, es = before ++ event :: later ∧
    Registers (run (step jwtExpiryMinutes) start before) event userId fingerprint ∧
    ∀ between event' rest, later = between ++ event' :: rest →
      ¬ Revokes (run (step jwtExpiryMinutes) start (before ++ event :: between)) event' userId row

variable {jwtExpiryMinutes : ℤ} {start : SignInDesk} {es : List (ℤ × SignInEvent)}
  {userId row : ℕ} {fingerprint : String}

theorem RegisteredSince.extend {event : ℤ × SignInEvent}
    (h : RegisteredSince jwtExpiryMinutes start es userId row fingerprint)
    (hkept : ¬ Revokes (run (step jwtExpiryMinutes) start es) event userId row) :
    RegisteredSince jwtExpiryMinutes start (es ++ [event]) userId row fingerprint := by
  obtain ⟨before, source, later, rfl, hsource, hlater⟩ := h.history
  refine ⟨before, source, later ++ [event], by simp, hsource, ?_⟩
  intro between event' rest hsplit
  obtain ⟨rfl, hlast⟩ | ⟨rest', rfl, hrest⟩ :
      (between = later ∧ event' = event) ∨ ∃ rest', later = between ++ event' :: rest' ∧
        rest = rest' ++ [event] := by
    obtain rfl | ⟨rest', last, rfl⟩ := List.eq_nil_or_concat' rest
    · obtain ⟨hlater, hlast⟩ := List.append_inj' hsplit rfl
      exact .inl ⟨hlater.symm, (List.singleton_inj.mp hlast).symm⟩
    · rw [← List.cons_append, ← List.append_assoc] at hsplit
      obtain ⟨hlater, hlast⟩ := List.append_inj' hsplit rfl
      exact .inr ⟨rest', hlater, by rw [List.singleton_inj.mp hlast]⟩
  · rwa [hlast]
  · exact hlater between event' rest' rfl

/-- The devices after a request, as the row sees them. -/
theorem devices_step {desk : SignInDesk} {event : ℤ × SignInEvent} {d : UserDevice}
    (h : (desk.step jwtExpiryMinutes event).devices[row]? = some d) (hactive : d.active = true) :
    Registers desk event d.userId d.deviceFingerprint ∨
      (desk.devices[row]? = some d ∧ ¬ Revokes desk event d.userId row) := by
  obtain ⟨now, event⟩ := event
  cases event with
  | registerDevice token userId fingerprint name platform ip =>
    simp only [step] at h
    split_ifs at h with hallowed
    · obtain ⟨rfl, rfl⟩ | hold := registerDevice_row h
      · exact .inl ⟨hallowed⟩
      · exact .inr ⟨hold, fun hrevokes => by cases hrevokes⟩
    · exact .inr ⟨h, fun hrevokes => by cases hrevokes⟩
  | revokeDevice token userId deviceId =>
    simp only [step] at h
    split_ifs at h with hallowed
    · obtain ⟨hold, hother⟩ := revokeDevice_row h hactive
      refine .inr ⟨hold, ?_⟩
      rintro ⟨-⟩
      exact hother ⟨rfl, rfl⟩
    · refine .inr ⟨h, ?_⟩
      rintro ⟨hmay⟩
      exact hallowed hmay
  | login email password whereabouts fingerprint otpCode jti ip =>
    exact .inr ⟨h, fun hrevokes => by cases hrevokes⟩
  | loginOtp email code jti =>
    exact .inr ⟨h, fun hrevokes => by cases hrevokes⟩
  | otpRequest token purpose code ip =>
    exact .inr ⟨h, fun hrevokes => by cases hrevokes⟩
  | otpVerify token code purpose =>
    exact .inr ⟨h, fun hrevokes => by cases hrevokes⟩
  | cleanupExpired =>
    exact .inr ⟨h, fun hrevokes => by cases hrevokes⟩
  | changePassword token currentPassword newPassword jti =>
    exact .inr ⟨h, fun hrevokes => by cases hrevokes⟩
  | logout token =>
    exact .inr ⟨h, fun hrevokes => by cases hrevokes⟩
  | updateSecurity tenantId body =>
    exact .inr ⟨h, fun hrevokes => by cases hrevokes⟩
  | administered userId user =>
    exact .inr ⟨h, fun hrevokes => by cases hrevokes⟩
  | registered user =>
    exact .inr ⟨h, fun hrevokes => by cases hrevokes⟩

/-- Every device in use has been registered in the run, and not been revoked since. -/
theorem registeredSince (hnone : start.devices = []) {d : UserDevice}
    (hd : (run (step jwtExpiryMinutes) start es).devices[row]? = some d)
    (hactive : d.active = true) :
    RegisteredSince jwtExpiryMinutes start es d.userId row d.deviceFingerprint := by
  induction es using List.reverseRecOn with
  | nil =>
    rw [run_nil, hnone] at hd
    nomatch hd
  | append_singleton es event ih =>
    rw [run_concat] at hd
    obtain hnew | ⟨hold, hkept⟩ := devices_step hd hactive
    · exact ⟨es, event, [], rfl, hnew, fun between event' rest h => by simp at h⟩
    · exact (ih hold).extend hkept

/-- A password opens no session of a tenant with bound devices but from a device that was
registered for the user by the user or an administrator, and that nobody has revoked since. -/
theorem bound_sessions_trusted (jwtExpiryMinutes : ℤ) (users : List UserAccount)
    (configs : ℕ → Option SecurityConfig) (es : List (ℤ × SignInEvent)) {now : ℤ}
    {email password : String} {whereabouts : Whereabouts} {fingerprint : Option String}
    {otpCode jti : String} {ip : Option String} {userId : ℕ} {user : UserAccount}
    {cfg : SecurityConfig}
    (hgiven : PasswordGiven (run (step jwtExpiryMinutes) (opening users configs []) es)
      (now, .login email password whereabouts fingerprint otpCode jti ip) userId user)
    (hrole : user.role ≠ "super_admin")
    (hconfig : (run (step jwtExpiryMinutes) (opening users configs []) es).configOf user =
      some cfg)
    (hbound : cfg.deviceBindingEnabled = true) :
    ∃ print row, fingerprint = some print ∧
      RegisteredSince jwtExpiryMinutes (opening users configs []) es userId row print := by
  cases hgiven with
  | intro haccount hunlocked hverified hactive hfences =>
    rw [hconfig, enforceLoginFences_eq_ok hrole] at hfences
    have hknown : isKnown (run (step jwtExpiryMinutes) (opening users configs []) es).devices
        userId (fingerprint.getD "") = true := hfences.2.2 hbound
    simp only [isKnown, Bool.and_eq_true, decide_eq_true_eq, List.any_eq_true] at hknown
    obtain ⟨hprint, d, hd, hof, hactive'⟩ := hknown
    obtain ⟨row, hrow⟩ := List.mem_iff_getElem?.mp hd
    obtain ⟨rfl, hsame⟩ := isOf_iff.mp hof
    cases fingerprint with
    | none => exact absurd rfl hprint
    | some print =>
      obtain rfl : d.deviceFingerprint = print := hsame
      exact ⟨d.deviceFingerprint, row, rfl, registeredSince rfl hrow hactive'⟩

end Runs

/-- The officer signs in, registers the phone, and the tenant turns its binding on. -/
def officerRegisters : List (ℤ × SignInEvent) :=
  [(0, .login "mary@dcp.example" "correct horse" ⟨none, none⟩ none "493021" "j1" none),
    (1, .registerDevice ⟨0, "relationship_officer", some 1, 0, "j1", 43200⟩ 0 "a1b2" none none
      none),
    (2, .updateSecurity 1
      ⟨none, none, none, none, none, none, none, none, some true, none⟩)]

section Witness

local instance boundBcrypt : Bcrypt := saltless

local instance boundGeography : Geography := nairobi

theorem bound_sessions_trusted_phone :
    ∃ print row, some "a1b2" = some print ∧
      RegisteredSince 720 (opening [signedInOfficer] (fun _ => none) []) officerRegisters 0 row
        print :=
  @bound_sessions_trusted _ _ 720 [signedInOfficer] (fun _ => none) officerRegisters 3
    "mary@dcp.example" "correct horse" ⟨none, none⟩ (some "a1b2") "577201" "j2" none 0
    signedInOfficer { SecurityConfig.default with deviceBindingEnabled := true }
    ⟨by decide, by decide, by decide, rfl, by decide⟩ (by decide)
    (by decide) rfl

end Witness

end FinylDcp
