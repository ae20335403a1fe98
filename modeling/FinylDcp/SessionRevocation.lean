import FinylDcp.Sessions

/-!
# Revocation of sessions

When the tokens of a user are dead after its credentials have changed: a logout and a password
change raise the version, an administrator's reset does not.
-/
namespace FinylDcp
open FinylDcp.Runs FinylDcp.Traces

/-- The user can no longer use the token as things stand: it carries an older version, has
expired, or expires before a running lock ends. -/
def UserAccount.Spent (user : UserAccount) (token : AccessToken) (now : ℤ) : Prop :=
  token.tv < user.tokenVersion ∨ token.exp * second ≤ now ∨
    ∃ lockedUntil ∈ user.lockedUntil, token.exp * second ≤ lockedUntil

instance UserAccount.Spent.decidable (user : UserAccount) (token : AccessToken) (now : ℤ) :
    Decidable (user.Spent token now) :=
  inferInstanceAs (Decidable (_ ∨ _ ∨ ∃ u ∈ user.lockedUntil, token.exp * second ≤ u))

/-- The account is neither disabled nor locked by an administrator. -/
structure UserAccount.InUse (user : UserAccount) : Prop where
  active : user.active = true
  isLocked : user.isLocked = false

/-- `get_current_user` lets the token through. -/
def accepted (users : List UserAccount) (token : AccessToken) (now : ℤ) : Bool :=
  (getCurrentUser users token now).isOk

/-- What a request may do to a user: the switches stay, the version does not fall, and the
temporary lock changes only once it has run out. -/
structure UserStep (now : ℤ) (user user' : UserAccount) : Prop where
  active : user'.active = user.active
  isLocked : user'.isLocked = user.isLocked
  version : user.tokenVersion ≤ user'.tokenVersion
  lock : user'.lockedUntil = user.lockedUntil ∨ user.lockRuns now = false

section Users

variable {user user' : UserAccount} {token : AccessToken} {users : List UserAccount} {now : ℤ}

theorem UserStep.refl (now : ℤ) (user : UserAccount) : UserStep now user user :=
  ⟨rfl, rfl, le_refl _, .inl rfl⟩

theorem lockRuns_iff : user.lockRuns now = true ↔ ∃ u ∈ user.lockedUntil, now < u := by
  unfold UserAccount.lockRuns
  cases user.lockedUntil <;> simp

theorem accepted_iff (hrow : users[token.sub]? = some user) :
    accepted users token now = true ↔ now < token.exp * second ∧ user.active = true ∧
      token.tv = user.tokenVersion ∧ user.isLocked = false ∧ user.lockRuns now = false := by
  simp only [accepted, getCurrentUser, hrow]
  split_ifs with h1 h2 h3 h4 h5 <;> simp_all [Except.isOk, Except.toBool]

theorem UserAccount.InUse.step (h : user.InUse) (hstep : UserStep now user user') :
    user'.InUse where
  active := hstep.active.trans h.active
  isLocked := hstep.isLocked.trans h.isLocked

theorem UserAccount.Spent.mono {now' : ℤ} (h : user.Spent token now) (hle : now ≤ now') :
    user.Spent token now' :=
  h.imp id (.imp (fun hexp => hexp.trans hle) id)

theorem UserAccount.Spent.step (h : user.Spent token now) (hstep : UserStep now user user') :
    user'.Spent token now := by
  obtain hversion | hexp | ⟨until_, huntil, hexp⟩ := h
  · exact .inl (hversion.trans_le hstep.version)
  · exact .inr (.inl hexp)
  · obtain hlock | hopen := hstep.lock
    · exact .inr (.inr ⟨until_, hlock ▸ huntil, hexp⟩)
    · have hpast : until_ ≤ now := by
        by_contra hruns
        exact Bool.eq_false_iff.mp hopen (lockRuns_iff.mpr ⟨until_, huntil, not_le.mp hruns⟩)
      exact .inr (.inl (hexp.trans hpast))

/-- A spent token is refused from now on, as long as the user stays as it is. -/
theorem UserAccount.Spent.refused (h : user.Spent token now)
    (hrow : users[token.sub]? = some user) : accepted users token now = false := by
  refine Bool.eq_false_iff.mpr fun haccepted => ?_
  obtain ⟨hexp, hactive, hversion, hunlocked, hopen⟩ := (accepted_iff hrow).mp haccepted
  obtain hold | hpast | ⟨until_, huntil, hpast⟩ := h
  · omega
  · omega
  · exact Bool.eq_false_iff.mp hopen (lockRuns_iff.mpr ⟨until_, huntil, by omega⟩)

/-- A token that is not spent is accepted once a running lock has run out. -/
theorem exists_accepted (hrow : users[token.sub]? = some user) (hinUse : user.InUse)
    (hversion : token.tv ≤ user.tokenVersion) (h : ¬ user.Spent token now) :
    ∃ later, now ≤ later ∧ accepted users token later = true := by
  simp only [UserAccount.Spent, not_or, not_exists, not_and, not_lt, not_le] at h
  obtain ⟨hold, hexp, hlock⟩ := h
  have heq : token.tv = user.tokenVersion := le_antisymm hversion hold
  by_cases hruns : user.lockRuns now = true
  · obtain ⟨until_, huntil, hlt⟩ := lockRuns_iff.mp hruns
    refine ⟨until_, hlt.le, (accepted_iff hrow).mpr
      ⟨hlock until_ huntil, hinUse.active, heq, hinUse.isLocked, ?_⟩⟩
    refine Bool.eq_false_iff.mpr fun hagain => ?_
    obtain ⟨other, hother, hlt'⟩ := lockRuns_iff.mp hagain
    obtain rfl : until_ = other := Option.mem_unique huntil hother
    exact lt_irrefl _ hlt'
  · exact ⟨now, le_refl _, (accepted_iff hrow).mpr
      ⟨hexp, hinUse.active, heq, hinUse.isLocked, Bool.eq_false_iff.mpr hruns⟩⟩

end Users

section Steps

variable {hub : SessionHub}

theorem getCurrentUser_ok {users : List UserAccount} {token : AccessToken} {now : ℤ}
    {user : UserAccount} (h : getCurrentUser users token now = .ok user) :
    users[token.sub]? = some user ∧ user.InUse ∧ user.lockRuns now = false := by
  unfold getCurrentUser at h
  split_ifs at h
  split at h
  · nomatch h
  · next found hrow =>
    split_ifs at h with h1 h2 h3 h4
    obtain rfl := Except.ok.inj h
    exact ⟨hrow, ⟨by simpa using h1, Bool.eq_false_iff.mpr h3⟩, Bool.eq_false_iff.mpr h4⟩

theorem loggedOutUser_spec {token : AccessToken} {now : ℤ} {user' : UserAccount}
    (h : hub.loggedOutUser now token = some user') :
    ∃ user, hub.users[token.sub]? = some user ∧ UserStep now user user' ∧
      user'.tokenVersion = user.tokenVersion + 1 := by
  unfold SessionHub.loggedOutUser at h
  split at h
  · nomatch h
  · next user hok =>
    obtain ⟨hrow, -⟩ := getCurrentUser_ok hok
    obtain rfl := Option.some.inj h
    exact ⟨user, hrow, ⟨rfl, rfl, Nat.le_succ _, .inl rfl⟩, rfl⟩

/-- What a request does to the hub: at most one user changes, as `UserStep` allows, and at
most one token is handed out, to a user in use and with the version the user then has. -/
inductive HubStep (now : ℤ) (hub : SessionHub) : SessionHub → Prop
  | idle (otps : List OtpToken) : HubStep now hub ⟨hub.users, otps, hub.issued⟩
  | user (userId : ℕ) (user user' : UserAccount) (otps : List OtpToken)
    (row : hub.users[userId]? = some user) (step : UserStep now user user') :
    HubStep now hub ⟨hub.users.set userId user', otps, hub.issued⟩
  | issue (userId : ℕ) (user user' : UserAccount) (otps : List OtpToken) (token : AccessToken)
    (row : hub.users[userId]? = some user) (inUse : user.InUse) (step : UserStep now user user')
    (sub : token.sub = userId) (version : token.tv = user'.tokenVersion) :
    HubStep now hub ⟨hub.users.set userId user', otps, hub.issued ++ [token]⟩

theorem userStep_set {users : List UserAccount} {userId i : ℕ} {user user' v : UserAccount}
    {now : ℤ} (hrow : users[userId]? = some user) (hstep : UserStep now user user')
    (hv : users[i]? = some v) :
    ∃ v', (users.set userId user')[i]? = some v' ∧ UserStep now v v' := by
  by_cases heq : userId = i
  · subst heq
    obtain rfl : user = v := Option.some.inj (hrow.symm.trans hv)
    exact ⟨user', List.getElem?_set_self (List.getElem?_eq_some_iff.mp hrow).1, hstep⟩
  · exact ⟨v, by rwa [List.getElem?_set_ne heq], .refl now v⟩

/-- No request removes a user, and none does to it what `UserStep` does not allow. -/
theorem HubStep.userStep {now : ℤ} {hub' : SessionHub} (h : HubStep now hub hub') {i : ℕ}
    {v : UserAccount} (hv : hub.users[i]? = some v) :
    ∃ v', hub'.users[i]? = some v' ∧ UserStep now v v' := by
  cases h with
  | idle otps => exact ⟨v, hv, .refl now v⟩
  | user userId user user' otps hrow hstep => exact userStep_set hrow hstep hv
  | issue userId user user' otps token hrow hinUse hstep => exact userStep_set hrow hstep hv

/-- Every token that was handed out names a user in use, and no version that the user has not
had. -/
def SessionHub.Versioned (hub : SessionHub) : Prop :=
  ∀ token ∈ hub.issued, ∃ user, hub.users[token.sub]? = some user ∧ user.InUse ∧
    token.tv ≤ user.tokenVersion

theorem HubStep.versioned {now : ℤ} {hub' : SessionHub} (h : HubStep now hub hub')
    (hub_versioned : hub.Versioned) : hub'.Versioned := by
  have hold : ∀ token ∈ hub.issued, ∃ user, hub'.users[token.sub]? = some user ∧ user.InUse ∧
      token.tv ≤ user.tokenVersion := by
    intro token htoken
    obtain ⟨user, hrow, hinUse, hversion⟩ := hub_versioned token htoken
    obtain ⟨user', hrow', hstep⟩ := h.userStep hrow
    exact ⟨user', hrow', hinUse.step hstep, hversion.trans hstep.version⟩
  cases h with
  | idle otps => exact hold
  | user userId user user' otps hrow hstep => exact hold
  | issue userId user user' otps token hrow hinUse hstep hsub hversion =>
    intro other hother
    obtain hother | hother := List.mem_append.mp hother
    · exact hold other hother
    · obtain rfl := List.mem_singleton.mp hother
      refine ⟨user', ?_, hinUse.step hstep, hversion.le⟩
      rw [hsub]
      exact List.getElem?_set_self (List.getElem?_eq_some_iff.mp hrow).1

variable [Bcrypt]

theorem changedUser_spec {token : AccessToken} {currentPassword newPassword : String} {now : ℤ}
    {user' : UserAccount}
    (h : hub.changedUser now token currentPassword newPassword = some user') :
    ∃ user, hub.users[token.sub]? = some user ∧ user.InUse ∧ UserStep now user user' ∧
      user'.tokenVersion = user.tokenVersion + 1 := by
  unfold SessionHub.changedUser at h
  split at h
  · nomatch h
  · next user hok =>
    obtain ⟨hrow, hinUse, hopen⟩ := getCurrentUser_ok hok
    dsimp only at h
    split_ifs at h
    obtain rfl := Option.some.inj h
    exact ⟨user, hrow, hinUse, ⟨rfl, rfl, Nat.le_succ _, .inr hopen⟩, rfl⟩

/-- An administrator's reset leaves the version and the lock of the user. -/
theorem resetUser_spec {tenantId userId : ℕ} {password : Option String} {user' : UserAccount}
    (h : hub.resetUser tenantId userId password = some user') :
    ∃ user, hub.users[userId]? = some user ∧ user'.active = user.active ∧
      user'.isLocked = user.isLocked ∧ user'.tokenVersion = user.tokenVersion ∧
      user'.lockedUntil = user.lockedUntil := by
  unfold SessionHub.resetUser at h
  split at h
  · nomatch h
  · next user hrow =>
    split_ifs at h
    split at h
    · obtain rfl := Option.some.inj h
      exact ⟨user, hrow, rfl, rfl, rfl, rfl⟩
    · obtain rfl := Option.some.inj h
      exact ⟨user, hrow, rfl, rfl, rfl, rfl⟩

variable [Geography] (jwtExpiryMinutes : ℤ)

theorem userStep_login (user : UserAccount) (attempt : LoginAttempt) :
    UserStep attempt.now user (user.login attempt).2 := by
  have hopen : user.lockedAt attempt.now = false → user.lockRuns attempt.now = false :=
    fun h => (Bool.or_eq_false_iff.mp h).2
  obtain ⟨-, heq⟩ | ⟨hunlocked, heq⟩ | ⟨-, heq⟩ | ⟨hunlocked, -, -, heq⟩ :=
    login_cases user attempt
  · exact heq ▸ .refl _ _
  · exact heq ▸ ⟨rfl, rfl, le_refl _, .inr (hopen hunlocked)⟩
  · exact heq ▸ .refl _ _
  · exact heq ▸ ⟨rfl, rfl, le_refl _, .inr (hopen hunlocked)⟩

/-- A sign-in that hands out a token is one of an account in use. -/
theorem inUse_of_granted {user : UserAccount} {attempt : LoginAttempt}
    (h : (user.login attempt).1 = .granted) : user.InUse := by
  obtain ⟨-, heq⟩ | ⟨-, heq⟩ | ⟨-, heq⟩ | ⟨hunlocked, hactive, -, -⟩ := login_cases user attempt
  · rw [heq] at h
    nomatch h
  · rw [heq] at h
    nomatch h
  · rw [heq] at h
    nomatch h
  · exact ⟨hactive, (Bool.or_eq_false_iff.mp hunlocked).1⟩

theorem hubStep (hub : SessionHub) (event : ℤ × SessionEvent) :
    HubStep event.1 hub (hub.step jwtExpiryMinutes event) := by
  obtain ⟨now, event⟩ := event
  cases event with
  | login email password config surroundings otpCode jti ip =>
    simp only [SessionHub.step, SessionHub.login]
    split
    · exact .idle hub.otps
    · next userId _ =>
      split
      · exact .idle hub.otps
      · next user hrow =>
        have hstep := userStep_login user ⟨now, password, config, surroundings⟩
        split
        · next hgranted =>
          exact .issue userId user _ hub.otps _ hrow (inUse_of_granted hgranted) hstep rfl rfl
        · exact .user userId user _ _ hrow hstep
        · exact .user userId user _ hub.otps hrow hstep
  | loginOtp email code jti =>
    simp only [SessionHub.step, SessionHub.loginOtp]
    split
    · exact .idle hub.otps
    · next userId _ =>
      split
      · exact .idle hub.otps
      · next user hrow =>
        split_ifs with hbarred
        · exact .idle hub.otps
        · have hinUse : user.InUse := by
            simp only [UserAccount.lockedAt, Bool.or_eq_true, not_or, Bool.not_eq_true,
              Bool.not_eq_false'] at hbarred
            exact ⟨hbarred.2, hbarred.1.1⟩
          have h := HubStep.issue userId user user
            (verifyOtp hub.otps userId code "login" now).2
            (createAccessToken jwtExpiryMinutes userId user jti now) hrow hinUse (.refl now user)
            rfl rfl
          have hsame : hub.users.set userId user = hub.users := by
            obtain ⟨hlt, rfl⟩ := List.getElem?_eq_some_iff.mp hrow
            exact List.set_getElem_self hlt
          rwa [hsame] at h
        · exact .idle _
  | changePassword token currentPassword newPassword jti =>
    simp only [SessionHub.step, SessionHub.changePassword]
    split
    · exact .idle hub.otps
    · next user' hchanged =>
      obtain ⟨user, hrow, hinUse, hstep, -⟩ := changedUser_spec hchanged
      exact .issue token.sub user user' hub.otps _ hrow hinUse hstep rfl rfl
  | logout token =>
    simp only [SessionHub.step, SessionHub.logout]
    split
    · exact .idle hub.otps
    · next user' hout =>
      obtain ⟨user, hrow, hstep, -⟩ := loggedOutUser_spec hout
      exact .user token.sub user user' hub.otps hrow hstep
  | resetPassword tenantId userId password =>
    simp only [SessionHub.step, SessionHub.resetPassword]
    split
    · exact .idle hub.otps
    · next user' hreset =>
      obtain ⟨user, hrow, hactive, hlocked, hversion, hlock⟩ := resetUser_spec hreset
      exact .user userId user user' hub.otps hrow ⟨hactive, hlocked, hversion.ge, .inl hlock⟩

end Steps

section Resets

variable [Bcrypt]

/-- At an administrator's reset, every token issued to the user before is spent. -/
def ResetsSpent (hub : SessionHub) : ℤ × SessionEvent → Prop
  | (now, .resetPassword tenantId userId password) =>
    (hub.resetUser tenantId userId password).isSome →
      ∀ user ∈ hub.users[userId]?, ∀ token ∈ hub.issued, token.sub = userId →
        user.Spent token now
  | _ => True

instance ResetsSpent.decidable (hub : SessionHub) :
    ∀ event : ℤ × SessionEvent, Decidable (ResetsSpent hub event)
  | (now, .resetPassword tenantId userId password) =>
    inferInstanceAs (Decidable ((hub.resetUser tenantId userId password).isSome →
      ∀ user ∈ hub.users[userId]?, ∀ token ∈ hub.issued, token.sub = userId →
        user.Spent token now))
  | (_, .login ..) => isTrue trivial
  | (_, .loginOtp ..) => isTrue trivial
  | (_, .changePassword ..) => isTrue trivial
  | (_, .logout _) => isTrue trivial

end Resets

section Runs

variable [Bcrypt] [Geography] (jwtExpiryMinutes : ℤ)

/-- The hub after the requests, when no token is out yet. -/
abbrev hubAfter (users : List UserAccount) (events : List (ℤ × SessionEvent)) : SessionHub :=
  run (SessionHub.step jwtExpiryMinutes) ⟨users, [], []⟩ events

theorem hubAfter_versioned (users : List UserAccount) (events : List (ℤ × SessionEvent)) :
    (hubAfter jwtExpiryMinutes users events).Versioned :=
  invariant_run_of_step (fun hub event h => (hubStep jwtExpiryMinutes hub event).versioned h)
    events (fun _ => nofun)

/-- A spent token stays spent through the requests that follow. -/
theorem spent_run {hub : SessionHub} {token : AccessToken} {user : UserAccount} {start : ℤ}
    {events : List (ℤ × SessionEvent)} (hrow : hub.users[token.sub]? = some user)
    (hspent : user.Spent token start) (hordered : (events.map Prod.fst).Pairwise (· ≤ ·))
    (hstart : ∀ e ∈ events, start ≤ e.1) {now : ℤ} (hnow : start ≤ now)
    (hlast : ∀ e ∈ events, e.1 ≤ now) :
    ∃ user', (run (SessionHub.step jwtExpiryMinutes) hub events).users[token.sub]? = some user' ∧
      user'.Spent token now := by
  induction events generalizing hub user start with
  | nil => exact ⟨user, hrow, hspent.mono hnow⟩
  | cons event events ih =>
    rw [List.map_cons, List.pairwise_cons] at hordered
    obtain ⟨user', hrow', hstep⟩ := (hubStep jwtExpiryMinutes hub event).userStep hrow
    have hspent' := (hspent.mono (hstart event List.mem_cons_self)).step hstep
    exact ih hrow' hspent' hordered.2 (fun e he => hordered.1 e.1 (List.mem_map_of_mem he))
      (hlast event List.mem_cons_self) (fun e he => hlast e (List.mem_cons_of_mem _ he))

/-- A logout and a password change make the earlier tokens of the user spent; a reset does
when they were. -/
theorem spent_of_revokes {hub : SessionHub} (hversioned : hub.Versioned)
    {event : ℤ × SessionEvent} (hok : ResetsSpent hub event) {userId : ℕ}
    (hrevokes : hub.revokes event = some userId) {token : AccessToken}
    (htoken : token ∈ hub.issued) (hsub : token.sub = userId) :
    ∃ user', (hub.step jwtExpiryMinutes event).users[token.sub]? = some user' ∧
      user'.Spent token event.1 := by
  obtain ⟨user, hrow, -, hversion⟩ := hversioned token htoken
  obtain ⟨now, event⟩ := event
  have hraised : ∀ (user' : UserAccount) (users : List UserAccount),
      users = hub.users.set token.sub user' → user'.tokenVersion = user.tokenVersion + 1 →
      ∃ user', users[token.sub]? = some user' ∧ user'.Spent token now := by
    rintro user' users rfl hraised
    refine ⟨user', List.getElem?_set_self (List.getElem?_eq_some_iff.mp hrow).1, .inl ?_⟩
    omega
  cases event with
  | login email password config surroundings otpCode jti ip => nomatch hrevokes
  | loginOtp email code jti => nomatch hrevokes
  | changePassword used currentPassword newPassword jti =>
    obtain ⟨user', hchanged, rfl⟩ := Option.map_eq_some_iff.mp hrevokes
    obtain ⟨found, hfound, -, -, hnext⟩ := changedUser_spec hchanged
    rw [← hsub] at hfound
    obtain rfl : user = found := Option.some.inj (hrow.symm.trans hfound)
    refine hraised user' _ ?_ hnext
    simp only [SessionHub.step, SessionHub.changePassword, hchanged, SessionHub.issue, hsub]
  | logout used =>
    obtain ⟨user', hout, rfl⟩ := Option.map_eq_some_iff.mp hrevokes
    obtain ⟨found, hfound, -, hnext⟩ := loggedOutUser_spec hout
    rw [← hsub] at hfound
    obtain rfl : user = found := Option.some.inj (hrow.symm.trans hfound)
    refine hraised user' _ ?_ hnext
    simp only [SessionHub.step, SessionHub.logout, hout, hsub]
  | resetPassword tenantId id password =>
    obtain ⟨user', hreset, rfl⟩ := Option.map_eq_some_iff.mp hrevokes
    rw [hsub] at hrow ⊢
    have hspent := hok (by rw [hreset]; rfl) user hrow token htoken hsub
    obtain ⟨user'', hrow', hstep⟩ :=
      (hubStep jwtExpiryMinutes hub (now, .resetPassword tenantId id password)).userStep hrow
    exact ⟨user'', hrow', hspent.step hstep⟩

/-- No token that was issued to a user before a logout, a password change or an
administrator's reset of the user is accepted after it. -/
def SessionsRevoked (users : List UserAccount) (events : List (ℤ × SessionEvent)) : Prop :=
  ∀ early event later, early ++ event :: later <+: events → ∀ userId,
    (hubAfter jwtExpiryMinutes users early).revokes event = some userId →
    ∀ token ∈ (hubAfter jwtExpiryMinutes users early).issued, token.sub = userId →
      ∀ now, (∀ e ∈ event :: later, e.1 ≤ now) →
        accepted (hubAfter jwtExpiryMinutes users (early ++ event :: later)).users token now =
          false

/-- A run revokes its sessions exactly when its administrators reset passwords only of users
whose earlier tokens are all spent. -/
theorem sessions_revoked (users : List UserAccount) (events : List (ℤ × SessionEvent))
    (hordered : (events.map Prod.fst).Pairwise (· ≤ ·)) :
    SessionsRevoked jwtExpiryMinutes users events ↔
      AllSteps (SessionHub.step jwtExpiryMinutes) ResetsSpent ⟨users, [], []⟩ events := by
  rw [allSteps_iff_split]
  constructor
  · rintro hrevoked early ⟨now, event⟩ later rfl
    cases event with
    | login email password config surroundings otpCode jti ip => trivial
    | loginOtp email code jti => trivial
    | changePassword used currentPassword newPassword jti => trivial
    | logout used => trivial
    | resetPassword tenantId userId password =>
      intro heffect user huser token htoken hsub
      by_contra hlive
      obtain ⟨user', hreset⟩ := Option.isSome_iff_exists.mp heffect
      obtain ⟨found, hfound, hinUse, hversion⟩ :=
        hubAfter_versioned jwtExpiryMinutes users early token htoken
      obtain rfl : found = user := Option.some.inj (hfound.symm.trans (hsub ▸ huser))
      obtain ⟨found', hfound', hactive, hlocked, hsame, hlock⟩ := resetUser_spec hreset
      obtain rfl : found = found' := Option.some.inj (huser.symm.trans hfound')
      have hrow : (hubAfter jwtExpiryMinutes users
          (early ++ [(now, .resetPassword tenantId userId password)])).users[token.sub]? =
          some user' := by
        rw [hubAfter, run_concat, hsub]
        simp only [SessionHub.step, SessionHub.resetPassword, hreset]
        exact List.getElem?_set_self (List.getElem?_eq_some_iff.mp huser).1
      have hlive' : ¬ user'.Spent token now := by
        simpa only [UserAccount.Spent, hsame, hlock] using hlive
      obtain ⟨t, ht, hok⟩ := exists_accepted hrow
        ⟨hactive.trans hinUse.active, hlocked.trans hinUse.isLocked⟩ (hsame ▸ hversion) hlive'
      have hno := hrevoked early (now, .resetPassword tenantId userId password) []
        ⟨later, by simp⟩ userId (by simp [SessionHub.revokes, hreset]) token htoken hsub t
        (by simpa using ht)
      rw [hok] at hno
      nomatch hno
  · rintro hspent early event later ⟨rest, rfl⟩ userId hrevokes token htoken hsub now hnow
    have hok := hspent early event (later ++ rest) (by simp)
    obtain ⟨user', hrow, hdead⟩ := spent_of_revokes jwtExpiryMinutes
      (hubAfter_versioned jwtExpiryMinutes users early) hok hrevokes htoken hsub
    rw [List.append_assoc, List.map_append, List.pairwise_append, List.cons_append,
      List.map_cons, List.pairwise_cons, List.map_append, List.pairwise_append] at hordered
    obtain ⟨-, ⟨hafter, hlater, -⟩, -⟩ := hordered
    obtain ⟨last, hlast, hrefused⟩ := spent_run jwtExpiryMinutes hrow hdead hlater
      (fun e he => hafter e.1 (List.mem_append_left _ (List.mem_map_of_mem he)))
      (hnow event List.mem_cons_self) (fun e he => hnow e (List.mem_cons_of_mem _ he))
    rw [hubAfter, run_append, run_cons]
    exact hrefused.refused hlast

end Runs

/-- A relationship officer of tenant 1. -/
def signedInOfficer : UserAccount where
  email := "mary@dcp.example"
  hashedPassword := "$2b$correct horse"
  role := "relationship_officer"
  tenantId := some 1
  active := true
  isLocked := false
  forcePasswordReset := false
  failedLoginAttempts := 0
  lockedUntil := none
  tokenVersion := 0

/-- The officer signs in, and gets the token `signInToken`. -/
def officerSignIn : ℤ × SessionEvent :=
  (0, .login "Mary@DCP.example" "correct horse" none ⟨none, none, true⟩ "493021" "j1" none)

def signInToken : AccessToken :=
  ⟨0, "relationship_officer", some 1, 0, "j1", 43200⟩

/-- An administrator's new password for the officer. -/
def officerReset : ℤ × SessionEvent := (second, .resetPassword 1 0 (some "battery staple"))

section Witness

local instance officerBcrypt : Bcrypt := saltless

local instance officerGeography : Geography := nairobi

/-- The token of the sign-in goes on being accepted after the reset. -/
theorem reset_leaves_session :
    ¬ SessionsRevoked 720 [signedInOfficer] [officerSignIn, officerReset] := by
  intro h
  have hrefused := h [officerSignIn] officerReset [] (List.prefix_refl _) 0 (by decide)
    signInToken (by decide) rfl (2 * second) (by decide)
  have haccepted : accepted (hubAfter 720 [signedInOfficer]
      ([officerSignIn] ++ [officerReset])).users signInToken (2 * second) = true := by
    decide
  rw [hrefused] at haccepted
  nomatch haccepted

/-- The same reset once the officer has signed out. -/
theorem sessions_revoked_signed_out :
    SessionsRevoked 720 [signedInOfficer] [officerSignIn, (1, .logout signInToken),
      officerReset] :=
  (sessions_revoked 720 [signedInOfficer] [officerSignIn, (1, .logout signInToken),
    officerReset] (by decide)).mpr (by decide)

end Witness

end FinylDcp
