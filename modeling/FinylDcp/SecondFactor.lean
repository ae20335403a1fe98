import FinylDcp.SessionRevocation
import FinylDcp.SignInDesk
import Mathlib.Logic.Function.Basic

/-!
# The second factor

What stands behind each access token. A token is handed out for a password where no code is
asked for, for a code that was sent within five minutes, or in exchange for one that is accepted;
and whoever holds one has, at some moment of the run, a sign-in with the password behind it.
-/
namespace FinylDcp
open FinylDcp.Runs FinylDcp.Traces

namespace SignInDesk

variable [Bcrypt] [Geography] (jwtExpiryMinutes : ℤ) (desk : SignInDesk)

/-- The tokens that a request hands out. -/
def minted (event : ℤ × SignInEvent) : List AccessToken :=
  (desk.step jwtExpiryMinutes event).hub.issued.drop desk.hub.issued.length

/-- The call that a request makes on the table of codes. -/
def otpCall : ℤ × SignInEvent → Option (ℤ × OtpCall)
  | (now, .login email password whereabouts fingerprint otpCode _ ip) =>
    (desk.account email).bind (fun (userId, user) =>
      if (user.login ⟨now, password, desk.configOf user,
          desk.surroundings userId whereabouts fingerprint⟩).1 = .otpRequired then
        some (now, .generate userId "login" otpCode ip)
      else none)
  | (now, .loginOtp email code _) =>
    (desk.account email).bind (fun (userId, user) =>
      if user.lockedAt now || !user.active then none else some (now, .verify userId code "login"))
  | (now, .otpRequest token purpose code ip) =>
    (desk.caller token now).map (fun _ => (now, .generate token.sub purpose code ip))
  | (now, .otpVerify token code purpose) =>
    (desk.caller token now).map (fun _ => (now, .verify token.sub code purpose))
  | (now, .cleanupExpired) => some (now, .cleanupExpired)
  | _ => none

end SignInDesk

open SignInDesk

section Accounts

variable [Bcrypt] [Geography]

/-- The account's password was given, and nothing stands in the way of its sign-in. -/
inductive PasswordGiven (desk : SignInDesk) : ℤ × SignInEvent → ℕ → UserAccount → Prop
  | intro {now : ℤ} {email password : String} {whereabouts : Whereabouts}
    {fingerprint : Option String} {otpCode jti : String} {ip : Option String} {userId : ℕ}
    {user : UserAccount} (account : desk.account email = some (userId, user))
    (unlocked : user.lockedAt now = false)
    (verified : verifyPassword password user.hashedPassword = true) (active : user.active = true)
    (fences : enforceLoginFences user.role (desk.configOf user) now
      (desk.surroundings userId whereabouts fingerprint) = .ok ()) :
    PasswordGiven desk (now, .login email password whereabouts fingerprint otpCode jti ip) userId
      user

/-- A code for signing in was drawn for the account: behind its password, or for a session that
asks for one. -/
inductive CodeSent (desk : SignInDesk) : ℤ × SignInEvent → ℕ → String → Prop
  | challenge {now : ℤ} {email password : String} {whereabouts : Whereabouts}
    {fingerprint : Option String} {otpCode jti : String} {ip : Option String} {userId : ℕ}
    {user : UserAccount}
    (given : PasswordGiven desk
      (now, .login email password whereabouts fingerprint otpCode jti ip) userId user)
    (asked : stepUp user.role (desk.configOf user) = true) :
    CodeSent desk (now, .login email password whereabouts fingerprint otpCode jti ip) userId
      otpCode
  | asked {now : ℤ} {token : AccessToken} {code : String} {ip : Option String}
    {user : UserAccount} (caller : desk.caller token now = some user) :
    CodeSent desk (now, .otpRequest token "login" code ip) token.sub code

/-- What stands behind a token that a request hands out after a run. -/
inductive AnsweredFor (jwtExpiryMinutes : ℤ) (start : SignInDesk)
    (early : List (ℤ × SignInEvent)) : ℤ × SignInEvent → AccessToken → Prop
  | password {event : ℤ × SignInEvent} {t : AccessToken} {user : UserAccount}
    (given : PasswordGiven (run (step jwtExpiryMinutes) start early) event t.sub user)
    (single : stepUp user.role
      ((run (step jwtExpiryMinutes) start early).configOf user) = false) :
    AnsweredFor jwtExpiryMinutes start early event t
  | code {now sent : ℤ} {email code drawn jti : String} {t : AccessToken}
    {before mid : List (ℤ × SignInEvent)} {source : SignInEvent}
    (split : early = before ++ (sent, source) :: mid)
    (origin : CodeSent (run (step jwtExpiryMinutes) start before) (sent, source) t.sub drawn)
    (checks : Bcrypt.checkpw code (Bcrypt.hashpw drawn) = true)
    (inTime : now ≤ sent + 5 * minute)
    (latest : ∀ between later event other, mid = between ++ event :: later →
      ¬ CodeSent (run (step jwtExpiryMinutes) start (before ++ (sent, source) :: between)) event
        t.sub other)
    (once : ∀ between later event, mid = between ++ event :: later →
      ∀ t' ∈ minted jwtExpiryMinutes
        (run (step jwtExpiryMinutes) start (before ++ (sent, source) :: between)) event,
        (∃ email code jti, event.2 = .loginOtp email code jti) → t'.sub ≠ t.sub) :
    AnsweredFor jwtExpiryMinutes start early (now, .loginOtp email code jti) t
  | renewed {now : ℤ} {token : AccessToken} {currentPassword newPassword jti : String}
    {t : AccessToken} {user : UserAccount} (account : t.sub = token.sub)
    (caller : (run (step jwtExpiryMinutes) start early).caller token now = some user)
    (verified : verifyPassword currentPassword user.hashedPassword = true) :
    AnsweredFor jwtExpiryMinutes start early
      (now, .changePassword token currentPassword newPassword jti) t

end Accounts

section Steps

variable {jwtExpiryMinutes : ℤ} {desk : SignInDesk} {now : ℤ}

theorem account_eq_some {email : String} {userId : ℕ} {user : UserAccount} :
    desk.account email = some (userId, user) ↔
      desk.hub.userByEmail email = some userId ∧ desk.hub.users[userId]? = some user := by
  simp [account, Option.bind_eq_some_iff]

theorem isOk_iff {outcome : OtpOutcome} : outcome.isOk = true ↔ ∃ row, outcome = .ok row := by
  cases outcome <;> simp [OtpOutcome.isOk]

theorem caller_eq_some {token : AccessToken} {user : UserAccount} :
    desk.caller token now = some user ↔
      getCurrentUser desk.hub.users token now = .ok user := by
  unfold caller
  cases getCurrentUser desk.hub.users token now <;> simp [Except.toOption]

variable [Bcrypt]

/-- What the second leg on an account does to the tokens and the codes. -/
theorem hub_loginOtp {hub : SessionHub} {email : String} {userId : ℕ} {user : UserAccount}
    (hemail : hub.userByEmail email = some userId) (hrow : hub.users[userId]? = some user)
    (code jti : String) :
    let checked := verifyOtp hub.otps userId code "login" now
    let left := hub.loginOtp jwtExpiryMinutes now email code jti
    left.issued = hub.issued ++ (if (user.lockedAt now || !user.active) = false ∧
      checked.1.isOk = true then [createAccessToken jwtExpiryMinutes userId user jti now] else []) ∧
    left.otps = if user.lockedAt now || !user.active then hub.otps else checked.2 := by
  intro checked left
  show (SessionHub.loginOtp _ _ _ _ _ _).issued = _ ∧ (SessionHub.loginOtp _ _ _ _ _ _).otps = _
  unfold SessionHub.loginOtp
  simp only [hemail, hrow]
  by_cases hbarred : (user.lockedAt now || !user.active) = true
  · simp [hbarred]
  · by_cases hok : (verifyOtp hub.otps userId code "login" now).1.isOk = true
    · simp [hbarred, hok, checked, SessionHub.issue]
    · simp [hbarred, hok, checked]

theorem account_none {email : String} (h : desk.account email = none) (code jti : String) :
    desk.hub.loginOtp jwtExpiryMinutes now email code jti = desk.hub := by
  unfold SessionHub.loginOtp
  split
  · rfl
  · next userId hemail =>
    split
    · rfl
    · next user hrow =>
      rw [account_eq_some.mpr ⟨hemail, hrow⟩] at h
      nomatch h

theorem changedUser_password {token : AccessToken} {currentPassword newPassword : String}
    {user' : UserAccount}
    (h : desk.hub.changedUser now token currentPassword newPassword = some user') :
    ∃ user, desk.caller token now = some user ∧
      verifyPassword currentPassword user.hashedPassword = true := by
  unfold SessionHub.changedUser at h
  split at h
  · nomatch h
  · next user hok =>
    dsimp only at h
    split_ifs at h with hpassword
    exact ⟨user, caller_eq_some.mpr hok, by simpa using hpassword⟩

/-- A row is accepted once in any run of the table. -/
theorem accepted_once {calls later : List (ℤ × OtpCall)} {call call' : ℤ × OtpCall} {row : ℕ}
    (h : (otpStep (otpTable calls) call).1 = .verified (.ok row)) :
    (otpStep (otpTable (calls ++ call :: later)) call').1 ≠ .verified (.ok row) := by
  intro h'
  have hle := acceptances_le_one (calls ++ call :: later ++ [call']) row
  rw [acceptances_concat, if_pos h'] at hle
  have hone : 1 ≤ acceptances row (otpTrace (calls ++ call :: later)) := by
    rw [acceptances, otpTrace, trace_append, List.countP_append, trace, List.countP_cons_of_pos]
    · omega
    · simpa using h
  omega

variable [Geography]

theorem login_reply (user : UserAccount) (attempt : LoginAttempt) :
    ((user.login attempt).1 = .granted ↔ user.lockedAt attempt.now = false ∧
      verifyPassword attempt.password user.hashedPassword = true ∧ user.active = true ∧
      enforceLoginFences user.role attempt.config attempt.now attempt.surroundings = .ok () ∧
      stepUp user.role attempt.config = false) ∧
    ((user.login attempt).1 = .otpRequired ↔ user.lockedAt attempt.now = false ∧
      verifyPassword attempt.password user.hashedPassword = true ∧ user.active = true ∧
      enforceLoginFences user.role attempt.config attempt.now attempt.surroundings = .ok () ∧
      stepUp user.role attempt.config = true) := by
  unfold UserAccount.login
  by_cases hlocked : user.lockedAt attempt.now = true
  · simp [hlocked]
  by_cases hpassword : verifyPassword attempt.password user.hashedPassword = true
  · by_cases hactive : user.active = true
    · have hrole : user.clearFailures.role = user.role := rfl
      simp only [hlocked, hpassword, hactive, hrole]
      cases enforceLoginFences user.role attempt.config attempt.now attempt.surroundings with
      | error failure => simp
      | ok passed => cases stepUp user.role attempt.config <;> simp
    · simp [hlocked, hpassword, hactive]
  · simp [hlocked, hpassword]

/-- What the password leg on an account does to the tokens and the codes. -/
theorem hub_login {hub : SessionHub} {email : String} {userId : ℕ} {user : UserAccount}
    (hemail : hub.userByEmail email = some userId) (hrow : hub.users[userId]? = some user)
    (password : String) (config : Option SecurityConfig) (surroundings : Surroundings)
    (otpCode jti : String) (ip : Option String) :
    let reply := user.login ⟨now, password, config, surroundings⟩
    let left := hub.login jwtExpiryMinutes now email password config surroundings otpCode jti ip
    left.issued = hub.issued ++ (if reply.1 = .granted then
      [createAccessToken jwtExpiryMinutes userId reply.2 jti now] else []) ∧
    left.otps = if reply.1 = .otpRequired then
      generateOtp hub.otps userId "login" otpCode ip now else hub.otps := by
  intro reply left
  show (SessionHub.login _ _ _ _ _ _ _ _ _ _).issued = _ ∧
    (SessionHub.login _ _ _ _ _ _ _ _ _ _).otps = _
  unfold SessionHub.login
  simp only [hemail, hrow]
  rcases hreply : user.login ⟨now, password, config, surroundings⟩ with ⟨kind, user'⟩
  have hkind : reply = (kind, user') := hreply
  rw [hkind]
  cases kind <;> simp [SessionHub.issue]

/-- The table of codes changes by the calls of the requests only. -/
theorem drives_otps : Components.Drives (step jwtExpiryMinutes) otpCall (fun d => d.hub.otps)
    (after otpStep) := by
  intro desk event
  obtain ⟨now, event⟩ := event
  cases event with
  | login email password whereabouts fingerprint otpCode jti ip =>
    simp only [step, SignInDesk.login, otpCall]
    cases haccount : desk.account email with
    | none => rfl
    | some x =>
      obtain ⟨userId, user⟩ := x
      obtain ⟨hemail, hrow⟩ := account_eq_some.mp haccount
      simp only [Option.bind_some]
      rw [(hub_login hemail hrow _ _ _ _ _ _).2]
      split_ifs
      · rfl
      · rfl
  | loginOtp email code jti =>
    simp only [step, otpCall]
    cases haccount : desk.account email with
    | none => rw [account_none haccount]; rfl
    | some x =>
      obtain ⟨userId, user⟩ := x
      obtain ⟨hemail, hrow⟩ := account_eq_some.mp haccount
      simp only [Option.bind_some]
      rw [(hub_loginOtp hemail hrow _ _).2]
      split_ifs
      · rfl
      · rfl
  | otpRequest token purpose code ip =>
    simp only [step, withOtps, SignInDesk.otpRequest, otpCall]
    cases desk.caller token now with
    | none => rfl
    | some user => rfl
  | otpVerify token code purpose =>
    simp only [step, withOtps, SignInDesk.otpVerify, otpCall]
    cases desk.caller token now with
    | none => rfl
    | some user => rfl
  | cleanupExpired => rfl
  | changePassword token currentPassword newPassword jti =>
    simp only [step, SessionHub.changePassword, otpCall]
    split
    · rfl
    · rfl
  | logout token =>
    simp only [step, SessionHub.logout, otpCall]
    split
    · rfl
    · rfl
  | registerDevice token userId fingerprint name platform ip =>
    simp only [step, otpCall]
    split
    · rfl
    · rfl
  | revokeDevice token userId deviceId =>
    simp only [step, otpCall]
    split
    · rfl
    · rfl
  | updateSecurity tenantId body => rfl
  | administered userId user => rfl
  | registered user => rfl

/-- How a request comes to hand out a token. -/
inductive Mint (desk : SignInDesk) : ℤ × SignInEvent → AccessToken → Prop
  | password {event : ℤ × SignInEvent} {t : AccessToken} {user : UserAccount}
    (given : PasswordGiven desk event t.sub user)
    (single : stepUp user.role (desk.configOf user) = false) : Mint desk event t
  | code {now : ℤ} {email code jti : String} {t : AccessToken} {row : ℕ}
    (accepted : (verifyOtp desk.hub.otps t.sub code "login" now).1 = .ok row)
    (called : desk.otpCall (now, .loginOtp email code jti) =
      some (now, .verify t.sub code "login")) : Mint desk (now, .loginOtp email code jti) t
  | renewed {now : ℤ} {token : AccessToken} {currentPassword newPassword jti : String}
    {t : AccessToken} {user : UserAccount} (account : t.sub = token.sub)
    (caller : desk.caller token now = some user)
    (verified : verifyPassword currentPassword user.hashedPassword = true) :
    Mint desk (now, .changePassword token currentPassword newPassword jti) t

/-- A request only adds tokens, each of which it mints. -/
theorem issued_step (event : ℤ × SignInEvent) :
    ∃ new, (desk.step jwtExpiryMinutes event).hub.issued = desk.hub.issued ++ new ∧
      ∀ t ∈ new, Mint desk event t := by
  have hidle : ∀ {event : ℤ × SignInEvent},
      (desk.step jwtExpiryMinutes event).hub.issued = desk.hub.issued →
      ∃ new, (desk.step jwtExpiryMinutes event).hub.issued = desk.hub.issued ++ new ∧
        ∀ t ∈ new, Mint desk event t :=
    fun h => ⟨[], h.trans (List.append_nil _).symm, nofun⟩
  obtain ⟨now, event⟩ := event
  cases event with
  | login email password whereabouts fingerprint otpCode jti ip =>
    cases haccount : desk.account email with
    | none => exact hidle (by simp only [step, SignInDesk.login, haccount])
    | some x =>
      obtain ⟨userId, user⟩ := x
      obtain ⟨hemail, hrow⟩ := account_eq_some.mp haccount
      have hissued := (@hub_login jwtExpiryMinutes now _ _ desk.hub email userId user hemail hrow
        password (desk.configOf user) (desk.surroundings userId whereabouts fingerprint) otpCode
        jti ip).1
      refine ⟨_, Eq.trans ?_ hissued, ?_⟩
      · simp only [step, SignInDesk.login, haccount]
      · intro t ht
        split_ifs at ht with hgranted
        · obtain rfl := List.mem_singleton.mp ht
          obtain ⟨hunlocked, hpassword, hactive, hfences, hsingle⟩ :=
            (login_reply user _).1.mp hgranted
          exact .password ⟨haccount, hunlocked, hpassword, hactive, hfences⟩ hsingle
        · nomatch ht
  | loginOtp email code jti =>
    cases haccount : desk.account email with
    | none => exact hidle (by simp only [step, account_none haccount])
    | some x =>
      obtain ⟨userId, user⟩ := x
      obtain ⟨hemail, hrow⟩ := account_eq_some.mp haccount
      refine ⟨_, (hub_loginOtp hemail hrow code jti).1, ?_⟩
      intro t ht
      split_ifs at ht with hopen
      · obtain rfl := List.mem_singleton.mp ht
        obtain ⟨hunbarred, hok⟩ := hopen
        obtain ⟨row, hrow⟩ := isOk_iff.mp hok
        refine .code hrow ?_
        simpa [otpCall, haccount, createAccessToken] using hunbarred
      · nomatch ht
  | changePassword token currentPassword newPassword jti =>
    cases hchanged : desk.hub.changedUser now token currentPassword newPassword with
    | none => exact hidle (by simp only [step, SessionHub.changePassword, hchanged])
    | some user' =>
      refine ⟨[createAccessToken jwtExpiryMinutes token.sub user' jti now], ?_, ?_⟩
      · simp only [step, SessionHub.changePassword, hchanged, SessionHub.issue]
      · intro t ht
        obtain rfl := List.mem_singleton.mp ht
        obtain ⟨user, hcaller, hpassword⟩ := changedUser_password hchanged
        exact .renewed rfl hcaller hpassword
  | logout token =>
    refine hidle ?_
    simp only [step, SessionHub.logout]
    split
    · rfl
    · rfl
  | otpRequest token purpose code ip => exact hidle rfl
  | otpVerify token code purpose => exact hidle rfl
  | cleanupExpired => exact hidle rfl
  | registerDevice token userId fingerprint name platform ip =>
    refine hidle ?_
    simp only [step]
    split
    · rfl
    · rfl
  | revokeDevice token userId deviceId =>
    refine hidle ?_
    simp only [step]
    split
    · rfl
    · rfl
  | updateSecurity tenantId body => exact hidle rfl
  | administered userId user => exact hidle rfl
  | registered user => exact hidle rfl

theorem issued_append_minted (event : ℤ × SignInEvent) :
    (desk.step jwtExpiryMinutes event).hub.issued =
      desk.hub.issued ++ desk.minted jwtExpiryMinutes event := by
  obtain ⟨new, hnew, -⟩ := @issued_step jwtExpiryMinutes desk _ _ event
  rw [minted, hnew, List.drop_left]

theorem mint_of_mem {event : ℤ × SignInEvent} {t : AccessToken}
    (ht : t ∈ desk.minted jwtExpiryMinutes event) : Mint desk event t := by
  obtain ⟨new, hnew, hmint⟩ := @issued_step jwtExpiryMinutes desk _ _ event
  rw [minted, hnew, List.drop_left] at ht
  exact hmint t ht

theorem otpCall_login {email : String} {userId : ℕ} {user : UserAccount}
    (haccount : desk.account email = some (userId, user)) {password : String}
    {whereabouts : Whereabouts} {fingerprint : Option String} {otpCode jti : String}
    {ip : Option String} :
    desk.otpCall (now, .login email password whereabouts fingerprint otpCode jti ip) =
      if (user.login ⟨now, password, desk.configOf user,
          desk.surroundings userId whereabouts fingerprint⟩).1 = .otpRequired then
        some (now, .generate userId "login" otpCode ip)
      else none := by
  simp only [otpCall, haccount, Option.bind_some]

theorem CodeSent.otpCall {event : ℤ × SignInEvent} {userId : ℕ} {code : String}
    (h : CodeSent desk event userId code) :
    ∃ ip, desk.otpCall event = some (event.1, .generate userId "login" code ip) := by
  cases h with
  | challenge given hasked =>
    cases given with
    | intro haccount hunlocked hpassword hactive hfences =>
      exact ⟨_, (otpCall_login haccount).trans (if_pos ((login_reply _ _).2.mpr
        ⟨hunlocked, hpassword, hactive, hfences, hasked⟩))⟩
  | asked hcaller => simp [SignInDesk.otpCall, hcaller]

/-- A call that draws a code for signing in is a sending of it. -/
theorem codeSent_of_otpCall {event : ℤ × SignInEvent} {sent : ℤ} {userId : ℕ} {code : String}
    {ip : Option String}
    (h : desk.otpCall event = some (sent, .generate userId "login" code ip)) :
    event.1 = sent ∧ CodeSent desk event userId code := by
  obtain ⟨now, event⟩ := event
  cases event with
  | login email password whereabouts fingerprint otpCode jti ip' =>
    obtain ⟨⟨userId', user⟩, haccount, h⟩ := Option.bind_eq_some_iff.mp h
    dsimp only at h
    split_ifs at h with hasked
    obtain ⟨rfl, hcall⟩ := Prod.mk.inj (Option.some.inj h)
    obtain ⟨rfl, -, rfl, -⟩ := OtpCall.generate.inj hcall
    obtain ⟨hunlocked, hpassword, hactive, hfences, hstep⟩ := (login_reply user _).2.mp hasked
    exact ⟨rfl, .challenge ⟨haccount, hunlocked, hpassword, hactive, hfences⟩ hstep⟩
  | loginOtp email code' jti =>
    obtain ⟨⟨userId', user⟩, -, h⟩ := Option.bind_eq_some_iff.mp h
    dsimp only at h
    split_ifs at h
    nomatch (Prod.mk.inj (Option.some.inj h)).2
  | otpRequest token purpose code' ip' =>
    obtain ⟨user, hcaller, h⟩ := Option.map_eq_some_iff.mp h
    obtain ⟨rfl, hcall⟩ := Prod.mk.inj h
    obtain ⟨rfl, rfl, rfl, -⟩ := OtpCall.generate.inj hcall
    exact ⟨rfl, .asked hcaller⟩
  | otpVerify token code' purpose =>
    obtain ⟨user, -, h⟩ := Option.map_eq_some_iff.mp h
    nomatch (Prod.mk.inj h).2
  | cleanupExpired => nomatch (Prod.mk.inj (Option.some.inj h)).2
  | changePassword token currentPassword newPassword jti => nomatch h
  | logout token => nomatch h
  | registerDevice token userId' fingerprint name platform ip' => nomatch h
  | revokeDevice token userId' deviceId => nomatch h
  | updateSecurity tenantId body => nomatch h
  | administered userId' user => nomatch h
  | registered user => nomatch h

end Steps

section Runs

variable [Bcrypt] [Geography] {jwtExpiryMinutes : ℤ} {users : List UserAccount}
  {configs : ℕ → Option SecurityConfig} {devices : List UserDevice}

/-- The codes of a run, in terms of its calls. -/
theorem otps_eq (es : List (ℤ × SignInEvent)) :
    (run (step jwtExpiryMinutes) (opening users configs devices) es).hub.otps =
      otpTable (Components.calls (step jwtExpiryMinutes) otpCall (opening users configs devices)
        es) :=
  drives_otps.run (opening users configs devices) es

/-- A code that is accepted was sent within five minutes, and no other since. -/
theorem source_of_accepted {es : List (ℤ × SignInEvent)} {now : ℤ} {userId row : ℕ}
    {code : String} (h : (verifyOtp (run (step jwtExpiryMinutes) (opening users configs devices)
      es).hub.otps userId code "login" now).1 = .ok row) :
    ∃ before sent source drawn mid, es = before ++ (sent, source) :: mid ∧
      CodeSent (run (step jwtExpiryMinutes) (opening users configs devices) before)
        (sent, source) userId drawn ∧
      Bcrypt.checkpw code (Bcrypt.hashpw drawn) = true ∧
      now ≤ sent + 5 * minute ∧
      row = (run (step jwtExpiryMinutes) (opening users configs devices) before).hub.otps.length ∧
      ∀ between later event other, mid = between ++ event :: later →
        ¬ CodeSent (run (step jwtExpiryMinutes) (opening users configs devices)
          (before ++ (sent, source) :: between)) event userId other := by
  obtain ⟨t, ht, hactive, hchecked, hnow⟩ := verifyOtp_ok h
  obtain ⟨rfl, hpurpose, hlive⟩ := active_iff.mp hactive
  rw [otps_eq] at ht
  obtain ⟨early, sent, drawn, ip, later, hcalls, hhash, hrow, hexpires, hlast⟩ :=
    (rowHistory _ ht).issue
  obtain ⟨before, ⟨sent', source⟩, mid, rfl, hbefore, hcall, hmid⟩ := Components.of_calls_eq hcalls
  rw [hpurpose] at hcall
  obtain ⟨rfl, hsent⟩ := codeSent_of_otpCall hcall
  refine ⟨before, sent', source, drawn, mid, rfl, hsent, hhash ▸ hchecked, hexpires ▸ hnow, ?_,
    ?_⟩
  · rw [otps_eq, hbefore, hrow]
  · rintro between rest event other rfl hother
    obtain ⟨ip', hagain⟩ := hother.otpCall
    refine hlast hlive (event.1, .generate t.userId "login" other ip') ?_ ⟨rfl, hpurpose.symm⟩
    rw [← hmid, Components.calls_append, List.mem_append, Components.calls, List.mem_append]
    refine .inr (.inl ?_)
    rw [run_append, run_cons] at hagain
    rw [hagain]
    exact List.mem_singleton.mpr rfl

/-- Between the sending of a code that is accepted and its acceptance, no other code of the
account is. -/
theorem not_accepted_before {before waited rest : List (ℤ × SignInEvent)} {sent now now' : ℤ}
    {source : SignInEvent} {userId row row' : ℕ} {email drawn code code' jti : String}
    (hsent : CodeSent (run (step jwtExpiryMinutes) (opening users configs devices) before)
      (sent, source) userId drawn)
    (hrow : row =
      (run (step jwtExpiryMinutes) (opening users configs devices) before).hub.otps.length)
    (hlatest : ∀ between later event other, waited = between ++ event :: later →
      ¬ CodeSent (run (step jwtExpiryMinutes) (opening users configs devices)
        (before ++ (sent, source) :: between)) event userId other)
    (haccepted : (verifyOtp (run (step jwtExpiryMinutes) (opening users configs devices)
      (before ++ (sent, source) :: (waited ++ (now', .loginOtp email code' jti) :: rest))).hub.otps
        userId code "login" now).1 = .ok row)
    (hearlier : (verifyOtp (run (step jwtExpiryMinutes) (opening users configs devices)
      (before ++ (sent, source) :: waited)).hub.otps userId code' "login" now').1 = .ok row')
    (hcalled : otpCall (run (step jwtExpiryMinutes) (opening users configs devices)
      (before ++ (sent, source) :: waited)) (now', .loginOtp email code' jti) =
        some (now', .verify userId code' "login")) : False := by
  obtain ⟨before', sent', source', drawn', mid', hsplit, hsent', -, -, hrow', hlatest'⟩ :=
    source_of_accepted hearlier
  have hsame : before = before' := by
    obtain ⟨between, hbefore, hrest⟩ | ⟨between, hbefore, hrest⟩ :=
      List.append_eq_append_iff.mp hsplit
    · cases between with
      | nil => simpa using hbefore.symm
      | cons e between =>
        obtain ⟨rfl, hwaited⟩ := List.cons.inj hrest
        rw [hbefore] at hsent'
        exact absurd hsent' (hlatest between mid' (sent', source') drawn' hwaited)
    · cases between with
      | nil => simpa using hbefore
      | cons e between =>
        obtain ⟨rfl, hmid⟩ := List.cons.inj hrest
        rw [hbefore] at hsent
        exact absurd hsent (hlatest' between waited (sent, source) drawn hmid)
  have hrows : row' = row := by rw [hrow', hrow, hsame]
  rw [hrows, otps_eq] at hearlier
  rw [← List.cons_append, ← List.append_assoc, otps_eq, Components.calls_append, Components.calls,
    hcalled, Option.toList_some, List.singleton_append] at haccepted
  have hfirst : (otpStep (otpTable (Components.calls (step jwtExpiryMinutes) SignInDesk.otpCall
      (opening users configs devices) (before ++ (sent, source) :: waited)))
      (now', .verify userId code' "login")).1 = .verified (.ok row) :=
    congrArg OtpReply.verified hearlier
  exact @accepted_once _ _ _ _ (now, .verify userId code "login") row hfirst
    (congrArg OtpReply.verified haccepted)

/-- Every token is accounted for: by a password where no code is asked for, by the latest code
sent to its account, within five minutes and for the first time, or by one that is accepted. -/
theorem tokens_accounted (jwtExpiryMinutes : ℤ) (users : List UserAccount)
    (configs : ℕ → Option SecurityConfig) (devices : List UserDevice)
    (early : List (ℤ × SignInEvent)) (event : ℤ × SignInEvent) (t : AccessToken)
    (ht : t ∈ minted jwtExpiryMinutes (run (step jwtExpiryMinutes)
      (opening users configs devices) early) event) :
    AnsweredFor jwtExpiryMinutes (opening users configs devices) early event t := by
  cases mint_of_mem ht with
  | password given single => exact .password given single
  | renewed account caller verified => exact .renewed account caller verified
  | @code now email code jti t row accepted called =>
    obtain ⟨before, sent, source, drawn, mid, rfl, hsent, hchecks, hnow, hrow, hlatest⟩ :=
      source_of_accepted accepted
    refine .code rfl hsent hchecks hnow hlatest ?_
    rintro waited rest event' rfl t' ht' ⟨email', code', jti', hevent'⟩ hsub
    obtain ⟨now', event'⟩ := event'
    obtain rfl : event' = _ := hevent'
    cases mint_of_mem ht' with
    | password given single => nomatch given
    | code accepted' called' =>
      rw [hsub] at accepted' called'
      refine not_accepted_before hsent hrow ?_ accepted accepted' called'
      rintro between later event'' other rfl
      exact hlatest between (later ++ (now', .loginOtp email' code' jti') :: rest) event'' other
        (by simp)

/-- A request only comes with a token that was handed out: the signature of any other is not
accepted. -/
def Unforged (desk : SignInDesk) (event : ℤ × SignInEvent) : Prop :=
  ∀ token ∈ event.2.token, token ∈ desk.hub.issued

instance (desk : SignInDesk) (event : ℤ × SignInEvent) : Decidable (Unforged desk event) :=
  inferInstanceAs (Decidable (∀ token ∈ event.2.token, token ∈ desk.hub.issued))

/-- At some moment of the run the account signed in with its password. -/
def PasswordRooted (jwtExpiryMinutes : ℤ) (start : SignInDesk) (es : List (ℤ × SignInEvent))
    (userId : ℕ) : Prop :=
  ∃ before event later user, es = before ++ event :: later ∧
    PasswordGiven (run (step jwtExpiryMinutes) start before) event userId user

theorem PasswordRooted.extend {start : SignInDesk} {es more : List (ℤ × SignInEvent)} {userId : ℕ}
    (h : PasswordRooted jwtExpiryMinutes start es userId) :
    PasswordRooted jwtExpiryMinutes start (es ++ more) userId := by
  obtain ⟨before, event, later, user, rfl, hgiven⟩ := h
  exact ⟨before, event, later ++ more, user, by simp, hgiven⟩

/-- Whoever holds a token has signed in with the password at some moment, within the fences of
that moment, whatever codes and exchanges lie between. -/
theorem tokens_rooted (jwtExpiryMinutes : ℤ) (users : List UserAccount)
    (configs : ℕ → Option SecurityConfig) (devices : List UserDevice)
    (es : List (ℤ × SignInEvent))
    (hsigned : AllSteps (step jwtExpiryMinutes) Unforged (opening users configs devices) es)
    (t : AccessToken)
    (ht : t ∈ (run (step jwtExpiryMinutes) (opening users configs devices) es).hub.issued) :
    PasswordRooted jwtExpiryMinutes (opening users configs devices) es t.sub := by
  induction hlen : es.length using Nat.strong_induction_on generalizing es t with
  | _ n ih =>
    obtain rfl | ⟨early, event, rfl⟩ := List.eq_nil_or_concat' es
    · nomatch ht
    have hearly := (allSteps_append.mp hsigned).1
    have hshort (before later : List (ℤ × SignInEvent)) (hsplit : early = before ++ later)
        (token : AccessToken) (htoken : token ∈
          (run (step jwtExpiryMinutes) (opening users configs devices) before).hub.issued) :
        PasswordRooted jwtExpiryMinutes (opening users configs devices) (early ++ [event])
          token.sub := by
      have hroot := ih before.length (by rw [← hlen, hsplit]; simp) before
        (hearly.of_prefix ⟨later, hsplit.symm⟩) token htoken rfl
      rw [hsplit, List.append_assoc]
      exact hroot.extend
    rw [run_concat, issued_append_minted, List.mem_append] at ht
    obtain hold | hnew := ht
    · exact hshort early [] (List.append_nil _).symm t hold
    cases mint_of_mem hnew with
    | password given single => exact ⟨early, event, [], _, rfl, given⟩
    | renewed account caller verified =>
      have htoken := (allSteps_append.mp hsigned).2.1 _ rfl
      rw [account]
      exact hshort early [] (List.append_nil _).symm _ htoken
    | @code now email code jti t row accepted called =>
      obtain ⟨before, sent, source, drawn, mid, split, origin, -⟩ := source_of_accepted accepted
      generalize t.sub = userId at origin ⊢
      cases origin with
      | challenge given asked =>
        refine ⟨before, _, mid ++ [(now, .loginOtp email code jti)], _, ?_, given⟩
        rw [split, List.append_assoc, List.cons_append]
      | asked caller =>
        rw [split] at hearly
        have htoken := (allSteps_append.mp hearly).2.1 _ rfl
        exact hshort before (_ :: mid) split _ htoken

end Runs

/-- The officer's tenant works from eight to five, asks for codes and knows its devices. -/
def guardedTenant : ℕ → Option SecurityConfig
  | 1 => some { SecurityConfig.default with
      timeFenceEnabled := true
      timeFenceStart := some (480 * minute)
      timeFenceEnd := some (1020 * minute)
      deviceBindingEnabled := true
      requireOtp := true }
  | _ => none

def officerPhone : UserDevice := ⟨0, "a1b2", some "Pixel", none, none, true⟩

/-- The password at nine in the morning in Nairobi, and the code that it brings a minute later. -/
def officerChallenge : ℤ × SignInEvent :=
  (360 * minute,
    .login "Mary@DCP.example" "correct horse" ⟨none, none⟩ (some "a1b2") "493021" "j1" none)

def officerAnswer : ℤ × SignInEvent := (361 * minute, .loginOtp "mary@dcp.example" "493021" "j2")

def answeredToken : AccessToken := ⟨0, "relationship_officer", some 1, 0, "j2", 64860⟩

section Witness

local instance answeredBcrypt : Bcrypt := saltless

local instance answeredGeography : Geography := nairobi

theorem tokens_accounted_answer :
    AnsweredFor 720 (opening [signedInOfficer] guardedTenant [officerPhone]) [officerChallenge]
      officerAnswer answeredToken :=
  tokens_accounted 720 [signedInOfficer] guardedTenant [officerPhone] [officerChallenge]
    officerAnswer answeredToken (by decide)

theorem tokens_rooted_answer :
    PasswordRooted 720 (opening [signedInOfficer] guardedTenant [officerPhone])
      [officerChallenge, officerAnswer] answeredToken.sub :=
  tokens_rooted 720 [signedInOfficer] guardedTenant [officerPhone]
    [officerChallenge, officerAnswer] (by decide) answeredToken (by decide)

end Witness

end FinylDcp
