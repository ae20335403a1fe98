import FinylDcp.Traces
import Mathlib.Data.List.Sort

/-!
# One-time codes

Issue, verification and clean-up of the one-time codes: a new code consumes the outstanding
ones of its user and purpose, a code lives for five minutes and takes three attempts.
-/
namespace FinylDcp
open FinylDcp.Runs FinylDcp.Traces

/-- The `bcrypt` library, by itself and behind `passlib`. A hash draws its salt, and nothing but
`checkpw` reads what came out. -/
class Bcrypt where
  hashpw : String → String
  checkpw : String → String → Bool

/-- A hash checks against its own text and no other. -/
def Bcrypt.Exact [Bcrypt] : Prop :=
  ∀ code drawn, checkpw code (hashpw drawn) = true ↔ code = drawn

/-- A row of `otp_tokens`; times are in microseconds. -/
structure OtpToken where
  userId : ℕ
  otpHash : String
  purpose : String
  expiresAt : ℤ
  consumed : Bool
  attempts : ℕ
  ip : Option String
  createdAt : ℤ
  deriving DecidableEq

/-- A minute, in microseconds. -/
def minute : ℤ := 60000000

def otpTtlMinutes : ℤ := 5

def otpMaxAttempts : ℕ := 3

/-- An outstanding code of the user and purpose. -/
def OtpToken.active (userId : ℕ) (purpose : String) (tok : OtpToken) : Bool :=
  tok.userId = userId && tok.purpose = purpose && !tok.consumed

def OtpToken.consume (tok : OtpToken) : OtpToken := { tok with consumed := true }

section Calls

variable [Bcrypt]

/-- `generate`, with the code that was drawn. -/
def generateOtp (tokens : List OtpToken) (userId : ℕ) (purpose code : String)
    (ip : Option String) (now : ℤ) : List OtpToken :=
  tokens.map (fun tok => if tok.active userId purpose then tok.consume else tok) ++
    [{ userId := userId, otpHash := Bcrypt.hashpw code, purpose := purpose,
       expiresAt := now + otpTtlMinutes * minute, consumed := false, attempts := 0, ip := ip,
       createdAt := now }]

/-- The newest outstanding code, and its row. -/
def newestOtp (tokens : List OtpToken) (userId : ℕ) (purpose : String) :
    Option (OtpToken × ℕ) :=
  ((tokens.zipIdx.filter (fun x => x.1.active userId purpose)).insertionSort
    (fun x y => y.1.createdAt ≤ x.1.createdAt)).head?

/-- What a verification comes to, with the row whose code was compared. -/
inductive OtpOutcome
  | noActiveOtp
  | expired
  | tooManyAttempts
  | invalid (row : ℕ)
  | ok (row : ℕ)
  deriving DecidableEq

def OtpOutcome.isOk : OtpOutcome → Bool
  | .ok _ => true
  | _ => false

def OtpOutcome.reason : OtpOutcome → String
  | .noActiveOtp => "no_active_otp"
  | .expired => "expired"
  | .tooManyAttempts => "too_many_attempts"
  | .invalid _ => "invalid"
  | .ok _ => "ok"

/-- `verify` -/
def verifyOtp (tokens : List OtpToken) (userId : ℕ) (code purpose : String) (now : ℤ) :
    OtpOutcome × List OtpToken :=
  match newestOtp tokens userId purpose with
  | none => (.noActiveOtp, tokens)
  | some (tok, row) =>
    if tok.expiresAt < now then
      (.expired, tokens.set row tok.consume)
    else if otpMaxAttempts ≤ tok.attempts then
      (.tooManyAttempts, tokens.set row tok.consume)
    else
      let tried := { tok with attempts := tok.attempts + 1 }
      if Bcrypt.checkpw code tok.otpHash then (.ok row, tokens.set row tried.consume)
      else (.invalid row, tokens.set row tried)

/-- `cleanup_expired`, with the number of rows it consumed. -/
def cleanupExpired (tokens : List OtpToken) (now : ℤ) : ℕ × List OtpToken :=
  ((tokens.filter (fun tok => !tok.consumed && tok.expiresAt < now)).length,
    tokens.map (fun tok => if !tok.consumed && tok.expiresAt < now then tok.consume else tok))

inductive OtpCall
  | generate (userId : ℕ) (purpose code : String) (ip : Option String)
  | verify (userId : ℕ) (code purpose : String)
  | cleanupExpired
  deriving DecidableEq

inductive OtpReply
  | issued (row : ℕ)
  | verified (outcome : OtpOutcome)
  | cleaned (count : ℕ)
  deriving DecidableEq

/-- One call at its time. -/
def otpStep (tokens : List OtpToken) : ℤ × OtpCall → OtpReply × List OtpToken
  | (now, .generate userId purpose code ip) =>
    (.issued tokens.length, generateOtp tokens userId purpose code ip now)
  | (now, .verify userId code purpose) =>
    let (outcome, tokens) := verifyOtp tokens userId code purpose now
    (.verified outcome, tokens)
  | (now, .cleanupExpired) =>
    let (count, tokens) := cleanupExpired tokens now
    (.cleaned count, tokens)

/-- The tokens after the calls, from the empty table. -/
abbrev otpTable (calls : List (ℤ × OtpCall)) : List OtpToken := run (after otpStep) [] calls

/-- The calls with their replies. -/
abbrev otpTrace (calls : List (ℤ × OtpCall)) : List ((ℤ × OtpCall) × OtpReply) :=
  trace otpStep [] calls

end Calls

/-- How often the row's code was accepted. -/
def acceptances (row : ℕ) (events : List ((ℤ × OtpCall) × OtpReply)) : ℕ :=
  events.countP (fun e => e.2 = .verified (.ok row))

/-- How often a code was compared with the row's. -/
def comparisons (row : ℕ) (events : List ((ℤ × OtpCall) × OtpReply)) : ℕ :=
  events.countP (fun e => e.2 = .verified (.ok row) || e.2 = .verified (.invalid row))

/-- The call issues a code for the user and purpose. -/
def OtpCall.reissues (userId : ℕ) (purpose : String) : OtpCall → Prop
  | .generate user p _ _ => user = userId ∧ p = purpose
  | _ => False

section Rows

theorem newestOtp_spec {tokens : List OtpToken} {userId : ℕ} {purpose : String}
    {tok : OtpToken} {row : ℕ} (h : newestOtp tokens userId purpose = some (tok, row)) :
    tokens[row]? = some tok ∧ tok.active userId purpose = true := by
  have hmem := (List.mem_insertionSort _).mp (List.mem_of_mem_head? h)
  obtain ⟨hrow, hactive⟩ := List.mem_filter.mp hmem
  exact ⟨List.mem_zipIdx_iff_getElem?.mp hrow, hactive⟩

theorem active_iff {userId : ℕ} {purpose : String} {tok : OtpToken} :
    tok.active userId purpose = true ↔
      tok.userId = userId ∧ tok.purpose = purpose ∧ tok.consumed = false := by
  simp [OtpToken.active, and_assoc]

/-- What a call may do to a row: user, purpose, code and lifetime stay, a consumed row stays
consumed, and the attempts grow by the comparison. -/
structure RowStep (call : OtpCall) (reply : OtpReply) (row : ℕ) (t t' : OtpToken) : Prop where
  user : t'.userId = t.userId
  purpose : t'.purpose = t.purpose
  code : t'.otpHash = t.otpHash
  expires : t'.expiresAt = t.expiresAt
  live : t'.consumed = false → t.consumed = false ∧ ¬ call.reissues t.userId t.purpose ∧
    reply ≠ .verified (.ok row)
  attempts : t'.attempts = t.attempts +
    (if reply = .verified (.ok row) ∨ reply = .verified (.invalid row) then 1 else 0)
  accepted : reply = .verified (.ok row) → t.consumed = false
  room : reply = .verified (.ok row) ∨ reply = .verified (.invalid row) →
    t.attempts < otpMaxAttempts

theorem RowStep.of_eq {call : OtpCall} {reply : OtpReply} {row : ℕ} {t : OtpToken}
    (hlive : t.consumed = false → ¬ call.reissues t.userId t.purpose)
    (hok : reply ≠ .verified (.ok row)) (hinvalid : reply ≠ .verified (.invalid row)) :
    RowStep call reply row t t where
  user := rfl
  purpose := rfl
  code := rfl
  expires := rfl
  live h := ⟨h, hlive h, hok⟩
  attempts := by simp [hok, hinvalid]
  accepted h := absurd h hok
  room h := by simp [hok, hinvalid] at h

theorem RowStep.of_consume {call : OtpCall} {reply : OtpReply} {row : ℕ} {t : OtpToken}
    (hok : reply ≠ .verified (.ok row)) (hinvalid : reply ≠ .verified (.invalid row)) :
    RowStep call reply row t t.consume where
  user := rfl
  purpose := rfl
  code := rfl
  expires := rfl
  live h := nomatch h
  attempts := by simp [OtpToken.consume, hok, hinvalid]
  accepted h := absurd h hok
  room h := by simp [hok, hinvalid] at h

variable {tokens : List OtpToken} {row : ℕ} {t : OtpToken}

theorem rowStep_cleanup (hrow : tokens[row]? = some t) (now : ℤ) :
    ∃ t', (cleanupExpired tokens now).2[row]? = some t' ∧
      RowStep .cleanupExpired (.cleaned (cleanupExpired tokens now).1) row t t' := by
  refine ⟨if !t.consumed && t.expiresAt < now then t.consume else t, ?_, ?_⟩
  · rw [cleanupExpired, List.getElem?_map, hrow, Option.map_some]
  · split
    · exact .of_consume nofun nofun
    · exact .of_eq (fun _ => id) nofun nofun

variable [Bcrypt]

theorem rowStep_generate (hrow : tokens[row]? = some t) (userId : ℕ) (purpose code : String)
    (ip : Option String) (now : ℤ) :
    ∃ t', (generateOtp tokens userId purpose code ip now)[row]? = some t' ∧
      RowStep (.generate userId purpose code ip) (.issued tokens.length) row t t' := by
  have hlt := (List.getElem?_eq_some_iff.mp hrow).1
  refine ⟨if t.active userId purpose then t.consume else t, ?_, ?_⟩
  · rw [generateOtp, List.getElem?_append_left (by simpa using hlt), List.getElem?_map, hrow,
      Option.map_some]
  · split
    · exact .of_consume nofun nofun
    · next hnot =>
      refine .of_eq (fun hlive hissue => hnot ?_) nofun nofun
      exact active_iff.mpr ⟨hissue.1.symm, hissue.2.symm, hlive⟩

theorem rowStep_verify (hrow : tokens[row]? = some t) (userId : ℕ) (code purpose : String)
    (now : ℤ) :
    ∃ t', (verifyOtp tokens userId code purpose now).2[row]? = some t' ∧
      RowStep (.verify userId code purpose)
        (.verified (verifyOtp tokens userId code purpose now).1) row t t' := by
  have hcall : ∀ (u : ℕ) (p : String), ¬ (OtpCall.verify userId code purpose).reissues u p :=
    fun _ _ => id
  have hlt := (List.getElem?_eq_some_iff.mp hrow).1
  unfold verifyOtp
  split
  · exact ⟨t, hrow, .of_eq (fun _ => hcall _ _) nofun nofun⟩
  · next tok found hfound =>
    obtain ⟨htok, hactive⟩ := newestOtp_spec hfound
    by_cases hsame : found = row
    · obtain rfl := hsame
      obtain rfl : t = tok := Option.some.inj (hrow.symm.trans htok)
      split_ifs with hexpired hmany hcode
      · exact ⟨t.consume, List.getElem?_set_self hlt, .of_consume nofun nofun⟩
      · exact ⟨t.consume, List.getElem?_set_self hlt, .of_consume nofun nofun⟩
      · refine ⟨_, List.getElem?_set_self hlt, ?_⟩
        exact {
          user := rfl
          purpose := rfl
          code := rfl
          expires := rfl
          live := nofun
          attempts := by simp [OtpToken.consume]
          accepted := fun _ => (active_iff.mp hactive).2.2
          room := fun _ => not_le.mp hmany }
      · refine ⟨_, List.getElem?_set_self hlt, ?_⟩
        exact {
          user := rfl
          purpose := rfl
          code := rfl
          expires := rfl
          live := fun h => ⟨h, hcall _ _, nofun⟩
          attempts := by simp
          accepted := nofun
          room := fun _ => not_le.mp hmany }
    · split_ifs
      · exact ⟨t, by rwa [List.getElem?_set_ne hsame], .of_eq (fun _ => hcall _ _) nofun nofun⟩
      · exact ⟨t, by rwa [List.getElem?_set_ne hsame], .of_eq (fun _ => hcall _ _) nofun nofun⟩
      · refine ⟨t, by rwa [List.getElem?_set_ne hsame], .of_eq (fun _ => hcall _ _) ?_ nofun⟩
        simpa using hsame
      · refine ⟨t, by rwa [List.getElem?_set_ne hsame], .of_eq (fun _ => hcall _ _) nofun ?_⟩
        simpa using hsame

/-- Each call does to each row what `RowStep` allows. -/
theorem rowStep (hrow : tokens[row]? = some t) (call : ℤ × OtpCall) :
    ∃ t', (after otpStep tokens call)[row]? = some t' ∧
      RowStep call.2 (otpStep tokens call).1 row t t' := by
  obtain ⟨now, call⟩ := call
  cases call with
  | generate userId purpose code ip => exact rowStep_generate hrow userId purpose code ip now
  | verify userId code purpose => exact rowStep_verify hrow userId code purpose now
  | cleanupExpired => exact rowStep_cleanup hrow now

/-- No call removes a row. -/
theorem length_le_after (tokens : List OtpToken) (call : ℤ × OtpCall) :
    tokens.length ≤ (after otpStep tokens call).length := by
  by_contra hlt
  have hin := not_le.mp hlt
  obtain ⟨t', ht', -⟩ := rowStep (List.getElem?_eq_getElem hin) call
  exact absurd ht' (by simp)

end Rows

section Histories

variable [Bcrypt]

/-- Only a new code makes a new row. -/
theorem new_row {tokens : List OtpToken} {row : ℕ} {t' : OtpToken} {call : ℤ × OtpCall}
    (hnew : tokens.length ≤ row) (ht' : (after otpStep tokens call)[row]? = some t') :
    ∃ userId purpose code ip, call.2 = .generate userId purpose code ip ∧ row = tokens.length ∧
      t' = { userId := userId, otpHash := Bcrypt.hashpw code, purpose := purpose,
             expiresAt := call.1 + otpTtlMinutes * minute, consumed := false, attempts := 0,
             ip := ip, createdAt := call.1 } := by
  have hlt := (List.getElem?_eq_some_iff.mp ht').1
  obtain ⟨now, call⟩ := call
  cases call with
  | generate userId purpose code ip =>
    simp only [after, otpStep, generateOtp] at ht' hlt
    have hrow : row = tokens.length := by
      simp only [List.length_append, List.length_map, List.length_singleton] at hlt
      omega
    subst hrow
    rw [List.getElem?_append_right (by simp)] at ht'
    exact ⟨userId, purpose, code, ip, rfl, rfl, by simpa using ht'.symm⟩
  | verify userId code purpose =>
    have hlen : (after otpStep tokens (now, .verify userId code purpose)).length =
        tokens.length := by
      simp only [after, otpStep, verifyOtp]
      split
      · rfl
      · split_ifs <;> simp
    omega
  | cleanupExpired =>
    simp only [after, otpStep, cleanupExpired, List.length_map] at hlt
    omega

/-- What an accepted code says of its row. -/
theorem verifyOtp_ok {tokens : List OtpToken} {userId : ℕ} {code purpose : String} {now : ℤ}
    {row : ℕ} (h : (verifyOtp tokens userId code purpose now).1 = .ok row) :
    ∃ t, tokens[row]? = some t ∧ t.active userId purpose = true ∧
      Bcrypt.checkpw code t.otpHash = true ∧ now ≤ t.expiresAt := by
  unfold verifyOtp at h
  split at h
  · nomatch h
  · next tok found hfound =>
    obtain ⟨htok, hactive⟩ := newestOtp_spec hfound
    split_ifs at h with hexpired hmany hcode
    obtain rfl : found = row := by simpa using h
    exact ⟨tok, htok, hactive, hcode, not_lt.mp hexpired⟩

/-- A code is compared with a row that is there. -/
theorem compared_row {tokens : List OtpToken} {call : ℤ × OtpCall} {row : ℕ}
    (h : (otpStep tokens call).1 = .verified (.ok row) ∨
      (otpStep tokens call).1 = .verified (.invalid row)) : row < tokens.length := by
  obtain ⟨now, call⟩ := call
  cases call with
  | generate userId purpose code ip => simp [otpStep] at h
  | cleanupExpired => simp [otpStep] at h
  | verify userId code purpose =>
    simp only [otpStep, OtpReply.verified.injEq, verifyOtp] at h
    split at h
    · simp at h
    · next tok found hfound =>
      have hlt := (List.getElem?_eq_some_iff.mp (newestOtp_spec hfound).1).1
      split_ifs at h
      · simp at h
      · simp at h
      · obtain rfl : found = row := by simpa using h
        exact hlt
      · obtain rfl : found = row := by simpa using h
        exact hlt

/-- The history of a row: the call that issued it, with no later issue to its user and
purpose while it is live, and what was compared with it and accepted. -/
structure RowHistory (calls : List (ℤ × OtpCall)) (row : ℕ) (t : OtpToken) : Prop where
  issue : ∃ before now code ip later,
    calls = before ++ (now, .generate t.userId t.purpose code ip) :: later ∧
      t.otpHash = Bcrypt.hashpw code ∧
      row = (otpTable before).length ∧ t.expiresAt = now + otpTtlMinutes * minute ∧
      (t.consumed = false → ∀ call ∈ later, ¬ call.2.reissues t.userId t.purpose)
  compared : comparisons row (otpTrace calls) = t.attempts
  room : t.attempts ≤ otpMaxAttempts
  accepted : acceptances row (otpTrace calls) ≤ if t.consumed then 1 else 0

variable (calls : List (ℤ × OtpCall)) (call : ℤ × OtpCall) (row : ℕ)

theorem comparisons_concat :
    comparisons row (otpTrace (calls ++ [call])) = comparisons row (otpTrace calls) +
      (if (otpStep (otpTable calls) call).1 = .verified (.ok row) ∨
        (otpStep (otpTable calls) call).1 = .verified (.invalid row) then 1 else 0) := by
  rw [otpTrace, trace_concat, comparisons, List.countP_append, List.countP_singleton]
  simp [comparisons]

theorem acceptances_concat :
    acceptances row (otpTrace (calls ++ [call])) = acceptances row (otpTrace calls) +
      (if (otpStep (otpTable calls) call).1 = .verified (.ok row) then 1 else 0) := by
  rw [otpTrace, trace_concat, acceptances, List.countP_append, List.countP_singleton]
  simp [acceptances]

variable {calls call row}

theorem RowHistory.extend {t t' : OtpToken} (h : RowHistory calls row t)
    (hstep : RowStep call.2 (otpStep (otpTable calls) call).1 row t t') :
    RowHistory (calls ++ [call]) row t' where
  issue := by
    obtain ⟨before, now, code, ip, later, rfl, hhash, hrow, hexpires, hlater⟩ := h.issue
    rw [hstep.user, hstep.purpose, hstep.code, hstep.expires]
    refine ⟨before, now, code, ip, later ++ [call], by simp, hhash, hrow, hexpires,
      fun hlive c hc => ?_⟩
    obtain ⟨hold, hcall, -⟩ := hstep.live hlive
    obtain hc | hc := List.mem_append.mp hc
    · exact hlater hold c hc
    · rwa [List.mem_singleton.mp hc]
  compared := by rw [comparisons_concat, h.compared, hstep.attempts]
  room := by
    rw [hstep.attempts]
    split
    · next hcompared => exact hstep.room hcompared
    · exact h.room
  accepted := by
    have hold := h.accepted
    rw [acceptances_concat]
    by_cases hok : (otpStep (otpTable calls) call).1 = .verified (.ok row)
    · have hconsumed : t'.consumed = true := by
        by_contra hlive
        exact (hstep.live (Bool.eq_false_iff.mpr hlive)).2.2 hok
      rw [hstep.accepted hok] at hold
      rw [if_pos hok, if_pos hconsumed]
      exact Nat.add_le_add_right hold 1
    · rw [if_neg hok, Nat.add_zero]
      refine hold.trans ?_
      by_cases hlive : t'.consumed = false
      · rw [(hstep.live hlive).1, hlive]
      · rw [if_pos (Bool.eq_true_of_not_eq_false hlive)]
        split
        · exact le_refl 1
        · exact Nat.zero_le 1

/-- A row that is not there yet has not been compared. -/
theorem comparisons_eq_zero (hrow : (otpTable calls).length ≤ row) :
    comparisons row (otpTrace calls) = 0 ∧ acceptances row (otpTrace calls) = 0 := by
  induction calls using List.reverseRecOn with
  | nil => exact ⟨rfl, rfl⟩
  | append_singleton calls call ih =>
    have hlen := length_le_after (otpTable calls) call
    rw [otpTable, run_concat] at hrow
    have hold : (otpTable calls).length ≤ row := hlen.trans hrow
    obtain ⟨hcompared, haccepted⟩ := ih hold
    have hnot := mt (@compared_row _ (otpTable calls) call row) (not_lt.mpr hold)
    rw [comparisons_concat, acceptances_concat, hcompared, haccepted, if_neg hnot,
      if_neg (fun h => hnot (.inl h))]
    exact ⟨rfl, rfl⟩

/-- Every row of a reachable table has its history. -/
theorem rowHistory (calls : List (ℤ × OtpCall)) {t : OtpToken}
    (ht : (otpTable calls)[row]? = some t) : RowHistory calls row t := by
  induction calls using List.reverseRecOn generalizing t with
  | nil => simp [otpTable] at ht
  | append_singleton calls call ih =>
    rw [otpTable, run_concat] at ht
    by_cases hnew : (otpTable calls).length ≤ row
    · obtain ⟨userId, purpose, code, ip, hcall, hrow, rfl⟩ := new_row hnew ht
      obtain ⟨hcompared, haccepted⟩ := comparisons_eq_zero hnew
      have hreply : (otpStep (otpTable calls) call).1 = .issued (otpTable calls).length := by
        obtain ⟨now, call⟩ := call
        obtain rfl : call = _ := hcall
        rfl
      exact {
        issue := ⟨calls, call.1, code, ip, [], by rw [← hcall], rfl, hrow, rfl, fun _ => nofun⟩
        compared := by simp [comparisons_concat, hcompared, hreply]
        room := Nat.zero_le _
        accepted := by simp [acceptances_concat, haccepted, hreply] }
    · obtain ⟨t₀, ht₀⟩ : ∃ t₀, (otpTable calls)[row]? = some t₀ :=
        ⟨_, List.getElem?_eq_getElem (not_le.mp hnew)⟩
      obtain ⟨t', ht', hstep⟩ := rowStep ht₀ call
      obtain rfl : t' = t := Option.some.inj (ht'.symm.trans ht)
      exact (ih ht₀).extend hstep

theorem acceptances_le_one (calls : List (ℤ × OtpCall)) (row : ℕ) :
    acceptances row (otpTrace calls) ≤ 1 := by
  by_cases hrow : (otpTable calls).length ≤ row
  · exact (comparisons_eq_zero hrow).2 ▸ Nat.zero_le 1
  · have h := (rowHistory calls (List.getElem?_eq_getElem (not_le.mp hrow))).accepted
    refine h.trans ?_
    split
    · exact le_refl 1
    · exact Nat.zero_le 1

theorem comparisons_le (calls : List (ℤ × OtpCall)) (row : ℕ) :
    comparisons row (otpTrace calls) ≤ otpMaxAttempts := by
  by_cases hrow : (otpTable calls).length ≤ row
  · exact (comparisons_eq_zero hrow).1 ▸ Nat.zero_le otpMaxAttempts
  · have h := rowHistory calls (List.getElem?_eq_getElem (not_le.mp hrow))
    exact h.compared ▸ h.room

end Histories

/-- An accepted code is the outstanding one that was issued last to its user and purpose,
within its five minutes; no code is accepted twice and none is compared more than three times;
and no call, a wrong guess included, lengthens a code's life or takes attempts back. -/
theorem one_time_codes [Bcrypt] (hexact : Bcrypt.Exact) (calls : List (ℤ × OtpCall)) :
    (∀ early now userId code purpose row later,
      calls = early ++ (now, .verify userId code purpose) :: later →
      (otpStep (otpTable early) (now, .verify userId code purpose)).1 = .verified (.ok row) →
      ∃ t, (otpTable early)[row]? = some t ∧ t.consumed = false ∧
        ∃ before issued ip between,
          early = before ++ (issued, .generate userId purpose code ip) :: between ∧
          row = (otpTable before).length ∧
          (∀ call ∈ between, ¬ call.2.reissues userId purpose) ∧
          now ≤ issued + otpTtlMinutes * minute) ∧
    (∀ row, acceptances row (otpTrace calls) ≤ 1) ∧
    (∀ row, comparisons row (otpTrace calls) ≤ 3) ∧
    (∀ early call later (row : ℕ) (t : OtpToken), calls = early ++ call :: later →
      (otpTable early)[row]? = some t →
      ∃ t' : OtpToken, (otpTable (early ++ [call]))[row]? = some t' ∧ t'.expiresAt = t.expiresAt ∧
        t.attempts ≤ t'.attempts ∧ (t.consumed = true → t'.consumed = true)) := by
  refine ⟨?_, acceptances_le_one calls, comparisons_le calls, ?_⟩
  · rintro early now userId code purpose row later - hok
    obtain ⟨t, ht, hactive, hchecked, hnow⟩ := verifyOtp_ok (OtpReply.verified.inj hok)
    obtain ⟨rfl, rfl, hlive⟩ := active_iff.mp hactive
    obtain ⟨before, issued, drawn, ip, between, hcalls, hhash, hrow, hexpires, hlast⟩ :=
      (rowHistory early ht).issue
    obtain rfl : code = drawn := (hexact code drawn).mp (hhash ▸ hchecked)
    exact ⟨t, ht, hlive, before, issued, ip, between, hcalls, hrow, hlast hlive,
      hexpires ▸ hnow⟩
  · rintro early call later row t - ht
    obtain ⟨t', ht', hstep⟩ := rowStep ht call
    refine ⟨t', by rwa [otpTable, run_concat], hstep.expires, ?_, fun hconsumed => ?_⟩
    · exact hstep.attempts ▸ Nat.le_add_right _ _
    · by_contra hlive
      have hold := (hstep.live (Bool.eq_false_iff.mpr hlive)).1
      rw [hconsumed] at hold
      nomatch hold

/-- Hashes that keep the text and leave the salt out. -/
abbrev saltless : Bcrypt where
  hashpw code := "$2b$" ++ code
  checkpw code hashed := hashed = "$2b$" ++ code

theorem saltless_exact : @Bcrypt.Exact saltless := by
  intro code drawn
  show decide ("$2b$" ++ drawn = "$2b$" ++ code) = true ↔ code = drawn
  rw [decide_eq_true_iff, String.append_right_inj]
  exact eq_comm

/-- A code and a wrong guess at it. -/
def wrongGuess : List (ℤ × OtpCall) :=
  [(0, .generate 4 "login" "493021" none), (60, .verify 4 "493012" "login")]

section Witness

local instance guessBcrypt : Bcrypt := saltless

/-- The right code after it, and the right code again. -/
theorem one_time_codes_second_guess :
    (otpTrace (wrongGuess ++ [(90, .verify 4 "493021" "login"),
      (95, .verify 4 "493021" "login")])).map Prod.snd =
        [.issued 0, .verified (.invalid 0), .verified (.ok 0), .verified .noActiveOtp] ∧
    ∃ before issued ip between,
      wrongGuess = before ++ (issued, .generate 4 "login" "493021" ip) :: between ∧
      90 ≤ issued + otpTtlMinutes * minute := by
  refine ⟨by decide, ?_⟩
  obtain ⟨t, -, -, before, issued, ip, between, hearly, -, -, hnow⟩ := (one_time_codes
    saltless_exact (wrongGuess ++
      [(90, .verify 4 "493021" "login"), (95, .verify 4 "493021" "login")])).1
    wrongGuess 90 4 "493021" "login" 0 [(95, .verify 4 "493021" "login")] rfl (by decide)
  exact ⟨before, issued, ip, between, hearly, hnow⟩

end Witness

end FinylDcp
