import FinylDcp.SignIn

/-!
# The lockout of an account

Runs of attempts on one account. The lock that the fifth failure in a row sets is the distance
to the next comparison, and each later failure sets it again.
-/
namespace FinylDcp
open FinylDcp.Runs FinylDcp.Traces

/-- The account after the attempts. -/
abbrev UserAccount.afterLogins [Bcrypt] [Geography] (user : UserAccount)
    (attempts : List LoginAttempt) : UserAccount := run (after UserAccount.login) user attempts

/-- The password comparisons of a run: when, and whether the password was right. -/
def loginComparisons [Bcrypt] [Geography] (user : UserAccount) (attempts : List LoginAttempt) :
    List (ℤ × Bool) :=
  (trace UserAccount.login user attempts).filterMap
    (fun e => e.2.compared.map (fun correct => (e.1.now, correct)))

/-- The temporary lock and the count, as the failures in a row at the end of the comparisons
determine them. -/
structure Counted (comparisons : List (ℤ × Bool)) (user : UserAccount) : Prop where
  count : ∀ pre fails, comparisons = pre ++ fails → (∀ c ∈ fails, c.2 = false) →
    fails.length ≤ user.failedLoginAttempts
  lock : ∀ pre last, comparisons = pre ++ [(last, false)] →
    maxFailedAttempts ≤ user.failedLoginAttempts →
    user.lockedUntil = some (last + lockoutMinutes * minute)

section Run

variable [Bcrypt] [Geography] (user : UserAccount) (attempts : List LoginAttempt)
  (attempt : LoginAttempt)

theorem afterLogins_concat : user.afterLogins (attempts ++ [attempt]) =
    ((user.afterLogins attempts).login attempt).2 :=
  run_concat _ _ _ _

theorem loginComparisons_concat :
    loginComparisons user (attempts ++ [attempt]) = loginComparisons user attempts ++
      (((user.afterLogins attempts).login attempt).1.compared.map
        (fun correct => (attempt.now, correct))).toList := by
  rw [loginComparisons, trace_concat, List.filterMap_append, ← loginComparisons,
    List.filterMap_cons, List.filterMap_nil]
  cases ((user.afterLogins attempts).login attempt).1.compared <;> rfl

theorem loginComparisons_sublist :
    ((loginComparisons user attempts).map Prod.fst).Sublist (attempts.map (·.now)) := by
  induction attempts using List.reverseRecOn with
  | nil => exact List.Sublist.refl _
  | append_singleton attempts attempt ih =>
    rw [loginComparisons_concat, List.map_append, List.map_append]
    refine ih.append ?_
    cases ((user.afterLogins attempts).login attempt).1.compared with
    | none => exact List.nil_sublist _
    | some correct => exact List.Sublist.refl _

end Run

section Steps

variable {user : UserAccount} {comparisons : List (ℤ × Bool)}

/-- The right password ends the failures in a row. -/
theorem counted_of_correct (comparisons : List (ℤ × Bool)) (now : ℤ) (user : UserAccount) :
    Counted (comparisons ++ [(now, true)]) user where
  count pre fails hsplit hfails := by
    cases fails using List.reverseRecOn with
    | nil => exact Nat.zero_le _
    | append_singleton fails last _ =>
      rw [← List.append_assoc] at hsplit
      have hlast := (List.append_inj' hsplit rfl).2
      obtain rfl : (now, true) = last := by simpa using hlast
      exact absurd (hfails (now, true) (by simp)) (by simp)
  lock pre last hsplit _ := by
    have hlast := (List.append_inj' hsplit rfl).2
    simp at hlast

theorem Counted.of_failure (h : Counted comparisons user) (now : ℤ) :
    Counted (comparisons ++ [(now, false)]) (user.countFailure now) where
  count pre fails hsplit hfails := by
    cases fails using List.reverseRecOn with
    | nil => exact Nat.zero_le _
    | append_singleton fails last _ =>
      rw [← List.append_assoc] at hsplit
      have hold := h.count pre fails (List.append_inj' hsplit rfl).1
        fun c hc => hfails c (List.mem_append_left _ hc)
      simpa [UserAccount.countFailure] using hold
  lock pre last hsplit hmany := by
    have hlast := (List.append_inj' hsplit rfl).2
    obtain rfl : now = last := by simpa using hlast
    exact if_pos hmany

/-- A comparison that follows on five failures in a row comes a lockout after the last. -/
theorem Counted.spaced (h : Counted comparisons user) {now : ℤ}
    (hopen : user.lockedAt now = false) {pre fails : List (ℤ × Bool)} {last : ℤ}
    (hsplit : comparisons = pre ++ (fails ++ [(last, false)]))
    (hfails : ∀ c ∈ fails, c.2 = false) (hmany : maxFailedAttempts ≤ fails.length + 1) :
    last + lockoutMinutes * minute ≤ now := by
  have hcount := h.count pre (fails ++ [(last, false)]) hsplit fun c hc => by
    obtain hc | hc := List.mem_append.mp hc
    · exact hfails c hc
    · rw [List.mem_singleton.mp hc]
  rw [List.length_append, List.length_singleton] at hcount
  have hlock := h.lock (pre ++ fails) last (by rw [hsplit, List.append_assoc])
    (hmany.trans hcount)
  simp only [UserAccount.lockedAt, UserAccount.lockRuns, hlock, Bool.or_eq_false_iff,
    decide_eq_false_iff_not] at hopen
  exact not_lt.mp hopen.2

end Steps

/-- The comparisons that follow on at least five failures in a row, each with those failures. -/
def Spaced (comparisons : List (ℤ × Bool)) : Prop :=
  ∀ pre fails t correct post, comparisons = pre ++ fails ++ (t, correct) :: post →
    (∀ c ∈ fails, c.2 = false) → ∀ c ∈ fails.drop 4, c.1 + lockoutMinutes * minute ≤ t

theorem Spaced.concat {comparisons : List (ℤ × Bool)} (h : Spaced comparisons) {now : ℤ}
    {correct : Bool}
    (hnew : ∀ pre fails, comparisons = pre ++ fails → (∀ c ∈ fails, c.2 = false) →
      ∀ c ∈ fails.drop 4, c.1 + lockoutMinutes * minute ≤ now) :
    Spaced (comparisons ++ [(now, correct)]) := by
  intro pre fails t ok post hsplit hfails
  cases post using List.reverseRecOn with
  | nil =>
    obtain ⟨hold, hlast⟩ := List.append_inj' hsplit rfl
    obtain ⟨rfl, rfl⟩ : now = t ∧ correct = ok := by simpa using hlast
    exact hnew pre fails hold hfails
  | append_singleton post last _ =>
    rw [← List.cons_append, ← List.append_assoc] at hsplit
    exact h pre fails t ok post (List.append_inj' hsplit rfl).1 hfails

/-- Every run of attempts in order of time spaces its comparisons. -/
theorem loginComparisons_spaced [Bcrypt] [Geography] (user : UserAccount)
    {attempts : List LoginAttempt}
    (hordered : (attempts.map (·.now)).Pairwise (· ≤ ·)) :
    Counted (loginComparisons user attempts) (user.afterLogins attempts) ∧
      Spaced (loginComparisons user attempts) := by
  induction attempts using List.reverseRecOn with
  | nil =>
    constructor
    · constructor
      · intro pre fails hsplit _
        obtain ⟨-, rfl⟩ := List.append_eq_nil_iff.mp hsplit.symm
        exact Nat.zero_le _
      · intro pre last hsplit
        simp [loginComparisons, trace] at hsplit
    · intro pre fails t ok post hsplit
      simp [loginComparisons, trace] at hsplit
  | append_singleton attempts attempt ih =>
    rw [List.map_append] at hordered
    have hold := (List.pairwise_append.mp hordered).1
    obtain ⟨hcounted, hspaced⟩ := ih hold
    have hnew : (user.afterLogins attempts).lockedAt attempt.now = false →
        ∀ pre fails, loginComparisons user attempts = pre ++ fails → (∀ c ∈ fails, c.2 = false) →
        ∀ c ∈ fails.drop 4, c.1 + lockoutMinutes * minute ≤ attempt.now := by
      intro hopen pre fails hsplit hfails c hc
      cases fails using List.reverseRecOn with
      | nil => simp at hc
      | append_singleton fails last _ =>
        have hmany : maxFailedAttempts ≤ fails.length + 1 := by
          have hlen := List.length_pos_of_mem hc
          simp only [List.length_drop, List.length_append, List.length_singleton] at hlen
          simp only [maxFailedAttempts]
          omega
        obtain ⟨time, correct⟩ := last
        obtain rfl : correct = false := hfails (time, correct) (by simp)
        have hlast := hcounted.spaced hopen hsplit
          (fun c hc => hfails c (List.mem_append_left _ hc)) hmany
        have htimes := hold.sublist (loginComparisons_sublist user attempts)
        have hle : c.1 ≤ time := by
          rw [hsplit, ← List.append_assoc, List.map_append, List.pairwise_append] at htimes
          obtain hc | hc := List.mem_append.mp (List.mem_of_mem_drop hc)
          · exact htimes.2.2 c.1 (List.mem_map_of_mem (List.mem_append_right _ hc)) time (by simp)
          · rw [List.mem_singleton.mp hc]
        omega
    rw [loginComparisons_concat, afterLogins_concat]
    obtain ⟨-, heq⟩ | ⟨hopen, heq⟩ | ⟨hopen, heq⟩ | ⟨hopen, -, hcompared, heq⟩ :=
      login_cases (user.afterLogins attempts) attempt
    · rw [heq]
      simpa [LoginReply.compared] using ⟨hcounted, hspaced⟩
    · rw [heq]
      exact ⟨hcounted.of_failure attempt.now, hspaced.concat (hnew hopen)⟩
    · rw [heq]
      exact ⟨counted_of_correct _ attempt.now _, hspaced.concat (hnew hopen)⟩
    · rw [hcompared, heq]
      exact ⟨counted_of_correct _ attempt.now _, hspaced.concat (hnew hopen)⟩

/-- While the lock is in force no attempt comes to a comparison; from the fifth failed
comparison in a row on, each is a lockout away from every later one until the right password
has been presented; and an attempt that succeeds leaves the count at zero. -/
theorem login_lockout [Bcrypt] [Geography] (user : UserAccount) (attempts : List LoginAttempt)
    (hordered : (attempts.map (·.now)).Pairwise (· ≤ ·)) :
    (∀ early attempt later, attempts = early ++ attempt :: later →
      (user.afterLogins early).lockedAt attempt.now = true →
      ((user.afterLogins early).login attempt).1.compared = none ∧
      ((user.afterLogins early).login attempt).1.succeeds = false) ∧
    (∀ pre fails t correct post,
      loginComparisons user attempts = pre ++ fails ++ (t, correct) :: post →
      (∀ c ∈ fails, c.2 = false) → ∀ c ∈ fails.drop 4, c.1 + 15 * minute ≤ t) ∧
    (∀ early attempt later, attempts = early ++ attempt :: later →
      ((user.afterLogins early).login attempt).1.succeeds = true →
      (user.afterLogins (early ++ [attempt])).failedLoginAttempts = 0) := by
  refine ⟨?_, (loginComparisons_spaced user hordered).2, ?_⟩
  · intro early attempt later _ hlocked
    rw [login_of_locked _ _ hlocked]
    exact ⟨rfl, rfl⟩
  · intro early attempt later _ hok
    rw [afterLogins_concat]
    obtain ⟨-, heq⟩ | ⟨-, heq⟩ | ⟨-, heq⟩ | ⟨-, -, -, heq⟩ :=
      login_cases (user.afterLogins early) attempt
    · simp [heq, LoginReply.succeeds] at hok
    · simp [heq, LoginReply.succeeds] at hok
    · simp [heq, LoginReply.succeeds] at hok
    · rw [heq]
      rfl

/-- An account with the password `correct horse`. -/
def horseAccount : UserAccount where
  email := "mary@dcp.example"
  hashedPassword := "$2b$correct horse"
  role := "relationship_officer"
  tenantId := some 1
  active := true
  isLocked := false
  forcePasswordReset := false
  failedLoginAttempts := 0
  lockedUntil := none
  tokenVersion := 0

/-- An attempt without a security configuration. -/
def plainAttempt (now : ℤ) (password : String) : LoginAttempt :=
  ⟨now, password, none, ⟨none, none, true⟩⟩

/-- Five wrong passwords, the right one while the lock runs, and once it has run out. -/
def lockedOut : List LoginAttempt :=
  [plainAttempt 0 "a", plainAttempt 1 "b", plainAttempt 2 "c", plainAttempt 3 "d",
    plainAttempt 4 "e", plainAttempt 5 "correct horse",
    plainAttempt (4 + 15 * minute) "correct horse"]

section Witness

local instance horseBcrypt : Bcrypt := saltless

local instance horseGeography : Geography := nairobi

theorem login_lockout_fifth :
    (trace UserAccount.login horseAccount lockedOut).map Prod.snd =
      [.invalid, .invalid, .invalid, .invalid, .invalid, .locked, .granted] ∧
    4 + 15 * minute ≤ 4 + 15 * minute ∧
    (horseAccount.afterLogins lockedOut).failedLoginAttempts = 0 := by
  have h := login_lockout horseAccount lockedOut (by decide)
  refine ⟨by decide, ?_, ?_⟩
  · exact h.2.1 [] [(0, false), (1, false), (2, false), (3, false), (4, false)]
      (4 + 15 * minute) true [] (by decide) (by decide) (4, false) (by decide)
  · exact h.2.2 (lockedOut.take 6) (plainAttempt (4 + 15 * minute) "correct horse") [] rfl
      (by decide)

end Witness

end FinylDcp
