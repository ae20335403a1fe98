import FinylDcp.OverdueJobs
import FinylDcp.Runs
import FinylDcp.Upserts
import Mathlib.Data.List.Count
import Mathlib.Data.List.Perm.Basic

/-!
# The hourly sweep

Once an hour the jobs of the messages look at every tenant, and work on the loans of those whose
hour it is: reminders of what is due soon, alerts of what is overdue, which is charged its
penalty, and the end of what has been overdue too long. A tenant's failure is its own.
-/
namespace FinylDcp
open Tables Runs

/-- A tenant's switch and hour. -/
structure SmsAutomationSetting where
  tenantId : ℕ
  automationEnabled : Bool
  sendHour : ℤ
  deriving DecidableEq, Repr

/-- `get_automation_config`: without a row of its own a tenant has the defaults. -/
def getAutomationConfig (settings : KeyTable SmsAutomationSetting.tenantId) (tenantId : ℕ) :
    Bool × ℤ :=
  match settings.get? tenantId with
  | none => (true, 7)
  | some s => (s.automationEnabled, s.sendHour)

/-- A loan whose borrower is reminded: due within three days. -/
def Loan.dueSoon (loan : Loan) (tenantId : ℕ) (today : ℤ) : Bool :=
  loan.tenantId = tenantId && loan.status = .active &&
    loan.dueDate.any (fun due => today ≤ due && due ≤ today + 3) && 0 < loan.outstandingBalance

/-- What is said to the borrower of a loan. -/
inductive Notice
  | repaymentReminder (daysLeft : ℤ)
  | overdueAlert
  | defaulted
  deriving DecidableEq, Repr

structure TenantCounts where
  remindersSent : ℕ
  alertsSent : ℕ
  flippedToOverdue : ℕ
  defaulted : ℕ
  deriving DecidableEq, Repr

/-- `run_tenant_jobs`, with the notices by loan. -/
def runTenantJobs (db : Db) (tenantId : ℕ) (today graceDays : ℤ) :
    Db × TenantCounts × List (ℕ × Notice) :=
  let soon := db.loans.zipIdx.filter (fun x => x.1.dueSoon tenantId today)
  let late := db.loans.zipIdx.filter (fun x => x.1.pastDue tenantId today)
  let (swept, alerts) := runOverdueAlerts db tenantId today
  let lost := swept.loans.zipIdx.filter (fun x => x.1.pastDue tenantId (today - graceDays))
  let (left, defaulted) := runDefaulting swept tenantId today graceDays
  (left, ⟨soon.length, alerts.alertsSent, alerts.flippedToOverdue, defaulted⟩,
    soon.map (fun x => (x.2, .repaymentReminder (x.1.dueDate.getD today - today))) ++
      late.map (fun x => (x.2, .overdueAlert)) ++ lost.map (fun x => (x.2, .defaulted)))

inductive JobResult
  | disabled
  | notTheirHour (sendHour : ℤ)
  | processed (counts : TenantCounts)
  | error
  deriving DecidableEq, Repr

/-- What comes of one tenant: its jobs are committed as a whole, or rolled back with the record of
its notices. -/
def runTenantTurn (settings : KeyTable SmsAutomationSetting.tenantId) (hour today graceDays : ℤ)
    (fails : ℕ → Bool) (db : Db) (tenantId : ℕ) : Db × JobResult × List (ℕ × Notice) :=
  let (enabled, sendHour) := getAutomationConfig settings tenantId
  if !enabled then (db, .disabled, [])
  else if sendHour ≠ hour then (db, .notTheirHour sendHour, [])
  else if fails tenantId then (db, .error, [])
  else
    let (left, counts, notices) := runTenantJobs db tenantId today graceDays
    (left, .processed counts, notices)

/-- The hour of a sweep; one out of range is brought into it. -/
def currentHour (hour : Option ℤ) (clock : ℤ) : ℤ :=
  let h := hour.getD clock
  if 0 ≤ h ∧ h ≤ 23 then h else h % 24

/-- The tenants, in the order of their ids. -/
structure TenantList where
  ids : List ℕ
  sorted : ids.Pairwise (· < ·)

def runTenantTurns (settings : KeyTable SmsAutomationSetting.tenantId) (hour today graceDays : ℤ)
    (fails : ℕ → Bool) : Db → List ℕ → Db × List (ℕ × JobResult) × List (ℕ × Notice)
  | db, [] => (db, [], [])
  | db, tenantId :: tenants =>
    let (db, result, notices) := runTenantTurn settings hour today graceDays fails db tenantId
    let (db, results, more) := runTenantTurns settings hour today graceDays fails db tenants
    (db, (tenantId, result) :: results, notices ++ more)

/-- `run_all_jobs`. -/
def runAllJobs (settings : KeyTable SmsAutomationSetting.tenantId) (tenants : TenantList)
    (hour : Option ℤ) (clock today graceDays : ℤ) (fails : ℕ → Bool) (db : Db) :
    Db × List (ℕ × JobResult) × List (ℕ × Notice) :=
  runTenantTurns settings (currentHour hour clock) today graceDays fails db tenants.ids

/-- What the jobs of its tenant do to a loan. -/
def dailyLoan (products : List Product) (today graceDays : ℤ) (loan : Loan) : Loan :=
  defaultLoan loan.tenantId (today - graceDays) (overdueAlert products loan.tenantId today loan).1

/-- The tenant's jobs are done at this hour. -/
def isSwept (settings : KeyTable SmsAutomationSetting.tenantId) (hour : ℤ) (fails : ℕ → Bool)
    (tenantId : ℕ) : Bool :=
  (getAutomationConfig settings tenantId).1 && (getAutomationConfig settings tenantId).2 = hour &&
    !fails tenantId

section Loans

variable {settings : KeyTable SmsAutomationSetting.tenantId} {hour today graceDays : ℤ}
  {fails : ℕ → Bool} {db : Db} {products : List Product} {tenantId : ℕ} {loan : Loan}

@[simp] theorem tenantId_overdueAlert :
    (overdueAlert products tenantId today loan).1.tenantId = loan.tenantId := by
  unfold overdueAlert
  split_ifs
  · rw [accrueOverduePenalty_loan]
  · rfl

@[simp] theorem tenantId_dailyLoan : (dailyLoan products today graceDays loan).tenantId =
    loan.tenantId := by
  unfold dailyLoan defaultLoan
  split_ifs
  · exact tenantId_overdueAlert
  · exact tenantId_overdueAlert

theorem pastDue_of_ne {limit : ℤ} (h : loan.tenantId ≠ tenantId) :
    loan.pastDue tenantId limit = false := by
  simp [Loan.pastDue, h]

/-- The jobs of a tenant go over its loans, and no others. -/
theorem runTenantJobs_loans (db : Db) (tenantId : ℕ) (today graceDays : ℤ) :
    (runTenantJobs db tenantId today graceDays).1 = { db with
      loans := db.loans.map (fun l => if l.tenantId = tenantId then
        dailyLoan db.products today graceDays l else l) } := by
  unfold runTenantJobs runOverdueAlerts runDefaulting
  dsimp only
  rw [List.map_map, List.map_map]
  congr 1
  refine List.map_congr_left fun l _ => ?_
  by_cases hmine : l.tenantId = tenantId
  · rw [if_pos hmine, dailyLoan, hmine]
    rfl
  · rw [if_neg hmine]
    show defaultLoan tenantId _ (overdueAlert _ tenantId today l).1 = l
    rw [overdueAlert, pastDue_of_ne hmine, Bool.false_and, if_neg Bool.false_ne_true, defaultLoan,
      pastDue_of_ne hmine, if_neg Bool.false_ne_true]

theorem runTenantTurn_loans (db : Db) (tenantId : ℕ) :
    (runTenantTurn settings hour today graceDays fails db tenantId).1 = { db with
      loans := db.loans.map (fun l => if l.tenantId = tenantId ∧
        isSwept settings hour fails tenantId = true then
          dailyLoan db.products today graceDays l else l) } := by
  unfold runTenantTurn isSwept
  obtain ⟨enabled, sendHour⟩ := getAutomationConfig settings tenantId
  dsimp only
  split_ifs with hoff hhour hfails
  · simp_all
  · simp_all
  · simp_all
  · have hswept : (enabled && decide (sendHour = hour) && !fails tenantId) = true := by
      simp_all
    rw [runTenantJobs_loans]
    simp only [hswept, and_true]

theorem runTenantTurns_loans {tenants : List ℕ} (hnodup : tenants.Nodup) (db : Db) :
    (runTenantTurns settings hour today graceDays fails db tenants).1 = { db with
      loans := db.loans.map (fun l => if l.tenantId ∈ tenants ∧
        isSwept settings hour fails l.tenantId = true then
          dailyLoan db.products today graceDays l else l) } := by
  induction tenants generalizing db with
  | nil => simp [runTenantTurns]
  | cons tenantId tenants ih =>
    obtain ⟨hnew, hrest⟩ := List.nodup_cons.mp hnodup
    rw [runTenantTurns]
    dsimp only
    rw [ih hrest, runTenantTurn_loans]
    dsimp only
    rw [List.map_map]
    congr 1
    refine List.map_congr_left fun l _ => ?_
    rw [Function.comp_apply]
    by_cases hmine : l.tenantId = tenantId
    · subst hmine
      by_cases hturn : isSwept settings hour fails l.tenantId = true
      · simp [hturn, hnew]
      · simp [hturn, hnew]
    · simp [hmine]

theorem overdueAlert_status (h : loan.status ≠ .active) :
    overdueAlert products tenantId today loan = (loan, 0) := by
  unfold overdueAlert
  rw [if_neg]
  simp [h]

/-- Whatever the alert does, it is not done a second time. -/
theorem overdueAlert_again :
    (overdueAlert products tenantId today (overdueAlert products tenantId today loan).1).1 =
      (overdueAlert products tenantId today loan).1 := by
  by_cases hdue : (loan.pastDue tenantId today && decide (loan.status = .active)) = true
  · have hstatus : (overdueAlert products tenantId today loan).1.status = .overdue := by
      unfold overdueAlert
      rw [if_pos hdue, accrueOverduePenalty_loan]
    rw [overdueAlert_status (by simp [hstatus])]
  · have hsame : overdueAlert products tenantId today loan = (loan, 0) := by
      unfold overdueAlert
      rw [if_neg hdue]
    rw [hsame, hsame]

theorem pastDue_min (g₁ g₂ : ℤ) : loan.pastDue tenantId (today - min g₁ g₂) =
    (loan.pastDue tenantId (today - g₁) || loan.pastDue tenantId (today - g₂)) := by
  rw [Bool.eq_iff_iff, Bool.or_eq_true]
  unfold Loan.pastDue
  cases loan.dueDate with
  | none => simp
  | some due =>
    have hmin : due < today - min g₁ g₂ ↔ due < today - g₁ ∨ due < today - g₂ := by omega
    simp only [Option.any_some, Bool.and_eq_true, decide_eq_true_eq, hmin]
    tauto

/-- Nothing is overdue, nor lost, of a loan that was given up. -/
theorem dailyLoan_defaulted (h : loan.status = .defaulted) :
    dailyLoan products today graceDays loan = loan := by
  rw [dailyLoan, overdueAlert_status (by simp [h]), defaultLoan, if_neg]
  simp [Loan.pastDue, h]

/-- The jobs done twice on a day are the jobs done once, with the fewer days of grace. -/
theorem dailyLoan_again (g₁ g₂ : ℤ) : dailyLoan products today g₂
    (dailyLoan products today g₁ loan) = dailyLoan products today (min g₁ g₂) loan := by
  set alerted := (overdueAlert products loan.tenantId today loan).1 with halerted
  have hdaily : ∀ g, dailyLoan products today g loan =
      defaultLoan loan.tenantId (today - g) alerted := fun _ => rfl
  rw [hdaily, hdaily]
  by_cases hlost : alerted.pastDue loan.tenantId (today - g₁) = true
  · rw [defaultLoan, if_pos hlost, dailyLoan_defaulted rfl, defaultLoan, pastDue_min, hlost,
      Bool.true_or, if_pos rfl]
  · have hkept : defaultLoan loan.tenantId (today - g₁) alerted = alerted := by
      rw [defaultLoan, if_neg hlost]
    have htenant : alerted.tenantId = loan.tenantId := tenantId_overdueAlert
    have halert : (overdueAlert products loan.tenantId today alerted).1 = alerted :=
      overdueAlert_again
    rw [hkept, dailyLoan, htenant, halert, defaultLoan, defaultLoan, pastDue_min,
      Bool.eq_false_iff.mpr hlost, Bool.false_or]

end Loans

/-- The loans and the settings of the tenants. -/
structure JobDesk where
  db : Db
  settings : KeyTable SmsAutomationSetting.tenantId

/-- What is done about the jobs: a tenant's setting is put, every tenant's jobs are run at their
hour, or those of one tenant now. -/
inductive JobCall
  | setAutomation (tenantId : ℕ) (enabled : Bool) (sendHour : ℤ)
  | runAllJobs (hour : Option ℤ) (clock graceDays : ℤ) (fails : ℕ → Bool)
  | runNow (tenantId : ℕ) (graceDays : ℤ)

namespace JobDesk

variable (tenants : TenantList) (today : ℤ)

def step (s : JobDesk) : JobCall → JobDesk
  | .setAutomation tenantId enabled sendHour =>
    if 0 ≤ sendHour ∧ sendHour ≤ 23 then
      { s with settings := s.settings.write ⟨tenantId, enabled, sendHour⟩ }
    else s
  | .runAllJobs hour clock graceDays fails =>
    { s with
      db := (FinylDcp.runAllJobs s.settings tenants hour clock today graceDays fails s.db).1 }
  | .runNow tenantId graceDays => { s with db := (runTenantJobs s.db tenantId today graceDays).1 }

/-- The days of grace with which a call does the jobs of a tenant, if it does them. -/
def graceOf (s : JobDesk) (tenantId : ℕ) : JobCall → Option ℤ
  | .setAutomation _ _ _ => none
  | .runAllJobs hour clock graceDays fails =>
    if tenantId ∈ tenants.ids ∧ isSwept s.settings (currentHour hour clock) fails tenantId then
      some graceDays
    else none
  | .runNow t graceDays => if tenantId = t then some graceDays else none

/-- The fewest days of grace with which the calls of a day do the jobs of a tenant. -/
def leastGrace (tenantId : ℕ) : JobDesk → List JobCall → Option ℤ
  | _, [] => none
  | s, call :: calls =>
    (s.graceOf tenants tenantId call).merge min
      (leastGrace tenantId (s.step tenants today call) calls)

variable {tenants : TenantList} {today : ℤ}

/-- A loan after the jobs of its tenant, if they are done. -/
def workedOn (products : List Product) (today : ℤ) (grace : Option ℤ) (loan : Loan) : Loan :=
  grace.elim loan (fun graceDays => dailyLoan products today graceDays loan)

@[simp] theorem tenantId_workedOn {products : List Product} {grace : Option ℤ} {loan : Loan} :
    (workedOn products today grace loan).tenantId = loan.tenantId := by
  cases grace with
  | none => rfl
  | some _ => exact tenantId_dailyLoan

theorem workedOn_again {products : List Product} {first second : Option ℤ} {loan : Loan} :
    workedOn products today second (workedOn products today first loan) =
      workedOn products today (first.merge min second) loan := by
  cases first with
  | none =>
    cases second with
    | none => rfl
    | some _ => rfl
  | some g₁ =>
    cases second with
    | none => rfl
    | some g₂ => exact dailyLoan_again g₁ g₂

theorem step_loans (s : JobDesk) (call : JobCall) : (s.step tenants today call).db = { s.db with
    loans := s.db.loans.map (fun l =>
      workedOn s.db.products today (s.graceOf tenants l.tenantId call) l) } := by
  cases call with
  | setAutomation tenantId enabled sendHour =>
    have hkept : (s.step tenants today (.setAutomation tenantId enabled sendHour)).db = s.db := by
      unfold step
      dsimp only
      split_ifs <;> rfl
    rw [hkept]
    show s.db = { s.db with loans := s.db.loans.map id }
    rw [List.map_id]
  | runAllJobs hour clock graceDays fails =>
    show (runTenantTurns _ _ _ _ _ s.db tenants.ids).1 = _
    rw [runTenantTurns_loans (tenants.sorted.imp fun h => ne_of_lt h)]
    congr 1
    refine List.map_congr_left fun l _ => ?_
    unfold graceOf workedOn
    dsimp only
    split_ifs <;> rfl
  | runNow tenantId graceDays =>
    show (runTenantJobs s.db tenantId today graceDays).1 = _
    rw [runTenantJobs_loans]
    congr 1
    refine List.map_congr_left fun l _ => ?_
    unfold graceOf workedOn
    dsimp only
    split_ifs <;> rfl

/-- In whatever order the tenants are swept, sent now and put off on a day, and however often, a
loan has had the jobs of the day once, with the fewest days of grace of the runs that its tenant
had its turn in; or not at all, where it had none. -/
theorem jobs_once (tenants : TenantList) (today : ℤ) (s : JobDesk) (calls : List JobCall) :
    (run (step tenants today) s calls).db = { s.db with
      loans := s.db.loans.map (fun l =>
        workedOn s.db.products today (s.leastGrace tenants today l.tenantId calls) l) } := by
  induction calls generalizing s with
  | nil =>
    show s.db = { s.db with loans := s.db.loans.map id }
    rw [List.map_id]
  | cons call calls ih =>
    rw [run_cons, ih, step_loans]
    dsimp only
    rw [List.map_map]
    congr 1
    refine List.map_congr_left fun l _ => ?_
    rw [Function.comp_apply, tenantId_workedOn, workedOn_again, leastGrace]

end JobDesk

end FinylDcp
