import FinylDcp.Repayments

/-!
# The overdue and default jobs

The daily sweep moves a loan past its due date to `overdue` and charges it one
penalty within the in-duplum cap; a second sweep moves it to `defaulted` after
the grace days.
-/
namespace FinylDcp

/-- Add the one-time overdue penalty of a loan, capped so that interest and penalty
do not exceed the principal. Returns the penalty added. -/
def accrueOverduePenalty (product : Option Product) (loan : Loan) : Loan × ℤ :=
  let penaltyRate := (product.map (·.penaltyRate)).getD 0
  if loan.principal ≤ 0 || penaltyRate ≤ 0 then (loan, 0)
  else
    let accruedInterest := money (decimalOf loan.principal * loan.interestRate / 100)
    let proposedPenalty := money (decimalOf loan.principal * penaltyRate / 100)
    let allowed := inDuplumCap loan.principal accruedInterest proposedPenalty
    if allowed ≤ 0 then (loan, 0)
    else ({ loan with
      outstandingBalance := loan.outstandingBalance + allowed
      penaltiesCharged := loan.penaltiesCharged + allowed }, allowed)

/-- A loan the overdue sweep alerts about. -/
def Loan.pastDue (loan : Loan) (tenantId : ℕ) (limit : ℤ) : Bool :=
  loan.tenantId = tenantId && (loan.status = .active || loan.status = .overdue) &&
    loan.dueDate.any (fun due => due < limit) && 0 < loan.outstandingBalance

/-- The overdue sweep on one loan. The penalty is charged on the transition only. -/
def overdueAlert (products : List Product) (tenantId : ℕ) (today : ℤ) (loan : Loan) :
    Loan × ℤ :=
  if loan.pastDue tenantId today && loan.status = .active then
    accrueOverduePenalty products[loan.productId]? { loan with status := .overdue }
  else (loan, 0)

structure OverdueSummary where
  alertsSent : ℕ
  flippedToOverdue : ℕ
  penaltyAccrued : ℤ
  deriving DecidableEq, Repr

def runOverdueAlerts (db : Db) (tenantId : ℕ) (today : ℤ) : Db × OverdueSummary :=
  let due := db.loans.filter (fun l => l.pastDue tenantId today)
  let swept := db.loans.map (overdueAlert db.products tenantId today)
  ({ db with loans := swept.map (·.1) },
    { alertsSent := due.length
      flippedToOverdue := (due.filter (fun l => l.status = .active)).length
      penaltyAccrued := (swept.map (·.2)).sum })

/-- The default sweep on one loan. -/
def defaultLoan (tenantId : ℕ) (cutoff : ℤ) (loan : Loan) : Loan :=
  if loan.pastDue tenantId cutoff then { loan with status := .defaulted } else loan

def runDefaulting (db : Db) (tenantId : ℕ) (today graceDays : ℤ) : Db × ℕ :=
  let cutoff := today - graceDays
  ({ db with loans := db.loans.map (defaultLoan tenantId cutoff) },
    (db.loans.filter (fun l => l.pastDue tenantId cutoff)).length)

/-- The penalty goes on the balance and on the record of penalties alike, and touches
no other amount. -/
theorem accrueOverduePenalty_loan (product : Option Product) (loan : Loan) :
    (accrueOverduePenalty product loan).1 = { loan with
      outstandingBalance := loan.outstandingBalance + (accrueOverduePenalty product loan).2
      penaltiesCharged := loan.penaltiesCharged + (accrueOverduePenalty product loan).2 } := by
  simp only [accrueOverduePenalty]
  split_ifs <;> simp

/-- What happens to the book between payments. -/
inductive Upkeep
  | settings (tenantId : ℕ) (allocationOrder earlySettlementMethod : Option String)
  | penalty (loanId : ℕ)
  | overdueAlerts (tenantId : ℕ) (today : ℤ)
  | defaulting (tenantId : ℕ) (today graceDays : ℤ)

def Upkeep.apply (db : Db) : Upkeep → Db
  | settings tenantId order early =>
    match setPaymentSettings db tenantId order early with
    | .ok db' => db'
    | .error _ => db
  | penalty loanId => db.updateLoan loanId (fun l =>
      (accrueOverduePenalty db.products[l.productId]? l).1)
  | overdueAlerts tenantId today => (runOverdueAlerts db tenantId today).1
  | defaulting tenantId today graceDays => (runDefaulting db tenantId today graceDays).1

/-- Upkeep touches loans and settings only. -/
theorem Upkeep.apply_db (db : Db) (u : Upkeep) :
    ∃ loans configs, u.apply db = { db with loans := loans, paymentsConfigs := configs } := by
  cases u with
  | settings tenantId order early =>
    simp only [Upkeep.apply]
    split
    · obtain ⟨configs, rfl⟩ := setPaymentSettings_db ‹_›
      exact ⟨db.loans, configs, rfl⟩
    · exact ⟨db.loans, db.paymentsConfigs, rfl⟩
  | penalty loanId => exact ⟨_, db.paymentsConfigs, rfl⟩
  | overdueAlerts tenantId today => exact ⟨_, db.paymentsConfigs, rfl⟩
  | defaulting tenantId today graceDays => exact ⟨_, db.paymentsConfigs, rfl⟩

end FinylDcp
