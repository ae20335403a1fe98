import FinylDcp.Lending
import FinylDcp.MoneyDesk
import FinylDcp.PaymentReferences
import FinylDcp.PayoutSweeps

/-!
# The whole office

The desks of the platform over one database: products and applications, payouts, money
coming in on every channel, suspense money and refunds, and the upkeep between them. A run
of the office is any sequence of requests, callbacks, answers and jobs; whether an amount
needs a second person and whether a tenant has credentials is kept elsewhere and comes in
with the event.
-/
namespace FinylDcp
open Db

/-- `POST /payments/disburse`: a payout that needs a second person is parked, any other is
started, and its transaction comes back. -/
def disburseLoan (db : Db) (tenantId makerId loanId : ℕ) (needsChecker : Bool)
    (reason : Option String) (now : ℤ) : Except Failure (Db × Option ℕ) :=
  match loanRow db tenantId loanId with
  | none => .error (.http 404 "Loan not found")
  | some loan =>
    if loan.status ≠ .approved then
      .error (.http 400 "Loan must be in 'approved' status to disburse")
    else if needsChecker then
      match db.borrowers[loan.borrowerId]? with
      | none => .error (.crash "the loan has no borrower")
      | some borrower => do
        let request : PendingApproval :=
          { tenantId := tenantId, actionType := .disbursement, loanId := some loanId,
            amount := loan.principal, phone := some borrower.phone, reason := reason,
            status := .pendingApproval, makerUserId := makerId, checkerUserId := none,
            details := ⟨none, none, none, none, none, none⟩ }
        let saved ← Db.commit { db with pending := db.pending ++ [request] }
        return (saved, none)
    else do
      let out ← beginDisbursement db tenantId loanId makerId now
      let saved ← out.1.commit
      return (saved, some out.2)

/-- How an STK push ends. -/
inductive StkReply
  | notConfigured
  | failed
  | accepted (checkoutRequestId : Option String)
  deriving DecidableEq, Repr

/-- `POST /payments/stk-push`. The amount is taken as it comes. -/
def stkPush (db : Db) (tenantId loanId : ℕ) (amount : ℤ) (reply : StkReply) (now : ℤ) :
    Except Failure Db :=
  match loanRow db tenantId loanId with
  | none => .error (.http 404 "Loan not found")
  | some loan =>
    match db.borrowers[loan.borrowerId]?, reply with
    | none, _ => .error (.crash "the loan has no borrower")
    | some _, .notConfigured =>
      .error (.http 422 "M-Pesa (Daraja) credentials are not configured")
    | some _, .failed =>
      .error (.http 502 "STK push could not be completed. Please try again later.")
    | some _, .accepted none => .error (.crash "KeyError: 'CheckoutRequestID'")
    | some borrower, .accepted (some checkoutId) =>
      let txn : PaymentTransaction :=
        { tenantId := tenantId, type := .stkPush, loanId := some loanId, amount := amount,
          phone := some borrower.phone, mpesaRef := some checkoutId, status := .pending,
          rawPayload := ⟨none, none, none, none, none⟩, createdAt := now }
      Db.commit { db with transactions := db.transactions ++ [txn] }

/-- The desk with the committed database and the calls of decisions under way, the payout
calls under way, and the columns that only applications read. -/
structure Office where
  desk : MoneyDesk
  payouts : List PayoutCall
  catalogue : Catalogue

/-- What happens at the office. The client registry is kept elsewhere; it changes as a whole. -/
inductive OfficeEvent
  | createProduct (product : Product) (listing : ProductListing)
  | updateProduct (tenantId productId : ℕ) (product : Product) (listing : ProductListing)
  | clients (borrowers : List Borrower) (profiles : List ClientProfile)
  | apply (tenantId : ℕ) (applicant : Applicant) (body : LoanApplication) (year : ℤ)
  | decideLoan (tenantId loanId : ℕ) (decider : LoanDecider) (action : String)
  | transition (tenantId loanId : ℕ) (seesLoan : Bool) (status : String) (now : ℤ)
  | disburse (tenantId makerId loanId : ℕ) (needsChecker : Bool) (reason : Option String) (now : ℤ)
  | answerPayout (txnId : ℕ) (reply : B2cReply)
  | stopPayout (txnId : ℕ)
  | sweep (tenantId : ℕ) (configured : Bool) (stuckMinutes now : ℤ) (receipts : ℕ → String)
  | reconcilePayouts (tenantId : ℕ) (configured : Bool) (olderThanMinutes now : ℤ) (simulate : Bool)
      (receipts : ℕ → String)
  | stkPush (tenantId loanId : ℕ) (amount : ℤ) (reply : StkReply) (now : ℤ)
  | receive (shortcodeToTenant : String → Option ℕ) (d : Delivery)
  | money (e : MoneyEvent)

namespace Office

/-- The committed database. -/
def db (s : Office) : Db := s.desk.db

def withDb (s : Office) (db : Db) : Office := { s with desk := { s.desk with db := db } }

/-- What a request commits, if it does. -/
def saved (s : Office) : Except Failure Db → Office
  | .ok db => s.withDb db
  | .error _ => s

def step (s : Office) : OfficeEvent → Office
  | .createProduct product listing =>
    let out := createProduct s.db s.catalogue product listing
    { s.withDb out.1 with catalogue := out.2 }
  | .updateProduct tenantId productId product listing =>
    match updateProduct s.db s.catalogue tenantId productId product listing with
    | .ok out => { s.withDb out.1 with catalogue := out.2 }
    | .error _ => s
  | .clients borrowers profiles =>
    { s.withDb { s.db with borrowers := borrowers } with
      catalogue := { s.catalogue with profiles := profiles } }
  | .apply tenantId applicant body year =>
    s.saved ((applyForLoan s.db s.catalogue tenantId applicant body year).map (·.1))
  | .decideLoan tenantId loanId decider action =>
    s.saved (decideLoan s.db tenantId loanId decider action)
  | .transition tenantId loanId seesLoan status now =>
    s.saved (transitionLoan s.db tenantId loanId seesLoan status now)
  | .disburse tenantId makerId loanId needsChecker reason now =>
    match disburseLoan s.db tenantId makerId loanId needsChecker reason now with
    | .error _ => s
    | .ok (db, none) => s.withDb db
    | .ok (db, some txnId) =>
      { s.withDb db with payouts := s.payouts ++ [⟨tenantId, loanId, txnId⟩] }
  | .answerPayout txnId reply =>
    match s.payouts.find? (fun call => call.txnId = txnId) with
    | none => s
    | some call =>
      { s.saved (finishDisbursement s.db call.tenantId call.loanId txnId (sendB2c reply)).1 with
        payouts := s.payouts.filter (fun call => call.txnId ≠ txnId) }
  | .stopPayout txnId => { s with payouts := s.payouts.filter (fun call => call.txnId ≠ txnId) }
  | .sweep tenantId configured stuckMinutes now receipts =>
    s.saved ((sweepTenant s.db configured tenantId stuckMinutes now receipts).map (·.1))
  | .reconcilePayouts tenantId configured olderThanMinutes now simulate receipts =>
    s.saved ((reconcileDisbursements s.db configured tenantId olderThanMinutes now simulate
      receipts).map (·.1))
  | .stkPush tenantId loanId amount reply now =>
    s.saved (stkPush s.db tenantId loanId amount reply now)
  | .receive shortcodeToTenant d => s.saved ((deliver shortcodeToTenant s.db d).map (·.1))
  | .money e => { s with desk := s.desk.step e }

end Office

end FinylDcp
