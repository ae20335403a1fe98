import FinylDcp.Schema

/-!
# Applying money to a loan

The one routine every channel uses: what is owed by component, the payoff quote
before the due date, the suspense account, and `applyPayment` itself. A session
reads the database, changes a loan object and inserts rows; the caller flushes
the object.
-/
namespace FinylDcp
open Text

/-- The parts a balance is made of. -/
inductive Part
  | principal | fees | interest
  deriving DecidableEq, Repr

inductive AllocationOrder
  | principalFeesInterest | proportional | interestFeesPrincipal
  deriving DecidableEq, Repr

inductive EarlySettlementMethod
  | daily | completedPeriods
  deriving DecidableEq, Repr

/-- The order a part is covered in; the proportional split has none. -/
def AllocationOrder.parts : AllocationOrder → Option (List Part)
  | principalFeesInterest => some [.principal, .fees, .interest]
  | proportional => none
  | interestFeesPrincipal => some [.interest, .fees, .principal]

def AllocationOrder.ofKey : String → Option AllocationOrder
  | "principal_fees_interest" => some principalFeesInterest
  | "proportional" => some proportional
  | "interest_fees_principal" => some interestFeesPrincipal
  | _ => none

def EarlySettlementMethod.ofKey : String → Option EarlySettlementMethod
  | "daily" => some daily
  | "completed_periods" => some completedPeriods
  | _ => none

structure PaymentSettings where
  allocationOrder : AllocationOrder
  earlySettlementMethod : EarlySettlementMethod
  deriving DecidableEq, Repr

/-- The tenant's settings; a stored value that is not one of the keys reads as
the default. -/
def getPaymentSettings (db : Db) (tenantId : ℕ) : PaymentSettings :=
  let row := db.paymentsConfigs.find? (fun c => c.tenantId = tenantId)
  let order := row.bind (·.allocationOrder)
  let early := row.bind (·.earlySettlementMethod)
  { allocationOrder := (order.bind AllocationOrder.ofKey).getD .principalFeesInterest
    earlySettlementMethod := (early.bind EarlySettlementMethod.ofKey).getD .daily }

/-- Change one or both settings; `none` leaves a setting as it is. -/
def setPaymentSettings (db : Db) (tenantId : ℕ)
    (allocationOrder earlySettlementMethod : Option String) : Except Failure Db :=
  if allocationOrder.any (fun k => (AllocationOrder.ofKey k).isNone) then
    .error (.valueError ("allocation_order must be one of " ++
      "['principal_fees_interest', 'proportional', 'interest_fees_principal']"))
  else if earlySettlementMethod.any (fun k => (EarlySettlementMethod.ofKey k).isNone) then
    .error (.valueError "early_settlement_method must be one of ['daily', 'completed_periods']")
  else
    match db.paymentsConfigs.findIdx? (fun c => c.tenantId = tenantId) with
    | none => .ok { db with
        paymentsConfigs := db.paymentsConfigs ++
          [⟨tenantId, allocationOrder, earlySettlementMethod⟩] }
    | some i => .ok { db with
        paymentsConfigs := db.paymentsConfigs.modify i (fun c => { c with
          allocationOrder := allocationOrder <|> c.allocationOrder
          earlySettlementMethod := earlySettlementMethod <|> c.earlySettlementMethod }) }

/-- The settings are all that setting them changes. -/
theorem setPaymentSettings_db {db db' : Db} {tenantId : ℕ} {order early : Option String}
    (h : setPaymentSettings db tenantId order early = .ok db') :
    ∃ configs, db' = { db with paymentsConfigs := configs } := by
  simp only [setPaymentSettings] at h
  split_ifs at h
  split at h <;> exact ⟨_, (Except.ok.inj h).symm⟩

/-- `COLLECTIBLE_STATUSES`. -/
def LoanStatus.collectible : LoanStatus → Bool
  | active | overdue | defaulted => true
  | _ => false

structure Components where
  interest : ℤ
  fees : ℤ
  principal : ℤ
  deriving DecidableEq, Repr

namespace Components

def zero : Components := ⟨0, 0, 0⟩

def get (c : Components) : Part → ℤ
  | .principal => c.principal
  | .fees => c.fees
  | .interest => c.interest

def set (c : Components) (part : Part) (x : ℤ) : Components :=
  match part with
  | .principal => { c with principal := x }
  | .fees => { c with fees := x }
  | .interest => { c with interest := x }

end Components

structure Owed where
  principal : ℤ
  interest : ℤ
  fees : ℤ
  total : ℤ
  interestPaid : ℤ
  deriving DecidableEq, Repr

/-- Take a balance below the recorded split off principal and interest: the gap is
split in the flat ratio, each side bounded by what is owed on it. -/
def closeGap (gap principalOwed interestOwed : ℤ) (interestRate : ℚ) : ℤ × ℤ :=
  let gi := min (splitInterestPrincipal gap interestRate).1 interestOwed
  let gp := gap - gi
  if principalOwed < gp then
    (principalOwed - principalOwed, interestOwed - min interestOwed (gi + (gp - principalOwed)))
  else (principalOwed - gp, interestOwed - gi)

/-- Split the single outstanding balance into what is still owed of each part,
from the terms of the loan and what earlier repayments were allocated to. -/
def owedBreakdown (db : Db) (loanId : ℕ) (loan : Loan) : Owed :=
  let rows := (db.repaymentsOf loanId).filter (fun r => r.tenantId = loan.tenantId)
  let principalPaid := (rows.map (·.principalComponent)).sum
  let interestPaid := (rows.map (·.interestComponent)).sum
  let outstanding := loan.outstandingBalance
  let principalOwed := max (loan.principal - principalPaid) 0
  let interestOwed := max (loan.interestTotal - interestPaid) 0
  let feesOwed := outstanding - principalOwed - interestOwed
  if feesOwed < 0 then
    let rest := closeGap (-feesOwed) principalOwed interestOwed loan.interestRate
    ⟨rest.1, rest.2, 0, outstanding, loan.interestTotal - rest.2⟩
  else ⟨principalOwed, interestOwed, feesOwed, outstanding, loan.interestTotal - interestOwed⟩

/-- Cover the parts in order until the amount runs out; what is left comes back. -/
def waterfall (owed : Components) : List Part → ℤ → Components → Components × ℤ
  | [], remaining, out => (out, remaining)
  | part :: rest, remaining, out =>
    let take := min remaining (owed.get part)
    waterfall owed rest (remaining - take) (out.set part take)

/-- How an amount within the balance is divided under an allocation order. -/
def allocate (db : Db) (loanId : ℕ) (loan : Loan) (amount : ℤ)
    (order : AllocationOrder) : Components :=
  match order.parts with
  | none =>
    let split := splitInterestPrincipal amount loan.interestRate
    ⟨split.1, 0, split.2⟩
  | some parts =>
    let owed := owedBreakdown db loanId loan
    let out := waterfall ⟨owed.interest, owed.fees, owed.principal⟩ parts amount .zero
    match parts.getLast? with
    | some last => if 0 < out.2 then out.1.set last (out.1.get last + out.2) else out.1
    | none => out.1

/-- Calendar day in Kenya for a naive UTC timestamp. -/
def kenyaDate (at_ : ℤ) : ℤ := (at_ + 3 * 3600) / 86400

/-- The length in days of the loan's period. -/
def periodDays (db : Db) (loan : Loan) : ℤ :=
  match db.products[loan.productId]? with
  | some product => if product.tenureUnit = "weeks" then 7 else 30
  | none => 30

/-- Share of the term's interest earned by day `on`. -/
def earnedInterestFraction (db : Db) (loan : Loan) (start due on : ℤ) :
    EarlySettlementMethod → ℚ
  | .completedPeriods =>
    let period := periodDays db loan
    let totalPeriods := max (Decimal.roundHalfEven ((due - start : ℤ) / period)) 1
    let done := min (max (on - start) 0 / period) totalPeriods
    context (done / totalPeriods)
  | .daily =>
    let used := min (max (max (on - start) 0) 1) (due - start)
    context (used / (due - start : ℤ))

/-- The flat interest earned by day `on`. -/
def interestEarned (db : Db) (loan : Loan) (start due on : ℤ)
    (method : EarlySettlementMethod) : ℤ :=
  money (context (decimalOf loan.interestTotal *
    earnedInterestFraction db loan start due on method))

structure PayoffQuote where
  asOf : ℤ
  outstandingBalance : ℤ
  early : Bool
  rebate : ℤ
  payoffAmount : ℤ
  principalOwed : ℤ
  feesOwed : ℤ
  interestOwed : ℤ
  credit : ℤ
  interestFullTerm : Option ℤ
  interestEarned : Option ℤ
  deriving DecidableEq, Repr

/-- The payoff before the due date. Interest already paid beyond what is earned is
a credit towards it; what the credit leaves over is the quote's `credit`. -/
def earlyQuote (base : PayoffQuote) (owed : Owed) (interestTotal earned : ℤ) : PayoffQuote :=
  let surplus := if earned - owed.interestPaid < 0 then -(earned - owed.interestPaid) else 0
  let earnedOwed :=
    min (if earned - owed.interestPaid < 0 then 0 else earned - owed.interestPaid) owed.interest
  let raw := owed.principal + owed.fees + earnedOwed - surplus
  { base with
    early := true
    rebate := owed.interest - earnedOwed
    payoffAmount := max raw 0
    interestOwed := earnedOwed
    credit := max (-raw) 0
    interestFullTerm := some interestTotal
    interestEarned := some earned }

/-- What clears the loan on day `on`. On or after the due date, and for a loan that
is not collectible or was never disbursed, that is the whole balance. -/
def payoffQuote (db : Db) (loanId : ℕ) (loan : Loan) (on : ℤ)
    (method : EarlySettlementMethod) : PayoffQuote :=
  let owed := owedBreakdown db loanId loan
  let base : PayoffQuote :=
    { asOf := on, outstandingBalance := owed.total, early := false, rebate := 0,
      payoffAmount := owed.total, principalOwed := owed.principal, feesOwed := owed.fees,
      interestOwed := owed.interest, credit := 0, interestFullTerm := none,
      interestEarned := none }
  match loan.disbursementDate, loan.dueDate with
  | some start, some due =>
    if !loan.status.collectible || owed.total ≤ 0 || due - start ≤ 0 || due ≤ on then base
    else earlyQuote base owed loan.interestTotal (interestEarned db loan start due on method)
  | _, _ => base

inductive UsedBy
  | repayment | suspense
  deriving DecidableEq, Repr

def UsedBy.label : UsedBy → String
  | repayment => "repayment"
  | suspense => "suspense"

/-- Where a payment reference was already recorded for this tenant. -/
def referenceAlreadyUsed (db : Db) (tenantId : ℕ) (ref : Option String)
    (includeSuspense : Bool) : Option UsedBy :=
  match nonEmpty ref with
  | none => none
  | some r =>
    if db.repayments.any (fun x => x.tenantId = tenantId && x.mpesaRef = some r) then
      some .repayment
    else if includeSuspense &&
        db.suspense.any (fun x => x.tenantId = tenantId && x.mpesaRef = some r) then
      some .suspense
    else none

/-- Money to be parked. -/
structure Receipt where
  tenantId : ℕ
  reason : SuspenseReason
  amount : ℤ
  ref : Option String
  phone : Option String
  loanId : Option ℕ
  suggestedLoanId : Option ℕ
  source : Source
  billRef : Option String
  payerName : Option String
  paidAt : Option ℤ
  deriving DecidableEq, Repr

/-- The row a receipt is parked in. -/
def Receipt.entry (x : Receipt) (now : ℤ) : SuspenseEntry where
  tenantId := x.tenantId
  source := x.source
  mpesaRef := nonEmpty x.ref
  phone := x.phone
  amount := x.amount
  reason := x.reason
  status := .open
  matchedLoanId := x.loanId
  suggestedLoanId := x.suggestedLoanId
  billRef := (nonEmpty x.billRef).map (cut 60)
  payerName := (nonEmpty x.payerName).map (cut 120)
  paidAt := x.paidAt
  createdAt := now
  resolvedAt := none
  resolvedByUserId := none

/-- The entry that already carries a reference. -/
def suspenseWithRef (suspense : List SuspenseEntry) (tenantId : ℕ) (ref : Option String) :
    Option ℕ :=
  (nonEmpty ref).bind (fun r =>
    suspense.findIdx? (fun x => x.tenantId = tenantId && x.mpesaRef = some r))

/-- Put a receipt in the suspense account, once per tenant and reference: an entry
that carries the reference is returned instead. -/
def park (suspense : List SuspenseEntry) (x : Receipt) (now : ℤ) : List SuspenseEntry × ℕ :=
  match suspenseWithRef suspense x.tenantId x.ref with
  | some i => (suspense, i)
  | none => (suspense ++ [x.entry now], suspense.length)

/-- Park money that cannot be applied. -/
def recordSuspense (db : Db) (x : Receipt) (now : ℤ) : Db × ℕ :=
  let out := park db.suspense x now
  ({ db with suspense := out.1 }, out.2)

/-- A received payment. `freshRef` is what `internal_ref` would draw. -/
structure Payment where
  tenantId : ℕ
  amount : ℤ
  ref : Option String
  method : String
  paidAt : Option ℤ
  phone : Option String
  source : Source
  billRef : Option String
  payerName : Option String
  fromSuspense : Bool
  freshRef : String
  now : ℤ
  deriving DecidableEq, Repr

namespace Payment

/-- The reference the payment is recorded under. -/
def reference (p : Payment) : String := (nonEmpty p.ref).getD p.freshRef

/-- When the customer paid. -/
def paidOn (p : Payment) : ℤ := p.paidAt.getD p.now

end Payment

inductive ApplyStatus
  | applied | duplicateIgnored | suspense
  deriving DecidableEq, Repr

structure ApplyResult where
  status : ApplyStatus
  loanId : ℕ
  applied : ℤ
  excess : ℤ
  components : Option Components
  outstandingBalance : ℤ
  loanStatus : LoanStatus
  suspenseId : Option ℕ
  repaymentId : Option ℕ
  ref : String
  rebate : ℤ
  deriving DecidableEq, Repr

/-- Clear a settled loan's lock: close its open log, and unlock the borrower when no
other live loan keeps them locked. -/
def releaseActiveLock (db : Db) (loanId : ℕ) (loan : Loan) (now : ℤ) : Db × Loan :=
  let openLog := (db.lockLogs.zipIdx.filter
    (fun x => x.1.loanId = loanId && x.1.unlockAt.isNone)).getLast?
  let logs := match openLog with
    | some x => db.lockLogs.modify x.2 (fun l => { l with
        unlockAt := some now, unlockReason := some s!"loan->{loan.status.label}" })
    | none => db.lockLogs
  let others := db.loans.zipIdx.any (fun x => x.1.tenantId = loan.tenantId &&
    x.1.borrowerId = loan.borrowerId && x.2 ≠ loanId &&
    (x.1.status = .active || x.1.status = .overdue))
  let borrowers := if others then db.borrowers
    else db.borrowers.modify loan.borrowerId (fun b => { b with
      editLocked := false, editLockedReason := none })
  ({ db with lockLogs := logs, borrowers := borrowers }, { loan with activeLock := false })

/-- How a payment on an open loan is divided. -/
structure Division where
  settles : Bool
  applied : ℤ
  components : Components
  rebate : ℤ
  interestCredit : ℤ
  deriving DecidableEq, Repr

/-- A payment that covers the early payoff takes only the payoff and writes off the
unearned interest; any other takes what is owed of it. -/
def divide (db : Db) (loanId : ℕ) (loan : Loan) (amount : ℤ) (paidOn : ℤ)
    (settings : PaymentSettings) : Division :=
  let quote := payoffQuote db loanId loan (kenyaDate paidOn) settings.earlySettlementMethod
  if quote.early && quote.payoffAmount ≤ amount then
    let owedNow : Components := ⟨quote.interestOwed, quote.feesOwed, quote.principalOwed⟩
    let parts := settings.allocationOrder.parts.getD [.principal, .fees, .interest]
    { settles := true
      applied := quote.payoffAmount
      components := (waterfall owedNow parts quote.payoffAmount .zero).1
      rebate := quote.rebate
      interestCredit := quote.credit }
  else
    let applied := min amount loan.outstandingBalance
    { settles := false
      applied := applied
      components :=
        if 0 < applied then allocate db loanId loan applied settings.allocationOrder else .zero
      rebate := 0
      interestCredit := 0 }

/-- The loan object after a division is booked, before its status is looked at. -/
def book (loan : Loan) (d : Division) (paidOn : ℤ) : Loan :=
  let loan := if 0 < d.applied then
      { loan with outstandingBalance := loan.outstandingBalance - d.applied } else loan
  if d.settles then { loan with
      outstandingBalance := 0
      interestRebate := loan.interestRebate + d.rebate
      earlySettledAt := some paidOn }
  else loan

/-- A loan with nothing left is paid and its lock released. -/
def markPaid (db : Db) (loanId : ℕ) (loan : Loan) (now : ℤ) : Db × Loan :=
  if loan.outstandingBalance ≤ 0 && loan.status.collectible then
    releaseActiveLock db loanId { loan with status := .paid } now
  else (db, loan)

/-- The repayment row of a division, when something was applied. -/
def repaymentRow (loanId : ℕ) (p : Payment) (d : Division) : List Repayment :=
  if 0 < d.applied then
    [{ tenantId := p.tenantId, loanId := loanId, amount := d.applied,
       principalComponent := d.components.principal, interestComponent := d.components.interest,
       feeComponent := d.components.fees, paymentDate := p.paidOn,
       method := cut 20 p.method, mpesaRef := some p.reference }]
  else []

/-- Park the part of a payment the loan does not take. -/
def overpaymentReceipt (loanId : ℕ) (p : Payment) (excess : ℤ) : Receipt :=
  { tenantId := p.tenantId, reason := .overpayment, amount := excess,
    ref := some (p.reference ++ "-OVR"), phone := p.phone, loanId := some loanId,
    suggestedLoanId := some loanId, source := p.source, billRef := p.billRef,
    payerName := p.payerName, paidAt := some p.paidOn }

/-- Park interest paid earlier beyond what was earned by the payoff date. -/
def interestRefundReceipt (loanId : ℕ) (p : Payment) (credit : ℤ) : Receipt :=
  { tenantId := p.tenantId, reason := .interestRefundDue, amount := credit,
    ref := some (p.reference ++ "-INT"), phone := p.phone, loanId := some loanId,
    suggestedLoanId := some loanId, source := p.source, billRef := none,
    payerName := none, paidAt := some p.paidOn }

/-- Money for a loan that is not collectible. -/
def closedLoanReceipt (loanId : ℕ) (p : Payment) : Receipt :=
  { tenantId := p.tenantId, reason := .closedLoan, amount := p.amount,
    ref := some p.reference, phone := p.phone, loanId := none,
    suggestedLoanId := some loanId, source := p.source, billRef := p.billRef,
    payerName := p.payerName, paidAt := some p.paidOn }

/-- The payment once it is known to be new and the loan collectible. -/
def applyToOpenLoan (db : Db) (loanId : ℕ) (loan : Loan) (p : Payment) :
    Db × Loan × ApplyResult :=
  let d := divide db loanId loan p.amount p.paidOn (getPaymentSettings db p.tenantId)
  let excess := p.amount - d.applied
  let released := markPaid db loanId (book loan d p.paidOn) p.now
  let inserted : Db :=
    { released.1 with repayments := released.1.repayments ++ repaymentRow loanId p d }
  let overpaid : Db × Option ℕ :=
    if 0 < excess then
      let out := recordSuspense inserted (overpaymentReceipt loanId p excess) p.now
      (out.1, some out.2)
    else (inserted, none)
  let refunded : Db :=
    if 0 < d.interestCredit then
      (recordSuspense overpaid.1 (interestRefundReceipt loanId p d.interestCredit) p.now).1
    else overpaid.1
  (refunded, released.2,
    { status := .applied, loanId := loanId, applied := d.applied, excess := excess,
      components := some d.components,
      outstandingBalance := released.2.outstandingBalance, loanStatus := released.2.status,
      suspenseId := overpaid.2,
      repaymentId := if 0 < d.applied then some db.repayments.length else none,
      ref := p.reference, rebate := d.rebate })

/-- Apply a received payment to a loan object the caller holds. -/
def applyPayment (db : Db) (loanId : ℕ) (loan : Loan) (p : Payment) :
    Except Failure (Db × Loan × ApplyResult) :=
  if p.amount ≤ 0 then .error (.valueError "Payment amount must be positive")
  else if loan.tenantId ≠ p.tenantId then .error (.valueError "Loan belongs to another DCP")
  else
    match referenceAlreadyUsed db p.tenantId (some p.reference) (!p.fromSuspense) with
    | some _ => .ok (db, loan,
        { status := .duplicateIgnored, loanId := loanId, applied := 0, excess := 0,
          components := none, outstandingBalance := loan.outstandingBalance,
          loanStatus := loan.status, suspenseId := none,
          repaymentId := db.repayments.findIdx?
            (fun r => r.tenantId = p.tenantId && r.mpesaRef = some p.reference),
          ref := p.reference, rebate := 0 })
    | none =>
      if !loan.status.collectible then
        let out := recordSuspense db (closedLoanReceipt loanId p) p.now
        .ok (out.1, loan,
          { status := .suspense, loanId := loanId, applied := 0, excess := p.amount,
            components := none, outstandingBalance := loan.outstandingBalance,
            loanStatus := loan.status, suspenseId := some out.2, repaymentId := none,
            ref := p.reference, rebate := 0 })
      else .ok (applyToOpenLoan db loanId loan p)

/-- A payment applied to an object and flushed to its row. -/
def payLoan (db : Db) (loanId : ℕ) (loaded : Loan) (p : Payment) :
    Except Failure (Db × ApplyResult) :=
  (applyPayment db loanId loaded p).map
    (fun out => (out.1.flushLoan loanId loaded out.2.1, out.2.2))

/-- A payment on the stored loan; one that is refused leaves the database as it is. -/
def receivePayment (db : Db) (loanId : ℕ) (p : Payment) : Db :=
  match db.loans[loanId]? with
  | some loan =>
    match payLoan db loanId loan p with
    | .ok out => out.1
    | .error _ => db
  | none => db

/-- Ten thousand shillings at ten per cent over four weeks, disbursed on day 0. -/
def fourWeekLoan : Loan where
  tenantId := 1
  accountNumber := "FL/1"
  borrowerId := 0
  productId := 0
  principal := 1000000
  interestRate := 10
  status := .active
  disbursementDate := some 0
  dueDate := some 28
  outstandingBalance := 1100000
  interestRebate := 0
  earlySettledAt := none
  pricingSnapshot := none
  feesInBalance := 0
  penaltiesCharged := 0
  activeLock := true
  disbursedByUserId := none

def fourWeekBook : Db where
  products := [⟨10, 4, "weeks", 5, ⟨0, 0, none⟩⟩]
  borrowers := [⟨1, "254700000001", some "1000009", true, some "active_loan:0"⟩]
  loans := [fourWeekLoan]
  lockLogs := [⟨1, 0, none, none⟩]
  repayments := []
  transactions := []
  suspense := []
  pending := []
  paymentsConfigs := []

/-- A paybill payment of the borrower, dated by the day it was made. -/
def paybillPayment (amount : ℤ) (ref : String) (day : ℤ) : Payment where
  tenantId := 1
  amount := amount
  ref := some ref
  method := "mpesa_c2b"
  paidAt := some (day * 86400)
  phone := some "254700000001"
  source := .c2b
  billRef := some "FL/1"
  payerName := none
  fromSuspense := false
  freshRef := "MAN-1"
  now := 30 * 86400

end FinylDcp
