import FinylDcp.PaymentApprovals
import Mathlib.Data.List.Sort
import Mathlib.Logic.Function.Basic

/-!
# The general ledger

The journal of a tenant over some days, as the export builds it from what was paid out, repaid,
refunded and parked. What a repayment settled of the fees is the price of the loan first, in the
share of the lender and that of the excise duty, and penalties beyond it.
-/
namespace FinylDcp
open Text

inductive Account
  | loansReceivable | cash | suspense | excisePayable | interestIncome | feeIncome | penaltyIncome
  deriving DecidableEq, Repr

def Account.code : Account → String
  | loansReceivable => "1000"
  | cash => "1010"
  | suspense => "1900"
  | excisePayable => "2000"
  | interestIncome => "4000"
  | feeIncome => "4010"
  | penaltyIncome => "4020"

structure GlLine where
  date : ℤ
  account : Account
  accountName : String
  description : String
  debit : ℤ
  credit : ℤ
  reference : String
  deriving DecidableEq, Repr

/-- The first and the last day of a journal. -/
structure GlWindow where
  dfrom : ℤ
  dto : ℤ
  deriving DecidableEq, Repr

/-- The moment the first day starts at. -/
def GlWindow.start (w : GlWindow) : ℤ := w.dfrom * 86400

/-- The moment lies on one of the days. -/
def GlWindow.covers (w : GlWindow) (t : ℤ) : Bool := w.start ≤ t && t ≤ w.dto * 86400 + 86399

/-- What the lines of one event share. -/
structure GlEvent where
  date : ℤ
  description : String
  reference : String

/-- An id as it reads in a text. -/
def showId (id : Option ℕ) : String := (id.map toString).getD "None"

section Journal

variable (coa : String → Option String)

def GlEvent.add (x : GlEvent) (account : Account) (debit credit : ℤ) : GlLine where
  date := x.date
  account := account
  accountName := (coa account.code).getD account.code
  description := x.description
  debit := debit
  credit := credit
  reference := x.reference

/-- The line, for an amount above zero. -/
def GlEvent.credit (x : GlEvent) (account : Account) (amount : ℤ) : List GlLine :=
  if 0 < amount then [x.add coa account 0 amount] else []

def GlEvent.rounding (x : GlEvent) : GlEvent :=
  { x with description := x.description ++ " (rounding)" }

/-- A payout: the loan is for the principal of its price, whatever was paid out of it. -/
def disbursementLines (t : PaymentTransaction) (id : ℕ) : List GlLine :=
  let x : GlEvent := ⟨t.createdAt / 86400, s!"Loan disbursement (loan #{showId t.loanId})",
    (nonEmpty t.mpesaRef).getD s!"TXN-{id}"⟩
  let snap := t.rawPayload.pricing
  let principal := (snap.map (·.principal)).getD t.amount
  let excise := ((snap.filter (fun q => q.feeCollection = .deduct)).map (·.exciseDuty)).getD 0
  let fee := principal - t.amount - excise
  [x.add coa .loansReceivable principal 0, x.add coa .cash 0 t.amount] ++
    x.credit coa .excisePayable excise ++
    if 0 < fee then [x.add coa .feeIncome 0 fee]
    else if fee < 0 then [x.rounding.add coa .feeIncome (-fee) 0] else []

/-- A refund on a loan, which no suspense entry is behind. -/
def refundLines (t : PaymentTransaction) (id : ℕ) : List GlLine :=
  let x : GlEvent := ⟨t.createdAt / 86400, s!"Overpayment refund (loan #{showId t.loanId})",
    (nonEmpty t.mpesaRef).getD s!"TXN-{id}"⟩
  [x.add coa .loansReceivable t.amount 0, x.add coa .cash 0 t.amount]

/-- The split of a repayment; one that does not add up is all principal. -/
def Repayment.split (r : Repayment) : Components :=
  if r.principalComponent + r.interestComponent + r.feeComponent = r.amount then
    { principal := r.principalComponent, interest := r.interestComponent, fees := r.feeComponent }
  else { principal := r.amount, interest := 0, fees := 0 }

/-- The fees in the balance of a loan, and the share of excise duty in its fees. -/
def loanFeeInfo (db : Db) (tenantId loanId : ℕ) : ℤ × ℚ :=
  match loanRow db tenantId loanId with
  | none => (0, 0)
  | some loan =>
    let fees := (loan.pricingSnapshot.map (·.totalFees)).getD 0
    let excise := (loan.pricingSnapshot.map (·.exciseDuty)).getD 0
    (loan.feesInBalance,
      if 0 < fees + excise then context (decimalOf excise / decimalOf (fees + excise)) else 0)

/-- The fees collected on a loan before a moment. -/
def feesPaidBefore (db : Db) (tenantId loanId : ℕ) (start : ℤ) : ℤ :=
  ((db.repayments.filter (fun r => r.tenantId = tenantId && r.loanId = loanId &&
    r.paymentDate < start)).map (·.feeComponent)).sum

/-- Fees collected: those of the price first, of which some were collected before. -/
def feeLines (x : GlEvent) (info : ℤ × ℚ) (paidBefore fee : ℤ) : List GlLine :=
  let left := max (info.1 - paidBefore) 0
  let productFee := min fee left
  let penalty := fee - productFee
  let excise := money (context (decimalOf productFee * info.2))
  x.credit coa .feeIncome (productFee - excise) ++ x.credit coa .excisePayable excise ++
    x.credit coa .penaltyIncome penalty

def Repayment.glEvent (r : Repayment) (id : ℕ) : GlEvent :=
  ⟨r.paymentDate / 86400, s!"Loan repayment (loan #{r.loanId})",
    (nonEmpty r.mpesaRef).getD s!"REP-{id}"⟩

/-- What a repayment brought in, and what it settled but for the fees. -/
def receivedLines (r : Repayment) (id : ℕ) : List GlLine :=
  [(r.glEvent id).add coa .cash r.amount 0] ++
    (r.glEvent id).credit coa .loansReceivable r.split.principal ++
    (r.glEvent id).credit coa .interestIncome r.split.interest

/-- The repayments in their order. What was collected of the fees of a loan is looked up at the
first of them with a fee, and counted on from there. -/
def repaymentLines (db : Db) (tenantId : ℕ) (start : ℤ) :
    (ℕ → Option ℤ) → List (Repayment × ℕ) → List GlLine
  | _, [] => []
  | feePaid, (r, id) :: rest =>
    let fee := r.split.fees
    receivedLines coa r id ++
      if 0 < fee then
        let paidBefore := (feePaid r.loanId).getD (feesPaidBefore db tenantId r.loanId start)
        feeLines coa (r.glEvent id) (loanFeeInfo db tenantId r.loanId) paidBefore fee ++
          repaymentLines db tenantId start
            (Function.update feePaid r.loanId (some (paidBefore + fee))) rest
      else repaymentLines db tenantId start feePaid rest

/-- The repayments of the days, by date and id. -/
def repaymentsIn (db : Db) (tenantId : ℕ) (w : GlWindow) : List (Repayment × ℕ) :=
  (db.repayments.zipIdx.filter (fun x => x.1.tenantId = tenantId && w.covers x.1.paymentDate)
    ).insertionSort (fun x y => x.1.paymentDate ≤ y.1.paymentDate)

def SuspenseReason.label : SuspenseReason → String
  | unmatched => "unmatched"
  | noOpenLoan => "no_open_loan"
  | ambiguousCustomer => "ambiguous_customer"
  | overpayment => "overpayment"
  | closedLoan => "closed_loan"
  | interestRefundDue => "interest_refund_due"

/-- What was sent to refund an entry, in whole shillings. -/
def refundSent (db : Db) (tenantId entryId : ℕ) : Option ℤ :=
  ((db.transactions.filter (fun t => t.tenantId = tenantId && t.type = .refund &&
    t.status = .success && t.rawPayload.suspenseId = some entryId)).getLast?).map (·.amount)

def SuspenseEntry.glReference (e : SuspenseEntry) (id : ℕ) : String :=
  (nonEmpty e.mpesaRef).getD s!"SUS-{id}"

/-- An entry that was parked on one of the days. -/
def parkedLines (w : GlWindow) (e : SuspenseEntry) (id : ℕ) : List GlLine :=
  let x : GlEvent := ⟨e.createdAt / 86400, s!"Suspense receipt ({e.reason.label})",
    e.glReference id⟩
  if w.covers e.createdAt then
    [x.add coa .cash e.amount 0, x.add coa .suspense 0 e.amount] else []

/-- An entry that was disposed of on one of the days. -/
def disposedLines (db : Db) (tenantId : ℕ) (w : GlWindow) (e : SuspenseEntry) (id : ℕ) :
    List GlLine :=
  match e.resolvedAt with
  | none => []
  | some resolvedAt =>
    let x : GlEvent := ⟨resolvedAt / 86400, s!"Suspense {e.status.label}", e.glReference id⟩
    let sent := if e.status = .refunded then (refundSent db tenantId id).getD e.amount
      else e.amount
    if (e.status = .allocated || e.status = .refunded || e.status = .reversed) &&
        w.covers resolvedAt then
      [x.add coa .suspense e.amount 0, x.add coa .cash 0 sent] ++
        if e.amount < sent then [x.rounding.add coa .feeIncome (sent - e.amount) 0] else []
    else []

/-- The transactions of the days of some type that went through, with their ids. -/
def settledIn (db : Db) (tenantId : ℕ) (type : TransactionType) (w : GlWindow) :
    List (PaymentTransaction × ℕ) :=
  db.transactions.zipIdx.filter (fun x => x.1.tenantId = tenantId && x.1.type = type &&
    x.1.status = .success && w.covers x.1.createdAt)

/-- The entries of a tenant, with their ids. -/
def entriesOf (db : Db) (tenantId : ℕ) : List (SuspenseEntry × ℕ) :=
  db.suspense.zipIdx.filter (fun x => x.1.tenantId = tenantId)

def GlLine.before (a b : GlLine) : Bool :=
  a.date < b.date || (a.date = b.date && a.account.code ≤ b.account.code)

/-- `_build_gl_lines`: the journal, by date and account. -/
def glLines (db : Db) (tenantId : ℕ) (w : GlWindow) : List GlLine :=
  ((settledIn db tenantId .b2c w).flatMap (fun x => disbursementLines coa x.1 x.2) ++
    repaymentLines coa db tenantId w.start (fun _ => none) (repaymentsIn db tenantId w) ++
    ((settledIn db tenantId .refund w).filter (fun x => x.1.rawPayload.suspenseId.isNone)).flatMap
      (fun x => refundLines coa x.1 x.2) ++
    (entriesOf db tenantId).flatMap
      (fun x => parkedLines coa w x.1 x.2 ++ disposedLines coa db tenantId w x.1 x.2)
    ).insertionSort (fun a b => a.before b)

/-- What is on the debit side. -/
def totalDebit (lines : List GlLine) : ℤ := (lines.map (·.debit)).sum

/-- What is on the credit side. -/
def totalCredit (lines : List GlLine) : ℤ := (lines.map (·.credit)).sum

structure GlExport where
  lines : List GlLine
  totalDebit : ℤ
  totalCredit : ℤ
  balanced : Bool
  deriving DecidableEq, Repr

/-- `GET /accounting/gl-export`, in one of its formats. -/
def glExport (db : Db) (tenantId : ℕ) (format : String) (w : GlWindow) :
    Except Failure GlExport := do
  refuseIf (format ≠ "csv" ∧ format ≠ "json") (.http 422 "format must be 'csv' or 'json'")
  refuseIf (w.dto < w.dfrom) (.http 422 "'from' must not be after 'to'")
  let lines := glLines coa db tenantId w
  return ⟨lines, FinylDcp.totalDebit lines, FinylDcp.totalCredit lines,
    FinylDcp.totalDebit lines = FinylDcp.totalCredit lines⟩

end Journal

end FinylDcp
