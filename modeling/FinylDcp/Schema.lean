import FinylDcp.Money
import FinylDcp.Text
import Mathlib.Data.List.Basic
import Mathlib.Algebra.BigOperators.Group.List.Basic

/-!
# The tables

One record per row of the tables that money moves through. Rows are never
deleted and primary keys are serial, so a table is a list and the key of a row
is its position. Each record keeps the columns that the modelled functions read
or write; of a JSON column, the keys they read. Amounts are in cents, a date is a
count of days and a timestamp a count of seconds.
-/
namespace FinylDcp

inductive LoanStatus
  | pending | underwriting | approved | processing | active | paid | overdue | defaulted | rejected
  deriving DecidableEq, Repr

inductive SuspenseStatus
  | open | pendingApproval | allocated | refundProcessing | refunded | reversalPending | reversed
  deriving DecidableEq, Repr

inductive SuspenseReason
  | unmatched | noOpenLoan | ambiguousCustomer | overpayment | closedLoan | interestRefundDue
  deriving DecidableEq, Repr

/-- Where a suspense receipt came from. -/
inductive Source
  | c2b | stk | manual
  deriving DecidableEq, Repr

inductive TransactionType
  | b2c | stkPush | c2b | refund | reversal
  deriving DecidableEq, Repr

inductive TransactionStatus
  | pending | initiated | processing | timedOut | uncertain | success | failed
  deriving DecidableEq, Repr

inductive ActionType
  | disbursement | refund | suspenseRefund | suspenseReversal | manualPayment | suspenseAllocate
  deriving DecidableEq, Repr

inductive ApprovalStatus
  | pendingApproval | approved | rejected
  deriving DecidableEq, Repr

/-- How a product collects its fees. -/
inductive FeeCollection
  | deduct | addToBalance
  deriving DecidableEq, Repr

/-- The keys of `product.rules` that pricing reads; a fee that is absent or not a
number is 0. -/
structure ProductRules where
  processingFeeRate : ℚ
  facilityFee : ℚ
  feeCollection : Option String
  deriving DecidableEq, Repr

structure Product where
  interestRate : ℚ
  tenureValue : ℤ
  tenureUnit : String
  penaltyRate : ℚ
  rules : ProductRules
  deriving DecidableEq, Repr

/-- A priced loan, as stored in `loans.pricing_snapshot`. -/
structure Quote where
  principal : ℤ
  interestRate : ℚ
  tenureValue : ℤ
  tenureUnit : String
  interest : ℤ
  processingFee : ℤ
  facilityFee : ℤ
  totalFees : ℤ
  exciseDuty : ℤ
  totalCostOfCredit : ℤ
  totalRepayable : ℤ
  amountReceived : ℤ
  effectiveAnnualRate : ℤ
  feeCollection : FeeCollection
  payoutAmount : ℤ
  balanceAtDisbursement : ℤ
  feesInBalance : ℤ
  deriving DecidableEq, Repr

structure Borrower where
  tenantId : ℕ
  phone : String
  customerNumber : Option String
  editLocked : Bool
  editLockedReason : Option String
  deriving DecidableEq, Repr

structure Loan where
  tenantId : ℕ
  accountNumber : String
  borrowerId : ℕ
  productId : ℕ
  principal : ℤ
  interestRate : ℚ
  status : LoanStatus
  disbursementDate : Option ℤ
  dueDate : Option ℤ
  outstandingBalance : ℤ
  interestRebate : ℤ
  earlySettledAt : Option ℤ
  pricingSnapshot : Option Quote
  feesInBalance : ℤ
  penaltiesCharged : ℤ
  activeLock : Bool
  disbursedByUserId : Option ℕ
  deriving DecidableEq, Repr

structure LoanActiveLockLog where
  tenantId : ℕ
  loanId : ℕ
  unlockAt : Option ℤ
  unlockReason : Option String
  deriving DecidableEq, Repr

structure Repayment where
  tenantId : ℕ
  loanId : ℕ
  amount : ℤ
  principalComponent : ℤ
  interestComponent : ℤ
  feeComponent : ℤ
  paymentDate : ℤ
  method : String
  mpesaRef : Option String
  deriving DecidableEq, Repr

/-- The keys of `raw_payload` that later steps read back. -/
structure TransactionPayload where
  actorUserId : Option ℕ
  suspenseId : Option ℕ
  pendingId : Option ℕ
  originatorConversationId : Option String
  pricing : Option Quote
  deriving DecidableEq, Repr

structure PaymentTransaction where
  tenantId : ℕ
  type : TransactionType
  loanId : Option ℕ
  amount : ℤ
  phone : Option String
  mpesaRef : Option String
  status : TransactionStatus
  rawPayload : TransactionPayload
  createdAt : ℤ
  deriving DecidableEq, Repr

structure SuspenseEntry where
  tenantId : ℕ
  source : Source
  mpesaRef : Option String
  phone : Option String
  amount : ℤ
  reason : SuspenseReason
  status : SuspenseStatus
  matchedLoanId : Option ℕ
  suggestedLoanId : Option ℕ
  billRef : Option String
  payerName : Option String
  paidAt : Option ℤ
  createdAt : ℤ
  resolvedAt : Option ℤ
  resolvedByUserId : Option ℕ
  deriving DecidableEq, Repr

/-- The keys of `pending_approvals.details` that the approval reads. -/
structure ApprovalDetails where
  suspenseId : Option ℕ
  reference : Option String
  channel : Option String
  paidAt : Option ℤ
  payerName : Option String
  payerPhone : Option String
  deriving DecidableEq, Repr

structure PendingApproval where
  tenantId : ℕ
  actionType : ActionType
  loanId : Option ℕ
  amount : ℤ
  phone : Option String
  reason : Option String
  status : ApprovalStatus
  makerUserId : ℕ
  checkerUserId : Option ℕ
  details : ApprovalDetails
  deriving DecidableEq, Repr

/-- The `payments` integration row of a tenant. The stored settings are free
text; `getPaymentSettings` reads them. -/
structure PaymentsConfig where
  tenantId : ℕ
  allocationOrder : Option String
  earlySettlementMethod : Option String
  deriving DecidableEq, Repr

structure Db where
  products : List Product
  borrowers : List Borrower
  loans : List Loan
  lockLogs : List LoanActiveLockLog
  repayments : List Repayment
  transactions : List PaymentTransaction
  suspense : List SuspenseEntry
  pending : List PendingApproval
  paymentsConfigs : List PaymentsConfig
  deriving DecidableEq, Repr

/-- How a request ends when it does not complete: an exception of the service
layer, an HTTP error, a webhook nothing matches, a unique index, or an exception
nothing catches. The database transaction it was in is rolled back. -/
inductive Failure
  | valueError (message : String)
  | http (status : ℕ) (detail : String)
  | unresolved (message : String)
  | integrity (index : String)
  | crash (message : String)
  deriving DecidableEq, Repr

section Outcomes

variable {ε α β : Type}

/-- What a computation that completed was made of. -/
theorem bind_eq_ok {x : Except ε α} {f : α → Except ε β} {b : β} :
    (x >>= f) = .ok b ↔ ∃ a, x = .ok a ∧ f a = .ok b := by
  cases x <;> simp [Bind.bind, Except.bind]

theorem map_eq_ok {x : Except ε α} {f : α → β} {b : β} :
    x.map f = .ok b ↔ ∃ a, x = .ok a ∧ f a = b := by
  cases x <;> simp [Except.map]

theorem ok_of_toOption {x : Except ε α} {a : α} (h : x.toOption = some a) : x = .ok a := by
  cases x with
  | error failure => cases h
  | ok b => exact congrArg Except.ok (Option.some.inj h)

end Outcomes

/-- Raise an error when a check fails. -/
def refuseIf (c : Prop) [Decidable c] (failure : Failure) : Except Failure Unit :=
  if c then .error failure else .ok ()

theorem refuseIf_eq_ok {c : Prop} [Decidable c] {failure : Failure} {u : Unit} :
    refuseIf c failure = .ok u ↔ ¬ c := by
  unfold refuseIf
  split_ifs with h <;> simp [h]

namespace Loan

/-- Flat interest total due: principal and interest. -/
def totalDue (loan : Loan) : ℤ :=
  money (decimalOf loan.principal * (1 + loan.interestRate / 100))

/-- The flat interest of the whole term. -/
def interestTotal (loan : Loan) : ℤ :=
  money (decimalOf loan.principal * loan.interestRate / 100)

end Loan

namespace LoanStatus

def label : LoanStatus → String
  | pending => "pending"
  | underwriting => "underwriting"
  | approved => "approved"
  | processing => "processing"
  | active => "active"
  | paid => "paid"
  | overdue => "overdue"
  | defaulted => "defaulted"
  | rejected => "rejected"

end LoanStatus

namespace TransactionStatus

def label : TransactionStatus → String
  | pending => "pending"
  | initiated => "initiated"
  | processing => "processing"
  | timedOut => "timed_out"
  | uncertain => "uncertain"
  | success => "success"
  | failed => "failed"

end TransactionStatus

namespace SuspenseStatus

def label : SuspenseStatus → String
  | .open => "open"
  | pendingApproval => "pending_approval"
  | allocated => "allocated"
  | refundProcessing => "refund_processing"
  | refunded => "refunded"
  | reversalPending => "reversal_pending"
  | reversed => "reversed"

end SuspenseStatus

/-- What a flush leaves in a column: the unit of work writes it only when the
object's value differs from the one it was loaded with. -/
def flushColumn {α : Type*} [DecidableEq α] (row loaded now : α) : α :=
  if now = loaded then row else now

@[simp] theorem flushColumn_self {α : Type*} [DecidableEq α] (loaded now : α) :
    flushColumn loaded loaded now = now := by
  unfold flushColumn
  split_ifs with h
  · exact h.symm
  · rfl

namespace Loan

/-- The row after the changed attributes of an object loaded as `loaded` are
flushed to it. The row may have changed since. -/
def flush (row loaded now : Loan) : Loan where
  tenantId := flushColumn row.tenantId loaded.tenantId now.tenantId
  accountNumber := flushColumn row.accountNumber loaded.accountNumber now.accountNumber
  borrowerId := flushColumn row.borrowerId loaded.borrowerId now.borrowerId
  productId := flushColumn row.productId loaded.productId now.productId
  principal := flushColumn row.principal loaded.principal now.principal
  interestRate := flushColumn row.interestRate loaded.interestRate now.interestRate
  status := flushColumn row.status loaded.status now.status
  disbursementDate := flushColumn row.disbursementDate loaded.disbursementDate now.disbursementDate
  dueDate := flushColumn row.dueDate loaded.dueDate now.dueDate
  outstandingBalance :=
    flushColumn row.outstandingBalance loaded.outstandingBalance now.outstandingBalance
  interestRebate := flushColumn row.interestRebate loaded.interestRebate now.interestRebate
  earlySettledAt := flushColumn row.earlySettledAt loaded.earlySettledAt now.earlySettledAt
  pricingSnapshot := flushColumn row.pricingSnapshot loaded.pricingSnapshot now.pricingSnapshot
  feesInBalance := flushColumn row.feesInBalance loaded.feesInBalance now.feesInBalance
  penaltiesCharged := flushColumn row.penaltiesCharged loaded.penaltiesCharged now.penaltiesCharged
  activeLock := flushColumn row.activeLock loaded.activeLock now.activeLock
  disbursedByUserId :=
    flushColumn row.disbursedByUserId loaded.disbursedByUserId now.disbursedByUserId

/-- A row read under its lock is written as the object stands. -/
@[simp] theorem flush_loaded (loaded now : Loan) : flush loaded loaded now = now := by
  simp [flush]

end Loan

/-- What a unique index on the reference sees of a row: nothing, where it has none. -/
def Repayment.key (r : Repayment) : Option (ℕ × String) :=
  r.mpesaRef.map (fun ref => (r.tenantId, ref))

def PaymentTransaction.key (t : PaymentTransaction) : Option (ℕ × String) :=
  t.mpesaRef.map (fun ref => (t.tenantId, ref))

def SuspenseEntry.key (e : SuspenseEntry) : Option (ℕ × String) :=
  e.mpesaRef.map (fun ref => (e.tenantId, ref))

/-- What no step changes of a transaction: whose it is, what moves, and for which loan. -/
def PaymentTransaction.kind (t : PaymentTransaction) : ℕ × TransactionType × Option ℕ :=
  (t.tenantId, t.type, t.loanId)

namespace Db

/-- Write the changed attributes of a loan object to its row. -/
def flushLoan (db : Db) (loanId : ℕ) (loaded now : Loan) : Db :=
  { db with loans := db.loans.modify loanId (fun row => row.flush loaded now) }

/-- The loan rows of a repayment's loan. -/
def repaymentsOf (db : Db) (loanId : ℕ) : List Repayment :=
  db.repayments.filter (fun r => r.loanId = loanId)

def updateTransaction (db : Db) (txnId : ℕ) (f : PaymentTransaction → PaymentTransaction) : Db :=
  { db with transactions := db.transactions.modify txnId f }

def updateSuspense (db : Db) (entryId : ℕ) (f : SuspenseEntry → SuspenseEntry) : Db :=
  { db with suspense := db.suspense.modify entryId f }

def updateLoan (db : Db) (loanId : ℕ) (f : Loan → Loan) : Db :=
  { db with loans := db.loans.modify loanId f }

/-- A unique index on (tenant, reference): rows without a reference are outside it. -/
def uniqueRefs (keys : List (ℕ × Option String)) : Bool :=
  decide (keys.filterMap (fun k => k.2.map (fun r => (k.1, r)))).Nodup

/-- The three reference indexes. -/
def indexed (db : Db) : Bool :=
  uniqueRefs (db.repayments.map (fun r => (r.tenantId, r.mpesaRef))) &&
  uniqueRefs (db.transactions.map (fun t => (t.tenantId, t.mpesaRef))) &&
  uniqueRefs (db.suspense.map (fun s => (s.tenantId, s.mpesaRef)))

theorem indexed_iff {db : Db} : db.indexed = true ↔ (db.repayments.filterMap Repayment.key).Nodup ∧
    (db.transactions.filterMap PaymentTransaction.key).Nodup ∧
    (db.suspense.filterMap SuspenseEntry.key).Nodup := by
  simp only [indexed, uniqueRefs, Bool.and_eq_true, decide_eq_true_eq, List.filterMap_map,
    and_assoc]
  rfl

/-- A transaction that breaks an index is rolled back. -/
def commit (db : Db) : Except Failure Db :=
  if db.indexed then .ok db else .error
    (.integrity "duplicate key value violates unique constraint")

theorem commit_eq_ok {db db' : Db} : db.commit = .ok db' ↔ db.indexed = true ∧ db' = db := by
  unfold commit
  split_ifs with h <;> simp [h, eq_comm]

/-- Everything repaid on a loan. -/
def paid (db : Db) (loanId : ℕ) : ℤ :=
  ((db.repaymentsOf loanId).map (·.amount)).sum

end Db

end FinylDcp
