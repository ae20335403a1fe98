import FinylDcp.Schema
import FinylDcp.Tables

/-!
# What a session writes

A session reads committed rows, changes the objects it loaded and adds new ones. At
its commit the changed columns of those objects are written to the rows as they are
by then, and the new rows are added behind what others have added meanwhile.
-/
namespace FinylDcp

section Flush

variable {α : Type*} [DecidableEq α]

@[simp] theorem flushColumn_unchanged (row loaded : α) : flushColumn row loaded loaded = row := by
  simp [flushColumn]

end Flush

namespace Borrower

def flush (row loaded now : Borrower) : Borrower where
  tenantId := flushColumn row.tenantId loaded.tenantId now.tenantId
  phone := flushColumn row.phone loaded.phone now.phone
  customerNumber := flushColumn row.customerNumber loaded.customerNumber now.customerNumber
  editLocked := flushColumn row.editLocked loaded.editLocked now.editLocked
  editLockedReason := flushColumn row.editLockedReason loaded.editLockedReason now.editLockedReason

@[simp] theorem flush_loaded (loaded now : Borrower) : flush loaded loaded now = now := by
  simp [flush]

end Borrower

namespace LoanActiveLockLog

def flush (row loaded now : LoanActiveLockLog) : LoanActiveLockLog where
  tenantId := flushColumn row.tenantId loaded.tenantId now.tenantId
  loanId := flushColumn row.loanId loaded.loanId now.loanId
  unlockAt := flushColumn row.unlockAt loaded.unlockAt now.unlockAt
  unlockReason := flushColumn row.unlockReason loaded.unlockReason now.unlockReason

@[simp] theorem flush_loaded (loaded now : LoanActiveLockLog) : flush loaded loaded now = now := by
  simp [flush]

end LoanActiveLockLog

namespace PaymentTransaction

def flush (row loaded now : PaymentTransaction) : PaymentTransaction where
  tenantId := flushColumn row.tenantId loaded.tenantId now.tenantId
  type := flushColumn row.type loaded.type now.type
  loanId := flushColumn row.loanId loaded.loanId now.loanId
  amount := flushColumn row.amount loaded.amount now.amount
  phone := flushColumn row.phone loaded.phone now.phone
  mpesaRef := flushColumn row.mpesaRef loaded.mpesaRef now.mpesaRef
  status := flushColumn row.status loaded.status now.status
  rawPayload := flushColumn row.rawPayload loaded.rawPayload now.rawPayload
  createdAt := flushColumn row.createdAt loaded.createdAt now.createdAt

@[simp] theorem flush_loaded (loaded now : PaymentTransaction) : flush loaded loaded now = now := by
  simp [flush]

end PaymentTransaction

namespace SuspenseEntry

def flush (row loaded now : SuspenseEntry) : SuspenseEntry where
  tenantId := flushColumn row.tenantId loaded.tenantId now.tenantId
  source := flushColumn row.source loaded.source now.source
  mpesaRef := flushColumn row.mpesaRef loaded.mpesaRef now.mpesaRef
  phone := flushColumn row.phone loaded.phone now.phone
  amount := flushColumn row.amount loaded.amount now.amount
  reason := flushColumn row.reason loaded.reason now.reason
  status := flushColumn row.status loaded.status now.status
  matchedLoanId := flushColumn row.matchedLoanId loaded.matchedLoanId now.matchedLoanId
  suggestedLoanId := flushColumn row.suggestedLoanId loaded.suggestedLoanId now.suggestedLoanId
  billRef := flushColumn row.billRef loaded.billRef now.billRef
  payerName := flushColumn row.payerName loaded.payerName now.payerName
  paidAt := flushColumn row.paidAt loaded.paidAt now.paidAt
  createdAt := flushColumn row.createdAt loaded.createdAt now.createdAt
  resolvedAt := flushColumn row.resolvedAt loaded.resolvedAt now.resolvedAt
  resolvedByUserId := flushColumn row.resolvedByUserId loaded.resolvedByUserId now.resolvedByUserId

@[simp] theorem flush_loaded (loaded now : SuspenseEntry) : flush loaded loaded now = now := by
  simp [flush]

@[simp] theorem flush_unchanged (row loaded : SuspenseEntry) : flush row loaded loaded = row := by
  simp [flush]

end SuspenseEntry

namespace PendingApproval

def flush (row loaded now : PendingApproval) : PendingApproval where
  tenantId := flushColumn row.tenantId loaded.tenantId now.tenantId
  actionType := flushColumn row.actionType loaded.actionType now.actionType
  loanId := flushColumn row.loanId loaded.loanId now.loanId
  amount := flushColumn row.amount loaded.amount now.amount
  phone := flushColumn row.phone loaded.phone now.phone
  reason := flushColumn row.reason loaded.reason now.reason
  status := flushColumn row.status loaded.status now.status
  makerUserId := flushColumn row.makerUserId loaded.makerUserId now.makerUserId
  checkerUserId := flushColumn row.checkerUserId loaded.checkerUserId now.checkerUserId
  details := flushColumn row.details loaded.details now.details

@[simp] theorem flush_loaded (loaded now : PendingApproval) : flush loaded loaded now = now := by
  simp [flush]

end PendingApproval

section MergeRows

variable {α β : Type*} (flush : α → α → α → α)

/-- A table after a session's commit: the rows it loaded are flushed, its new rows come
last. -/
def mergeRows (before after now : List α) : List α :=
  now.mapIdx (fun i row =>
    match before[i]?, after[i]? with
    | some loaded, some changed => flush row loaded changed
    | _, _ => row) ++ after.drop before.length

variable {flush}

/-- A row that was there is flushed where the session loaded it. -/
theorem mergeRows_getElem? (flush : α → α → α → α) (before after : List α) {now : List α} {i : ℕ}
    {row : α} (h : now[i]? = some row) :
    (mergeRows flush before after now)[i]? = some (match before[i]?, after[i]? with
      | some loaded, some changed => flush row loaded changed
      | _, _ => row) := by
  obtain ⟨hi, rfl⟩ := List.getElem?_eq_some_iff.mp h
  rw [mergeRows, List.getElem?_append_left (by simpa using hi)]
  simp [hi]

/-- The first new row comes right behind the rows of others. -/
theorem mergeRows_new {before now : List α} {row : α} :
    (mergeRows flush before (before ++ [row]) now)[now.length]? = some row := by
  rw [mergeRows, List.getElem?_append_right (by simp)]
  simp

/-- Where nothing was committed meanwhile the session's own view is what is left. -/
theorem mergeRows_base (hflush : ∀ loaded now, flush loaded loaded now = now)
    {before after : List α} (h : before.length ≤ after.length) :
    mergeRows flush before after before = after := by
  have hrows : before.mapIdx (fun i row =>
      match before[i]?, after[i]? with
      | some loaded, some changed => flush row loaded changed
      | _, _ => row) = after.take before.length := by
    apply List.ext_getElem
    · simp [h]
    · intro i hi _
      have hlt : i < before.length := by simpa using hi
      simp [hlt, hlt.trans_le h, hflush]
  rw [mergeRows, hrows, List.take_append_drop]

/-- New rows go behind those of others. -/
theorem mergeRows_append (hflush : ∀ row loaded, flush row loaded loaded = row)
    (before rows now : List α) : mergeRows flush before (before ++ rows) now = now ++ rows := by
  have hrows : now.mapIdx (fun i row =>
      match before[i]?, (before ++ rows)[i]? with
      | some loaded, some changed => flush row loaded changed
      | _, _ => row) = now := by
    apply List.ext_getElem
    · simp
    · intro i hi _
      by_cases hlt : i < before.length
      · simp [hlt, List.getElem?_append_left hlt, hflush]
      · simp [List.getElem?_eq_none (not_lt.mp hlt)]
  rw [mergeRows, hrows, List.drop_left]

end MergeRows

namespace Db

/-- The database after a session that saw `before` and turned it into `after` commits on
top of `db`. -/
def merge (before after db : Db) : Db where
  products := db.products
  borrowers := mergeRows Borrower.flush before.borrowers after.borrowers db.borrowers
  loans := mergeRows Loan.flush before.loans after.loans db.loans
  lockLogs := mergeRows LoanActiveLockLog.flush before.lockLogs after.lockLogs db.lockLogs
  repayments := db.repayments ++ after.repayments.drop before.repayments.length
  transactions :=
    mergeRows PaymentTransaction.flush before.transactions after.transactions db.transactions
  suspense := mergeRows SuspenseEntry.flush before.suspense after.suspense db.suspense
  pending := mergeRows PendingApproval.flush before.pending after.pending db.pending
  paymentsConfigs := db.paymentsConfigs

/-- Rows are added to every table, and repayments are never changed. -/
structure Extends (before after : Db) : Prop where
  products : after.products = before.products
  borrowers : before.borrowers.length ≤ after.borrowers.length
  loans : before.loans.length ≤ after.loans.length
  lockLogs : before.lockLogs.length ≤ after.lockLogs.length
  repayments : before.repayments <+: after.repayments
  transactions : before.transactions.length ≤ after.transactions.length
  suspense : before.suspense.length ≤ after.suspense.length
  pending : before.pending.length ≤ after.pending.length
  paymentsConfigs : after.paymentsConfigs = before.paymentsConfigs

namespace Extends

theorem refl (db : Db) : Extends db db :=
  ⟨rfl, le_rfl, le_rfl, le_rfl, List.prefix_refl _, le_rfl, le_rfl, le_rfl, rfl⟩

theorem trans {a b c : Db} (hab : Extends a b) (hbc : Extends b c) : Extends a c where
  products := hbc.products.trans hab.products
  borrowers := hab.borrowers.trans hbc.borrowers
  loans := hab.loans.trans hbc.loans
  lockLogs := hab.lockLogs.trans hbc.lockLogs
  repayments := hab.repayments.trans hbc.repayments
  transactions := hab.transactions.trans hbc.transactions
  suspense := hab.suspense.trans hbc.suspense
  pending := hab.pending.trans hbc.pending
  paymentsConfigs := hbc.paymentsConfigs.trans hab.paymentsConfigs

theorem flushLoan (db : Db) (loanId : ℕ) (loaded now : Loan) :
    Extends db (db.flushLoan loanId loaded now) :=
  { refl db with loans := by simp [Db.flushLoan] }

theorem updateTransaction (db : Db) (txnId : ℕ) (f : PaymentTransaction → PaymentTransaction) :
    Extends db (db.updateTransaction txnId f) :=
  { refl db with transactions := by simp [Db.updateTransaction] }

theorem updateSuspense (db : Db) (entryId : ℕ) (f : SuspenseEntry → SuspenseEntry) :
    Extends db (db.updateSuspense entryId f) :=
  { refl db with suspense := by simp [Db.updateSuspense] }

theorem addRepayments (db : Db) (rows : List Repayment) :
    Extends db { db with repayments := db.repayments ++ rows } :=
  { refl db with repayments := List.prefix_append _ _ }

theorem addTransactions (db : Db) (rows : List PaymentTransaction) :
    Extends db { db with transactions := db.transactions ++ rows } :=
  { refl db with transactions := by simp }

end Extends

/-- A session nothing was committed beside leaves its own view. -/
theorem merge_base {before after : Db} (h : Extends before after) :
    merge before after before = after := by
  obtain ⟨rows, hrows⟩ := h.repayments
  simp only [merge, ← h.products, ← h.paymentsConfigs,
    mergeRows_base Borrower.flush_loaded h.borrowers, mergeRows_base Loan.flush_loaded h.loans,
    mergeRows_base LoanActiveLockLog.flush_loaded h.lockLogs,
    mergeRows_base PaymentTransaction.flush_loaded h.transactions,
    mergeRows_base SuspenseEntry.flush_loaded h.suspense,
    mergeRows_base PendingApproval.flush_loaded h.pending, ← hrows, List.drop_left]
  rw [hrows]

end Db

end FinylDcp
