import FinylDcp.PaymentApprovals

/-!
# The channels

The Daraja callbacks and the operator endpoints of the payments hub. A callback
that is not resolved, or breaks an index at its commit, leaves the database as it
was; its event stays in the queue for a retry. Whether an amount needs a second
person is read from a configuration kept elsewhere and comes in as `needsChecker`.
-/
namespace FinylDcp
open Text

/-- The callback's transaction: by conversation id, else by the originator's id among the
unsettled ones. -/
def findB2cTxn (db : Db) (conversationId originatorId : Option String) :
    Option (ℕ × PaymentTransaction) :=
  let payouts := db.transactions.zipIdx.filter (fun x => x.1.type = .b2c || x.1.type = .refund)
  let byConversation := (nonEmpty conversationId).bind (fun c =>
    payouts.find? (fun x => x.1.mpesaRef = some c))
  let byOriginator := (nonEmpty originatorId).bind (fun o =>
    payouts.find?
      (fun x => x.1.status.settleable && x.1.rawPayload.originatorConversationId = some o))
  (byConversation <|> byOriginator).map (fun x => (x.2, x.1))

/-- The fields of a B2C or reversal result body that are read. -/
structure ResultBody where
  conversationId : Option String
  originatorId : Option String
  resultCode : String
  transactionId : Option String
  deriving DecidableEq, Repr

def processB2cResult (db : Db) (body : ResultBody) (now : ℤ) : Except Failure Db :=
  match findB2cTxn db body.conversationId body.originatorId with
  | none => .error (.unresolved "no B2C transaction for the conversation")
  | some (txnId, txn) => do
    let out ← applyB2cResult db txn.tenantId txnId txn body.resultCode body.transactionId now
    out.1.commit

def processB2cTimeout (db : Db) (body : ResultBody) : Except Failure Db :=
  match findB2cTxn db body.conversationId body.originatorId with
  | none => .error (.unresolved "no B2C transaction for the conversation")
  | some (txnId, txn) => (markB2cTimeout db txnId txn).1.commit

def findReversalTxn (db : Db) (conversationId originatorId : Option String) :
    Option (ℕ × PaymentTransaction) :=
  let reversals := db.transactions.zipIdx.filter (fun x => x.1.type = .reversal)
  let byConversation := (nonEmpty conversationId).bind (fun c =>
    reversals.find? (fun x => x.1.mpesaRef = some c))
  let byOriginator := (nonEmpty originatorId).bind (fun o =>
    reversals.find? (fun x => (x.1.status = .processing || x.1.status = .timedOut) &&
      x.1.rawPayload.originatorConversationId = some o))
  (byConversation <|> byOriginator).map (fun x => (x.2, x.1))

def processReversalResult (db : Db) (body : ResultBody) (now : ℤ) : Except Failure Db :=
  match findReversalTxn db body.conversationId body.originatorId with
  | none => .error (.unresolved "no reversal for the conversation")
  | some (txnId, txn) => (applyReversalResult db txn.tenantId txnId txn body.resultCode now).commit

def processReversalTimeout (db : Db) (body : ResultBody) : Except Failure Db :=
  match findReversalTxn db body.conversationId body.originatorId with
  | none => .error (.unresolved "no reversal for the conversation")
  | some (txnId, txn) => (markReversalTimeout db txnId txn).commit

/-- The payout or refund a person may resolve: not one the same person started. -/
def payoutToResolve (db : Db) (tenantId txnId : ℕ) (checker : Checker) :
    Except Failure PaymentTransaction :=
  match (db.transactions[txnId]?).filter
    (fun t => t.tenantId = tenantId && (t.type = .b2c || t.type = .refund)) with
  | none => .error (.http 404 "Payout not found")
  | some txn =>
    let need := if txn.type = .b2c then "disburse.approve" else "refund.approve"
    if !checker.superAdmin && !checker.permissions.contains need then
      .error (.http 403 s!"Missing required permission: {need}")
    else if txn.rawPayload.actorUserId = some checker.id then
      .error (.http 403 "The person who started this payout cannot resolve it")
    else .ok txn

/-- `POST /payouts/{id}/resolve`. -/
def resolvePayoutRequest (db : Db) (tenantId txnId : ℕ) (checker : Checker) (outcome : String)
    (receipt : Option String) (note : String) (now : ℤ) : Except Failure Db := do
  let txn ← payoutToResolve db tenantId txnId checker
  let out ← resolvePayout db tenantId txnId txn outcome receipt note now
  out.1.commit

/-- What a channel answers: nothing to do, money parked whole, a payment handed to the
loan, or an entry waiting for a second person. -/
inductive Reply
  | acknowledged
  | parked (tenantId suspenseId : ℕ)
  | payment (tenantId : ℕ) (result : ApplyResult)
  | awaitingApproval (pendingId : ℕ)
  deriving DecidableEq, Repr

/-- Commit and answer. -/
def commitWith (db : Db) (reply : Reply) : Except Failure (Db × Reply) :=
  db.commit.map (fun saved => (saved, reply))

theorem commitWith_eq_ok {db : Db} {reply : Reply} {out : Db × Reply} :
    commitWith db reply = .ok out ↔ db.indexed = true ∧ out = (db, reply) := by
  simp only [commitWith, map_eq_ok, Db.commit_eq_ok]
  constructor
  · rintro ⟨_, ⟨h, rfl⟩, rfl⟩
    exact ⟨h, rfl⟩
  · rintro ⟨h, rfl⟩
    exact ⟨db, ⟨h, rfl⟩, rfl⟩

/-- The fields of an STK callback body that are read. -/
structure StkCallback where
  checkoutRequestId : Option String
  resultCode : String
  receipt : Option String
  amount : Option ℤ
  paidAt : Option ℤ
  phone : Option String
  deriving DecidableEq, Repr

/-- The payment of a successful STK push; a receipt the body lacks is drawn fresh. -/
def StkCallback.payment (cb : StkCallback) (txn : PaymentTransaction) (freshRef : String)
    (now : ℤ) :
    Payment where
  tenantId := txn.tenantId
  amount := match cb.amount with
    | some a => if a = 0 then txn.amount else a
    | none => txn.amount
  ref := some ((nonEmpty cb.receipt).getD freshRef)
  method := "stk_push"
  paidAt := cb.paidAt
  phone := nonEmpty cb.phone
  source := .stk
  billRef := none
  payerName := none
  fromSuspense := false
  freshRef := freshRef
  now := now

/-- Mark an STK transaction as paid under its receipt. -/
def stkPaid (db : Db) (txnId : ℕ) (receipt : Option String) : Db :=
  db.updateTransaction txnId (fun t => { t with status := .success, mpesaRef := receipt })

def processStkCallback (db : Db) (cb : StkCallback) (freshRef : String) (now : ℤ) :
    Except Failure (Db × Reply) :=
  match nonEmpty cb.checkoutRequestId with
  | none => .ok (db, .acknowledged)
  | some checkoutId =>
    match db.transactions.findIdx? (fun t => t.type = .stkPush && t.mpesaRef = some checkoutId) with
    | none => .error (.unresolved s!"unknown STK checkout {checkoutId}")
    | some txnId =>
      match db.transactions[txnId]? with
      | none => .error (.unresolved s!"unknown STK checkout {checkoutId}")
      | some txn =>
        if txn.status ≠ .pending && txn.status ≠ .processing then .ok (db, .acknowledged)
        else if cb.resultCode ≠ "0" then
          commitWith (db.updateTransaction txnId (fun t => { t with status := .failed }))
            .acknowledged
        else
          let p := cb.payment txn freshRef now
          let paid := stkPaid db txnId p.ref
          match loanOf db txn.tenantId txn with
          | some (loanId, loan) =>
            if 0 < p.amount then do
              let out ← payLoan paid loanId loan p
              commitWith out.1 (.payment txn.tenantId out.2)
            else commitWith paid .acknowledged
          | none => commitWith paid .acknowledged

/-- The fields of a paybill confirmation that are read. -/
structure C2BCallback where
  transId : Option String
  transAmount : ℤ
  msisdn : Option String
  billRefNumber : Option String
  businessShortCode : Option String
  paidAt : Option ℤ
  payerName : Option String
  deriving DecidableEq, Repr

/-- The tenant of a confirmation: the one its paybill belongs to or, without a paybill
number, the one of the latest loan with the account number. -/
def c2bTenant (db : Db) (shortcodeToTenant : String → Option ℕ) (cb : C2BCallback) :
    Except Failure ℕ :=
  match nonEmpty (cb.businessShortCode.map strip) with
  | some shortcode =>
    match shortcodeToTenant shortcode with
    | some tenantId => .ok tenantId
    | none => .error (.unresolved s!"paybill {shortcode} is not registered to any DCP")
  | none =>
    match (nonEmpty cb.billRefNumber).bind (fun ref =>
      (db.loans.filter (fun l => l.accountNumber = ref)).getLast?) with
    | some loan => .ok loan.tenantId
    | none => .error (.unresolved "no loan for the account")

/-- The payment of a matched confirmation. -/
def C2BCallback.payment (cb : C2BCallback) (tenantId : ℕ) (freshRef : String) (now : ℤ) :
    Payment where
  tenantId := tenantId
  amount := cb.transAmount
  ref := cb.transId
  method := "mpesa_c2b"
  paidAt := cb.paidAt
  phone := cb.msisdn
  source := .c2b
  billRef := cb.billRefNumber
  payerName := cb.payerName
  fromSuspense := false
  freshRef := freshRef
  now := now

/-- The receipt of an unmatched confirmation. -/
def C2BCallback.receipt (cb : C2BCallback) (tenantId : ℕ) (m : Match) (freshRef : String) :
    Receipt where
  tenantId := tenantId
  reason := m.reason.getD .unmatched
  amount := cb.transAmount
  ref := some ((nonEmpty cb.transId).getD freshRef)
  phone := cb.msisdn
  loanId := none
  suggestedLoanId := m.suggestedLoanId
  source := .c2b
  billRef := cb.billRefNumber
  payerName := cb.payerName
  paidAt := cb.paidAt

/-- The transaction row of a confirmation. -/
def C2BCallback.transaction (cb : C2BCallback) (tenantId : ℕ) (loanId : Option ℕ)
    (ref : Option String) (now : ℤ) : PaymentTransaction where
  tenantId := tenantId
  type := .c2b
  loanId := loanId
  amount := cb.transAmount
  phone := cb.msisdn
  mpesaRef := ref
  status := .success
  rawPayload := ⟨none, none, none, none, none⟩
  createdAt := now

/-- Park an unmatched confirmation. -/
def parkConfirmation (db : Db) (tenantId : ℕ) (cb : C2BCallback) (m : Match) (freshRef : String)
    (now : ℤ) : Except Failure (Db × Reply) :=
  let parked := recordSuspense db (cb.receipt tenantId m freshRef) now
  commitWith { parked.1 with
    transactions := db.transactions ++ [cb.transaction tenantId none (nonEmpty cb.transId) now] }
    (.parked tenantId parked.2)

/-- Apply a matched confirmation to the loan object the session holds. A duplicate is
rolled back. -/
def applyConfirmation (db : Db) (tenantId loanId : ℕ) (loan : Loan) (cb : C2BCallback)
    (freshRef : String) (now : ℤ) : Except Failure (Db × Reply) := do
  let out ← payLoan db loanId loan (cb.payment tenantId freshRef now)
  if out.2.status = .duplicateIgnored then return (db, .acknowledged)
  else commitWith { out.1 with
    transactions := out.1.transactions ++
      [cb.transaction tenantId (some loanId) (some out.2.ref) now] } (.payment tenantId out.2)

def processC2bCallback (db : Db) (shortcodeToTenant : String → Option ℕ) (cb : C2BCallback)
    (freshRef : String) (now : ℤ) : Except Failure (Db × Reply) := do
  let tenantId ← c2bTenant db shortcodeToTenant cb
  if (referenceAlreadyUsed db tenantId cb.transId true).isSome then return (db, .acknowledged)
  else
    let m := matchReference db tenantId cb.billRefNumber cb.msisdn
    match m.loan with
    | none => parkConfirmation db tenantId cb m freshRef now
    | some loanId =>
      match loanRow db tenantId loanId with
      | none => .error (.crash "the matched loan is gone")
      | some loan => applyConfirmation db tenantId loanId loan cb freshRef now

structure ManualPaymentIn where
  loanId : Option ℕ
  customerNumber : Option String
  amount : ℤ
  channel : String
  reference : Option String
  paidAt : Option ℤ
  payerName : Option String
  payerPhone : Option String
  note : String
  deriving DecidableEq, Repr

/-- `MANUAL_CHANNELS`, sorted. -/
def manualChannels : List String := ["bank", "cash", "mpesa_paybill", "mpesa_till", "other"]

/-- A validated manual entry: its loan, reference and details. -/
structure ManualEntry where
  loanId : ℕ
  loan : Loan
  amount : ℤ
  details : ApprovalDetails
  note : String

/-- The checks of `POST /payments/manual`. A cash payment may come without a reference. -/
def validateManualPayment (db : Db) (tenantId : ℕ) (body : ManualPaymentIn) (freshRef : String)
    (now : ℤ) : Except Failure ManualEntry := do
  let channel := lower (strip body.channel)
  refuseIf (!manualChannels.contains channel) (.http 422
    "channel must be one of ['bank', 'cash', 'mpesa_paybill', 'mpesa_till', 'other']")
  refuseIf (body.amount ≤ 0) (.http 422 "Amount must be positive")
  let ref := cleanReference body.reference
  refuseIf (ref.isNone && channel ≠ "cash") (.http 422
    "A transaction reference (M-Pesa code or bank reference) is required for this channel")
  let paidAt ← checkPaidAt body.paidAt now
  refuseIf (strip body.note = "") (.http 422
    ("A note describing the evidence (e.g. statement line, receipt number, customer SMS) " ++
      "is required"))
  let found ← resolveManualLoan db tenantId body.loanId body.customerNumber
  refuseIf (!found.2.status.collectible)
    (.http 400 s!"Loan is not collectible (status={found.2.status.label})")
  ensureReferenceFree db tenantId ref
  return { loanId := found.1, loan := found.2, amount := body.amount,
           details := { suspenseId := none, reference := some (ref.getD freshRef),
                        channel := some channel, paidAt := some paidAt,
                        payerName := nonEmpty (body.payerName.map strip),
                        payerPhone := nonEmpty (body.payerPhone.map strip) },
           note := strip body.note }

/-- A valid entry is about a loan of the table and carries the cleaned reference. -/
theorem validateManualPayment_eq_ok {db : Db} {tenantId : ℕ} {body : ManualPaymentIn}
    {freshRef : String} {now : ℤ} {entry : ManualEntry}
    (h : validateManualPayment db tenantId body freshRef now = .ok entry) :
    db.loans[entry.loanId]? = some entry.loan ∧
      entry.details.reference = some ((cleanReference body.reference).getD freshRef) := by
  obtain ⟨-, -, h⟩ := bind_eq_ok.mp h
  obtain ⟨-, -, h⟩ := bind_eq_ok.mp h
  obtain ⟨-, -, h⟩ := bind_eq_ok.mp h
  obtain ⟨paidAt, -, h⟩ := bind_eq_ok.mp h
  obtain ⟨-, -, h⟩ := bind_eq_ok.mp h
  obtain ⟨found, hfound, h⟩ := bind_eq_ok.mp h
  obtain ⟨-, -, h⟩ := bind_eq_ok.mp h
  obtain ⟨-, -, h⟩ := bind_eq_ok.mp h
  cases h
  exact ⟨(resolveManualLoan_row hfound).1, rfl⟩

def recordManualPayment (db : Db) (tenantId makerId : ℕ) (body : ManualPaymentIn)
    (needsChecker : Bool) (freshRef : String) (now : ℤ) : Except Failure (Db × Reply) := do
  let entry ← validateManualPayment db tenantId body freshRef now
  if needsChecker then
    let out := parkManualPayment db tenantId makerId entry.loanId entry.amount entry.details
      (some (cut 200 entry.note))
    commitWith out.1 (.awaitingApproval out.2)
  else
    let out ←
      applyManual db tenantId entry.loanId entry.loan entry.amount entry.details freshRef now
    commitWith out.1 (.payment tenantId out.2)

/-- The payment of a reconciliation. -/
def reconcilePaymentOf (tenantId : ℕ) (amount : ℤ) (ref : Option String) (freshRef : String)
    (now : ℤ) : Payment where
  tenantId := tenantId
  amount := amount
  ref := ref
  method := "reconciliation"
  paidAt := none
  phone := none
  source := .manual
  billRef := none
  payerName := none
  fromSuspense := false
  freshRef := freshRef
  now := now

/-- `POST /payments/reconcile`, the older form of a manual entry. -/
def reconcilePayment (db : Db) (tenantId makerId loanId : ℕ) (amount : ℤ) (mpesaRef : Option String)
    (needsChecker : Bool) (freshRef : String) (now : ℤ) : Except Failure (Db × Reply) :=
  let ref := cleanReference mpesaRef
  if amount ≤ 0 then .error (.http 400 "Amount must be positive")
  else
    match loanRow db tenantId loanId with
    | none => .error (.http 404 "Loan not found")
    | some loan =>
      if db.repayments.any (fun r => ref.isSome && r.tenantId = tenantId && r.mpesaRef = ref) then
        .ok (db, .acknowledged)
      else do
        ensureReferenceFree db tenantId ref
        refuseIf (!loan.status.collectible) (.http 400
          (s!"Loan is not collectible (status={loan.status.label}); " ++
            "record the money via the suspense account instead"))
        let details : ApprovalDetails := ⟨none, ref, some "mpesa_paybill", some now, none, none⟩
        if needsChecker then
          let out := parkManualPayment db tenantId makerId loanId amount details none
          commitWith out.1 (.awaitingApproval out.2)
        else
          let out ← payLoan db loanId loan (reconcilePaymentOf tenantId amount ref freshRef now)
          commitWith out.1 (.payment tenantId out.2)

/-- The entry of a suspense request; one that is not open is left as it is. -/
def openEntry (db : Db) (tenantId entryId : ℕ) : Except Failure (Option SuspenseEntry) :=
  match (db.suspense[entryId]?).filter (fun e => e.tenantId = tenantId) with
  | none => .error (.http 404 "Suspense entry not found")
  | some entry => .ok (if entry.status = .open then some entry else none)

theorem openEntry_eq_some {db : Db} {tenantId entryId : ℕ} {entry : SuspenseEntry}
    (h : openEntry db tenantId entryId = .ok (some entry)) :
    db.suspense[entryId]? = some entry ∧ entry.tenantId = tenantId ∧ entry.status = .open := by
  simp only [openEntry] at h
  split at h
  · cases h
  · rename_i e he
    split_ifs at h with hopen
    · cases h
      simp only [Option.filter_eq_some_iff, decide_eq_true_eq] at he
      exact ⟨he.1, he.2, hopen⟩
    · cases h

def allocateSuspense (db : Db) (tenantId makerId entryId loanId : ℕ) (needsChecker : Bool)
    (now : ℤ) :
    Except Failure (Db × Reply) := do
  match ← openEntry db tenantId entryId with
  | none => return (db, .acknowledged)
  | some entry =>
    refuseIf (entry.amount ≤ 0) (.http 400 "Suspense entry has no positive amount")
    match loanRow db tenantId loanId with
    | none => .error (.http 404 "Loan not found")
    | some loan =>
      refuseIf (!loan.status.collectible)
        (.http 400 s!"Loan is not collectible (status={loan.status.label})")
      if needsChecker then
        let out := parkSuspenseAllocation db tenantId makerId entryId entry loanId
        commitWith out.1 (.awaitingApproval out.2)
      else
        let out ← allocateEntry db tenantId entryId entry loanId loan makerId now
        commitWith out.1 (.payment tenantId out.2)

def refundSuspense (db : Db) (tenantId makerId entryId : ℕ) (refundPhone note : Option String) :
    Except Failure Db := do
  match ← openEntry db tenantId entryId with
  | none => return db
  | some entry =>
    let out ← parkSuspenseRefund db tenantId makerId entryId entry refundPhone note
    out.1.commit

def reverseSuspense (db : Db) (tenantId makerId entryId : ℕ) (note : Option String) :
    Except Failure Db := do
  match ← openEntry db tenantId entryId with
  | none => return db
  | some entry =>
    let out ← parkSuspenseReversal db tenantId makerId entryId entry note
    out.1.commit

/-- `POST /payments/refund`: a request within what is still overpaid, to the borrower's
own number. -/
def refundPayment (db : Db) (tenantId makerId loanId : ℕ) (phone : Option String)
    (amount : Option ℤ) (reason : Option String) : Except Failure Db :=
  match loanRow db tenantId loanId with
  | none => .error (.http 404 "Loan not found")
  | some loan =>
    let overpayment := refundableOverpayment db tenantId loanId loan none true
    if overpayment ≤ 0 then .error (.http 400
      "No unrefunded overpayment on this loan (refunds already requested or sent are deducted)")
    else
      match db.borrowers[loan.borrowerId]? with
      | none => .error (.crash "the loan has no borrower")
      | some borrower =>
        if (nonEmpty phone).any (fun p => normaliseMsisdn p ≠ normaliseMsisdn borrower.phone) then
          .error (.http 400 "Refund phone does not match the borrower's registered number")
        else
          let wanted := amount.getD overpayment
          if wanted ≤ 0 then .error (.http 400 "Refund amount must be positive")
          else if overpayment < wanted then .error (.http 400
            (s!"Refund amount {showCents wanted} exceeds recorded overpayment " ++
              showCents overpayment))
          else
            let request : PendingApproval :=
              { tenantId := tenantId, actionType := .refund, loanId := some loanId,
                amount := wanted, phone := some borrower.phone, reason := reason,
                status := .pendingApproval, makerUserId := makerId, checkerUserId := none,
                details := ⟨none, none, none, none, none, none⟩ }
            Db.commit { db with pending := db.pending ++ [request] }

/-- A confirmation of the borrower's paybill payment, dated by the day it was made. -/
def paybillConfirmation (ref billRef : String) (amount day : ℤ) : C2BCallback where
  transId := some ref
  transAmount := amount
  msisdn := some "254700000001"
  billRefNumber := some billRef
  businessShortCode := some "600100"
  paidAt := some (day * 86400)
  payerName := none

/-- A manual entry copied from the paybill statement. -/
def statementLine (ref : String) (amount day : ℤ) : ManualPaymentIn where
  loanId := some 0
  customerNumber := none
  amount := amount
  channel := "mpesa_paybill"
  reference := some ref
  paidAt := some (day * 86400)
  payerName := none
  payerPhone := none
  note := "Statement line"

/-- The book with a manual entry of 2,000 that waits for approval. -/
def bookWithRequest : Db :=
  { fourWeekBook with
    pending := [⟨1, .manualPayment, some 0, 200000, none, none, .pendingApproval, 7, none,
      ⟨none, some "QA5", some "mpesa_paybill", some 259200, none, none⟩⟩] }

end FinylDcp
