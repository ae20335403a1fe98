import FinylDcp.Pricing

/-!
# Money movement out

A payout is a three-step, committed sequence: save an `initiated` transaction and
commit, call the provider, save the outcome and commit. The two halves are
separate definitions here because a request can stop between them. The result
callback, the timeout notice and a person who checked the portal settle the
transaction later.
-/
namespace FinylDcp
open Text

/-- `OPEN_PAYOUT_STATES`. -/
def TransactionStatus.openPayout : TransactionStatus → Bool
  | initiated | processing | timedOut | uncertain => true
  | _ => false

/-- `SETTLEABLE_STATES`. -/
def TransactionStatus.settleable : TransactionStatus → Bool
  | processing | timedOut | uncertain => true
  | _ => false

/-- Safaricom's acknowledgement of a request. -/
structure Ack where
  responseCode : Option String
  responseDescription : Option String
  conversationId : Option String
  transactionReceipt : Option String
  originatorConversationId : Option String
  simulated : Bool
  deriving DecidableEq, Repr

/-- How the call to Safaricom ends. -/
inductive B2cReply
  | notConfigured
  | connectionFailed
  | httpStatus (code : ℕ)
  | dropped (error : String)
  | answered (ack : Ack)
  deriving DecidableEq, Repr

inductive SendResult
  | refused (why : String)
  | uncertain (why : String)
  | accepted (ack : Ack)
  deriving DecidableEq, Repr

/-- Classify the call: refused only when nothing can have been sent. -/
def sendB2c : B2cReply → SendResult
  | .notConfigured => .refused "not_configured"
  | .connectionFailed => .refused "connection_failed"
  | .httpStatus code =>
    if 400 ≤ code && code < 500 then .refused s!"rejected_{code}"
    else .uncertain s!"provider_error_{code}"
  | .dropped error => .uncertain error
  | .answered ack =>
    let code := ack.responseCode.getD "0"
    if code = "0" then .accepted ack else .refused s!"response_code_{code}"

/-- The latest unconfirmed payout of a loan. -/
def openPayout (db : Db) (tenantId loanId : ℕ) : Option (PaymentTransaction × ℕ) :=
  (db.transactions.zipIdx.filter (fun x => x.1.tenantId = tenantId && x.1.loanId = some loanId &&
    x.1.type = .b2c && x.1.status.openPayout)).getLast?

/-- The transaction of a new payout. -/
def payoutIntent (tenantId loanId actorUserId : ℕ) (amount : ℤ) (phone : String) (snapshot : Quote)
    (now : ℤ) : PaymentTransaction where
  tenantId := tenantId
  type := .b2c
  loanId := some loanId
  amount := amount
  phone := some phone
  mpesaRef := none
  status := .initiated
  rawPayload := ⟨some actorUserId, none, none, none, some snapshot⟩
  createdAt := now

/-- `execute_disbursement` up to its first commit: refuse while an earlier payout is
open, take the loan from `approved` to `processing`, save the intent. -/
def beginDisbursement (db : Db) (tenantId loanId actorUserId : ℕ) (now : ℤ) :
    Except Failure (Db × ℕ) :=
  match openPayout db tenantId loanId with
  | some (earlier, id) => .error (.http 409
      (s!"An earlier payout for this loan has not been confirmed yet (transaction #{id}, " ++
        s!"{earlier.status.label}). Resolve it before paying out again."))
  | none =>
    match db.loans[loanId]? with
    | none => .error (.http 404 "Loan not found")
    | some loan =>
      if loan.tenantId ≠ tenantId || loan.status ≠ .approved then
        .error (.http 409 "Loan is not in an approvable state (already processing/disbursed).")
      else
        match db.products[loan.productId]?, db.borrowers[loan.borrowerId]? with
        | some product, some borrower =>
          let snapshot := loanSnapshot loan product
          if snapshot.payoutAmount ≤ 0 then
            .error (.http 422 "Fees and excise duty leave nothing to pay out on this loan")
          else
            let intent := payoutIntent tenantId loanId actorUserId snapshot.payoutAmount
              borrower.phone snapshot now
            .ok ({ db.updateLoan loanId (fun l => { l with
                    status := .processing
                    pricingSnapshot := some snapshot
                    disbursedByUserId := some actorUserId }) with
                  transactions := db.transactions ++ [intent] }, db.transactions.length)
        | _, _ => .error (.crash "the loan has no product or borrower")

structure DisburseReply where
  conversationId : Option String
  originatorId : Option String
  amount : ℤ
  transactionId : ℕ
  deriving DecidableEq, Repr

/-- Put a loan whose payout did not happen back to `approved`. -/
def revertLoan (db : Db) (tenantId loanId : ℕ) : Db :=
  db.updateLoan loanId (fun l =>
    if l.tenantId = tenantId ∧ l.status = .processing then { l with status := .approved } else l)

/-- `execute_disbursement` after the call: save its outcome and commit. The status is
set without looking at it. -/
def finishDisbursement (db : Db) (tenantId loanId txnId : ℕ) (sent : SendResult) :
    Except Failure Db × Except Failure DisburseReply :=
  match sent with
  | .refused why =>
    let failed := db.updateTransaction txnId (fun t => { t with status := .failed })
    ((revertLoan failed tenantId loanId).commit,
      if why = "not_configured" then
        .error (.http 422 "M-Pesa (Daraja) credentials are not configured")
      else .error (.http 502
        "M-Pesa did not accept the payout. Nothing was sent; you can try again."))
  | .uncertain _ =>
    ((db.updateTransaction txnId (fun t => { t with status := .uncertain })).commit,
      .error (.http 502
        ("The payout outcome is unknown. Check the M-Pesa portal, then resolve " ++
          s!"transaction #{txnId} before trying again.")))
  | .accepted ack =>
    let conversationId := (nonEmpty ack.conversationId) <|> ack.transactionReceipt
    ((db.updateTransaction txnId (fun t => { t with
        status := .processing
        mpesaRef := conversationId
        rawPayload := { t.rawPayload with
          originatorConversationId := ack.originatorConversationId } })).commit,
      .ok { conversationId := conversationId
            originatorId := ack.originatorConversationId
            amount := ((db.transactions[txnId]?).map (·.amount)).getD 0
            transactionId := txnId })

structure ResultReply where
  applied : Bool
  reason : Option String
  status : Option TransactionStatus
  loanStatus : Option LoanStatus
  mpesaRef : Option String
  txnId : ℕ
  deriving DecidableEq, Repr

def ResultReply.ignored (txn : PaymentTransaction) (txnId : ℕ) : ResultReply where
  applied := false
  reason := some s!"txn already {txn.status.label}"
  status := none
  loanStatus := none
  mpesaRef := none
  txnId := txnId

/-- A receipt replaces the reference when there is one. -/
def settledRef (txn : PaymentTransaction) (receipt : Option String) : Option String :=
  (nonEmpty receipt) <|> txn.mpesaRef

/-- A loan whose payout succeeded: it is active, falls due after the product's term,
and owes the agreed balance. -/
def activate (loan : Loan) (product : Product) (today : ℤ) : Loan :=
  let snapshot := loanSnapshot loan product
  let step := if product.tenureUnit = "weeks" then 7 else 30
  { loan with
    pricingSnapshot := some snapshot
    status := .active
    disbursementDate := some today
    dueDate := some (today + step * max 1 product.tenureValue)
    feesInBalance := snapshot.feesInBalance
    outstandingBalance := loan.totalDue + snapshot.feesInBalance
    activeLock := true }

/-- Activate the loan of a settled payout and lock its borrower. -/
def activateLoan (db : Db) (tenantId loanId : ℕ) (loan : Loan) (product : Product) (today : ℤ) :
    Db :=
  { db.updateLoan loanId (fun row => row.flush loan (activate loan product today)) with
    borrowers := db.borrowers.modify loan.borrowerId (fun b => { b with
      editLocked := true, editLockedReason := some s!"active_loan:{loanId}" })
    lockLogs := db.lockLogs ++ [⟨tenantId, loanId, none, none⟩] }

/-- The loan of a transaction, in its tenant. -/
def loanOf (db : Db) (tenantId : ℕ) (txn : PaymentTransaction) : Option (ℕ × Loan) :=
  txn.loanId.bind (fun loanId => (db.loans[loanId]?).bind (fun loan =>
    if loan.tenantId = tenantId then some (loanId, loan) else none))

/-- The loan of a transaction is a row of its tenant. -/
theorem loanOf_eq_some {db : Db} {tenantId : ℕ} {txn : PaymentTransaction} {held : ℕ × Loan}
    (h : loanOf db tenantId txn = some held) :
    txn.loanId = some held.1 ∧ db.loans[held.1]? = some held.2 ∧ held.2.tenantId = tenantId := by
  simp only [loanOf, Option.bind_eq_some_iff] at h
  obtain ⟨loanId, htxn, loan, hrow, h⟩ := h
  split_ifs at h with htenant
  obtain rfl := Option.some.inj h
  exact ⟨htxn, hrow, htenant⟩

/-- Reopen the entry a failed refund was for. -/
def reopenRefundSource (db : Db) (tenantId : ℕ) (txn : PaymentTransaction) : Db :=
  match txn.rawPayload.suspenseId with
  | none => db
  | some sid => db.updateSuspense sid (fun e =>
      if e.tenantId = tenantId ∧ (e.status = .refundProcessing ∨ e.status = .pendingApproval) then
        { e with status := .open } else e)

/-- Settle a refund from Safaricom's result; a repeat changes nothing. -/
def applyRefundResult (db : Db) (tenantId txnId : ℕ) (txn : PaymentTransaction)
    (resultCode : String) (receipt : Option String) (now : ℤ) : Db × ResultReply :=
  if !txn.status.settleable then (db, .ignored txn txnId)
  else if resultCode = "0" then
    let settled := db.updateTransaction txnId (fun t => { t with
      status := .success, mpesaRef := settledRef txn receipt })
    let closed := match txn.rawPayload.suspenseId with
      | none => settled
      | some sid => settled.updateSuspense sid (fun e =>
          if e.tenantId = tenantId then { e with status := .refunded, resolvedAt := some now }
          else e)
    (closed, ⟨true, none, some .success, none, none, txnId⟩)
  else
    let failed := db.updateTransaction txnId (fun t => { t with status := .failed })
    (reopenRefundSource failed tenantId txn, ⟨true, none, some .failed, none, none, txnId⟩)

/-- The result of a payout on the transaction and loan objects the session read. Only a
settleable transaction moves, and only a `processing` loan; the changed attributes
are written to the rows as they are now. -/
def settlePayout (db : Db) (tenantId txnId : ℕ) (txn : PaymentTransaction)
    (held : Option (ℕ × Loan)) (resultCode : String) (receipt : Option String) (now : ℤ) :
    Except Failure (Db × ResultReply) :=
  if !txn.status.settleable then .ok (db, .ignored txn txnId)
  else if resultCode = "0" then
    let ref := settledRef txn receipt
    let settled := db.updateTransaction txnId (fun t => { t with
      status := .success, mpesaRef := flushColumn t.mpesaRef txn.mpesaRef ref })
    match held with
    | some (loanId, loan) =>
      if loan.status = .processing then
        match db.products[loan.productId]? with
        | some product =>
          .ok (activateLoan settled tenantId loanId loan product (now / 86400),
            ⟨true, none, some .success, some .active, ref, txnId⟩)
        | none => .error (.crash "the loan has no product")
      else .ok (settled, ⟨true, none, some .success, some loan.status, ref, txnId⟩)
    | none => .ok (settled, ⟨true, none, some .success, none, ref, txnId⟩)
  else
    let failed := db.updateTransaction txnId (fun t => { t with status := .failed })
    match held with
    | some (loanId, loan) =>
      if loan.status = .processing then
        .ok (failed.updateLoan loanId (fun row => row.flush loan { loan with status := .approved }),
          ⟨true, none, some .failed, some .approved, none, txnId⟩)
      else .ok (failed, ⟨true, none, some .failed, some loan.status, none, txnId⟩)
    | none => .ok (failed, ⟨true, none, some .failed, none, none, txnId⟩)

/-- Apply Safaricom's definitive result of a payout or refund; a repeat changes
nothing. -/
def applyB2cResult (db : Db) (tenantId txnId : ℕ) (txn : PaymentTransaction) (resultCode : String)
    (receipt : Option String) (now : ℤ) : Except Failure (Db × ResultReply) :=
  if txn.type = .refund then .ok (applyRefundResult db tenantId txnId txn resultCode receipt now)
  else settlePayout db tenantId txnId txn (loanOf db tenantId txn) resultCode receipt now

/-- A timeout notice flags a `processing` payout; the loan is not touched. -/
def markB2cTimeout (db : Db) (txnId : ℕ) (txn : PaymentTransaction) : Db × ResultReply :=
  if txn.status ≠ .processing then (db, .ignored txn txnId)
  else (db.updateTransaction txnId (fun t => { t with status := .timedOut }),
    ⟨true, none, some .timedOut, none, none, txnId⟩)

/-- What a person who checked the portal says about an unconfirmed payout: the transaction
as it goes into the path of a callback, where `initiated` and `processing` count as
`uncertain`, with the result code and the receipt. -/
def payoutResolution (txn : PaymentTransaction) (outcome : String) (receipt : Option String)
    (note : String) : Except Failure (PaymentTransaction × String × Option String) :=
  let receipt := nonEmpty ((nonEmpty receipt).map (fun r => upper (strip r)))
  if !txn.status.openPayout then .error (.http 409 s!"Transaction is already {txn.status.label}")
  else if outcome ≠ "paid" && outcome ≠ "not_paid" then
    .error (.http 422 "outcome must be 'paid' or 'not_paid'")
  else if strip note = "" then
    .error (.http 422 "A note recording what was checked on the M-Pesa portal is required")
  else if outcome = "paid" && receipt.isNone then
    .error (.http 422 "The M-Pesa receipt of the payout is required")
  else
    let settleable := if txn.status = .initiated || txn.status = .processing then
      { txn with status := .uncertain } else txn
    .ok (settleable, if outcome = "paid" then "0" else "MANUAL_NOT_PAID", receipt)

/-- A person settles a payout whose result never arrived. -/
def resolvePayout (db : Db) (tenantId txnId : ℕ) (txn : PaymentTransaction) (outcome : String)
    (receipt : Option String) (note : String) (now : ℤ) : Except Failure (Db × ResultReply) := do
  let said ← payoutResolution txn outcome receipt note
  applyB2cResult db tenantId txnId said.1 said.2.1 said.2.2 now

/-- What the transaction of a refund remembers of where it came from. -/
structure RefundContext where
  suspenseId : Option ℕ
  pendingId : Option ℕ
  deriving DecidableEq, Repr

/-- `execute_refund` up to its first commit. The amount is rounded up to whole
shillings; the commit also saves what the caller changed. -/
def beginRefund (db : Db) (tenantId : ℕ) (amount : ℤ) (phone : Option String) (loanId : Option ℕ)
    (actorUserId : ℕ) (context : RefundContext) (now : ℤ) : Except Failure (Db × ℕ) :=
  if amount ≤ 0 then .error (.http 422 "Refund amount must be positive")
  else
    let txn : PaymentTransaction :=
      { tenantId := tenantId, type := .refund, loanId := loanId, amount := ceilShillings amount,
        phone := phone, mpesaRef := none, status := .initiated,
        rawPayload := ⟨some actorUserId, context.suspenseId, context.pendingId, none, none⟩,
        createdAt := now }
    .ok ({ db with transactions := db.transactions ++ [txn] }, db.transactions.length)

/-- How `execute_refund` leaves the session after the call: it committed and raised,
or it returns to its caller with changes still to commit. -/
inductive RefundExit
  | raised (saved : Except Failure Db) (failure : Failure)
  | returned (db : Db)

/-- `execute_refund` after the call. -/
def finishRefund (db : Db) (tenantId txnId : ℕ) (sent : SendResult) (simulatedReceipt : String)
    (now : ℤ) : RefundExit :=
  match sent with
  | .refused why =>
    let failed := db.updateTransaction txnId (fun t => { t with status := .failed })
    let reopened := match db.transactions[txnId]? with
      | some txn => reopenRefundSource failed tenantId txn
      | none => failed
    .raised reopened.commit
      (if why = "not_configured" then .http 422 "M-Pesa (Daraja) credentials are not configured"
      else .http 502 "M-Pesa did not accept the refund. Nothing was sent.")
  | .uncertain _ =>
    .raised (db.updateTransaction txnId (fun t => { t with status := .uncertain })).commit
      (.http 502
        ("The refund outcome is unknown. Check the M-Pesa portal, then resolve " ++
          s!"transaction #{txnId}."))
  | .accepted ack =>
    let acknowledged := db.updateTransaction txnId (fun t => { t with
      status := .processing
      mpesaRef := (nonEmpty ack.conversationId) <|> ack.transactionReceipt
      rawPayload := { t.rawPayload with
        originatorConversationId := ack.originatorConversationId } })
    if ack.simulated then
      match acknowledged.transactions[txnId]? with
      | some txn =>
        .returned (applyRefundResult acknowledged tenantId txnId txn "0"
          (some simulatedReceipt) now).1
      | none => .returned acknowledged
    else .returned acknowledged

/-- What can still be refunded on a loan: everything repaid, less what the loan cost,
refunds awaiting approval when they count, and refunds sent. -/
def refundableOverpayment (db : Db) (tenantId loanId : ℕ) (loan : Loan)
    (excludePendingId : Option ℕ) (countPending : Bool) : ℤ :=
  let paid :=
    (((db.repaymentsOf loanId).filter (fun r => r.tenantId = tenantId)).map (·.amount)).sum
  let owed := loan.totalDue + loan.feesInBalance
  let waiting := db.pending.zipIdx.filter (fun x => x.1.tenantId = tenantId &&
    x.1.loanId = some loanId && x.1.actionType = .refund && x.1.status = .pendingApproval &&
    some x.2 ≠ excludePendingId)
  let pending := if countPending then (waiting.map (·.1.amount)).sum else 0
  let sent := ((db.transactions.filter (fun t => t.tenantId = tenantId &&
    t.loanId = some loanId && t.type = .refund &&
    (t.status.openPayout || t.status = .success))).map (·.amount)).sum
  max (paid - owed - pending - sent) 0

end FinylDcp
