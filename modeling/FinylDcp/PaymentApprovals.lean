import FinylDcp.Disbursement
import FinylDcp.Matching

/-!
# Maker and checker

Money a person records, allocates, refunds or reverses is parked as a request for a
second person, whose decision runs it. A decision that sends money out commits an
intent, waits for the provider, and then goes on; `beginDecision` and
`finishDecision` are the two halves.
-/
namespace FinylDcp
open Text

def cleanReference (value : Option String) : Option String :=
  nonEmpty (some (cut 40 (upper (squash (value.getD "")))))

/-- When the customer paid: given, and not in the future beyond the clock skew. -/
def checkPaidAt (value : Option ℤ) (now : ℤ) : Except Failure ℤ :=
  match value with
  | none => .error (.http 422 "paid_at (when the customer paid) is required")
  | some at_ =>
    if now + 600 < at_ then .error (.http 422 "paid_at cannot be in the future") else .ok at_

/-- The loan row of a tenant. -/
def loanRow (db : Db) (tenantId loanId : ℕ) : Option Loan :=
  (db.loans[loanId]?).filter (fun l => l.tenantId = tenantId)

/-- A loan of a tenant is a row of the table. -/
theorem loanRow_eq_some {db : Db} {tenantId loanId : ℕ} {loan : Loan}
    (h : loanRow db tenantId loanId = some loan) :
    db.loans[loanId]? = some loan ∧ loan.tenantId = tenantId := by
  simpa [loanRow, Option.filter_eq_some_iff] using h

/-- The loan a request names, when it is the tenant's. -/
theorem requestLoan_eq_some {db : Db} {tenantId : ℕ} {id : Option ℕ} {found : ℕ × Loan}
    (h : id.bind (fun id => (loanRow db tenantId id).map (fun loan => (id, loan))) =
      some found) : id = some found.1 ∧ loanRow db tenantId found.1 = some found.2 := by
  simp only [Option.bind_eq_some_iff, Option.map_eq_some_iff] at h
  obtain ⟨loanId, hid, loan, hloan, rfl⟩ := h
  exact ⟨hid, hloan⟩

def resolveManualLoan (db : Db) (tenantId : ℕ) (loanId : Option ℕ)
    (customerNumber : Option String) :
    Except Failure (ℕ × Loan) :=
  match loanId, nonEmpty customerNumber with
  | some id, _ =>
    match loanRow db tenantId id with
    | some loan => .ok (id, loan)
    | none => .error (.http 404 "Loan not found")
  | none, some number =>
    if !validCustomerNumber number then
      .error (.http 422 "Customer number is not valid (check the digits)")
    else
      match db.borrowers.findIdx? (fun b => b.tenantId = tenantId &&
        b.customerNumber = normaliseCustomerNumber number) with
      | none => .error (.http 404 "Customer not found")
      | some borrowerId =>
        match db.loans.zipIdx.filter (fun x => x.1.tenantId = tenantId &&
          x.1.borrowerId = borrowerId && x.1.status.collectible) with
        | [] => .error (.http 400 "This customer has no open loan")
        | [x] => .ok (x.2, x.1)
        | _ => .error (.http 409
            "This customer has more than one open loan — choose the loan by its ID")
  | none, none => .error (.http 422 "Provide loan_id or customer_number")

theorem resolveManualLoan_named {db : Db} {tenantId loanId : ℕ} {customerNumber : Option String}
    {loan : Loan} (hloan : loanRow db tenantId loanId = some loan) :
    resolveManualLoan db tenantId (some loanId) customerNumber = .ok (loanId, loan) := by
  delta resolveManualLoan
  simp only [hloan]

theorem resolveManualLoan_row {db : Db} {tenantId : ℕ} {loanId : Option ℕ}
    {customerNumber : Option String} {found : ℕ × Loan}
    (h : resolveManualLoan db tenantId loanId customerNumber = .ok found) :
    db.loans[found.1]? = some found.2 ∧ found.2.tenantId = tenantId := by
  unfold resolveManualLoan at h
  split at h
  · split at h
    · rename_i hloan
      cases h
      exact loanRow_eq_some hloan
    · cases h
  · split at h
    · cases h
    split at h
    · cases h
    split at h
    · cases h
    · rename_i hx
      cases h
      rename_i x
      obtain ⟨hrow, hopen⟩ := List.mem_filter.mp (hx ▸ List.mem_singleton_self x)
      rw [Bool.and_eq_true, Bool.and_eq_true, decide_eq_true_eq] at hopen
      exact ⟨List.mem_zipIdx_iff_getElem?.mp hrow, hopen.1.1⟩
    · cases h
  · cases h

/-- A manual entry with the reference waits for approval. -/
def pendingWithReference (db : Db) (tenantId : ℕ) (ref : String) : Bool :=
  db.pending.any (fun p => p.tenantId = tenantId && p.actionType = .manualPayment &&
    p.status = .pendingApproval && p.details.reference = some ref)

/-- Refuse a reference that is recorded or awaiting approval already. -/
def ensureReferenceFree (db : Db) (tenantId : ℕ) (ref : Option String) : Except Failure Unit :=
  match nonEmpty ref with
  | none => .ok ()
  | some r =>
    match referenceAlreadyUsed db tenantId (some r) true with
    | some used => .error (.http 409 s!"Reference {r} has already been recorded ({used.label})")
    | none =>
      if pendingWithReference db tenantId r then
        .error (.http 409 s!"Reference {r} is already awaiting approval")
      else .ok ()

/-- The number a refund goes to. -/
def refundPhone (entry : SuspenseEntry) (override : Option String) : Except Failure String :=
  let phone := normaliseMsisdn (((nonEmpty override) <|> entry.phone).getD "")
  if phone.length ≠ 12 || !("2547".toList.isPrefixOf phone.toList ||
      "2541".toList.isPrefixOf phone.toList) then
    .error (.http 422
      ("No usable M-Pesa number for this refund (the payer's number may be masked). " ++
        "Supply refund_phone after confirming it with the payer."))
  else .ok phone

def parkManualPayment (db : Db) (tenantId makerId loanId : ℕ) (amount : ℤ)
    (details : ApprovalDetails) (reason : Option String) : Db × ℕ :=
  let request : PendingApproval :=
    { tenantId := tenantId, actionType := .manualPayment, loanId := some loanId,
      amount := amount, phone := details.payerPhone, reason := reason,
      status := .pendingApproval, makerUserId := makerId, checkerUserId := none,
      details := details }
  ({ db with pending := db.pending ++ [request] }, db.pending.length)

/-- Put a request about an entry in the inbox and hold the entry for it. -/
def parkSuspense (db : Db) (entryId : ℕ) (request : PendingApproval) : Db × ℕ :=
  ({ db.updateSuspense entryId (fun e => { e with status := .pendingApproval }) with
    pending := db.pending ++ [request] }, db.pending.length)

/-- What a request about an entry remembers of it. -/
def suspenseDetails (entryId : ℕ) (entry : SuspenseEntry) : ApprovalDetails where
  suspenseId := some entryId
  reference := entry.mpesaRef
  channel := none
  paidAt := none
  payerName := entry.payerName
  payerPhone := entry.phone

def parkSuspenseAllocation (db : Db) (tenantId makerId entryId : ℕ) (entry : SuspenseEntry)
    (loanId : ℕ) : Db × ℕ :=
  parkSuspense db entryId
    { tenantId := tenantId, actionType := .suspenseAllocate, loanId := some loanId,
      amount := entry.amount, phone := entry.phone, reason := some s!"Allocate suspense #{entryId}",
      status := .pendingApproval, makerUserId := makerId, checkerUserId := none,
      details := suspenseDetails entryId entry }

/-- Refunds to another number than the payer's need a note. -/
def parkSuspenseRefund (db : Db) (tenantId makerId entryId : ℕ) (entry : SuspenseEntry)
    (override note : Option String) : Except Failure (Db × ℕ) := do
  let phone ← refundPhone entry override
  let overridden := (nonEmpty override).isSome && phone ≠ normaliseMsisdn (entry.phone.getD "")
  refuseIf (overridden && strip (note.getD "") = "") (.http 422
    "A note is required when refunding to a number other than the one that paid")
  return parkSuspense db entryId
    { tenantId := tenantId, actionType := .suspenseRefund, loanId := entry.matchedLoanId,
      amount := entry.amount, phone := some phone,
      reason := some (cut 200 ((nonEmpty note).getD s!"Refund suspense #{entryId}")),
      status := .pendingApproval, makerUserId := makerId, checkerUserId := none,
      details := suspenseDetails entryId entry }

def internalRefPrefixes : List String := ["MAN-", "CASH-", "C2B-", "SUS-"]

/-- Why a receipt cannot be reversed, if so: a reversal returns a whole paybill
payment, so it fits only one that is entirely in suspense. -/
def reversalObstacle (entry : SuspenseEntry) : Option String :=
  let ref := upper (entry.mpesaRef.getD "")
  if entry.status ≠ .open then some s!"entry is {entry.status.label}"
  else if entry.source ≠ .c2b then some "only paybill (C2B) receipts can be reversed"
  else if entry.reason = .overpayment || entry.reason = .interestRefundDue then
    some "part of a payment that was applied — refund the excess instead"
  else if ref = "" || internalRefPrefixes.any (fun s => s.toList.isPrefixOf ref.toList) ||
      ["-OVR", "-INT"].any (fun s => s.toList.isSuffixOf ref.toList) then
    some "no original M-Pesa receipt to reverse"
  else none

def parkSuspenseReversal (db : Db) (tenantId makerId entryId : ℕ) (entry : SuspenseEntry)
    (note : Option String) : Except Failure (Db × ℕ) :=
  match reversalObstacle entry with
  | some why => .error (.http 422 s!"This receipt cannot be reversed: {why}")
  | none =>
    if strip (note.getD "") = "" then
      .error (.http 422 "A note explaining why the payment is being reversed is required")
    else .ok (parkSuspense db entryId
      { tenantId := tenantId, actionType := .suspenseReversal, loanId := entry.matchedLoanId,
        amount := entry.amount, phone := entry.phone,
        reason := some (cut 200 (strip (note.getD ""))),
        status := .pendingApproval, makerUserId := makerId, checkerUserId := none,
        details := suspenseDetails entryId entry })

/-- The payment of a manual entry. -/
def manualPayment (tenantId : ℕ) (amount : ℤ) (details : ApprovalDetails) (freshRef : String)
    (now : ℤ) : Payment :=
  let channel := (nonEmpty details.channel).getD "other"
  { tenantId := tenantId, amount := amount, ref := details.reference,
    method := cut 20 s!"manual_{channel}", paidAt := details.paidAt,
    phone := details.payerPhone, source := .manual, billRef := none,
    payerName := details.payerName, fromSuspense := false, freshRef := freshRef, now := now }

/-- Apply a manual payment to the loan object the session holds. -/
def applyManual (db : Db) (tenantId loanId : ℕ) (loan : Loan) (amount : ℤ)
    (details : ApprovalDetails) (freshRef : String) (now : ℤ) : Except Failure (Db × ApplyResult) :=
  if !loan.status.collectible then
    .error (.http 409 s!"Loan is no longer collectible (status={loan.status.label})")
  else payLoan db loanId loan (manualPayment tenantId amount details freshRef now)

/-- The reference an allocation is recorded under: the receipt's own while no repayment
carries it, else one derived from the entry. -/
def allocationRef (db : Db) (tenantId entryId : ℕ) (entry : SuspenseEntry) : String :=
  match nonEmpty entry.mpesaRef with
  | none => s!"SUS-{entryId}"
  | some r =>
    if (referenceAlreadyUsed db tenantId (some r) false).isSome then cut 30 s!"SUS-{entryId}-{r}"
    else r

/-- The payment of an allocation, dated when the receipt was paid. -/
def allocationPayment (db : Db) (tenantId entryId : ℕ) (entry : SuspenseEntry) (now : ℤ) :
    Payment :=
  { tenantId := tenantId, amount := entry.amount,
    ref := some (allocationRef db tenantId entryId entry), method := "suspense_allocation",
    paidAt := some (entry.paidAt.getD entry.createdAt), phone := entry.phone,
    source := .manual, billRef := entry.billRef, payerName := entry.payerName,
    fromSuspense := true, freshRef := "", now := now }

/-- Apply a suspense entry to the loan object the session holds. -/
def allocateEntry (db : Db) (tenantId entryId : ℕ) (entry : SuspenseEntry) (loanId : ℕ)
    (loan : Loan) (resolverUserId : ℕ) (now : ℤ) : Except Failure (Db × ApplyResult) :=
  if !loan.status.collectible then
    .error (.http 409 s!"Loan is no longer collectible (status={loan.status.label})")
  else
    (payLoan db loanId loan (allocationPayment db tenantId entryId entry now)).map
      (fun out => (out.1.updateSuspense entryId (fun e => { e with
        status := .allocated, matchedLoanId := some loanId, resolvedAt := some now,
        resolvedByUserId := some resolverUserId }), out.2))

/-- The entry a request is about, held by some request. -/
def lockedEntry (db : Db) (tenantId : ℕ) (p : PendingApproval) :
    Except Failure (ℕ × SuspenseEntry) :=
  match p.details.suspenseId with
  | none => .error (.http 404 "Suspense entry not found")
  | some sid =>
    match (db.suspense[sid]?).filter (fun e => e.tenantId = tenantId) with
    | none => .error (.http 404 "Suspense entry not found")
    | some entry =>
      if entry.status ≠ .pendingApproval then
        .error (.http 409
          s!"Suspense entry is no longer awaiting approval (status={entry.status.label})")
      else .ok (sid, entry)

theorem lockedEntry_eq_ok {db : Db} {tenantId : ℕ} {p : PendingApproval} {held : ℕ × SuspenseEntry}
    (h : lockedEntry db tenantId p = .ok held) :
    p.details.suspenseId = some held.1 ∧ db.suspense[held.1]? = some held.2 ∧
      held.2.tenantId = tenantId ∧ held.2.status = .pendingApproval := by
  simp only [lockedEntry] at h
  split at h
  · cases h
  rename_i sid hsid
  split at h
  · cases h
  rename_i entry hentry
  split at h
  · cases h
  · rename_i hstatus
    cases h
    simp only [Option.filter_eq_some_iff, decide_eq_true_eq] at hentry
    exact ⟨hsid, hentry.1, hentry.2, not_not.mp hstatus⟩

/-- The entry of a rejected request goes back to `open`. -/
def onRejected (db : Db) (tenantId : ℕ) (p : PendingApproval) : Db :=
  match p.actionType, p.details.suspenseId with
  | .suspenseAllocate, some sid | .suspenseRefund, some sid | .suspenseReversal, some sid =>
    db.updateSuspense sid (fun e =>
      if e.tenantId = tenantId ∧ e.status = .pendingApproval then { e with status := .open } else e)
  | _, _ => db

/-- Safaricom's answer to a reversal request, as `_execute_reversal` reads it. -/
def reversalFailure : B2cReply → Option Failure
  | .notConfigured => some (.http 422 "M-Pesa (Daraja) credentials are not configured")
  | .connectionFailed | .httpStatus _ | .dropped _ =>
    some (.http 502 "Safaricom did not accept the reversal request. Try again later.")
  | .answered ack =>
    let why := (nonEmpty ack.responseDescription).getD "no reason given"
    if ack.responseCode ≠ some "0" then
      some (.http 502 s!"Safaricom refused the reversal request: {why}")
    else none

/-- The transaction of an accepted reversal. -/
def reversalTxn (tenantId entryId : ℕ) (entry : SuspenseEntry) (pendingId : ℕ) (ack : Ack)
    (now : ℤ) : PaymentTransaction where
  tenantId := tenantId
  type := .reversal
  loanId := entry.matchedLoanId
  amount := entry.amount
  phone := entry.phone
  mpesaRef := ack.conversationId
  status := .processing
  rawPayload := ⟨none, some entryId, some pendingId, ack.originatorConversationId, none⟩
  createdAt := now

/-- Apply Safaricom's reversal outcome; a repeat changes nothing. `R000001` says it was
reversed already. -/
def applyReversalResult (db : Db) (tenantId txnId : ℕ) (txn : PaymentTransaction)
    (resultCode : String) (now : ℤ) : Db :=
  if txn.status ≠ .processing && txn.status ≠ .timedOut then db
  else
    let outcome := if resultCode = "0" || resultCode = "R000001" then TransactionStatus.success
      else .failed
    let settled := db.updateTransaction txnId (fun t => { t with status := outcome })
    match txn.rawPayload.suspenseId with
    | none => settled
    | some sid => settled.updateSuspense sid (fun e =>
        if e.tenantId ≠ tenantId then e
        else if outcome = .success then { e with status := .reversed, resolvedAt := some now }
        else { e with status := .open })

/-- The outcome is unknown; the entry stays `reversal_pending`. -/
def markReversalTimeout (db : Db) (txnId : ℕ) (txn : PaymentTransaction) : Db :=
  if txn.status ≠ .processing then db
  else db.updateTransaction txnId (fun t => { t with status := .timedOut })

/-- `_execute_reversal` after an accepting answer: save the transaction, and settle it at
once when the answer is simulated. -/
def saveReversal (db : Db) (tenantId entryId : ℕ) (entry : SuspenseEntry) (pendingId : ℕ)
    (ack : Ack) (now : ℤ) : Db :=
  let txn := reversalTxn tenantId entryId entry pendingId ack now
  let saved : Db := { db.updateSuspense entryId (fun e => { e with status := .reversalPending })
    with transactions := db.transactions ++ [txn] }
  if ack.simulated then applyReversalResult saved tenantId db.transactions.length txn "0" now
  else saved

/-- A user who decides: the permissions of the role, and the approver types the tenant
has configured it for. -/
structure Checker where
  id : ℕ
  superAdmin : Bool
  permissions : List String
  approverFor : List String
  deriving DecidableEq, Repr

/-- `ACTION_RULES`: the permission a checker needs and the approver type. -/
def ActionType.rule : ActionType → String × String
  | disbursement => ("disburse.approve", "disbursement")
  | refund => ("refund.approve", "refund")
  | suspenseRefund => ("refund.approve", "refund")
  | suspenseReversal => ("refund.approve", "refund")
  | manualPayment => ("reconcile.approve", "manual_payment")
  | suspenseAllocate => ("reconcile.approve", "manual_payment")

/-- The request a checker may decide. -/
def decidable (db : Db) (tenantId pendingId : ℕ) (action : String) (checker : Checker) :
    Except Failure PendingApproval :=
  match (db.pending[pendingId]?).filter (fun p => p.tenantId = tenantId) with
  | none => .error (.http 404 "Pending action not found")
  | some p =>
    if p.status ≠ .pendingApproval then .error (.http 404 "Pending action not found")
    else if action ≠ "approve" && action ≠ "reject" then
      .error (.http 422 "action must be 'approve' or 'reject'")
    else if p.makerUserId = checker.id then
      .error (.http 403
        "The initiating user cannot approve their own action (maker-checker)")
    else if !checker.superAdmin && !checker.permissions.contains p.actionType.rule.1 then
      .error (.http 403 s!"Missing required permission: {p.actionType.rule.1}")
    else if !checker.superAdmin && !checker.approverFor.contains p.actionType.rule.2 then
      .error (.http 403
        ("Your role is not configured as an approver for " ++
          s!"{p.actionType.rule.2} approvals at this DCP"))
    else .ok p

/-- What the checks of a decision establish. -/
theorem decidable_eq_ok {db : Db} {tenantId pendingId : ℕ} {action : String} {checker : Checker}
    {p : PendingApproval} (h : decidable db tenantId pendingId action checker = .ok p) :
    db.pending[pendingId]? = some p ∧ p.tenantId = tenantId ∧ p.status = .pendingApproval ∧
      (action = "approve" ∨ action = "reject") := by
  simp only [decidable] at h
  split at h
  · cases h
  rename_i found hfound
  split_ifs at h with hstatus haction
  obtain rfl := Except.ok.inj h
  simp only [Option.filter_eq_some_iff, decide_eq_true_eq] at hfound
  refine ⟨hfound.1, hfound.2, not_not.mp hstatus, ?_⟩
  by_cases happrove : action = "approve"
  · exact .inl happrove
  · exact .inr (by simpa [happrove] using haction)

def decided (db : Db) (pendingId : ℕ) (status : ApprovalStatus) (checkerId : ℕ) : Db :=
  { db with pending := db.pending.modify pendingId (fun p => { p with
      status := status, checkerUserId := some checkerId }) }

/-- The provider call a decision waits for. -/
inductive OutgoingCall
  | payout (loanId txnId : ℕ)
  | refund (txnId : ℕ)
  | reversal (entryId : ℕ)
  deriving DecidableEq, Repr

/-- How far a decision got: to its end, with the payment it applied if any, or to the
provider call it waits for. -/
inductive Progress
  | finished (payment : Option ApplyResult)
  | waiting (call : OutgoingCall)
  deriving DecidableEq, Repr

/-- Run an approved request up to its end, or up to the provider call it makes. What it
returns is committed, save for a reversal, which writes nothing before its call. -/
def beginApproval (db : Db) (tenantId pendingId : ℕ) (p : PendingApproval) (checkerId : ℕ)
    (freshRef : String) (now : ℤ) : Except Failure (Db × Progress) :=
  match p.actionType with
  | .disbursement => do
    let loanId ← (p.loanId.filter (fun id => (loanRow db tenantId id).isSome)).elim
      (.error (.http 404 "Loan not found")) .ok
    let out ← beginDisbursement db tenantId loanId checkerId now
    let saved ← out.1.commit
    return (saved, .waiting (.payout loanId out.2))
  | .refund =>
    match p.loanId.bind (fun id => (loanRow db tenantId id).map (fun loan => (id, loan))) with
    | none => .error (.http 404 "Loan not found")
    | some (loanId, loan) =>
      let available := refundableOverpayment db tenantId loanId loan none false
      if available < p.amount then
        let shown := showCents available
        .error (.http 409
          s!"Only KES {shown} of this loan's overpayment is still unrefunded — reject this request")
      else do
        let out ← beginRefund db tenantId p.amount p.phone p.loanId checkerId
          ⟨none, some pendingId⟩ now
        let saved ← out.1.commit
        return (saved, .waiting (.refund out.2))
  | .manualPayment =>
    if (referenceAlreadyUsed db tenantId p.details.reference true).isSome then
      .error (.http 409
        ("This reference was recorded by another route while awaiting approval — " ++
          "reject this request"))
    else
      match p.loanId.bind (fun id => (loanRow db tenantId id).map (fun loan => (id, loan))) with
      | none => .error (.http 404 "Loan not found")
      | some (loanId, loan) => do
        let out ← applyManual db tenantId loanId loan p.amount p.details freshRef now
        let saved ← (decided out.1 pendingId .approved checkerId).commit
        return (saved, .finished (some out.2))
  | .suspenseAllocate => do
    let held ← lockedEntry db tenantId p
    match p.loanId.bind (fun id => (loanRow db tenantId id).map (fun loan => (id, loan))) with
    | none => .error (.http 404 "Loan not found")
    | some (loanId, loan) =>
      let out ← allocateEntry db tenantId held.1 held.2 loanId loan checkerId now
      let saved ← (decided out.1 pendingId .approved checkerId).commit
      return (saved, .finished (some out.2))
  | .suspenseRefund => do
    let held ← lockedEntry db tenantId p
    let processing := db.updateSuspense held.1 (fun e => { e with
      status := .refundProcessing, resolvedByUserId := some checkerId })
    let out ← beginRefund processing tenantId p.amount p.phone p.loanId checkerId
      ⟨some held.1, some pendingId⟩ now
    let saved ← out.1.commit
    return (saved, .waiting (.refund out.2))
  | .suspenseReversal => do
    let held ← lockedEntry db tenantId p
    return (db, .waiting (.reversal held.1))

/-- The ways an approved request goes on. Each has committed what it returns, save for a
reversal. -/
inductive Approved (db : Db) (tenantId pendingId : ℕ) (p : PendingApproval) (checkerId : ℕ)
    (freshRef : String) (now : ℤ) : Db × Progress → Prop
  | payout (htype : p.actionType = .disbursement) (loanId : ℕ) (begun : Db × ℕ)
      (hbegun : beginDisbursement db tenantId loanId checkerId now = .ok begun)
      (hindexed : begun.1.indexed = true) :
      Approved db tenantId pendingId p checkerId freshRef now
        (begun.1, .waiting (.payout loanId begun.2))
  | loanRefund (htype : p.actionType = .refund) (loanId : ℕ) (loan : Loan)
      (hid : p.loanId = some loanId) (hloan : loanRow db tenantId loanId = some loan)
      (hfits : p.amount ≤ refundableOverpayment db tenantId loanId loan none false)
      (begun : Db × ℕ)
      (hbegun : beginRefund db tenantId p.amount p.phone p.loanId checkerId
        ⟨none, some pendingId⟩ now = .ok begun)
      (hindexed : begun.1.indexed = true) :
      Approved db tenantId pendingId p checkerId freshRef now
        (begun.1, .waiting (.refund begun.2))
  | payment (htype : p.actionType = .manualPayment) (loanId : ℕ) (loan : Loan)
      (hid : p.loanId = some loanId) (hloan : loanRow db tenantId loanId = some loan)
      (paid : Db × ApplyResult)
      (hpaid : payLoan db loanId loan (manualPayment tenantId p.amount p.details freshRef now) =
        .ok paid)
      (hindexed : (decided paid.1 pendingId .approved checkerId).indexed = true) :
      Approved db tenantId pendingId p checkerId freshRef now
        (decided paid.1 pendingId .approved checkerId, .finished (some paid.2))
  | allocation (htype : p.actionType = .suspenseAllocate) (held : ℕ × SuspenseEntry)
      (hheld : lockedEntry db tenantId p = .ok held) (loanId : ℕ) (loan : Loan)
      (hid : p.loanId = some loanId) (hloan : loanRow db tenantId loanId = some loan)
      (moved : Db × ApplyResult)
      (hmoved : allocateEntry db tenantId held.1 held.2 loanId loan checkerId now = .ok moved)
      (hindexed : (decided moved.1 pendingId .approved checkerId).indexed = true) :
      Approved db tenantId pendingId p checkerId freshRef now
        (decided moved.1 pendingId .approved checkerId, .finished (some moved.2))
  | entryRefund (htype : p.actionType = .suspenseRefund) (held : ℕ × SuspenseEntry)
      (hheld : lockedEntry db tenantId p = .ok held) (begun : Db × ℕ)
      (hbegun : beginRefund (db.updateSuspense held.1 (fun e => { e with
        status := .refundProcessing, resolvedByUserId := some checkerId }))
        tenantId p.amount p.phone p.loanId checkerId ⟨some held.1, some pendingId⟩ now =
          .ok begun)
      (hindexed : begun.1.indexed = true) :
      Approved db tenantId pendingId p checkerId freshRef now
        (begun.1, .waiting (.refund begun.2))
  | reversal (htype : p.actionType = .suspenseReversal) (held : ℕ × SuspenseEntry)
      (hheld : lockedEntry db tenantId p = .ok held) :
      Approved db tenantId pendingId p checkerId freshRef now (db, .waiting (.reversal held.1))

theorem beginApproval_approved {db : Db} {tenantId pendingId checkerId : ℕ}
    {p : PendingApproval} {freshRef : String} {now : ℤ} {out : Db × Progress}
    (h : beginApproval db tenantId pendingId p checkerId freshRef now = .ok out) :
    Approved db tenantId pendingId p checkerId freshRef now out := by
  simp only [beginApproval] at h
  split at h
  · rename_i htype
    obtain ⟨loanId, -, h⟩ := bind_eq_ok.mp h
    obtain ⟨begun, hbegun, h⟩ := bind_eq_ok.mp h
    obtain ⟨saved, hcommit, h⟩ := bind_eq_ok.mp h
    obtain ⟨hindexed, rfl⟩ := Db.commit_eq_ok.mp hcommit
    cases h
    exact .payout htype loanId begun hbegun hindexed
  · rename_i htype
    split at h
    · cases h
    rename_i loanId loan hfound
    obtain ⟨hid, hloan⟩ := requestLoan_eq_some hfound
    split at h
    · cases h
    rename_i hfits
    obtain ⟨begun, hbegun, h⟩ := bind_eq_ok.mp h
    obtain ⟨saved, hcommit, h⟩ := bind_eq_ok.mp h
    obtain ⟨hindexed, rfl⟩ := Db.commit_eq_ok.mp hcommit
    cases h
    exact .loanRefund htype loanId loan hid hloan (not_lt.mp hfits) begun hbegun hindexed
  · rename_i htype
    split at h
    · cases h
    split at h
    · cases h
    rename_i loanId loan hfound
    obtain ⟨hid, hloan⟩ := requestLoan_eq_some hfound
    obtain ⟨paid, hpaid, h⟩ := bind_eq_ok.mp h
    obtain ⟨saved, hcommit, h⟩ := bind_eq_ok.mp h
    obtain ⟨hindexed, rfl⟩ := Db.commit_eq_ok.mp hcommit
    cases h
    simp only [applyManual] at hpaid
    split at hpaid
    · cases hpaid
    · exact .payment htype loanId loan hid hloan paid hpaid hindexed
  · rename_i htype
    obtain ⟨held, hheld, h⟩ := bind_eq_ok.mp h
    split at h
    · cases h
    rename_i loanId loan hfound
    obtain ⟨hid, hloan⟩ := requestLoan_eq_some hfound
    obtain ⟨moved, hmoved, h⟩ := bind_eq_ok.mp h
    obtain ⟨saved, hcommit, h⟩ := bind_eq_ok.mp h
    obtain ⟨hindexed, rfl⟩ := Db.commit_eq_ok.mp hcommit
    cases h
    exact .allocation htype held hheld loanId loan hid hloan moved hmoved hindexed
  · rename_i htype
    obtain ⟨held, hheld, h⟩ := bind_eq_ok.mp h
    obtain ⟨begun, hbegun, h⟩ := bind_eq_ok.mp h
    obtain ⟨saved, hcommit, h⟩ := bind_eq_ok.mp h
    obtain ⟨hindexed, rfl⟩ := Db.commit_eq_ok.mp hcommit
    cases h
    exact .entryRefund htype held hheld begun hbegun hindexed
  · rename_i htype
    obtain ⟨held, hheld, h⟩ := bind_eq_ok.mp h
    cases h
    exact .reversal htype held hheld

/-- `decide_pending_action` up to its end or its provider call. -/
def beginDecision (db : Db) (tenantId pendingId : ℕ) (action : String) (checker : Checker)
    (freshRef : String) (now : ℤ) : Except Failure (Db × Progress) := do
  let p ← decidable db tenantId pendingId action checker
  if action = "reject" then
    let saved ← (onRejected (decided db pendingId .rejected checker.id) tenantId p).commit
    return (saved, .finished none)
  else beginApproval db tenantId pendingId p checker.id freshRef now

/-- `decide_pending_action` after the provider's answer: what is committed, and the error
it ends in. Only a call that went through reaches the request's own status. -/
def finishDecision (db : Db) (tenantId pendingId checkerId : ℕ) (call : OutgoingCall)
    (reply : B2cReply) (simulatedReceipt : String) (now : ℤ) : Except Failure Db × Option Failure :=
  match call with
  | .payout loanId txnId =>
    match finishDisbursement db tenantId loanId txnId (sendB2c reply) with
    | (.ok saved, .ok _) => ((decided saved pendingId .approved checkerId).commit, none)
    | (saved, .error failure) => (saved, some failure)
    | (.error failure, .ok _) => (.error failure, some failure)
  | .refund txnId =>
    match finishRefund db tenantId txnId (sendB2c reply) simulatedReceipt now with
    | .returned sent => ((decided sent pendingId .approved checkerId).commit, none)
    | .raised saved failure => (saved, some failure)
  | .reversal entryId =>
    match reversalFailure reply, reply, db.suspense[entryId]? with
    | none, .answered ack, some entry =>
      ((decided (saveReversal db tenantId entryId entry pendingId ack now) pendingId .approved
        checkerId).commit, none)
    | some failure, _, _ => (.ok db, some failure)
    | none, _, _ => (.ok db, some (.http 404 "Suspense entry not found"))

end FinylDcp
