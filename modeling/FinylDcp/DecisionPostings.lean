import FinylDcp.PayoutSweeps
import FinylDcp.RequestPostings

/-!
# What payouts, refunds and reversals post

Money on its way out: the intent that is saved before the call, what the answer saves, and
what a result, a notice, a person or a sweep settles.
-/
namespace FinylDcp
open Db Tables Text

section Outgoing

variable {allowed : Flow → Prop}

theorem modify_of_row {α : Type*} {l : List α} {i : ℕ} {x : α} (f : α → α) (h : l[i]? = some x) :
    l.modify i f = l.set i (f x) := by
  rw [List.modify_eq_set_getElem?, h]
  rfl

/-- The intent of a payout takes the loan. -/
theorem beginDisbursement_postings (hstill : allowed .still) {db : Db}
    {tenantId loanId actorUserId : ℕ} {now : ℤ} {out : Db × ℕ}
    (h : beginDisbursement db tenantId loanId actorUserId now = .ok out) :
    Postings allowed db out.1 := by
  simp only [beginDisbursement] at h
  split at h
  · cases h
  split at h
  · cases h
  rename_i loan hloan
  split at h
  · cases h
  rename_i happroved
  simp only [Bool.or_eq_true, decide_eq_true_eq, not_or, not_not] at happroved
  split at h
  · rename_i product borrower hproduct hborrower
    split at h
    · cases h
    · cases h
      rw [updateLoan, modify_of_row _ hloan, ← happroved.1]
      exact .single (.intended loanId loan product actorUserId borrower.phone now hloan happroved.2
        hproduct) hstill
  · cases h

theorem revertLoan_postings (hstill : allowed .still) (db : Db) (tenantId loanId : ℕ) :
    Postings allowed db (revertLoan db tenantId loanId) := by
  refine updateLoan_postings hstill fun l _ => ?_
  split
  · rename_i hwaits
    exact keeps_status l (by rw [hwaits.2]; rfl)
  · exact .refl l

/-- A transaction that takes nothing out of suspense may be marked at any time. -/
theorem fromSuspense_of_outgoing {row : PaymentTransaction} (h : row.outgoing = false) :
    row.fromSuspense = false := by
  simp [PaymentTransaction.fromSuspense, h]

theorem finishDisbursement_postings (hstill : allowed .still) {db saved : Db}
    {tenantId loanId txnId : ℕ} {sent : SendResult} {row : PaymentTransaction}
    (hrow : db.transactions[txnId]? = some row) (hout : row.outgoing = false)
    (h : (finishDisbursement db tenantId loanId txnId sent).1 = .ok saved) :
    Postings allowed db saved := by
  have hother := fromSuspense_of_outgoing hout
  cases sent with
  | refused why =>
    obtain ⟨-, rfl⟩ := Db.commit_eq_ok.mp h
    have hfailed : Postings allowed db (db.updateTransaction txnId fun t =>
        { t with status := .failed }) :=
      mark_postings hstill .failed hrow (fun t => ⟨rfl, rfl⟩) hother
    exact hfailed.trans (revertLoan_postings hstill _ tenantId loanId)
  | uncertain why =>
    obtain ⟨-, rfl⟩ := Db.commit_eq_ok.mp h
    exact mark_postings hstill .uncertain hrow (fun t => ⟨rfl, rfl⟩) hother
  | accepted ack =>
    obtain ⟨-, rfl⟩ := Db.commit_eq_ok.mp h
    exact mark_postings hstill .processing hrow (fun t => ⟨rfl, rfl⟩) hother

/-- A successful payout activates the loan that waits for it. -/
theorem activateLoan_postings (hstill : allowed .still) (hpayout : allowed .payout) {db : Db}
    {tenantId loanId : ℕ} {loan : Loan} {product : Product} {today : ℤ}
    (hrow : db.loans[loanId]? = some loan) (hstatus : loan.status = .processing)
    (hproduct : db.products[loan.productId]? = some product) :
    Postings allowed db (activateLoan db tenantId loanId loan product today) := by
  have hactivated := Postings.single (.activated loanId loan product today hrow hstatus hproduct)
    hpayout
  rw [activateLoan, updateLoan, modify_of_row _ hrow, Loan.flush_loaded]
  exact hactivated.tail (.aside _ _ db.paymentsConfigs) hstill

theorem settlePayout_postings (hstill : allowed .still) (hpayout : allowed .payout) {db : Db}
    {tenantId txnId : ℕ} {txn row : PaymentTransaction} {resultCode : String}
    {receipt : Option String} {now : ℤ} {out : Db × ResultReply}
    (hrow : db.transactions[txnId]? = some row) (hout : row.outgoing = false)
    (h : settlePayout db tenantId txnId txn (loanOf db tenantId txn) resultCode receipt now =
      .ok out) :
    Postings allowed db out.1 := by
  have hother := fromSuspense_of_outgoing hout
  have hfailed : Postings allowed db (db.updateTransaction txnId fun t =>
      { t with status := .failed }) :=
    mark_postings hstill .failed hrow (fun t => ⟨rfl, rfl⟩) hother
  simp only [settlePayout] at h
  split at h
  · cases h
    exact .refl allowed db
  split at h
  · have hpaid : Postings allowed db (db.updateTransaction txnId fun t => { t with
        status := .success
        mpesaRef := flushColumn t.mpesaRef txn.mpesaRef (settledRef txn receipt) }) :=
      mark_postings hstill .success hrow (fun t => ⟨rfl, rfl⟩) hother
    split at h
    · rename_i loanId loan hheld
      split at h
      · rename_i hprocessing
        split at h
        · rename_i product hproduct
          cases h
          exact hpaid.trans
            (activateLoan_postings hstill hpayout (loanOf_eq_some hheld).2.1 hprocessing
            hproduct)
        · cases h
      · cases h
        exact hpaid
    · cases h
      exact hpaid
  · split at h
    · rename_i loanId loan hheld
      split at h
      · rename_i hprocessing
        cases h
        refine hfailed.trans (updateLoan_postings hstill fun l hl => ?_)
        obtain rfl := Option.some.inj (hl.symm.trans (loanOf_eq_some hheld).2.1)
        rw [Loan.flush_loaded]
        exact keeps_status _ (by rw [hprocessing]; rfl)
      · cases h
        exact hfailed
    · cases h
      exact hfailed

theorem timed_of_not {late : Bool} (h : late = false) : Flow.timed late = .still := by
  simp [Flow.timed, h]

/-- Marking a transaction that is not settled as money out of suspense. -/
theorem markLive_postings (hstill : allowed .still) {db : Db} {txnId : ℕ} {row : PaymentTransaction}
    {f : PaymentTransaction → PaymentTransaction} (status : TransactionStatus)
    (hrow : db.transactions[txnId]? = some row)
    (hset : ∀ t, (f t).terms = t.terms ∧ (f t).status = status) (hstatus : status ≠ .success)
    (hlive : row.fromSuspense = true → row.status ≠ .success) :
    Postings allowed db (db.updateTransaction txnId f) := by
  have hposting := Posting.marked txnId row status f hrow hset fun _ => hstatus
  rw [timed_of_not (by simpa using hlive)] at hposting
  exact .single hposting hstill

theorem reopenRefundSource_postings (hstill : allowed .still) (db : Db) (tenantId : ℕ)
    (txn : PaymentTransaction) : Postings allowed db (reopenRefundSource db tenantId txn) := by
  simp only [reopenRefundSource]
  split
  · exact .refl allowed db
  · refine .single (.moved _ _ fun e _ => ?_) hstill
    split
    · rename_i hwaits
      refine .inr ⟨?_, rfl, rfl⟩
      obtain ⟨-, hstatus | hstatus⟩ := hwaits
      · rw [hstatus]
        rfl
      · rw [hstatus]
        rfl
    · exact .inl rfl

theorem applyRefundResult_postings (hstill : allowed .still) {db : Db} {txnId : ℕ}
    {txn row : PaymentTransaction} {resultCode : String} {receipt : Option String} {now : ℤ}
    (hrow : db.transactions[txnId]? = some row) (htype : row.type = .refund)
    (hsource : txn.rawPayload.suspenseId = row.rawPayload.suspenseId)
    (hlive : txn.status.settleable = true → row.status ≠ .success)
    (htimely : txn.status.settleable = true → resultCode = "0" →
      ∀ id ∈ row.rawPayload.suspenseId, allowed (.timed (db.entryResolved id))) :
    Postings allowed db
      (applyRefundResult db row.tenantId txnId txn resultCode receipt now).1 := by
  simp only [applyRefundResult]
  split
  · exact .refl allowed db
  rename_i hsettleable
  have hsettleable : txn.status.settleable = true := by simpa using hsettleable
  split
  · rename_i hcode
    cases hsid : txn.rawPayload.suspenseId with
    | none =>
      refine mark_postings hstill .success hrow (fun t => ⟨rfl, rfl⟩) ?_
      simp [PaymentTransaction.fromSuspense, ← hsource, hsid]
    | some sid =>
      have hrowSource : row.rawPayload.suspenseId = some sid := by rw [← hsource, hsid]
      exact .single (.refunded txnId row _ sid now hrow (fun t => ⟨rfl, rfl⟩) htype hrowSource)
        (htimely hsettleable hcode sid hrowSource)
  · have hfailed : Postings allowed db (db.updateTransaction txnId fun t =>
        { t with status := .failed }) :=
      markLive_postings hstill .failed hrow (fun t => ⟨rfl, rfl⟩) (by simp) fun _ =>
        hlive hsettleable
    exact hfailed.trans (reopenRefundSource_postings hstill _ row.tenantId txn)

theorem ne_success_of_openPayout {s : TransactionStatus} (h : s.openPayout = true) :
    s ≠ .success := by
  rintro rfl
  cases h

/-- When the result of a payout or refund comes too late. -/
def resultFlow (db : Db) (row : PaymentTransaction) (resultCode : String) : Flow :=
  .timed (row.type = .refund && row.status.openPayout && resultCode = "0" &&
    row.rawPayload.suspenseId.any (db.entryResolved ·))

theorem applyB2cResult_postings (hstill : allowed .still) (hpayout : allowed .payout) {db : Db}
    {txnId : ℕ} {txn row : PaymentTransaction} {resultCode : String}
    {receipt : Option String} {now : ℤ} {out : Db × ResultReply}
    (hrow : db.transactions[txnId]? = some row) (hkind : txn.kind = row.kind)
    (hpayload : txn.rawPayload = row.rawPayload) (htype : row.type = .b2c ∨ row.type = .refund)
    (hopen : txn.status.settleable = true → row.status.openPayout = true)
    (htimely : allowed (resultFlow db row resultCode))
    (h : applyB2cResult db row.tenantId txnId txn resultCode receipt now = .ok out) :
    Postings allowed db out.1 := by
  simp only [PaymentTransaction.kind, Prod.mk.injEq] at hkind
  simp only [applyB2cResult, hkind.2.1] at h
  split at h
  · rename_i hrefund
    cases h
    refine applyRefundResult_postings hstill hrow hrefund (by rw [hpayload])
      (fun hs => ne_success_of_openPayout (hopen hs)) fun hs hcode id hid => ?_
    have hid : row.rawPayload.suspenseId = some id := hid
    simpa [resultFlow, hrefund, hopen hs, hcode, hid] using htimely
  · rename_i hrefund
    refine settlePayout_postings hstill hpayout hrow ?_ h
    simp [PaymentTransaction.outgoing, htype.resolve_right hrefund]

theorem processB2cResult_postings (hstill : allowed .still) (hpayout : allowed .payout)
    {db saved : Db} {body : ResultBody} {now : ℤ}
    (htimely : ∀ found ∈ findB2cTxn db body.conversationId body.originatorId,
      allowed (resultFlow db found.2 body.resultCode))
    (h : processB2cResult db body now = .ok saved) : Postings allowed db saved := by
  simp only [processB2cResult] at h
  split at h
  · cases h
  rename_i txnId txn hfound
  obtain ⟨hrow, htype⟩ := findB2cTxn_eq_some hfound
  obtain ⟨out, hout, hcommit⟩ := bind_eq_ok.mp h
  obtain ⟨-, rfl⟩ := Db.commit_eq_ok.mp hcommit
  exact applyB2cResult_postings hstill hpayout hrow rfl rfl htype openPayout_of_settleable
    (htimely _ hfound) hout

theorem resolvePayoutRequest_postings (hstill : allowed .still) (hpayout : allowed .payout)
    {db saved : Db} {tenantId txnId : ℕ} {checker : Checker} {outcome note : String}
    {receipt : Option String} {now : ℤ}
    (htimely : ∀ row ∈ db.transactions[txnId]?,
      allowed (resultFlow db row (if outcome = "paid" then "0" else "MANUAL_NOT_PAID")))
    (h : resolvePayoutRequest db tenantId txnId checker outcome receipt note now = .ok saved) :
    Postings allowed db saved := by
  obtain ⟨txn, said, reply, hrow, rfl, htype, hsaid, happlied⟩ := resolvePayoutRequest_eq_ok h
  obtain ⟨hopen, hkind, hpayload, -⟩ := payoutResolution_eq_ok hsaid
  have hcode : said.2.1 = if outcome = "paid" then "0" else "MANUAL_NOT_PAID" := by
    simp only [payoutResolution] at hsaid
    split_ifs at hsaid <;> cases hsaid <;> simp_all
  rw [hcode] at happlied
  exact applyB2cResult_postings hstill hpayout hrow hkind hpayload htype (fun _ => hopen)
    (htimely txn hrow) happlied

theorem processB2cTimeout_postings (hstill : allowed .still) {db saved : Db} {body : ResultBody}
    (h : processB2cTimeout db body = .ok saved) : Postings allowed db saved := by
  simp only [processB2cTimeout] at h
  split at h
  · cases h
  rename_i txnId txn hfound
  obtain ⟨-, rfl⟩ := Db.commit_eq_ok.mp h
  simp only [markB2cTimeout]
  split
  · exact .refl allowed db
  · rename_i hprocessing
    refine markLive_postings hstill .timedOut (findB2cTxn_eq_some hfound).1 (fun t => ⟨rfl, rfl⟩)
      (by simp) fun _ => ?_
    rw [not_not.mp hprocessing]
    simp

/-- A sweep settles payouts one after the other. -/
theorem simulateResults_postings (hstill : allowed .still) (hpayout : allowed .payout)
    {tenantId : ℕ} {receipts : ℕ → String} {now : ℤ} {xs : List (PaymentTransaction × ℕ)} {db : Db}
    {out : Db × List ResultReply}
    (hrows : ∀ x ∈ xs, x.1.type = .b2c ∧
      ∃ row, db.transactions[x.2]? = some row ∧ row.terms = x.1.terms)
    (h : simulateResults tenantId receipts now xs db = .ok out) : Postings allowed db out.1 := by
  induction xs generalizing db out with
  | nil =>
    cases h
    exact .refl allowed db
  | cons x rest ih =>
    obtain ⟨first, hfirst, h⟩ := bind_eq_ok.mp h
    obtain ⟨others, hothers, h⟩ := bind_eq_ok.mp h
    cases h
    obtain ⟨htype, row, hrow, hterms⟩ := hrows x (List.mem_cons_self ..)
    have hout : row.outgoing = false := by
      have hsame : row.terms.type = x.1.terms.type := by rw [hterms]
      have hb2c : row.type = .b2c := hsame.trans htype
      simp [PaymentTransaction.outgoing, hb2c]
    have hpayout' : ¬ x.1.type = .refund := by simp [htype]
    simp only [applyB2cResult, hpayout', if_false] at hfirst
    have hposted : Postings allowed db first.1 :=
      settlePayout_postings hstill hpayout hrow hout hfirst
    suffices hrest : Postings allowed first.1 others.1 from hposted.trans hrest
    refine ih (fun y hy => ?_) hothers
    obtain ⟨htype', row', hrow', hterms'⟩ := hrows y (List.mem_cons_of_mem _ hy)
    obtain ⟨row'', hrow'', hterms''⟩ := hposted.termsStay.transactions y.2 row' hrow'
    exact ⟨htype', row'', hrow'', hterms''.trans hterms'⟩

theorem stuckPayouts_row {db : Db} {tenantId : ℕ} {minutes now : ℤ} {p : TransactionStatus → Bool}
    {x : PaymentTransaction × ℕ} (hx : x ∈ stuckPayouts db tenantId minutes now p) :
    x.1.type = .b2c ∧ ∃ row, db.transactions[x.2]? = some row ∧ row.terms = x.1.terms := by
  refine ⟨stuckPayouts_type hx, x.1, ?_, rfl⟩
  simp only [stuckPayouts, List.mem_insertionSort] at hx
  exact List.mem_zipIdx_iff_getElem?.mp (List.mem_filter.mp hx).1

theorem sweepTenant_postings (hstill : allowed .still) (hpayout : allowed .payout) {db : Db}
    {configured : Bool} {tenantId : ℕ} {stuckMinutes now : ℤ} {receipts : ℕ → String}
    {out : Db × SweepCounts}
    (h : sweepTenant db configured tenantId stuckMinutes now receipts = .ok out) :
    Postings allowed db out.1 := by
  simp only [sweepTenant] at h
  split at h
  · cases h
    exact .refl allowed db
  split at h
  · cases h
    exact .refl allowed db
  · obtain ⟨settled, hsettled, h⟩ := bind_eq_ok.mp h
    obtain ⟨saved, hsaved, h⟩ := bind_eq_ok.mp h
    obtain ⟨-, rfl⟩ := Db.commit_eq_ok.mp hsaved
    cases h
    exact simulateResults_postings hstill hpayout (fun x hx => stuckPayouts_row hx) hsettled

theorem reconcileDisbursements_postings (hstill : allowed .still) (hpayout : allowed .payout)
    {db : Db} {configured : Bool} {tenantId : ℕ} {olderThanMinutes now : ℤ} {simulate : Bool}
    {receipts : ℕ → String} {out : Db × ReconcileReport}
    (h : reconcileDisbursements db configured tenantId olderThanMinutes now simulate receipts =
      .ok out) : Postings allowed db out.1 := by
  simp only [reconcileDisbursements] at h
  split at h
  · obtain ⟨settled, hsettled, h⟩ := bind_eq_ok.mp h
    obtain ⟨saved, hsaved, h⟩ := bind_eq_ok.mp h
    obtain ⟨-, rfl⟩ := Db.commit_eq_ok.mp hsaved
    cases h
    exact simulateResults_postings hstill hpayout
      (fun x hx => stuckPayouts_row (List.mem_filter.mp hx).1) hsettled
  · cases h
    exact .refl allowed db

theorem applyReversalResult_postings (hstill : allowed .still) {db : Db} {txnId : ℕ}
    {row : PaymentTransaction} {resultCode : String} {now : ℤ}
    (hrow : db.transactions[txnId]? = some row) (htype : row.type = .reversal)
    (htimely : row.status = .processing ∨ row.status = .timedOut →
      ∀ id ∈ row.rawPayload.suspenseId, allowed (.timed (db.entryResolved id))) :
    Postings allowed db (applyReversalResult db row.tenantId txnId row resultCode now) := by
  simp only [applyReversalResult]
  split
  · exact .refl allowed db
  rename_i hopen
  have hopen : row.status = .processing ∨ row.status = .timedOut := by
    by_cases hprocessing : row.status = .processing
    · exact .inl hprocessing
    · exact .inr (by simpa [hprocessing] using hopen)
  cases hsid : row.rawPayload.suspenseId with
  | none =>
    refine mark_postings hstill _ hrow (fun t => ⟨rfl, rfl⟩) ?_
    simp [PaymentTransaction.fromSuspense, hsid]
  | some sid =>
    have hposting := Posting.reversalSettled txnId row sid now
      (resultCode = "0" || resultCode = "R000001") hrow htype hopen hsid
    refine .single ?_ (htimely hopen sid hsid)
    by_cases hcode : (resultCode = "0" || resultCode = "R000001") = true
    · simpa [hcode, updateTransaction, updateSuspense] using hposting
    · simpa [hcode, updateTransaction, updateSuspense] using hposting

/-- When the result of a reversal comes too late. -/
def reversalFlow (db : Db) (row : PaymentTransaction) : Flow :=
  .timed ((row.status = .processing || row.status = .timedOut) &&
    row.rawPayload.suspenseId.any (db.entryResolved ·))

theorem processReversalResult_postings (hstill : allowed .still) {db saved : Db} {body : ResultBody}
    {now : ℤ} (htimely : ∀ found ∈ findReversalTxn db body.conversationId body.originatorId,
      allowed (reversalFlow db found.2))
    (h : processReversalResult db body now = .ok saved) : Postings allowed db saved := by
  simp only [processReversalResult] at h
  split at h
  · cases h
  rename_i txnId txn hfound
  obtain ⟨-, rfl⟩ := Db.commit_eq_ok.mp h
  obtain ⟨hrow, htype⟩ := findReversalTxn_eq_some hfound
  refine applyReversalResult_postings hstill hrow htype fun hopen id hid => ?_
  have hid : txn.rawPayload.suspenseId = some id := hid
  obtain hprocessing | htimedOut := hopen
  · simpa [reversalFlow, hprocessing, hid] using htimely _ hfound
  · simpa [reversalFlow, htimedOut, hid] using htimely _ hfound

theorem processReversalTimeout_postings (hstill : allowed .still) {db saved : Db}
    {body : ResultBody}
    (h : processReversalTimeout db body = .ok saved) : Postings allowed db saved := by
  simp only [processReversalTimeout] at h
  split at h
  · cases h
  rename_i txnId txn hfound
  obtain ⟨-, rfl⟩ := Db.commit_eq_ok.mp h
  simp only [markReversalTimeout]
  split
  · exact .refl allowed db
  · rename_i hprocessing
    refine markLive_postings hstill .timedOut (findReversalTxn_eq_some hfound).1
      (fun t => ⟨rfl, rfl⟩) (by simp) fun _ => ?_
    rw [not_not.mp hprocessing]
    simp

/-- A reversal that Safaricom took in: the row of its transaction, and its result at once if
it is a simulated one. -/
theorem saveReversal_postings (hstill : allowed .still) {db : Db} {pendingId entryId : ℕ}
    {p : PendingApproval} {entry : SuspenseEntry} {ack : Ack} {now : ℤ}
    (hp : Waiting db pendingId p)
    (htype : p.actionType = .suspenseReversal) (hlocked : Locked db p entryId entry) :
    Postings allowed db (saveReversal db p.tenantId entryId entry pendingId ack now) := by
  have hsent :=
    Postings.single (.reversalSent pendingId p entryId entry ack now hp htype hlocked) hstill
  simp only [saveReversal]
  split
  · refine hsent.trans (applyReversalResult_postings hstill List.getElem?_concat_length rfl
      fun _ id hid => ?_)
    obtain rfl := Option.some.inj (show some entryId = some id from hid)
    rw [timed_of_not]
    · exact hstill
    · simp [entryResolved, List.getElem?_modify_eq, hlocked.row,
        SuspenseStatus.resolved]
  · exact hsent

theorem decided_postings (hstill : allowed .still) {db db' : Db} (h : Postings allowed db db')
    (pendingId : ℕ) (status : ApprovalStatus) (checkerId : ℕ) :
    Postings allowed db (decided db' pendingId status checkerId) :=
  h.tail (.decided pendingId status checkerId) hstill

theorem onRejected_postings (hstill : allowed .still) (db : Db) (tenantId : ℕ)
    (p : PendingApproval) :
    Postings allowed db (onRejected db tenantId p) := by
  have hgives : ∀ sid, Postings allowed db (db.updateSuspense sid fun e =>
      if e.tenantId = tenantId ∧ e.status = .pendingApproval then { e with status := .open }
      else e) := by
    intro sid
    refine .single (.moved sid _ fun e _ => ?_) hstill
    split
    · rename_i hheld
      exact .inr ⟨by rw [hheld.2]; rfl, rfl, rfl⟩
    · exact .inl rfl
  simp only [onRejected]
  split
  · exact hgives _
  · exact hgives _
  · exact hgives _
  · exact .refl allowed db

/-- The intent of a refund. -/
theorem beginRefund_intent {db : Db} {tenantId actorUserId : ℕ} {amount : ℤ} {phone : Option String}
    {loanId : Option ℕ} {context : RefundContext} {now : ℤ} {out : Db × ℕ}
    (h : beginRefund db tenantId amount phone loanId actorUserId context now = .ok out) :
    ∃ t : PaymentTransaction, out = ({ db with transactions := db.transactions ++ [t] },
        db.transactions.length) ∧ t.type = .refund ∧ t.tenantId = tenantId ∧ t.loanId = loanId ∧
      t.amount = ceilShillings amount ∧ t.status = .initiated ∧
      t.rawPayload.suspenseId = context.suspenseId := by
  simp only [beginRefund] at h
  split at h
  · cases h
  · cases h
    exact ⟨_, rfl, rfl, rfl, rfl, rfl, rfl, rfl⟩

/-- An approval posts what its request is about. -/
theorem beginApproval_postings (hstill : allowed .still) {db : Db}
    {pendingId checkerId : ℕ} {p : PendingApproval} {freshRef : String} {now : ℤ}
    {out : Db × Progress} (hp : Waiting db pendingId p)
    (hinward : p.actionType.inward = true → allowed .inward)
    (hrefund : ∀ loanId loan, p.actionType = .refund → p.loanId = some loanId →
      loanRow db p.tenantId loanId = some loan →
      p.amount ≤ refundableOverpayment db p.tenantId loanId loan none false →
      allowed (.loanRefund loanId))
    (h : beginApproval db p.tenantId pendingId p checkerId freshRef now = .ok out) :
    Postings allowed db out.1 := by
  cases beginApproval_approved h with
  | payout htype loanId begun hbegun hindexed => exact beginDisbursement_postings hstill hbegun
  | loanRefund htype loanId loan hid hloan hfits begun hbegun hindexed =>
    obtain ⟨hrow, htenant⟩ := loanRow_eq_some hloan
    obtain ⟨t, rfl, hkind, hsame, hfor, hamount, hstatus, hsource⟩ := beginRefund_intent hbegun
    exact .single
      (.refundsLoan pendingId p loanId loan t hp htype hrow htenant hfits hkind hsame
      (hfor.trans hid) hamount hstatus hsource)
      (hrefund loanId loan htype hid hloan hfits)
  | payment htype loanId loan hid hloan paid hpaid hindexed =>
    have hposted := payLoan_postings hstill (hinward (by rw [htype]; rfl))
      (loanRow_eq_some hloan).1 hpaid
    exact decided_postings hstill hposted pendingId .approved checkerId
  | allocation htype held hheld loanId loan hid hloan moved hmoved hindexed =>
    have hlocked := lockedEntry_locked rfl hheld
    have hposted := allocateEntry_postings hstill (hinward (by rw [htype]; rfl)) hlocked.row
      (.inr hlocked.held) (loanRow_eq_some hloan).1 hmoved
    exact decided_postings hstill hposted pendingId .approved checkerId
  | entryRefund htype held hheld begun hbegun hindexed =>
    have hlocked := lockedEntry_locked rfl hheld
    obtain ⟨t, rfl, hkind, hsame, -, hamount, hstatus, hsource⟩ := beginRefund_intent hbegun
    have hsent :=
      Postings.single (.refundsEntry pendingId p held.1 held.2 t hp htype hlocked hkind hsame
      hamount hstatus hsource) hstill
    refine hsent.tail (.moved held.1 (fun e => { e with
      status := .refundProcessing, resolvedByUserId := some checkerId }) fun e he => ?_) hstill
    obtain rfl := Option.some.inj (hlocked.row.symm.trans he)
    exact .inr ⟨by rw [hlocked.held]; rfl, rfl, rfl⟩
  | reversal htype held hheld => exact .refl allowed db

/-- A decision up to its end or its call. Only an approved loan refund sends money back on a
loan. -/
theorem beginDecision_postings (hstill : allowed .still) {db : Db}
    {tenantId pendingId : ℕ} {action : String} {checker : Checker} {freshRef : String} {now : ℤ}
    {out : Db × Progress}
    (hinward : (db.pending[pendingId]?).any (fun p => p.actionType.inward) = true →
      allowed .inward)
    (hrefund : ∀ p loanId loan, Waiting db pendingId p → p.tenantId = tenantId →
      action = "approve" →
      p.actionType = .refund → p.loanId = some loanId → loanRow db p.tenantId loanId = some loan →
      p.amount ≤ refundableOverpayment db p.tenantId loanId loan none false →
      allowed (.loanRefund loanId))
    (h : beginDecision db tenantId pendingId action checker freshRef now = .ok out) :
    Postings allowed db out.1 := by
  obtain ⟨p, hdecidable, h⟩ := bind_eq_ok.mp h
  obtain ⟨hrow, rfl, hwaits, haction⟩ := decidable_eq_ok hdecidable
  split at h
  · obtain ⟨saved, hcommit, h⟩ := bind_eq_ok.mp h
    obtain ⟨-, rfl⟩ := Db.commit_eq_ok.mp hcommit
    cases h
    have hrejected := decided_postings hstill (.refl allowed db) pendingId .rejected checker.id
    exact hrejected.trans (onRejected_postings hstill _ _ _)
  · rename_i hreject
    exact beginApproval_postings hstill ⟨hrow, hwaits⟩
      (fun hkind => hinward (by simpa [hrow] using hkind))
      (fun loanId loan => hrefund p loanId loan ⟨hrow, hwaits⟩ rfl
        (haction.resolve_right hreject)) h

/-- When the answer to a refund finds it settled, or its entry disposed of. -/
def refundAnswerFlow (db : Db) (row : PaymentTransaction) : Flow :=
  .timed ((row.rawPayload.suspenseId.isSome && row.status = .success) ||
    row.rawPayload.suspenseId.any (db.entryResolved ·))

theorem allowed_timed (hstill : allowed .still) {late : Bool} (h : late = true → allowed .late) :
    allowed (.timed late) := by
  cases late with
  | false => exact hstill
  | true => exact h rfl

/-- What the answer to a refund saves. -/
theorem finishRefund_postings (hstill : allowed .still) {db saved : Db}
    {pendingId checkerId txnId : ℕ} {reply : B2cReply} {receipt : String} {now : ℤ}
    {row : PaymentTransaction} (hrow : db.transactions[txnId]? = some row)
    (htype : row.type = .refund)
    (htimely : allowed (refundAnswerFlow db row))
    (h : (finishDecision db row.tenantId pendingId checkerId (.refund txnId) reply receipt now).1 =
      .ok saved) : Postings allowed db saved := by
  have hlate : ∀ late : Bool, (late = true → (row.rawPayload.suspenseId.isSome &&
      row.status = .success || row.rawPayload.suspenseId.any (db.entryResolved ·)) = true) →
      allowed (.timed late) := by
    refine fun late h => allowed_timed hstill fun hl => ?_
    rw [refundAnswerFlow, h hl] at htimely
    exact htimely
  have hmark : ∀ (status : TransactionStatus) (f : PaymentTransaction → PaymentTransaction),
      (∀ t, (f t).terms = t.terms ∧ (f t).status = status) → status ≠ .success →
      Postings allowed db (db.updateTransaction txnId f) := by
    intro status f hset hstatus
    refine .single (.marked txnId row status f hrow hset fun _ => hstatus) (hlate _ fun hl => ?_)
    rw [PaymentTransaction.fromSuspense, Bool.and_eq_true, Bool.and_eq_true] at hl
    simp [hl.1.2, hl.2]
  simp only [finishDecision, finishRefund] at h
  cases hsent : sendB2c reply with
  | refused why =>
    simp only [hsent, hrow] at h
    obtain ⟨-, rfl⟩ := Db.commit_eq_ok.mp h
    have hfailed :=
      hmark .failed (fun t => { t with status := .failed }) (fun t => ⟨rfl, rfl⟩) (by simp)
    exact hfailed.trans (reopenRefundSource_postings hstill _ row.tenantId row)
  | uncertain why =>
    simp only [hsent] at h
    obtain ⟨-, rfl⟩ := Db.commit_eq_ok.mp h
    exact hmark .uncertain _ (fun t => ⟨rfl, rfl⟩) (by simp)
  | accepted ack =>
    simp only [hsent] at h
    let sent : PaymentTransaction → PaymentTransaction := fun t => { t with
      status := .processing
      mpesaRef := (nonEmpty ack.conversationId) <|> ack.transactionReceipt
      rawPayload := { t.rawPayload with originatorConversationId := ack.originatorConversationId } }
    have hacknowledged := hmark .processing sent (fun t => ⟨rfl, rfl⟩) (by simp)
    by_cases hsimulated : ack.simulated = true
    · have hrow' : (db.updateTransaction txnId sent).transactions[txnId]? = some (sent row) := by
        simp [updateTransaction, List.getElem?_modify_eq, hrow]
      have hfound : (db.updateTransaction txnId fun t => { t with
          status := .processing
          mpesaRef := (nonEmpty ack.conversationId) <|> ack.transactionReceipt
          rawPayload := { t.rawPayload with
            originatorConversationId := ack.originatorConversationId } }).transactions[txnId]? =
          some (sent row) := hrow'
      simp only [hsimulated, if_true, hfound] at h
      obtain ⟨-, rfl⟩ := Db.commit_eq_ok.mp h
      have hsettled : Postings allowed (db.updateTransaction txnId sent)
          (applyRefundResult (db.updateTransaction txnId sent) row.tenantId txnId (sent row) "0"
            (some receipt) now).1 :=
        @applyRefundResult_postings allowed hstill (db.updateTransaction txnId sent) txnId
          (sent row)
          (sent row) "0" (some receipt) now hrow' htype rfl (by simp [sent]) fun _ _ id hid =>
            hlate _ fun hresolved => by
              have hid : row.rawPayload.suspenseId = some id := hid
              have hresolved : db.entryResolved id = true := hresolved
              simp [hid, hresolved]
      exact decided_postings hstill (hacknowledged.trans hsettled) pendingId .approved checkerId
    · simp only [hsimulated, Bool.false_eq_true, if_false] at h
      obtain ⟨-, rfl⟩ := Db.commit_eq_ok.mp h
      exact decided_postings hstill hacknowledged pendingId .approved checkerId

theorem finishPayout_postings (hstill : allowed .still) {db saved : Db}
    {tenantId pendingId checkerId loanId txnId : ℕ} {reply : B2cReply} {receipt : String} {now : ℤ}
    {row : PaymentTransaction} (hrow : db.transactions[txnId]? = some row)
    (hout : row.outgoing = false)
    (h : (finishDecision db tenantId pendingId checkerId
      (.payout loanId txnId) reply receipt now).1 =
      .ok saved) : Postings allowed db saved := by
  simp only [finishDecision] at h
  split at h
  · rename_i sent answer hfinished
    obtain ⟨-, rfl⟩ := Db.commit_eq_ok.mp h
    have hsent := finishDisbursement_postings hstill hrow hout (by rw [hfinished])
    exact decided_postings hstill hsent pendingId .approved checkerId
  · rename_i hfinished
    exact finishDisbursement_postings hstill hrow hout (by rw [hfinished, h])
  · cases h

/-- A reversal that was taken in. -/
theorem finishReversal_postings (hstill : allowed .still) {db saved : Db}
    {pendingId checkerId entryId : ℕ} {p : PendingApproval} {entry : SuspenseEntry}
    {reply : B2cReply}
    {receipt : String} {now : ℤ} (hp : Waiting db pendingId p)
    (htype : p.actionType = .suspenseReversal) (hlocked : Locked db p entryId entry)
    (h : finishDecision db p.tenantId pendingId checkerId (.reversal entryId) reply receipt now =
      (.ok saved, none)) : Postings allowed db saved := by
  simp only [finishDecision] at h
  split at h
  · rename_i hentry _
    obtain ⟨hcommit, -⟩ := Prod.mk.inj h
    obtain ⟨-, rfl⟩ := Db.commit_eq_ok.mp hcommit
    obtain rfl := Option.some.inj (hentry.symm.trans hlocked.row)
    exact decided_postings hstill
      (saveReversal_postings hstill hp htype hlocked) pendingId .approved
      checkerId
  · simp at h
  · simp at h

end Outgoing

end FinylDcp
