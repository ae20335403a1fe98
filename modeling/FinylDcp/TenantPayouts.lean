import FinylDcp.TenantRows

/-!
# Money on its way out keeps to the rows of its tenant

A payout, a refund or a reversal, from its request over the call to the result, touches the rows
of the tenant whose transaction it is.
-/
namespace FinylDcp
open Db Tables Text

section Outgoing

variable {tenantId : ℕ} {db saved : Db}

theorem beginDisbursement_confined {loanId actorUserId : ℕ} {now : ℤ} {out : Db × ℕ}
    (h : beginDisbursement db tenantId loanId actorUserId now = .ok out) :
    Confined tenantId db out.1 := by
  simp only [beginDisbursement] at h
  split at h
  · cases h
  split at h
  · cases h
  rename_i loan hloan
  split at h
  · cases h
  rename_i happroved
  simp only [Bool.or_eq_true, decide_eq_true_eq, not_or, not_not] at happroved
  have hown := own_of_row Loan.tenantId hloan happroved.1
  split at h
  · rename_i product borrower hproduct hborrower
    split at h
    · cases h
    · cases h
      have htaken : Confined tenantId db (db.updateLoan loanId fun l => { l with
          status := .processing
          pricingSnapshot := some (loanSnapshot loan product)
          disbursedByUserId := some actorUserId }) :=
        .updateLoan fun l hl => .inr ⟨hown l hl, hown l hl⟩
      exact htaken.trans (.addTransaction rfl)
  · cases h

theorem revertLoan_confined (db : Db) (loanId : ℕ) :
    Confined tenantId db (revertLoan db tenantId loanId) := by
  refine .updateLoan fun l _ => ?_
  split
  next hwaits => exact .inr ⟨hwaits.1, hwaits.1⟩
  next => exact .inl rfl

theorem finishDisbursement_confined {loanId txnId : ℕ} {sent : SendResult}
    (hown : ∀ t ∈ db.transactions[txnId]?, t.tenantId = tenantId)
    (h : (finishDisbursement db tenantId loanId txnId sent).1 = .ok saved) :
    Confined tenantId db saved := by
  cases sent with
  | refused why =>
    obtain ⟨-, rfl⟩ := Db.commit_eq_ok.mp h
    have hfailed : Confined tenantId db (db.updateTransaction txnId fun t =>
        { t with status := .failed }) := .updateTransaction hown fun _ => rfl
    exact hfailed.trans (revertLoan_confined _ loanId)
  | uncertain why =>
    obtain ⟨-, rfl⟩ := Db.commit_eq_ok.mp h
    exact .updateTransaction hown fun _ => rfl
  | accepted ack =>
    obtain ⟨-, rfl⟩ := Db.commit_eq_ok.mp h
    exact .updateTransaction hown fun _ => rfl

/-- A payout activates the loan it is for. -/
theorem activateLoan_confined {loanId : ℕ} {loan : Loan} (product : Product) (today : ℤ)
    (hrow : db.loans[loanId]? = some loan) (hmine : loan.tenantId = tenantId) :
    Confined tenantId db (activateLoan db tenantId loanId loan product today) := by
  have hactive : Confined tenantId db (db.updateLoan loanId fun row =>
      row.flush loan (activate loan product today)) := by
    refine .updateLoan fun l hl => .inr ?_
    obtain rfl := Option.some.inj (hrow.symm.trans hl)
    rw [Loan.flush_loaded]
    exact ⟨hmine, hmine⟩
  exact hactive.trans (.aside _ _ _ _)

theorem settlePayout_confined {txnId : ℕ} {txn : PaymentTransaction} {resultCode : String}
    {receipt : Option String} {now : ℤ} {out : Db × ResultReply}
    (hown : ∀ t ∈ db.transactions[txnId]?, t.tenantId = tenantId)
    (h : settlePayout db tenantId txnId txn (loanOf db tenantId txn) resultCode receipt now =
      .ok out) : Confined tenantId db out.1 := by
  simp only [settlePayout] at h
  split at h
  · cases h
    exact .refl tenantId db
  split at h
  · have hpaid : Confined tenantId db (db.updateTransaction txnId fun t => { t with
        status := .success
        mpesaRef := flushColumn t.mpesaRef txn.mpesaRef (settledRef txn receipt) }) :=
      .updateTransaction hown fun _ => rfl
    split at h
    · rename_i loanId loan hheld
      obtain ⟨-, hrow, hmine⟩ := loanOf_eq_some hheld
      split at h
      · split at h
        · rename_i product hproduct
          cases h
          exact hpaid.trans (activateLoan_confined product _ hrow hmine)
        · cases h
      · cases h
        exact hpaid
    · cases h
      exact hpaid
  · have hfailed : Confined tenantId db (db.updateTransaction txnId fun t =>
        { t with status := .failed }) := .updateTransaction hown fun _ => rfl
    split at h
    · rename_i loanId loan hheld
      obtain ⟨-, hrow, hmine⟩ := loanOf_eq_some hheld
      split at h
      · cases h
        refine hfailed.trans (.updateLoan fun l hl => .inr ?_)
        obtain rfl := Option.some.inj (hrow.symm.trans hl)
        rw [Loan.flush_loaded]
        exact ⟨hmine, hmine⟩
      · cases h
        exact hfailed
    · cases h
      exact hfailed

theorem reopenRefundSource_confined (db : Db) (txn : PaymentTransaction) :
    Confined tenantId db (reopenRefundSource db tenantId txn) := by
  unfold reopenRefundSource
  split
  · exact .refl tenantId db
  · refine .updateSuspense fun e _ => ?_
    split
    next hwaits => exact .inr ⟨hwaits.1, hwaits.1⟩
    next => exact .inl rfl

theorem applyRefundResult_confined {txnId : ℕ} {txn : PaymentTransaction} {resultCode : String}
    {receipt : Option String} {now : ℤ}
    (hown : ∀ t ∈ db.transactions[txnId]?, t.tenantId = tenantId) :
    Confined tenantId db (applyRefundResult db tenantId txnId txn resultCode receipt now).1 := by
  unfold applyRefundResult
  split
  · exact .refl tenantId db
  split
  · have hpaid : Confined tenantId db (db.updateTransaction txnId fun t => { t with
        status := .success, mpesaRef := settledRef txn receipt }) :=
      .updateTransaction hown fun _ => rfl
    dsimp only
    split
    · exact hpaid
    · refine hpaid.trans (.updateSuspense fun e _ => ?_)
      split
      next hmine => exact .inr ⟨hmine, hmine⟩
      next => exact .inl rfl
  · have hfailed : Confined tenantId db (db.updateTransaction txnId fun t =>
        { t with status := .failed }) := .updateTransaction hown fun _ => rfl
    exact hfailed.trans (reopenRefundSource_confined _ txn)

theorem applyB2cResult_confined {txnId : ℕ} {txn : PaymentTransaction} {resultCode : String}
    {receipt : Option String} {now : ℤ} {out : Db × ResultReply}
    (hown : ∀ t ∈ db.transactions[txnId]?, t.tenantId = tenantId)
    (h : applyB2cResult db tenantId txnId txn resultCode receipt now = .ok out) :
    Confined tenantId db out.1 := by
  unfold applyB2cResult at h
  split at h
  · cases h
    exact applyRefundResult_confined hown
  · exact settlePayout_confined hown h

theorem processB2cResult_confined {body : ResultBody} {now : ℤ}
    (htenant : ∀ found ∈ findB2cTxn db body.conversationId body.originatorId,
      found.2.tenantId = tenantId)
    (h : processB2cResult db body now = .ok saved) : Confined tenantId db saved := by
  unfold processB2cResult at h
  split at h
  · cases h
  rename_i txnId txn hfound
  obtain rfl := htenant _ hfound
  obtain ⟨out, hout, hcommit⟩ := bind_eq_ok.mp h
  obtain ⟨-, rfl⟩ := Db.commit_eq_ok.mp hcommit
  exact applyB2cResult_confined (own_of_row _ (findB2cTxn_eq_some hfound).1 rfl) hout

theorem processB2cTimeout_confined {body : ResultBody}
    (htenant : ∀ found ∈ findB2cTxn db body.conversationId body.originatorId,
      found.2.tenantId = tenantId)
    (h : processB2cTimeout db body = .ok saved) : Confined tenantId db saved := by
  unfold processB2cTimeout at h
  split at h
  · cases h
  rename_i txnId txn hfound
  obtain ⟨-, rfl⟩ := Db.commit_eq_ok.mp h
  have hmine : txn.tenantId = tenantId := htenant _ hfound
  unfold markB2cTimeout
  split
  · exact .refl tenantId db
  · exact .updateTransaction (own_of_row _ (findB2cTxn_eq_some hfound).1 hmine) fun _ => rfl

theorem resolvePayoutRequest_confined {txnId : ℕ} {checker : Checker} {outcome note : String}
    {receipt : Option String} {now : ℤ}
    (h : resolvePayoutRequest db tenantId txnId checker outcome receipt note now = .ok saved) :
    Confined tenantId db saved := by
  obtain ⟨txn, said, reply, hrow, hmine, -, -, happlied⟩ := resolvePayoutRequest_eq_ok h
  exact applyB2cResult_confined (own_of_row _ hrow hmine) happlied

theorem simulateResults_confined {receipts : ℕ → String} {now : ℤ}
    {xs : List (PaymentTransaction × ℕ)} {out : Db × List ResultReply}
    (hown : ∀ x ∈ xs, ∀ t ∈ db.transactions[x.2]?, t.tenantId = tenantId)
    (h : simulateResults tenantId receipts now xs db = .ok out) : Confined tenantId db out.1 := by
  induction xs generalizing db out with
  | nil =>
    cases h
    exact .refl tenantId db
  | cons x rest ih =>
    obtain ⟨first, hfirst, h⟩ := bind_eq_ok.mp h
    obtain ⟨others, hothers, h⟩ := bind_eq_ok.mp h
    cases h
    have hsettled : Confined tenantId db first.1 :=
      applyB2cResult_confined (hown x List.mem_cons_self) hfirst
    have hrest : Confined tenantId first.1 others.1 := by
      refine ih (fun y hy => ?_) hothers
      exact hsettled.ownTransaction (hown y (List.mem_cons_of_mem _ hy))
    exact hsettled.trans hrest

theorem stuckPayouts_own {minutes now : ℤ} {p : TransactionStatus → Bool}
    {x : PaymentTransaction × ℕ} (hx : x ∈ stuckPayouts db tenantId minutes now p) :
    ∀ t ∈ db.transactions[x.2]?, t.tenantId = tenantId := by
  unfold stuckPayouts at hx
  rw [List.mem_insertionSort, List.mem_filter] at hx
  obtain ⟨hmem, hp⟩ := hx
  simp only [Bool.and_eq_true, decide_eq_true_eq] at hp
  exact own_of_row _ (List.mem_zipIdx_iff_getElem?.mp hmem) hp.1.1.1

theorem sweepTenant_confined {configured : Bool} {stuckMinutes now : ℤ} {receipts : ℕ → String}
    {out : Db × SweepCounts}
    (h : sweepTenant db configured tenantId stuckMinutes now receipts = .ok out) :
    Confined tenantId db out.1 := by
  simp only [sweepTenant] at h
  split at h
  · cases h
    exact .refl tenantId db
  split at h
  · cases h
    exact .refl tenantId db
  · obtain ⟨settled, hsettled, h⟩ := bind_eq_ok.mp h
    obtain ⟨saved, hsaved, h⟩ := bind_eq_ok.mp h
    obtain ⟨-, rfl⟩ := Db.commit_eq_ok.mp hsaved
    cases h
    exact simulateResults_confined (fun x hx => stuckPayouts_own hx) hsettled

theorem reconcileDisbursements_confined {configured : Bool} {olderThanMinutes now : ℤ}
    {simulate : Bool} {receipts : ℕ → String} {out : Db × ReconcileReport}
    (h : reconcileDisbursements db configured tenantId olderThanMinutes now simulate receipts =
      .ok out) : Confined tenantId db out.1 := by
  simp only [reconcileDisbursements] at h
  split at h
  · obtain ⟨settled, hsettled, h⟩ := bind_eq_ok.mp h
    obtain ⟨saved, hsaved, h⟩ := bind_eq_ok.mp h
    obtain ⟨-, rfl⟩ := Db.commit_eq_ok.mp hsaved
    cases h
    exact simulateResults_confined
      (fun x hx => stuckPayouts_own (List.mem_filter.mp hx).1) hsettled
  · cases h
    exact .refl tenantId db

theorem applyReversalResult_confined {txnId : ℕ} {txn : PaymentTransaction} {resultCode : String}
    {now : ℤ} (hown : ∀ t ∈ db.transactions[txnId]?, t.tenantId = tenantId) :
    Confined tenantId db (applyReversalResult db tenantId txnId txn resultCode now) := by
  simp only [applyReversalResult]
  split
  · exact .refl tenantId db
  have hsettled : ∀ outcome, Confined tenantId db (db.updateTransaction txnId fun t =>
      { t with status := outcome }) := fun _ => .updateTransaction hown fun _ => rfl
  split
  · exact hsettled _
  · refine (hsettled _).trans (.updateSuspense fun e _ => ?_)
    split
    next => exact .inl rfl
    next hmine =>
      rw [not_not] at hmine
      refine .inr ⟨hmine, ?_⟩
      split <;> exact hmine

theorem processReversalResult_confined {body : ResultBody} {now : ℤ}
    (htenant : ∀ found ∈ findReversalTxn db body.conversationId body.originatorId,
      found.2.tenantId = tenantId)
    (h : processReversalResult db body now = .ok saved) : Confined tenantId db saved := by
  unfold processReversalResult at h
  split at h
  · cases h
  rename_i txnId txn hfound
  obtain ⟨-, rfl⟩ := Db.commit_eq_ok.mp h
  obtain rfl := htenant _ hfound
  exact applyReversalResult_confined (own_of_row _ (findReversalTxn_eq_some hfound).1 rfl)

theorem processReversalTimeout_confined {body : ResultBody}
    (htenant : ∀ found ∈ findReversalTxn db body.conversationId body.originatorId,
      found.2.tenantId = tenantId)
    (h : processReversalTimeout db body = .ok saved) : Confined tenantId db saved := by
  unfold processReversalTimeout at h
  split at h
  · cases h
  rename_i txnId txn hfound
  obtain ⟨-, rfl⟩ := Db.commit_eq_ok.mp h
  have hmine : txn.tenantId = tenantId := htenant _ hfound
  unfold markReversalTimeout
  split
  · exact .refl tenantId db
  · exact .updateTransaction (own_of_row _ (findReversalTxn_eq_some hfound).1 hmine) fun _ => rfl

theorem saveReversal_confined {entryId pendingId : ℕ} {entry : SuspenseEntry} {ack : Ack} {now : ℤ}
    (hown : ∀ e ∈ db.suspense[entryId]?, e.tenantId = tenantId) :
    Confined tenantId db (saveReversal db tenantId entryId entry pendingId ack now) := by
  have hheld : Confined tenantId db (db.updateSuspense entryId fun e =>
      { e with status := .reversalPending }) :=
    .updateSuspense fun e he => .inr ⟨hown e he, hown e he⟩
  have hsent : Confined tenantId db { db.updateSuspense entryId (fun e =>
      { e with status := .reversalPending }) with
      transactions := db.transactions ++
        [reversalTxn tenantId entryId entry pendingId ack now] } :=
    hheld.trans (.addTransaction rfl)
  simp only [saveReversal]
  split
  · refine hsent.trans (applyReversalResult_confined ?_)
    exact own_of_row _ List.getElem?_concat_length rfl
  · exact hsent

theorem onRejected_confined (db : Db) (p : PendingApproval) :
    Confined tenantId db (onRejected db tenantId p) := by
  have hgives : ∀ sid, Confined tenantId db (db.updateSuspense sid fun e =>
      if e.tenantId = tenantId ∧ e.status = .pendingApproval then { e with status := .open }
      else e) := by
    intro sid
    refine .updateSuspense fun e _ => ?_
    split
    next hheld => exact .inr ⟨hheld.1, hheld.1⟩
    next => exact .inl rfl
  unfold onRejected
  split
  · exact hgives _
  · exact hgives _
  · exact hgives _
  · exact .refl tenantId db

theorem beginRefund_confined {actorUserId : ℕ} {amount : ℤ} {phone : Option String}
    {loanId : Option ℕ} {context : RefundContext} {now : ℤ} {out : Db × ℕ}
    (h : beginRefund db tenantId amount phone loanId actorUserId context now = .ok out) :
    Confined tenantId db out.1 := by
  obtain ⟨t, rfl, -, hsame, -⟩ := beginRefund_intent h
  exact .addTransaction hsame

theorem beginApproval_confined {pendingId checkerId : ℕ} {p : PendingApproval} {freshRef : String}
    {now : ℤ} {out : Db × Progress}
    (hown : ∀ q ∈ db.pending[pendingId]?, q.tenantId = tenantId)
    (h : beginApproval db tenantId pendingId p checkerId freshRef now = .ok out) :
    Confined tenantId db out.1 := by
  cases beginApproval_approved h with
  | payout htype loanId begun hbegun => exact beginDisbursement_confined hbegun
  | loanRefund htype loanId loan hid hloan hfits begun hbegun => exact beginRefund_confined hbegun
  | payment htype loanId loan hid hloan paid hpaid =>
    have hconfined : Confined tenantId db paid.1 :=
      payLoan_confined (loanRow_eq_some hloan).1 rfl hpaid
    exact hconfined.trans (.decided (hconfined.ownRequest hown))
  | allocation htype held hheld loanId loan hid hloan moved hmoved =>
    obtain ⟨-, hentry, hmine, -⟩ := lockedEntry_eq_ok hheld
    have hconfined : Confined tenantId db moved.1 :=
      allocateEntry_confined hentry hmine (loanRow_eq_some hloan).1 hmoved
    exact hconfined.trans (.decided (hconfined.ownRequest hown))
  | entryRefund htype held hheld begun hbegun =>
    obtain ⟨-, hentry, hmine, -⟩ := lockedEntry_eq_ok hheld
    have hentries := own_of_row SuspenseEntry.tenantId hentry hmine
    have hprocessing : Confined tenantId db (db.updateSuspense held.1 fun e => { e with
        status := .refundProcessing, resolvedByUserId := some checkerId }) :=
      .updateSuspense fun e he => .inr ⟨hentries e he, hentries e he⟩
    exact hprocessing.trans (beginRefund_confined hbegun)
  | reversal htype held hheld => exact .refl tenantId db

theorem beginDecision_confined {pendingId : ℕ} {action : String} {checker : Checker}
    {freshRef : String} {now : ℤ} {out : Db × Progress}
    (h : beginDecision db tenantId pendingId action checker freshRef now = .ok out) :
    Confined tenantId db out.1 := by
  obtain ⟨p, hdecidable, h⟩ := bind_eq_ok.mp h
  obtain ⟨hrow, hmine, -⟩ := decidable_eq_ok hdecidable
  have hown := own_of_row PendingApproval.tenantId hrow hmine
  split at h
  · obtain ⟨saved, hcommit, h⟩ := bind_eq_ok.mp h
    obtain ⟨-, rfl⟩ := Db.commit_eq_ok.mp hcommit
    cases h
    have hrejected : Confined tenantId db (decided db pendingId .rejected checker.id) :=
      .decided hown
    exact hrejected.trans (onRejected_confined _ p)
  · exact beginApproval_confined hown h

/-- The row a call is about is its tenant's. -/
def OutgoingCall.About (db : Db) (tenantId : ℕ) : OutgoingCall → Prop
  | payout _ txnId => ∃ t ∈ db.transactions[txnId]?, t.tenantId = tenantId
  | refund txnId => ∃ t ∈ db.transactions[txnId]?, t.tenantId = tenantId
  | reversal entryId => ∃ e ∈ db.suspense[entryId]?, e.tenantId = tenantId

theorem own_of_exists {α : Type*} (tenantOf : α → ℕ) {row : Option α}
    (h : ∃ x ∈ row, tenantOf x = tenantId) : ∀ x ∈ row, tenantOf x = tenantId := by
  obtain ⟨x, hx, hmine⟩ := h
  exact own_of_row _ hx hmine

theorem finishRefund_confined {txnId : ℕ} {sent : SendResult} {receipt : String} {now : ℤ}
    {db' : Db} (hown : ∀ t ∈ db.transactions[txnId]?, t.tenantId = tenantId) :
    (finishRefund db tenantId txnId sent receipt now = .returned db' → Confined tenantId db db') ∧
      ∀ failure, finishRefund db tenantId txnId sent receipt now = .raised (.ok db') failure →
        Confined tenantId db db' := by
  have hmarked : ∀ f : PaymentTransaction → PaymentTransaction, (∀ t, (f t).tenantId = t.tenantId) →
      Confined tenantId db (db.updateTransaction txnId f) :=
    fun f hf => .updateTransaction hown hf
  cases sent with
  | refused why =>
    constructor
    · intro h
      cases h
    · intro failure h
      simp only [finishRefund, RefundExit.raised.injEq] at h
      obtain ⟨hcommit, -⟩ := h
      obtain ⟨-, rfl⟩ := Db.commit_eq_ok.mp hcommit
      have hfailed := hmarked (fun t => { t with status := .failed }) fun _ => rfl
      split
      · exact hfailed.trans (reopenRefundSource_confined _ _)
      · exact hfailed
  | uncertain why =>
    constructor
    · intro h
      cases h
    · intro failure h
      simp only [finishRefund, RefundExit.raised.injEq] at h
      obtain ⟨hcommit, -⟩ := h
      obtain ⟨-, rfl⟩ := Db.commit_eq_ok.mp hcommit
      exact hmarked _ fun _ => rfl
  | accepted ack =>
    have hsent := hmarked (fun t => { t with
      status := .processing
      mpesaRef := (nonEmpty ack.conversationId) <|> ack.transactionReceipt
      rawPayload := { t.rawPayload with
        originatorConversationId := ack.originatorConversationId } }) fun _ => rfl
    simp only [finishRefund]
    constructor
    · intro h
      split at h
      · split at h
        · obtain rfl := RefundExit.returned.inj h
          exact hsent.trans (applyRefundResult_confined (hsent.ownTransaction hown))
        · obtain rfl := RefundExit.returned.inj h
          exact hsent
      · obtain rfl := RefundExit.returned.inj h
        exact hsent
    · intro failure h
      split at h
      · split at h <;> cases h
      · cases h

/-- The second half of a decision. -/
theorem finishDecision_confined {pendingId checkerId : ℕ} {call : OutgoingCall} {reply : B2cReply}
    {receipt : String} {now : ℤ} (hown : ∀ p ∈ db.pending[pendingId]?, p.tenantId = tenantId)
    (hcall : call.About db tenantId)
    (h : (finishDecision db tenantId pendingId checkerId call reply receipt now).1 = .ok saved) :
    Confined tenantId db saved := by
  cases call with
  | payout loanId txnId =>
    have hrows := own_of_exists PaymentTransaction.tenantId hcall
    simp only [finishDecision] at h
    split at h
    · rename_i sent answer hfinished
      obtain ⟨-, rfl⟩ := Db.commit_eq_ok.mp h
      have hsent : Confined tenantId db sent :=
        finishDisbursement_confined hrows (by rw [hfinished])
      exact hsent.trans (.decided (hsent.ownRequest hown))
    · rename_i hfinished
      exact finishDisbursement_confined hrows (by rw [hfinished, h])
    · cases h
  | refund txnId =>
    have hrows := own_of_exists PaymentTransaction.tenantId hcall
    simp only [finishDecision] at h
    split at h
    · rename_i sent hreturned
      obtain ⟨-, rfl⟩ := Db.commit_eq_ok.mp h
      have hsent : Confined tenantId db sent := (finishRefund_confined hrows).1 hreturned
      exact hsent.trans (.decided (hsent.ownRequest hown))
    · rename_i raised failure hraised
      have hsaved : raised = .ok saved := h
      rw [hsaved] at hraised
      exact (finishRefund_confined hrows).2 failure hraised
  | reversal entryId =>
    have hrows := own_of_exists SuspenseEntry.tenantId hcall
    simp only [finishDecision] at h
    split at h
    · obtain ⟨-, rfl⟩ := Db.commit_eq_ok.mp h
      have hsaved : ∀ entry ack, Confined tenantId db
          (saveReversal db tenantId entryId entry pendingId ack now) :=
        fun _ _ => saveReversal_confined hrows
      exact (hsaved _ _).trans (.decided ((hsaved _ _).ownRequest hown))
    · cases h
      exact .refl tenantId db
    · cases h
      exact .refl tenantId db

/-- The intent of a payout is its tenant's. -/
theorem beginDisbursement_row {loanId actorUserId : ℕ} {now : ℤ} {out : Db × ℕ}
    (h : beginDisbursement db tenantId loanId actorUserId now = .ok out) :
    ∃ t ∈ out.1.transactions[out.2]?, t.tenantId = tenantId := by
  simp only [beginDisbursement] at h
  split at h
  · cases h
  split at h
  · cases h
  split at h
  · cases h
  split at h
  · split at h
    · cases h
    · cases h
      exact ⟨_, List.getElem?_concat_length, rfl⟩
  · cases h

theorem beginRefund_row {actorUserId : ℕ} {amount : ℤ} {phone : Option String}
    {loanId : Option ℕ} {context : RefundContext} {now : ℤ} {out : Db × ℕ}
    (h : beginRefund db tenantId amount phone loanId actorUserId context now = .ok out) :
    ∃ t ∈ out.1.transactions[out.2]?, t.tenantId = tenantId := by
  obtain ⟨t, rfl, -, hsame, -⟩ := beginRefund_intent h
  exact ⟨t, List.getElem?_concat_length, hsame⟩

/-- A decision that waits for a call is about a request and a row of its tenant. -/
theorem beginDecision_about {pendingId : ℕ} {action : String} {checker : Checker}
    {freshRef : String} {now : ℤ} {call : OutgoingCall}
    (h : beginDecision db tenantId pendingId action checker freshRef now =
      .ok (saved, .waiting call)) :
    (∃ p ∈ db.pending[pendingId]?, p.tenantId = tenantId) ∧ call.About saved tenantId := by
  have haction := beginDecision_waiting h
  obtain ⟨p, hdecidable, h⟩ := bind_eq_ok.mp h
  obtain ⟨hrow, hmine, -⟩ := decidable_eq_ok hdecidable
  refine ⟨⟨p, hrow, hmine⟩, ?_⟩
  rw [if_neg haction] at h
  generalize hout : ((saved, .waiting call) : Db × Progress) = out at h
  cases beginApproval_approved h with
  | payout htype loanId begun hbegun =>
    cases hout
    exact beginDisbursement_row hbegun
  | loanRefund htype loanId loan hid hloan hfits begun hbegun =>
    cases hout
    exact beginRefund_row hbegun
  | payment => cases hout
  | allocation => cases hout
  | entryRefund htype held hheld begun hbegun =>
    cases hout
    exact beginRefund_row hbegun
  | reversal htype held hheld =>
    cases hout
    obtain ⟨-, hentry, hown, -⟩ := lockedEntry_eq_ok hheld
    exact ⟨held.2, hentry, hown⟩

end Outgoing

end FinylDcp
