import FinylDcp.PaymentRoutes

/-!
# What a payout step does

One lemma for each step of money moving out: its intent, the answer to its call, its
result, a timeout notice, and a person's decision. A step marks one transaction row
and may move the loan of that row.
-/
namespace FinylDcp
open Db Text

/-- A transaction pays a loan out. -/
def PaymentTransaction.pays (loanId : ℕ) (t : PaymentTransaction) : Bool :=
  t.type = .b2c && t.loanId = some loanId

theorem pays_of_kind {loanId : ℕ} {t t' : PaymentTransaction} (h : t'.kind = t.kind) :
    t'.pays loanId = t.pays loanId := by
  simp only [PaymentTransaction.kind, Prod.mk.injEq] at h
  simp [PaymentTransaction.pays, h]

/-- A change that gives a transaction a status and leaves it the same transaction. -/
def SetsStatus (status : TransactionStatus) (f : PaymentTransaction → PaymentTransaction) : Prop :=
  ∀ t, (f t).kind = t.kind ∧ (f t).status = status

/-- What a result says. -/
def payoutOutcome (resultCode : String) : TransactionStatus :=
  if resultCode = "0" then .success else .failed

/-- Where an outcome leaves the loan that waited for it. -/
def loanOutcome (resultCode : String) : LoanStatus :=
  if resultCode = "0" then .active else .approved

/-- The intent of a payout takes an approved loan. -/
theorem beginDisbursement_eq_ok {db : Db} {tenantId loanId actorUserId : ℕ} {now : ℤ} {out : Db × ℕ}
    (h : beginDisbursement db tenantId loanId actorUserId now = .ok out) :
    ∃ loan taken intent, db.loans[loanId]? = some loan ∧ loan.tenantId = tenantId ∧
      loan.status = .approved ∧ out.1.loans[loanId]? = some taken ∧ taken.status = .processing ∧
      taken.tenantId = loan.tenantId ∧ (∀ id, loanId ≠ id → out.1.loans[id]? = db.loans[id]?) ∧
      out.1.transactions = db.transactions ++ [intent] ∧ out.2 = db.transactions.length ∧
      intent.kind = (tenantId, .b2c, some loanId) ∧ intent.status = .initiated := by
  simp only [beginDisbursement] at h
  split at h
  · cases h
  split at h
  · cases h
  rename_i loan hloan
  split at h
  · cases h
  rename_i happroved
  simp only [Bool.or_eq_true, decide_eq_true_eq, not_or, not_not] at happroved
  split at h
  · rename_i product borrower hproduct hborrower
    split at h
    · cases h
    · cases h
      let taken : Loan := { loan with
        status := .processing
        pricingSnapshot := some (loanSnapshot loan product)
        disbursedByUserId := some actorUserId }
      refine ⟨loan, taken, _, hloan, happroved.1, happroved.2, ?_, rfl, rfl, fun id hid => ?_, rfl,
        rfl, rfl, rfl⟩
      · simp only [updateLoan, List.getElem?_modify_eq, hloan]
        rfl
      · exact List.getElem?_modify_ne _ _ hid
  · cases h

/-- The answer to a call is saved over whatever the transaction has become. A refusal puts
the loan back, any other answer leaves it waiting. -/
theorem finishDisbursement_eq_ok {db saved : Db} {tenantId loanId txnId : ℕ} {sent : SendResult}
    (h : (finishDisbursement db tenantId loanId txnId sent).1 = .ok saved) :
    ∃ status f, saved.transactions = db.transactions.modify txnId f ∧ SetsStatus status f ∧
      ((status = .failed ∧ saved.loans = (revertLoan db tenantId loanId).loans) ∨
        (status.openPayout = true ∧ saved.loans = db.loans)) := by
  cases sent with
  | refused why =>
    obtain ⟨-, rfl⟩ := Db.commit_eq_ok.mp h
    exact ⟨.failed, _, rfl, fun t => ⟨rfl, rfl⟩, .inl ⟨rfl, rfl⟩⟩
  | uncertain why =>
    obtain ⟨-, rfl⟩ := Db.commit_eq_ok.mp h
    exact ⟨.uncertain, _, rfl, fun t => ⟨rfl, rfl⟩, .inr ⟨rfl, rfl⟩⟩
  | accepted ack =>
    obtain ⟨-, rfl⟩ := Db.commit_eq_ok.mp h
    exact ⟨.processing, _, rfl, fun t => ⟨rfl, rfl⟩, .inr ⟨rfl, rfl⟩⟩

theorem openPayout_of_settleable {s : TransactionStatus} (h : s.settleable = true) :
    s.openPayout = true := by
  cases s <;> simp [TransactionStatus.settleable] at h <;> rfl

/-- A result settles the transaction, and takes a loan that waited for it along. -/
theorem settlePayout_eq_ok {db : Db} {tenantId txnId : ℕ} {txn : PaymentTransaction}
    {held : Option (ℕ × Loan)} {resultCode : String} {receipt : Option String} {now : ℤ}
    {out : Db × ResultReply}
    (h : settlePayout db tenantId txnId txn held resultCode receipt now = .ok out) :
    (txn.status.settleable = false ∧ out.1 = db) ∨
    (txn.status.settleable = true ∧ ∃ f, out.1.transactions = db.transactions.modify txnId f ∧
      SetsStatus (payoutOutcome resultCode) f ∧
      ((∃ loanId loan settled, out.1.loans =
        db.loans.modify loanId (fun row => row.flush loan settled) ∧
          held = some (loanId, loan) ∧ loan.status = .processing ∧
          settled.status = loanOutcome resultCode ∧ settled.tenantId = loan.tenantId) ∨
        ((∀ loanId loan, held = some (loanId, loan) → loan.status ≠ .processing) ∧
          out.1.loans = db.loans))) := by
  simp only [settlePayout] at h
  by_cases hsettleable : txn.status.settleable = true
  swap
  · rw [Bool.not_eq_true] at hsettleable
    simp only [hsettleable, Bool.not_false, if_true] at h
    cases h
    exact .inl ⟨hsettleable, rfl⟩
  refine .inr ⟨hsettleable, ?_⟩
  simp only [hsettleable, Bool.not_true, Bool.false_eq_true, if_false] at h
  simp only [payoutOutcome, loanOutcome]
  by_cases hcode : resultCode = "0"
  · simp only [hcode, if_true] at h ⊢
    split at h
    · rename_i loanId loan
      split at h
      · rename_i hprocessing
        split at h
        · cases h
          exact ⟨_, rfl, fun t => ⟨rfl, rfl⟩,
            .inl ⟨loanId, loan, _, rfl, rfl, hprocessing, rfl, rfl⟩⟩
        · cases h
      · rename_i hprocessing
        cases h
        refine ⟨_, rfl, fun t => ⟨rfl, rfl⟩, .inr ⟨fun id l hl => ?_, rfl⟩⟩
        obtain ⟨-, rfl⟩ := Prod.mk.inj (Option.some.inj hl)
        exact hprocessing
    · cases h
      exact ⟨_, rfl, fun t => ⟨rfl, rfl⟩, .inr ⟨fun id l hl => by simp at hl, rfl⟩⟩
  · simp only [hcode, if_false] at h ⊢
    split at h
    · rename_i loanId loan
      split at h
      · rename_i hprocessing
        cases h
        exact ⟨_, rfl, fun t => ⟨rfl, rfl⟩, .inl ⟨loanId, loan, _, rfl, rfl, hprocessing, rfl, rfl⟩⟩
      · rename_i hprocessing
        cases h
        refine ⟨_, rfl, fun t => ⟨rfl, rfl⟩, .inr ⟨fun id l hl => ?_, rfl⟩⟩
        obtain ⟨-, rfl⟩ := Prod.mk.inj (Option.some.inj hl)
        exact hprocessing
    · cases h
      exact ⟨_, rfl, fun t => ⟨rfl, rfl⟩, .inr ⟨fun id l hl => by simp at hl, rfl⟩⟩

/-- The result of a refund leaves the loans alone. -/
theorem applyRefundResult_transactions (db : Db) (tenantId txnId : ℕ) (txn : PaymentTransaction)
    (resultCode : String) (receipt : Option String) (now : ℤ) :
    (applyRefundResult db tenantId txnId txn resultCode receipt now).1.loans = db.loans ∧
    ((txn.status.settleable = false ∧
        (applyRefundResult db tenantId txnId txn resultCode receipt now).1 = db) ∨
      (txn.status.settleable = true ∧ ∃ f,
        (applyRefundResult db tenantId txnId txn resultCode receipt now).1.transactions =
          db.transactions.modify txnId f ∧ SetsStatus (payoutOutcome resultCode) f)) := by
  simp only [applyRefundResult, payoutOutcome]
  by_cases hsettleable : txn.status.settleable = true
  · by_cases hcode : resultCode = "0"
    · simp only [hsettleable, hcode, Bool.not_true, Bool.false_eq_true, if_false, if_true]
      cases txn.rawPayload.suspenseId
      · exact ⟨rfl, .inr ⟨trivial, _, rfl, fun t => ⟨rfl, rfl⟩⟩⟩
      · exact ⟨rfl, .inr ⟨trivial, _, rfl, fun t => ⟨rfl, rfl⟩⟩⟩
    · simp only [hsettleable, hcode, Bool.not_true, Bool.false_eq_true, if_false,
        reopenRefundSource]
      cases txn.rawPayload.suspenseId
      · exact ⟨rfl, .inr ⟨trivial, _, rfl, fun t => ⟨rfl, rfl⟩⟩⟩
      · exact ⟨rfl, .inr ⟨trivial, _, rfl, fun t => ⟨rfl, rfl⟩⟩⟩
  · simp [hsettleable]

/-- A callback finds a payout or a refund. -/
theorem findB2cTxn_eq_some {db : Db} {conversationId originatorId : Option String} {txnId : ℕ}
    {txn : PaymentTransaction} (h : findB2cTxn db conversationId originatorId = some (txnId, txn)) :
    db.transactions[txnId]? = some txn ∧ (txn.type = .b2c ∨ txn.type = .refund) := by
  have hpayouts : ∀ x ∈ db.transactions.zipIdx.filter
      (fun x => x.1.type = .b2c || x.1.type = .refund),
      db.transactions[x.2]? = some x.1 ∧ (x.1.type = .b2c ∨ x.1.type = .refund) := by
    intro x hx
    obtain ⟨hmem, htype⟩ := List.mem_filter.mp hx
    exact ⟨List.mem_zipIdx_iff_getElem?.mp hmem, by simpa using htype⟩
  simp only [findB2cTxn, Option.map_eq_some_iff] at h
  obtain ⟨x, hx, hpair⟩ := h
  obtain ⟨rfl, rfl⟩ := Prod.mk.inj hpair
  rw [Option.orElse_eq_orElse, Option.orElse_eq_or, Option.or_eq_some_iff] at hx
  obtain hx | ⟨-, hx⟩ := hx
  · obtain ⟨c, -, hfound⟩ := Option.bind_eq_some_iff.mp hx
    exact hpayouts x (List.mem_of_find?_eq_some hfound)
  · obtain ⟨o, -, hfound⟩ := Option.bind_eq_some_iff.mp hx
    exact hpayouts x (List.mem_of_find?_eq_some hfound)

/-- A timeout notice marks a payout that Safaricom has, and nothing else. -/
theorem markB2cTimeout_cases (db : Db) (txnId : ℕ) (txn : PaymentTransaction) :
    (markB2cTimeout db txnId txn).1 = db ∨ (txn.status = .processing ∧
      ∃ f, (markB2cTimeout db txnId txn).1 =
        { db with transactions := db.transactions.modify txnId f } ∧ SetsStatus .timedOut f) := by
  simp only [markB2cTimeout]
  split_ifs with h
  · exact .inl rfl
  · exact .inr ⟨not_not.mp h, _, rfl, fun t => ⟨rfl, rfl⟩⟩

/-- A person speaks of an unconfirmed payout only, and it goes into the path of a callback
as one that can be settled. -/
theorem payoutResolution_eq_ok {txn : PaymentTransaction} {outcome note : String}
    {receipt : Option String} {said : PaymentTransaction × String × Option String}
    (h : payoutResolution txn outcome receipt note = .ok said) :
    txn.status.openPayout = true ∧ said.1.kind = txn.kind ∧ said.1.rawPayload = txn.rawPayload ∧
      said.1.status.settleable = true := by
  simp only [payoutResolution] at h
  by_cases hopen : txn.status.openPayout = true
  swap
  · simp [hopen] at h
  refine ⟨hopen, ?_⟩
  simp only [hopen, Bool.not_true, Bool.false_eq_true, if_false] at h
  split at h
  · cases h
  split at h
  · cases h
  split at h
  · cases h
  cases h
  refine ⟨?_, ?_, ?_⟩
  · split_ifs <;> rfl
  · split_ifs <;> rfl
  · cases hstatus : txn.status <;> simp [hstatus, TransactionStatus.settleable] <;>
      simp [hstatus, TransactionStatus.openPayout] at hopen

theorem payoutToResolve_eq_ok {db : Db} {tenantId txnId : ℕ} {checker : Checker}
    {txn : PaymentTransaction} (h : payoutToResolve db tenantId txnId checker = .ok txn) :
    db.transactions[txnId]? = some txn ∧ txn.tenantId = tenantId ∧
      (txn.type = .b2c ∨ txn.type = .refund) := by
  simp only [payoutToResolve] at h
  split at h
  · cases h
  rename_i found hfound
  simp only [Option.filter_eq_some_iff, Bool.and_eq_true, Bool.or_eq_true,
    decide_eq_true_eq] at hfound
  generalize (if found.type = .b2c then "disburse.approve" else "refund.approve") = need at h
  split at h
  · cases h
  split at h
  · cases h
  cases h
  exact ⟨hfound.1, hfound.2.1, hfound.2.2⟩

/-- A resolution settles the row it is about the way a result does. -/
theorem resolvePayoutRequest_eq_ok {db saved : Db} {tenantId txnId : ℕ} {checker : Checker}
    {outcome note : String} {receipt : Option String} {now : ℤ}
    (h : resolvePayoutRequest db tenantId txnId checker outcome receipt note now = .ok saved) :
    ∃ txn said reply, db.transactions[txnId]? = some txn ∧ txn.tenantId = tenantId ∧
      (txn.type = .b2c ∨ txn.type = .refund) ∧
      payoutResolution txn outcome receipt note = .ok said ∧
      applyB2cResult db tenantId txnId said.1 said.2.1 said.2.2 now = .ok (saved, reply) := by
  obtain ⟨txn, htxn, h⟩ := bind_eq_ok.mp h
  obtain ⟨out, hout, hcommit⟩ := bind_eq_ok.mp h
  obtain ⟨said, hsaid, happlied⟩ := bind_eq_ok.mp hout
  obtain ⟨-, rfl⟩ := Db.commit_eq_ok.mp hcommit
  obtain ⟨hrow, htenant, htype⟩ := payoutToResolve_eq_ok htxn
  exact ⟨txn, said, out.2, hrow, htenant, htype, hsaid, happlied⟩

/-- The book before its loan is disbursed. -/
def approvedBook : Db :=
  { fourWeekBook with
    loans := [{ fourWeekLoan with
      status := .approved
      disbursementDate := none
      dueDate := none
      outstandingBalance := 0
      activeLock := false }]
    lockLogs := [] }

/-- Safaricom takes a request in. -/
def acknowledged (conversationId : String) : B2cReply :=
  .answered ⟨some "0", none, some conversationId, none, some ("O-" ++ conversationId), false⟩

/-- The result of a request. -/
def resultOf (conversationId resultCode receipt : String) : ResultBody :=
  ⟨some conversationId, some ("O-" ++ conversationId), resultCode, some receipt⟩

end FinylDcp
