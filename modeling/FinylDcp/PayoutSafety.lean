import FinylDcp.OverdueJobs
import FinylDcp.PaymentEffects
import FinylDcp.PayoutEffects
import FinylDcp.Runs
import FinylDcp.Tables

/-!
# One payout for a loan

The status of a loan and the statuses of its payout transactions are two machines that
the steps of money moving out keep together: no unconfirmed payout and no settled one
until the loan is taken, one unconfirmed while it waits, one settled once it is active.
The answer to a call is saved without a look at the transaction, so it must find the
intent as it was left.
-/
namespace FinylDcp
open Db Runs Tables

/-- A call to Safaricom whose answer is not saved yet. -/
structure PayoutCall where
  tenantId : ℕ
  loanId : ℕ
  txnId : ℕ
  deriving DecidableEq, Repr

/-- The committed database, and the calls under way. -/
structure PayoutDesk where
  db : Db
  calls : List PayoutCall

/-- What happens at the desk: a payout is started, its call is answered or the process
stops before, Safaricom sends a result or a timeout notice, a person resolves a payout;
and loans are repaid and swept. -/
inductive PayoutEvent
  | disburse (tenantId loanId actorUserId : ℕ) (now : ℤ)
  | answer (txnId : ℕ) (reply : B2cReply)
  | stop (txnId : ℕ)
  | result (body : ResultBody) (now : ℤ)
  | timeout (body : ResultBody)
  | resolve (tenantId txnId : ℕ) (checker : Checker) (outcome : String) (receipt : Option String)
      (note : String) (now : ℤ)
  | repay (loanId : ℕ) (p : Payment)
  | upkeep (u : Upkeep)

namespace PayoutDesk

/-- What a request commits, if it does. -/
def saved (s : PayoutDesk) : Except Failure Db → PayoutDesk
  | .ok db => { s with db := db }
  | .error _ => s

/-- The call of a transaction is over. -/
def hangUp (s : PayoutDesk) (txnId : ℕ) : PayoutDesk :=
  { s with calls := s.calls.filter (fun call => call.txnId ≠ txnId) }

def step (s : PayoutDesk) : PayoutEvent → PayoutDesk
  | .disburse tenantId loanId actorUserId now =>
    match beginDisbursement s.db tenantId loanId actorUserId now with
    | .error _ => s
    | .ok out =>
      match out.1.commit with
      | .error _ => s
      | .ok db => ⟨db, s.calls ++ [⟨tenantId, loanId, out.2⟩]⟩
  | .answer txnId reply =>
    match s.calls.find? (fun call => call.txnId = txnId) with
    | none => s
    | some call =>
      (s.saved (finishDisbursement s.db call.tenantId call.loanId txnId
        (sendB2c reply)).1).hangUp txnId
  | .stop txnId => s.hangUp txnId
  | .result body now => s.saved (processB2cResult s.db body now)
  | .timeout body => s.saved (processB2cTimeout s.db body)
  | .resolve tenantId txnId checker outcome receipt note now =>
    s.saved (resolvePayoutRequest s.db tenantId txnId checker outcome receipt note now)
  | .repay loanId p => { s with db := receivePayment s.db loanId p }
  | .upkeep u => { s with db := u.apply s.db }

end PayoutDesk

/-- A loan whose money has gone out. -/
def LoanStatus.disbursed : LoanStatus → Bool
  | active | paid | overdue | defaulted => true
  | _ => false

/-- The payouts of a loan in some statuses. -/
def payouts (db : Db) (loanId : ℕ) (p : TransactionStatus → Bool) : ℕ :=
  (db.transactions.filter (fun t => t.pays loanId && p t.status)).length

/-- A loan is paid out once: at most one payout is unconfirmed or settled, the loan waits
exactly while one is unconfirmed, and one that has its money has one settled payout and
takes no other. -/
structure PaidOutOnce (loanId : ℕ) (db : Db) : Prop where
  single : payouts db loanId (fun s => s.openPayout || s = .success) ≤ 1
  waiting : ∀ loan ∈ db.loans[loanId]?,
    loan.status = .processing ↔ payouts db loanId (·.openPayout) = 1
  once : ∀ loan ∈ db.loans[loanId]?, loan.status.disbursed = true →
    payouts db loanId (· = .success) = 1
  refused : ∀ loan ∈ db.loans[loanId]?, loan.status.disbursed = true →
    ∀ tenantId actorUserId now, ∃ failure,
      beginDisbursement db tenantId loanId actorUserId now = .error failure

/-- The answer of a call of the loan finds the intent as it was left. -/
def AnswersIntent (loanId : ℕ) (s : PayoutDesk) : PayoutEvent → Prop
  | .answer txnId _ => ∀ call ∈ s.calls, call.txnId = txnId → call.loanId = loanId →
      ∀ row ∈ s.db.transactions[txnId]?, row.status = .initiated
  | _ => True

instance (loanId : ℕ) (s : PayoutDesk) (e : PayoutEvent) :
    Decidable (AnswersIntent loanId s e) := by
  unfold AnswersIntent
  split <;> infer_instance

/-- A loan nothing was paid out on. -/
def NotPaidOut (loanId : ℕ) (db : Db) : Prop :=
  (∃ loan ∈ db.loans[loanId]?, loan.status ≠ .processing ∧ loan.status.disbursed = false) ∧
    ∀ t ∈ db.transactions, t.pays loanId = true → t.status = .failed

instance (loanId : ℕ) (db : Db) : Decidable (NotPaidOut loanId db) := by
  unfold NotPaidOut
  infer_instance

/-- The unconfirmed and the settled payouts of a loan of a status. -/
def LoanStatus.payouts : LoanStatus → ℕ × ℕ
  | processing => (1, 0)
  | active | paid | overdue | defaulted => (0, 1)
  | _ => (0, 0)

/-- A loan has the payouts of its status, and they are its tenant's. -/
structure Agrees (loanId : ℕ) (db : Db) (loan : Loan) : Prop where
  row : db.loans[loanId]? = some loan
  counts : (payouts db loanId (·.openPayout), payouts db loanId (· = .success)) =
    loan.status.payouts
  tenant : ∀ t ∈ db.transactions, t.pays loanId = true → t.status ≠ .failed →
    t.tenantId = loan.tenantId

/-- No payout is unconfirmed and settled at once. -/
theorem payouts_live (db : Db) (loanId : ℕ) :
    payouts db loanId (fun s => s.openPayout || s = .success) =
      payouts db loanId (·.openPayout) + payouts db loanId (· = .success) := by
  simp only [payouts, Bool.and_or_distrib_left]
  refine length_filter_or (fun t hopen => ?_) db.transactions
  cases hstatus : t.status <;> simp [hstatus, TransactionStatus.openPayout] at hopen ⊢

theorem LoanStatus.processing_iff (s : LoanStatus) : s = .processing ↔ s.payouts = (1, 0) := by
  cases s <;> simp [payouts]

theorem Agrees.paidOutOnce {loanId : ℕ} {db : Db} {loan : Loan} (h : Agrees loanId db loan) :
    PaidOutOnce loanId db := by
  have hloan : ∀ l ∈ db.loans[loanId]?, l = loan :=
    fun l hl => Option.some.inj (hl.symm.trans h.row)
  have hcounts := h.counts
  refine ⟨?_, fun l hl => ?_, fun l hl hdisbursed => ?_,
    fun l hl hdisbursed tenantId actor now => ?_⟩
  · rw [payouts_live]
    cases hstatus : loan.status <;> simp [hstatus, LoanStatus.payouts] at hcounts <;> omega
  · obtain rfl := hloan l hl
    rw [LoanStatus.processing_iff, ← hcounts, Prod.mk.injEq, and_iff_left_iff_imp]
    intro hopen
    rw [hopen] at hcounts
    cases hstatus : l.status <;> simp [hstatus, LoanStatus.payouts] at hcounts
    exact hcounts
  · obtain rfl := hloan l hl
    cases hstatus : l.status <;> simp [hstatus, LoanStatus.disbursed] at hdisbursed <;>
      simpa [hstatus, LoanStatus.payouts] using congrArg Prod.snd hcounts
  · obtain rfl := hloan l hl
    cases hbegin : beginDisbursement db tenantId loanId actor now with
    | error failure => exact ⟨failure, rfl⟩
    | ok out =>
      obtain ⟨loan', -, -, hrow', -, hstatus, -⟩ := beginDisbursement_eq_ok hbegin
      obtain rfl := hloan loan' hrow'
      rw [hstatus] at hdisbursed
      cases hdisbursed

/-- Transactions stay, and stay what they were. -/
def RowsStay (db db' : Db) : Prop :=
  ∀ (i : ℕ) (row : PaymentTransaction), db.transactions[i]? = some row →
    ∃ row' ∈ db'.transactions[i]?, row'.kind = row.kind

theorem RowsStay.refl (db : Db) : RowsStay db db := fun _ row hrow => ⟨row, hrow, rfl⟩

theorem rowsStay_modify {db db' : Db} {txnId : ℕ} {status : TransactionStatus}
    {f : PaymentTransaction → PaymentTransaction} (hset : SetsStatus status f)
    (htxns : db'.transactions = db.transactions.modify txnId f) : RowsStay db db' := by
  intro i row hrow
  rw [htxns, List.getElem?_modify, hrow]
  by_cases hi : txnId = i
  · exact ⟨f row, by simp [hi], (hset row).1⟩
  · exact ⟨row, by simp [hi], rfl⟩

section Mark

variable {loanId txnId : ℕ} {db db' : Db} {loan loan' : Loan} {row : PaymentTransaction}
  {status : TransactionStatus} {f : PaymentTransaction → PaymentTransaction}

/-- Marking a transaction moves it from the count of its status to that of the new one. -/
theorem payouts_mark (loanId : ℕ) (p : TransactionStatus → Bool)
    (hrow : db.transactions[txnId]? = some row)
    (htxns : db'.transactions = db.transactions.modify txnId f) (hset : SetsStatus status f) :
    payouts db' loanId p + (if row.pays loanId && p row.status then 1 else 0) =
      payouts db loanId p + (if row.pays loanId && p status then 1 else 0) := by
  obtain ⟨hkind, hstatus⟩ := hset row
  have hcount := length_filter_modify (fun t => t.pays loanId && p t.status) f hrow
  rw [hstatus, pays_of_kind hkind, ← htxns] at hcount
  exact hcount

/-- The payouts stay the tenant's when a live one is marked. -/
theorem Agrees.tenant_mark (h : Agrees loanId db loan) (hrow : db.transactions[txnId]? = some row)
    (htxns : db'.transactions = db.transactions.modify txnId f) (hset : SetsStatus status f)
    (hlive : row.pays loanId = true → row.status ≠ .failed)
    (htenant : loan'.tenantId = loan.tenantId) :
    ∀ t ∈ db'.transactions, t.pays loanId = true → t.status ≠ .failed →
      t.tenantId = loan'.tenantId := by
  intro t ht hpays hfailed
  obtain ⟨i, hi⟩ := List.mem_iff_getElem?.mp ht
  rw [htxns, List.getElem?_modify, Option.map_eq_map, Option.map_eq_some_iff] at hi
  obtain ⟨old, hold, rfl⟩ := hi
  rw [htenant]
  split_ifs at hpays hfailed ⊢ with hsame
  · obtain rfl := hsame
    obtain rfl := Option.some.inj (hold.symm.trans hrow)
    have hkind := (hset old).1
    rw [pays_of_kind hkind] at hpays
    have := h.tenant old (List.mem_of_getElem? hold) hpays (hlive hpays)
    simp only [PaymentTransaction.kind, Prod.mk.injEq] at hkind
    rw [hkind.1, this]
  · exact h.tenant old (List.mem_of_getElem? hold) hpays hfailed

/-- Marking a transaction that pays another loan, or none. -/
theorem Agrees.mark_other (h : Agrees loanId db loan) (hrow : db.transactions[txnId]? = some row)
    (hother : row.pays loanId = false) (htxns : db'.transactions = db.transactions.modify txnId f)
    (hset : SetsStatus status f) (hloan : db'.loans[loanId]? = db.loans[loanId]?) :
    Agrees loanId db' loan := by
  have hcount : ∀ p, payouts db' loanId p = payouts db loanId p := by
    intro p
    have hmark := payouts_mark loanId p hrow htxns hset
    simpa [hother] using hmark
  exact ⟨hloan.trans h.row, by rw [hcount, hcount, h.counts],
    h.tenant_mark hrow htxns hset (by simp [hother]) rfl⟩

/-- An unconfirmed payout of a loan is the only one, and the loan waits for it. -/
theorem Agrees.processing (h : Agrees loanId db loan) (hrow : db.transactions[txnId]? = some row)
    (hpays : row.pays loanId = true) (hopen : row.status.openPayout = true) :
    loan.status = .processing ∧ row.tenantId = loan.tenantId := by
  have hpos : 0 < payouts db loanId (·.openPayout) :=
    List.length_pos_of_mem (List.mem_filter.mpr
      ⟨List.mem_of_getElem? hrow, by simp [hpays, hopen]⟩)
  refine ⟨?_, h.tenant row (List.mem_of_getElem? hrow) hpays fun hfailed => by
    simp [hfailed, TransactionStatus.openPayout] at hopen⟩
  have hcounts := congrArg Prod.fst h.counts
  cases hstatus : loan.status <;> simp [hstatus, LoanStatus.payouts] at hcounts ⊢ <;> omega

/-- Marking the unconfirmed payout of a loan. -/
theorem Agrees.mark_own (h : Agrees loanId db loan) (hrow : db.transactions[txnId]? = some row)
    (hpays : row.pays loanId = true) (hopen : row.status.openPayout = true)
    (htxns : db'.transactions = db.transactions.modify txnId f) (hset : SetsStatus status f)
    (hrow' : db'.loans[loanId]? = some loan') (htenant : loan'.tenantId = loan.tenantId)
    (hstatus : loan'.status.payouts =
      (if status.openPayout then 1 else 0, if status = .success then 1 else 0)) :
    Agrees loanId db' loan' := by
  obtain ⟨hprocessing, -⟩ := h.processing hrow hpays hopen
  have hcounts := h.counts
  simp only [hprocessing, LoanStatus.payouts, Prod.mk.injEq] at hcounts
  have hunsettled : (row.status = .success) = False := by
    rw [eq_iff_iff, iff_false]
    intro hsuccess
    simp [hsuccess, TransactionStatus.openPayout] at hopen
  have hopened := payouts_mark loanId (·.openPayout) hrow htxns hset
  have hsettled := payouts_mark loanId (· = .success) hrow htxns hset
  simp only [hpays, hopen, hcounts, hunsettled, Bool.true_and, if_true, decide_false,
    Bool.false_eq_true, if_false, decide_eq_true_eq] at hopened hsettled
  refine ⟨hrow', ?_, h.tenant_mark hrow htxns hset (fun _ hfailed => ?_) htenant⟩
  · rw [hstatus, Prod.mk.injEq]
    omega
  · simp [hfailed, TransactionStatus.openPayout] at hopen

end Mark

section Steps

variable {loanId : ℕ} {db db' : Db} {loan : Loan}

/-- A result, or a person's decision, on a payout or refund. Only an unconfirmed one is
settled. -/
theorem Agrees.settle {txnId : ℕ} {txn row : PaymentTransaction} {resultCode : String}
    {receipt : Option String} {now : ℤ} {out : Db × ResultReply} (h : Agrees loanId db loan)
    (hrow : db.transactions[txnId]? = some row) (hkind : txn.kind = row.kind)
    (hopen : txn.status.settleable = true → row.status.openPayout = true)
    (htype : row.type = .b2c ∨ row.type = .refund)
    (hout : applyB2cResult db row.tenantId txnId txn resultCode receipt now = .ok out) :
    (∃ loan', Agrees loanId out.1 loan') ∧ RowsStay db out.1 := by
  simp only [PaymentTransaction.kind, Prod.mk.injEq] at hkind
  obtain ⟨htenant, htypes, hloans⟩ := hkind
  simp only [applyB2cResult] at hout
  split at hout
  · rename_i hrefund
    cases hout
    have hother : row.pays loanId = false := by
      simp [PaymentTransaction.pays, ← htypes, hrefund]
    obtain ⟨hloansSame, ⟨-, hsame⟩ | ⟨-, f, htxns, hset⟩⟩ :=
      applyRefundResult_transactions db row.tenantId txnId txn resultCode receipt now
    · rw [hsame]
      exact ⟨⟨loan, h⟩, .refl db⟩
    · exact ⟨⟨loan, h.mark_other hrow hother htxns hset (by rw [hloansSame])⟩,
        rowsStay_modify hset htxns⟩
  obtain ⟨-, hsame⟩ | ⟨hsettleable, f, htxns, hset, hmoved⟩ := settlePayout_eq_ok hout
  · rw [hsame]
    exact ⟨⟨loan, h⟩, .refl db⟩
  have hopen := hopen hsettleable
  refine ⟨?_, rowsStay_modify hset htxns⟩
  by_cases hpays : row.pays loanId = true
  · obtain ⟨hprocessing, hrowTenant⟩ := h.processing hrow hpays hopen
    simp only [PaymentTransaction.pays, Bool.and_eq_true, decide_eq_true_eq] at hpays
    have hheld : loanOf db row.tenantId txn = some (loanId, loan) := by
      simp [loanOf, hloans, hpays.2, h.row, hrowTenant]
    rw [hheld] at hmoved
    obtain ⟨id, l, settled, hloansNew, hl, -, hstatus, hsettled⟩ | ⟨hnone, -⟩ := hmoved
    · obtain ⟨rfl, rfl⟩ := Prod.mk.inj (Option.some.inj hl)
      refine ⟨settled,
        h.mark_own hrow (by simp [PaymentTransaction.pays, hpays]) hopen htxns hset ?_
        hsettled ?_⟩
      · simp [hloansNew, h.row]
      · rw [hstatus]
        unfold loanOutcome payoutOutcome
        split_ifs <;> simp [LoanStatus.payouts, TransactionStatus.openPayout] at *
    · exact absurd hprocessing (hnone loanId loan rfl)
  · have hother : row.pays loanId = false := by simpa using hpays
    refine ⟨loan, h.mark_other hrow hother htxns hset ?_⟩
    obtain ⟨id, l, settled, hloansNew, hl, -⟩ | ⟨-, hloansNew⟩ := hmoved
    · rw [hloansNew, List.getElem?_modify_ne]
      rintro rfl
      obtain ⟨hid, -⟩ := loanOf_eq_some hl
      have hb2c : row.type = .b2c := htype.resolve_right (by rwa [← htypes])
      simp [PaymentTransaction.pays, hb2c, ← hloans, hid] at hother
    · rw [hloansNew]

/-- A timeout notice leaves the payout unconfirmed. -/
theorem Agrees.timeout {txnId : ℕ} {row : PaymentTransaction} (h : Agrees loanId db loan)
    (hrow : db.transactions[txnId]? = some row) :
    Agrees loanId (markB2cTimeout db txnId row).1 loan ∧
      RowsStay db (markB2cTimeout db txnId row).1 := by
  obtain hsame | ⟨hprocessing, f, hmarked, hset⟩ := markB2cTimeout_cases db txnId row
  · rw [hsame]
    exact ⟨h, .refl db⟩
  rw [hmarked]
  refine ⟨?_, rowsStay_modify hset rfl⟩
  have hopen : row.status.openPayout = true := by rw [hprocessing]; rfl
  by_cases hpays : row.pays loanId = true
  · obtain ⟨hwaits, -⟩ := h.processing hrow hpays hopen
    exact h.mark_own hrow hpays hopen rfl hset h.row rfl (by simp [hwaits, LoanStatus.payouts,
      TransactionStatus.openPayout])
  · exact h.mark_other hrow (by simpa using hpays) rfl hset rfl

/-- The answer to a call is saved over the intent it was made for. -/
theorem Agrees.answer {call : PayoutCall} {row : PaymentTransaction} {sent : SendResult}
    (h : Agrees loanId db loan) (hrow : db.transactions[call.txnId]? = some row)
    (hkind : row.kind = (call.tenantId, .b2c, some call.loanId))
    (hintent : call.loanId = loanId → row.status = .initiated)
    (hout : (finishDisbursement db call.tenantId call.loanId call.txnId sent).1 = .ok db') :
    (∃ loan', Agrees loanId db' loan') ∧ RowsStay db db' := by
  obtain ⟨status, f, htxns, hset, hloans⟩ := finishDisbursement_eq_ok hout
  refine ⟨?_, rowsStay_modify hset htxns⟩
  simp only [PaymentTransaction.kind, Prod.mk.injEq] at hkind
  obtain ⟨htenant, htype, hloan⟩ := hkind
  by_cases hown : call.loanId = loanId
  · have hpays : row.pays loanId = true := by simp [PaymentTransaction.pays, htype, hloan, hown]
    have hopen : row.status.openPayout = true := by rw [hintent hown]; rfl
    obtain ⟨hwaits, hrowTenant⟩ := h.processing hrow hpays hopen
    obtain ⟨rfl, hloans⟩ | ⟨hopen', hloans⟩ := hloans
    · refine ⟨{ loan with status := .approved },
        h.mark_own hrow hpays hopen htxns hset ?_ rfl (by simp [LoanStatus.payouts,
          TransactionStatus.openPayout])⟩
      simp [hloans, revertLoan, updateLoan, hown, h.row, hwaits, ← htenant, hrowTenant]
    · have hsettled : status ≠ .success := by
        rintro rfl
        simp [TransactionStatus.openPayout] at hopen'
      exact ⟨loan, h.mark_own hrow hpays hopen htxns hset (by rw [hloans, h.row]) rfl
        (by simp [hwaits, LoanStatus.payouts, hopen', hsettled])⟩
  · have hother : row.pays loanId = false := by simp [PaymentTransaction.pays, hloan, hown]
    refine ⟨loan, h.mark_other hrow hother htxns hset ?_⟩
    obtain ⟨-, hloans⟩ | ⟨-, hloans⟩ := hloans
    · rw [hloans, revertLoan, updateLoan, List.getElem?_modify_ne _ _ hown]
    · rw [hloans]

/-- A new intent is the only payout of its loan. -/
theorem Agrees.disburse {tenantId id actorUserId : ℕ} {now : ℤ} {out : Db × ℕ}
    (h : Agrees loanId db loan)
    (hout : beginDisbursement db tenantId id actorUserId now = .ok out) :
    (∃ loan', Agrees loanId out.1 loan') ∧ RowsStay db out.1 ∧
      ∃ row ∈ out.1.transactions[out.2]?, row.kind = (tenantId, .b2c, some id) := by
  obtain ⟨l, taken, intent, hl, htenant, happroved, htaken, hprocessing, hsame, hothers, htxns,
    hid, hkind,
    hinitiated⟩ := beginDisbursement_eq_ok hout
  refine ⟨?_, fun i row hrow => ⟨row, ?_, rfl⟩, intent, by simp [htxns, hid], hkind⟩
  swap
  · rw [htxns]
    exact (List.getElem?_append_left (List.getElem?_eq_some_iff.mp hrow).1).trans hrow
  simp only [PaymentTransaction.kind, Prod.mk.injEq] at hkind
  obtain ⟨hintentTenant, hintentType, hintentLoan⟩ := hkind
  have hpays : intent.pays loanId = decide (id = loanId) := by
    simp [PaymentTransaction.pays, hintentType, hintentLoan]
  have hcount : ∀ p, payouts out.1 loanId p =
      payouts db loanId p + (if id = loanId ∧ p .initiated = true then 1 else 0) := by
    intro p
    simp only [payouts, htxns, List.filter_append, List.length_append, List.filter_cons,
      List.filter_nil, hpays, hinitiated, Bool.and_eq_true, decide_eq_true_eq]
    split_ifs <;> rfl
  have htenants : ∀ loan' : Loan, loan'.tenantId = loan.tenantId → (id = loanId → loan = l) →
      ∀ t ∈ out.1.transactions, t.pays loanId = true → t.status ≠ .failed →
        t.tenantId = loan'.tenantId := by
    intro loan' hloan' hl t ht hpaysT hfailed
    rw [htxns] at ht
    obtain hold | hnew := List.mem_append.mp ht
    · rw [hloan', h.tenant t hold hpaysT hfailed]
    · obtain rfl := List.mem_singleton.mp hnew
      rw [hintentTenant, hloan', hl (by simpa [hpays] using hpaysT), htenant]
  by_cases hown : id = loanId
  · subst hown
    obtain rfl := Option.some.inj (hl.symm.trans h.row)
    have hcounts := h.counts
    simp only [happroved, LoanStatus.payouts, Prod.mk.injEq] at hcounts
    refine ⟨taken, htaken, ?_, htenants taken hsame fun _ => rfl⟩
    have hopen : TransactionStatus.initiated.openPayout = true := rfl
    simp [hcount, hcounts, hprocessing, hopen, LoanStatus.payouts]
  · refine ⟨loan, (hothers loanId hown).trans h.row, ?_, htenants loan rfl fun h => absurd h hown⟩
    simp [hcount, hown, h.counts]

/-- A step that leaves the transactions alone and the loan in a status of the same payouts. -/
theorem Agrees.of_loan {loan' : Loan} (h : Agrees loanId db loan)
    (htxns : db'.transactions = db.transactions) (hrow : db'.loans[loanId]? = some loan')
    (hstatus : loan'.status.payouts = loan.status.payouts)
    (htenant : loan'.tenantId = loan.tenantId) :
    (∃ loan', Agrees loanId db' loan') ∧ RowsStay db db' := by
  refine ⟨⟨loan', hrow, ?_, ?_⟩, fun i row hi => ⟨row, by rw [htxns]; exact hi, rfl⟩⟩
  · rw [hstatus, ← h.counts]
    simp only [payouts, htxns]
  · rw [htxns, htenant]
    exact h.tenant

/-- A repayment keeps a loan whose money has gone out among those. -/
theorem Agrees.repay (h : Agrees loanId db loan) (id : ℕ) (p : Payment) :
    (∃ loan', Agrees loanId (receivePayment db id p) loan') ∧
      RowsStay db (receivePayment db id p) := by
  cases hl : db.loans[id]? with
  | none =>
    have hsame : receivePayment db id p = db := by simp [receivePayment, hl]
    rw [hsame]
    exact ⟨⟨loan, h⟩, .refl db⟩
  | some l =>
    obtain ⟨-, hsame⟩ | ⟨-, -, hsame⟩ | ⟨-, hcollectible, logs, borrowers, hsame⟩ :=
      receivePayment_cases (p := p) hl
    · rw [hsame]
      exact ⟨⟨loan, h⟩, .refl db⟩
    · rw [hsame]
      exact h.of_loan rfl h.row rfl rfl
    · rw [hsame]
      by_cases hown : id = loanId
      · subst hown
        obtain rfl := Option.some.inj (hl.symm.trans h.row)
        obtain ⟨status, lock, hsettled⟩ := settled_loan l (divisionOf db id l p) p.paidOn
        have hstatus : (settled l (divisionOf db id l p) p.paidOn).status = .paid ∨
            (settled l (divisionOf db id l p) p.paidOn).status = l.status := by
          unfold settled
          dsimp only
          split_ifs
          · exact .inl rfl
          · exact .inr (by rw [book_eq])
        have hopen : l.status.payouts = (0, 1) := by
          cases hl : l.status <;> simp [hl, LoanStatus.collectible] at hcollectible <;> rfl
        refine h.of_loan rfl (List.getElem?_set_self (List.getElem?_eq_some_iff.mp hl).1) ?_
          (by rw [hsettled])
        obtain hpaid | hsame := hstatus
        · rw [hpaid, hopen]
          rfl
        · rw [hsame]
      · exact h.of_loan rfl (by simp [List.getElem?_set_ne hown, h.row]) rfl rfl

/-- A status of the same payouts, of the same tenant. -/
def Loan.AsPaidOut (loan loan' : Loan) : Prop :=
  loan'.status.payouts = loan.status.payouts ∧ loan'.tenantId = loan.tenantId

theorem accrueOverduePenalty_asPaidOut (product : Option Product) (loan : Loan) :
    loan.AsPaidOut (accrueOverduePenalty product loan).1 := by
  rw [accrueOverduePenalty_loan]
  exact ⟨rfl, rfl⟩

theorem overdueAlert_asPaidOut (products : List Product) (tenantId : ℕ) (today : ℤ) (loan : Loan) :
    loan.AsPaidOut (overdueAlert products tenantId today loan).1 := by
  simp only [overdueAlert]
  split_ifs with hdue
  · simp only [Bool.and_eq_true, decide_eq_true_eq] at hdue
    rw [accrueOverduePenalty_loan]
    exact ⟨by rw [hdue.2]; rfl, rfl⟩
  · exact ⟨rfl, rfl⟩

theorem defaultLoan_asPaidOut (tenantId : ℕ) (cutoff : ℤ) (loan : Loan) :
    loan.AsPaidOut (defaultLoan tenantId cutoff loan) := by
  simp only [defaultLoan]
  split_ifs with hdue
  · simp only [Loan.pastDue, Bool.and_eq_true, Bool.or_eq_true, decide_eq_true_eq] at hdue
    obtain ⟨⟨⟨-, hactive | hoverdue⟩, -⟩, -⟩ := hdue
    · exact ⟨by rw [hactive]; rfl, rfl⟩
    · exact ⟨by rw [hoverdue]; rfl, rfl⟩
  · exact ⟨rfl, rfl⟩

/-- The sweeps move a loan among those whose money has gone out. -/
theorem Agrees.upkeep (h : Agrees loanId db loan) (u : Upkeep) :
    (∃ loan', Agrees loanId (u.apply db) loan') ∧ RowsStay db (u.apply db) := by
  obtain ⟨loans, configs, hdb⟩ := u.apply_db db
  have htxns : (u.apply db).transactions = db.transactions := by rw [hdb]
  have hloan : ∃ loan', (u.apply db).loans[loanId]? = some loan' ∧ loan.AsPaidOut loan' := by
    cases u with
    | settings tenantId order early =>
      refine ⟨loan, ?_, rfl, rfl⟩
      simp only [Upkeep.apply]
      split
      · obtain ⟨configs, rfl⟩ := setPaymentSettings_db ‹_›
        exact h.row
      · exact h.row
    | penalty id =>
      by_cases hown : id = loanId
      · subst hown
        exact ⟨_, by simp only [Upkeep.apply, updateLoan, List.getElem?_modify_eq, h.row]; rfl,
          accrueOverduePenalty_asPaidOut _ loan⟩
      · exact ⟨loan, (List.getElem?_modify_ne _ _ hown).trans h.row, rfl, rfl⟩
    | overdueAlerts tenantId today =>
      exact ⟨_, by simp only [Upkeep.apply, runOverdueAlerts, List.getElem?_map, h.row]; rfl,
        overdueAlert_asPaidOut db.products tenantId today loan⟩
    | defaulting tenantId today graceDays =>
      exact ⟨_, by simp only [Upkeep.apply, runDefaulting, List.getElem?_map, h.row]; rfl,
        defaultLoan_asPaidOut tenantId (today - graceDays) loan⟩
  obtain ⟨loan', hrow, hstatus, htenant⟩ := hloan
  exact h.of_loan htxns hrow hstatus htenant

end Steps

/-- The loan and its payouts agree, and every call under way is for an intent of its loan. -/
structure InOrder (loanId : ℕ) (s : PayoutDesk) : Prop where
  agrees : ∃ loan, Agrees loanId s.db loan
  calls : ∀ call ∈ s.calls, ∃ row ∈ s.db.transactions[call.txnId]?,
    row.kind = (call.tenantId, .b2c, some call.loanId)

theorem InOrder.of_agrees {loanId : ℕ} {s : PayoutDesk} {db : Db} (hs : InOrder loanId s)
    (h : (∃ loan, Agrees loanId db loan) ∧ RowsStay s.db db) :
    InOrder loanId { s with db := db } := by
  refine ⟨h.1, fun call hcall => ?_⟩
  obtain ⟨row, hrow, hkind⟩ := hs.calls call hcall
  obtain ⟨row', hrow', hkind'⟩ := h.2 call.txnId row hrow
  exact ⟨row', hrow', hkind'.trans hkind⟩

theorem InOrder.saved {loanId : ℕ} {s : PayoutDesk} (hs : InOrder loanId s) {x : Except Failure Db}
    (h : ∀ db, x = .ok db → (∃ loan, Agrees loanId db loan) ∧ RowsStay s.db db) :
    InOrder loanId (s.saved x) := by
  cases x with
  | ok db => exact hs.of_agrees (h db rfl)
  | error failure => exact hs

theorem InOrder.hangUp {loanId : ℕ} {s : PayoutDesk} (hs : InOrder loanId s) (txnId : ℕ) :
    InOrder loanId (s.hangUp txnId) :=
  ⟨hs.agrees, fun call hcall => hs.calls call (List.mem_of_mem_filter hcall)⟩

/-- The step lemma: a step keeps a loan and its payouts in agreement, when an answer finds
the intent it was made for. -/
theorem InOrder.step {loanId : ℕ} {s : PayoutDesk} (hs : InOrder loanId s) (e : PayoutEvent)
    (hok : AnswersIntent loanId s e) : InOrder loanId (s.step e) := by
  obtain ⟨loan, h⟩ := hs.agrees
  cases e with
  | disburse tenantId id actorUserId now =>
    simp only [PayoutDesk.step]
    split
    · exact hs
    rename_i out hout
    split
    · exact hs
    rename_i db hcommit
    obtain ⟨-, rfl⟩ := Db.commit_eq_ok.mp hcommit
    obtain ⟨hagrees, hstay, row, hrow, hkind⟩ := h.disburse hout
    refine ⟨hagrees, fun call hcall => ?_⟩
    obtain hold | hnew := List.mem_append.mp hcall
    · exact (hs.of_agrees ⟨hagrees, hstay⟩).calls call hold
    · obtain rfl := List.mem_singleton.mp hnew
      exact ⟨row, hrow, hkind⟩
  | answer txnId reply =>
    simp only [PayoutDesk.step]
    split
    · exact hs
    rename_i call hfound
    have hcall := List.mem_of_find?_eq_some hfound
    obtain rfl : call.txnId = txnId := by simpa using List.find?_some hfound
    obtain ⟨row, hrow, hkind⟩ := hs.calls call hcall
    refine (hs.saved fun db hdb => ?_).hangUp call.txnId
    exact h.answer hrow hkind (fun hown => hok call hcall rfl hown row hrow) hdb
  | stop txnId => exact hs.hangUp txnId
  | result body now =>
    refine hs.saved fun db hdb => ?_
    simp only [processB2cResult] at hdb
    split at hdb
    · cases hdb
    rename_i txnId txn hfound
    obtain ⟨hrow, htype⟩ := findB2cTxn_eq_some hfound
    obtain ⟨out, hout, hcommit⟩ := bind_eq_ok.mp hdb
    obtain ⟨-, rfl⟩ := Db.commit_eq_ok.mp hcommit
    refine h.settle hrow rfl (fun hsettleable => ?_) htype hout
    cases hstatus : txn.status <;> simp [hstatus,
      TransactionStatus.settleable] at hsettleable <;> rfl
  | timeout body =>
    refine hs.saved fun db hdb => ?_
    simp only [processB2cTimeout] at hdb
    split at hdb
    · cases hdb
    rename_i txnId txn hfound
    obtain ⟨hrow, -⟩ := findB2cTxn_eq_some hfound
    obtain ⟨-, rfl⟩ := Db.commit_eq_ok.mp hdb
    exact (h.timeout hrow).imp_left fun hagrees => ⟨loan, hagrees⟩
  | resolve tenantId txnId checker outcome receipt note now =>
    refine hs.saved fun db hdb => ?_
    obtain ⟨row, said, reply, hrow, rfl, htype, hsaid, hout⟩ := resolvePayoutRequest_eq_ok hdb
    obtain ⟨hopen, hkind, -, -⟩ := payoutResolution_eq_ok hsaid
    exact h.settle hrow hkind (fun _ => hopen) htype hout
  | repay id p => exact hs.of_agrees (h.repay id p)
  | upkeep u => exact hs.of_agrees (h.upkeep u)

theorem inOrder_of_notPaidOut {loanId : ℕ} {db : Db} (h : NotPaidOut loanId db) :
    InOrder loanId ⟨db, []⟩ := by
  obtain ⟨⟨loan, hrow, hprocessing, hdisbursed⟩, hfailed⟩ := h
  have hnone : ∀ p : TransactionStatus → Bool, p .failed = false → payouts db loanId p = 0 := by
    intro p hp
    rw [payouts, List.length_eq_zero_iff, List.filter_eq_nil_iff]
    intro t ht hpays
    rw [Bool.and_eq_true] at hpays
    rw [hfailed t ht hpays.1, hp] at hpays
    exact absurd hpays.2 (by simp)
  refine ⟨⟨loan, hrow, ?_, fun t ht hpays hlive => absurd (hfailed t ht hpays) hlive⟩, by simp⟩
  rw [hnone _ rfl, hnone _ rfl]
  cases hstatus : loan.status <;> simp [hstatus,
    LoanStatus.disbursed] at hprocessing hdisbursed <;> rfl

/-- No double payout: in every run in which an answer finds the intent of its call as it
was left, a loan is paid out once in every state. -/
theorem no_double_payout (loanId : ℕ) (start : Db) (es : List PayoutEvent)
    (hstart : NotPaidOut loanId start)
    (h : AllSteps PayoutDesk.step (AnswersIntent loanId) ⟨start, []⟩ es) :
    Always PayoutDesk.step (fun s => PaidOutOnce loanId s.db) ⟨start, []⟩ es := by
  have hstep : ∀ (s : PayoutDesk) e, InOrder loanId s → AnswersIntent loanId s e →
      InOrder loanId (s.step e) := fun s e hs hok => hs.step e hok
  intro bs hbs
  obtain ⟨loan, hagrees⟩ :=
    (invariant_always hstep (inOrder_of_notPaidOut hstart) h bs hbs).agrees
  exact hagrees.paidOutOnce

/-- A process stops before the call is answered and a person finds nothing was paid; the
next payout times out, is confirmed late and twice, and the loan is repaid. -/
theorem no_double_payout_late_result :
    Always PayoutDesk.step (fun s => PaidOutOnce 0 s.db) ⟨approvedBook, []⟩
      [.disburse 1 0 7 100, .stop 0,
        .resolve 1 0 ⟨8, true, [], []⟩ "not_paid" none "Not on the portal" 86500,
        .disburse 1 0 7 86600, .answer 1 (acknowledged "AG1"), .timeout (resultOf "AG1" "1" ""),
        .disburse 1 0 7 86700, .result (resultOf "AG1" "0" "QR1") 86800,
        .result (resultOf "AG1" "0" "QR1") 86900, .repay 0 (paybillPayment 1100000 "QA1" 30),
        .disburse 1 0 7 2592000] :=
  no_double_payout 0 approvedBook _ (by decide +kernel) (by decide +kernel)

/-- A person resolves the intent as not paid while its call is under way. The answer is
saved over that, the result finds no loan waiting, and the loan is paid out again. -/
theorem payout_resolved_in_flight : NotPaidOut 0 approvedBook ∧
    ¬ Always PayoutDesk.step (fun s => PaidOutOnce 0 s.db) ⟨approvedBook, []⟩
      [.disburse 1 0 7 100, .resolve 1 0 ⟨8, true, [], []⟩ "not_paid" none "Not on the portal" 200,
        .answer 0 (acknowledged "AG1"), .result (resultOf "AG1" "0" "QR1") 300,
        .disburse 1 0 7 400] := by
  refine ⟨by decide, fun h => ?_⟩
  exact absurd h.last.single (by decide +kernel)

end FinylDcp
