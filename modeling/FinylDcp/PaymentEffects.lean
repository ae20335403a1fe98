import FinylDcp.Repayments

/-!
# What a payment does

One lemma for each routine of the payment path: the parts of a balance, the early
payoff quote, parking money, and the three ways `applyPayment` can end. Later
results use these and never open the routines again.
-/
namespace FinylDcp
open Text

/-- Closing a gap no larger than the two parts takes exactly the gap off them and
leaves neither negative, whatever the rate. -/
theorem closeGap_parts (gap : ℤ) {principalOwed interestOwed : ℤ} (rate : ℚ)
    (_ : 0 ≤ principalOwed) (_ : 0 ≤ interestOwed) (hg : gap ≤ principalOwed + interestOwed) :
    (closeGap gap principalOwed interestOwed rate).1 +
        (closeGap gap principalOwed interestOwed rate).2 = principalOwed + interestOwed - gap ∧
      0 ≤ (closeGap gap principalOwed interestOwed rate).1 ∧
      0 ≤ (closeGap gap principalOwed interestOwed rate).2 := by
  simp only [closeGap]
  generalize (splitInterestPrincipal gap rate).1 = share
  split_ifs with h
  · refine ⟨?_, ?_, ?_⟩ <;> omega
  · refine ⟨?_, ?_, ?_⟩ <;> omega

@[simp] theorem owedBreakdown_total (db : Db) (loanId : ℕ) (loan : Loan) :
    (owedBreakdown db loanId loan).total = loan.outstandingBalance := by
  simp only [owedBreakdown]
  split_ifs <;> rfl

/-- What counts as interest paid is the flat interest that is no longer owed. -/
theorem owedBreakdown_interestPaid (db : Db) (loanId : ℕ) (loan : Loan) :
    (owedBreakdown db loanId loan).interestPaid =
      loan.interestTotal - (owedBreakdown db loanId loan).interest := by
  simp only [owedBreakdown]
  split_ifs <;> rfl

/-- The parts of a balance that is not negative add up to it, and none is negative. -/
theorem owedBreakdown_parts (db : Db) (loanId : ℕ) {loan : Loan}
    (h : 0 ≤ loan.outstandingBalance) :
    (owedBreakdown db loanId loan).principal + (owedBreakdown db loanId loan).interest +
        (owedBreakdown db loanId loan).fees = loan.outstandingBalance ∧
      0 ≤ (owedBreakdown db loanId loan).principal ∧
      0 ≤ (owedBreakdown db loanId loan).interest ∧
      0 ≤ (owedBreakdown db loanId loan).fees := by
  simp only [owedBreakdown]
  generalize hp : max (loan.principal - _) 0 = principalOwed
  generalize hi : max (loan.interestTotal - _) 0 = interestOwed
  have hp0 : 0 ≤ principalOwed := hp ▸ le_max_right _ _
  have hi0 : 0 ≤ interestOwed := hi ▸ le_max_right _ _
  split_ifs with hgap
  · obtain ⟨hsum, hp1, hi1⟩ := closeGap_parts
      (-(loan.outstandingBalance - principalOwed - interestOwed)) loan.interestRate hp0 hi0
        (by omega)
    exact ⟨by dsimp only; omega, hp1, hi1, le_refl 0⟩
  · exact ⟨by dsimp only; omega, hp0, hi0, not_lt.mp hgap⟩

/-- An early quote is only given on an open loan with a balance and a term, before
the due date, and then it is the early one. -/
theorem payoffQuote_early {db : Db} {loanId : ℕ} {loan : Loan} {on : ℤ}
    {method : EarlySettlementMethod} (h : (payoffQuote db loanId loan on method).early = true) :
    ∃ start due base, loan.disbursementDate = some start ∧ loan.dueDate = some due ∧
      loan.status.collectible = true ∧ 0 < loan.outstandingBalance ∧ 0 < due - start ∧ on < due ∧
      payoffQuote db loanId loan on method =
        earlyQuote base (owedBreakdown db loanId loan) loan.interestTotal
          (interestEarned db loan start due on method) ∧
      base.principalOwed = (owedBreakdown db loanId loan).principal ∧
      base.feesOwed = (owedBreakdown db loanId loan).fees := by
  revert h
  simp only [payoffQuote]
  cases hstart : loan.disbursementDate with
  | none => simp
  | some start =>
    cases hdue : loan.dueDate with
    | none => simp
    | some due =>
      simp only [owedBreakdown_total]
      split_ifs with hbase
      · simp
      · intro _
        simp only [Bool.or_eq_true, Bool.not_eq_true', decide_eq_true_eq, not_or,
          Bool.not_eq_false, not_le] at hbase
        obtain ⟨⟨⟨hcoll, hout⟩, hterm⟩, hon⟩ := hbase
        exact ⟨start, due, _, rfl, rfl, hcoll, hout, hterm, hon, rfl, rfl, rfl⟩

section EarlyQuote

variable (base : PayoffQuote) (owed : Owed) (interestTotal earned : ℤ)

/-- The payoff and the write-off together clear the parts exactly when the interest
already paid is within what was earned, or nothing but interest is left: a used
credit is neither received nor written off. -/
theorem earlyQuote_clears (hpf : 0 ≤ owed.principal + owed.fees) (_ : 0 ≤ owed.interest) :
    (earlyQuote base owed interestTotal earned).payoffAmount +
        (earlyQuote base owed interestTotal earned).rebate =
      owed.principal + owed.fees + owed.interest ↔
    owed.interestPaid ≤ earned ∨ owed.principal + owed.fees = 0 := by
  simp only [earlyQuote]
  split_ifs with hcredit <;> omega

theorem earlyQuote_nonneg (_ : 0 ≤ owed.interest) :
    0 ≤ (earlyQuote base owed interestTotal earned).payoffAmount ∧
      0 ≤ (earlyQuote base owed interestTotal earned).rebate ∧
      0 ≤ (earlyQuote base owed interestTotal earned).credit := by
  simp only [earlyQuote]
  refine ⟨?_, ?_, ?_⟩ <;> omega

end EarlyQuote

/-- No entry carries a reference exactly when looking for it finds none. -/
theorem suspenseWithRef_eq_none {suspense : List SuspenseEntry} {tenantId : ℕ} {ref : String}
    (h : ref ≠ "") : suspenseWithRef suspense tenantId (some ref) = none ↔
      ∀ x ∈ suspense, x.tenantId = tenantId → x.mpesaRef ≠ some ref := by
  simp [suspenseWithRef, nonEmpty, h]

theorem suspenseWithRef_lt {suspense : List SuspenseEntry} {tenantId i : ℕ} {ref : Option String}
    (h : suspenseWithRef suspense tenantId ref = some i) : i < suspense.length := by
  obtain ⟨r, -, hfound⟩ := Option.bind_eq_some_iff.mp h
  exact (List.findIdx?_eq_some_iff_getElem.mp hfound).1

/-- A reference that is parked already is not parked again. -/
theorem park_known {suspense : List SuspenseEntry} {x : Receipt} {now : ℤ}
    (h : suspenseWithRef suspense x.tenantId x.ref ≠ none) :
    (park suspense x now).1 = suspense := by
  obtain ⟨i, hi⟩ := Option.ne_none_iff_exists'.mp h
  simp [park, hi]

/-- A new reference is parked in a row of its own. -/
theorem park_new {suspense : List SuspenseEntry} {x : Receipt} {now : ℤ}
    (h : suspenseWithRef suspense x.tenantId x.ref = none) :
    (park suspense x now).1 = suspense ++ [x.entry now] := by
  simp [park, h]

/-- No row of the suspense account is lost or changed by parking. -/
theorem park_extends (suspense : List SuspenseEntry) (x : Receipt) (now : ℤ) :
    suspense <+: (park suspense x now).1 := by
  by_cases h : suspenseWithRef suspense x.tenantId x.ref = none
  · rw [park_new h]
    exact List.prefix_append _ _
  · simp [park_known h]

/-- A row read before it is written is replaced by the object. -/
theorem flushLoan_loaded {db : Db} {loanId : ℕ} {loaded : Loan} (now : Loan)
    (h : db.loans[loanId]? = some loaded) :
    db.flushLoan loanId loaded now = { db with loans := db.loans.set loanId now } := by
  have hloans : db.loans.modify loanId (fun row => row.flush loaded now) =
      db.loans.set loanId now := by
    apply List.ext_getElem?
    intro i
    rw [List.getElem?_modify, List.getElem?_set]
    by_cases hi : loanId = i
    · subst hi
      obtain ⟨hlt, hget⟩ := List.getElem?_eq_some_iff.mp h
      simp [hlt, hget]
    · simp [hi]
  rw [Db.flushLoan, hloans]

/-- The division of a payment on an open loan. -/
def divisionOf (db : Db) (loanId : ℕ) (loan : Loan) (p : Payment) : Division :=
  divide db loanId loan p.amount p.paidOn (getPaymentSettings db p.tenantId)

/-- The object after a division: paid when nothing is left. -/
def settled (loan : Loan) (d : Division) (paidOn : ℤ) : Loan :=
  let booked := book loan d paidOn
  if booked.outstandingBalance ≤ 0 && booked.status.collectible then
    { booked with status := .paid, activeLock := false }
  else booked

section MarkPaid

variable (db : Db) (loanId : ℕ) (loan : Loan) (now : ℤ)

/-- Marking a loan paid changes the lock log and the borrower's lock, nothing else of
the database. -/
theorem markPaid_db : ∃ logs borrowers, (markPaid db loanId loan now).1 =
    { db with lockLogs := logs, borrowers := borrowers } := by
  unfold markPaid
  split
  · exact ⟨_, _, rfl⟩
  · exact ⟨db.lockLogs, db.borrowers, rfl⟩

theorem markPaid_book (d : Division) (paidOn : ℤ) :
    (markPaid db loanId (book loan d paidOn) now).2 = settled loan d paidOn := by
  unfold markPaid settled
  dsimp only
  split <;> rfl

end MarkPaid

/-- Being paid changes the status and the lock of the booked object only. -/
theorem settled_eq (loan : Loan) (d : Division) (paidOn : ℤ) :
    ∃ status lock, settled loan d paidOn =
      { book loan d paidOn with status := status, activeLock := lock } := by
  unfold settled
  dsimp only
  split
  · exact ⟨.paid, false, rfl⟩
  · exact ⟨_, _, rfl⟩

/-- Booking a division changes the balance, the rebate and the settlement date only. -/
theorem book_eq (loan : Loan) (d : Division) (paidOn : ℤ) :
    book loan d paidOn = { loan with
      outstandingBalance := if d.settles then 0 else loan.outstandingBalance - max d.applied 0
      interestRebate := loan.interestRebate + if d.settles then d.rebate else 0
      earlySettledAt := if d.settles then some paidOn else loan.earlySettledAt } := by
  by_cases happlied : 0 < d.applied <;> cases hsettles : d.settles
  · simp [book, happlied, hsettles, max_eq_left happlied.le]
  · simp [book, happlied, hsettles]
  · simp [book, happlied, hsettles, max_eq_right (not_lt.mp happlied)]
  · simp [book, happlied, hsettles]

/-- The loan after a division, but for its status and lock. -/
theorem settled_loan (loan : Loan) (d : Division) (paidOn : ℤ) :
    ∃ status lock, settled loan d paidOn = { loan with
      outstandingBalance := if d.settles then 0 else loan.outstandingBalance - max d.applied 0
      interestRebate := loan.interestRebate + if d.settles then d.rebate else 0
      earlySettledAt := if d.settles then some paidOn else loan.earlySettledAt
      status := status
      activeLock := lock } := by
  obtain ⟨status, lock, hpaid⟩ := settled_eq loan d paidOn
  exact ⟨status, lock, by rw [hpaid, book_eq]⟩

/-- A settling division leaves the loan paid. -/
theorem settled_status {loan : Loan} {d : Division} (paidOn : ℤ) (h : d.settles = true)
    (hcoll : loan.status.collectible = true) : (settled loan d paidOn).status = .paid := by
  have hbalance : (book loan d paidOn).outstandingBalance = 0 := by simp [book_eq, h]
  have hstatus : (book loan d paidOn).status = loan.status := by simp [book_eq]
  simp [settled, hbalance, hstatus, hcoll]

/-- The interest of a loan earned by a day, by its tenant's method. -/
def earnedBy (db : Db) (loan : Loan) (on : ℤ) : ℤ :=
  match loan.disbursementDate, loan.dueDate with
  | some start, some due => interestEarned db loan start due on
      (getPaymentSettings db loan.tenantId).earlySettlementMethod
  | _, _ => 0

/-- A payment settles the loan early when it covers the quote of its day. -/
def SettlesEarly (db : Db) (loanId : ℕ) (loan : Loan) (p : Payment) : Prop :=
  let quote := payoffQuote db loanId loan (kenyaDate p.paidOn)
    (getPaymentSettings db p.tenantId).earlySettlementMethod
  quote.early = true ∧ quote.payoffAmount ≤ p.amount

instance (db : Db) (loanId : ℕ) (loan : Loan) (p : Payment) :
    Decidable (SettlesEarly db loanId loan p) := by
  unfold SettlesEarly
  infer_instance

/-- The division of a settling payment is read off the quote. -/
theorem divisionOf_settles {db : Db} {loanId : ℕ} {loan : Loan} {p : Payment}
    (h : SettlesEarly db loanId loan p) :
    let quote := payoffQuote db loanId loan (kenyaDate p.paidOn)
      (getPaymentSettings db p.tenantId).earlySettlementMethod
    (divisionOf db loanId loan p).settles = true ∧
      (divisionOf db loanId loan p).applied = quote.payoffAmount ∧
      (divisionOf db loanId loan p).rebate = quote.rebate ∧
      (divisionOf db loanId loan p).interestCredit = quote.credit := by
  obtain ⟨hearly, hcovers⟩ := h
  simp [divisionOf, divide, hearly, hcovers]

/-- The test that any other payment fails. -/
theorem not_settlesEarly {db : Db} {loanId : ℕ} {loan : Loan} {p : Payment}
    (h : ¬ SettlesEarly db loanId loan p) :
    ¬ ((payoffQuote db loanId loan (kenyaDate p.paidOn)
      (getPaymentSettings db p.tenantId).earlySettlementMethod).early &&
      decide ((payoffQuote db loanId loan (kenyaDate p.paidOn)
        (getPaymentSettings db p.tenantId).earlySettlementMethod).payoffAmount ≤ p.amount)) =
        true := by
  simpa [SettlesEarly] using h

/-- Any other payment takes what is owed of it and writes nothing off. -/
theorem divisionOf_plain {db : Db} {loanId : ℕ} {loan : Loan} {p : Payment}
    (h : ¬ SettlesEarly db loanId loan p) :
    (divisionOf db loanId loan p).settles = false ∧
      (divisionOf db loanId loan p).applied = min p.amount loan.outstandingBalance ∧
      (divisionOf db loanId loan p).rebate = 0 ∧
      (divisionOf db loanId loan p).interestCredit = 0 := by
  simp only [divisionOf, divide, if_neg (not_settlesEarly h), and_self]

/-- No more is applied than was paid. -/
theorem divisionOf_applied_le (db : Db) (loanId : ℕ) (loan : Loan) (p : Payment) :
    (divisionOf db loanId loan p).applied ≤ p.amount := by
  by_cases hearly : SettlesEarly db loanId loan p
  · rw [(divisionOf_settles hearly).2.1]
    exact hearly.2
  · rw [(divisionOf_plain hearly).2.1]
    exact min_le_left _ _

/-- A payment the checks let through: a positive amount for the tenant's own loan,
under a reference that is new. -/
def Accepts (db : Db) (loan : Loan) (p : Payment) : Prop :=
  0 < p.amount ∧ loan.tenantId = p.tenantId ∧
    referenceAlreadyUsed db p.tenantId (some p.reference) (!p.fromSuspense) = none

instance (db : Db) (loan : Loan) (p : Payment) : Decidable (Accepts db loan p) := by
  unfold Accepts
  infer_instance

/-- A completed payment was a duplicate and did nothing, or was parked because the
loan is closed, or was applied. -/
theorem applyPayment_cases {db : Db} {loanId : ℕ} {loan : Loan} {p : Payment}
    {out : Db × Loan × ApplyResult} (h : applyPayment db loanId loan p = .ok out) :
    (¬ Accepts db loan p ∧ out.1 = db ∧ out.2.1 = loan ∧ out.2.2.status = .duplicateIgnored) ∨
    (Accepts db loan p ∧ loan.status.collectible = false ∧
      out.1 = (recordSuspense db (closedLoanReceipt loanId p) p.now).1 ∧ out.2.1 = loan ∧
      out.2.2.status = .suspense ∧ out.2.2.ref = p.reference ∧
      out.2.2.applied + out.2.2.excess = p.amount) ∨
    (Accepts db loan p ∧ loan.status.collectible = true ∧
      out = applyToOpenLoan db loanId loan p) := by
  simp only [applyPayment] at h
  split_ifs at h with hamount htenant hcoll
  all_goals split at h
  · rename_i used hused
    cases h
    exact .inl ⟨fun hacc => by simp [hacc.2.2] at hused, rfl, rfl, rfl⟩
  · rename_i hused
    cases h
    exact .inr (.inl ⟨⟨not_le.mp hamount, not_not.mp htenant, hused⟩, by simpa using hcoll,
      rfl, rfl, rfl, rfl, zero_add _⟩)
  · rename_i used hused
    cases h
    exact .inl ⟨fun hacc => by simp [hacc.2.2] at hused, rfl, rfl, rfl⟩
  · rename_i hused
    cases h
    exact .inr (.inr ⟨⟨not_le.mp hamount, not_not.mp htenant, hused⟩, by simpa using hcoll, rfl⟩)

/-- Only a positive amount is handled at all. -/
theorem payLoan_pos {db : Db} {loanId : ℕ} {loan : Loan} {p : Payment} {out : Db × ApplyResult}
    (h : payLoan db loanId loan p = .ok out) : 0 < p.amount := by
  by_contra hamount
  simp [payLoan, applyPayment, not_lt.mp hamount, Except.map] at h

/-- Only a payment on a loan of its tenant is handled. -/
theorem payLoan_tenant {db : Db} {loanId : ℕ} {loan : Loan} {p : Payment} {out : Db × ApplyResult}
    (h : payLoan db loanId loan p = .ok out) : loan.tenantId = p.tenantId := by
  by_contra htenant
  have hamount := payLoan_pos h
  simp [payLoan, applyPayment, not_le.mpr hamount, htenant, Except.map] at h

/-- A positive payment on a loan of its tenant completes. -/
theorem payLoan_completes (db : Db) (loanId : ℕ) {loan : Loan} {p : Payment}
    (hamount : 0 < p.amount)
    (htenant : loan.tenantId = p.tenantId) : ∃ out, payLoan db loanId loan p = .ok out := by
  simp only [payLoan, applyPayment, if_neg (not_le.mpr hamount), htenant, ne_eq, not_true_eq_false,
    if_false]
  split
  · exact ⟨_, rfl⟩
  · split
    · exact ⟨_, rfl⟩
    · exact ⟨_, rfl⟩

/-- An accepted payment completes. -/
theorem applyPayment_ok {db : Db} (loanId : ℕ) {loan : Loan} {p : Payment}
    (h : Accepts db loan p) : ∃ out, applyPayment db loanId loan p = .ok out := by
  obtain ⟨hamount, htenant, hused⟩ := h
  simp only [applyPayment, not_le.mpr hamount, htenant, hused]
  split_ifs <;> simp_all

/-- What is parked of a payment: the excess, and interest paid beyond what was earned. -/
def parkRest (suspense : List SuspenseEntry) (loanId : ℕ) (p : Payment) (d : Division) :
    List SuspenseEntry :=
  let overpaid := if 0 < p.amount - d.applied then
    (park suspense (overpaymentReceipt loanId p (p.amount - d.applied)) p.now).1 else suspense
  if 0 < d.interestCredit then
    (park overpaid (interestRefundReceipt loanId p d.interestCredit) p.now).1
  else overpaid

theorem earnedBy_eq {db : Db} {loan : Loan} {p : Payment} {start due : ℤ}
    (hacc : Accepts db loan p) (hstart : loan.disbursementDate = some start)
    (hdue : loan.dueDate = some due) :
    earnedBy db loan (kenyaDate p.paidOn) = interestEarned db loan start due (kenyaDate p.paidOn)
      (getPaymentSettings db p.tenantId).earlySettlementMethod := by
  simp [earnedBy, hstart, hdue, hacc.2.1]

/-- The payoff of the payment's day is more than the interest paid ahead covers. -/
def PayoffLeft (db : Db) (loanId : ℕ) (loan : Loan) (p : Payment) : Prop :=
  let owed := owedBreakdown db loanId loan
  0 < owed.principal + owed.fees + (earnedBy db loan (kenyaDate p.paidOn) - owed.interestPaid)

instance (db : Db) (loanId : ℕ) (loan : Loan) (p : Payment) :
    Decidable (PayoffLeft db loanId loan p) := by
  unfold PayoffLeft
  infer_instance

/-- A settlement is recorded as a repayment exactly when something is left to pay. -/
theorem settles_applied_pos {db : Db} {loanId : ℕ} {loan : Loan} {p : Payment}
    (hacc : Accepts db loan p) (hearly : SettlesEarly db loanId loan p) :
    0 < (divisionOf db loanId loan p).applied ↔ PayoffLeft db loanId loan p := by
  obtain ⟨-, happlied, -, -⟩ := divisionOf_settles hearly
  obtain ⟨start, due, base, hstart, hdue, -, hout, -, -, hquote, -, -⟩ := payoffQuote_early hearly.1
  obtain ⟨hsum, hp, hi, hf⟩ := owedBreakdown_parts db loanId hout.le
  rw [happlied, hquote, PayoffLeft, earnedBy_eq hacc hstart hdue]
  simp only [earlyQuote]
  split_ifs <;> omega

/-- The loan has something for the payment to be applied to. -/
def SomethingToPay (db : Db) (loanId : ℕ) (loan : Loan) (p : Payment) : Prop :=
  0 < loan.outstandingBalance ∧ (SettlesEarly db loanId loan p → PayoffLeft db loanId loan p)

instance (db : Db) (loanId : ℕ) (loan : Loan) (p : Payment) :
    Decidable (SomethingToPay db loanId loan p) := by
  unfold SomethingToPay
  infer_instance

/-- A payment is recorded as a repayment exactly when there is something to pay. -/
theorem applied_pos {db : Db} {loanId : ℕ} {loan : Loan} {p : Payment} (hacc : Accepts db loan p) :
    0 < (divisionOf db loanId loan p).applied ↔ SomethingToPay db loanId loan p := by
  by_cases hearly : SettlesEarly db loanId loan p
  · obtain ⟨_, _, _, _, _, _, hout, _⟩ := payoffQuote_early hearly.1
    simp [SomethingToPay, settles_applied_pos hacc hearly, hearly, hout]
  · obtain ⟨-, happlied, -, -⟩ := divisionOf_plain hearly
    simp only [SomethingToPay, hearly, happlied, lt_min_iff, hacc.1, true_and, false_imp_iff,
      and_true]

/-- The rows parked of a payment: at most its excess and its interest credit. -/
theorem parkRest_rows (suspense : List SuspenseEntry) (loanId : ℕ) (p : Payment) (d : Division) :
    ∃ excess refund, parkRest suspense loanId p d = suspense ++ excess ++ refund ∧
      (excess = [] ∨ (0 < p.amount - d.applied ∧
        excess = [(overpaymentReceipt loanId p (p.amount - d.applied)).entry p.now])) ∧
      (refund = [] ∨
        refund = [(interestRefundReceipt loanId p d.interestCredit).entry p.now]) := by
  have hpark : ∀ (rows : List SuspenseEntry) (x : Receipt), ∃ new, (park rows x p.now).1 =
      rows ++ new ∧ (new = [] ∨ new = [x.entry p.now]) := by
    intro rows x
    by_cases hfree : suspenseWithRef rows x.tenantId x.ref = none
    · exact ⟨_, park_new hfree, .inr rfl⟩
    · exact ⟨[], by rw [park_known hfree, List.append_nil], .inl rfl⟩
  have hover : ∃ excess, (if 0 < p.amount - d.applied then
      (park suspense (overpaymentReceipt loanId p (p.amount - d.applied)) p.now).1
        else suspense) = suspense ++ excess ∧
      (excess = [] ∨ (0 < p.amount - d.applied ∧
        excess = [(overpaymentReceipt loanId p (p.amount - d.applied)).entry p.now])) := by
    split
    · rename_i hexcess
      obtain ⟨excess, hrows, hnew⟩ :=
        hpark suspense (overpaymentReceipt loanId p (p.amount - d.applied))
      exact ⟨excess, hrows, hnew.imp_right fun h => ⟨hexcess, h⟩⟩
    · exact ⟨[], (List.append_nil _).symm, .inl rfl⟩
  obtain ⟨excess, hrows, hover⟩ := hover
  simp only [parkRest, hrows]
  split
  · obtain ⟨refund, hrefund, hnew⟩ :=
      hpark (suspense ++ excess) (interestRefundReceipt loanId p d.interestCredit)
    exact ⟨excess, refund, hrefund, hover, hnew⟩
  · exact ⟨excess, [], (List.append_nil _).symm, hover, .inl rfl⟩

section ApplyToOpenLoan

variable (db : Db) (loanId : ℕ) (loan : Loan) (p : Payment)

theorem applyToOpenLoan_loan :
    (applyToOpenLoan db loanId loan p).2.1 = settled loan (divisionOf db loanId loan p) p.paidOn :=
  markPaid_book db loanId loan p.now (divisionOf db loanId loan p) p.paidOn

/-- The rows an applied payment leaves: its repayment, and what is parked of it. -/
theorem applyToOpenLoan_db : ∃ logs borrowers, (applyToOpenLoan db loanId loan p).1 = { db with
    lockLogs := logs
    borrowers := borrowers
    repayments := db.repayments ++ repaymentRow loanId p (divisionOf db loanId loan p)
    suspense := parkRest db.suspense loanId p (divisionOf db loanId loan p) } := by
  obtain ⟨logs, borrowers, hpaid⟩ :=
    markPaid_db db loanId (book loan (divisionOf db loanId loan p) p.paidOn) p.now
  refine ⟨logs, borrowers, ?_⟩
  simp only [divisionOf] at hpaid ⊢
  simp only [applyToOpenLoan, hpaid, parkRest, recordSuspense]
  split_ifs <;> rfl

/-- What an applied payment reports adds up to what was paid. -/
theorem applyToOpenLoan_result : (applyToOpenLoan db loanId loan p).2.2.status = .applied ∧
    (applyToOpenLoan db loanId loan p).2.2.ref = p.reference ∧
    (applyToOpenLoan db loanId loan p).2.2.applied +
      (applyToOpenLoan db loanId loan p).2.2.excess = p.amount := by
  refine ⟨rfl, rfl, ?_⟩
  simp only [applyToOpenLoan]
  omega

end ApplyToOpenLoan

/-- The database after an applied payment, but for the borrower's lock. -/
def AppliedTo (db : Db) (loanId : ℕ) (loan : Loan) (p : Payment) (db' : Db) : Prop :=
  ∃ logs borrowers, db' = { db with
    loans := db.loans.set loanId (settled loan (divisionOf db loanId loan p) p.paidOn)
    lockLogs := logs
    borrowers := borrowers
    repayments := db.repayments ++ repaymentRow loanId p (divisionOf db loanId loan p)
    suspense := parkRest db.suspense loanId p (divisionOf db loanId loan p) }

/-- How a payment ends on the loan as it is stored: a duplicate changes nothing, money
for a closed loan is parked, any other payment is applied. -/
theorem payLoan_cases {db : Db} {loanId : ℕ} {loan : Loan} {p : Payment} {out : Db × ApplyResult}
    (hrow : db.loans[loanId]? = some loan) (h : payLoan db loanId loan p = .ok out) :
    (¬ Accepts db loan p ∧ out.1 = db ∧ out.2.status = .duplicateIgnored) ∨
    (Accepts db loan p ∧ loan.status.collectible = false ∧
      out.1 = (recordSuspense db (closedLoanReceipt loanId p) p.now).1 ∧
      out.2.status = .suspense ∧ out.2.ref = p.reference ∧
      out.2.applied + out.2.excess = p.amount) ∨
    (Accepts db loan p ∧ loan.status.collectible = true ∧ AppliedTo db loanId loan p out.1 ∧
      out.2.status = .applied ∧ out.2.ref = p.reference ∧
      out.2.applied + out.2.excess = p.amount) := by
  have hself : db.loans.set loanId loan = db.loans := by
    obtain ⟨hlt, hget⟩ := List.getElem?_eq_some_iff.mp hrow
    rw [← hget, List.set_getElem_self]
  simp only [payLoan] at h
  cases hpay : applyPayment db loanId loan p with
  | error e => simp [hpay, Except.map] at h
  | ok applied =>
    simp only [hpay, Except.map, Except.ok.injEq] at h
    subst h
    obtain ⟨hacc, hdb, hloan, hstatus⟩ | ⟨hacc, hcoll, hdb, hloan, hresult⟩ | ⟨hacc, hcoll, hout⟩ :=
      applyPayment_cases hpay
    · refine .inl ⟨hacc, ?_, hstatus⟩
      rw [hdb, hloan, flushLoan_loaded loan hrow, hself]
    · refine .inr (.inl ⟨hacc, hcoll, ?_, hresult⟩)
      rw [hdb, hloan, flushLoan_loaded loan (by exact hrow)]
      simp [recordSuspense, hself]
    · subst hout
      refine .inr (.inr ⟨hacc, hcoll, ?_, applyToOpenLoan_result db loanId loan p⟩)
      obtain ⟨logs, borrowers, hdb⟩ := applyToOpenLoan_db db loanId loan p
      refine ⟨logs, borrowers, ?_⟩
      rw [applyToOpenLoan_loan, hdb, flushLoan_loaded _ (by exact hrow)]

/-- What a received payment leaves: nothing new, a parked receipt, or the applied
payment with the loan it settled or reduced. -/
theorem receivePayment_cases {db : Db} {loanId : ℕ} {loan : Loan} {p : Payment}
    (hrow : db.loans[loanId]? = some loan) :
    (¬ Accepts db loan p ∧ receivePayment db loanId p = db) ∨
    (Accepts db loan p ∧ loan.status.collectible = false ∧ receivePayment db loanId p =
      (recordSuspense db (closedLoanReceipt loanId p) p.now).1) ∨
    (Accepts db loan p ∧ loan.status.collectible = true ∧
      AppliedTo db loanId loan p (receivePayment db loanId p)) := by
  simp only [receivePayment, hrow]
  cases hpay : payLoan db loanId loan p with
  | error e =>
    refine .inl ⟨fun hacc => ?_, rfl⟩
    obtain ⟨out, hok⟩ := applyPayment_ok loanId hacc
    simp [payLoan, hok, Except.map] at hpay
  | ok out =>
    obtain ⟨hacc, hdb, -⟩ | ⟨hacc, hcoll, hdb, -⟩ | ⟨hacc, hcoll, hdb, -⟩ := payLoan_cases hrow hpay
    · exact .inl ⟨hacc, hdb⟩
    · exact .inr (.inl ⟨hacc, hcoll, hdb⟩)
    · exact .inr (.inr ⟨hacc, hcoll, hdb⟩)

/-- What is repaid on a loan grows by what the payment applied. -/
theorem paid_of_applied {db db' : Db} {loanId : ℕ} {p : Payment} {d : Division}
    (h : db'.repayments = db.repayments ++ repaymentRow loanId p d) :
    db'.paid loanId = db.paid loanId + max d.applied 0 := by
  simp only [Db.paid, Db.repaymentsOf, h, repaymentRow]
  split_ifs with happlied
  · simp [max_eq_left happlied.le]
  · simp [max_eq_right (not_lt.mp happlied)]

/-- A payment on one loan repays nothing on another. -/
theorem paid_of_other {db db' : Db} {loanId other : ℕ} {p : Payment} {d : Division}
    (hother : other ≠ loanId) (h : db'.repayments = db.repayments ++ repaymentRow other p d) :
    db'.paid loanId = db.paid loanId := by
  simp only [Db.paid, Db.repaymentsOf, h, repaymentRow]
  split_ifs <;> simp [hother]

end FinylDcp
