import FinylDcp.Runs
import FinylDcp.Disbursement
import FinylDcp.OverdueJobs
import FinylDcp.PaymentEffects

/-!
# The balance law

What the integrity check recomputes: the balance of a loan is its terms, fees and
penalties less what was repaid and written off. Every step of a loan's life keeps
the law, save an early settlement that is paid for with interest paid ahead.
-/
namespace FinylDcp
open Runs

/-- The balance `integrity_check` expects of a loan. -/
def expectedBalance (db : Db) (loanId : ℕ) (loan : Loan) : ℤ :=
  loan.totalDue + loan.feesInBalance + loan.penaltiesCharged - db.paid loanId - loan.interestRebate

/-- The stored balance of the loan is the expected one. -/
def Balanced (loanId : ℕ) (db : Db) : Prop :=
  ∀ loan, db.loans[loanId]? = some loan → expectedBalance db loanId loan = loan.outstandingBalance

instance (loanId : ℕ) (db : Db) : Decidable (Balanced loanId db) :=
  inferInstanceAs (Decidable (∀ loan ∈ db.loans[loanId]?,
    expectedBalance db loanId loan = loan.outstandingBalance))

/-- A loan as its activation leaves it. -/
structure Activated (db : Db) (loanId : ℕ) (loan : Loan) : Prop where
  row : db.loans[loanId]? = some loan
  balance : loan.outstandingBalance = loan.totalDue + loan.feesInBalance
  unpaid : db.repaymentsOf loanId = []
  rebate : loan.interestRebate = 0
  penalties : loan.penaltiesCharged = 0

theorem Activated.balanced {db : Db} {loanId : ℕ} {loan : Loan} (h : Activated db loanId loan) :
    Balanced loanId db := by
  intro row hrow
  obtain rfl : loan = row := Option.some_injective _ (h.row.symm.trans hrow)
  simp [expectedBalance, Db.paid, h.unpaid, h.rebate, h.penalties, h.balance]

/-- A successful payout result on a loan in `processing` activates it. -/
theorem settlePayout_activated {db db' : Db} {tenantId txnId loanId : ℕ}
    {txn : PaymentTransaction} {loan : Loan} {receipt : Option String} {now : ℤ}
    {reply : ResultReply}
    (h : settlePayout db tenantId txnId txn (some (loanId, loan)) "0" receipt now =
      .ok (db', reply))
    (hopen : txn.status.settleable = true) (hrow : db.loans[loanId]? = some loan)
    (hstatus : loan.status = .processing) (hunpaid : db.repaymentsOf loanId = [])
    (hrebate : loan.interestRebate = 0) (hpenalties : loan.penaltiesCharged = 0) :
    ∃ loan', Activated db' loanId loan' := by
  simp only [settlePayout, hopen, hstatus] at h
  cases hproduct : db.products[loan.productId]? with
  | none => simp [hproduct] at h
  | some product =>
    simp only [hproduct, Bool.not_true, Bool.false_eq_true, if_false, if_true, Except.ok.injEq,
      Prod.mk.injEq] at h
    obtain ⟨rfl, -⟩ := h
    refine ⟨activate loan product (now / 86400), ?_, ?_, ?_, ?_, ?_⟩
    · simp [activateLoan, Db.updateLoan, Db.updateTransaction, hrow]
    · simp [activate, Loan.totalDue]
    · exact hunpaid
    · exact hrebate
    · exact hpenalties

/-- The steps of a loan's life after activation. -/
inductive LoanStep
  | payment (loanId : ℕ) (p : Payment)
  | upkeep (u : Upkeep)

def LoanStep.apply (db : Db) : LoanStep → Db
  | payment loanId p => receivePayment db loanId p
  | upkeep u => u.apply db

/-- The interest already paid does not exceed what is earned by the day of the payment,
or nothing but interest is left to pay. -/
def InterestWithinEarned (db : Db) (loanId : ℕ) (loan : Loan) (p : Payment) : Prop :=
  let owed := owedBreakdown db loanId loan
  ∀ start ∈ loan.disbursementDate, ∀ due ∈ loan.dueDate,
    owed.interestPaid ≤ interestEarned db loan start due (kenyaDate p.paidOn)
      (getPaymentSettings db p.tenantId).earlySettlementMethod ∨
    owed.principal + owed.fees = 0

/-- A payment that settles the loan early is not paid for with interest paid ahead. -/
def NoCreditUsed (loanId : ℕ) (db : Db) : LoanStep → Prop
  | .payment i p => i = loanId → ∀ loan ∈ db.loans[i]?,
      Accepts db loan p → SettlesEarly db i loan p → InterestWithinEarned db i loan p
  | _ => True

instance (db : Db) (loanId : ℕ) (loan : Loan) (p : Payment) :
    Decidable (InterestWithinEarned db loanId loan p) := by
  unfold InterestWithinEarned
  infer_instance

instance (loanId : ℕ) (db : Db) : (a : LoanStep) → Decidable (NoCreditUsed loanId db a)
  | .payment i p => inferInstanceAs (Decidable (i = loanId → ∀ loan ∈ db.loans[i]?,
      Accepts db loan p → SettlesEarly db i loan p → InterestWithinEarned db i loan p))
  | .upkeep _ => isTrue trivial

/-- What a loan's own amounts say was repaid. -/
def Loan.repaid (loan : Loan) : ℤ :=
  loan.totalDue + loan.feesInBalance + loan.penaltiesCharged - loan.interestRebate -
    loan.outstandingBalance

theorem balanced_iff {loanId : ℕ} {db : Db} :
    Balanced loanId db ↔ ∀ loan, db.loans[loanId]? = some loan → loan.repaid = db.paid loanId := by
  refine forall₂_congr fun loan _ => ?_
  simp only [expectedBalance, Loan.repaid]
  omega

/-- A step that adds no repayment and leaves what the loan says was repaid keeps the
law. -/
theorem balanced_of_repaid {loanId : ℕ} (db : Db) {db' : Db}
    (hrepayments : db'.repayments = db.repayments)
    (hloans : ∀ loan', db'.loans[loanId]? = some loan' →
      ∃ loan, db.loans[loanId]? = some loan ∧ loan'.repaid = loan.repaid)
    (h : Balanced loanId db) : Balanced loanId db' := by
  rw [balanced_iff] at h ⊢
  intro loan' hrow'
  obtain ⟨loan, hrow, hrepaid⟩ := hloans loan' hrow'
  have hpaid : db'.paid loanId = db.paid loanId := by
    simp [Db.paid, Db.repaymentsOf, hrepayments]
  rw [hrepaid, hpaid, h loan hrow]

/-- Changing every loan in place keeps the law when each change does. -/
theorem balanced_map {loanId : ℕ} {db : Db} (f : Loan → Loan)
    (hf : ∀ loan, (f loan).repaid = loan.repaid) (h : Balanced loanId db) :
    Balanced loanId { db with loans := db.loans.map f } := by
  refine balanced_of_repaid db rfl (fun loan' hrow' => ?_) h
  simp only [List.getElem?_map, Option.map_eq_some_iff] at hrow'
  obtain ⟨loan, hrow, rfl⟩ := hrow'
  exact ⟨loan, hrow, hf loan⟩

/-- The penalty is charged on both sides of the law. -/
theorem accrueOverduePenalty_repaid (product : Option Product) (loan : Loan) :
    (accrueOverduePenalty product loan).1.repaid = loan.repaid := by
  rw [accrueOverduePenalty_loan]
  simp only [Loan.repaid, Loan.totalDue]
  omega

theorem overdueAlert_repaid (products : List Product) (tenantId : ℕ) (today : ℤ) (loan : Loan) :
    (overdueAlert products tenantId today loan).1.repaid = loan.repaid := by
  unfold overdueAlert
  split
  · rw [accrueOverduePenalty_repaid]
    rfl
  · rfl

theorem defaultLoan_repaid (tenantId : ℕ) (cutoff : ℤ) (loan : Loan) :
    (defaultLoan tenantId cutoff loan).repaid = loan.repaid := by
  unfold defaultLoan
  split <;> rfl

/-- A division moves the two sides of the law apart unless it is a settlement whose
payoff and rebate are exactly the balance. -/
theorem settled_repaid (loan : Loan) (d : Division) (paidOn : ℤ) :
    (settled loan d paidOn).repaid = loan.repaid + max d.applied 0 ↔
      (d.settles = true → loan.outstandingBalance = max d.applied 0 + d.rebate) := by
  obtain ⟨status, lock, hloan⟩ := settled_loan loan d paidOn
  rw [hloan]
  cases hsettles : d.settles <;> simp [Loan.repaid, Loan.totalDue] <;> omega

/-- The payoff and the rebate of a settling payment are the whole balance exactly when
no interest paid ahead is used. -/
theorem divisionOf_clears {db : Db} {loanId : ℕ} {loan : Loan} {p : Payment}
    (h : SettlesEarly db loanId loan p) :
    loan.outstandingBalance =
        max (divisionOf db loanId loan p).applied 0 + (divisionOf db loanId loan p).rebate ↔
      InterestWithinEarned db loanId loan p := by
  obtain ⟨-, happlied, hrebate, -⟩ := divisionOf_settles h
  obtain ⟨start, due, base, hstart, hdue, -, hout, -, -, hquote, -, -⟩ := payoffQuote_early h.1
  obtain ⟨hsum, hp, hi, hf⟩ := owedBreakdown_parts db loanId hout.le
  rw [hquote] at happlied hrebate
  obtain ⟨hpayoff, -, -⟩ := earlyQuote_nonneg base (owedBreakdown db loanId loan) loan.interestTotal
    (interestEarned db loan start due (kenyaDate p.paidOn)
      (getPaymentSettings db p.tenantId).earlySettlementMethod) hi
  have hclears := earlyQuote_clears base (owedBreakdown db loanId loan) loan.interestTotal
    (interestEarned db loan start due (kenyaDate p.paidOn)
      (getPaymentSettings db p.tenantId).earlySettlementMethod) (by omega) hi
  have hwithin : InterestWithinEarned db loanId loan p ↔
      (owedBreakdown db loanId loan).interestPaid ≤
          interestEarned db loan start due (kenyaDate p.paidOn)
            (getPaymentSettings db p.tenantId).earlySettlementMethod ∨
        (owedBreakdown db loanId loan).principal + (owedBreakdown db loanId loan).fees = 0 := by
    simp [InterestWithinEarned, hstart, hdue]
  rw [hwithin, ← hclears, happlied, hrebate, max_eq_left hpayoff]
  omega

/-- A received payment keeps the law exactly when it uses no interest paid ahead. -/
theorem balanced_payment {loanId : ℕ} {db : Db} {loan : Loan} {p : Payment}
    (h : Balanced loanId db) (hrow : db.loans[loanId]? = some loan) :
    Balanced loanId (receivePayment db loanId p) ↔
      (Accepts db loan p → SettlesEarly db loanId loan p →
        InterestWithinEarned db loanId loan p) := by
  obtain ⟨hacc, hdb⟩ | ⟨hacc, hcoll, hdb⟩ | ⟨hacc, hcoll, logs, borrowers, hdb⟩ :=
    receivePayment_cases (p := p) hrow
  · rw [hdb]
    exact iff_of_true h fun hnew => absurd hnew hacc
  · rw [hdb]
    refine iff_of_true h fun _ hearly => ?_
    obtain ⟨_, _, _, _, _, hopen, _⟩ := payoffQuote_early hearly.1
    rw [hcoll] at hopen
    cases hopen
  · have hlt : loanId < db.loans.length := (List.getElem?_eq_some_iff.mp hrow).1
    have hpaid : (receivePayment db loanId p).paid loanId =
        loan.repaid + max (divisionOf db loanId loan p).applied 0 := by
      rw [balanced_iff.mp h loan hrow]
      exact paid_of_applied (by rw [hdb])
    rw [balanced_iff, hpaid, hdb]
    simp only [List.getElem?_set_self hlt, Option.some.injEq, forall_eq']
    rw [settled_repaid]
    by_cases hearly : SettlesEarly db loanId loan p
    · simp [(divisionOf_settles hearly).1, hacc, hearly, divisionOf_clears hearly]
    · simp [(divisionOf_plain hearly).1, hearly]

/-- A payment on another loan keeps the law. -/
theorem balanced_payment_other {loanId other : ℕ} {db : Db} {loan : Loan} {p : Payment}
    (hother : other ≠ loanId) (h : Balanced loanId db) (hrow : db.loans[other]? = some loan) :
    Balanced loanId (receivePayment db other p) := by
  obtain ⟨-, hdb⟩ | ⟨-, -, hdb⟩ | ⟨-, -, logs, borrowers, hdb⟩ := receivePayment_cases (p := p) hrow
  · rwa [hdb]
  · rw [hdb]
    exact h
  · rw [balanced_iff] at h ⊢
    intro row hget
    have hkept : db.loans[loanId]? = some row := by
      rwa [hdb, List.getElem?_set_ne hother] at hget
    rw [h row hkept]
    exact (paid_of_other hother (by rw [hdb])).symm

/-- Upkeep keeps the law. -/
theorem balanced_upkeep {loanId : ℕ} {db : Db} (u : Upkeep) (h : Balanced loanId db) :
    Balanced loanId (u.apply db) := by
  cases u with
  | settings tenantId order early =>
    simp only [Upkeep.apply]
    split
    · obtain ⟨configs, rfl⟩ := setPaymentSettings_db ‹_›
      exact h
    · exact h
  | penalty i =>
    refine balanced_of_repaid db rfl (fun loan' hrow' => ?_) h
    simp only [Upkeep.apply, Db.updateLoan, List.getElem?_modify, Option.map_eq_map,
      Option.map_eq_some_iff] at hrow'
    obtain ⟨loan, hrow, rfl⟩ := hrow'
    refine ⟨loan, hrow, ?_⟩
    split
    · exact accrueOverduePenalty_repaid _ loan
    · rfl
  | overdueAlerts tenantId today =>
    simp only [Upkeep.apply, runOverdueAlerts, List.map_map]
    exact balanced_map _ (overdueAlert_repaid db.products tenantId today) h
  | defaulting tenantId today graceDays =>
    exact balanced_map _ (defaultLoan_repaid tenantId (today - graceDays)) h

/-- The step lemma: the law survives a step exactly when the step uses no interest paid
ahead. -/
theorem balanced_step {loanId : ℕ} {db : Db} (a : LoanStep) (h : Balanced loanId db) :
    Balanced loanId (a.apply db) ↔ NoCreditUsed loanId db a := by
  cases a with
  | upkeep u => exact iff_of_true (balanced_upkeep u h) trivial
  | payment i p =>
    simp only [LoanStep.apply, NoCreditUsed]
    cases hrow : db.loans[i]? with
    | none => simpa [receivePayment, hrow] using h
    | some loan =>
      simp only [Option.mem_some_iff, forall_eq']
      by_cases hi : i = loanId
      · subst hi
        simpa using balanced_payment (p := p) h hrow
      · exact iff_of_true (balanced_payment_other hi h hrow) fun hsame => absurd hsame hi

/-- The balance law over whole runs: from activation it holds after every step exactly
when no settlement along the run is paid for with interest paid ahead. -/
theorem balance_law {db : Db} {loanId : ℕ} {loan : Loan} (steps : List LoanStep)
    (h : Activated db loanId loan) :
    Always LoanStep.apply (Balanced loanId) db steps ↔
      AllSteps LoanStep.apply (NoCreditUsed loanId) db steps :=
  always_iff_allSteps (fun _ a hs => balanced_step a hs) h.balanced

/-- Part payments, a penalty after the due date and the default sweep. -/
theorem balance_law_overdue : Always LoanStep.apply (Balanced 0) fourWeekBook
    [.payment 0 (paybillPayment 400000 "QA1" 3), .upkeep (.settings 1 (some "proportional") none),
      .payment 0 (paybillPayment 250000 "QA2" 20), .upkeep (.overdueAlerts 1 30),
      .payment 0 (paybillPayment 90000 "QA3" 31), .upkeep (.defaulting 1 70 30)] :=
  (balance_law _ ⟨rfl, by decide +kernel, rfl, rfl, rfl⟩).mpr (by decide +kernel)

/-- Under the proportional split 9,900 pays 900 of interest on the first day, of which
35.71 is earned. A payment of 135.71 then settles the loan, and 864.29 of the balance
goes with neither a repayment nor a rebate. -/
theorem balance_law_fails_on_credit : Activated fourWeekBook 0 fourWeekLoan ∧
    ¬ Always LoanStep.apply (Balanced 0) fourWeekBook
      [.upkeep (.settings 1 (some "proportional") none),
        .payment 0 (paybillPayment 990000 "QA1" 1), .payment 0 (paybillPayment 13571 "QA2" 1)] := by
  refine ⟨⟨rfl, by decide +kernel, rfl, rfl, rfl⟩, fun h => ?_⟩
  have hend := h.last
  revert hend
  decide +kernel

end FinylDcp
