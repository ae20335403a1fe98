import FinylDcp.Runs
import FinylDcp.PaymentEffects

/-!
# Interest given up on an early settlement

A borrower who repays before maturity is let off the interest of the remaining
period. What an early settlement gives up is the rebate and the parked refund of
interest paid ahead; it is measured here against what is earned by the latest
date the borrower paid on, in whatever order the payments were processed.
-/
namespace FinylDcp
open Runs Text

/-- The days the recorded repayments of a loan are dated. -/
def repaidOn (db : Db) (loanId : ℕ) : List ℤ :=
  (db.repaymentsOf loanId).map (fun r => kenyaDate r.paymentDate)

/-- The interest parked to be refunded on a loan. -/
def parkedInterest (suspense : List SuspenseEntry) (loanId : ℕ) : ℤ :=
  ((suspense.filter (fun e => e.reason = .interestRefundDue && e.matchedLoanId = some loanId)).map
    (·.amount)).sum

/-- The latest of some days. -/
def IsLatest (d : ℤ) (days : List ℤ) : Prop := d ∈ days ∧ ∀ x ∈ days, x ≤ d

instance (days : List ℤ) (P : ℤ → Prop) [DecidablePred P] :
    Decidable (∀ d, IsLatest d days → P d) :=
  decidable_of_iff (∀ d ∈ days, (∀ x ∈ days, x ≤ d) → P d)
    ⟨fun h d hd => h d hd.1 hd.2, fun h d hd hmax => h d ⟨hd, hmax⟩⟩

/-- An early settled loan gave up no more than the interest unearned by the last day
the borrower paid on. -/
def UnearnedOnly (loanId : ℕ) (db : Db) : Prop :=
  ∀ loan ∈ db.loans[loanId]?, loan.earlySettledAt.isSome = true →
    ∀ d, IsLatest d (repaidOn db loanId) →
      loan.interestRebate + parkedInterest db.suspense loanId ≤
        loan.interestTotal - earnedBy db loan d

instance (loanId : ℕ) (db : Db) : Decidable (UnearnedOnly loanId db) :=
  inferInstanceAs (Decidable (∀ loan ∈ db.loans[loanId]?, _))

/-- The interest a settlement counts as the lender's: what is earned by its own day;
when more was paid already, that, up to what the payoff can be paid from. A refund
whose reference is parked already is not parked again. -/
def countedInterest (db : Db) (loanId : ℕ) (loan : Loan) (p : Payment) : ℤ :=
  let owed := owedBreakdown db loanId loan
  let earned := earnedBy db loan (kenyaDate p.paidOn)
  if earned < owed.interestPaid then
    if suspenseWithRef db.suspense p.tenantId (some (p.reference ++ "-INT")) = none then
      min owed.interestPaid (earned + owed.principal + owed.fees)
    else owed.interestPaid
  else min earned loan.interestTotal

/-- The days paid on once the payment is in; a payoff of nothing is not a repayment. -/
def daysWith (db : Db) (loanId : ℕ) (loan : Loan) (p : Payment) : List ℤ :=
  repaidOn db loanId ++ if PayoffLeft db loanId loan p then [kenyaDate p.paidOn] else []

/-- A payment that settles the loan early counts at least the interest earned by the
latest day paid on. -/
def CountsLatestDay (loanId : ℕ) (db : Db) (p : Payment) : Prop :=
  ∀ loan ∈ db.loans[loanId]?, Accepts db loan p → SettlesEarly db loanId loan p →
    ∀ d, IsLatest d (daysWith db loanId loan p) →
      earnedBy db loan d ≤ countedInterest db loanId loan p

instance (loanId : ℕ) (db : Db) (p : Payment) : Decidable (CountsLatestDay loanId db p) :=
  inferInstanceAs (Decidable (∀ loan ∈ db.loans[loanId]?, _))

theorem parkedInterest_append (xs : List SuspenseEntry) (x : SuspenseEntry) (loanId : ℕ) :
    parkedInterest (xs ++ [x]) loanId = parkedInterest xs loanId +
      if x.reason = .interestRefundDue ∧ x.matchedLoanId = some loanId then x.amount else 0 := by
  by_cases h : x.reason = .interestRefundDue ∧ x.matchedLoanId = some loanId
  · simp [parkedInterest, h.1, h.2]
  · have hx : (decide (x.reason = .interestRefundDue) && decide (x.matchedLoanId = some loanId)) =
        false := by
      simpa using h
    simp [parkedInterest, hx, h]

/-- Parking money for another reason leaves the interest to be refunded as it is. -/
theorem parkedInterest_park (suspense : List SuspenseEntry) (x : Receipt) (now : ℤ) (loanId : ℕ)
    (h : x.reason ≠ .interestRefundDue) :
    parkedInterest (park suspense x now).1 loanId = parkedInterest suspense loanId := by
  by_cases hfree : suspenseWithRef suspense x.tenantId x.ref = none
  · rw [park_new hfree, parkedInterest_append]
    simp [Receipt.entry, h]
  · rw [park_known hfree]

/-- The overpayment of a payment does not take the reference of its interest refund. -/
theorem suspenseWithRef_overpayment (suspense : List SuspenseEntry) (loanId : ℕ) (p : Payment)
    (excess : ℤ) :
    suspenseWithRef (park suspense (overpaymentReceipt loanId p excess) p.now).1 p.tenantId
        (some (p.reference ++ "-INT")) = none ↔
      suspenseWithRef suspense p.tenantId (some (p.reference ++ "-INT")) = none := by
  have hdistinct : p.reference ++ "-OVR" ≠ p.reference ++ "-INT" := by
    intro h
    have := congrArg String.toList h
    simp at this
  by_cases hfree : suspenseWithRef suspense (overpaymentReceipt loanId p excess).tenantId
      (overpaymentReceipt loanId p excess).ref = none
  · have hkey : p.reference ++ "-INT" ≠ "" := by simp
    have hentry : ((overpaymentReceipt loanId p excess).entry p.now).mpesaRef =
        some (p.reference ++ "-OVR") := by
      simp [Receipt.entry, overpaymentReceipt, nonEmpty]
    rw [park_new hfree, suspenseWithRef_eq_none hkey, suspenseWithRef_eq_none hkey]
    simp only [List.mem_append, List.mem_singleton]
    constructor
    · exact fun h x hx => h x (.inl hx)
    · rintro h x (hx | rfl) htenant
      · exact h x hx htenant
      · rw [hentry]
        exact fun heq => hdistinct (Option.some_injective _ heq)
  · rw [park_known hfree]

/-- What parking the rest of a payment adds to the interest to be refunded. -/
theorem parkedInterest_parkRest (suspense : List SuspenseEntry) (loanId : ℕ) (p : Payment)
    (d : Division) :
    parkedInterest (parkRest suspense loanId p d) loanId =
      parkedInterest suspense loanId +
        if 0 < d.interestCredit ∧
          suspenseWithRef suspense p.tenantId (some (p.reference ++ "-INT")) = none
        then d.interestCredit else 0 := by
  have hover : ∀ entries, entries = (if 0 < p.amount - d.applied then
      (park suspense (overpaymentReceipt loanId p (p.amount - d.applied)) p.now).1
        else suspense) →
      parkedInterest entries loanId = parkedInterest suspense loanId ∧
      (suspenseWithRef entries p.tenantId (some (p.reference ++ "-INT")) = none ↔
        suspenseWithRef suspense p.tenantId (some (p.reference ++ "-INT")) = none) := by
    rintro entries rfl
    split
    · exact ⟨parkedInterest_park suspense _ p.now loanId (by simp [overpaymentReceipt]),
        suspenseWithRef_overpayment suspense loanId p _⟩
    · exact ⟨rfl, Iff.rfl⟩
  simp only [parkRest]
  generalize hpark : (if 0 < p.amount - d.applied then
    (park suspense (overpaymentReceipt loanId p (p.amount - d.applied)) p.now).1
      else suspense) = entries
  obtain ⟨hparked, hfree⟩ := hover entries hpark.symm
  by_cases hcredit : 0 < d.interestCredit
  · by_cases hnone : suspenseWithRef entries p.tenantId (some (p.reference ++ "-INT")) = none
    · have hnew : (park entries (interestRefundReceipt loanId p d.interestCredit) p.now).1 = _ :=
        park_new hnone
      have hnoneDb := hfree.mp hnone
      rw [if_pos hcredit, hnew, parkedInterest_append, hparked]
      simp [Receipt.entry, interestRefundReceipt, hcredit, hnoneDb]
    · have hknown : (park entries (interestRefundReceipt loanId p d.interestCredit) p.now).1 =
          entries :=
        park_known hnone
      rw [if_pos hcredit, hknown, hparked, if_neg (fun h => hnone (hfree.mpr h.2)), add_zero]
  · simp [hcredit, hparked]

/-- The rebate and the refund of a settlement are the flat interest less what the
settlement counts. -/
theorem forgone_eq {db : Db} {loanId : ℕ} {loan : Loan} {p : Payment}
    (hacc : Accepts db loan p) (hearly : SettlesEarly db loanId loan p) :
    (divisionOf db loanId loan p).rebate +
        (if 0 < (divisionOf db loanId loan p).interestCredit ∧
            suspenseWithRef db.suspense p.tenantId (some (p.reference ++ "-INT")) = none
          then (divisionOf db loanId loan p).interestCredit else 0) =
      loan.interestTotal - countedInterest db loanId loan p := by
  obtain ⟨-, -, hrebate, hcredit⟩ := divisionOf_settles hearly
  obtain ⟨start, due, base, hstart, hdue, -, hout, -, -, hquote, -, -⟩ := payoffQuote_early hearly.1
  obtain ⟨-, hp, hi, hf⟩ := owedBreakdown_parts db loanId hout.le
  have hpaid := owedBreakdown_interestPaid db loanId loan
  have hearned := earnedBy_eq hacc hstart hdue
  rw [hrebate, hcredit, hquote, ← hearned]
  simp only [earlyQuote, countedInterest]
  by_cases hfree : suspenseWithRef db.suspense p.tenantId (some (p.reference ++ "-INT")) = none
  · simp only [hfree, and_true, if_true]
    split_ifs <;> omega
  · simp only [hfree, and_false, if_false]
    split_ifs <;> omega

theorem repaidOn_applied {db db' : Db} {loanId : ℕ} {p : Payment} {d : Division}
    (h : db'.repayments = db.repayments ++ repaymentRow loanId p d) :
    repaidOn db' loanId = repaidOn db loanId ++
      if 0 < d.applied then [kenyaDate p.paidOn] else [] := by
  simp only [repaidOn, Db.repaymentsOf, h, repaymentRow]
  split_ifs <;> simp

/-- What a loan earns by a day depends on its terms, its product and the settings. -/
theorem earnedBy_congr {db db' : Db} {loan loan' : Loan} (on : ℤ)
    (hproducts : db'.products = db.products)
    (hconfigs : db'.paymentsConfigs = db.paymentsConfigs)
    (hloan : ∃ balance rebate settledAt status lock, loan' = { loan with
      outstandingBalance := balance, interestRebate := rebate, earlySettledAt := settledAt,
      status := status, activeLock := lock }) :
    earnedBy db' loan' on = earnedBy db loan on := by
  obtain ⟨_, _, _, _, _, rfl⟩ := hloan
  simp only [earnedBy, interestEarned, earnedInterestFraction, periodDays, getPaymentSettings,
    hproducts, hconfigs, Loan.interestTotal]

/-- Nothing was given up on the loan so far. -/
def Unsettled (loanId : ℕ) (db : Db) : Prop :=
  ∀ loan ∈ db.loans[loanId]?, loan.earlySettledAt = none ∧ loan.interestRebate = 0 ∧
    parkedInterest db.suspense loanId = 0

/-- The loan takes no more payments. -/
def Closed (loanId : ℕ) (db : Db) : Prop :=
  ∀ loan ∈ db.loans[loanId]?, loan.status.collectible = false

instance (loanId : ℕ) (db : Db) : Decidable (Unsettled loanId db) :=
  inferInstanceAs (Decidable (∀ loan ∈ db.loans[loanId]?, _))

theorem Unsettled.unearnedOnly {loanId : ℕ} {db : Db} (h : Unsettled loanId db) :
    UnearnedOnly loanId db := by
  intro loan hrow hsettled
  rw [(h loan hrow).1] at hsettled
  cases hsettled

/-- A closed loan is not settled. -/
theorem Closed.countsLatestDay {loanId : ℕ} {db : Db} (h : Closed loanId db) (p : Payment) :
    CountsLatestDay loanId db p := by
  intro loan hrow _ hearly
  obtain ⟨_, _, _, _, _, hopen, _⟩ := payoffQuote_early hearly.1
  rw [h loan hrow] at hopen
  cases hopen

/-- A settlement leaves the loan closed, and within the unearned interest exactly when
it counts the latest day. -/
theorem settlement_step {loanId : ℕ} {db : Db} {loan : Loan} {p : Payment}
    (h : Unsettled loanId db) (hrow : db.loans[loanId]? = some loan) (hacc : Accepts db loan p)
    (hcoll : loan.status.collectible = true) (hearly : SettlesEarly db loanId loan p) :
    Closed loanId (receivePayment db loanId p) ∧
      (UnearnedOnly loanId (receivePayment db loanId p) ↔ CountsLatestDay loanId db p) := by
  have hlt : loanId < db.loans.length := (List.getElem?_eq_some_iff.mp hrow).1
  obtain ⟨hsettles, -, -, -⟩ := divisionOf_settles hearly
  obtain ⟨hnever, hrebate, hparked⟩ := h loan hrow
  obtain ⟨hno, -⟩ | ⟨-, hno, -⟩ | ⟨-, -, logs, borrowers, hdb⟩ := receivePayment_cases (p := p) hrow
  · exact absurd hacc hno
  · rw [hcoll] at hno
    cases hno
  have hrow' : (receivePayment db loanId p).loans[loanId]? =
      some (settled loan (divisionOf db loanId loan p) p.paidOn) := by
    rw [hdb]
    exact List.getElem?_set_self hlt
  obtain ⟨status, lock, hloan⟩ := settled_loan loan (divisionOf db loanId loan p) p.paidOn
  have hforgone : (settled loan (divisionOf db loanId loan p) p.paidOn).interestRebate +
      parkedInterest (receivePayment db loanId p).suspense loanId =
        loan.interestTotal - countedInterest db loanId loan p := by
    rw [← forgone_eq hacc hearly, hdb, parkedInterest_parkRest, hparked, hloan]
    simp [hsettles, hrebate]
  have hdays : repaidOn (receivePayment db loanId p) loanId = daysWith db loanId loan p := by
    rw [repaidOn_applied (by rw [hdb])]
    simp only [daysWith, settles_applied_pos hacc hearly]
  have hearned : ∀ on, earnedBy (receivePayment db loanId p)
      (settled loan (divisionOf db loanId loan p) p.paidOn) on = earnedBy db loan on :=
    fun on => earnedBy_congr on (by rw [hdb]) (by rw [hdb]) ⟨_, _, _, _, _, hloan⟩
  have htotal : (settled loan (divisionOf db loanId loan p) p.paidOn).interestTotal =
      loan.interestTotal := by
    rw [hloan]
    rfl
  have hsettledAt : (settled loan (divisionOf db loanId loan p) p.paidOn).earlySettledAt.isSome =
      true := by
    simp [hloan, hsettles]
  constructor
  · simp [Closed, hrow', settled_status p.paidOn hsettles hcoll, LoanStatus.collectible]
  · simp only [UnearnedOnly, CountsLatestDay, hrow', hrow, Option.mem_some_iff, forall_eq',
      hsettledAt, hacc, hearly, forall_const, hdays, hforgone, hearned, htotal]
    exact forall₂_congr fun d _ => by omega

/-- Any other payment gives nothing up. -/
theorem unsettled_step {loanId : ℕ} {db : Db} {p : Payment} (h : Unsettled loanId db)
    (hplain : ∀ loan ∈ db.loans[loanId]?, Accepts db loan p → ¬ SettlesEarly db loanId loan p) :
    Unsettled loanId (receivePayment db loanId p) := by
  cases hrow : db.loans[loanId]? with
  | none => simpa [receivePayment, hrow] using h
  | some loan =>
    obtain ⟨hnever, hrebate, hparked⟩ := h loan hrow
    obtain ⟨-, hdb⟩ | ⟨-, -, hdb⟩ | ⟨hacc, -, logs, borrowers, hdb⟩ :=
      receivePayment_cases (p := p) hrow
    · rwa [hdb]
    · rw [hdb]
      simp only [Unsettled, recordSuspense, hrow, Option.mem_some_iff, forall_eq']
      refine ⟨hnever, hrebate, ?_⟩
      rw [parkedInterest_park _ _ _ _ (by simp [closedLoanReceipt]), hparked]
    · have hlt : loanId < db.loans.length := (List.getElem?_eq_some_iff.mp hrow).1
      obtain ⟨hsettles, -, -, hcredit⟩ := divisionOf_plain (hplain loan hrow hacc)
      obtain ⟨status, lock, hloan⟩ := settled_loan loan (divisionOf db loanId loan p) p.paidOn
      rw [hdb]
      simp only [Unsettled, List.getElem?_set_self hlt, Option.mem_some_iff, forall_eq']
      rw [parkedInterest_parkRest, hcredit, hloan]
      simp [hsettles, hnever, hrebate, hparked]

/-- A closed loan stays as it was settled. -/
theorem closed_step {loanId : ℕ} {db : Db} (p : Payment) (h : Closed loanId db) :
    Closed loanId (receivePayment db loanId p) ∧
      (UnearnedOnly loanId (receivePayment db loanId p) ↔ UnearnedOnly loanId db) := by
  cases hrow : db.loans[loanId]? with
  | none =>
    have hsame : receivePayment db loanId p = db := by simp [receivePayment, hrow]
    rw [hsame]
    exact ⟨h, Iff.rfl⟩
  | some loan =>
    obtain ⟨-, hdb⟩ | ⟨-, -, hdb⟩ | ⟨-, hcoll, -⟩ := receivePayment_cases (p := p) hrow
    · rw [hdb]
      exact ⟨h, Iff.rfl⟩
    · rw [hdb]
      refine ⟨h, ?_⟩
      simp only [UnearnedOnly, recordSuspense,
        parkedInterest_park _ _ _ _ (show (closedLoanReceipt loanId p).reason ≠ _ by
          simp [closedLoanReceipt])]
      rfl
    · rw [h loan hrow] at hcoll
      cases hcoll

theorem closed_run {loanId : ℕ} {db : Db} (payments : List Payment) (h : Closed loanId db) :
    (UnearnedOnly loanId (run (receivePayment · loanId ·) db payments) ↔ UnearnedOnly loanId db) ∧
      AllSteps (receivePayment · loanId ·) (CountsLatestDay loanId) db payments := by
  induction payments generalizing db with
  | nil => exact ⟨Iff.rfl, trivial⟩
  | cons p payments ih =>
    obtain ⟨hclosed, hsame⟩ := closed_step p h
    obtain ⟨hrun, hall⟩ := ih hclosed
    exact ⟨hrun.trans hsame, h.countsLatestDay p, hall⟩

/-- In whatever order the payments of a loan are processed, it ends with no more given
up than the interest unearned by the latest day paid on exactly when the settling
payment counts that day. -/
theorem unearned_interest_only {loanId : ℕ} {db : Db} (payments : List Payment)
    (h : Unsettled loanId db) :
    UnearnedOnly loanId (run (receivePayment · loanId ·) db payments) ↔
      AllSteps (receivePayment · loanId ·) (CountsLatestDay loanId) db payments := by
  induction payments generalizing db with
  | nil => exact iff_of_true h.unearnedOnly trivial
  | cons p payments ih =>
    by_cases hplain : ∀ loan ∈ db.loans[loanId]?, Accepts db loan p →
      ¬ SettlesEarly db loanId loan p
    · have hcounts : CountsLatestDay loanId db p :=
        fun loan hrow hacc hearly => absurd hearly (hplain loan hrow hacc)
      rw [run_cons, ih (unsettled_step h hplain)]
      exact (and_iff_right hcounts).symm
    · push Not at hplain
      obtain ⟨loan, hrow, hacc, hearly⟩ := hplain
      obtain ⟨_, _, _, _, _, hcoll, _⟩ := payoffQuote_early hearly.1
      obtain ⟨hclosed, hcounts⟩ := settlement_step h hrow hacc hcoll hearly
      obtain ⟨hrun, hall⟩ := closed_run payments hclosed
      rw [run_cons, hrun, hcounts]
      exact (and_iff_left hall).symm

/-- Interest first, so that more is paid on day 2 than is earned, and settled on day 9. -/
theorem unearned_interest_only_in_order : UnearnedOnly 0
    (run (receivePayment · 0 ·)
      { fourWeekBook with paymentsConfigs := [⟨1, some "interest_fees_principal", none⟩] }
      [paybillPayment 300000 "QB1" 2, paybillPayment 800000 "QB2" 9]) :=
  (unearned_interest_only _ (by decide +kernel)).mpr (by decide +kernel)

/-- Half of the loan is paid on day 20 and processed; the other half, dated day 5, is
processed after it and settles the loan. The rebate of 821.43 is that of day 5, while
285.71 was unearned on day 20. -/
theorem backdated_settlement_gives_up_more : Unsettled 0 fourWeekBook ∧
    ¬ UnearnedOnly 0 (run (receivePayment · 0 ·) fourWeekBook
      [paybillPayment 550000 "QB1" 20, paybillPayment 550000 "QB2" 5]) := by
  decide +kernel

end FinylDcp
