import FinylDcp.BalanceLaw
import FinylDcp.PaymentConservation
import FinylDcp.RequestPostings

/-!
# Component totals over a loan's life

What all repayments of a loan were recorded as, part by part, against the terms of the
loan. Under an order of the parts no cap is ever passed, also where the order changes
between payments. The proportional split keeps the flat ratio whatever is owed.
-/
namespace FinylDcp
open Decimal Runs

/-- What the repayments of a loan are recorded as. -/
def recorded (db : Db) (loanId : ℕ) : Components where
  interest := ((db.repaymentsOf loanId).map (·.interestComponent)).sum
  fees := ((db.repaymentsOf loanId).map (·.feeComponent)).sum
  principal := ((db.repaymentsOf loanId).map (·.principalComponent)).sum

/-- No more principal and interest is recorded than the loan has. -/
def WithinTerms (loanId : ℕ) (db : Db) : Prop :=
  ∀ loan ∈ db.loans[loanId]?, (recorded db loanId).principal ≤ loan.principal ∧
    (recorded db loanId).interest ≤ loan.interestTotal

/-- No more fees are recorded than were put on the balance. -/
def WithinFees (loanId : ℕ) (db : Db) : Prop :=
  ∀ loan ∈ db.loans[loanId]?,
    (recorded db loanId).fees ≤ loan.feesInBalance + loan.penaltiesCharged

/-- The payment is split in the flat ratio. -/
def SplitsFlat (db : Db) (loanId : ℕ) (loan : Loan) (p : Payment) : Prop :=
  (getPaymentSettings db p.tenantId).allocationOrder.parts = none ∧ ¬ SettlesEarly db loanId loan p

/-- A payment split in the flat ratio leaves both its shares within what is not recorded
yet of the terms. -/
def SplitFitsTerms (loanId : ℕ) (db : Db) : LoanStep → Prop
  | .payment i p => i = loanId → ∀ loan ∈ db.loans[i]?, Accepts db loan p →
      loan.status.collectible = true → 0 < loan.outstandingBalance → SplitsFlat db i loan p →
      let split := splitInterestPrincipal (min p.amount loan.outstandingBalance) loan.interestRate
      split.2 ≤ loan.principal - (recorded db i).principal ∧
        split.1 ≤ loan.interestTotal - (recorded db i).interest
  | .upkeep _ => True

instance (db : Db) (loanId : ℕ) (loan : Loan) (p : Payment) :
    Decidable (SplitsFlat db loanId loan p) := by
  unfold SplitsFlat
  infer_instance

instance (loanId : ℕ) (db : Db) : Decidable (WithinTerms loanId db) :=
  inferInstanceAs (Decidable (∀ loan ∈ db.loans[loanId]?, _))

instance (loanId : ℕ) (db : Db) : (a : LoanStep) → Decidable (SplitFitsTerms loanId db a)
  | .payment i _ => inferInstanceAs (Decidable (i = loanId → ∀ loan ∈ db.loans[i]?, _))
  | .upkeep _ => isTrue trivial

section Recorded

variable {db db' : Db} {loanId : ℕ} {p : Payment} {d : Division}

theorem recorded_applied (h : db'.repayments = db.repayments ++ repaymentRow loanId p d) :
    ∀ part, (recorded db' loanId).get part =
      (recorded db loanId).get part + if 0 < d.applied then d.components.get part else 0 := by
  intro part
  by_cases happlied : 0 < d.applied
  · cases part <;> simp [recorded, Db.repaymentsOf, h, repaymentRow, happlied, Components.get]
  · cases part <;> simp [recorded, Db.repaymentsOf, h, repaymentRow, happlied, Components.get]

theorem recorded_other {other : ℕ} (hother : other ≠ loanId)
    (h : db'.repayments = db.repayments ++ repaymentRow other p d) :
    recorded db' loanId = recorded db loanId := by
  by_cases happlied : 0 < d.applied
  · simp [recorded, Db.repaymentsOf, h, repaymentRow, happlied, hother]
  · simp [recorded, Db.repaymentsOf, h, repaymentRow, happlied]

end Recorded

/-- The books of a loan: its terms are not negative, its repayments are its tenant's, its
balance is no more than what is not recorded yet of terms and charges, and the fees
recorded are within the charges. -/
structure Loan.Booked (db : Db) (loanId : ℕ) (loan : Loan) : Prop where
  principal : 0 ≤ loan.principal
  rate : 0 ≤ loan.interestRate
  column : loan.interestRate < 10 ^ 3
  tenant : ∀ r ∈ db.repaymentsOf loanId, r.tenantId = loan.tenantId
  balance : 0 ≤ loan.outstandingBalance
  slack : loan.outstandingBalance + (recorded db loanId).total ≤
    loan.principal + loan.interestTotal + loan.feesInBalance + loan.penaltiesCharged
  fees : (recorded db loanId).fees ≤ loan.feesInBalance + loan.penaltiesCharged

/-- Closing a gap takes from both sides. -/
theorem closeGap_le {gap principalOwed interestOwed : ℤ} {rate : ℚ} (hgap : 0 ≤ gap)
    (hprincipal : 0 ≤ principalOwed) (hinterest : 0 ≤ interestOwed) (hrate : 0 ≤ rate)
    (hcolumn : rate < 10 ^ 3) :
    (closeGap gap principalOwed interestOwed rate).1 ≤ principalOwed ∧
      (closeGap gap principalOwed interestOwed rate).2 ≤ interestOwed := by
  obtain ⟨hleast, hmost⟩ := split_bounds hgap hrate hcolumn
  simp only [closeGap]
  generalize (splitInterestPrincipal gap rate).1 = share at hleast hmost ⊢
  split_ifs with h
  · constructor <;> omega
  · constructor <;> omega

section Payment

variable {db : Db} {loanId : ℕ} {loan : Loan} {p : Payment}

/-- No part owed is more than its terms and charges leave, whatever was recorded before. -/
theorem owedBreakdown_le (h : loan.Booked db loanId) :
    (owedBreakdown db loanId loan).principal ≤
        max (loan.principal - (recorded db loanId).principal) 0 ∧
      (owedBreakdown db loanId loan).interest ≤
        max (loan.interestTotal - (recorded db loanId).interest) 0 ∧
      (owedBreakdown db loanId loan).fees ≤
        loan.feesInBalance + loan.penaltiesCharged - (recorded db loanId).fees := by
  have hrows : (db.repaymentsOf loanId).filter (fun r => r.tenantId = loan.tenantId) =
      db.repaymentsOf loanId :=
    List.filter_eq_self.mpr fun r hr => by simpa using h.tenant r hr
  have hprincipal : ((db.repaymentsOf loanId).map (·.principalComponent)).sum =
      (recorded db loanId).principal := rfl
  have hinterest : ((db.repaymentsOf loanId).map (·.interestComponent)).sum =
      (recorded db loanId).interest := rfl
  have hslack := h.slack
  have hfees := h.fees
  simp only [Components.total] at hslack
  simp only [owedBreakdown, hrows, hprincipal, hinterest]
  split_ifs with hgap
  · obtain ⟨hp, hi⟩ := @closeGap_le
      (-(loan.outstandingBalance - max (loan.principal - (recorded db loanId).principal) 0 -
        max (loan.interestTotal - (recorded db loanId).interest) 0))
      (max (loan.principal - (recorded db loanId).principal) 0)
      (max (loan.interestTotal - (recorded db loanId).interest) 0) loan.interestRate (by omega)
      (le_max_right _ _) (le_max_right _ _) h.rate h.column
    exact ⟨hp, hi, by dsimp only; omega⟩
  · exact ⟨le_rfl, le_rfl, by dsimp only; omega⟩

/-- Nor is any part of a payoff. -/
theorem owedParts_le (h : loan.Booked db loanId) :
    (owedParts db loanId loan p).principal ≤
        max (loan.principal - (recorded db loanId).principal) 0 ∧
      (owedParts db loanId loan p).interest ≤
        max (loan.interestTotal - (recorded db loanId).interest) 0 ∧
      (owedParts db loanId loan p).fees ≤
        loan.feesInBalance + loan.penaltiesCharged - (recorded db loanId).fees := by
  obtain ⟨hp, hi, hf⟩ := owedBreakdown_le h
  by_cases hearly : SettlesEarly db loanId loan p
  · obtain ⟨start, due, base, -, -, -, -, -, -, hquote, hbaseP, hbaseF⟩ :=
      payoffQuote_early hearly.1
    rw [owedParts_settles hearly, hquote]
    simp only [earlyQuote, hbaseP, hbaseF]
    exact ⟨hp, (min_le_right _ _).trans hi, hf⟩
  · rw [owedParts_plain hearly]
    exact ⟨hp, hi, hf⟩

/-- Any other payment is poured over all parts. -/
theorem poured_of_not_flat (hbalance : 0 ≤ loan.outstandingBalance) (hamount : 0 < p.amount)
    (h : ¬ SplitsFlat db loanId loan p) : ∃ parts, (∀ part, part ∈ parts) ∧
      Poured (owedParts db loanId loan p) (divisionOf db loanId loan p).components parts := by
  by_cases hearly : SettlesEarly db loanId loan p
  · obtain ⟨hall, hpoured, -⟩ := settles_poured hbalance hamount hearly
    exact ⟨_, hall, hpoured⟩
  · cases hparts : (getPaymentSettings db p.tenantId).allocationOrder.parts with
    | none => exact absurd ⟨hparts, hearly⟩ h
    | some parts =>
      exact ⟨parts, AllocationOrder.mem_parts hparts,
        (divisionOf_poured hbalance hamount hparts).1⟩

/-- A payment records no fees beyond the charges. -/
theorem recorded_fees_le (h : loan.Booked db loanId) (hamount : 0 < p.amount) :
    (recorded db loanId).fees + (if 0 < (divisionOf db loanId loan p).applied then
        (divisionOf db loanId loan p).components.fees else 0) ≤
      loan.feesInBalance + loan.penaltiesCharged := by
  have hfees := h.fees
  split_ifs with happlied
  · by_cases hflat : SplitsFlat db loanId loan p
    · rw [components_proportional hflat.2 hflat.1 happlied]
      exact (add_zero _).trans_le hfees
    · obtain ⟨parts, hall, hpoured⟩ := poured_of_not_flat h.balance hamount hflat
      have hwithin := hpoured.within .fees (hall .fees)
      have howed := (@owedParts_le db loanId loan p h).2.2
      simp only [Components.get] at hwithin
      omega
  · omega

/-- It records no more than the terms exactly when a split in the flat ratio fits them. -/
theorem recorded_terms_le_iff (h : loan.Booked db loanId) (hamount : 0 < p.amount)
    (hprincipal : (recorded db loanId).principal ≤ loan.principal)
    (hinterest : (recorded db loanId).interest ≤ loan.interestTotal) :
    ((recorded db loanId).principal + (if 0 < (divisionOf db loanId loan p).applied then
          (divisionOf db loanId loan p).components.principal else 0) ≤ loan.principal ∧
        (recorded db loanId).interest + (if 0 < (divisionOf db loanId loan p).applied then
          (divisionOf db loanId loan p).components.interest else 0) ≤ loan.interestTotal) ↔
      (0 < loan.outstandingBalance → SplitsFlat db loanId loan p →
        let split := splitInterestPrincipal (min p.amount loan.outstandingBalance) loan.interestRate
        split.2 ≤ loan.principal - (recorded db loanId).principal ∧
          split.1 ≤ loan.interestTotal - (recorded db loanId).interest) := by
  by_cases hflat : SplitsFlat db loanId loan p
  · have happlied := (divisionOf_plain hflat.2).2.1
    simp only [hflat, true_imp_iff]
    by_cases hpositive : 0 < (divisionOf db loanId loan p).applied
    · rw [if_pos hpositive, if_pos hpositive, components_proportional hflat.2 hflat.1 hpositive]
      have hopen : 0 < loan.outstandingBalance := by omega
      simp only [hopen, true_imp_iff]
      omega
    · rw [if_neg hpositive, if_neg hpositive]
      refine iff_of_true ⟨by omega, by omega⟩ fun hopen => absurd ?_ hpositive
      omega
  · obtain ⟨parts, hall, hpoured⟩ := poured_of_not_flat h.balance hamount hflat
    refine iff_of_true ?_ (fun _ h => absurd h hflat)
    obtain ⟨howedP, howedI, -⟩ := @owedParts_le db loanId loan p h
    have hwithinP := hpoured.within .principal (hall .principal)
    have hwithinI := hpoured.within .interest (hall .interest)
    simp only [Components.get] at hwithinP hwithinI
    split_ifs
    · constructor <;> omega
    · constructor <;> omega

end Payment

/-- The loan's row has its books in order. -/
def InBooks (loanId : ℕ) (db : Db) : Prop := ∀ loan ∈ db.loans[loanId]?, loan.Booked db loanId

/-- Repayments and loans decide about the books. -/
theorem recorded_congr {db db' : Db} {loanId : ℕ} (h : db'.repayments = db.repayments) :
    recorded db' loanId = recorded db loanId := by
  simp only [recorded, Db.repaymentsOf, h]

theorem Loan.Booked.congr {db db' : Db} {loanId : ℕ} {loan : Loan} (h : loan.Booked db loanId)
    (hrepayments : db'.repayments = db.repayments) : loan.Booked db' loanId := by
  have hrecorded := @recorded_congr db db' loanId hrepayments
  refine ⟨h.principal, h.rate, h.column, ?_, h.balance, ?_, ?_⟩
  · intro r hr
    simp only [Db.repaymentsOf, hrepayments] at hr
    exact h.tenant r hr
  · rw [hrecorded]
    exact h.slack
  · rw [hrecorded]
    exact h.fees

section Applied

variable {db db' : Db} {loanId : ℕ} {loan : Loan} {p : Payment}

/-- The books of a loan after a payment on it. -/
theorem Loan.Booked.paid (h : loan.Booked db loanId) (hacc : Accepts db loan p)
    (hrepayments : db'.repayments =
      db.repayments ++ repaymentRow loanId p (divisionOf db loanId loan p)) :
    (settled loan (divisionOf db loanId loan p) p.paidOn).Booked db' loanId := by
  obtain ⟨status, lock, hloan⟩ := settled_loan loan (divisionOf db loanId loan p) p.paidOn
  have hrecorded := @recorded_applied db db' loanId p (divisionOf db loanId loan p) hrepayments
  have hprincipal := hrecorded .principal
  have hinterest := hrecorded .interest
  have hfees := hrecorded .fees
  simp only [Components.get] at hprincipal hinterest hfees
  have htotal := @components_total db loanId loan p h.balance hacc.1
  have hslack := h.slack
  obtain ⟨-, hleast, -, hmost⟩ := @owedParts_bounds db loanId loan p h.balance hacc.1
  simp only [Components.total] at htotal hslack
  have hinterestTotal : (settled loan (divisionOf db loanId loan p) p.paidOn).interestTotal =
      loan.interestTotal := by
    rw [hloan]
    rfl
  rw [hloan] at hinterestTotal ⊢
  refine ⟨h.principal, h.rate, h.column, ?_, ?_, ?_, ?_⟩
  · intro r hr
    simp only [Db.repaymentsOf, hrepayments, List.filter_append, List.mem_append] at hr
    obtain hold | hnew := hr
    · exact h.tenant r hold
    · simp only [repaymentRow] at hnew
      split_ifs at hnew
      · simp only [decide_true, List.filter_cons_of_pos, List.filter_nil,
          List.mem_singleton] at hnew
        rw [hnew]
        exact hacc.2.1.symm
      · cases hnew
  · dsimp only
    split_ifs <;> omega
  · simp only [hinterestTotal, Components.total, hprincipal, hinterest, hfees]
    split_ifs <;> omega
  · rw [hfees]
    exact recorded_fees_le h hacc.1

end Applied

/-- A payment keeps the books, and the caps exactly when its split fits the terms. -/
theorem payment_step {loanId : ℕ} {db : Db} {loan : Loan} {p : Payment} (h : InBooks loanId db)
    (hrow : db.loans[loanId]? = some loan) :
    InBooks loanId (receivePayment db loanId p) ∧ (WithinTerms loanId db →
      (WithinTerms loanId (receivePayment db loanId p) ↔
        SplitFitsTerms loanId db (.payment loanId p))) := by
  have hbooked := h loan hrow
  simp only [SplitFitsTerms, hrow, Option.mem_some_iff, forall_eq', true_imp_iff]
  obtain ⟨hno, hdb⟩ | ⟨-, hclosed, hdb⟩ | ⟨hacc, hopen, logs, borrowers, hdb⟩ :=
    receivePayment_cases (p := p) hrow
  · rw [hdb]
    exact ⟨h, fun hterms => iff_of_true hterms fun hacc => absurd hacc hno⟩
  · rw [hdb]
    refine ⟨fun row hl => (h row hl).congr rfl, fun hterms => iff_of_true hterms fun _ hopen => ?_⟩
    rw [hclosed] at hopen
    cases hopen
  · have hlt : loanId < db.loans.length := (List.getElem?_eq_some_iff.mp hrow).1
    have hrepayments : (receivePayment db loanId p).repayments =
        db.repayments ++ repaymentRow loanId p (divisionOf db loanId loan p) := by rw [hdb]
    have hrow' : (receivePayment db loanId p).loans[loanId]? =
        some (settled loan (divisionOf db loanId loan p) p.paidOn) := by
      rw [hdb]
      exact List.getElem?_set_self hlt
    have hrecorded := @recorded_applied db _ loanId p _ hrepayments
    constructor
    · intro loan' hloan'
      rw [hrow'] at hloan'
      obtain rfl := Option.some.inj hloan'
      exact hbooked.paid hacc hrepayments
    · intro hterms
      obtain ⟨hprincipal, hinterest⟩ := hterms loan hrow
      obtain ⟨status, lock, hloan⟩ := settled_loan loan (divisionOf db loanId loan p) p.paidOn
      have hsame : (settled loan (divisionOf db loanId loan p) p.paidOn).principal =
          loan.principal ∧
          (settled loan (divisionOf db loanId loan p) p.paidOn).interestTotal =
            loan.interestTotal := by
        rw [hloan]
        exact ⟨rfl, rfl⟩
      simp only [WithinTerms, hrow', Option.mem_some_iff, forall_eq', hsame.1, hsame.2, hacc, hopen,
        true_imp_iff]
      have hnewP := hrecorded .principal
      have hnewI := hrecorded .interest
      simp only [Components.get] at hnewP hnewI
      rw [hnewP, hnewI]
      exact recorded_terms_le_iff hbooked hacc.1 hprincipal hinterest

/-- A payment on another loan leaves both as they are. -/
theorem other_payment_step {loanId other : ℕ} {db : Db} {p : Payment} (hother : other ≠ loanId)
    (h : InBooks loanId db) : InBooks loanId (receivePayment db other p) ∧
      (WithinTerms loanId db → WithinTerms loanId (receivePayment db other p)) := by
  cases hrow : db.loans[other]? with
  | none =>
    have hsame : receivePayment db other p = db := by simp [receivePayment, hrow]
    rw [hsame]
    exact ⟨h, id⟩
  | some loan =>
    obtain ⟨-, hdb⟩ | ⟨-, -, hdb⟩ | ⟨-, -, logs, borrowers, hdb⟩ :=
      receivePayment_cases (p := p) hrow
    · rw [hdb]
      exact ⟨h, id⟩
    · rw [hdb]
      exact ⟨fun row hl => (h row hl).congr rfl, id⟩
    · have hrepayments : (receivePayment db other p).repayments =
          db.repayments ++ repaymentRow other p (divisionOf db other loan p) := by rw [hdb]
      have hrecorded := @recorded_other db _ loanId p _ other hother hrepayments
      have hkept : (receivePayment db other p).loans[loanId]? = db.loans[loanId]? := by
        rw [hdb]
        exact List.getElem?_set_ne hother
      have hrows : (receivePayment db other p).repaymentsOf loanId = db.repaymentsOf loanId := by
        rw [Db.repaymentsOf, hrepayments, repaymentRow]
        split_ifs <;> simp [Db.repaymentsOf, hother]
      constructor
      · intro row hl
        rw [hkept] at hl
        have hbooked := h row hl
        refine ⟨hbooked.principal, hbooked.rate, hbooked.column, ?_, hbooked.balance, ?_, ?_⟩
        · rw [hrows]
          exact hbooked.tenant
        · rw [hrecorded]
          exact hbooked.slack
        · rw [hrecorded]
          exact hbooked.fees
      · intro hterms row hl
        rw [hkept] at hl
        rw [hrecorded]
        exact hterms row hl

/-- Upkeep adds to the balance what it charges. -/
theorem upkeep_step {loanId : ℕ} {db : Db} (u : Upkeep) (h : InBooks loanId db) :
    InBooks loanId (u.apply db) ∧ (WithinTerms loanId db → WithinTerms loanId (u.apply db)) := by
  have hrepayments : (u.apply db).repayments = db.repayments := by
    obtain ⟨loans, configs, hdb⟩ := u.apply_db db
    rw [hdb]
  have hrecorded := @recorded_congr db _ loanId hrepayments
  have hinterest : ∀ l l' : Loan, l.Keeps l' → l'.interestTotal = l.interestTotal := by
    intro l l' hkeeps
    rw [Loan.interestTotal, hkeeps.principal, hkeeps.interestRate, Loan.interestTotal]
  constructor
  · intro l' hl'
    obtain ⟨l, hl, hkeeps⟩ := Tables.getElem?_of_forall₂ (upkeep_keeps db u) hl'
    have hbooked := h l hl
    have hbalance := hkeeps.balance
    have hpenalties := hkeeps.penalties
    have hslack := hbooked.slack
    have hfees := hbooked.fees
    refine ⟨?_, ?_, ?_, ?_, ?_, ?_, ?_⟩
    · rw [hkeeps.principal]
      exact hbooked.principal
    · rw [hkeeps.interestRate]
      exact hbooked.rate
    · rw [hkeeps.interestRate]
      exact hbooked.column
    · rw [hkeeps.tenant]
      exact (hbooked.congr hrepayments).tenant
    · have hopen := hbooked.balance
      omega
    · rw [hrecorded, hkeeps.principal, hinterest l l' hkeeps, hkeeps.fees]
      omega
    · rw [hrecorded, hkeeps.fees]
      omega
  · intro hterms l' hl'
    obtain ⟨l, hl, hkeeps⟩ := Tables.getElem?_of_forall₂ (upkeep_keeps db u) hl'
    rw [hrecorded, hkeeps.principal, hinterest l l' hkeeps]
    exact hterms l hl

/-- The step lemma: a step keeps the books, and the caps exactly when its split fits. -/
theorem books_step {loanId : ℕ} {db : Db} (a : LoanStep) (h : InBooks loanId db) :
    InBooks loanId (a.apply db) ∧ (WithinTerms loanId db →
      (WithinTerms loanId (a.apply db) ↔ SplitFitsTerms loanId db a)) := by
  cases a with
  | upkeep u =>
    obtain ⟨hbooks, hkept⟩ := upkeep_step u h
    exact ⟨hbooks, fun hterms => iff_of_true (hkept hterms) trivial⟩
  | payment i p =>
    simp only [LoanStep.apply]
    by_cases hi : i = loanId
    · subst hi
      cases hrow : db.loans[i]? with
      | none =>
        have hsame : receivePayment db i p = db := by simp [receivePayment, hrow]
        rw [hsame]
        exact ⟨h, fun hterms => iff_of_true hterms fun _ loan hl => by simp [hrow] at hl⟩
      | some loan => exact payment_step h hrow
    · obtain ⟨hbooks, hkept⟩ := @other_payment_step loanId i db p hi h
      exact ⟨hbooks, fun hterms => iff_of_true (hkept hterms) fun hsame => absurd hsame hi⟩

/-- With a rate that is not negative the total due is principal and flat interest. -/
theorem totalDue_eq {loan : Loan} (hprincipal : 0 ≤ loan.principal)
    (hrate : 0 ≤ loan.interestRate) :
    loan.totalDue = loan.principal + loan.interestTotal := by
  have hdecimal : 0 ≤ decimalOf loan.principal :=
    div_nonneg (Int.cast_nonneg hprincipal) (by norm_num)
  have hinterest : 0 ≤ decimalOf loan.principal * loan.interestRate / 100 * 100 := by positivity
  have hcents : decimalOf loan.principal * (1 + loan.interestRate / 100) * 100 =
      loan.principal + decimalOf loan.principal * loan.interestRate / 100 * 100 := by
    rw [decimalOf]
    ring
  have hboth : 0 ≤ (loan.principal : ℚ) + decimalOf loan.principal *
      loan.interestRate / 100 * 100 :=
    add_nonneg (Int.cast_nonneg hprincipal) hinterest
  rw [Loan.totalDue, Loan.interestTotal, money, money, hcents, roundHalfUp_eq_floor hboth,
    roundHalfUp_eq_floor hinterest, add_assoc, Int.floor_intCast_add]

/-- An activated loan has its books in order. -/
theorem Activated.inBooks {db : Db} {loanId : ℕ} {loan : Loan} (h : Activated db loanId loan)
    (hprincipal : 0 ≤ loan.principal) (hrate : 0 ≤ loan.interestRate)
    (hcolumn : loan.interestRate < 10 ^ 3) (hfees : 0 ≤ loan.feesInBalance) :
    InBooks loanId db ∧ WithinTerms loanId db := by
  have hnothing : recorded db loanId = .zero := by
    simp [recorded, h.unpaid, Components.zero]
  have hinterest := Loan.interestTotal_nonneg hprincipal hrate
  have hdue := totalDue_eq hprincipal hrate
  have hbalance := h.balance
  have hpenalties := h.penalties
  constructor
  · intro row hrow
    obtain rfl := Option.some.inj (h.row.symm.trans hrow)
    refine ⟨hprincipal, hrate, hcolumn, ?_, ?_, ?_, ?_⟩
    · simp [h.unpaid]
    · omega
    · rw [hnothing]
      simp only [Components.total, Components.zero]
      omega
    · rw [hnothing]
      simp only [Components.zero]
      omega
  · intro row hrow
    obtain rfl := Option.some.inj (h.row.symm.trans hrow)
    rw [hnothing]
    exact ⟨hprincipal, hinterest⟩

/-- Over every run from activation, with any orders: the fees recorded never pass the charges,
and principal and interest never pass the terms exactly when every payment split in the
flat ratio fits what is left of them. -/
theorem component_totals_iff {db : Db} {loanId : ℕ} {loan : Loan} (steps : List LoanStep)
    (h : Activated db loanId loan) (hprincipal : 0 ≤ loan.principal)
    (hrate : 0 ≤ loan.interestRate) (hcolumn : loan.interestRate < 10 ^ 3)
    (hfees : 0 ≤ loan.feesInBalance) :
    Always LoanStep.apply (WithinFees loanId) db steps ∧
      (Always LoanStep.apply (WithinTerms loanId) db steps ↔
        AllSteps LoanStep.apply (SplitFitsTerms loanId) db steps) := by
  obtain ⟨hbooks, hterms⟩ := h.inBooks hprincipal hrate hcolumn hfees
  have hstay : ∀ done, InBooks loanId (run LoanStep.apply db done) := fun done =>
    @invariant_run_of_step _ _ LoanStep.apply (InBooks loanId)
      (fun _ a hdb => (books_step a hdb).1) db done hbooks
  constructor
  · intro done _ row hrow
    exact (hstay done row hrow).fees
  · have hboth : Always LoanStep.apply
        (fun db => InBooks loanId db ∧ WithinTerms loanId db) db steps ↔
        AllSteps LoanStep.apply (SplitFitsTerms loanId) db steps :=
      always_iff_allSteps (fun db a hdb => by
        obtain ⟨hnext, hiff⟩ := books_step a hdb.1
        rw [← hiff hdb.2]
        exact and_iff_right hnext) ⟨hbooks, hterms⟩
    rw [← hboth]
    exact forall₂_congr fun done _ => (and_iff_right (hstay done)).symm

/-- Principal first, then interest first, with a penalty in between. -/
theorem component_totals_iff_orders : Activated fourWeekBook 0 fourWeekLoan ∧
    Always LoanStep.apply (WithinTerms 0) fourWeekBook
      [.payment 0 (paybillPayment 400000 "QA1" 3),
        .upkeep (.settings 1 (some "interest_fees_principal") none),
        .payment 0 (paybillPayment 250000 "QA2" 20), .upkeep (.overdueAlerts 1 30),
        .payment 0 (paybillPayment 500000 "QA3" 31)] := by
  have hactivated : Activated fourWeekBook 0 fourWeekLoan := ⟨rfl, by decide +kernel, rfl, rfl, rfl⟩
  refine ⟨hactivated, (component_totals_iff _ hactivated (by decide) (by decide)
    (by decide) (by decide)).2.mpr ?_⟩
  decide +kernel

/-- A loan of 10,000 with 1,000 of interest and 1,100 of fees on the balance. -/
def feesBook : Db :=
  { fourWeekBook with
    loans := [{ fourWeekLoan with outstandingBalance := 1210000, feesInBalance := 110000 }]
    paymentsConfigs := [⟨1, some "proportional", none⟩] }

/-- Paid in full after the term in the flat ratio, it is recorded as 11,000 of principal and
1,100 of interest. -/
theorem flat_split_passes_terms :
    recorded (run LoanStep.apply feesBook [.payment 0 (paybillPayment 1210000 "QA1" 40)]) 0 =
        ⟨110000, 0, 1100000⟩ ∧
      ¬ Always LoanStep.apply (WithinTerms 0) feesBook
        [.payment 0 (paybillPayment 1210000 "QA1" 40)] := by
  refine ⟨by decide +kernel, fun h => ?_⟩
  have hlast : ¬ WithinTerms 0 (run LoanStep.apply feesBook
      [.payment 0 (paybillPayment 1210000 "QA1" 40)]) := by
    decide +kernel
  exact hlast h.last

end FinylDcp
