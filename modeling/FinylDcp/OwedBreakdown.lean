import FinylDcp.ComponentTotals
import FinylDcp.OfficeBooks

/-!
# The balance by component

What `owedBreakdown` reads out of a balance: parts that add up to it, none of them
negative, and none of principal and interest beyond the terms of the loan, whatever
the repayments were recorded to have settled.
-/
namespace FinylDcp

/-- The parts make up the balance, and principal and interest are within the terms. -/
structure Owed.Exact (owed : Owed) (loan : Loan) : Prop where
  principal : 0 ≤ owed.principal ∧ owed.principal ≤ loan.principal
  interest : 0 ≤ owed.interest ∧ owed.interest ≤ loan.interestTotal
  fees : 0 ≤ owed.fees
  total : owed.principal + owed.interest + owed.fees = loan.outstandingBalance
  interestPaid : 0 ≤ owed.interestPaid ∧ owed.interestPaid ≤ loan.interestTotal

instance (owed : Owed) (loan : Loan) : Decidable (owed.Exact loan) :=
  decidable_of_iff ((0 ≤ owed.principal ∧ owed.principal ≤ loan.principal) ∧
      (0 ≤ owed.interest ∧ owed.interest ≤ loan.interestTotal) ∧ 0 ≤ owed.fees ∧
      owed.principal + owed.interest + owed.fees = loan.outstandingBalance ∧
      0 ≤ owed.interestPaid ∧ owed.interestPaid ≤ loan.interestTotal)
    ⟨fun ⟨hp, hi, hf, ht, hpaid⟩ => ⟨hp, hi, hf, ht, hpaid⟩,
      fun h => ⟨h.principal, h.interest, h.fees, h.total, h.interestPaid⟩⟩

theorem interestTotal_nonneg {loan : Loan} (hprincipal : 0 ≤ loan.principal)
    (hrate : 0 ≤ loan.interestRate) : 0 ≤ loan.interestTotal :=
  money_nonneg (div_nonneg (mul_nonneg (decimalOf_nonneg hprincipal) hrate) (by norm_num))

section Breakdown

variable {db : Db} {loanId : ℕ} {loan : Loan}

/-- Repayments with no negative component leave no more owed than the terms, also when the
balance is below the recorded split. -/
theorem owedBreakdown_within (hprincipal : 0 ≤ loan.principal) (hrate : 0 ≤ loan.interestRate)
    (hcolumn : loan.interestRate < 10 ^ 3)
    (hrows : ∀ r ∈ db.repaymentsOf loanId, 0 ≤ r.principalComponent ∧ 0 ≤ r.interestComponent) :
    (owedBreakdown db loanId loan).principal ≤ loan.principal ∧
      (owedBreakdown db loanId loan).interest ≤ loan.interestTotal := by
  have hinterest := interestTotal_nonneg hprincipal hrate
  simp only [owedBreakdown]
  generalize hprincipals : (List.map (fun r : Repayment => r.principalComponent) _).sum =
    principalPaid
  generalize hinterests : (List.map (fun r : Repayment => r.interestComponent) _).sum = interestPaid
  have hpaid : 0 ≤ principalPaid := by
    rw [← hprincipals]
    refine List.sum_nonneg (List.forall_mem_map.mpr fun r hr => ?_)
    exact (hrows r (List.mem_of_mem_filter hr)).1
  have hpaidInterest : 0 ≤ interestPaid := by
    rw [← hinterests]
    refine List.sum_nonneg (List.forall_mem_map.mpr fun r hr => ?_)
    exact (hrows r (List.mem_of_mem_filter hr)).2
  split_ifs with hgap
  · obtain ⟨hp, hi⟩ := @closeGap_le
      (-(loan.outstandingBalance - max (loan.principal - principalPaid) 0 -
        max (loan.interestTotal - interestPaid) 0))
      (max (loan.principal - principalPaid) 0) (max (loan.interestTotal - interestPaid) 0)
      loan.interestRate (by omega) (le_max_right _ _) (le_max_right _ _) hrate hcolumn
    constructor <;> dsimp only <;> omega
  · constructor <;> dsimp only <;> omega

theorem breakdown_exact (hprincipal : 0 ≤ loan.principal) (hrate : 0 ≤ loan.interestRate)
    (hbalance : 0 ≤ loan.outstandingBalance) (hcolumn : loan.interestRate < 10 ^ 3)
    (hrows : ∀ r ∈ db.repaymentsOf loanId, 0 ≤ r.principalComponent ∧ 0 ≤ r.interestComponent) :
    (owedBreakdown db loanId loan).Exact loan := by
  obtain ⟨hsum, hp, hi, hf⟩ := owedBreakdown_parts db loanId hbalance
  obtain ⟨hprincipals, hinterests⟩ := owedBreakdown_within hprincipal hrate hcolumn hrows
  have hpaid := owedBreakdown_interestPaid db loanId loan
  refine ⟨⟨hp, hprincipals⟩, ⟨hi, hinterests⟩, hf, hsum, ?_, ?_⟩
  · omega
  · omega

/-- The breakdown of a stored loan is exact for every history of its repayments, those
recorded without a split and those beyond the terms included. -/
theorem owedBreakdown_exact (hprincipal : 0 ≤ loan.principal) (hrate : 0 ≤ loan.interestRate)
    (hbalance : 0 ≤ loan.outstandingBalance) (hfits : loan.Fits)
    (hrows : ∀ r ∈ db.repaymentsOf loanId, 0 ≤ r.principalComponent ∧ 0 ≤ r.interestComponent) :
    (owedBreakdown db loanId loan).Exact loan :=
  breakdown_exact hprincipal hrate hbalance (abs_lt.mp hfits.interestRate).2 hrows

/-- So is that of any loan in the books of an office. -/
theorem Db.Owed.breakdown (h : db.Owed) (hrow : db.loans[loanId]? = some loan) :
    (owedBreakdown db loanId loan).Exact loan := by
  have hloan := h.loans loanId loan hrow
  refine breakdown_exact hloan.principal hloan.rate hloan.balance hloan.column fun r hr => ?_
  have hdivided := h.divided r (List.mem_of_mem_filter hr)
  exact ⟨hdivided.principal, hdivided.interest⟩

end Breakdown

/-- Half the balance is gone without a split, and more principal is recorded than was lent. -/
theorem owedBreakdown_exact_unsplit :
    (owedBreakdown
      { fourWeekBook with repayments :=
          [⟨1, 0, 300000, 0, 0, 0, 86400, "bank", some "CSV1"⟩,
            ⟨1, 0, 1100000, 1100000, 0, 0, 172800, "bank", some "CSV2"⟩] }
      0 { fourWeekLoan with outstandingBalance := 50000 }).Exact
        { fourWeekLoan with outstandingBalance := 50000 } := by
  refine owedBreakdown_exact (by decide) (by decide) (by decide)
    ⟨by decide, by decide⟩ (by decide)

end FinylDcp
