import FinylDcp.Columns
import FinylDcp.PaymentConservation
import FinylDcp.PaymentReferences

/-!
# What a payment writes, column by column

When the references and the amounts of the rows of one payment fit: the repayment's
column is the narrowest, and what is parked carries a longer reference.
-/
namespace FinylDcp
open Text

/-- What is parked of a payment: a row for its excess and one for its credit, each unless its
reference is parked already. -/
theorem parkRest_eq (suspense : List SuspenseEntry) (loanId : ℕ) (p : Payment) (d : Division) :
    parkRest suspense loanId p d = suspense ++
      (if 0 < p.amount - d.applied ∧
          suspenseWithRef suspense p.tenantId (some (p.reference ++ "-OVR")) = none
        then [(overpaymentReceipt loanId p (p.amount - d.applied)).entry p.now] else []) ++
      (if 0 < d.interestCredit ∧
          suspenseWithRef suspense p.tenantId (some (p.reference ++ "-INT")) = none
        then [(interestRefundReceipt loanId p d.interestCredit).entry p.now] else []) := by
  have hpark : ∀ (rows : List SuspenseEntry) (x : Receipt) (parks : Prop) [Decidable parks],
      (if parks then (park rows x p.now).1 else rows) = rows ++
        (if parks ∧ suspenseWithRef rows x.tenantId x.ref = none then [x.entry p.now] else []) := by
    intro rows x parks _
    by_cases hparks : parks
    · by_cases hfree : suspenseWithRef rows x.tenantId x.ref = none
      · simp [hparks, hfree, park_new hfree]
      · simp [hparks, hfree, park_known hfree]
    · simp [hparks]
  have hover := hpark suspense (overpaymentReceipt loanId p (p.amount - d.applied))
    (0 < p.amount - d.applied)
  have hcredit := hpark (if 0 < p.amount - d.applied then
      (park suspense (overpaymentReceipt loanId p (p.amount - d.applied)) p.now).1 else suspense)
    (interestRefundReceipt loanId p d.interestCredit) (0 < d.interestCredit)
  have hfree : suspenseWithRef (if 0 < p.amount - d.applied then
      (park suspense (overpaymentReceipt loanId p (p.amount - d.applied)) p.now).1 else suspense)
        p.tenantId (some (p.reference ++ "-INT")) = none ↔
      suspenseWithRef suspense p.tenantId (some (p.reference ++ "-INT")) = none := by
    split
    · exact suspenseWithRef_overpayment suspense loanId p _
    · exact Iff.rfl
  have hrefund := hcredit.trans (congrArg _ (if_congr (and_congr_right' hfree) rfl rfl))
  simp only [parkRest]
  rw [hrefund, hover]
  rfl

section Fits

variable (db : Db) (loanId : ℕ) (loan : Loan) (p : Payment)

/-- The reference of a payment fits the rows it is written to, and so do those derived from it:
the repayment, and what is newly parked of the excess and of the credit. -/
def ReferenceFits : Prop :=
  (SomethingToPay db loanId loan p → p.reference.length ≤ 30) ∧
    (Overpays db loanId loan p → ¬ Parked db p.tenantId (p.reference ++ "-OVR") →
      p.reference.length ≤ 36) ∧
    (LeavesCredit db loanId loan p → ¬ Parked db p.tenantId (p.reference ++ "-INT") →
      p.reference.length ≤ 36)

/-- What the loan takes of a payment, and what is newly parked of the rest, fits its column. -/
def AmountsFit : Prop :=
  let d := divisionOf db loanId loan p
  (SomethingToPay db loanId loan p → fitsNumeric 12 d.applied = true) ∧
    (Overpays db loanId loan p → ¬ Parked db p.tenantId (p.reference ++ "-OVR") →
      fitsNumeric 12 (p.amount - d.applied) = true) ∧
    (LeavesCredit db loanId loan p → ¬ Parked db p.tenantId (p.reference ++ "-INT") →
      fitsNumeric 12 d.interestCredit = true)

end Fits

section Applied

variable {db db' : Db} {loanId : ℕ} {loan : Loan} {p : Payment}

theorem all_if_row {α : Type} {c q : Prop} [Decidable (c ∧ q)] {f : α → Bool} {x : α} :
    (if c ∧ q then [x] else []).all f = true ↔ (c → q → f x = true) := by
  split_ifs with h
  · simp [h.1, h.2]
  · simp only [List.all_nil, true_iff]
    exact fun hc hq => absurd ⟨hc, hq⟩ h

/-- What holds of every row of an applied payment holds of its repayment and of the rows
newly parked. -/
theorem appliedTo_rows (hacc : Accepts db loan p) (h : AppliedTo db loanId loan p db')
    {okRepayment : Repayment → Bool} {okEntry : SuspenseEntry → Bool}
    (hrepayments : db.repayments.all okRepayment = true)
    (hsuspense : db.suspense.all okEntry = true) :
    (db'.repayments.all okRepayment = true ∧ db'.suspense.all okEntry = true) ↔
      (SomethingToPay db loanId loan p →
        (repaymentRow loanId p (divisionOf db loanId loan p)).all okRepayment = true) ∧
      (Overpays db loanId loan p → ¬ Parked db p.tenantId (p.reference ++ "-OVR") →
        okEntry ((overpaymentReceipt loanId p
          (p.amount - (divisionOf db loanId loan p).applied)).entry p.now) = true) ∧
      (LeavesCredit db loanId loan p → ¬ Parked db p.tenantId (p.reference ++ "-INT") →
        okEntry ((interestRefundReceipt loanId p
          (divisionOf db loanId loan p).interestCredit).entry p.now) = true) := by
  obtain ⟨logs, borrowers, rfl⟩ := h
  have hfree : ∀ tail, tail ≠ "" →
      (suspenseWithRef db.suspense p.tenantId (some (p.reference ++ tail)) = none ↔
        ¬ Parked db p.tenantId (p.reference ++ tail)) := by
    intro tail htail
    rw [suspenseWithRef_eq_none (by simp [htail])]
    simp [Parked]
  rw [← applied_pos hacc, overpays_iff, leavesCredit_iff]
  simp only [List.all_append, parkRest_eq, hrepayments, hsuspense, Bool.true_and,
    Bool.and_eq_true, hfree "-OVR" (by decide), hfree "-INT" (by decide)]
  refine and_congr ?_ (and_congr ?_ ?_)
  · by_cases hpos : 0 < (divisionOf db loanId loan p).applied
    · simp [hpos]
    · simp [hpos, repaymentRow]
  · exact all_if_row
  · exact all_if_row

theorem derived_length (r : String) : (r ++ "-OVR").length = r.length + 4 ∧
    (r ++ "-INT").length = r.length + 4 := by
  simp only [String.length_append]
  exact ⟨rfl, rfl⟩

/-- An applied payment leaves all references within their columns exactly when its own
reference leaves room for what is derived from it. -/
theorem appliedTo_referencesFit (hacc : Accepts db loan p) (h : AppliedTo db loanId loan p db')
    (hfits : db.referencesFit = true) :
    db'.referencesFit = true ↔ ReferenceFits db loanId loan p := by
  simp only [Db.referencesFit, Bool.and_eq_true] at hfits
  obtain ⟨⟨hrepayments, hsuspense⟩, htransactions⟩ := hfits
  have hrows := appliedTo_rows hacc h hrepayments hsuspense
  obtain ⟨logs, borrowers, rfl⟩ := h
  simp only [Db.referencesFit, Bool.and_eq_true, htransactions, and_true]
  rw [hrows, ReferenceFits, ← applied_pos hacc]
  refine and_congr ?_ (and_congr ?_ ?_)
  · refine imp_congr_right fun hpos => ?_
    simp [repaymentRow, hpos, Repayment.referenceFits, fitsText]
  · simp [SuspenseEntry.referenceFits, fitsText, Receipt.entry, overpaymentReceipt, nonEmpty,
      (derived_length _).1]
  · simp [SuspenseEntry.referenceFits, fitsText, Receipt.entry, interestRefundReceipt, nonEmpty,
      (derived_length _).2]

theorem appliedTo_amountsFit (hacc : Accepts db loan p) (h : AppliedTo db loanId loan p db')
    (hfits : db.amountsFit = true) : db'.amountsFit = true ↔ AmountsFit db loanId loan p := by
  simp only [Db.amountsFit, Bool.and_eq_true] at hfits
  obtain ⟨⟨⟨hrepayments, hsuspense⟩, htransactions⟩, hpending⟩ := hfits
  have hrows := appliedTo_rows hacc h hrepayments hsuspense
  obtain ⟨logs, borrowers, rfl⟩ := h
  simp only [Db.amountsFit, Bool.and_eq_true, htransactions, hpending, and_true]
  rw [hrows, AmountsFit, ← applied_pos hacc]
  refine and_congr ?_ Iff.rfl
  refine imp_congr_right fun hpos => ?_
  simp [repaymentRow, hpos]

end Applied

end FinylDcp
