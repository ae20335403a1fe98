import FinylDcp.PaymentEffects
import FinylDcp.PaymentSessions

/-!
# Rows a payment transaction adds

What a transaction makes of the database it saw only adds rows, and when it ran alone
the machine of interleaved sessions ends where the handler of its channel does.
-/
namespace FinylDcp
open Db Text

theorem markPaid_extends (db : Db) (loanId : ℕ) (loan : Loan) (now : ℤ) :
    Extends db (markPaid db loanId loan now).1 := by
  have hreleased : ∀ l, Extends db (releaseActiveLock db loanId l now).1 := by
    intro l
    refine { Extends.refl db with borrowers := ?_, lockLogs := ?_ }
    · simp only [releaseActiveLock]
      split_ifs <;> simp
    · simp only [releaseActiveLock]
      split <;> simp
  unfold markPaid
  split
  · exact hreleased _
  · exact .refl db

theorem recordSuspense_extends (db : Db) (x : Receipt) (now : ℤ) :
    Extends db (recordSuspense db x now).1 :=
  { Extends.refl db with suspense := (park_extends db.suspense x now).length_le }

theorem applyToOpenLoan_extends (db : Db) (loanId : ℕ) (loan : Loan) (p : Payment) :
    Extends db (applyToOpenLoan db loanId loan p).1 := by
  have hpaid := markPaid_extends db loanId (book loan (divisionOf db loanId loan p) p.paidOn) p.now
  have hinserted := hpaid.trans
    (Extends.addRepayments _ (repaymentRow loanId p (divisionOf db loanId loan p)))
  simp only [applyToOpenLoan]
  split_ifs
  · exact (hinserted.trans (recordSuspense_extends _ _ _)).trans (recordSuspense_extends _ _ _)
  · exact hinserted.trans (recordSuspense_extends _ _ _)
  · exact hinserted.trans (recordSuspense_extends _ _ _)
  · exact hinserted

theorem payLoan_extends {db : Db} {loanId : ℕ} {loan : Loan} {p : Payment} {out : Db × ApplyResult}
    (h : payLoan db loanId loan p = .ok out) : Extends db out.1 := by
  obtain ⟨applied, hpay, rfl⟩ := map_eq_ok.mp h
  refine Extends.trans ?_ (Extends.flushLoan applied.1 loanId loan applied.2.1)
  obtain ⟨-, hdb, -⟩ | ⟨-, -, hdb, -⟩ | ⟨-, -, rfl⟩ := applyPayment_cases hpay
  · rw [hdb]
    exact .refl db
  · rw [hdb]
    exact recordSuspense_extends _ _ _
  · exact applyToOpenLoan_extends db loanId loan p

theorem decided_extends (db : Db) (decision : Option (ℕ × ℕ)) :
    Extends db (decision.elim db (fun d => decided db d.1 .approved d.2)) := by
  cases decision with
  | none => exact .refl db
  | some d => exact { Extends.refl db with pending := by simp [decided] }

/-- The rest of a transaction only adds rows. -/
theorem Handover.apply_extends {db : Db} {loanId : ℕ} {loan : Loan} {h : Handover}
    {out : Db × Reply}
    (hout : h.apply db loanId loan = .ok out) : Extends db out.1 := by
  cases h with
  | confirmation tenantId cb freshRef now =>
    obtain ⟨paid, hpay, hout⟩ := bind_eq_ok.mp hout
    split at hout
    · cases hout
      exact .refl db
    · obtain ⟨-, rfl⟩ := commitWith_eq_ok.mp hout
      exact (payLoan_extends hpay).trans (Extends.addTransactions _ _)
  | push txnId txn cb freshRef now =>
    simp only [Handover.apply] at hout
    have hpaid := Extends.updateTransaction db txnId (fun t => { t with
      status := .success, mpesaRef := (cb.payment txn freshRef now).ref })
    split at hout
    · obtain ⟨paid, hpay, hout⟩ := bind_eq_ok.mp hout
      obtain ⟨-, rfl⟩ := commitWith_eq_ok.mp hout
      exact hpaid.trans (payLoan_extends hpay)
    · obtain ⟨-, rfl⟩ := commitWith_eq_ok.mp hout
      exact hpaid
  | manual tenantId amount details freshRef now decision =>
    obtain ⟨paid, hpay, hout⟩ := bind_eq_ok.mp hout
    obtain ⟨-, rfl⟩ := commitWith_eq_ok.mp hout
    simp only [applyManual] at hpay
    split at hpay
    · cases hpay
    · exact (payLoan_extends hpay).trans (decided_extends _ _)
  | allocation tenantId entryId entry resolverId now decision =>
    obtain ⟨paid, hpay, hout⟩ := bind_eq_ok.mp hout
    obtain ⟨-, rfl⟩ := commitWith_eq_ok.mp hout
    simp only [allocateEntry] at hpay
    split at hpay
    · cases hpay
    · obtain ⟨applied, happlied, rfl⟩ := map_eq_ok.mp hpay
      exact ((payLoan_extends happlied).trans (Extends.updateSuspense _ _ _)).trans
        (decided_extends _ _)

end FinylDcp
