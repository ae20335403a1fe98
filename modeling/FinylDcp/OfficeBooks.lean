import FinylDcp.BalanceLaw
import FinylDcp.LoanStages
import FinylDcp.OfficeTurns
import FinylDcp.PaymentConservation

/-!
# The books of an office at fair terms

Where no rate and no fee is negative, every loan owes a balance that is not negative, no more
was repaid than the loan says, and every repayment is divided into parts that are not
negative. Every posting keeps these books.
-/
namespace FinylDcp
open Decimal Db Runs

/-- A product whose rates and fees are not negative, with a rate that fits its column. -/
structure Product.Fair (p : Product) : Prop where
  rate : 0 ≤ p.interestRate
  column : p.interestRate < 10 ^ 3
  processing : 0 ≤ p.rules.processingFeeRate
  facility : 0 ≤ p.rules.facilityFee

instance (p : Product) : Decidable p.Fair :=
  decidable_of_iff (0 ≤ p.interestRate ∧ p.interestRate < 10 ^ 3 ∧ 0 ≤ p.rules.processingFeeRate ∧
    0 ≤ p.rules.facilityFee) ⟨fun h => ⟨h.1, h.2.1, h.2.2.1, h.2.2.2⟩,
      fun h => ⟨h.rate, h.column, h.processing, h.facility⟩⟩

/-- What is listed is fair, and what is lent is not negative. -/
def Flow.Fair : Flow → Prop
  | .listing product => product.Fair
  | .application principal => 0 ≤ principal
  | _ => True

/-- The event lists a fair product, or applies for a positive amount, or does neither. -/
def OfficeEvent.Fair : OfficeEvent → Prop
  | .createProduct product _ | .updateProduct _ _ product _ => product.Fair
  | .apply _ _ body _ => 0 < body.principal
  | _ => True

instance (e : OfficeEvent) : Decidable e.Fair := by
  unfold OfficeEvent.Fair
  split <;> infer_instance

/-- No rate, fee or amount that the event brings is negative. -/
def OfficeEvent.Unsigned : OfficeEvent → Prop
  | .createProduct product _ | .updateProduct _ _ product _ => product.Fair
  | .apply _ _ body _ => 0 ≤ body.principal
  | _ => True

instance (e : OfficeEvent) : Decidable e.Unsigned := by
  unfold OfficeEvent.Unsigned
  split <;> infer_instance

theorem OfficeEvent.Fair.unsigned {e : OfficeEvent} (h : e.Fair) : e.Unsigned := by
  cases e with
  | apply tenantId applicant body year => exact le_of_lt h
  | createProduct product listing => exact h
  | updateProduct tenantId productId product listing => exact h
  | _ => trivial

theorem OfficeEvent.Unsigned.flow {s : Office} {e : OfficeEvent} (h : e.Unsigned) {flow : Flow}
    (hflow : e.Allows s flow) : flow.Fair := by
  cases flow with
  | listing product =>
    cases e <;> simp only [OfficeEvent.Allows] at hflow
    · exact hflow ▸ h
    · exact hflow ▸ h
  | application principal =>
    cases e <;> simp only [OfficeEvent.Allows] at hflow
    exact hflow ▸ h
  | _ => trivial

/-- The parts of a repayment add up to it, and none is negative. -/
structure Repayment.Divided (r : Repayment) : Prop where
  total : r.principalComponent + r.interestComponent + r.feeComponent = r.amount
  principal : 0 ≤ r.principalComponent
  interest : 0 ≤ r.interestComponent
  fees : 0 ≤ r.feeComponent

/-- A loan with its repayments: it owes what is not negative, and no more was repaid than it
says. Before it is paid out there is nothing but penalties. -/
structure Loan.Owing (rows : List Repayment) (l : Loan) : Prop where
  tenants : ∀ r ∈ rows, r.tenantId = l.tenantId
  principal : 0 ≤ l.principal
  rate : 0 ≤ l.interestRate
  column : l.interestRate < 10 ^ 3
  fees : ∀ q ∈ l.pricingSnapshot, 0 ≤ q.feesInBalance ∧ 0 ≤ q.totalFees ∧ 0 ≤ q.exciseDuty
  balance : 0 ≤ l.outstandingBalance
  repaid : (rows.map (·.amount)).sum ≤ l.repaid
  waiting : l.status.disbursed = false → rows = [] ∧ l.feesInBalance = 0 ∧ l.interestRebate = 0 ∧
    l.outstandingBalance = l.penaltiesCharged

structure Db.Owed (db : Db) : Prop where
  products : ∀ p ∈ db.products, p.Fair
  lent : ∀ r ∈ db.repayments, r.loanId < db.loans.length
  divided : ∀ r ∈ db.repayments, r.Divided
  loans : ∀ (i : ℕ) (l : Loan), db.loans[i]? = some l → l.Owing (db.repaymentsOf i)

theorem quote_nonneg {product : Product} {principal : ℤ} (h : product.Fair)
    (hprincipal : 0 ≤ principal) :
    0 ≤ (quoteBreakdown product principal).feesInBalance ∧
      0 ≤ (quoteBreakdown product principal).totalFees ∧
      0 ≤ (quoteBreakdown product principal).exciseDuty := by
  have hprocessed : 0 ≤ money (decimalOf principal * product.rules.processingFeeRate / 100) :=
    money_nonneg (div_nonneg (mul_nonneg (decimalOf_nonneg hprincipal) h.processing) (by norm_num))
  have hfees : 0 ≤ (quoteBreakdown product principal).totalFees :=
    add_nonneg hprocessed (money_nonneg h.facility)
  exact ⟨feesInBalance_nonneg hprincipal h.processing h.facility, hfees,
    money_nonneg (mul_nonneg (decimalOf_nonneg hfees) (by norm_num [exciseRate]))⟩

theorem totalDue_nonneg {l : Loan} (hprincipal : 0 ≤ l.principal) (hrate : 0 ≤ l.interestRate) :
    0 ≤ l.totalDue :=
  money_nonneg (mul_nonneg (decimalOf_nonneg hprincipal)
    (by linarith [div_nonneg hrate (by norm_num : (0 : ℚ) ≤ 100)]))

section Loans

variable {rows : List Repayment} {l l' : Loan}

theorem Loan.Keeps.owing (h : l.Keeps l') (hl : l.Owing rows) : l'.Owing rows where
  tenants r hr := (hl.tenants r hr).trans h.tenant.symm
  principal := h.principal ▸ hl.principal
  rate := h.interestRate ▸ hl.rate
  column := h.interestRate ▸ hl.column
  fees := h.snapshot ▸ hl.fees
  balance := by
    have hbalance := h.balance
    have hpenalties := h.penalties
    have hnonneg := hl.balance
    omega
  repaid := by
    have hrepaid : l'.repaid = l.repaid := by
      have hbalance := h.balance
      simp only [Loan.repaid, Loan.totalDue, h.principal, h.interestRate, h.fees, h.rebate]
      omega
    exact hrepaid ▸ hl.repaid
  waiting hstatus := by
    obtain ⟨hnone, hfees, hrebate, hbalance⟩ := hl.waiting (h.disbursed ▸ hstatus)
    have hmoves := h.balance
    exact ⟨hnone, h.fees.trans hfees, h.rebate.trans hrebate, by omega⟩

theorem loanSnapshot_nonneg {product : Product} (hproduct : product.Fair) (hl : l.Owing rows) :
    0 ≤ (loanSnapshot l product).feesInBalance ∧ 0 ≤ (loanSnapshot l product).totalFees ∧
      0 ≤ (loanSnapshot l product).exciseDuty := by
  unfold loanSnapshot
  split
  · rename_i snap hsnap
    split
    · exact hl.fees snap hsnap
    · exact quote_nonneg hproduct hl.principal
  · exact quote_nonneg hproduct hl.principal

theorem takenLoan_owing {product : Product} {actorUserId : ℕ} (hproduct : product.Fair)
    (hstatus : l.status = .approved) (hl : l.Owing rows) :
    (takenLoan l product actorUserId).Owing rows where
  tenants := hl.tenants
  principal := hl.principal
  rate := hl.rate
  column := hl.column
  fees q hq := by
    obtain rfl := Option.mem_some_iff.mp hq
    exact loanSnapshot_nonneg hproduct hl
  balance := hl.balance
  repaid := hl.repaid
  waiting _ := hl.waiting (by rw [hstatus]; rfl)

theorem activate_owing {product : Product} {today : ℤ} (hproduct : product.Fair)
    (hstatus : l.status = .processing) (hl : l.Owing rows) :
    (activate l product today).Owing rows := by
  obtain ⟨hnone, hfees, hrebate, hbalance⟩ := hl.waiting (by rw [hstatus]; rfl)
  have hsnapshot := loanSnapshot_nonneg hproduct hl
  have hdue := totalDue_nonneg hl.principal hl.rate
  have hpenalties := hl.balance
  refine ⟨hl.tenants, hl.principal, hl.rate, hl.column, fun q hq => ?_, ?_, ?_, fun h => by cases h⟩
  · obtain rfl := Option.mem_some_iff.mp hq
    exact hsnapshot
  · exact add_nonneg hdue hsnapshot.1
  · have hrepaid : (activate l product today).repaid = l.penaltiesCharged - l.interestRebate := by
      simp only [Loan.repaid, activate, Loan.totalDue]
      omega
    rw [hrepaid, hnone, hrebate]
    simp only [List.map_nil, List.sum_nil]
    omega

theorem appliedLoan_owing {tenantId : ℕ} {body : LoanApplication} {product : Product}
    {number : String} (hproduct : product.Fair) (hprincipal : 0 ≤ body.principal) :
    (appliedLoan tenantId body product number).Owing [] where
  tenants := by simp
  principal := hprincipal
  rate := hproduct.rate
  column := hproduct.column
  fees q hq := by
    obtain rfl := Option.mem_some_iff.mp hq
    exact quote_nonneg hproduct hprincipal
  balance := le_refl 0
  repaid := by
    have hdue :=
      @totalDue_nonneg (appliedLoan tenantId body product number) hprincipal hproduct.rate
    simpa [Loan.repaid, appliedLoan] using hdue
  waiting _ := ⟨rfl, rfl, rfl, rfl⟩

end Loans

section Payments

variable {db : Db} {loanId : ℕ} {loan : Loan} {p : Payment}

/-- A payment takes what is owed at most, with what it writes off. -/
theorem applied_rebate_le (hbalance : 0 ≤ loan.outstandingBalance) :
    max (divisionOf db loanId loan p).applied 0 + (divisionOf db loanId loan p).rebate ≤
      loan.outstandingBalance := by
  by_cases hearly : SettlesEarly db loanId loan p
  · obtain ⟨-, happlied, hrebate, -⟩ := divisionOf_settles hearly
    obtain ⟨start, due, base, -, -, -, hout, -, -, hquote, -, -⟩ := payoffQuote_early hearly.1
    obtain ⟨hsum, hprincipal, hinterest, hfees⟩ := owedBreakdown_parts db loanId hout.le
    rw [happlied, hrebate, hquote]
    simp only [earlyQuote]
    omega
  · obtain ⟨-, happlied, hrebate, -⟩ := divisionOf_plain hearly
    rw [happlied, hrebate]
    omega

theorem repaymentRow_sum (loanId : ℕ) (p : Payment) (d : Division) :
    ((repaymentRow loanId p d).map (·.amount)).sum = max d.applied 0 := by
  unfold repaymentRow
  split_ifs with happlied
  · simp [max_eq_left happlied.le]
  · simp [max_eq_right (not_lt.mp happlied)]

theorem settled_disbursed (d : Division) (paidOn : ℤ) (h : loan.status.collectible = true) :
    (settled loan d paidOn).status.disbursed = true := by
  have hopen : loan.status.disbursed = true := by
    cases hstatus : loan.status <;> simp [hstatus, LoanStatus.collectible] at h <;> rfl
  have hbooked : (book loan d paidOn).status = loan.status := by rw [book_eq]
  unfold settled
  dsimp only
  split
  · rfl
  · rw [hbooked, hopen]

/-- A payment leaves a balance that is not negative, and repays no more than it says. -/
theorem settled_owing (hacc : Accepts db loan p) (hcollectible : loan.status.collectible = true)
    {rows : List Repayment} (hl : loan.Owing rows) :
    (settled loan (divisionOf db loanId loan p) p.paidOn).Owing
      (rows ++ repaymentRow loanId p (divisionOf db loanId loan p)) := by
  have hle := @applied_rebate_le db loanId loan p hl.balance
  have hdisbursed := settled_disbursed (divisionOf db loanId loan p) p.paidOn hcollectible
  have hrebate : (divisionOf db loanId loan p).settles = false →
      (divisionOf db loanId loan p).rebate = 0 := by
    intro hsettles
    by_cases hearly : SettlesEarly db loanId loan p
    · simp [(divisionOf_settles hearly).1] at hsettles
    · exact (divisionOf_plain hearly).2.2.1
  have hsum := repaymentRow_sum loanId p (divisionOf db loanId loan p)
  have hrepaid := hl.repaid
  have hbalance := hl.balance
  obtain ⟨status, lock, hloan⟩ := settled_loan loan (divisionOf db loanId loan p) p.paidOn
  rw [hloan] at hdisbursed ⊢
  generalize divisionOf db loanId loan p = d at hle hrebate hsum ⊢
  refine ⟨fun r hr => ?_, hl.principal, hl.rate, hl.column, hl.fees, ?_, ?_, fun h => ?_⟩
  · obtain hold | hnew := List.mem_append.mp hr
    · exact hl.tenants r hold
    · unfold repaymentRow at hnew
      split_ifs at hnew
      · obtain rfl := List.mem_singleton.mp hnew
        exact hacc.2.1.symm
      · cases hnew
  · cases hsettles : d.settles with
    | true => simp
    | false =>
      rw [hrebate hsettles] at hle
      simpa using hle
  · rw [List.map_append, List.sum_append, hsum]
    simp only [Loan.repaid, Loan.totalDue] at hrepaid ⊢
    cases hsettles : d.settles with
    | true =>
      simp only [if_true]
      omega
    | false =>
      simp only [Bool.false_eq_true, if_false]
      omega
  · rw [hdisbursed] at h
    cases h

theorem repaymentRow_divided {rows : List Repayment} (hacc : Accepts db loan p)
    (hl : loan.Owing rows) :
    ∀ r ∈ repaymentRow loanId p (divisionOf db loanId loan p), r.Divided := by
  have hwithin : SplitsWithin db loanId loan p := fun _ _ =>
    shareWithin_of_nonneg (le_min hacc.1.le hl.balance) hl.rate hl.column
  have hfit := (@componentsFit_iff db loanId loan p hl.balance hacc.1).mpr hwithin
  intro r hr
  unfold repaymentRow at hr
  split_ifs at hr
  · obtain rfl := List.mem_singleton.mp hr
    have htotal := hfit.total
    simp only [Components.total] at htotal
    exact ⟨by dsimp only; omega, hfit.nonneg .principal, hfit.nonneg .interest, hfit.nonneg .fees⟩
  · cases hr

end Payments

theorem repaymentRow_loan {loanId : ℕ} {p : Payment} {d : Division} :
    ∀ r ∈ repaymentRow loanId p d, r.loanId = loanId := by
  intro r hr
  unfold repaymentRow at hr
  split_ifs at hr
  · obtain rfl := List.mem_singleton.mp hr
    rfl
  · cases hr

/-- The repayments of a loan after a payment on it, and of any other loan. -/
theorem repaymentsOf_paid {db db' : Db} {loanId : ℕ} {p : Payment} {d : Division}
    (h : db'.repayments = db.repayments ++ repaymentRow loanId p d) :
    db'.repaymentsOf loanId = db.repaymentsOf loanId ++ repaymentRow loanId p d ∧
      ∀ i, i ≠ loanId → db'.repaymentsOf i = db.repaymentsOf i := by
  have hnew := @repaymentRow_loan loanId p d
  simp only [repaymentsOf, h, List.filter_append]
  constructor
  · congr 1
    exact List.filter_eq_self.mpr fun r hr => by simp [hnew r hr]
  · intro i hi
    have hnone : (repaymentRow loanId p d).filter (fun r => r.loanId = i) = [] :=
      List.filter_eq_nil_iff.mpr fun r hr => by simp [hnew r hr, Ne.symm hi]
    rw [hnone, List.append_nil]

/-- Books whose loans alone change. -/
theorem Db.Owed.of_loans {db db' : Db} (h : db.Owed) (hproducts : db'.products = db.products)
    (hrepayments : db'.repayments = db.repayments)
    (hloans : List.Forall₂ (fun l l' => ∀ rows : List Repayment, l.Owing rows → l'.Owing rows)
      db.loans db'.loans) : db'.Owed where
  products := hproducts ▸ h.products
  lent := hrepayments ▸ hloans.length_eq ▸ h.lent
  divided := hrepayments ▸ h.divided
  loans i l' hl' := by
    obtain ⟨l, hl, howing⟩ := Tables.getElem?_of_forall₂ hloans hl'
    have hrows : db'.repaymentsOf i = db.repaymentsOf i := by rw [repaymentsOf, hrepayments]; rfl
    exact hrows ▸ howing _ (h.loans i l hl)

/-- Books with one loan set. -/
theorem Db.Owed.of_set {db db' : Db} (h : db.Owed) {loanId : ℕ} {loan next : Loan}
    (hproducts : db'.products = db.products) (hrepayments : db'.repayments = db.repayments)
    (hrow : db.loans[loanId]? = some loan) (hloans : db'.loans = db.loans.set loanId next)
    (hnext : ∀ rows : List Repayment, loan.Owing rows → next.Owing rows) : db'.Owed :=
  h.of_loans hproducts hrepayments (hloans ▸ Tables.forall₂_set (fun _ _ h => h) hrow hnext)

/-- Books of which no loan, product or repayment changes. -/
theorem Db.Owed.aside {db db' : Db} (h : db.Owed) (hproducts : db'.products = db.products)
    (hloans : db'.loans = db.loans) (hrepayments : db'.repayments = db.repayments) : db'.Owed :=
  h.of_loans hproducts hrepayments (hloans ▸ List.forall₂_same.mpr fun _ _ _ h => h)

/-- Every posting at fair terms keeps the books. -/
theorem Posting.owed {db db' : Db} {flow : Flow} (h : Posting db flow db') (hfair : flow.Fair)
    (hdb : db.Owed) : db'.Owed := by
  cases h with
  | listed product products hproducts =>
    refine ⟨fun p hp => ?_, hdb.lent, hdb.divided, hdb.loans⟩
    obtain hold | rfl := hproducts p hp
    · exact hdb.products p hold
    · exact hfair
  | applied tenantId body product number hproduct =>
    have hlent : ∀ r ∈ db.repayments, r.loanId < (db.loans ++
        [appliedLoan tenantId body product number]).length := fun r hr =>
      (hdb.lent r hr).trans (by simp)
    refine ⟨hdb.products, hlent, hdb.divided, fun i l hl => ?_⟩
    by_cases hi : i < db.loans.length
    · rw [List.getElem?_append_left hi] at hl
      exact hdb.loans i l hl
    · have hnew : i = db.loans.length := by
        have hlt := (List.getElem?_eq_some_iff.mp hl).1
        simp only [List.length_append, List.length_singleton] at hlt
        omega
      subst hnew
      obtain rfl := Option.some.inj (List.getElem?_concat_length.symm.trans hl)
      have hnone : db.repaymentsOf db.loans.length = [] := by
        rw [repaymentsOf, List.filter_eq_nil_iff]
        intro r hr hsame
        have hlt := hdb.lent r hr
        simp only [decide_eq_true_eq] at hsame
        omega
      exact hnone ▸ appliedLoan_owing (hdb.products product hproduct) hfair
  | kept loans hkept => exact hdb.of_loans rfl rfl (hkept.imp fun l l' hkeeps _ => hkeeps.owing)
  | intended loanId loan product actorUserId phone now hrow hstatus hproduct =>
    exact hdb.of_set rfl rfl hrow rfl fun _ =>
      takenLoan_owing (hdb.products product (List.mem_of_getElem? hproduct)) hstatus
  | activated loanId loan product today hrow hstatus hproduct =>
    exact hdb.of_set rfl rfl hrow rfl fun _ =>
      activate_owing (hdb.products product (List.mem_of_getElem? hproduct)) hstatus
  | paid loanId loan p hrow haccepts hcollectible =>
    have howing := hdb.loans loanId loan hrow
    have hlength : (db.loans.set loanId
        (settled loan (divisionOf db loanId loan p) p.paidOn)).length = db.loans.length := by simp
    have hnew := @repaymentRow_loan loanId p (divisionOf db loanId loan p)
    refine ⟨hdb.products, fun r hr => ?_, fun r hr => ?_, fun i l hl => ?_⟩
    · rw [hlength]
      obtain hold | hrow' := List.mem_append.mp hr
      · exact hdb.lent r hold
      · exact hnew r hrow' ▸ (List.getElem?_eq_some_iff.mp hrow).1
    · obtain hold | hrow' := List.mem_append.mp hr
      · exact hdb.divided r hold
      · exact repaymentRow_divided haccepts howing r hrow'
    · obtain ⟨hself, hothers⟩ := @repaymentsOf_paid db { db with
        loans := db.loans.set loanId (settled loan (divisionOf db loanId loan p) p.paidOn)
        repayments := db.repayments ++ repaymentRow loanId p (divisionOf db loanId loan p)
        suspense := parkRest db.suspense loanId p (divisionOf db loanId loan p) } loanId p _ rfl
      by_cases hi : loanId = i
      · subst hi
        rw [List.getElem?_set_self (List.getElem?_eq_some_iff.mp hrow).1] at hl
        obtain rfl := Option.some.inj hl
        exact hself ▸ settled_owing haccepts hcollectible howing
      · rw [List.getElem?_set_ne hi] at hl
        exact hothers i (Ne.symm hi) ▸ hdb.loans i l hl
  | _ => exact hdb.aside rfl rfl rfl

/-- The books of an office whose products are fair and that has lent nothing. -/
theorem Db.owed_of_empty {db : Db} (hproducts : ∀ p ∈ db.products, p.Fair) (hloans : db.loans = [])
    (hrepayments : db.repayments = []) : db.Owed where
  products := hproducts
  lent := by simp [hrepayments]
  divided := by simp [hrepayments]
  loans := by simp [hloans]

end FinylDcp
