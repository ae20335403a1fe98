import FinylDcp.Disbursement
import FinylDcp.EarlyPayoff

/-!
# Counting whole periods

The other way to count the time a loan was used: only completed weeks or months. The
term is fixed when the loan is activated, but the period is the product's at the day of
the quote, so the two may no longer fit once the product was edited.
-/
namespace FinylDcp
open Decimal

/-- The days of one period of a product. -/
def Product.periodDays (product : Product) : ℤ := if product.tenureUnit = "weeks" then 7 else 30

/-- The days a loan activated on the product runs. -/
def Product.termDays (product : Product) : ℤ := product.periodDays * max 1 product.tenureValue

/-- The whole periods of the product as it is now in the term it had, at least one. -/
def Product.periodsIn (later product : Product) : ℤ :=
  max (roundHalfEven ((product.termDays : ℤ) / later.periodDays)) 1

/-- The periods of the product as it is now last as long as the term it had. -/
def Product.Covers (later product : Product) : Prop :=
  product.termDays ≤ later.periodDays * later.periodsIn product

instance (later product : Product) : Decidable (later.Covers product) := by
  unfold Product.Covers
  infer_instance

/-- A loan that runs as `product` made it run when it was activated. -/
def Loan.ActivatedOn (loan : Loan) (product : Product) (today : ℤ) : Prop :=
  loan.disbursementDate = (activate loan product today).disbursementDate ∧
    loan.dueDate = (activate loan product today).dueDate

theorem Loan.activatedOn_iff {loan : Loan} {product : Product} {today : ℤ} :
    loan.ActivatedOn product today ↔ loan.disbursementDate = some today ∧
      loan.dueDate = some (today + product.termDays) := Iff.rfl

theorem Product.periodDays_pos (product : Product) : 0 < product.periodDays := by
  unfold Product.periodDays
  split <;> norm_num

theorem Product.termDays_pos (product : Product) : 0 < product.termDays :=
  mul_pos product.periodDays_pos (by omega)

theorem periodDays_eq {db : Db} {loan : Loan} {product : Product}
    (h : db.products[loan.productId]? = some product) :
    FinylDcp.periodDays db loan = product.periodDays := by
  simp only [FinylDcp.periodDays, h, Product.periodDays]

/-- As long as the unit stays, the periods are those of the term. -/
theorem Product.covers_of_periodDays {later product : Product}
    (h : later.periodDays = product.periodDays) : later.Covers product := by
  have hpos : (product.periodDays : ℚ) ≠ 0 := by exact_mod_cast product.periodDays_pos.ne'
  have hwhole : (product.termDays : ℚ) / later.periodDays = (max 1 product.tenureValue : ℤ) := by
    rw [h, Product.termDays, Int.cast_mul, mul_div_cancel_left₀ _ hpos]
  rw [Product.Covers, Product.periodsIn, hwhole, roundHalfEven_intCast, h,
    max_eq_left (le_max_left _ _)]
  exact le_rfl

/-- The payoff grows with the earned interest; where all of it is earned anyway, as it is
at a negative rate, it does not depend on it. -/
theorem earlyQuote_payoff_mono (base : PayoffQuote) (owed : Owed) {interestTotal less more : ℤ}
    (hpaid : owed.interestPaid = interestTotal - owed.interest) (hinterest : 0 ≤ owed.interest)
    (h : less ≤ more ∨ (interestTotal ≤ less ∧ interestTotal ≤ more)) :
    (earlyQuote base owed interestTotal less).payoffAmount ≤
      (earlyQuote base owed interestTotal more).payoffAmount := by
  simp only [earlyQuote]
  split_ifs <;> omega

section Periods

variable {db : Db} {loan : Loan} {product later : Product} {start on : ℤ}

theorem completedShare_le_dailyShare (hproduct : db.products[loan.productId]? = some later)
    (hcovers : later.Covers product) :
    earnedShare db loan start (start + product.termDays) on .completedPeriods ≤
      earnedShare db loan start (start + product.termDays) on .daily := by
  have hterm := product.termDays_pos
  have hperiod := later.periodDays_pos
  have hlength : start + product.termDays - start = product.termDays := by ring
  have hperiods : periodsInTerm db loan start (start + product.termDays) =
      later.periodsIn product := by
    rw [periodsInTerm, periodDays_eq hproduct, hlength, Product.periodsIn]
  simp only [earnedShare, hperiods, periodDays_eq hproduct]
  unfold Product.Covers at hcovers
  have hpos : 0 < later.periodsIn product := lt_of_lt_of_le one_pos (le_max_right _ _)
  generalize later.periodsIn product = periods at *
  have hdone : 0 ≤ max (on - start) 0 / later.periodDays :=
    Int.ediv_nonneg (le_max_right _ _) hperiod.le
  have hdays : max (on - start) 0 / later.periodDays * later.periodDays ≤ max (on - start) 0 :=
    Int.ediv_mul_le _ hperiod.ne'
  generalize max (on - start) 0 / later.periodDays = done at hdone hdays ⊢
  have hcross : min done periods * product.termDays ≤
      min (max (max (on - start) 0) 1) product.termDays * periods := by
    obtain hall' | hpart := le_total product.termDays (max (max (on - start) 0) 1)
    · rw [min_eq_right hall', mul_comm product.termDays]
      exact mul_le_mul_of_nonneg_right (min_le_right _ _) hterm.le
    · rw [min_eq_left hpart]
      calc min done periods * product.termDays
          ≤ min done periods * (later.periodDays * periods) :=
            mul_le_mul_of_nonneg_left hcovers (le_min hdone hpos.le)
        _ ≤ done * (later.periodDays * periods) :=
            mul_le_mul_of_nonneg_right (min_le_left _ _) (mul_pos hperiod hpos).le
        _ = done * later.periodDays * periods := by ring
        _ ≤ max (max (on - start) 0) 1 * periods :=
            mul_le_mul_of_nonneg_right (hdays.trans (le_max_left _ _)) hpos.le
  rw [hlength, div_le_div_iff₀ (by exact_mod_cast hpos) (by exact_mod_cast (by omega))]
  exact_mod_cast hcross

/-- What is earned by whole periods is no more than what is earned by days. -/
theorem completed_earned_le (hproduct : db.products[loan.productId]? = some later)
    (hcovers : later.Covers product) (hfits : loan.Fits) :
    let due := start + product.termDays
    interestEarned db loan start due on .completedPeriods ≤
      interestEarned db loan start due on .daily ∨
      (loan.interestTotal ≤ interestEarned db loan start due on .completedPeriods ∧
        loan.interestTotal ≤ interestEarned db loan start due on .daily) := by
  dsimp only
  have hterm : start < start + product.termDays := by have := product.termDays_pos; omega
  obtain htotal | htotal := le_total 0 loan.interestTotal
  · left
    have hdecimal : 0 ≤ decimalOf loan.interestTotal :=
      div_nonneg (Int.cast_nonneg htotal) (by norm_num)
    have hfraction : earnedInterestFraction db loan start (start + product.termDays) on
        .completedPeriods ≤ earnedInterestFraction db loan start (start + product.termDays) on
          .daily := by
      rw [earnedInterestFraction_eq, earnedInterestFraction_eq]
      exact context_mono (completedShare_le_dailyShare hproduct hcovers)
    exact money_mono (context_mono (mul_le_mul_of_nonneg_left hfraction hdecimal))
  · right
    have hdecimal : 0 ≤ -decimalOf loan.interestTotal := by
      rw [neg_nonneg]
      exact div_nonpos_of_nonpos_of_nonneg (Int.cast_nonpos.mpr htotal) (by norm_num)
    have hleast : ∀ method, loan.interestTotal ≤
        interestEarned db loan start (start + product.termDays) on method := by
      intro method
      have hone := (earnedInterestFraction_bounds db loan method hterm on).2
      have hshare : -decimalOf loan.interestTotal *
          earnedInterestFraction db loan start (start + product.termDays) on method ≤
            decimalOf (-loan.interestTotal) := by
        refine (mul_le_of_le_one_right hdecimal hone).trans_eq ?_
        rw [decimalOf, decimalOf, Int.cast_neg, neg_div]
      have hmost := money_context_le (by rw [abs_neg]; exact hfits.interestTotal_lt) hshare
      rw [neg_mul, context_neg, money_neg] at hmost
      exact neg_le_neg_iff.mp hmost
    exact ⟨hleast _, hleast _⟩

theorem completed_payoff_le {loanId : ℕ} {start : ℤ}
    (hproduct : db.products[loan.productId]? = some later)
    (hactivated : loan.ActivatedOn product start) (hcovers : later.Covers product)
    (hfits : loan.Fits) :
    (payoffQuote db loanId loan on .completedPeriods).payoffAmount ≤
      (payoffQuote db loanId loan on .daily).payoffAmount := by
  obtain ⟨hstart, hdue⟩ := Loan.activatedOn_iff.mp hactivated
  simp only [payoffQuote, hstart, hdue, owedBreakdown_total]
  split_ifs with hbase
  · exact le_rfl
  · simp only [Bool.or_eq_true, decide_eq_true_eq, not_or, not_le] at hbase
    have hparts := owedBreakdown_parts db loanId hbase.1.1.2.le
    exact earlyQuote_payoff_mono _ _ (owedBreakdown_interestPaid db loanId loan) hparts.2.2.1
      (completed_earned_le hproduct hcovers hfits)

end Periods

/-- A loan of a billion at 100 per cent, running as the product makes it run. -/
def bigLoan (product : Product) : Loan :=
  { fourWeekLoan with
    principal := 10 ^ 11
    interestRate := 100
    outstandingBalance := 2 * 10 ^ 11
    disbursementDate := some 0
    dueDate := some product.termDays }

/-- The book of the loan, with the product as it is now. -/
def bigBook (later : Product) : Db := { fourWeekBook with products := [later] }

theorem bigLoan_interestTotal (product : Product) : (bigLoan product).interestTotal = 10 ^ 11 := by
  have hdecimal : decimalOf (10 ^ 11) * 100 / 100 = decimalOf (10 ^ 11) := by norm_num [decimalOf]
  rw [Loan.interestTotal, bigLoan, hdecimal, money_decimalOf]

theorem bigLoan_fits (product : Product) : (bigLoan product).Fits :=
  ⟨by norm_num [bigLoan], by norm_num [bigLoan]⟩

section Uncovered

variable {product later : Product}

/-- Once the counted periods are over all interest is earned. -/
theorem bigLoan_completed : interestEarned (bigBook later) (bigLoan product) 0 product.termDays
    (later.periodDays * later.periodsIn product) .completedPeriods = 10 ^ 11 := by
  have hperiod := later.periodDays_pos
  have hproduct : (bigBook later).products[(bigLoan product).productId]? = some later := rfl
  have hperiods : periodsInTerm (bigBook later) (bigLoan product) 0 product.termDays =
      later.periodsIn product := by
    rw [periodsInTerm, periodDays_eq hproduct, sub_zero, Product.periodsIn]
  have hpos := @periodsInTerm_pos (bigBook later) (bigLoan product) 0 product.termDays
  rw [hperiods] at hpos
  have hall : earnedShare (bigBook later) (bigLoan product) 0 product.termDays
      (later.periodDays * later.periodsIn product) .completedPeriods = 1 := by
    have hdays : max (later.periodDays * later.periodsIn product - 0) 0 / later.periodDays =
        later.periodsIn product := by
      rw [sub_zero, max_eq_left (mul_pos hperiod hpos).le, Int.mul_ediv_cancel_left _ hperiod.ne']
    simp only [earnedShare, hperiods, periodDays_eq hproduct, hdays, min_self]
    exact div_self (by exact_mod_cast hpos.ne')
  have hone : context 1 = 1 := by simpa using context_intCast (n := 1) (by norm_num)
  rw [interestEarned, earnedInterestFraction_eq, hall, hone, mul_one, bigLoan_interestTotal,
    context_decimalOf (by norm_num), money_decimalOf]

/-- By the days a part of it is unearned, as the term is not over. -/
theorem bigLoan_daily (hvalue : product.tenureValue < 2 ^ 31) {on : ℤ} (hfirst : 1 ≤ on)
    (hon : on < product.termDays) :
    interestEarned (bigBook later) (bigLoan product) 0 product.termDays on .daily < 10 ^ 11 := by
  have hlong : product.termDays ≤ 10 ^ 11 := by
    have hunit : product.periodDays ≤ 30 := by
      unfold Product.periodDays
      split <;> norm_num
    calc product.termDays ≤ 30 * max 1 product.tenureValue :=
          mul_le_mul_of_nonneg_right hunit (by omega)
      _ ≤ 10 ^ 11 := by omega
  have hshare : earnedShare (bigBook later) (bigLoan product) 0 product.termDays on .daily ≤
      ((10 ^ 11 - 1 : ℤ) : ℚ) / 10 ^ 11 := by
    have hused : min (max (max on 0) 1) product.termDays = on := by omega
    simp only [earnedShare, sub_zero, hused]
    rw [div_le_div_iff₀ (by exact_mod_cast product.termDays_pos) (by norm_num)]
    have hcross : on * 10 ^ 11 ≤ (10 ^ 11 - 1) * product.termDays := by omega
    exact_mod_cast hcross
  have hfraction : earnedInterestFraction (bigBook later) (bigLoan product) 0 product.termDays on
      .daily ≤ ((10 ^ 11 - 1 : ℤ) : ℚ) / 10 ^ 11 := by
    rw [earnedInterestFraction_eq]
    refine (context_mono hshare).trans_eq ?_
    exact roundSig_of_digits (k := 11) rfl (by norm_num)
  have hvalue' : decimalOf (10 ^ 11) * earnedInterestFraction (bigBook later) (bigLoan product) 0
      product.termDays on .daily ≤ decimalOf (10 ^ 11 - 1) := by
    refine (mul_le_mul_of_nonneg_left hfraction (by norm_num [decimalOf])).trans_eq ?_
    norm_num [decimalOf]
  rw [interestEarned, bigLoan_interestTotal]
  have hmost := money_context_le (by norm_num) hvalue'
  omega

/-- Where the periods do not cover the term, some loan is charged more for them. -/
theorem bigLoan_charged_more (hvalue : product.tenureValue < 2 ^ 31)
    (hshort : ¬ later.Covers product) :
    let on := later.periodDays * later.periodsIn product
    on < product.termDays ∧
      (payoffQuote (bigBook later) 0 (bigLoan product) on .daily).payoffAmount <
        (payoffQuote (bigBook later) 0 (bigLoan product) on .completedPeriods).payoffAmount := by
  have hon : later.periodDays * later.periodsIn product < product.termDays := not_le.mp hshort
  have hfirst : 1 ≤ later.periodDays * later.periodsIn product :=
    mul_pos later.periodDays_pos (lt_of_lt_of_le one_pos (le_max_right _ _))
  have hinterest : 0 ≤ (bigLoan product).interestTotal := by
    rw [bigLoan_interestTotal]
    norm_num
  have hbalance : (bigLoan product).outstandingBalance = 2 * 10 ^ 11 := rfl
  have hpayoff := fun method => (@payoff_eq (bigBook later) 0 (bigLoan product) 0 product.termDays
    _ method rfl rfl rfl (by rw [hbalance]; norm_num) product.termDays_pos (bigLoan_fits product)
    hinterest hon).1
  have hdaily := @bigLoan_daily product later hvalue _ hfirst hon
  refine ⟨hon, ?_⟩
  rw [hpayoff .daily, hpayoff .completedPeriods, bigLoan_completed, bigLoan_interestTotal, hbalance]
  omega

end Uncovered

/-- For loans activated on `product`, whatever happened to them since, and the product as it
is now: counting periods never charges more than counting days exactly when the counted
periods cover the term. -/
theorem completed_periods_at_most_daily_iff (product later : Product)
    (hvalue : product.tenureValue < 2 ^ 31) :
    (∀ (db : Db) (loanId : ℕ) (loan : Loan) (start due on : ℤ),
        db.products[loan.productId]? = some later → loan.ActivatedOn product start → loan.Fits →
        loan.dueDate = some due → on < due →
        (payoffQuote db loanId loan on .completedPeriods).payoffAmount ≤
          (payoffQuote db loanId loan on .daily).payoffAmount) ↔
      later.Covers product := by
  constructor
  · intro hnever
    by_contra hshort
    obtain ⟨hon, hmore⟩ := bigLoan_charged_more hvalue hshort
    have hactivated : (bigLoan product).ActivatedOn product 0 := by
      rw [Loan.activatedOn_iff, zero_add]
      exact ⟨rfl, rfl⟩
    have hcharged := hnever (bigBook later) 0 (bigLoan product) 0 product.termDays _ rfl hactivated
      (bigLoan_fits product) rfl hon
    exact absurd hcharged (not_le.mpr hmore)
  · intro hcovers db loanId loan start due on hproduct hactivated hfits _ _
    exact completed_payoff_le hproduct hactivated hcovers hfits

/-- A four-week loan whose product is as it was. -/
theorem completed_periods_at_most_daily_iff_unchanged :
    (4 : ℤ) < 2 ^ 31 ∧ (payoffQuote fourWeekBook 0 fourWeekLoan 20 .completedPeriods).payoffAmount ≤
      (payoffQuote fourWeekBook 0 fourWeekLoan 20 .daily).payoffAmount := by
  have hcovers : Product.Covers ⟨10, 4, "weeks", 5, ⟨0, 0, none⟩⟩
      ⟨10, 4, "weeks", 5, ⟨0, 0, none⟩⟩ :=
    Product.covers_of_periodDays rfl
  have hfits : fourWeekLoan.Fits := ⟨by decide, by decide⟩
  exact ⟨by norm_num, (completed_periods_at_most_daily_iff ⟨10, 4, "weeks", 5, ⟨0, 0, none⟩⟩
    ⟨10, 4, "weeks", 5, ⟨0, 0, none⟩⟩ (by norm_num)).mpr hcovers fourWeekBook 0 fourWeekLoan 0 28 20
      rfl ⟨rfl, rfl⟩ hfits rfl (by norm_num)⟩

/-- A loan of one month, whose product was edited to weeks: on day 28 four of four weeks are
over and all the interest is charged, by days 28 of 30. -/
theorem weeks_charge_more_than_days :
    let loan := activate { fourWeekLoan with status := .processing }
      ⟨10, 1, "months", 5, ⟨0, 0, none⟩⟩ 0
    (payoffQuote fourWeekBook 0 loan 28 .daily).payoffAmount = 1093333 ∧
      ¬ (payoffQuote fourWeekBook 0 loan 28 .completedPeriods).payoffAmount ≤
        (payoffQuote fourWeekBook 0 loan 28 .daily).payoffAmount := by
  decide +kernel

end FinylDcp
