import FinylDcp.DecimalOrder
import FinylDcp.PaymentEffects

/-!
# The early payoff

What clears a loan before its due date is the balance less the interest that is not
earned yet. The law is proved of every history of the loan, from two facts: the
rounded earned interest keeps the order of the days, and the parts of a balance add
up to it.
-/
namespace FinylDcp
open Decimal

theorem context_mono {x y : ℚ} (h : x ≤ y) : context x ≤ context y := roundSig_mono (by norm_num) h

theorem context_nonneg {x : ℚ} (h : 0 ≤ x) : 0 ≤ context x := roundSig_nonneg h

@[simp] theorem context_neg (x : ℚ) : context (-x) = -context x := roundSig_neg x

theorem context_intCast {n : ℤ} (h : |n| < 10 ^ 28) : context n = n :=
  roundSig_of_digits (k := 0) (by simp) h

/-- An amount of at most 28 digits survives the context. -/
theorem context_decimalOf {c : ℤ} (h : |c| < 10 ^ 28) : context (decimalOf c) = decimalOf c :=
  roundSig_of_digits (k := 2) (by norm_num [decimalOf]) h

theorem money_mono {x y : ℚ} (h : x ≤ y) : money x ≤ money y :=
  roundHalfUp_mono (mul_le_mul_of_nonneg_right h (by norm_num))

@[simp] theorem money_decimalOf (c : ℤ) : money (decimalOf c) = c := by
  have hcents : decimalOf c * 100 = c := by
    rw [decimalOf]
    field_simp
  rw [money, hcents, roundHalfUp_intCast]

theorem money_nonneg {x : ℚ} (h : 0 ≤ x) : 0 ≤ money x :=
  roundHalfUp_nonneg (mul_nonneg h (by norm_num))

@[simp] theorem money_neg (x : ℚ) : money (-x) = -money x := by
  rw [money, neg_mul, roundHalfUp_neg, money]

/-- A share of an amount is no more than the amount. -/
theorem money_context_le {x : ℚ} {c : ℤ} (hc : |c| < 10 ^ 28) (h : x ≤ decimalOf c) :
    money (context x) ≤ c := by
  have hcontext : context x ≤ decimalOf c := by
    rw [← context_decimalOf hc]
    exact context_mono h
  simpa using money_mono hcontext

/-- The loan fits its columns, NUMERIC(12, 2) and NUMERIC(6, 3). -/
structure Loan.Fits (loan : Loan) : Prop where
  principal : |loan.principal| < 10 ^ 12
  interestRate : |loan.interestRate| < 10 ^ 3

theorem Loan.Fits.interestTotal_lt {loan : Loan} (h : loan.Fits) :
    |loan.interestTotal| < 10 ^ 28 := by
  have hprincipal : |decimalOf loan.principal| ≤ 10 ^ 10 := by
    have hcast : (|loan.principal| : ℚ) ≤ 10 ^ 12 := by exact_mod_cast h.principal.le
    rw [decimalOf, abs_div, abs_of_pos (by norm_num : (0 : ℚ) < 100), div_le_iff₀ (by norm_num)]
    linarith
  have hvalue : |decimalOf loan.principal * loan.interestRate / 100| ≤ decimalOf (10 ^ 15) := by
    rw [abs_div, abs_mul, abs_of_pos (by norm_num : (0 : ℚ) < 100), div_le_iff₀ (by norm_num)]
    calc |decimalOf loan.principal| * |loan.interestRate|
        ≤ 10 ^ 10 * 10 ^ 3 :=
          mul_le_mul hprincipal h.interestRate.le (abs_nonneg _) (by norm_num)
      _ ≤ decimalOf (10 ^ 15) * 100 := by norm_num [decimalOf]
  obtain ⟨hlow, hhigh⟩ := abs_le.mp hvalue
  have hbelow := money_mono hlow
  have habove := money_mono hhigh
  rw [money_neg] at hbelow
  rw [money_decimalOf] at hbelow habove
  rw [Loan.interestTotal]
  rw [abs_lt]
  constructor <;> omega

theorem Loan.interestTotal_nonneg {loan : Loan} (hprincipal : 0 ≤ loan.principal)
    (hrate : 0 ≤ loan.interestRate) : 0 ≤ loan.interestTotal := by
  have hdecimal : 0 ≤ decimalOf loan.principal :=
    div_nonneg (Int.cast_nonneg hprincipal) (by norm_num)
  exact money_nonneg (div_nonneg (mul_nonneg hdecimal hrate) (by norm_num))

/-- The whole periods in the term of a loan, at least one. -/
def periodsInTerm (db : Db) (loan : Loan) (start due : ℤ) : ℤ :=
  max (roundHalfEven ((due - start : ℤ) / periodDays db loan)) 1

/-- The share of the interest earned by a day, before it is rounded. -/
def earnedShare (db : Db) (loan : Loan) (start due on : ℤ) : EarlySettlementMethod → ℚ
  | .completedPeriods =>
    (min (max (on - start) 0 / periodDays db loan) (periodsInTerm db loan start due) : ℤ) /
      (periodsInTerm db loan start due : ℤ)
  | .daily => (min (max (max (on - start) 0) 1) (due - start) : ℤ) / (due - start : ℤ)

section Earned

variable (db : Db) (loan : Loan) {start due : ℤ} (method : EarlySettlementMethod)

theorem earnedInterestFraction_eq (on : ℤ) : earnedInterestFraction db loan start due on method =
    context (earnedShare db loan start due on method) := by
  cases method <;> simp [earnedInterestFraction, earnedShare, periodsInTerm]

theorem periodDays_pos : 0 < periodDays db loan := by
  simp only [periodDays]
  split
  · split <;> norm_num
  · norm_num

theorem periodsInTerm_pos : 0 < periodsInTerm db loan start due :=
  lt_of_lt_of_le one_pos (le_max_right _ _)

theorem earnedShare_mono (hterm : start < due) {on later : ℤ} (h : on ≤ later) :
    earnedShare db loan start due on method ≤ earnedShare db loan start due later method := by
  cases method with
  | completedPeriods =>
    have hperiods : max (on - start) 0 / periodDays db loan ≤
        max (later - start) 0 / periodDays db loan :=
      Int.ediv_le_ediv (periodDays_pos db loan) (by omega)
    have hdone : min (max (on - start) 0 / periodDays db loan) (periodsInTerm db loan start due) ≤
        min (max (later - start) 0 / periodDays db loan) (periodsInTerm db loan start due) :=
      min_le_min_right _ hperiods
    exact div_le_div_of_nonneg_right (by exact_mod_cast hdone)
      (by exact_mod_cast (periodsInTerm_pos db loan).le)
  | daily =>
    have hused : min (max (max (on - start) 0) 1) (due - start) ≤
        min (max (max (later - start) 0) 1) (due - start) := by omega
    exact div_le_div_of_nonneg_right (by exact_mod_cast hused) (by exact_mod_cast (by omega))

theorem earnedShare_bounds (hterm : start < due) (on : ℤ) :
    0 ≤ earnedShare db loan start due on method ∧ earnedShare db loan start due on method ≤ 1 := by
  cases method with
  | completedPeriods =>
    have hpos := @periodsInTerm_pos db loan start due
    have hperiods : 0 ≤ max (on - start) 0 / periodDays db loan :=
      Int.ediv_nonneg (le_max_right _ _) (periodDays_pos db loan).le
    constructor
    · exact div_nonneg (by exact_mod_cast le_min hperiods hpos.le) (by exact_mod_cast hpos.le)
    · exact div_le_one_of_le₀ (by exact_mod_cast min_le_right _ _) (by exact_mod_cast hpos.le)
  | daily =>
    have hused : 0 ≤ min (max (max (on - start) 0) 1) (due - start) := by omega
    constructor
    · exact div_nonneg (by exact_mod_cast hused) (by exact_mod_cast (by omega))
    · exact div_le_one_of_le₀ (by exact_mod_cast min_le_right _ _) (by exact_mod_cast (by omega))

theorem earnedInterestFraction_bounds (hterm : start < due) (on : ℤ) :
    0 ≤ earnedInterestFraction db loan start due on method ∧
      earnedInterestFraction db loan start due on method ≤ 1 := by
  obtain ⟨hlow, hhigh⟩ := earnedShare_bounds db loan method hterm on
  rw [earnedInterestFraction_eq]
  refine ⟨context_nonneg hlow, ?_⟩
  have hone : context 1 = 1 := by simpa using context_intCast (n := 1) (by norm_num)
  rw [← hone]
  exact context_mono hhigh

/-- The flat interest is earned between none and all of it. -/
theorem interestEarned_bounds (hterm : start < due) (hfits : loan.Fits) (on : ℤ)
    (h : 0 ≤ loan.interestTotal) : 0 ≤ interestEarned db loan start due on method ∧
      interestEarned db loan start due on method ≤ loan.interestTotal := by
  obtain ⟨hlow, hhigh⟩ := earnedInterestFraction_bounds db loan method hterm on
  have htotal : 0 ≤ decimalOf loan.interestTotal := div_nonneg (Int.cast_nonneg h) (by norm_num)
  constructor
  · exact money_nonneg (context_nonneg (mul_nonneg htotal hlow))
  · exact money_context_le hfits.interestTotal_lt (mul_le_of_le_one_right htotal hhigh)

theorem interestEarned_mono (hterm : start < due) (h : 0 ≤ loan.interestTotal) {on later : ℤ}
    (hdays : on ≤ later) : interestEarned db loan start due on method ≤
      interestEarned db loan start due later method := by
  have htotal : 0 ≤ decimalOf loan.interestTotal := div_nonneg (Int.cast_nonneg h) (by norm_num)
  have hfraction : earnedInterestFraction db loan start due on method ≤
      earnedInterestFraction db loan start due later method := by
    rw [earnedInterestFraction_eq, earnedInterestFraction_eq]
    exact context_mono (earnedShare_mono db loan method hterm hdays)
  exact money_mono (context_mono (mul_le_mul_of_nonneg_left hfraction htotal))

end Earned

/-- Before the due date of an open loan the quote is the early one. -/
theorem payoffQuote_before (db : Db) (loanId : ℕ) {loan : Loan} {start due on : ℤ}
    (method : EarlySettlementMethod) (hstart : loan.disbursementDate = some start)
    (hdue : loan.dueDate = some due) (hopen : loan.status.collectible = true)
    (hbalance : 0 < loan.outstandingBalance) (hterm : start < due) (hon : on < due) :
    ∃ base, payoffQuote db loanId loan on method =
      earlyQuote base (owedBreakdown db loanId loan) loan.interestTotal
        (interestEarned db loan start due on method) := by
  have hnot : ¬ ((!loan.status.collectible || decide (loan.outstandingBalance ≤ 0) ||
      decide (due - start ≤ 0) || decide (due ≤ on)) = true) := by
    simp only [hopen, Bool.not_true, Bool.false_or, Bool.or_eq_true, decide_eq_true_eq]
    omega
  simp only [payoffQuote, hstart, hdue, owedBreakdown_total]
  rw [if_neg hnot]
  exact ⟨_, rfl⟩

/-- From the due date on the whole balance is payable. -/
theorem payoffQuote_due (db : Db) (loanId : ℕ) {loan : Loan} {due on : ℤ}
    (method : EarlySettlementMethod) (hdue : loan.dueDate = some due) (hon : due ≤ on) :
    (payoffQuote db loanId loan on method).payoffAmount = loan.outstandingBalance := by
  simp only [payoffQuote, hdue]
  cases loan.disbursementDate with
  | none => exact owedBreakdown_total db loanId loan
  | some start =>
    dsimp only
    rw [if_pos (by simp [hon])]
    exact owedBreakdown_total db loanId loan

/-- As long as no more than all interest is earned, the payoff and the credit are the two
sides of the balance less the interest not earned. -/
theorem earlyQuote_payoff (base : PayoffQuote) (owed : Owed) {interestTotal earned : ℤ}
    (hpaid : owed.interestPaid = interestTotal - owed.interest) (hearned : earned ≤ interestTotal)
    (hinterest : 0 ≤ owed.interest) :
    (earlyQuote base owed interestTotal earned).payoffAmount =
        max (owed.principal + owed.interest + owed.fees - (interestTotal - earned)) 0 ∧
      (earlyQuote base owed interestTotal earned).credit =
        max (-(owed.principal + owed.interest + owed.fees - (interestTotal - earned))) 0 := by
  simp only [earlyQuote]
  constructor
  · split_ifs <;> omega
  · split_ifs <;> omega

section Law

variable {db : Db} {loanId : ℕ} {loan : Loan} {start due on : ℤ}

/-- The payoff of a day is the balance less the unearned interest, if that leaves anything. -/
theorem payoff_eq (method : EarlySettlementMethod) (hstart : loan.disbursementDate = some start)
    (hdue : loan.dueDate = some due) (hopen : loan.status.collectible = true)
    (hbalance : 0 < loan.outstandingBalance) (hterm : start < due) (hfits : loan.Fits)
    (hinterest : 0 ≤ loan.interestTotal) (hon : on < due) :
    (payoffQuote db loanId loan on method).payoffAmount = max (loan.outstandingBalance -
        (loan.interestTotal - interestEarned db loan start due on method)) 0 ∧
      (payoffQuote db loanId loan on method).credit = max (-(loan.outstandingBalance -
        (loan.interestTotal - interestEarned db loan start due on method))) 0 := by
  obtain ⟨base, hquote⟩ :=
    payoffQuote_before db loanId method hstart hdue hopen hbalance hterm hon
  obtain ⟨hsum, -, howed, -⟩ := owedBreakdown_parts db loanId hbalance.le
  have hearned := (interestEarned_bounds db loan method hterm hfits on hinterest).2
  have hpaid := owedBreakdown_interestPaid db loanId loan
  rw [hquote, ← hsum]
  exact earlyQuote_payoff base _ hpaid hearned howed

/-- A payment of the payoff settles the loan. -/
theorem pays_payoff {p : Payment} (hopen : loan.status.collectible = true)
    (hearly : SettlesEarly db loanId loan p) :
    (applyToOpenLoan db loanId loan p).2.1.outstandingBalance = 0 ∧
      (applyToOpenLoan db loanId loan p).2.1.status = .paid := by
  have hsettles := (divisionOf_settles hearly).1
  obtain ⟨status, lock, hloan⟩ := settled_loan loan (divisionOf db loanId loan p) p.paidOn
  rw [applyToOpenLoan_loan]
  constructor
  · rw [hloan]
    simp [hsettles]
  · exact settled_status p.paidOn hsettles hopen

/-- A payment below both the payoff and the balance leaves some of the balance. -/
theorem pays_less {p : Payment} (hearly : ¬ SettlesEarly db loanId loan p)
    (hamount : 0 < p.amount) (hless : p.amount < loan.outstandingBalance) :
    0 < (applyToOpenLoan db loanId loan p).2.1.outstandingBalance := by
  obtain ⟨hsettles, happlied, -, -⟩ := divisionOf_plain hearly
  obtain ⟨status, lock, hloan⟩ := settled_loan loan (divisionOf db loanId loan p) p.paidOn
  rw [applyToOpenLoan_loan, hloan]
  simp only [hsettles, happlied, Bool.false_eq_true, if_false, min_eq_left hless.le]
  omega

/-- The early payoff law: the payoff lies between nothing and the balance, it and the earned
interest grow by the day up to the whole balance at the due date, payoff less credit is
the balance less the unearned interest, and exactly the payoff settles the loan. -/
theorem early_payoff_law (method : EarlySettlementMethod)
    (hstart : loan.disbursementDate = some start) (hdue : loan.dueDate = some due)
    (hopen : loan.status.collectible = true) (hbalance : 0 < loan.outstandingBalance)
    (hterm : start < due) (hprincipal : 0 ≤ loan.principal) (hrate : 0 ≤ loan.interestRate)
    (hfits : loan.Fits) (hon : on < due) :
    let quote := fun day => payoffQuote db loanId loan day method
    let earned := fun day => interestEarned db loan start due day method
    (0 ≤ (quote on).payoffAmount ∧ (quote on).payoffAmount ≤ loan.outstandingBalance) ∧
      ((quote on).interestEarned = some (earned on) ∧
        (quote on).payoffAmount - (quote on).credit =
          loan.outstandingBalance - (loan.interestTotal - earned on)) ∧
      (∀ later, on ≤ later →
        earned on ≤ earned later ∧ (quote on).payoffAmount ≤ (quote later).payoffAmount) ∧
      (quote due).payoffAmount = loan.outstandingBalance ∧
      ∀ p, Accepts db loan p → kenyaDate p.paidOn = on →
        (getPaymentSettings db p.tenantId).earlySettlementMethod = method →
        ∃ out, applyPayment db loanId loan p = .ok out ∧
          (p.amount = (quote on).payoffAmount →
            out.2.1.outstandingBalance = 0 ∧ out.2.1.status = .paid) ∧
          (p.amount < (quote on).payoffAmount → 0 < out.2.1.outstandingBalance) := by
  dsimp only
  have hinterest := Loan.interestTotal_nonneg hprincipal hrate
  have hpayoff : ∀ day, day < due → _ := fun day hday =>
    @payoff_eq db loanId loan start due day method hstart hdue hopen hbalance hterm hfits
      hinterest hday
  have hearned := (interestEarned_bounds db loan method hterm hfits on hinterest).2
  have hmost : (payoffQuote db loanId loan on method).payoffAmount ≤ loan.outstandingBalance := by
    rw [(hpayoff on hon).1]
    omega
  obtain ⟨base, hquote⟩ :=
    payoffQuote_before db loanId method hstart hdue hopen hbalance hterm hon
  refine ⟨⟨?_, hmost⟩, ⟨?_, ?_⟩, ?_, ?_, ?_⟩
  · rw [(hpayoff on hon).1]
    exact le_max_right _ _
  · rw [hquote]
    rfl
  · rw [(hpayoff on hon).1, (hpayoff on hon).2]
    omega
  · intro later hlater
    have hgrows := interestEarned_mono db loan method hterm hinterest hlater
    refine ⟨hgrows, ?_⟩
    by_cases hdays : later < due
    · rw [(hpayoff on hon).1, (hpayoff later hdays).1]
      omega
    · rw [payoffQuote_due db loanId method hdue (not_lt.mp hdays)]
      exact hmost
  · exact payoffQuote_due db loanId method hdue le_rfl
  · intro p hacc hday hmethod
    obtain ⟨out, hout⟩ := applyPayment_ok loanId hacc
    obtain ⟨hno, -⟩ | ⟨-, hclosed, -⟩ | ⟨-, -, happlied⟩ := applyPayment_cases hout
    · exact absurd hacc hno
    · rw [hopen] at hclosed
      cases hclosed
    subst happlied
    have hsettles : SettlesEarly db loanId loan p ↔
        (payoffQuote db loanId loan on method).payoffAmount ≤ p.amount := by
      simp only [SettlesEarly, hday, hmethod]
      rw [hquote]
      exact and_iff_right rfl
    refine ⟨_, hout, ?_, ?_⟩
    · intro hexact
      exact pays_payoff hopen (hsettles.mpr hexact.ge)
    · intro hless
      exact pays_less (fun h => absurd (hsettles.mp h) (not_le.mpr hless)) hacc.1
        (hless.trans_le hmost)

end Law

/-- Ten thousand for four weeks: on day 14 half the interest is earned. -/
theorem early_payoff_law_halfway :
    (payoffQuote fourWeekBook 0 fourWeekLoan 14 .daily).payoffAmount = 1050000 ∧
      (payoffQuote fourWeekBook 0 fourWeekLoan 14 .daily).payoffAmount ≤ 1100000 := by
  have hfits : fourWeekLoan.Fits := ⟨by decide, by decide⟩
  have hlaw := @early_payoff_law fourWeekBook 0 fourWeekLoan 0 28 14 .daily rfl rfl rfl (by decide)
    (by decide) (by decide) (by decide) hfits (by decide)
  exact ⟨by decide +kernel, hlaw.1.2⟩

end FinylDcp
