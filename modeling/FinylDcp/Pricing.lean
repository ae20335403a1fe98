import FinylDcp.Schema
import Mathlib.Tactic.Linarith

/-!
# The price of a loan

One calculation for the quote, the payout and the balance. A loan keeps the
price it was made at; that snapshot, not the product's current terms, drives
what is paid out and what is owed.
-/
namespace FinylDcp
open Text

/-- Excise duty on fees charged by lenders. -/
def exciseRate : ℚ := 20 / 100

/-- How a product collects its fees; anything that is not a method is `deduct`. -/
def feeCollection (product : Product) : FeeCollection :=
  match strip (product.rules.feeCollection.getD "") with
  | "add_to_balance" => .addToBalance
  | _ => .deduct

/-- A whole number of shillings, rounded up. -/
def ceilShillings (c : ℤ) : ℤ := 100 * ⌈decimalOf c⌉

/-- The tenure of a product in years, for the annual rate. -/
def tenureYears (tenureValue : ℤ) (tenureUnit : String) : ℚ :=
  let unit := lower (if tenureUnit = "" then "weeks" else tenureUnit)
  let years :=
    if unit = "weeks" then context (tenureValue * 7 / 365)
    else if unit = "months" then context (tenureValue / 12)
    else context (tenureValue / 365)
  if years ≤ 0 then 1 else years

/-- The price of a loan of `principal` on `product`. A deducted fee comes out of the
payout, which is rounded up; an added one goes on the balance. -/
def quoteBreakdown (product : Product) (principal : ℤ) : Quote :=
  let interest := money (decimalOf principal * product.interestRate / 100)
  let processingFee := money (decimalOf principal * product.rules.processingFeeRate / 100)
  let facilityFee := money product.rules.facilityFee
  let totalFees := processingFee + facilityFee
  let exciseDuty := money (decimalOf totalFees * exciseRate)
  let feesAndExcise := totalFees + exciseDuty
  let totalCostOfCredit := interest + feesAndExcise
  let method := feeCollection product
  let net := principal - feesAndExcise
  let payout := match method with
    | .deduct => if 0 < net then ceilShillings net else 0
    | .addToBalance => ceilShillings principal
  let balance := match method with
    | .deduct => principal + interest
    | .addToBalance => principal + interest + feesAndExcise
  let tenureValue := max 1 product.tenureValue
  let base := if 0 < payout then payout else principal
  { principal := principal
    interestRate := product.interestRate
    tenureValue := tenureValue
    tenureUnit := product.tenureUnit
    interest := interest
    processingFee := processingFee
    facilityFee := facilityFee
    totalFees := totalFees
    exciseDuty := exciseDuty
    totalCostOfCredit := totalCostOfCredit
    totalRepayable := balance
    amountReceived := payout
    effectiveAnnualRate :=
      if 0 < base then
        money (context (context (context (decimalOf totalCostOfCredit / decimalOf base) /
          tenureYears tenureValue product.tenureUnit) * 100))
      else 0
    feeCollection := method
    payoutAmount := payout
    balanceAtDisbursement := balance
    feesInBalance := match method with
      | .deduct => 0
      | .addToBalance => feesAndExcise }

/-- The loan's agreed price: its stored snapshot when that is for the loan's
principal, otherwise a fresh calculation. -/
def loanSnapshot (loan : Loan) (product : Product) : Quote :=
  match loan.pricingSnapshot with
  | some snap => if snap.principal = loan.principal then snap
    else quoteBreakdown product loan.principal
  | none => quoteBreakdown product loan.principal

/-- Whichever way fees are collected, the balance is what the borrower is quoted. -/
theorem quoteBreakdown_balance (product : Product) (principal : ℤ) :
    let q := quoteBreakdown product principal
    q.balanceAtDisbursement = q.principal + q.interest + q.feesInBalance ∧
      q.totalRepayable = q.balanceAtDisbursement ∧ q.amountReceived = q.payoutAmount := by
  simp only [quoteBreakdown]
  cases feeCollection product <;> simp

/-- Rounding up to whole shillings adds less than one. -/
theorem ceilShillings_bounds (c : ℤ) : c ≤ ceilShillings c ∧ ceilShillings c < c + 100 := by
  have hleast : decimalOf c ≤ (⌈decimalOf c⌉ : ℚ) := Int.le_ceil _
  have hmost : (⌈decimalOf c⌉ : ℚ) < decimalOf c + 1 := Int.ceil_lt_add_one _
  rw [decimalOf] at hleast hmost
  have hleast' : (c : ℚ) ≤ 100 * ⌈decimalOf c⌉ := by rw [decimalOf]; linarith
  have hmost' : (100 * ⌈decimalOf c⌉ : ℚ) < c + 100 := by rw [decimalOf]; linarith
  exact ⟨by exact_mod_cast hleast', by exact_mod_cast hmost'⟩

end FinylDcp
