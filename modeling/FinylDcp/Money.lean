import FinylDcp.Decimal

/-!
# Precise money arithmetic

Amounts are whole cents: every helper of the source quantises to two decimals,
and sums and differences of such amounts are exact. Rates are exact decimals.
Quotients go through the 28-digit default context before they are quantised.
-/
namespace FinylDcp
open Decimal

/-- The decimal value of an amount. -/
def decimalOf (c : ℤ) : ℚ := c / 100

/-- The default decimal context. -/
def context (x : ℚ) : ℚ := roundSig 28 x

/-- Quantise a value to two decimals, a half away from zero. -/
def money (x : ℚ) : ℤ := roundHalfUp (x * 100)

/-- An amount as it is written, with two decimals. -/
def showCents (c : ℤ) : String :=
  let whole := c.natAbs / 100
  let tens := c.natAbs % 100 / 10
  let units := c.natAbs % 10
  let sign := if c < 0 then "-" else ""
  s!"{sign}{whole}.{tens}{units}"

/-- The interest and principal components of a repayment in the flat ratio
`rate : 100`. The principal is what the interest leaves. -/
def splitInterestPrincipal (amount : ℤ) (interestRate : ℚ) : ℤ × ℤ :=
  let denom := 100 + interestRate
  if denom = 0 then (0, amount)
  else
    let interest := money (context (decimalOf amount * context (interestRate / denom)))
    (interest, amount - interest)

/-- The additional charge allowed under the in-duplum rule. -/
def inDuplumCap (principal accruedCharges newCharge : ℤ) : ℤ :=
  let headroom := principal - accruedCharges
  if headroom ≤ 0 then 0
  else if newCharge ≤ headroom then newCharge else headroom

end FinylDcp
