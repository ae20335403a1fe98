import Mathlib.Data.Rat.Floor
import Mathlib.Data.Int.Log

/-!
# Decimal rounding

Exact rationals stand for decimal numbers. A decimal context keeps a fixed
number of significant digits, a half going to the even neighbour; a currency
column keeps whole units, a half going away from zero. Both are executable.
-/
namespace FinylDcp.Decimal

/-- Nearest integer, a half rounded away from zero. -/
def roundHalfUp (x : ℚ) : ℤ :=
  if 0 ≤ x then ⌊x + 1 / 2⌋ else -⌊-x + 1 / 2⌋

/-- Nearest integer, a half rounded to the even neighbour. -/
def roundHalfEven (x : ℚ) : ℤ :=
  let f := ⌊x⌋
  if x - f < 1 / 2 then f
  else if 1 / 2 < x - f then f + 1
  else if f % 2 = 0 then f else f + 1

/-- `x` with `p` significant decimal digits. The power of ten brings the leading
digit of `x` to position `p`. -/
def roundSig (p : ℕ) (x : ℚ) : ℚ :=
  if x = 0 then 0
  else
    let scale : ℚ := 10 ^ ((p : ℤ) - 1 - Int.log 10 |x|)
    roundHalfEven (x * scale) / scale

/-- Fourteen twenty-eighths taken through 28 digits falls just below a half, so
that the two roundings disagree with exact arithmetic. -/
example : roundHalfUp (roundSig 28 (14 * roundSig 28 (1 / 28))) = 0 ∧
    roundHalfUp (14 * (1 / 28)) = 1 := by decide +kernel

end FinylDcp.Decimal
