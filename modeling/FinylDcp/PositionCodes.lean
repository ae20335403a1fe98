import Mathlib.Algebra.Group.Basic

/-!
# Check sums over positions

The symbols of a word, each weighed at its position, add up in a group. A symbol replaced, or
two neighbours swapped, leave the sum as it is exactly when their own weights do.
-/
namespace FinylDcp.PositionCodes

variable {α G : Type*} [AddCommGroup G] (weigh : ℕ → α → G)

/-- The sum of a word whose first symbol stands at position `k`. -/
def weightedSum (k : ℕ) : List α → G
  | [] => 0
  | a :: as => weigh k a + weightedSum (k + 1) as

theorem weightedSum_append (k : ℕ) (as bs : List α) :
    weightedSum weigh k (as ++ bs) =
      weightedSum weigh k as + weightedSum weigh (k + as.length) bs := by
  induction as generalizing k with
  | nil => simp [weightedSum]
  | cons a as ih =>
    have hplace : k + 1 + as.length = k + (as.length + 1) := by omega
    simp only [List.cons_append, weightedSum, ih, List.length_cons, add_assoc, hplace]

/-- One symbol replaced. -/
theorem weightedSum_replace_iff (k : ℕ) (as bs : List α) (a b : α) :
    weightedSum weigh k (as ++ a :: bs) = weightedSum weigh k (as ++ b :: bs) ↔
      weigh (k + as.length) a = weigh (k + as.length) b := by
  simp only [weightedSum_append, weightedSum, add_right_inj, add_left_inj]

/-- Two neighbours swapped. -/
theorem weightedSum_swap_iff (k : ℕ) (as bs : List α) (a b : α) :
    weightedSum weigh k (as ++ a :: b :: bs) = weightedSum weigh k (as ++ b :: a :: bs) ↔
      weigh (k + as.length) a + weigh (k + as.length + 1) b =
        weigh (k + as.length) b + weigh (k + as.length + 1) a := by
  simp only [weightedSum_append, weightedSum, add_right_inj]
  rw [← add_assoc, ← add_assoc, add_left_inj]

end FinylDcp.PositionCodes
