import FinylDcp.Decimal
import Mathlib.Tactic.FieldSimp
import Mathlib.Tactic.GCongr
import Mathlib.Tactic.Linarith
import Mathlib.Tactic.Positivity

/-!
# Order facts about rounding

Every rounding here is odd, keeps the order and keeps what it can represent. So
a value below a representable one is not rounded above it.
-/
namespace FinylDcp.Decimal

theorem floor_le_roundHalfEven (x : ℚ) : ⌊x⌋ ≤ roundHalfEven x := by
  simp only [roundHalfEven]
  split_ifs <;> omega

theorem roundHalfEven_le_floor_add_one (x : ℚ) : roundHalfEven x ≤ ⌊x⌋ + 1 := by
  simp only [roundHalfEven]
  split_ifs <;> omega

@[simp] theorem roundHalfEven_intCast (n : ℤ) : roundHalfEven n = n := by
  simp [roundHalfEven]

theorem roundHalfEven_mono {x y : ℚ} (h : x ≤ y) : roundHalfEven x ≤ roundHalfEven y := by
  obtain hlt | heq := (Int.floor_mono h).lt_or_eq
  · have hx := roundHalfEven_le_floor_add_one x
    have hy := floor_le_roundHalfEven y
    omega
  · simp only [roundHalfEven, heq]
    have hfract : x - (⌊y⌋ : ℚ) ≤ y - ⌊y⌋ := sub_le_sub_right h _
    split_ifs <;> first | omega | exact absurd hfract (by linarith)

theorem roundHalfEven_le (x : ℚ) : (roundHalfEven x : ℚ) ≤ x + 1 / 2 := by
  have hfloor := Int.floor_le x
  have hnext := Int.lt_floor_add_one x
  simp only [roundHalfEven]
  split_ifs <;> push_cast <;> linarith

@[simp] theorem roundHalfEven_neg (x : ℚ) : roundHalfEven (-x) = -roundHalfEven x := by
  obtain ⟨n, rfl⟩ | hx := em (∃ n : ℤ, x = n)
  · rw [← Int.cast_neg, roundHalfEven_intCast, roundHalfEven_intCast]
  · have hfloor : ⌊-x⌋ = -⌊x⌋ - 1 := by
      have hne : (⌊x⌋ : ℚ) ≠ x := fun h => hx ⟨⌊x⌋, h.symm⟩
      have hlt : (⌊x⌋ : ℚ) < x := lt_of_le_of_ne (Int.floor_le x) hne
      have hup := Int.lt_floor_add_one x
      rw [Int.floor_eq_iff]
      push_cast
      constructor <;> linarith
    simp only [roundHalfEven, hfloor]
    push_cast
    split_ifs <;> first | omega | linarith

theorem roundHalfUp_eq_floor {x : ℚ} (h : 0 ≤ x) : roundHalfUp x = ⌊x + 1 / 2⌋ := if_pos h

@[simp] theorem roundHalfUp_neg (x : ℚ) : roundHalfUp (-x) = -roundHalfUp x := by
  obtain hx | rfl | hx := lt_trichotomy x 0
  · rw [roundHalfUp, roundHalfUp, if_pos (by linarith), if_neg (by linarith), neg_neg]
  · norm_num [roundHalfUp]
  · rw [roundHalfUp, roundHalfUp, if_neg (by linarith), if_pos hx.le, neg_neg]

@[simp] theorem roundHalfUp_intCast (n : ℤ) : roundHalfUp n = n := by
  have hnonneg : ∀ m : ℤ, 0 ≤ m → roundHalfUp m = m := by
    intro m hm
    rw [roundHalfUp_eq_floor (Int.cast_nonneg hm), Int.floor_intCast_add]
    norm_num
  obtain hn | hn := le_total 0 n
  · exact hnonneg n hn
  · have hneg := hnonneg (-n) (by omega)
    rw [Int.cast_neg, roundHalfUp_neg] at hneg
    omega

theorem roundHalfUp_nonneg {x : ℚ} (h : 0 ≤ x) : 0 ≤ roundHalfUp x := by
  rw [roundHalfUp_eq_floor h]
  exact Int.floor_nonneg.mpr (by linarith)

theorem roundHalfUp_mono {x y : ℚ} (h : x ≤ y) : roundHalfUp x ≤ roundHalfUp y := by
  have hpos : ∀ x y : ℚ, 0 ≤ x → x ≤ y → roundHalfUp x ≤ roundHalfUp y := by
    intro x y hx h
    rw [roundHalfUp_eq_floor hx, roundHalfUp_eq_floor (hx.trans h)]
    exact Int.floor_mono (by linarith)
  obtain hx | hx := le_total 0 x
  · exact hpos x y hx h
  obtain hy | hy := le_total 0 y
  · have hx' := roundHalfUp_nonneg (neg_nonneg.mpr hx)
    have hy' := roundHalfUp_nonneg hy
    rw [roundHalfUp_neg] at hx'
    omega
  · have hneg := hpos (-y) (-x) (by linarith) (by linarith)
    rw [roundHalfUp_neg, roundHalfUp_neg] at hneg
    omega

section Significant

variable {p : ℕ}

/-- What brings the leading digit of `x` to position `p`. -/
def scaleOf (p : ℕ) (x : ℚ) : ℚ := 10 ^ ((p : ℤ) - 1 - Int.log 10 |x|)

theorem scaleOf_pos (x : ℚ) : 0 < scaleOf p x := zpow_pos (by norm_num) _

theorem roundSig_eq {x : ℚ} (h : x ≠ 0) :
    roundSig p x = roundHalfEven (x * scaleOf p x) / scaleOf p x := if_neg h

@[simp] theorem roundSig_zero : roundSig p 0 = 0 := if_pos rfl

@[simp] theorem roundSig_neg (x : ℚ) : roundSig p (-x) = -roundSig p x := by
  obtain rfl | hx := eq_or_ne x 0
  · simp
  · have hscale : scaleOf p (-x) = scaleOf p x := by rw [scaleOf, scaleOf, abs_neg]
    rw [roundSig_eq (neg_ne_zero.mpr hx), roundSig_eq hx, hscale, neg_mul, roundHalfEven_neg,
      Int.cast_neg, neg_div]

theorem roundSig_nonneg {x : ℚ} (h : 0 ≤ x) : 0 ≤ roundSig p x := by
  obtain rfl | hx := h.eq_or_lt
  · simp
  rw [roundSig_eq hx.ne']
  have hscaled : 0 ≤ x * scaleOf p x := mul_nonneg h (scaleOf_pos x).le
  have hround : 0 ≤ roundHalfEven (x * scaleOf p x) := by
    rw [← roundHalfEven_intCast 0]
    exact roundHalfEven_mono (by simpa using hscaled)
  exact div_nonneg (Int.cast_nonneg hround) (scaleOf_pos x).le

/-- The digits of a positive number fill the `p` places. -/
theorem scaled_between {x : ℚ} (h : 0 < x) :
    (10 : ℚ) ^ ((p : ℤ) - 1) ≤ x * scaleOf p x ∧ x * scaleOf p x ≤ 10 ^ (p : ℤ) := by
  have hlow : (10 : ℚ) ^ Int.log 10 x ≤ x := by
    simpa using Int.zpow_log_le_self (b := 10) (by norm_num) h
  have hhigh : x ≤ (10 : ℚ) ^ (Int.log 10 x + 1) := by
    simpa using (Int.lt_zpow_succ_log_self (b := 10) (by norm_num) x).le
  have hten : (10 : ℚ) ≠ 0 := by norm_num
  have hshift : (0 : ℚ) ≤ 10 ^ ((p : ℤ) - 1 - Int.log 10 x) := (zpow_pos (by norm_num) _).le
  rw [scaleOf, abs_of_pos h]
  constructor
  · calc (10 : ℚ) ^ ((p : ℤ) - 1)
        = 10 ^ Int.log 10 x * 10 ^ ((p : ℤ) - 1 - Int.log 10 x) := by
          rw [← zpow_add₀ hten]; congr 1; ring
      _ ≤ x * 10 ^ ((p : ℤ) - 1 - Int.log 10 x) := mul_le_mul_of_nonneg_right hlow hshift
  · calc x * 10 ^ ((p : ℤ) - 1 - Int.log 10 x)
        ≤ 10 ^ (Int.log 10 x + 1) * 10 ^ ((p : ℤ) - 1 - Int.log 10 x) :=
          mul_le_mul_of_nonneg_right hhigh hshift
      _ = 10 ^ (p : ℤ) := by rw [← zpow_add₀ hten]; congr 1; ring

/-- A positive number keeps its leading power of ten, or rounds up to the next. -/
theorem roundSig_bounds (hp : 0 < p) {x : ℚ} (h : 0 < x) :
    (10 : ℚ) ^ Int.log 10 x ≤ roundSig p x ∧ roundSig p x ≤ 10 ^ (Int.log 10 x + 1) := by
  obtain ⟨q, rfl⟩ : ∃ q, p = q + 1 := ⟨p - 1, by omega⟩
  obtain ⟨hlow, hhigh⟩ := scaled_between (p := q + 1) h
  have hten : (10 : ℚ) ≠ 0 := by norm_num
  have hwhole : ∀ k : ℕ, (10 : ℚ) ^ (k : ℤ) = ((10 ^ k : ℤ) : ℚ) := by intro k; push_cast; simp
  have hfloor : (10 ^ q : ℤ) ≤ roundHalfEven (x * scaleOf (q + 1) x) := by
    rw [← roundHalfEven_intCast (10 ^ q)]
    apply roundHalfEven_mono
    rw [← hwhole]
    simpa using hlow
  have hceil : roundHalfEven (x * scaleOf (q + 1) x) ≤ (10 ^ (q + 1) : ℤ) := by
    rw [← roundHalfEven_intCast (10 ^ (q + 1))]
    apply roundHalfEven_mono
    rw [← hwhole]
    exact hhigh
  rw [roundSig_eq h.ne', le_div_iff₀ (scaleOf_pos x), div_le_iff₀ (scaleOf_pos x)]
  have hscale : scaleOf (q + 1) x = 10 ^ ((q : ℤ) - Int.log 10 x) := by
    rw [scaleOf, abs_of_pos h]; congr 1; push_cast; ring
  rw [hscale, ← zpow_add₀ hten, ← zpow_add₀ hten]
  constructor
  · rw [show Int.log 10 x + ((q : ℤ) - Int.log 10 x) = (q : ℤ) by ring, hwhole]
    rw [← hscale]
    exact_mod_cast hfloor
  · rw [show Int.log 10 x + 1 + ((q : ℤ) - Int.log 10 x) =
      ((q + 1 : ℕ) : ℤ) by push_cast; ring, hwhole]
    rw [← hscale]
    exact_mod_cast hceil

theorem roundSig_le_of_pos (hp : 0 < p) {x y : ℚ} (hx : 0 < x) (h : x ≤ y) :
    roundSig p x ≤ roundSig p y := by
  have hy : 0 < y := hx.trans_le h
  obtain hlt | heq := (Int.log_mono_right (b := 10) hx h).lt_or_eq
  · calc roundSig p x ≤ 10 ^ (Int.log 10 x + 1) := (roundSig_bounds hp hx).2
      _ ≤ 10 ^ Int.log 10 y := zpow_le_zpow_right₀ (by norm_num) (by omega)
      _ ≤ roundSig p y := (roundSig_bounds hp hy).1
  · have hscale : scaleOf p x = scaleOf p y := by
      rw [scaleOf, scaleOf, abs_of_pos hx, abs_of_pos hy, heq]
    rw [roundSig_eq hx.ne', roundSig_eq hy.ne', hscale]
    have hround : roundHalfEven (x * scaleOf p y) ≤ roundHalfEven (y * scaleOf p y) :=
      roundHalfEven_mono (mul_le_mul_of_nonneg_right h (scaleOf_pos y).le)
    exact div_le_div_of_nonneg_right (by exact_mod_cast hround) (scaleOf_pos y).le

theorem roundSig_mono (hp : 0 < p) {x y : ℚ} (h : x ≤ y) : roundSig p x ≤ roundSig p y := by
  obtain hx | rfl | hx := lt_trichotomy 0 x
  · exact roundSig_le_of_pos hp hx h
  · simpa using roundSig_nonneg h
  · obtain hy | hy := le_or_gt 0 y
    · have hx' : 0 ≤ roundSig p (-x) := roundSig_nonneg (by linarith)
      rw [roundSig_neg] at hx'
      linarith [roundSig_nonneg (p := p) hy]
    · have hneg := roundSig_le_of_pos hp (neg_pos.mpr hy) (neg_le_neg h)
      rw [roundSig_neg, roundSig_neg] at hneg
      linarith

/-- Rounding adds at most half a unit of the last digit. -/
theorem roundSig_le_mul {x : ℚ} (h : 0 ≤ x) :
    roundSig (p + 1) x ≤ x * (1 + 1 / (2 * 10 ^ p)) := by
  obtain rfl | hx := h.eq_or_lt
  · simp
  have hscale := scaleOf_pos (p := p + 1) x
  have hdigits : (10 : ℚ) ^ p ≤ x * scaleOf (p + 1) x := by
    have hlow := (scaled_between (p := p + 1) hx).1
    rwa [show ((p + 1 : ℕ) : ℤ) - 1 = (p : ℤ) by push_cast; ring, zpow_natCast] at hlow
  have hhalf : 1 / 2 ≤ x * scaleOf (p + 1) x * (1 / (2 * 10 ^ p)) := by
    have hten : (0 : ℚ) < 10 ^ p := by positivity
    calc (1 : ℚ) / 2 = 10 ^ p * (1 / (2 * 10 ^ p)) := by field_simp
      _ ≤ x * scaleOf (p + 1) x * (1 / (2 * 10 ^ p)) :=
        mul_le_mul_of_nonneg_right hdigits (by positivity)
  rw [roundSig_eq hx.ne', div_le_iff₀ hscale]
  linarith [roundHalfEven_le (x * scaleOf (p + 1) x)]

/-- A number of at most `p` digits, wherever its point stands, is kept. -/
theorem roundSig_of_digits {x : ℚ} {n : ℤ} {k : ℕ} (hx : x = n / 10 ^ k) (hn : |n| < 10 ^ p) :
    roundSig p x = x := by
  obtain rfl | hne := eq_or_ne x 0
  · simp
  have hten : (10 : ℚ) ≠ 0 := by norm_num
  have hpos : 0 < |x| := abs_pos.mpr hne
  have habs : |x| = |n| / 10 ^ k := by
    rw [hx, abs_div, abs_of_pos (by positivity : (0 : ℚ) < 10 ^ k), Int.cast_abs]
  have hlog : Int.log 10 |x| < (p : ℤ) - k := by
    have hlow : (10 : ℚ) ^ Int.log 10 |x| ≤ |x| := by
      simpa using Int.zpow_log_le_self (b := 10) (by norm_num) hpos
    have hlt : |x| < (10 : ℚ) ^ ((p : ℤ) - k) := by
      rw [habs, zpow_sub₀ hten, zpow_natCast, zpow_natCast]
      have hcast : ((|n| : ℤ) : ℚ) < 10 ^ p := by exact_mod_cast hn
      gcongr
    exact (zpow_lt_zpow_iff_right₀ (by norm_num)).mp (hlow.trans_lt hlt)
  obtain ⟨j, hj⟩ : ∃ j : ℕ, (p : ℤ) - 1 - Int.log 10 |x| = (k : ℤ) + j :=
    ⟨((p : ℤ) - 1 - Int.log 10 |x| - k).toNat, by omega⟩
  have hscale : scaleOf p x = 10 ^ k * 10 ^ j := by
    rw [scaleOf, hj, zpow_add₀ hten, zpow_natCast, zpow_natCast]
  have hwhole : x * scaleOf p x = ((n * 10 ^ j : ℤ) : ℚ) := by
    rw [hscale, hx]
    push_cast
    field_simp
  rw [roundSig_eq hne, hwhole, roundHalfEven_intCast, ← hwhole, mul_div_assoc,
    div_self (scaleOf_pos x).ne', mul_one]

end Significant

end FinylDcp.Decimal
