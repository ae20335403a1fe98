import FinylDcp.Matching
import FinylDcp.PositionCodes
import Mathlib.Data.ZMod.Basic

/-!
# Check digits of customer numbers

The last digit of a customer number makes the Luhn sum of the whole number a multiple of ten.
A digit weighs itself at every other place from the right and the cross sum of its double at the
others, and both permute the digits modulo ten, which is why no single mistyped digit goes
unnoticed. The migration that numbered the old clients computes the digit in its own loop.
-/
namespace FinylDcp
open FinylDcp.PositionCodes Text

/-- The number with its check digit appended. -/
def withCheckDigit (payload : String) : String := payload ++ toString (luhnCheckDigit payload)

/-- `generate_candidate`, from the number that `secrets.randbelow` draws. -/
def generateCandidate (draw : ℕ) : String := withCheckDigit (toString (100000 + draw))

/-- `generate_unique`, from what its attempts draw; none when every candidate is taken. -/
def generateUnique (taken : String → Bool) (draws : Fin 50 → Fin 900000) : Option String :=
  ((List.ofFn draws).map (fun draw => generateCandidate draw.val)).find?
    (fun cand => !taken cand)

/-- The last digit is the check digit of the ones before it. -/
def lastDigitVerifies (s : String) : Bool :=
  match s.toList.reverse with
  | [] => false
  | check :: payload => luhnCheckDigit (String.ofList payload.reverse) = decimalValue check

/-- A number of the type INT. -/
def int4 (n : ℕ) : Option ℕ := if n < 2 ^ 31 then some n else none

/-- `substr(payload, i, 1)::INT`. -/
def digitAt (payload : String) (i : ℕ) : Option ℕ :=
  (payload.toList[i - 1]?).bind fun c => if c.isDigit then some (decimalValue c) else none

/-- The loop over the digits, from the place `i` down to the first. -/
def backfillTotal (payload : String) : ℕ → Bool → ℕ → Option ℕ
  | 0, _, total => some total
  | i + 1, dbl, total => do
    let d ← digitAt payload (i + 1)
    let d := if dbl then (if 9 < d * 2 then d * 2 - 9 else d * 2) else d
    let total ← int4 (total + d)
    backfillTotal payload i (!dbl) total

/-- The check digit that the backfill appends; none when it stops with an error. -/
def backfillCheckDigit (payload : String) : Option ℕ :=
  (backfillTotal payload payload.toList.length true 0).map fun total => (10 - total % 10) % 10

/-- The number that the backfill makes of `floor(random() * 900000)`. -/
def backfillCandidate (draw : ℕ) : Option String :=
  let payload := toString (100000 + draw)
  (backfillCheckDigit payload).map fun d => payload ++ toString d

/-- What a digit adds to the sum. -/
def luhnTerm (double : Bool) (d : ℕ) : ℕ :=
  if double then (if 9 < 2 * d then 2 * d - 9 else 2 * d) else d

@[simp] theorem luhnSum_nil (double : Bool) : luhnSum double [] = 0 := by
  cases double <;> rfl

@[simp] theorem luhnSum_cons (double : Bool) (c : Char) (cs : List Char) :
    luhnSum double (c :: cs) = luhnTerm double (decimalValue c) + luhnSum (!double) cs := by
  cases double <;> rfl

theorem luhnTerm_le {double : Bool} {d : ℕ} (hd : d ≤ 9) : luhnTerm double d ≤ 9 := by
  unfold luhnTerm
  split_ifs <;> omega

theorem decimalValue_le {c : Char} (hc : c.isDigit) : decimalValue c ≤ 9 := by
  have hrange : 48 ≤ c.toNat ∧ c.toNat ≤ 57 := Char.isDigit_iff_toNat.mp hc
  rw [decimalValue_of_isDigit hc]
  omega

theorem decimalValue_inj {c d : Char} (hc : c.isDigit) (hd : d.isDigit) :
    decimalValue c = decimalValue d ↔ c = d := by
  have hc' : 48 ≤ c.toNat ∧ c.toNat ≤ 57 := Char.isDigit_iff_toNat.mp hc
  have hd' : 48 ≤ d.toNat ∧ d.toNat ≤ 57 := Char.isDigit_iff_toNat.mp hd
  constructor
  · intro h
    apply Char.toNat_inj.mp
    rw [decimalValue_of_isDigit hc, decimalValue_of_isDigit hd] at h
    omega
  · rintro rfl
    rfl

/-- The weight of the digit at a place, modulo ten; the check digit stands at place zero. -/
def luhnWeight (k : ℕ) (c : Char) : ZMod 10 := (luhnTerm (k % 2 = 1) (decimalValue c) : ℕ)

theorem luhnSum_eq_weightedSum (k : ℕ) (cs : List Char) :
    ((luhnSum (k % 2 = 1) cs : ℕ) : ZMod 10) = weightedSum luhnWeight k cs := by
  induction cs generalizing k with
  | nil => simp [weightedSum]
  | cons c cs ih =>
    have hnext : (!decide (k % 2 = 1)) = decide ((k + 1) % 2 = 1) := by
      by_cases h : k % 2 = 1
      · simp [h, Nat.add_mod]
      · have heven : k % 2 = 0 := by omega
        simp [heven, Nat.add_mod]
    rw [luhnSum_cons, hnext, weightedSum, Nat.cast_add, ih]
    rfl

/-- Both weights tell the digits apart, modulo ten. -/
theorem luhnTerm_injective : ∀ (double : Bool) (a b : Fin 10),
    (luhnTerm double a : ZMod 10) = luhnTerm double b → a = b := by
  decide

/-- Only zero and nine can change places. -/
theorem luhnTerm_swap : ∀ (double : Bool) (a b : Fin 10),
    (luhnTerm double a + luhnTerm (!double) b : ZMod 10) =
        luhnTerm double b + luhnTerm (!double) a ↔
      a = b ∨ a = 0 ∧ b = 9 ∨ a = 9 ∧ b = 0 := by
  decide

theorem luhnWeight_inj {k : ℕ} {c d : Char} (hc : c.isDigit) (hd : d.isDigit) :
    luhnWeight k c = luhnWeight k d ↔ c = d := by
  constructor
  · intro h
    have hvalues := luhnTerm_injective (k % 2 = 1)
      ⟨decimalValue c, Nat.lt_succ_of_le (decimalValue_le hc)⟩
      ⟨decimalValue d, Nat.lt_succ_of_le (decimalValue_le hd)⟩ h
    exact (decimalValue_inj hc hd).mp (Fin.mk.inj hvalues)
  · rintro rfl
    rfl

theorem decimalValue_eq_zero_iff {c : Char} (hc : c.isDigit) : decimalValue c = 0 ↔ c = '0' :=
  decimalValue_inj hc (by decide : '0'.isDigit)

theorem decimalValue_eq_nine_iff {c : Char} (hc : c.isDigit) : decimalValue c = 9 ↔ c = '9' :=
  decimalValue_inj hc (by decide : '9'.isDigit)

theorem luhnWeight_swap {k : ℕ} {c d : Char} (hc : c.isDigit) (hd : d.isDigit) :
    luhnWeight k c + luhnWeight (k + 1) d = luhnWeight k d + luhnWeight (k + 1) c ↔
      c = d ∨ c = '0' ∧ d = '9' ∨ c = '9' ∧ d = '0' := by
  have hnext : decide ((k + 1) % 2 = 1) = !decide (k % 2 = 1) := by
    by_cases h : k % 2 = 1
    · simp [h, Nat.add_mod]
    · have heven : k % 2 = 0 := by omega
      simp [heven, Nat.add_mod]
  have hswap := luhnTerm_swap (k % 2 = 1)
    ⟨decimalValue c, Nat.lt_succ_of_le (decimalValue_le hc)⟩
    ⟨decimalValue d, Nat.lt_succ_of_le (decimalValue_le hd)⟩
  simp only [Fin.ext_iff, Fin.val_zero, show (9 : Fin 10).val = 9 from rfl,
    decimalValue_inj hc hd, decimalValue_eq_zero_iff, decimalValue_eq_nine_iff, hc, hd] at hswap
  rw [luhnWeight, luhnWeight, luhnWeight, luhnWeight, hnext]
  exact hswap

theorem lastDigitVerifies_append (payload : List Char) (check : Char) :
    lastDigitVerifies (String.ofList (payload ++ [check])) =
      decide (luhnCheckDigit (String.ofList payload) = decimalValue check) := by
  simp [lastDigitVerifies]

/-- A number verifies when its digits weigh nothing in total. -/
theorem lastDigitVerifies_iff {cs : List Char} (hne : cs ≠ []) (hdigits : ∀ c ∈ cs, c.isDigit) :
    lastDigitVerifies (String.ofList cs) = true ↔ weightedSum luhnWeight 0 cs.reverse = 0 := by
  obtain ⟨payload, check, rfl⟩ := (List.eq_nil_or_concat' cs).resolve_left hne
  have hcheck := decimalValue_le (hdigits check (by simp))
  have hsum : weightedSum luhnWeight 0 (payload ++ [check]).reverse =
      ((decimalValue check + luhnSum true payload.reverse : ℕ) : ZMod 10) := by
    rw [← luhnSum_eq_weightedSum 0]
    simp [luhnTerm]
  rw [lastDigitVerifies_append, hsum, ZMod.natCast_eq_zero_iff, decide_eq_true_eq,
    luhnCheckDigit, String.toList_ofList]
  omega

theorem withCheckDigit_eq (payload : String) :
    withCheckDigit payload =
      String.ofList (payload.toList ++ [(luhnCheckDigit payload).digitChar]) := by
  have hlt : luhnCheckDigit payload < 10 := Nat.mod_lt _ (by decide)
  apply String.toList_injective
  simp [withCheckDigit, Nat.toDigits_of_lt_base hlt]

/-- Its check digit makes a number verify. -/
theorem withCheckDigit_verifies (payload : String) :
    lastDigitVerifies (withCheckDigit payload) = true := by
  have hdigit : ∀ n < 10, decimalValue n.digitChar = n := by decide
  rw [withCheckDigit_eq, lastDigitVerifies_append, String.ofList_toList]
  exact decide_eq_true (hdigit _ (Nat.mod_lt _ (by decide))).symm

/-- A digit replaced by another one leaves no number that verifies. -/
theorem not_verifies_of_replaced {pre post : List Char} {c d : Char}
    (hdigits : ∀ x ∈ pre ++ c :: post, x.isDigit)
    (h : lastDigitVerifies (String.ofList (pre ++ c :: post)) = true) (hd : d.isDigit)
    (hne : d ≠ c) : lastDigitVerifies (String.ofList (pre ++ d :: post)) = false := by
  have hc : c.isDigit := hdigits c (by simp)
  have hdigits' : ∀ x ∈ pre ++ d :: post, x.isDigit := by
    intro x hx
    obtain hpre | rfl | hpost := by simpa using hx
    · exact hdigits x (by simp [hpre])
    · exact hd
    · exact hdigits x (by simp [hpost])
  have hreverse (a : Char) : (pre ++ a :: post).reverse = post.reverse ++ a :: pre.reverse := by
    simp
  rw [lastDigitVerifies_iff (by simp) hdigits, hreverse] at h
  rw [Bool.eq_false_iff]
  intro hbad
  rw [lastDigitVerifies_iff (by simp) hdigits', hreverse, ← h, weightedSum_replace_iff,
    luhnWeight_inj hd hc] at hbad
  exact hne hbad

/-- Two different neighbours swapped leave a number that verifies only if they are zero and
nine. -/
theorem verifies_swapped_iff {pre post : List Char} {c d : Char}
    (hdigits : ∀ x ∈ pre ++ c :: d :: post, x.isDigit) (hne : c ≠ d)
    (h : lastDigitVerifies (String.ofList (pre ++ c :: d :: post)) = true) :
    lastDigitVerifies (String.ofList (pre ++ d :: c :: post)) = true ↔
      c = '0' ∧ d = '9' ∨ c = '9' ∧ d = '0' := by
  have hc : c.isDigit := hdigits c (by simp)
  have hd : d.isDigit := hdigits d (by simp)
  have hdigits' : ∀ x ∈ pre ++ d :: c :: post, x.isDigit := by
    intro x hx
    exact hdigits x (((List.Perm.swap c d post).append_left pre).mem_iff.mp hx)
  have hreverse (a b : Char) :
      (pre ++ a :: b :: post).reverse = post.reverse ++ b :: a :: pre.reverse := by simp
  rw [lastDigitVerifies_iff (by simp) hdigits, hreverse] at h
  rw [lastDigitVerifies_iff (by simp) hdigits', hreverse, ← h, weightedSum_swap_iff,
    luhnWeight_swap hc hd, or_iff_right hne]

theorem digitAt_succ {payload : String} {i : ℕ} {c : Char} (hc : payload.toList[i]? = some c)
    (hdigit : c.isDigit) : digitAt payload (i + 1) = some (decimalValue c) := by
  simp [digitAt, hc, hdigit]

theorem int4_add_term (double : Bool) (total d : ℕ) :
    int4 (total + if double then (if 9 < d * 2 then d * 2 - 9 else d * 2) else d) =
      int4 (total + luhnTerm double d) := by
  simp only [luhnTerm, Nat.mul_comm d 2]

/-- From the place `i` on the loop adds the Luhn sum of the digits up to there, unless that is no
INT any more. -/
theorem backfillTotal_eq {payload : String} (hdigits : ∀ c ∈ payload.toList, c.isDigit)
    (i : ℕ) (dbl : Bool) (total : ℕ) (hi : i ≤ payload.toList.length) (htotal : total < 2 ^ 31) :
    backfillTotal payload i dbl total =
      int4 (total + luhnSum dbl (payload.toList.take i).reverse) := by
  induction i generalizing dbl total with
  | zero =>
    rw [List.take_zero, List.reverse_nil, luhnSum_nil, Nat.add_zero, int4, if_pos htotal]
    rfl
  | succ i ih =>
    have hrow : payload.toList[i]? = some (payload.toList[i]) := List.getElem?_eq_getElem (by omega)
    have hdigit := hdigits _ (List.mem_of_getElem? hrow)
    have htake : (payload.toList.take (i + 1)).reverse =
        payload.toList[i] :: (payload.toList.take i).reverse := by
      rw [List.take_add_one, hrow]
      simp
    rw [backfillTotal, digitAt_succ hrow hdigit, htake, luhnSum_cons, ← Nat.add_assoc]
    simp only [Option.bind_eq_bind, Option.bind_some, int4_add_term]
    by_cases hfits : total + luhnTerm dbl (decimalValue payload.toList[i]) < 2 ^ 31
    · rw [int4, if_pos hfits]
      exact ih (!dbl) _ (by omega) hfits
    · rw [int4, if_neg hfits, int4, if_neg (by omega)]
      rfl

/-- The backfill computes the check digit, unless the Luhn sum is no INT. -/
theorem backfillCheckDigit_eq {payload : String} (hdigits : ∀ c ∈ payload.toList, c.isDigit) :
    backfillCheckDigit payload =
      if luhnSum true payload.toList.reverse < 2 ^ 31 then some (luhnCheckDigit payload)
      else none := by
  rw [backfillCheckDigit, backfillTotal_eq hdigits _ _ _ le_rfl (by decide), List.take_length,
    Nat.zero_add, int4]
  split_ifs <;> rfl

theorem luhnSum_le (double : Bool) {cs : List Char} (hdigits : ∀ c ∈ cs, c.isDigit) :
    luhnSum double cs ≤ 9 * cs.length := by
  induction cs generalizing double with
  | nil => simp
  | cons c cs ih =>
    have hterm : luhnTerm double (decimalValue c) ≤ 9 :=
      luhnTerm_le (decimalValue_le (hdigits c (by simp)))
    have hrest := ih (!double) fun x hx => hdigits x (by simp [hx])
    rw [luhnSum_cons, List.length_cons]
    omega

theorem toString_digits (n : ℕ) : ∀ c ∈ (toString n).toList, c.isDigit := by
  intro c hc
  rw [Nat.toString_eq_ofList_toDigits, String.toList_ofList] at hc
  exact Nat.isDigit_of_mem_toDigits (by decide) (by decide) hc

theorem length_toString_six {n : ℕ} (hmin : 100000 ≤ n) (hmax : n < 1000000) :
    (toString n).toList.length = 6 := by
  rw [Nat.toString_eq_ofList_toDigits, String.toList_ofList]
  have hle := (Nat.length_toDigits_le_iff (by decide : 1 < 10) (by decide : 0 < 6)).mpr hmax
  have hlt := (Nat.length_toDigits_le_iff (n := n) (by decide : 1 < 10) (by decide : 0 < 5)).not.mpr
    (by omega)
  omega

/-- The backfill makes the number that the application makes of the same draw. -/
theorem backfillCandidate_eq {draw : ℕ} (h : draw < 900000) :
    backfillCandidate draw = some (generateCandidate draw) := by
  have hlength := length_toString_six (n := 100000 + draw) (by omega) (by omega)
  have hsum : luhnSum true (toString (100000 + draw)).toList.reverse ≤
      9 * (toString (100000 + draw)).toList.reverse.length :=
    luhnSum_le true fun c hc => toString_digits _ c (List.mem_reverse.mp hc)
  rw [List.length_reverse, hlength] at hsum
  rw [backfillCandidate, backfillCheckDigit_eq (toString_digits _), if_pos (by omega)]
  rfl

/-- A customer number is valid when it is seven digits long and its last digit verifies. -/
theorem validCustomerNumber_iff {value : String} :
    validCustomerNumber value = true ↔
      ∃ s, normaliseCustomerNumber value = some s ∧ s.length = 7 ∧ lastDigitVerifies s = true := by
  unfold validCustomerNumber
  cases normaliseCustomerNumber value with
  | none => simp
  | some s =>
    simp only [lastDigitVerifies, Option.some.injEq, exists_eq_left']
    cases s.toList.reverse with
    | nil => simp
    | cons check payload => simp

theorem not_isSpace_of_isDigit {c : Char} (hc : c.isDigit) : isSpace c = false := by
  have hrange : 48 ≤ c.toNat ∧ c.toNat ≤ 57 := Char.isDigit_iff_toNat.mp hc
  rw [Bool.eq_false_iff]
  simp only [isSpace, ne_eq, Bool.or_eq_true, Bool.and_eq_true, decide_eq_true_eq]
  omega

theorem normaliseCustomerNumber_of_digits {s : String} (hne : s.toList ≠ [])
    (hdigits : ∀ c ∈ s.toList, c.isDigit) : normaliseCustomerNumber s = some s := by
  have hstrip : strip s = s := strip_of_ends
    (fun c hc => not_isSpace_of_isDigit (hdigits c (List.mem_of_mem_head? hc)))
    (fun c hc => not_isSpace_of_isDigit (hdigits c (List.mem_of_getLast? hc)))
  have hkept : s.toList.filter (fun c => c ≠ ' ' && c ≠ '-') = s.toList := by
    apply List.filter_eq_self.mpr
    intro c hc
    have hdigit := hdigits c hc
    have hspace : c ≠ ' ' := by
      rintro rfl
      revert hdigit
      decide
    have hdash : c ≠ '-' := by
      rintro rfl
      revert hdigit
      decide
    simp [hspace, hdash]
  have hall : s.toList.all isDecimal = true :=
    List.all_eq_true.mpr fun c hc => isDecimal_of_isDigit (hdigits c hc)
  simp only [normaliseCustomerNumber, hstrip]
  rw [hkept, hall, String.ofList_toList]
  simp [hne]

/-- Of digits, seven that verify are a valid number. -/
theorem validCustomerNumber_of_digits {cs : List Char} (hdigits : ∀ c ∈ cs, c.isDigit) :
    validCustomerNumber (String.ofList cs) = true ↔
      cs.length = 7 ∧ lastDigitVerifies (String.ofList cs) = true := by
  rw [validCustomerNumber_iff]
  constructor
  · rintro ⟨s, hs, hlength, hverifies⟩
    have hne : (String.ofList cs).toList ≠ [] := by
      rw [String.toList_ofList]
      rintro rfl
      have hnone : normaliseCustomerNumber (String.ofList []) = none := by decide
      rw [hnone] at hs
      nomatch hs
    rw [normaliseCustomerNumber_of_digits hne (by simpa using hdigits)] at hs
    obtain rfl := Option.some.inj hs
    exact ⟨by simpa using hlength, hverifies⟩
  · rintro ⟨hlength, hverifies⟩
    have hne : (String.ofList cs).toList ≠ [] := by
      rw [String.toList_ofList]
      rintro rfl
      nomatch hlength
    exact ⟨_, normaliseCustomerNumber_of_digits hne (by simpa using hdigits),
      by simpa using hlength, hverifies⟩

theorem withCheckDigit_digits {payload : String} (hdigits : ∀ c ∈ payload.toList, c.isDigit) :
    ∀ c ∈ (withCheckDigit payload).toList, c.isDigit := by
  have hdigit : ∀ n < 10, n.digitChar.isDigit = true := by decide
  intro c hc
  rw [withCheckDigit_eq, String.toList_ofList, List.mem_append, List.mem_singleton] at hc
  obtain hc | rfl := hc
  · exact hdigits c hc
  · exact hdigit _ (Nat.mod_lt _ (by decide))

/-- Six digits and their check digit are a valid customer number. -/
theorem withCheckDigit_valid {payload : String} (hdigits : ∀ c ∈ payload.toList, c.isDigit)
    (hlength : payload.toList.length = 6) :
    validCustomerNumber (withCheckDigit payload) = true := by
  have hall := withCheckDigit_digits hdigits
  have hverifies := withCheckDigit_verifies payload
  rw [withCheckDigit_eq] at hall hverifies ⊢
  rw [String.toList_ofList] at hall
  refine (validCustomerNumber_of_digits hall).mpr ⟨?_, hverifies⟩
  rw [List.length_append, hlength]
  rfl

/-- Every candidate is a valid customer number. -/
theorem generateCandidate_valid {draw : ℕ} (h : draw < 900000) :
    validCustomerNumber (generateCandidate draw) = true :=
  withCheckDigit_valid (toString_digits _)
    (length_toString_six (n := 100000 + draw) (by omega) (by omega))

/-- A valid number with one digit replaced is not valid. -/
theorem not_valid_of_replaced {pre post : List Char} {c d : Char}
    (hdigits : ∀ x ∈ pre ++ c :: post, x.isDigit) (hd : d.isDigit) (hne : d ≠ c)
    (h : validCustomerNumber (String.ofList (pre ++ c :: post)) = true) :
    validCustomerNumber (String.ofList (pre ++ d :: post)) = false := by
  have hdigits' : ∀ x ∈ pre ++ d :: post, x.isDigit := by
    intro x hx
    obtain hpre | rfl | hpost := by simpa using hx
    · exact hdigits x (by simp [hpre])
    · exact hd
    · exact hdigits x (by simp [hpost])
  rw [Bool.eq_false_iff, Ne, validCustomerNumber_of_digits hdigits', not_and, Bool.not_eq_true]
  intro _
  exact not_verifies_of_replaced hdigits ((validCustomerNumber_of_digits hdigits).mp h).2 hd hne

/-- A valid number with two different neighbours swapped is valid only if they are zero and
nine. -/
theorem valid_swapped_iff {pre post : List Char} {c d : Char}
    (hdigits : ∀ x ∈ pre ++ c :: d :: post, x.isDigit) (hne : c ≠ d)
    (h : validCustomerNumber (String.ofList (pre ++ c :: d :: post)) = true) :
    validCustomerNumber (String.ofList (pre ++ d :: c :: post)) = true ↔
      c = '0' ∧ d = '9' ∨ c = '9' ∧ d = '0' := by
  have hdigits' : ∀ x ∈ pre ++ d :: c :: post, x.isDigit := by
    intro x hx
    exact hdigits x (((List.Perm.swap c d post).append_left pre).mem_iff.mp hx)
  obtain ⟨hlength, hverifies⟩ := (validCustomerNumber_of_digits hdigits).mp h
  rw [validCustomerNumber_of_digits hdigits', verifies_swapped_iff hdigits hne hverifies]
  have hsame : (pre ++ d :: c :: post).length = 7 := by simpa using hlength
  exact and_iff_right hsame

/-- What is given out is valid and was not taken. -/
theorem generateUnique_valid {taken : String → Bool} {draws : Fin 50 → Fin 900000} {s : String}
    (h : generateUnique taken draws = some s) :
    validCustomerNumber s = true ∧ taken s = false := by
  have hfree := List.find?_some h
  obtain ⟨draw, -, rfl⟩ := List.mem_map.mp (List.mem_of_find?_eq_some h)
  exact ⟨generateCandidate_valid draw.isLt, by simpa using hfree⟩

/-- The check digit verifies, gives every mistyped digit away and every pair of neighbours that
change places except zero and nine; so it does in the numbers that are accepted, which have seven
digits and among which are all that are given out; and the migration computes it as the
application does. -/
theorem check_digit_detects :
    (∀ payload : String, (∀ c ∈ payload.toList, c.isDigit) →
      lastDigitVerifies (withCheckDigit payload) = true) ∧
    (∀ (pre post : List Char) (c d : Char), (∀ x ∈ pre ++ c :: post, x.isDigit) → d.isDigit →
      d ≠ c → lastDigitVerifies (String.ofList (pre ++ c :: post)) = true →
      lastDigitVerifies (String.ofList (pre ++ d :: post)) = false) ∧
    (∀ (pre post : List Char) (c d : Char), (∀ x ∈ pre ++ c :: d :: post, x.isDigit) → c ≠ d →
      lastDigitVerifies (String.ofList (pre ++ c :: d :: post)) = true →
      (lastDigitVerifies (String.ofList (pre ++ d :: c :: post)) = true ↔
        c = '0' ∧ d = '9' ∨ c = '9' ∧ d = '0')) ∧
    (∀ payload : String, (∀ c ∈ payload.toList, c.isDigit) → payload.toList.length = 6 →
      validCustomerNumber (withCheckDigit payload) = true) ∧
    (∀ (pre post : List Char) (c d : Char), (∀ x ∈ pre ++ c :: post, x.isDigit) → d.isDigit →
      d ≠ c → validCustomerNumber (String.ofList (pre ++ c :: post)) = true →
      validCustomerNumber (String.ofList (pre ++ d :: post)) = false) ∧
    (∀ (pre post : List Char) (c d : Char), (∀ x ∈ pre ++ c :: d :: post, x.isDigit) → c ≠ d →
      validCustomerNumber (String.ofList (pre ++ c :: d :: post)) = true →
      (validCustomerNumber (String.ofList (pre ++ d :: c :: post)) = true ↔
        c = '0' ∧ d = '9' ∨ c = '9' ∧ d = '0')) ∧
    (∀ (taken : String → Bool) (draws : Fin 50 → Fin 900000) (s : String),
      generateUnique taken draws = some s →
        validCustomerNumber s = true ∧ taken s = false) ∧
    (∀ payload : String, (∀ c ∈ payload.toList, c.isDigit) →
      backfillCheckDigit payload =
        if luhnSum true payload.toList.reverse < 2 ^ 31 then some (luhnCheckDigit payload)
        else none) ∧
    ∀ draw < 900000, backfillCandidate draw = some (generateCandidate draw) :=
  ⟨fun payload _ => withCheckDigit_verifies payload,
    fun _ _ _ _ hdigits hd hne h => not_verifies_of_replaced hdigits h hd hne,
    fun _ _ _ _ hdigits hne h => verifies_swapped_iff hdigits hne h,
    fun _ hdigits hlength => withCheckDigit_valid hdigits hlength,
    fun _ _ _ _ hdigits hd hne h => not_valid_of_replaced hdigits hd hne h,
    fun _ _ _ _ hdigits hne h => valid_swapped_iff hdigits hne h,
    fun _ _ _ h => generateUnique_valid h,
    fun _ hdigits => backfillCheckDigit_eq hdigits, fun _ h => backfillCandidate_eq h⟩

/-- The third digit of 4927315 mistyped; zero and nine of 4909313 swapped, which goes unnoticed;
and the same number from the migration. -/
theorem check_digit_detects_typo :
    lastDigitVerifies (withCheckDigit "492731") = true ∧
      lastDigitVerifies "4937315" = false ∧ lastDigitVerifies "4990313" = true ∧
      validCustomerNumber "4937315" = false ∧ validCustomerNumber "4990313" = true ∧
      validCustomerNumber (generateCandidate 392731) = true ∧
      backfillCheckDigit "492731" = some 5 ∧ backfillCandidate 392731 = some "4927315" := by
  obtain ⟨hverifies, hreplaced, hswapped, -, hmistyped, hexchanged, hgiven, hbackfill,
    hcandidate⟩ := check_digit_detects
  refine ⟨hverifies "492731" (List.all_eq_true.mp (by decide)), ?_, ?_, ?_, ?_, ?_, ?_, ?_⟩
  · exact hreplaced "49".toList "7315".toList '2' '3' (List.all_eq_true.mp (by decide)) (by decide)
      (by decide) (by decide)
  · exact (hswapped "49".toList "313".toList '0' '9' (List.all_eq_true.mp (by decide)) (by decide)
      (by decide)).mpr (.inl ⟨rfl, rfl⟩)
  · exact hmistyped "49".toList "7315".toList '2' '3' (List.all_eq_true.mp (by decide)) (by decide)
      (by decide) (by decide)
  · exact (hexchanged "49".toList "313".toList '0' '9' (List.all_eq_true.mp (by decide))
      (by decide) (by decide)).mpr (.inl ⟨rfl, rfl⟩)
  · exact (hgiven (fun _ => false) (fun _ => ⟨392731, by decide⟩) _ rfl).1
  · rw [hbackfill "492731" (List.all_eq_true.mp (by decide))]
    decide
  · rw [hcandidate 392731 (by decide)]
    decide

end FinylDcp
