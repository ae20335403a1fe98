import FinylDcp.EarlyPayoff
import FinylDcp.EarlySettlement

/-!
# Conservation of one payment

Where the money of one payment goes: the part the loan takes, split into components by
the tenant's order, and what is parked of it. A reference that carries a parked row
already takes nothing more, and the proportional split knows no bounds but the rate's.
-/
namespace FinylDcp
open Decimal Text

namespace Components

/-- The three parts together. -/
def total (c : Components) : ℤ := c.interest + c.fees + c.principal

@[simp] theorem get_set (c : Components) (part other : Part) (x : ℤ) :
    (c.set part x).get other = if other = part then x else c.get other := by
  cases part <;> cases other <;> rfl

@[simp] theorem get_zero (part : Part) : zero.get part = 0 := by
  cases part <;> rfl

/-- The parts of every order are all the parts. -/
theorem sum_get (c : Components) {order : AllocationOrder} {parts : List Part}
    (h : order.parts = some parts) : (parts.map c.get).sum = c.total := by
  cases order with
  | principalFeesInterest =>
    obtain rfl := Option.some.inj h
    simp only [List.map_cons, List.map_nil, List.sum_cons, List.sum_nil, get, total]
    omega
  | proportional => cases h
  | interestFeesPrincipal =>
    obtain rfl := Option.some.inj h
    simp only [List.map_cons, List.map_nil, List.sum_cons, List.sum_nil, get, total]
    omega

end Components

theorem AllocationOrder.parts_nodup {order : AllocationOrder} {parts : List Part}
    (h : order.parts = some parts) : parts.Nodup := by
  cases order with
  | proportional => cases h
  | _ => obtain rfl := Option.some.inj h; decide

theorem AllocationOrder.mem_parts {order : AllocationOrder} {parts : List Part}
    (h : order.parts = some parts) (part : Part) : part ∈ parts := by
  cases order with
  | proportional => cases h
  | _ => obtain rfl := Option.some.inj h; cases part <;> decide

/-- An amount has been poured over the parts in order: each holds no more than its due and
one that holds anything has all parts before it full. -/
structure Poured (owed c : Components) (parts : List Part) : Prop where
  nonneg : ∀ part ∈ parts, 0 ≤ c.get part
  within : ∀ part ∈ parts, c.get part ≤ owed.get part
  inOrder : parts.Pairwise (fun earlier later => 0 < c.get later → c.get earlier = owed.get earlier)

theorem waterfall_others {owed : Components} {parts : List Part} {part : Part} {remaining : ℤ}
    {out : Components} (h : part ∉ parts) :
    (waterfall owed parts remaining out).1.get part = out.get part := by
  induction parts generalizing remaining out with
  | nil => rfl
  | cons first rest ih =>
    rw [List.mem_cons, not_or] at h
    rw [waterfall, ih h.2, Components.get_set, if_neg h.1]

/-- What a part gets and what is left of the amount add up to it. -/
theorem waterfall_sum {owed : Components} {parts : List Part} {remaining : ℤ} {out : Components}
    (h : parts.Nodup) :
    (parts.map (waterfall owed parts remaining out).1.get).sum +
      (waterfall owed parts remaining out).2 = remaining := by
  induction parts generalizing remaining out with
  | nil => simp [waterfall]
  | cons first rest ih =>
    obtain ⟨hfirst, hrest⟩ := List.nodup_cons.mp h
    have htail := @ih (remaining - min remaining (owed.get first))
      (out.set first (min remaining (owed.get first))) hrest
    have hhead : (waterfall owed (first :: rest) remaining out).1.get first =
        min remaining (owed.get first) := by
      rw [waterfall, waterfall_others hfirst, Components.get_set, if_pos rfl]
    rw [List.map_cons, List.sum_cons, hhead, waterfall]
    omega

/-- Nothing is left of an amount the parts can hold. -/
theorem waterfall_rest {owed : Components} {parts : List Part} {remaining : ℤ} {out : Components}
    (howed : ∀ part ∈ parts, 0 ≤ owed.get part) (hremaining : 0 ≤ remaining)
    (hmost : remaining ≤ (parts.map owed.get).sum) :
    (waterfall owed parts remaining out).2 = 0 := by
  induction parts generalizing remaining out with
  | nil =>
    simp only [List.map_nil, List.sum_nil] at hmost
    exact le_antisymm hmost hremaining
  | cons first rest ih =>
    obtain ⟨-, hrest⟩ := List.forall_mem_cons.mp howed
    have hroom : 0 ≤ (rest.map owed.get).sum := List.sum_nonneg (by simpa using hrest)
    rw [List.map_cons, List.sum_cons] at hmost
    rw [waterfall]
    exact ih hrest (by omega) (by omega)

theorem waterfall_poured {owed : Components} {parts : List Part} {remaining : ℤ} {out : Components}
    (h : parts.Nodup) (howed : ∀ part ∈ parts, 0 ≤ owed.get part) (hremaining : 0 ≤ remaining) :
    Poured owed (waterfall owed parts remaining out).1 parts ∧
      ∀ part ∈ parts, (waterfall owed parts remaining out).1.get part ≤ remaining := by
  induction parts generalizing remaining out with
  | nil => exact ⟨⟨by simp, by simp, List.Pairwise.nil⟩, by simp⟩
  | cons first rest ih =>
    obtain ⟨hfirst, hrest⟩ := List.nodup_cons.mp h
    obtain ⟨hdue, hdues⟩ := List.forall_mem_cons.mp howed
    have hhead : (waterfall owed (first :: rest) remaining out).1.get first =
        min remaining (owed.get first) := by
      rw [waterfall, waterfall_others hfirst, Components.get_set, if_pos rfl]
    obtain ⟨⟨hnonneg, hwithin, horder⟩, hleft⟩ := @ih (remaining - min remaining (owed.get first))
      (out.set first (min remaining (owed.get first))) hrest hdues (by omega)
    have hstep : waterfall owed (first :: rest) remaining out = waterfall owed rest
        (remaining - min remaining (owed.get first))
        (out.set first (min remaining (owed.get first))) := rfl
    rw [← hstep] at hnonneg hwithin horder hleft
    refine ⟨⟨?_, ?_, ?_⟩, ?_⟩
    · rw [List.forall_mem_cons]
      exact ⟨by omega, hnonneg⟩
    · rw [List.forall_mem_cons]
      exact ⟨by omega, hwithin⟩
    · rw [List.pairwise_cons]
      refine ⟨fun later hlater hpositive => ?_, horder⟩
      have hsome := hleft later hlater
      omega
    · rw [List.forall_mem_cons]
      refine ⟨by omega, fun part hpart => ?_⟩
      have hpart' := hleft part hpart
      omega

/-- What a payment can be divided over: the parts of the payoff when it settles the loan
early, else what is owed of each. -/
def owedParts (db : Db) (loanId : ℕ) (loan : Loan) (p : Payment) : Components :=
  let quote := payoffQuote db loanId loan (kenyaDate p.paidOn)
    (getPaymentSettings db p.tenantId).earlySettlementMethod
  let owed := owedBreakdown db loanId loan
  if quote.early && quote.payoffAmount ≤ p.amount then
    ⟨quote.interestOwed, quote.feesOwed, quote.principalOwed⟩
  else ⟨owed.interest, owed.fees, owed.principal⟩

/-- The share of an amount the proportional split takes for interest is, but for the
rounding to cents, between nothing and the amount. -/
def ShareWithin (amount : ℤ) (rate : ℚ) : Prop :=
  100 + rate = 0 ∨
    (-(1 / 200) < context (decimalOf amount * context (rate / (100 + rate))) ∧
      context (decimalOf amount * context (rate / (100 + rate))) < decimalOf amount + 1 / 200)

theorem money_nonneg_iff {x : ℚ} : 0 ≤ money x ↔ -(1 / 200) < x := by
  obtain hx | hx := le_or_gt 0 x
  · exact iff_of_true (money_nonneg hx) (by linarith)
  · have hneg : ¬ 0 ≤ x * 100 := by linarith
    rw [money, roundHalfUp, if_neg hneg, Left.nonneg_neg_iff, Int.floor_le_iff]
    constructor <;> intro h <;> push_cast at * <;> linarith

theorem money_le_iff {x : ℚ} {c : ℤ} (h : 0 ≤ c) : money x ≤ c ↔ x < decimalOf c + 1 / 200 := by
  have hc : 0 ≤ decimalOf c := div_nonneg (Int.cast_nonneg h) (by norm_num)
  obtain hx | hx := le_or_gt 0 x
  · have hpos : 0 ≤ x * 100 := by linarith
    rw [money, roundHalfUp, if_pos hpos, Int.floor_le_iff, decimalOf]
    constructor <;> intro h <;> linarith
  · have hless := money_nonneg (neg_nonneg.mpr hx.le)
    rw [money_neg] at hless
    exact iff_of_true (by omega) (by linarith)

theorem split_sum (amount : ℤ) (rate : ℚ) :
    (splitInterestPrincipal amount rate).1 + (splitInterestPrincipal amount rate).2 = amount := by
  simp only [splitInterestPrincipal]
  split_ifs <;> omega

/-- The proportional split keeps both parts within nothing and the amount exactly when the
share of the interest does. -/
theorem split_nonneg_iff {amount : ℤ} (rate : ℚ) (h : 0 ≤ amount) :
    (0 ≤ (splitInterestPrincipal amount rate).1 ∧ 0 ≤ (splitInterestPrincipal amount rate).2) ↔
      ShareWithin amount rate := by
  simp only [splitInterestPrincipal, ShareWithin]
  split_ifs with hdenom
  · simp [hdenom, h]
  · simp only [hdenom, false_or, sub_nonneg]
    exact and_congr money_nonneg_iff (money_le_iff h)

/-- At a rate that is not negative, and fits its column, the interest share of an amount is
within it. -/
theorem interestShare_bounds {amount : ℤ} {rate : ℚ} (hamount : 0 ≤ amount) (hrate : 0 ≤ rate)
    (hcolumn : rate < 10 ^ 3) :
    0 ≤ context (decimalOf amount * context (rate / (100 + rate))) ∧
      context (decimalOf amount * context (rate / (100 + rate))) ≤ decimalOf amount := by
  have hdecimal : 0 ≤ decimalOf amount := div_nonneg (Int.cast_nonneg hamount) (by norm_num)
  have hratio : 0 ≤ rate / (100 + rate) := by positivity
  have hmost : rate / (100 + rate) ≤ ((92 : ℤ) : ℚ) / 10 ^ 2 := by
    rw [div_le_iff₀ (by linarith)]
    push_cast
    linarith
  have hcontext : context (rate / (100 + rate)) ≤ ((92 : ℤ) : ℚ) / 10 ^ 2 :=
    (context_mono hmost).trans_eq (roundSig_of_digits rfl (by norm_num))
  have hshare : 0 ≤ decimalOf amount * context (rate / (100 + rate)) :=
    mul_nonneg hdecimal (context_nonneg hratio)
  refine ⟨context_nonneg hshare, ?_⟩
  calc context (decimalOf amount * context (rate / (100 + rate)))
      ≤ decimalOf amount * context (rate / (100 + rate)) * (1 + 1 / (2 * 10 ^ 27)) :=
        roundSig_le_mul hshare
    _ ≤ decimalOf amount * (((92 : ℤ) : ℚ) / 10 ^ 2) * (1 + 1 / (2 * 10 ^ 27)) :=
        mul_le_mul_of_nonneg_right (mul_le_mul_of_nonneg_left hcontext hdecimal) (by norm_num)
    _ ≤ decimalOf amount := by
        rw [mul_assoc]
        exact mul_le_of_le_one_right hdecimal (by norm_num)

theorem shareWithin_of_nonneg {amount : ℤ} {rate : ℚ} (hamount : 0 ≤ amount) (hrate : 0 ≤ rate)
    (hcolumn : rate < 10 ^ 3) : ShareWithin amount rate := by
  obtain ⟨hleast, hmost⟩ := interestShare_bounds hamount hrate hcolumn
  exact .inr ⟨by linarith, by linarith⟩

/-- So both shares are within the amount. -/
theorem split_bounds {amount : ℤ} {rate : ℚ} (hamount : 0 ≤ amount) (hrate : 0 ≤ rate)
    (hcolumn : rate < 10 ^ 3) :
    0 ≤ (splitInterestPrincipal amount rate).1 ∧
      (splitInterestPrincipal amount rate).1 ≤ amount := by
  obtain ⟨hinterest, hprincipal⟩ :=
    (split_nonneg_iff rate hamount).mpr (shareWithin_of_nonneg hamount hrate hcolumn)
  have hsum := split_sum amount rate
  exact ⟨hinterest, by omega⟩

section Divided

variable {db : Db} {loanId : ℕ} {loan : Loan} {p : Payment}

theorem owedParts_settles (h : SettlesEarly db loanId loan p) :
    let quote := payoffQuote db loanId loan (kenyaDate p.paidOn)
      (getPaymentSettings db p.tenantId).earlySettlementMethod
    owedParts db loanId loan p = ⟨quote.interestOwed, quote.feesOwed, quote.principalOwed⟩ := by
  obtain ⟨hearly, hcovers⟩ := h
  simp [owedParts, hearly, hcovers]

theorem owedParts_plain (h : ¬ SettlesEarly db loanId loan p) :
    owedParts db loanId loan p = ⟨(owedBreakdown db loanId loan).interest,
      (owedBreakdown db loanId loan).fees, (owedBreakdown db loanId loan).principal⟩ := by
  simp only [owedParts, if_neg (not_settlesEarly h)]

/-- What a payment is divided over holds all of it, and no part is negative. -/
theorem owedParts_bounds (hbalance : 0 ≤ loan.outstandingBalance) (hamount : 0 < p.amount) :
    (∀ part, 0 ≤ (owedParts db loanId loan p).get part) ∧
      0 ≤ (divisionOf db loanId loan p).applied ∧
      (divisionOf db loanId loan p).applied ≤ (owedParts db loanId loan p).total ∧
      (divisionOf db loanId loan p).applied ≤ loan.outstandingBalance := by
  obtain ⟨hsum, hprincipal, hinterest, hfees⟩ := owedBreakdown_parts db loanId hbalance
  by_cases hearly : SettlesEarly db loanId loan p
  · obtain ⟨-, happlied, -, -⟩ := divisionOf_settles hearly
    obtain ⟨start, due, base, -, -, -, -, -, -, hquote, hbaseP, hbaseF⟩ :=
      payoffQuote_early hearly.1
    rw [owedParts_settles hearly, happlied, hquote]
    simp only [earlyQuote, Components.total, hbaseP, hbaseF]
    refine ⟨?_, ?_, ?_, ?_⟩
    · intro part
      cases part <;> dsimp only [Components.get] <;> omega
    · omega
    · split_ifs <;> omega
    · split_ifs <;> omega
  · obtain ⟨-, happlied, -, -⟩ := divisionOf_plain hearly
    rw [owedParts_plain hearly, happlied]
    refine ⟨?_, ?_, ?_, ?_⟩
    · intro part
      cases part <;> assumption
    · omega
    · simp only [Components.total]
      omega
    · exact min_le_right _ _

/-- An amount the parts hold is poured over them all. -/
theorem waterfall_order {owed : Components} {order : AllocationOrder} {parts : List Part}
    {amount : ℤ} (hparts : order.parts = some parts) (howed : ∀ part, 0 ≤ owed.get part)
    (hamount : 0 ≤ amount) (hmost : amount ≤ owed.total) :
    (waterfall owed parts amount .zero).2 = 0 ∧
      Poured owed (waterfall owed parts amount .zero).1 parts ∧
      (waterfall owed parts amount .zero).1.total = amount := by
  have hrest : (waterfall owed parts amount .zero).2 = 0 :=
    waterfall_rest (fun part _ => howed part) hamount (by rwa [Components.sum_get owed hparts])
  have hsum := @waterfall_sum owed parts amount .zero (AllocationOrder.parts_nodup hparts)
  rw [hrest, add_zero, Components.sum_get _ hparts] at hsum
  exact ⟨hrest, (waterfall_poured (AllocationOrder.parts_nodup hparts)
    (fun part _ => howed part) hamount).1, hsum⟩

theorem components_settles (h : SettlesEarly db loanId loan p) :
    (divisionOf db loanId loan p).components = (waterfall (owedParts db loanId loan p)
      ((getPaymentSettings db p.tenantId).allocationOrder.parts.getD [.principal, .fees, .interest])
      (divisionOf db loanId loan p).applied .zero).1 := by
  obtain ⟨-, happlied, -, -⟩ := divisionOf_settles h
  rw [owedParts_settles h, happlied]
  simp only [divisionOf, divide, h.1, h.2, decide_true, Bool.and_self, if_true]

theorem components_plain (h : ¬ SettlesEarly db loanId loan p) :
    (divisionOf db loanId loan p).components =
      if 0 < (divisionOf db loanId loan p).applied then
        allocate db loanId loan (divisionOf db loanId loan p).applied
          (getPaymentSettings db p.tenantId).allocationOrder
      else .zero := by
  obtain ⟨-, happlied, -, -⟩ := divisionOf_plain h
  rw [happlied]
  simp only [divisionOf, divide, if_neg (not_settlesEarly h)]

/-- Under an order nothing is left over, so no residue is added to the last part. -/
theorem allocate_order {order : AllocationOrder} {parts : List Part} {amount : ℤ}
    (hparts : order.parts = some parts)
    (hrest : (waterfall ⟨(owedBreakdown db loanId loan).interest,
      (owedBreakdown db loanId loan).fees, (owedBreakdown db loanId loan).principal⟩ parts amount
        .zero).2 = 0) :
    allocate db loanId loan amount order = (waterfall ⟨(owedBreakdown db loanId loan).interest,
      (owedBreakdown db loanId loan).fees, (owedBreakdown db loanId loan).principal⟩ parts amount
        .zero).1 := by
  simp only [allocate, hparts, hrest, lt_irrefl, if_false]
  cases parts.getLast? <;> rfl

/-- A settlement is poured over the parts of the payoff, in the default order where the
tenant's has no parts. -/
theorem settles_poured (hbalance : 0 ≤ loan.outstandingBalance) (hamount : 0 < p.amount)
    (hearly : SettlesEarly db loanId loan p) :
    let parts := (getPaymentSettings db p.tenantId).allocationOrder.parts.getD
      [.principal, .fees, .interest]
    (∀ part, part ∈ parts) ∧
      Poured (owedParts db loanId loan p) (divisionOf db loanId loan p).components parts ∧
      (divisionOf db loanId loan p).components.total = (divisionOf db loanId loan p).applied := by
  obtain ⟨howed, hleast, hmost, -⟩ := @owedParts_bounds db loanId loan p hbalance hamount
  have hdefault : ∃ order : AllocationOrder, order.parts =
      some ((getPaymentSettings db p.tenantId).allocationOrder.parts.getD
        [.principal, .fees, .interest]) := by
    cases (getPaymentSettings db p.tenantId).allocationOrder with
    | interestFeesPrincipal => exact ⟨.interestFeesPrincipal, rfl⟩
    | _ => exact ⟨.principalFeesInterest, rfl⟩
  obtain ⟨order, hparts⟩ := hdefault
  obtain ⟨-, hpoured, htotal⟩ := waterfall_order hparts howed hleast hmost
  rw [components_settles hearly]
  exact ⟨AllocationOrder.mem_parts hparts, hpoured, htotal⟩

/-- Under an order of the parts a payment is poured over what is owed of each. -/
theorem divisionOf_poured (hbalance : 0 ≤ loan.outstandingBalance) (hamount : 0 < p.amount)
    {parts : List Part}
    (hparts : (getPaymentSettings db p.tenantId).allocationOrder.parts = some parts) :
    Poured (owedParts db loanId loan p) (divisionOf db loanId loan p).components parts ∧
      (divisionOf db loanId loan p).components.total = (divisionOf db loanId loan p).applied := by
  by_cases hearly : SettlesEarly db loanId loan p
  · obtain ⟨-, hpoured, htotal⟩ := settles_poured hbalance hamount hearly
    rw [hparts, Option.getD_some] at hpoured
    exact ⟨hpoured, htotal⟩
  obtain ⟨howed, hleast, hmost, -⟩ := @owedParts_bounds db loanId loan p hbalance hamount
  obtain ⟨hrest, hpoured, htotal⟩ := waterfall_order hparts howed hleast hmost
  rw [components_plain hearly]
  split_ifs with hpositive
  · rw [owedParts_plain hearly] at hrest hpoured htotal ⊢
    rw [allocate_order hparts hrest]
    exact ⟨hpoured, htotal⟩
  · have hnothing : (divisionOf db loanId loan p).applied = 0 := by omega
    refine ⟨⟨?_, ?_, ?_⟩, hnothing.symm⟩
    · simp
    · intro part _
      simpa using howed part
    · exact List.pairwise_of_forall (by simp)

/-- Without an order a payment that does not settle the loan is split in the flat ratio. -/
theorem components_proportional (hearly : ¬ SettlesEarly db loanId loan p)
    (hparts : (getPaymentSettings db p.tenantId).allocationOrder.parts = none)
    (happlied : 0 < (divisionOf db loanId loan p).applied) :
    (divisionOf db loanId loan p).components =
      ⟨(splitInterestPrincipal (min p.amount loan.outstandingBalance) loan.interestRate).1, 0,
        (splitInterestPrincipal (min p.amount loan.outstandingBalance) loan.interestRate).2⟩ := by
  rw [components_plain hearly, if_pos happlied, (divisionOf_plain hearly).2.1]
  simp only [allocate, hparts]

/-- The proportional split adds up, and has no negative part exactly when the interest share
of the amount is within it. A settlement is poured over the payoff's parts instead. -/
theorem divisionOf_proportional (hbalance : 0 ≤ loan.outstandingBalance) (hamount : 0 < p.amount)
    (hparts : (getPaymentSettings db p.tenantId).allocationOrder.parts = none) :
    (divisionOf db loanId loan p).components.total = (divisionOf db loanId loan p).applied ∧
      ((∀ part, 0 ≤ (divisionOf db loanId loan p).components.get part) ↔
        (¬ SettlesEarly db loanId loan p →
          ShareWithin (min p.amount loan.outstandingBalance) loan.interestRate)) := by
  by_cases hearly : SettlesEarly db loanId loan p
  · obtain ⟨hall, hpoured, htotal⟩ := settles_poured hbalance hamount hearly
    refine ⟨htotal, iff_of_true (fun part => ?_) (fun hplain => absurd hearly hplain)⟩
    exact hpoured.nonneg part (hall part)
  obtain ⟨-, hleast, -, -⟩ := @owedParts_bounds db loanId loan p hbalance hamount
  have happlied := (divisionOf_plain hearly).2.1
  simp only [hearly, not_false_eq_true, forall_const]
  by_cases hpositive : 0 < (divisionOf db loanId loan p).applied
  · rw [components_proportional hearly hparts hpositive, happlied,
      ← split_nonneg_iff loan.interestRate (happlied ▸ hleast)]
    constructor
    · have hsum := split_sum (min p.amount loan.outstandingBalance) loan.interestRate
      simp only [Components.total]
      omega
    · constructor
      · exact fun h => ⟨h .interest, h .principal⟩
      · rintro ⟨hinterest, hprincipal⟩ part
        cases part with
        | principal => exact hprincipal
        | fees => exact le_rfl
        | interest => exact hinterest
  · have hnothing : (divisionOf db loanId loan p).applied = 0 := by omega
    rw [components_plain hearly, if_neg hpositive, ← happlied, hnothing]
    refine ⟨rfl, iff_of_true (by simp) ?_⟩
    exact .inr (by norm_num [decimalOf, context, roundSig])

/-- Either way the components add up to what was applied. -/
theorem components_total (hbalance : 0 ≤ loan.outstandingBalance) (hamount : 0 < p.amount) :
    (divisionOf db loanId loan p).components.total = (divisionOf db loanId loan p).applied := by
  cases hparts : (getPaymentSettings db p.tenantId).allocationOrder.parts with
  | none => exact (divisionOf_proportional hbalance hamount hparts).1
  | some parts => exact (divisionOf_poured hbalance hamount hparts).2

end Divided

/-- The amounts of some entries together. -/
def parkedAmount (rows : List SuspenseEntry) : ℤ := (rows.map (·.amount)).sum

/-- The row a receipt is parked in, when it is parked at all and its reference is new. -/
theorem park_rows (suspense : List SuspenseEntry) (x : Receipt) (now : ℤ) (parks : Prop)
    [Decidable parks] :
    ∃ rows, (if parks then (park suspense x now).1 else suspense) = suspense ++ rows ∧
      (parkedAmount rows =
        if parks ∧ suspenseWithRef suspense x.tenantId x.ref = none then x.amount else 0) ∧
      ∀ e ∈ rows, e.reason = x.reason := by
  by_cases hparks : parks
  · by_cases hfree : suspenseWithRef suspense x.tenantId x.ref = none
    · refine ⟨[x.entry now], by rw [if_pos hparks, park_new hfree], ?_, ?_⟩
      · simp [parkedAmount, hparks, hfree, Receipt.entry]
      · simp [Receipt.entry]
    · refine ⟨[], by rw [if_pos hparks, park_known hfree, List.append_nil], ?_, by simp⟩
      simp [parkedAmount, hfree]
  · exact ⟨[], by rw [if_neg hparks, List.append_nil], by simp [parkedAmount, hparks], by simp⟩

theorem parkedAmount_append (rows others : List SuspenseEntry) :
    parkedAmount (rows ++ others) = parkedAmount rows + parkedAmount others := by
  simp [parkedAmount]

/-- The rows parked of a payment carry its excess and its credit, but for what falls to a
reference that is parked already. -/
theorem parkRest_divided (suspense : List SuspenseEntry) (loanId : ℕ) (p : Payment) (d : Division) :
    ∃ excess refund, parkRest suspense loanId p d = suspense ++ (excess ++ refund) ∧
      (parkedAmount excess = if 0 < p.amount - d.applied ∧
          suspenseWithRef suspense p.tenantId (some (p.reference ++ "-OVR")) = none
        then p.amount - d.applied else 0) ∧ (∀ e ∈ excess, e.reason = .overpayment) ∧
      (parkedAmount refund = if 0 < d.interestCredit ∧
          suspenseWithRef suspense p.tenantId (some (p.reference ++ "-INT")) = none
        then d.interestCredit else 0) ∧ ∀ e ∈ refund, e.reason = .interestRefundDue := by
  obtain ⟨excess, hexcess, hparked, hover⟩ := park_rows suspense
    (overpaymentReceipt loanId p (p.amount - d.applied)) p.now (0 < p.amount - d.applied)
  obtain ⟨refund, hrefund, hrefunded, hcredit⟩ := park_rows (suspense ++ excess)
    (interestRefundReceipt loanId p d.interestCredit) p.now (0 < d.interestCredit)
  have hfree : suspenseWithRef (suspense ++ excess) p.tenantId
      (some (p.reference ++ "-INT")) = none ↔
      suspenseWithRef suspense p.tenantId (some (p.reference ++ "-INT")) = none := by
    rw [← hexcess]
    split
    · exact suspenseWithRef_overpayment suspense loanId p _
    · exact Iff.rfl
  refine ⟨excess, refund, ?_, hparked, hover, ?_, hcredit⟩
  · simp only [parkRest, hexcess]
    rw [hrefund, List.append_assoc]
  · exact hrefunded.trans (if_congr (and_congr_right' hfree) rfl rfl)

section Payment

variable (db : Db) (loanId : ℕ) (loan : Loan) (p : Payment)

/-- The payment is more than the loan takes: its payoff when it settles it early, else its
balance. -/
def Overpays : Prop :=
  (SettlesEarly db loanId loan p → (payoffQuote db loanId loan (kenyaDate p.paidOn)
      (getPaymentSettings db p.tenantId).earlySettlementMethod).payoffAmount < p.amount) ∧
    (¬ SettlesEarly db loanId loan p → loan.outstandingBalance < p.amount)

/-- The payment settles the loan early, and the interest paid ahead is more than the whole
payoff. -/
def LeavesCredit : Prop :=
  SettlesEarly db loanId loan p ∧ 0 < (payoffQuote db loanId loan (kenyaDate p.paidOn)
    (getPaymentSettings db p.tenantId).earlySettlementMethod).credit

/-- Where the split is proportional, the interest share is within the amount. -/
def SplitsWithin : Prop :=
  (getPaymentSettings db p.tenantId).allocationOrder.parts = none →
    ¬ SettlesEarly db loanId loan p →
      ShareWithin (min p.amount loan.outstandingBalance) loan.interestRate

/-- The components of a payment: together what was applied, none negative; under an order
none more than its part of what is owed, and one only once all parts before it are covered. -/
structure ComponentsFit (c : Components) (applied : ℤ) : Prop where
  total : c.total = applied
  nonneg : ∀ part, 0 ≤ c.get part
  poured : ∀ parts, (getPaymentSettings db p.tenantId).allocationOrder.parts = some parts →
    Poured (owedParts db loanId loan p) c parts

end Payment

section Conservation

variable {db : Db} {loanId : ℕ} {loan : Loan} {p : Payment}

theorem overpays_iff : Overpays db loanId loan p ↔
    0 < p.amount - (divisionOf db loanId loan p).applied := by
  by_cases hearly : SettlesEarly db loanId loan p
  · rw [(divisionOf_settles hearly).2.1]
    simp [Overpays, hearly]
  · rw [(divisionOf_plain hearly).2.1]
    simp only [Overpays, hearly, false_imp_iff, not_false_eq_true, true_imp_iff, true_and]
    omega

theorem leavesCredit_iff : LeavesCredit db loanId loan p ↔
    0 < (divisionOf db loanId loan p).interestCredit := by
  by_cases hearly : SettlesEarly db loanId loan p
  · rw [(divisionOf_settles hearly).2.2.2]
    exact and_iff_right hearly
  · rw [(divisionOf_plain hearly).2.2.2]
    simp [LeavesCredit, hearly]

/-- The components fit exactly when the split does. -/
theorem componentsFit_iff (hbalance : 0 ≤ loan.outstandingBalance) (hamount : 0 < p.amount) :
    ComponentsFit db loanId loan p (divisionOf db loanId loan p).components
      (divisionOf db loanId loan p).applied ↔ SplitsWithin db loanId loan p := by
  cases hparts : (getPaymentSettings db p.tenantId).allocationOrder.parts with
  | none =>
    obtain ⟨htotal, hnonneg⟩ := @divisionOf_proportional db loanId loan p hbalance hamount hparts
    simp only [SplitsWithin, hparts, true_imp_iff]
    rw [← hnonneg]
    exact ⟨fun h => h.nonneg, fun h => ⟨htotal, h, fun parts hsome => by simp [hparts] at hsome⟩⟩
  | some parts =>
    obtain ⟨hpoured, htotal⟩ := @divisionOf_poured db loanId loan p hbalance hamount parts hparts
    refine iff_of_true ⟨htotal, ?_, ?_⟩ (fun hnone => by simp [hparts] at hnone)
    · exact fun part => hpoured.nonneg part (AllocationOrder.mem_parts hparts part)
    · intro parts' hparts'
      obtain rfl := Option.some.inj (hparts.symm.trans hparts')
      exact hpoured

end Conservation

end FinylDcp
