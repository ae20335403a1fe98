import FinylDcp.ComponentTotals
import FinylDcp.LoanStages

/-!
# The quoted price

A loan is priced when it is applied for. Products may be edited at any time after that; what
is paid out and what is owed come from the price the loan was made at.
-/
namespace FinylDcp
open Decimal Runs

/-- The book, and the columns of products and clients that only applications read. -/
structure Shop where
  db : Db
  catalogue : Catalogue

/-- What happens to loans, applications for others, and edits of the products. -/
inductive ShopEvent
  | life (e : LifeEvent)
  | apply (tenantId : ℕ) (applicant : Applicant) (body : LoanApplication) (year : ℤ)
  | createProduct (product : Product) (listing : ProductListing)
  | updateProduct (tenantId productId : ℕ) (product : Product) (listing : ProductListing)

namespace Shop

def step (s : Shop) : ShopEvent → Shop
  | .life e => { s with db := e.apply s.db }
  | .apply tenantId applicant body year =>
    match applyForLoan s.db s.catalogue tenantId applicant body year with
    | .ok out => { s with db := out.1 }
    | .error _ => s
  | .createProduct product listing =>
    let out := createProduct s.db s.catalogue product listing
    ⟨out.1, out.2⟩
  | .updateProduct tenantId productId product listing =>
    match updateProduct s.db s.catalogue tenantId productId product listing with
    | .ok out => ⟨out.1, out.2⟩
    | .error _ => s

/-- A payout of the loan sends the payout amount of the price. -/
def PaysQuote (loanId : ℕ) (q : Quote) (s : Shop) (e : ShopEvent) : Prop :=
  ∀ tenantId actorUserId now out, e = .life (.disburse tenantId loanId actorUserId now) →
    beginDisbursement s.db tenantId loanId actorUserId now = .ok out →
      (out.1.transactions[out.2]?).map (·.amount) = some q.payoutAmount

/-- A step that activates the loan leaves it as `charged` says. -/
def Activates (loanId : ℕ) (charged : Db → Loan → Prop) (s : Shop) (e : ShopEvent) : Prop :=
  ∀ l ∈ s.db.loans[loanId]?, ∀ l' ∈ (s.step e).db.loans[loanId]?,
    l.status ≠ .active → l'.status = .active → charged (s.step e).db l'

instance (loanId : ℕ) (charged : Db → Loan → Prop) [∀ db l, Decidable (charged db l)] (s : Shop)
    (e : ShopEvent) : Decidable (Activates loanId charged s e) := by
  unfold Activates
  infer_instance

/-- The loan owes the balance of its price. -/
def OwesQuote (q : Quote) (_ : Db) (loan : Loan) : Prop :=
  loan.outstandingBalance = q.balanceAtDisbursement

instance (q : Quote) (db : Db) (loan : Loan) : Decidable (OwesQuote q db loan) :=
  inferInstanceAs (Decidable (_ = _))

/-- Before any repayment, the loan owes the parts of its price. -/
def SplitsQuote (loanId : ℕ) (q : Quote) (db : Db) (loan : Loan) : Prop :=
  db.repaymentsOf loanId = [] →
    (owedBreakdown db loanId loan).principal = q.principal ∧
    (owedBreakdown db loanId loan).interest = q.interest ∧
    (owedBreakdown db loanId loan).fees = q.feesInBalance

instance (loanId : ℕ) (q : Quote) (db : Db) (loan : Loan) :
    Decidable (SplitsQuote loanId q db loan) := by
  unfold SplitsQuote
  infer_instance

end Shop

/-- Rounding principal and interest together is rounding the interest alone, where that does
not round below nothing. -/
theorem roundHalfUp_add_of_nonneg {n : ℤ} {x : ℚ} (hn : 0 < n) (h : 0 ≤ roundHalfUp x) :
    roundHalfUp (n + x) = n + roundHalfUp x := by
  have hn : (1 : ℚ) ≤ n := by exact_mod_cast hn
  by_cases hx : 0 ≤ x
  · rw [roundHalfUp_eq_floor (by linarith), roundHalfUp_eq_floor hx, add_assoc,
      Int.floor_intCast_add]
  · have hsmall : ⌊-x + 1 / 2⌋ ≤ 0 := by simpa [roundHalfUp, hx] using h
    have hle : -x + 1 / 2 < 1 := by simpa [Int.floor_le_iff] using hsmall
    have hzero : ⌊-x + 1 / 2⌋ = 0 := le_antisymm hsmall (Int.floor_nonneg.mpr (by linarith))
    rw [roundHalfUp_eq_floor (by linarith), roundHalfUp, if_neg hx, hzero, add_assoc,
      Int.floor_intCast_add, neg_zero, add_zero, add_eq_left]
    exact Int.floor_eq_zero_iff.mpr ⟨by linarith, by linarith⟩

/-- The total due is principal and flat interest where the interest is not negative. -/
theorem totalDue_eq_of_interest {loan : Loan} (hprincipal : 0 < loan.principal)
    (hinterest : 0 ≤ loan.interestTotal) : loan.totalDue = loan.principal + loan.interestTotal := by
  have hcents : decimalOf loan.principal * (1 + loan.interestRate / 100) * 100 =
      loan.principal + decimalOf loan.principal * loan.interestRate / 100 * 100 := by
    rw [decimalOf]
    ring
  rw [Loan.totalDue, money, hcents]
  exact roundHalfUp_add_of_nonneg hprincipal hinterest

/-- The loan is at the price of its application. -/
structure Loan.Quoted (q : Quote) (l : Loan) : Prop where
  snapshot : l.pricingSnapshot = some q
  principal : l.principal = q.principal
  rate : l.interestRate = q.interestRate

theorem Loan.Quoted.loanSnapshot_eq {q : Quote} {l : Loan} (h : l.Quoted q) (product : Product) :
    loanSnapshot l product = q := by
  simp [loanSnapshot, h.snapshot, h.principal]

theorem Loan.Step.quoted {q : Quote} {l l' : Loan} (h : l.Step l') (hq : l.Quoted q) :
    l'.Quoted q := by
  cases h with
  | moves h =>
    cases h with
    | taken product actorUserId h => exact ⟨by rw [hq.loanSnapshot_eq], hq.principal, hq.rate⟩
    | _ => exact ⟨hq.snapshot, hq.principal, hq.rate⟩
  | activates product today h hactive =>
    subst hactive
    exact ⟨congrArg some (hq.loanSnapshot_eq product), hq.principal, hq.rate⟩
  | settles hopen h =>
    obtain ⟨balance, rebate, at_, -, rfl⟩ := h
    exact ⟨hq.snapshot, hq.principal, hq.rate⟩

/-- Nothing but an activation makes a loan active. -/
theorem Loan.Moves.not_active {l l' : Loan} (h : l.Moves l') (hbefore : l.status ≠ .active) :
    l'.status ≠ .active := by
  cases h with
  | same => exact hbefore
  | decided status h hstatus => obtain rfl | rfl | rfl := hstatus <;> exact nofun
  | reduced => exact hbefore
  | taken => exact nofun
  | reverted => exact nofun
  | fallsOverdue => exact nofun
  | defaults => exact nofun

/-- Only an activation makes a loan active, and it does not reprice it. -/
theorem Loan.Step.activated {q : Quote} {l l' : Loan} (h : l.Step l') (hq : l.Quoted q)
    (hbefore : l.status ≠ .active) (hafter : l'.status = .active) :
    l'.outstandingBalance = l'.totalDue + q.feesInBalance := by
  cases h with
  | moves h => exact absurd hafter (h.not_active hbefore)
  | activates product today h hactive =>
    subst hactive
    rw [← hq.loanSnapshot_eq product]
    rfl
  | settles hopen h =>
    obtain ⟨balance, rebate, at_, -, rfl⟩ := h
    cases hafter

/-- A loan at its price owes the balance of its price once it is paid out. -/
theorem Loan.Quoted.owes {product : Product} {principal : ℤ} {l : Loan}
    (h : l.Quoted (quoteBreakdown product principal)) (hprincipal : 0 < principal)
    (hinterest : 0 ≤ (quoteBreakdown product principal).interest) :
    l.interestTotal = (quoteBreakdown product principal).interest ∧
      l.totalDue + (quoteBreakdown product principal).feesInBalance =
        (quoteBreakdown product principal).balanceAtDisbursement := by
  have hloan : l.principal = principal := h.principal
  have hsame : l.interestTotal = (quoteBreakdown product principal).interest := by
    rw [Loan.interestTotal, h.principal, h.rate]
    rfl
  have hdue := totalDue_eq_of_interest (hloan ▸ hprincipal) (hsame ▸ hinterest)
  rw [(quoteBreakdown_balance product principal).1, hdue, hsame, h.principal]
  exact ⟨rfl, rfl⟩

/-- Before any repayment the parts of the balance are those of the price. -/
theorem splitsQuote_of_balance {db : Db} {loanId : ℕ} {q : Quote} {l : Loan} (hq : l.Quoted q)
    (hprincipal : 0 ≤ q.principal) (hinterest : l.interestTotal = q.interest)
    (hnonneg : 0 ≤ q.interest) (hfees : 0 ≤ q.feesInBalance)
    (hbalance : l.outstandingBalance = q.principal + q.interest + q.feesInBalance) :
    Shop.SplitsQuote loanId q db l := by
  intro hnone
  have howed : owedBreakdown db loanId l = ⟨q.principal, q.interest, q.feesInBalance,
      l.outstandingBalance, 0⟩ := by
    simp only [owedBreakdown, hnone, List.filter_nil, List.map_nil, List.sum_nil, sub_zero,
      hq.principal, hinterest, max_eq_left hprincipal, max_eq_left hnonneg, hbalance]
    rw [if_neg (by omega), sub_self]
    congr 1
    omega
  rw [howed]
  exact ⟨rfl, rfl, rfl⟩

theorem beginDisbursement_amount {db : Db} {tenantId loanId actorUserId : ℕ} {now : ℤ}
    {out : Db × ℕ} {q : Quote} {l : Loan} (hl : db.loans[loanId]? = some l) (hq : l.Quoted q)
    (h : beginDisbursement db tenantId loanId actorUserId now = .ok out) :
    (out.1.transactions[out.2]?).map (·.amount) = some q.payoutAmount := by
  simp only [beginDisbursement, hl] at h
  split at h
  · cases h
  split at h
  · cases h
  split at h
  · split at h
    · cases h
    · cases h
      simp [payoutIntent, hq.loanSnapshot_eq]
  · cases h

namespace Shop

/-- Requests for other loans, and edits of products, do not touch a loan. -/
theorem step_aside {s : Shop} {loanId : ℕ} {l : Loan} {e : ShopEvent} (he : ∀ life, e ≠ .life life)
    (hl : s.db.loans[loanId]? = some l) : (s.step e).db.loans[loanId]? = some l := by
  cases e with
  | life e => exact absurd rfl (he e)
  | apply tenantId applicant body year =>
    simp only [step]
    split
    · rename_i out happlied
      obtain ⟨borrower, product, -, -, -, -, hdb⟩ := applyForLoan_eq_ok happlied
      rw [hdb]
      exact (List.getElem?_append_left (List.getElem?_eq_some_iff.mp hl).1).trans hl
    · exact hl
  | createProduct product listing => exact hl
  | updateProduct tenantId productId product listing =>
    simp only [step, updateProduct]
    split
    · rename_i out hout
      split at hout
      · cases hout
        exact hl
      · cases hout
    · exact hl

theorem step_loan {s : Shop} {loanId : ℕ} {l : Loan} (e : ShopEvent)
    (hl : s.db.loans[loanId]? = some l) :
    ∃ l', (s.step e).db.loans[loanId]? = some l' ∧ l.Step l' := by
  by_cases he : ∃ life, e = .life life
  · obtain ⟨life, rfl⟩ := he
    exact life_step life hl
  · exact ⟨l, step_aside (fun life h => he ⟨life, h⟩) hl, .moves (.same l)⟩

/-- What every step of a loan at its price does, every step of a run does. -/
theorem allSteps_of_quoted {good : Shop → ShopEvent → Prop} {loanId : ℕ} {q : Quote}
    (hgood : ∀ s l e, s.db.loans[loanId]? = some l → l.Quoted q → good s e) {s : Shop} {l : Loan}
    (hl : s.db.loans[loanId]? = some l) (hq : l.Quoted q) (events : List ShopEvent) :
    AllSteps step good s events := by
  induction events generalizing s l with
  | nil => trivial
  | cons e events ih =>
    obtain ⟨l', hl', hstep⟩ := step_loan e hl
    exact ⟨hgood s l e hl hq, ih hl' (hstep.quoted hq)⟩

/-- What holds of a loan at its price that owes its total due and its fees holds after every
activation. -/
theorem allSteps_activates {charged : Db → Loan → Prop} {loanId : ℕ} {q : Quote}
    (hcharged : ∀ db l, l.Quoted q → l.outstandingBalance = l.totalDue + q.feesInBalance →
      charged db l) {s : Shop} {l : Loan} (hl : s.db.loans[loanId]? = some l) (hq : l.Quoted q)
    (events : List ShopEvent) : AllSteps step (Activates loanId charged) s events := by
  refine allSteps_of_quoted (fun s l e hl hq => ?_) hl hq events
  intro before hbefore after hafter hstatus hactive
  obtain rfl := Option.some.inj (hl.symm.trans hbefore)
  obtain ⟨next, hnext, hstep⟩ := step_loan e hl
  obtain rfl := Option.some.inj (hnext.symm.trans hafter)
  exact hcharged _ next (hstep.quoted hq) (hstep.activated hq hstatus hactive)

end Shop

/-- An application makes a loan at the price of its product. -/
theorem applyForLoan_quoted {db db' : Db} {catalogue : Catalogue} {tenantId loanId : ℕ}
    {applicant : Applicant} {body : LoanApplication} {year : ℤ}
    (h : applyForLoan db catalogue tenantId applicant body year = .ok (db', loanId)) :
    ∃ product loan, db.products[body.productId]? = some product ∧
      db'.loans[loanId]? = some loan ∧ loan.Quoted (quoteBreakdown product body.principal) := by
  obtain ⟨borrower, product, -, -, hproduct, hid, hdb⟩ := applyForLoan_eq_ok h
  obtain rfl : loanId = db.loans.length := hid
  refine ⟨product, appliedLoan tenantId body product (newAccountNumber db tenantId year), hproduct,
    ?_, ⟨rfl, rfl, rfl⟩⟩
  rw [show db' = _ from hdb]
  simp

/-- A loan is charged at the price it was applied for, through every sequence of events and of
product edits: its payouts send the payout amount, and, where the interest is not negative, its
activation leaves the balance of the price, with the parts of the price where the fees are not
negative either. -/
theorem charged_at_quote {db db' : Db} {catalogue : Catalogue} {tenantId loanId : ℕ}
    {applicant : Applicant} {body : LoanApplication} {year : ℤ}
    (happlied : applyForLoan db catalogue tenantId applicant body year = .ok (db', loanId))
    (hprincipal : 0 < body.principal) :
    ∃ product q, db.products[body.productId]? = some product ∧
      q = quoteBreakdown product body.principal ∧
      (db'.loans[loanId]?).map (·.pricingSnapshot) = some (some q) ∧
      q.balanceAtDisbursement = body.principal + q.interest + q.feesInBalance ∧
      ∀ catalogue' events,
        AllSteps Shop.step (Shop.PaysQuote loanId q) ⟨db', catalogue'⟩ events ∧
        (0 ≤ q.interest → AllSteps Shop.step (Shop.Activates loanId (Shop.OwesQuote q))
          ⟨db', catalogue'⟩ events) ∧
        (0 ≤ q.interest → 0 ≤ q.feesInBalance →
          AllSteps Shop.step (Shop.Activates loanId (Shop.SplitsQuote loanId q))
            ⟨db', catalogue'⟩ events) := by
  obtain ⟨product, loan, hproduct, hrow, hquoted⟩ := applyForLoan_quoted happlied
  have hbalance := (quoteBreakdown_balance product body.principal).1
  have hsnapshot : (db'.loans[loanId]?).map (·.pricingSnapshot) =
      some (some (quoteBreakdown product body.principal)) := by
    rw [hrow, Option.map_some, hquoted.snapshot]
  refine ⟨product, _, hproduct, rfl, hsnapshot, hbalance, fun catalogue' events =>
    ⟨?_, fun hinterest => ?_, fun hinterest hfees => ?_⟩⟩
  · refine Shop.allSteps_of_quoted (s := ⟨db', catalogue'⟩)
      (fun s l e hl hq => ?_) hrow hquoted events
    intro tenantId actorUserId now out _ h
    exact beginDisbursement_amount hl hq h
  · refine Shop.allSteps_activates (s := ⟨db', catalogue'⟩)
      (fun _ l hq howes => ?_) hrow hquoted events
    rw [Shop.OwesQuote, howes, (hq.owes hprincipal hinterest).2]
  · refine Shop.allSteps_activates (s := ⟨db', catalogue'⟩)
      (fun _ l hq howes => ?_) hrow hquoted events
    obtain ⟨hsame, hdue⟩ := hq.owes hprincipal hinterest
    exact splitsQuote_of_balance hq hprincipal.le hsame hinterest hfees
      (howes.trans (hdue.trans hbalance))

/-- The market with this product, after an application for a thousand shillings and a half. -/
def pricedMarket (product : Product) (loans : List Loan) : Db :=
  { openMarket 0 with products := [product], loans := loans }

def appliedAt (product : Product) : Shop :=
  ⟨pricedMarket product [appliedLoan 1 ⟨0, 0, 100050⟩ product "FL/FY2026/1/1"], openCatalogue⟩

/-- The loan is approved, its product edited, and the loan paid out. -/
def paidOutAfterEdit (product : Product) : List ShopEvent :=
  [.life (.decide 1 0 ⟨true, true, none, none⟩ "approve"),
    .updateProduct 1 0 product ⟨1, true, 100000, 5000000⟩, .life (.disburse 1 0 7 0),
    .life (.answer 1 0 0 (sendB2c (acknowledged "AG_1"))),
      .life (.result (resultOf "AG_1" "0" "QK1") 0)]

def rateProduct (rate : ℚ) : Product := ⟨rate, 4, "weeks", 5, ⟨0, 0, none⟩⟩

def feeProduct (rate : ℚ) : Product := ⟨10, 4, "weeks", 5, ⟨rate, 0, some "add_to_balance"⟩⟩

theorem charged_after_edit :
    applyForLoan (pricedMarket (feeProduct 2) []) openCatalogue 1 ⟨true, .ok ()⟩
      ⟨0, 0, 100050⟩ 2026 =
        .ok ((appliedAt (feeProduct 2)).db, 0) ∧
      ((run Shop.step (appliedAt (feeProduct 2))
        (paidOutAfterEdit (rateProduct 5))).db.loans[0]?).map
        (·.status) = some .active ∧
      AllSteps Shop.step
        (Shop.Activates 0 (Shop.OwesQuote (quoteBreakdown (feeProduct 2) 100050)))
        (appliedAt (feeProduct 2)) (paidOutAfterEdit (rateProduct 5)) := by
  have happlied : applyForLoan (pricedMarket (feeProduct 2) []) openCatalogue 1 ⟨true, .ok ()⟩
      ⟨0, 0, 100050⟩ 2026 = .ok ((appliedAt (feeProduct 2)).db, 0) := by rfl
  obtain ⟨product, q, hproduct, rfl, -, -, hcharged⟩ := charged_at_quote happlied (by decide)
  obtain rfl : feeProduct 2 = product := Option.some.inj hproduct
  have hcharges := hcharged openCatalogue (paidOutAfterEdit (rateProduct 5))
  exact ⟨happlied, by decide +kernel, hcharges.2.1 (by decide +kernel)⟩

/-- Nothing checks the rates of a product. At minus one per cent the interest is rounded away
from the balance of the price, and a fee below nothing is no part of what is owed. -/
theorem charged_off_quote :
    (applyForLoan (pricedMarket (rateProduct (-1)) []) openCatalogue 1 ⟨true, .ok ()⟩
        ⟨0, 0, 100050⟩ 2026 = .ok ((appliedAt (rateProduct (-1))).db, 0) ∧
      ¬ AllSteps Shop.step
        (Shop.Activates 0 (Shop.OwesQuote (quoteBreakdown (rateProduct (-1)) 100050)))
        (appliedAt (rateProduct (-1))) (paidOutAfterEdit (rateProduct 5))) ∧
    applyForLoan (pricedMarket (feeProduct (-1)) []) openCatalogue 1 ⟨true, .ok ()⟩
        ⟨0, 0, 100050⟩ 2026 = .ok ((appliedAt (feeProduct (-1))).db, 0) ∧
      ¬ AllSteps Shop.step
        (Shop.Activates 0 (Shop.SplitsQuote 0 (quoteBreakdown (feeProduct (-1)) 100050)))
        (appliedAt (feeProduct (-1))) (paidOutAfterEdit (rateProduct 5)) :=
  ⟨⟨by rfl, by decide +kernel⟩, by rfl, by decide +kernel⟩

end FinylDcp
