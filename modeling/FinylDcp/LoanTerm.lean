import FinylDcp.CompletedPeriods
import FinylDcp.QuotedPrice

/-!
# The term of a loan

Four places read the unit of a tenure: the price annualises it, the activation and the early
payoff count its days, and the reports of the regulator count them again. Each reads the text
of the unit in its own way.
-/
namespace FinylDcp
open Decimal Runs Text

inductive TenureUnit
  | week | month | day
  deriving DecidableEq, Repr

/-- The days of one unit. -/
def TenureUnit.days : TenureUnit → ℤ
  | week => 7
  | month => 30
  | day => 1

/-- The unit text, in lower case; without one it is weeks. -/
def unitText (tenureUnit : String) : String :=
  lower (if tenureUnit = "" then "weeks" else tenureUnit)

/-- The unit `_tenure_days` reads, if any: only the beginning of the text counts. -/
def reportedUnit (tenureUnit : String) : Option TenureUnit :=
  let unit := (unitText tenureUnit).toList
  if "week".toList.isPrefixOf unit then some .week
  else if "month".toList.isPrefixOf unit then some .month
  else if "day".toList.isPrefixOf unit then some .day
  else none

/-- The days of a tenure in the reports. -/
def tenureDays (tenureValue : ℤ) (tenureUnit : String) : ℤ :=
  match reportedUnit tenureUnit with
  | some unit => tenureValue * unit.days
  | none => 0

/-- `_tenure_days`: the days from disbursement to due date, else those of the product. -/
def reportedTenure (db : Db) (loan : Loan) : ℤ :=
  let span :=
    (loan.dueDate.bind (fun due => loan.disbursementDate.map (fun start => due - start))).getD 0
  if 0 < span then span
  else ((db.products[loan.productId]?).map (fun p => tenureDays p.tenureValue p.tenureUnit)).getD 0

/-- The unit a price is annualised by. -/
def annualUnit (tenureUnit : String) : TenureUnit :=
  if unitText tenureUnit = "weeks" then .week
  else if unitText tenureUnit = "months" then .month
  else .day

/-- The years of some units. -/
def TenureUnit.years (value : ℤ) : TenureUnit → ℚ
  | week => context (value * 7 / 365)
  | month => context (value / 12)
  | day => context (value / 365)

/-- The price is annualised by that unit. -/
theorem tenureYears_eq (tenureValue : ℤ) (tenureUnit : String) :
    tenureYears tenureValue tenureUnit =
      if (annualUnit tenureUnit).years tenureValue ≤ 0 then 1
      else (annualUnit tenureUnit).years tenureValue := by
  have hyears : (if unitText tenureUnit = "weeks" then context (tenureValue * 7 / 365)
      else if unitText tenureUnit = "months" then context (tenureValue / 12)
      else context (tenureValue / 365)) = (annualUnit tenureUnit).years tenureValue := by
    unfold annualUnit
    split_ifs <;> rfl
  rw [← hyears]
  rfl

/-- The loan runs for the days its price says, and price, payoff and report mean the same unit. -/
structure TermAgrees (q : Quote) (db : Db) (loan : Loan) : Prop where
  term : ∃ start ∈ loan.disbursementDate, ∃ due ∈ loan.dueDate,
    due - start = tenureDays q.tenureValue q.tenureUnit
  unit : reportedUnit q.tenureUnit = some (annualUnit q.tenureUnit)
  period : periodDays db loan = (annualUnit q.tenureUnit).days

/-- The product has the tenure of the price: as many weeks, with `weeks` spelled exactly so, or
as many months. -/
def KeepsTerm (q : Quote) (db : Db) (loan : Loan) : Prop :=
  ∃ product ∈ db.products[loan.productId]?, max 1 product.tenureValue = q.tenureValue ∧
    (unitText q.tenureUnit = "weeks" ∧ product.tenureUnit = "weeks" ∨
      unitText q.tenureUnit = "months" ∧ product.tenureUnit ≠ "weeks")

instance (q : Quote) (db : Db) (loan : Loan) : Decidable (TermAgrees q db loan) :=
  decidable_of_iff ((∃ start ∈ loan.disbursementDate, ∃ due ∈ loan.dueDate,
      due - start = tenureDays q.tenureValue q.tenureUnit) ∧
      reportedUnit q.tenureUnit = some (annualUnit q.tenureUnit) ∧
      periodDays db loan = (annualUnit q.tenureUnit).days)
    ⟨fun ⟨hterm, hunit, hperiod⟩ => ⟨hterm, hunit, hperiod⟩, fun h => ⟨h.term, h.unit, h.period⟩⟩

instance (q : Quote) (db : Db) (loan : Loan) : Decidable (KeepsTerm q db loan) := by
  unfold KeepsTerm
  infer_instance

theorem annualUnit_eq_week {u : String} : annualUnit u = .week ↔ unitText u = "weeks" := by
  unfold annualUnit
  split_ifs with hweeks hmonths <;> simp [hweeks]

theorem annualUnit_eq_month {u : String} : annualUnit u = .month ↔ unitText u = "months" := by
  unfold annualUnit
  split_ifs with hweeks hmonths
  · simp [hweeks]
  · simp [hmonths]
  · simp [hmonths]

theorem reportedUnit_weeks {u : String} (h : unitText u = "weeks") :
    reportedUnit u = some .week := by
  unfold reportedUnit
  rw [h]
  rfl

theorem reportedUnit_months {u : String} (h : unitText u = "months") :
    reportedUnit u = some .month := by
  unfold reportedUnit
  rw [h]
  rfl

theorem Product.periodDays_eq (product : Product) :
    (product.periodDays = 7 ↔ product.tenureUnit = "weeks") ∧
      (product.periodDays = 30 ↔ product.tenureUnit ≠ "weeks") := by
  unfold Product.periodDays
  split_ifs with h <;> simp [h]

/-- The days a product counts are those of the unit exactly when both are weeks, or the unit is
months and the product has not exactly weeks. -/
theorem unit_agrees_iff {u : String} {product : Product} :
    (reportedUnit u = some (annualUnit u) ∧ product.periodDays = (annualUnit u).days) ↔
      (unitText u = "weeks" ∧ product.tenureUnit = "weeks" ∨
        unitText u = "months" ∧ product.tenureUnit ≠ "weeks") := by
  obtain ⟨hseven, hthirty⟩ := product.periodDays_eq
  cases hunit : annualUnit u with
  | week =>
    have hweeks := annualUnit_eq_week.mp hunit
    simp [reportedUnit_weeks hweeks, hweeks, TenureUnit.days, hseven]
  | month =>
    have hmonths := annualUnit_eq_month.mp hunit
    simp [reportedUnit_months hmonths, hmonths, TenureUnit.days, hthirty]
  | day =>
    have hweeks : unitText u ≠ "weeks" := fun h => by simp [annualUnit_eq_week.mpr h] at hunit
    have hmonths : unitText u ≠ "months" := fun h => by simp [annualUnit_eq_month.mpr h] at hunit
    have hday : product.periodDays ≠ 1 := by
      unfold Product.periodDays
      split_ifs <;> decide
    simp [hweeks, hmonths, TenureUnit.days, hday]

theorem tenureDays_of_unit {value : ℤ} {u : String} {unit : TenureUnit}
    (h : reportedUnit u = some unit) : tenureDays value u = value * unit.days := by
  simp [tenureDays, h]

/-- An activation at a price agrees on the term exactly when the product kept it. -/
theorem activate_agrees_iff {db : Db} {q : Quote} {loan : Loan} {product : Product} {today : ℤ}
    (hproduct : db.products[loan.productId]? = some product) :
    TermAgrees q db (activate loan product today) ↔
      KeepsTerm q db (activate loan product today) := by
  have hperiod : periodDays db (activate loan product today) = product.periodDays :=
    @periodDays_eq db (activate loan product today) product hproduct
  have hpositive := product.periodDays_pos
  have hspan : (∃ start ∈ (activate loan product today).disbursementDate,
      ∃ due ∈ (activate loan product today).dueDate,
        due - start = tenureDays q.tenureValue q.tenureUnit) ↔
      product.periodDays * max 1 product.tenureValue = tenureDays q.tenureValue q.tenureUnit := by
    simp [activate, Product.periodDays]
  have hkeeps : KeepsTerm q db (activate loan product today) ↔
      max 1 product.tenureValue = q.tenureValue ∧
        (unitText q.tenureUnit = "weeks" ∧ product.tenureUnit = "weeks" ∨
          unitText q.tenureUnit = "months" ∧ product.tenureUnit ≠ "weeks") := by
    have hrow : db.products[(activate loan product today).productId]? = some product := hproduct
    simp [KeepsTerm, hrow]
  rw [hkeeps, ← unit_agrees_iff]
  constructor
  · rintro ⟨hterm, hunit, hdays⟩
    rw [hperiod] at hdays
    rw [hspan, tenureDays_of_unit hunit, ← hdays, mul_comm] at hterm
    exact ⟨mul_right_cancel₀ hpositive.ne' hterm, hunit, hdays⟩
  · rintro ⟨hvalue, hunit, hdays⟩
    refine ⟨hspan.mpr ?_, hunit, hperiod.trans hdays⟩
    rw [tenureDays_of_unit hunit, ← hdays, hvalue, mul_comm]

/-- The reports count the days an activation gave the loan, whatever its product says since. -/
theorem reportedTenure_activate (db : Db) (loan : Loan) (product : Product) (today : ℤ) :
    reportedTenure db (activate loan product today) = product.termDays := by
  have hpositive := product.termDays_pos
  have hspan : today + product.termDays - today = product.termDays := add_sub_cancel_left ..
  have hdue : (activate loan product today).dueDate = some (today + product.termDays) := rfl
  have hstart : (activate loan product today).disbursementDate = some today := rfl
  simp [reportedTenure, hdue, hstart, hspan, hpositive]

/-- Only a processed loan becomes active, on its product as it is at that moment. -/
theorem life_activates {db : Db} {i : ℕ} {l l' : Loan} (e : LifeEvent) (hl : db.loans[i]? = some l)
    (hl' : (e.apply db).loans[i]? = some l') (hbefore : l.status ≠ .active)
    (hafter : l'.status = .active) :
    ∃ product today, (e.apply db).products[l.productId]? = some product ∧
      l' = activate l product today := by
  have heffect := life_effect db e
  generalize e.settled db = settled at heffect
  cases heffect with
  | moves hloans hborrowers hlogs =>
    obtain ⟨moved, hmoved, hmoves⟩ := Tables.forall₂_getElem? hloans hl
    obtain rfl := Option.some.inj (hmoved.symm.trans hl')
    exact absurd hafter (hmoves.not_active hbefore)
  | activates loanId loan product today hrow hstatus hproduct hproducts hloans hborrowers hlogs =>
    rw [hloans] at hl'
    by_cases hi : loanId = i
    · subst hi
      obtain rfl := Option.some.inj (hrow.symm.trans hl)
      rw [List.getElem?_set_self (List.getElem?_eq_some_iff.mp hl).1] at hl'
      exact ⟨product, today, hproducts ▸ hproduct, (Option.some.inj hl').symm⟩
    · rw [List.getElem?_set_ne hi, hl] at hl'
      obtain rfl := Option.some.inj hl'
      exact absurd hafter hbefore
  | settles loanId loan paid now hrow hopen hpaid hloans hborrowers hlogs =>
    rw [hloans] at hl'
    by_cases hi : loanId = i
    · subst hi
      rw [List.getElem?_set_self (List.getElem?_eq_some_iff.mp hl).1] at hl'
      obtain ⟨balance, rebate, at_, -, hsettled⟩ := hpaid
      rw [← Option.some.inj hl', hsettled] at hafter
      cases hafter
    · rw [List.getElem?_set_ne hi, hl] at hl'
      obtain rfl := Option.some.inj hl'
      exact absurd hafter hbefore

/-- In every run of events and of product edits after an application, an activation gives the
loan the term of its price, and price, payoff and report one unit, exactly when the product then
still has the tenure of the price in exact weeks or in months. -/
theorem term_agrees_iff {db db' : Db} {catalogue : Catalogue} {tenantId loanId : ℕ}
    {applicant : Applicant} {body : LoanApplication} {year : ℤ}
    (happlied : applyForLoan db catalogue tenantId applicant body year = .ok (db', loanId)) :
    ∃ product q, db.products[body.productId]? = some product ∧
      q = quoteBreakdown product body.principal ∧
      (db'.loans[loanId]?).map (·.pricingSnapshot) = some (some q) ∧
      ∀ catalogue' events, AllSteps Shop.step
        (Shop.Activates loanId (fun db l => l.pricingSnapshot = some q ∧
          (TermAgrees q db l ↔ KeepsTerm q db l))) ⟨db', catalogue'⟩ events := by
  obtain ⟨product, loan, hproduct, hrow, hquoted⟩ := applyForLoan_quoted happlied
  have hsnapshot : (db'.loans[loanId]?).map (·.pricingSnapshot) =
      some (some (quoteBreakdown product body.principal)) := by
    rw [hrow, Option.map_some, hquoted.snapshot]
  refine ⟨product, _, hproduct, rfl, hsnapshot, fun catalogue' events => ?_⟩
  refine Shop.allSteps_of_quoted (s := ⟨db', catalogue'⟩)
    (fun s l e hl hq => ?_) hrow hquoted events
  intro before hbefore after hafter hstatus hactive
  obtain rfl := Option.some.inj (hl.symm.trans hbefore)
  obtain ⟨next, hnext, hstep⟩ := Shop.step_loan e hl
  obtain rfl := Option.some.inj (hnext.symm.trans hafter)
  refine ⟨(hstep.quoted hq).snapshot, ?_⟩
  by_cases hlife : ∃ life, e = .life life
  · obtain ⟨life, rfl⟩ := hlife
    obtain ⟨product, today, hproduct, rfl⟩ := life_activates life hl hnext hstatus hactive
    exact activate_agrees_iff hproduct
  · have hsame := Shop.step_aside (fun life h => hlife ⟨life, h⟩) hl
    obtain rfl := Option.some.inj (hsame.symm.trans hnext)
    exact absurd hactive hstatus

def tenureProduct (value : ℤ) (unit : String) : Product := ⟨10, value, unit, 5, ⟨0, 0, none⟩⟩

/-- Six months, repriced while the loan waits. -/
theorem term_agrees_iff_months :
    applyForLoan (pricedMarket (tenureProduct 6 "Months") []) openCatalogue 1 ⟨true, .ok ()⟩
        ⟨0, 0, 100050⟩ 2026 = .ok ((appliedAt (tenureProduct 6 "Months")).db, 0) ∧
      AllSteps Shop.step
        (Shop.Activates 0 (KeepsTerm (quoteBreakdown (tenureProduct 6 "Months") 100050)))
        (appliedAt (tenureProduct 6 "Months")) (paidOutAfterEdit (tenureProduct 6 "months")) ∧
      AllSteps Shop.step
        (Shop.Activates 0 (fun db l =>
          l.pricingSnapshot = some (quoteBreakdown (tenureProduct 6 "Months") 100050) ∧
            (TermAgrees (quoteBreakdown (tenureProduct 6 "Months") 100050) db l ↔
              KeepsTerm (quoteBreakdown (tenureProduct 6 "Months") 100050) db l)))
        (appliedAt (tenureProduct 6 "Months")) (paidOutAfterEdit (tenureProduct 6 "months")) := by
  have happlied : applyForLoan (pricedMarket (tenureProduct 6 "Months") []) openCatalogue 1
      ⟨true, .ok ()⟩ ⟨0, 0, 100050⟩ 2026 =
        .ok ((appliedAt (tenureProduct 6 "Months")).db, 0) := by rfl
  obtain ⟨product, q, hproduct, rfl, -, hagrees⟩ := term_agrees_iff happlied
  obtain rfl : tenureProduct 6 "Months" = product := Option.some.inj hproduct
  exact ⟨happlied, by decide +kernel, hagrees openCatalogue
    (paidOutAfterEdit (tenureProduct 6 "months"))⟩

/-- A tenure of fourteen days is fourteen times thirty days once the loan is paid out. -/
theorem term_in_days :
    applyForLoan (pricedMarket (tenureProduct 14 "days") []) openCatalogue 1 ⟨true, .ok ()⟩
        ⟨0, 0, 100050⟩ 2026 = .ok ((appliedAt (tenureProduct 14 "days")).db, 0) ∧
      ¬ AllSteps Shop.step
        (Shop.Activates 0 (TermAgrees (quoteBreakdown (tenureProduct 14 "days") 100050)))
        (appliedAt (tenureProduct 14 "days")) (paidOutAfterEdit (tenureProduct 14 "days")) :=
  ⟨by rfl, by decide +kernel⟩

end FinylDcp
