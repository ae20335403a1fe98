import FinylDcp.EarlyPayoff
import FinylDcp.LoanLifecycle

/-!
# The stages of a loan

A loan goes from its application to its payout, is active, falls overdue, defaults, and ends
paid or rejected. It never goes back past its activation, and its balance follows its stage: a
loan that is collected on owes something, any other owes nothing.
-/
namespace FinylDcp
open Runs Tables

/-- A step of a loan: it moves, or is activated, or is settled. -/
inductive Loan.Step (l l' : Loan) : Prop
  | moves (h : l.Moves l')
  | activates (product : Product) (today : ℤ) (h : l.status = .processing)
      (hactive : l' = activate l product today)
  | settles (hopen : l.status.collectible = true) (h : l.Settles l')

/-- Every event is a step of every loan. -/
theorem life_step {db : Db} {i : ℕ} {l : Loan} (e : LifeEvent) (hl : db.loans[i]? = some l) :
    ∃ l', (e.apply db).loans[i]? = some l' ∧ l.Step l' := by
  have hset : ∀ {loanId : ℕ} {loan next : Loan}, db.loans[loanId]? = some loan → loan.Step next →
      ∃ l', (db.loans.set loanId next)[i]? = some l' ∧ l.Step l' := by
    intro loanId loan next hrow hstep
    by_cases hi : loanId = i
    · subst hi
      obtain rfl := Option.some.inj (hrow.symm.trans hl)
      exact ⟨next, by simp [(List.getElem?_eq_some_iff.mp hrow).1], hstep⟩
    · exact ⟨l, by rw [List.getElem?_set_ne hi, hl], .moves (.same l)⟩
  have heffect := life_effect db e
  generalize e.settled db = settled at heffect
  cases heffect with
  | moves hloans hborrowers hlogs =>
    obtain ⟨l', hl', hmoves⟩ := forall₂_getElem? hloans hl
    exact ⟨l', hl', .moves hmoves⟩
  | activates loanId loan product today hrow hstatus hproduct hproducts hloans hborrowers hlogs =>
    rw [hloans]
    exact hset hrow (.activates product today hstatus rfl)
  | settles loanId loan paid now hrow hopen hpaid hloans hborrowers hlogs =>
    rw [hloans]
    exact hset hrow (.settles hopen hpaid)

/-- How far a loan has come; before its activation it may go back and forth. -/
def LoanStatus.stage : LoanStatus → ℕ
  | pending | underwriting | approved | processing => 0
  | active => 1
  | overdue => 2
  | defaulted => 3
  | paid | rejected => 4

/-- Nothing follows this stage. -/
def LoanStatus.final (status : LoanStatus) : Prop := status = .paid ∨ status = .rejected

/-- A later status of the same loan. -/
structure LoanStatus.Before (a b : LoanStatus) : Prop where
  stage : a.stage ≤ b.stage
  final : a.final → b = a

theorem LoanStatus.Before.refl (status : LoanStatus) : status.Before status :=
  ⟨le_refl _, fun _ => rfl⟩

theorem LoanStatus.Before.trans {a b c : LoanStatus} (h : a.Before b) (h' : b.Before c) :
    a.Before c where
  stage := h.stage.trans h'.stage
  final ha := by
    have hb := h.final ha
    subst hb
    exact h'.final ha

theorem LoanStatus.Before.of_stage {a b : LoanStatus} (hopen : a.stage < 4)
    (hle : a.stage ≤ b.stage) : a.Before b where
  stage := hle
  final hfinal := by
    obtain rfl | rfl := hfinal <;> exact absurd hopen (by decide)

theorem LoanStatus.Before.of_eq {a b : LoanStatus} (c d : LoanStatus) (ha : a = c) (hb : b = d)
    (hopen : c.stage < 4) (hle : c.stage ≤ d.stage) : a.Before b :=
  ha ▸ hb ▸ .of_stage hopen hle

theorem LoanStatus.stage_undecided {status : LoanStatus} (h : status.undecided = true) :
    status.stage = 0 := by
  cases status <;> simp [undecided] at h <;> rfl

theorem LoanStatus.stage_collectible {status : LoanStatus} (h : status.collectible = true) :
    status.stage < 4 := by
  cases status <;> simp [collectible] at h <;> simp [stage]

/-- A step never goes back past the activation, and never leaves the last stage. -/
theorem Loan.Step.before {l l' : Loan} (h : l.Step l') : l.status.Before l'.status := by
  cases h with
  | moves h =>
    cases h with
    | same => exact .refl _
    | reduced => exact .refl _
    | decided status h hstatus =>
      have hstage := LoanStatus.stage_undecided h
      exact .of_stage (by omega) (by omega)
    | taken product actorUserId h =>
      exact .of_eq .approved .processing h rfl (by decide) (by decide)
    | reverted h => exact .of_eq .processing .approved h rfl (by decide) (by decide)
    | fallsOverdue penalty h hpenalty => exact .of_eq .active .overdue h rfl (by decide) (by decide)
    | defaults h =>
      obtain h | h := h
      · exact .of_eq .active .defaulted h rfl (by decide) (by decide)
      · exact .of_eq .overdue .defaulted h rfl (by decide) (by decide)
  | activates product today h hactive =>
    exact .of_eq .processing .active h (by rw [hactive]; rfl) (by decide) (by decide)
  | settles hopen h =>
    obtain ⟨balance, rebate, at_, -, rfl⟩ := h
    have hstage := LoanStatus.stage_collectible hopen
    exact .of_stage hstage hstage.le

/-- What a loan is agreed to owe once it is paid out. -/
def Loan.agreedBalance (loan : Loan) : ℤ :=
  loan.totalDue + (loan.pricingSnapshot.map (·.feesInBalance)).getD 0

/-- A loan with a price of its own, which owes something exactly while it is collected on. -/
structure Loan.OnTrack (l : Loan) : Prop where
  priced : ∃ q, l.pricingSnapshot = some q ∧ q.principal = l.principal
  agreed : 0 < l.agreedBalance
  owes : l.status.collectible = true → 0 < l.outstandingBalance
  clear : l.status.collectible = false → l.outstandingBalance = 0

/-- The price of a loan does not change with its product. -/
theorem Loan.OnTrack.snapshot {l : Loan} (h : l.OnTrack) (product : Product) :
    l.pricingSnapshot = some (loanSnapshot l product) ∧
      (loanSnapshot l product).principal = l.principal := by
  obtain ⟨q, hq, hprincipal⟩ := h.priced
  simp [loanSnapshot, hq, hprincipal]

theorem Loan.Step.onTrack {l l' : Loan} (h : l.Step l') (hl : l.OnTrack) : l'.OnTrack := by
  cases h with
  | moves h =>
    cases h with
    | same => exact hl
    | decided status h hstatus =>
      have hclear :=
        hl.clear (by cases hs : l.status <;> simp [hs, LoanStatus.undecided] at h <;> rfl)
      have hclosed : status.collectible = false := by obtain rfl | rfl | rfl := hstatus <;> rfl
      exact ⟨hl.priced, hl.agreed, fun hopen => by simp [hclosed] at hopen, fun _ => hclear⟩
    | taken product actorUserId h =>
      obtain ⟨hq, hprincipal⟩ := hl.snapshot product
      have hclear := hl.clear (by rw [h]; rfl)
      refine ⟨⟨_, rfl, hprincipal⟩, ?_, fun hopen => (by cases hopen), fun _ => hclear⟩
      have hagreed := hl.agreed
      rw [agreedBalance, hq] at hagreed
      exact hagreed
    | reverted h =>
      exact ⟨hl.priced, hl.agreed, fun hopen => (by cases hopen),
        fun _ => hl.clear (by rw [h]; rfl)⟩
    | reduced balance h hleft =>
      exact ⟨hl.priced, hl.agreed, fun _ => hleft, fun hclosed => by simp [h] at hclosed⟩
    | fallsOverdue penalty h hpenalty =>
      have howes := hl.owes (by rw [h]; rfl)
      exact ⟨hl.priced, hl.agreed, fun _ => by dsimp only; omega, fun hclosed => by cases hclosed⟩
    | defaults h =>
      have howes := hl.owes (by obtain h | h := h <;> rw [h] <;> rfl)
      exact ⟨hl.priced, hl.agreed, fun _ => howes, fun hclosed => by cases hclosed⟩
  | activates product today h hactive =>
    obtain ⟨hq, hprincipal⟩ := hl.snapshot product
    have hagreed := hl.agreed
    rw [agreedBalance, hq] at hagreed
    subst hactive
    exact ⟨⟨_, rfl, hprincipal⟩, hagreed, fun _ => hagreed, fun hclosed => by cases hclosed⟩
  | settles hopen h =>
    obtain ⟨balance, rebate, at_, hzero, rfl⟩ := h
    exact ⟨hl.priced, hl.agreed, fun hopen' => (by cases hopen'),
      fun _ => hzero (hl.owes hopen).le⟩

/-- The overdue penalty is charged where an active loan falls overdue, and nowhere else. -/
theorem Loan.Step.penalty {l l' : Loan} (h : l.Step l') :
    l'.penaltiesCharged = l.penaltiesCharged ∨ (l.status.stage = 1 ∧ l'.status.stage = 2) := by
  cases h with
  | moves h =>
    cases h with
    | fallsOverdue penalty h hpenalty => exact .inr ⟨by rw [h]; rfl, rfl⟩
    | _ => exact .inl rfl
  | activates product today h hactive => exact .inl (by rw [hactive]; rfl)
  | settles hopen h =>
    obtain ⟨balance, rebate, at_, -, rfl⟩ := h
    exact .inl rfl

/-- A run takes a loan to a later status and keeps it on track. -/
theorem life_run {db : Db} {i : ℕ} {l : Loan} (events : List LifeEvent)
    (hl : db.loans[i]? = some l) :
    ∃ l', (run LifeEvent.apply db events).loans[i]? = some l' ∧ l.status.Before l'.status ∧
      (l.OnTrack → l'.OnTrack) := by
  induction events generalizing db l with
  | nil => exact ⟨l, hl, .refl _, id⟩
  | cons e events ih =>
    obtain ⟨next, hnext, hstep⟩ := life_step e hl
    obtain ⟨l', hl', hbefore, htrack⟩ := ih hnext
    exact ⟨l', hl', hstep.before.trans hbefore, fun h => htrack (hstep.onTrack h)⟩

/-- The penalties on a loan. -/
def penaltiesOn (loanId : ℕ) (db : Db) : Option ℤ := (db.loans[loanId]?).map (·.penaltiesCharged)

/-- How often a run charges a penalty on a loan. -/
def penaltyCharges (loanId : ℕ) : Db → List LifeEvent → ℕ
  | _, [] => 0
  | db, e :: events => (if penaltiesOn loanId (e.apply db) = penaltiesOn loanId db then 0 else 1) +
      penaltyCharges loanId (e.apply db) events

/-- A loan that has not fallen overdue can be charged once, any other never. -/
theorem penaltyCharges_le {db : Db} {loanId : ℕ} {l : Loan} (events : List LifeEvent)
    (hl : db.loans[loanId]? = some l) :
    penaltyCharges loanId db events ≤ if l.status.stage ≤ 1 then 1 else 0 := by
  induction events generalizing db l with
  | nil => exact Nat.zero_le _
  | cons e events ih =>
    obtain ⟨next, hnext, hstep⟩ := life_step e hl
    have hrest := ih hnext
    have hlater := hstep.before.stage
    simp only [penaltyCharges, penaltiesOn, hl, hnext, Option.map_some, Option.some.injEq]
    obtain hsame | ⟨hactive, hoverdue⟩ := hstep.penalty
    · rw [if_pos hsame]
      split_ifs at hrest ⊢ <;> omega
    · rw [hoverdue, if_neg (by decide)] at hrest
      rw [hactive, if_pos (le_refl 1)]
      split_ifs <;> omega

/-- The balance of a loan is that of its status. -/
structure Loan.Balanced (l : Loan) : Prop where
  nonneg : 0 ≤ l.outstandingBalance
  paid : l.status = .paid → l.outstandingBalance = 0
  owes : l.status.collectible = true → 0 < l.outstandingBalance

theorem Loan.OnTrack.balanced {l : Loan} (h : l.OnTrack) : l.Balanced where
  nonneg := by
    cases hopen : l.status.collectible with
    | true => exact (h.owes hopen).le
    | false => exact (h.clear hopen).ge
  paid hpaid := h.clear (by rw [hpaid]; rfl)
  owes := h.owes

/-- The status of a loan after a run. -/
def statusAfter (start : Db) (loanId : ℕ) (events : List LifeEvent) : Option LoanStatus :=
  ((run LifeEvent.apply start events).loans[loanId]?).map (·.status)

/-- The life of a loan over a run: its balance is always that of its status, it leaves
`active` for good, `paid` and `rejected` are final, and one penalty is charged at most. -/
structure Lifecycle (loanId : ℕ) (start : Db) (events : List LifeEvent) : Prop where
  balanced : Always LifeEvent.apply (fun db => ∃ l ∈ db.loans[loanId]?, l.Balanced) start events
  leavesActive : ∀ a b c, a ++ b ++ c <+: events → statusAfter start loanId a = some .active →
    statusAfter start loanId (a ++ b) ≠ some .active →
      statusAfter start loanId (a ++ b ++ c) ≠ some .active
  final : ∀ a b, a ++ b <+: events → ∀ status : LoanStatus, status.final →
    statusAfter start loanId a = some status → statusAfter start loanId (a ++ b) = some status
  onePenalty : penaltyCharges loanId start events ≤ 1

theorem lifecycle_of_onTrack {start : Db} {loanId : ℕ} {l : Loan}
    (hl : start.loans[loanId]? = some l)
    (htrack : l.OnTrack) (events : List LifeEvent) : Lifecycle loanId start events := by
  constructor
  · intro done hdone
    obtain ⟨l', hl', -, hkept⟩ := life_run done hl
    exact ⟨l', hl', (hkept htrack).balanced⟩
  · intro a b c hprefix hactive hleft hagain
    obtain ⟨x, hx, -⟩ := life_run a hl
    obtain ⟨y, hy, hxy, -⟩ := life_run b hx
    obtain ⟨z, hz, hyz, -⟩ := life_run c hy
    simp only [statusAfter, run_append, hx, hy, hz, Option.map_some, Option.some.injEq] at *
    have hstage := hxy.stage
    have hstage' := hyz.stage
    rw [hactive] at hstage
    rw [hagain] at hstage'
    cases hstatus : y.status <;> simp [hstatus, LoanStatus.stage] at hstage hstage' hleft
  · intro a b hprefix status hfinal hstatus
    obtain ⟨x, hx, -⟩ := life_run a hl
    obtain ⟨y, hy, hxy, -⟩ := life_run b hx
    simp only [statusAfter, run_append, hx, hy, Option.map_some, Option.some.injEq] at *
    subst hstatus
    exact hxy.final hfinal
  · have hcharges := penaltyCharges_le events hl
    split_ifs at hcharges <;> omega

theorem decimalOf_nonneg {c : ℤ} (h : 0 ≤ c) : 0 ≤ decimalOf c :=
  div_nonneg (by exact_mod_cast h) (by norm_num)

theorem feesInBalance_nonneg {product : Product} {principal : ℤ} (hprincipal : 0 ≤ principal)
    (hprocessing : 0 ≤ product.rules.processingFeeRate)
    (hfacility : 0 ≤ product.rules.facilityFee) :
    0 ≤ (quoteBreakdown product principal).feesInBalance := by
  have hprocessed : 0 ≤ money (decimalOf principal * product.rules.processingFeeRate / 100) :=
    money_nonneg (div_nonneg (mul_nonneg (decimalOf_nonneg hprincipal) hprocessing) (by norm_num))
  have hfees := add_nonneg hprocessed (money_nonneg hfacility)
  have hexcise := money_nonneg (mul_nonneg (decimalOf_nonneg hfees)
    (by norm_num [exciseRate] : 0 ≤ exciseRate))
  cases hmethod : feeCollection product with
  | deduct => simp [quoteBreakdown, hmethod]
  | addToBalance => simpa [quoteBreakdown, hmethod] using add_nonneg hfees hexcise

/-- At terms that are not negative, a loan of a positive amount is agreed to owe something. -/
theorem agreedBalance_pos {tenantId : ℕ} {body : LoanApplication} {product : Product}
    {number : String} (hprincipal : 0 < body.principal) (hrate : 0 ≤ product.interestRate)
    (hprocessing : 0 ≤ product.rules.processingFeeRate)
    (hfacility : 0 ≤ product.rules.facilityFee) :
    0 < (appliedLoan tenantId body product number).agreedBalance := by
  have hdue : body.principal ≤
      money (decimalOf body.principal * (1 + product.interestRate / 100)) := by
    have hfactor : 1 ≤ 1 + product.interestRate / 100 := by
      linarith [div_nonneg hrate (by norm_num : (0 : ℚ) ≤ 100)]
    have hgrows := le_mul_of_one_le_right (decimalOf_nonneg hprincipal.le) hfactor
    simpa using money_mono hgrows
  have hfees := feesInBalance_nonneg hprincipal.le hprocessing hfacility
  have hagreed : (appliedLoan tenantId body product number).agreedBalance =
      money (decimalOf body.principal * (1 + product.interestRate / 100)) +
        (quoteBreakdown product body.principal).feesInBalance := rfl
  omega

/-- The life of a loan from its application on, where its agreed balance is positive: through
every sequence of decisions, transitions, payouts and their results, payments and sweeps. -/
theorem loan_lifecycle {db db' : Db} {catalogue : Catalogue} {tenantId loanId : ℕ}
    {applicant : Applicant} {body : LoanApplication} {year : ℤ}
    (happlied : applyForLoan db catalogue tenantId applicant body year = .ok (db', loanId))
    (hagreed : ∀ l ∈ db'.loans[loanId]?, 0 < l.agreedBalance) (events : List LifeEvent) :
    Lifecycle loanId db' events := by
  obtain ⟨borrower, product, -, -, -, hid, hdb⟩ := applyForLoan_eq_ok happlied
  obtain rfl : loanId = db.loans.length := hid
  have hrow : db'.loans[db.loans.length]? =
      some (appliedLoan tenantId body product (newAccountNumber db tenantId year)) := by
    rw [show db' = _ from hdb]
    simp
  exact lifecycle_of_onTrack hrow ⟨⟨_, rfl, rfl⟩, hagreed _ hrow, fun hopen => (by cases hopen),
    fun _ => rfl⟩ events

/-- A market with one product, at a rate, and one approved client. -/
def openMarket (rate : ℚ) : Db :=
  { approvedBook with products := [⟨rate, 4, "weeks", 5, ⟨0, 0, none⟩⟩], loans := [] }

def openCatalogue : Catalogue := ⟨[⟨1, true, 100000, 5000000⟩], [⟨"approved", []⟩]⟩

/-- The market after an application for ten thousand shillings. -/
def appliedMarket (rate : ℚ) : Db :=
  { openMarket rate with loans := [appliedLoan 1 ⟨0, 0, 1000000⟩
    ⟨rate, 4, "weeks", 5, ⟨0, 0, none⟩⟩ "FL/FY2026/1/1"] }

/-- The loan is approved and paid out, and falls overdue. -/
def paidOutAndOverdue : List LifeEvent :=
  [.decide 1 0 ⟨true, true, none, none⟩ "approve", .disburse 1 0 7 0,
    .answer 1 0 0 (sendB2c (acknowledged "AG_1")), .result (resultOf "AG_1" "0" "QK1") 0,
    .overdueAlerts 1 40]

theorem loan_lifecycle_overdue :
    applyForLoan (openMarket 10) openCatalogue 1 ⟨true, .ok ()⟩ ⟨0, 0, 1000000⟩ 2026 =
        .ok (appliedMarket 10, 0) ∧
      (∀ l ∈ (appliedMarket 10).loans[0]?, 0 < l.agreedBalance) ∧
      statusAfter (appliedMarket 10) 0 paidOutAndOverdue = some .overdue ∧
      Lifecycle 0 (appliedMarket 10) paidOutAndOverdue := by
  have happlied : applyForLoan (openMarket 10) openCatalogue 1 ⟨true, .ok ()⟩ ⟨0, 0, 1000000⟩ 2026 =
      .ok (appliedMarket 10, 0) := by rfl
  have hagreed : ∀ l ∈ (appliedMarket 10).loans[0]?, 0 < l.agreedBalance := by decide +kernel
  exact ⟨happlied, hagreed, by decide +kernel, loan_lifecycle happlied hagreed paidOutAndOverdue⟩

/-- Nothing checks the rate of a product. At minus a hundred per cent a loan is active with
nothing to collect. -/
theorem active_without_balance :
    applyForLoan (openMarket (-100)) openCatalogue 1 ⟨true, .ok ()⟩ ⟨0, 0, 1000000⟩ 2026 =
        .ok (appliedMarket (-100), 0) ∧
      statusAfter (appliedMarket (-100)) 0 (paidOutAndOverdue.take 4) = some .active ∧
      ¬ Lifecycle 0 (appliedMarket (-100)) (paidOutAndOverdue.take 4) := by
  refine ⟨by rfl, by decide +kernel, fun h => ?_⟩
  obtain ⟨l, hl, hbalanced⟩ := h.balanced.last
  have hnothing :
      ((run LifeEvent.apply (appliedMarket (-100)) (paidOutAndOverdue.take 4)).loans[0]?).map
      (fun l => (l.status.collectible, l.outstandingBalance)) = some (true, 0) := by decide +kernel
  rw [Option.mem_def.mp hl, Option.map_some, Option.some.injEq, Prod.mk.injEq] at hnothing
  have howes := hbalanced.owes hnothing.1
  omega

end FinylDcp
