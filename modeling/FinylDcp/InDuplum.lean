import FinylDcp.QuotedPrice

/-!
# The in-duplum rule over the life of a loan

What is charged on top of the principal: flat interest, the fees in the balance, and the
penalties. The cap is applied where a penalty is added, to the interest and the new penalty
alone.
-/
namespace FinylDcp
open Runs Tables

/-- Everything charged on top of the principal. -/
def Loan.charges (l : Loan) : ℤ := l.interestTotal + l.feesInBalance + l.penaltiesCharged

/-- The charges do not exceed the principal. -/
def Loan.WithinPrincipal (l : Loan) : Prop := l.charges ≤ l.principal

instance (l : Loan) : Decidable l.WithinPrincipal := inferInstanceAs (Decidable (_ ≤ _))

def penaltyRateOf (product : Option Product) : ℚ := (product.map (·.penaltyRate)).getD 0

/-- The penalty a product charges, before the cap. -/
def proposedPenalty (product : Option Product) (l : Loan) : ℤ :=
  money (decimalOf l.principal * penaltyRateOf product / 100)

/-- There is no penalty to charge, or nothing but interest is charged so far, or the penalty is
no more than what all charges leave of the principal. -/
def PenaltyFits (product : Option Product) (l : Loan) : Prop :=
  l.principal ≤ 0 ∨ penaltyRateOf product ≤ 0 ∨ l.feesInBalance + l.penaltiesCharged ≤ 0 ∨
    proposedPenalty product l ≤ l.principal - l.charges

instance (product : Option Product) (l : Loan) : Decidable (PenaltyFits product l) := by
  unfold PenaltyFits
  infer_instance

/-- The penalty added is what the product proposes, within what interest leaves of the
principal. -/
theorem accrueOverduePenalty_amount {product : Option Product} {l : Loan}
    (hprincipal : 0 < l.principal)
    (hrate : 0 < penaltyRateOf product) :
    (accrueOverduePenalty product l).2 =
      max 0 (min (proposedPenalty product l) (l.principal - l.interestTotal)) := by
  have hcharged : ¬ (l.principal ≤ 0 ∨ penaltyRateOf product ≤ 0) := by
    rintro (h | h)
    · exact absurd hprincipal (not_lt.mpr h)
    · exact absurd hrate (not_lt.mpr h)
  simp only [accrueOverduePenalty, ← penaltyRateOf.eq_1, ← proposedPenalty.eq_1,
    ← Loan.interestTotal.eq_1, inDuplumCap, Bool.or_eq_true, decide_eq_true_eq, if_neg hcharged]
  generalize proposedPenalty product l = proposed
  split_ifs with hcapped hwhole hnone hnone
  all_goals dsimp only; omega

theorem accrueOverduePenalty_none {product : Option Product} {l : Loan}
    (h : l.principal ≤ 0 ∨ penaltyRateOf product ≤ 0) : (accrueOverduePenalty product l).2 = 0 := by
  simp only [accrueOverduePenalty, ← penaltyRateOf.eq_1, Bool.or_eq_true, decide_eq_true_eq,
    if_pos h]

/-- A penalty leaves the charges within the principal exactly when it fits. -/
theorem penalty_withinPrincipal_iff {product : Option Product} {l : Loan} (h : l.WithinPrincipal) :
    (accrueOverduePenalty product l).1.WithinPrincipal ↔ PenaltyFits product l := by
  have hcharges : (accrueOverduePenalty product l).1.WithinPrincipal ↔
      l.charges + (accrueOverduePenalty product l).2 ≤ l.principal := by
    rw [accrueOverduePenalty_loan]
    simp only [Loan.WithinPrincipal, Loan.charges, Loan.interestTotal]
    constructor <;> intro h <;> omega
  rw [hcharges]
  unfold PenaltyFits
  simp only [Loan.WithinPrincipal, Loan.charges] at h ⊢
  by_cases hfree : l.principal ≤ 0 ∨ penaltyRateOf product ≤ 0
  · rw [accrueOverduePenalty_none hfree]
    exact iff_of_true (by omega) (by tauto)
  · obtain ⟨hprincipal, hrate⟩ := not_or.mp hfree
    rw [accrueOverduePenalty_amount (not_le.mp hprincipal) (not_le.mp hrate)]
    generalize proposedPenalty product l = proposed
    constructor
    · intro hwithin
      refine .inr (.inr ?_)
      omega
    · rintro (h0 | h0 | h0 | h0)
      · exact absurd h0 hprincipal
      · exact absurd h0 hrate
      · omega
      · omega

/-- The penalties on the loans, row by row. -/
def penalties (db : Db) : List ℤ := db.loans.map (·.penaltiesCharged)

section Penalties

variable {db db' : Db} {tenantId loanId txnId : ℕ}

theorem penalties_modify {f : Loan → Loan} (hloans : db'.loans = db.loans.modify loanId f)
    (h : ∀ l, (f l).penaltiesCharged = l.penaltiesCharged) : penalties db' = penalties db := by
  rw [penalties, hloans, map_modify_of_eq _ h, penalties]

theorem penalties_set {l next : Loan} (hrow : db.loans[loanId]? = some l)
    (h : next.penaltiesCharged = l.penaltiesCharged)
    (hloans : db'.loans = db.loans.set loanId next) : penalties db' = penalties db := by
  rw [penalties, hloans, List.set_eq_modify, map_modify_of_row, penalties]
  intro x hx
  obtain rfl := Option.some.inj (hrow.symm.trans hx)
  exact h

theorem penalties_flush {l next : Loan} (hrow : db.loans[loanId]? = some l)
    (h : next.penaltiesCharged = l.penaltiesCharged) :
    penalties (db.flushLoan loanId l next) = penalties db :=
  penalties_set hrow h (by rw [flushLoan_loaded next hrow])

theorem decideLoan_penalties {decider : LoanDecider} {action : String}
    (h : decideLoan db tenantId loanId decider action = .ok db') :
    penalties db' = penalties db := by
  rw [decideLoan_eq] at h
  split at h
  · cases h
  obtain ⟨decision, -, h⟩ := bind_eq_ok.mp h
  cases decision with
  | none =>
    cases h
    rfl
  | some status =>
    obtain ⟨-, rfl⟩ := Db.commit_eq_ok.mp h
    exact penalties_modify rfl fun _ => rfl

theorem transitionLoan_penalties {seesLoan : Bool} {status : String} {now : ℤ}
    (h : transitionLoan db tenantId loanId seesLoan status now = .ok db') :
    penalties db' = penalties db := by
  simp only [transitionLoan] at h
  split at h
  · cases h
  rename_i loan hloan
  split at h
  · cases h
  split at h
  · cases h
  · cases h
  · cases h
  · split at h
    · cases h
    · obtain ⟨-, rfl⟩ := Db.commit_eq_ok.mp h
      exact @penalties_flush (releaseActiveLock db loanId { loan with status := .paid } now).1 _ _ _
        (loanRow_eq_some hloan).1 rfl
  · obtain ⟨-, rfl⟩ := Db.commit_eq_ok.mp h
    exact penalties_modify rfl fun _ => rfl

theorem beginDisbursement_penalties {actorUserId : ℕ} {now : ℤ} {out : Db × ℕ}
    (h : beginDisbursement db tenantId loanId actorUserId now = .ok out) :
    penalties out.1 = penalties db := by
  simp only [beginDisbursement] at h
  split at h
  · cases h
  split at h
  · cases h
  split at h
  · cases h
  split at h
  · split at h
    · cases h
    · cases h
      exact penalties_modify rfl fun _ => rfl
  · cases h

theorem finishDisbursement_penalties {sent : SendResult}
    (h : (finishDisbursement db tenantId loanId txnId sent).1 = .ok db') :
    penalties db' = penalties db := by
  cases sent with
  | refused why =>
    obtain ⟨-, rfl⟩ := Db.commit_eq_ok.mp h
    refine penalties_modify rfl fun l => ?_
    split <;> rfl
  | uncertain why =>
    obtain ⟨-, rfl⟩ := Db.commit_eq_ok.mp h
    rfl
  | accepted ack =>
    obtain ⟨-, rfl⟩ := Db.commit_eq_ok.mp h
    rfl

theorem settlePayout_penalties {txn : PaymentTransaction} {resultCode : String}
    {receipt : Option String} {now : ℤ} {out : Db × ResultReply}
    (h : settlePayout db tenantId txnId txn (loanOf db tenantId txn) resultCode receipt now =
      .ok out) :
    penalties out.1 = penalties db := by
  have hflush : ∀ {db' : Db} {loan next : Loan} {loanId : ℕ}, db'.loans = db.loans →
      db.loans[loanId]? = some loan → next.penaltiesCharged = loan.penaltiesCharged →
      penalties (db'.flushLoan loanId loan next) = penalties db := by
    intro db' loan next loanId hloans hrow hsame
    rw [penalties_flush (by rw [hloans]; exact hrow) hsame, penalties, hloans, penalties]
  simp only [settlePayout] at h
  split at h
  · cases h
    rfl
  split at h
  · split at h
    · rename_i loanId loan hheld
      split at h
      · split at h
        · cases h
          exact @hflush (db.updateTransaction txnId _) _ _ _ rfl (loanOf_eq_some hheld).2.1 rfl
        · cases h
      · cases h
        rfl
    · cases h
      rfl
  · split at h
    · rename_i loanId loan hheld
      split at h
      · cases h
        exact @hflush (db.updateTransaction txnId _) _ _ _ rfl (loanOf_eq_some hheld).2.1 rfl
      · cases h
        rfl
    · cases h
      rfl

theorem applyB2cResult_penalties {txn : PaymentTransaction} {resultCode : String}
    {receipt : Option String} {now : ℤ} {out : Db × ResultReply}
    (h : applyB2cResult db tenantId txnId txn resultCode receipt now = .ok out) :
    penalties out.1 = penalties db := by
  simp only [applyB2cResult] at h
  split at h
  · cases h
    rw [penalties, applyRefundResult_aside.1, penalties]
  · exact settlePayout_penalties h

theorem receivePayment_penalties (p : Payment) :
    penalties (receivePayment db loanId p) = penalties db := by
  cases hrow : db.loans[loanId]? with
  | none => simp only [receivePayment, hrow]
  | some loan =>
    obtain ⟨-, hdb⟩ | ⟨-, -, hdb⟩ | ⟨hacc, hopen, -⟩ := receivePayment_cases (p := p) hrow
    · rw [hdb]
    · rw [hdb]
      rfl
    · rw [receivePayment_applied hrow hacc hopen]
      refine penalties_set hrow ?_ rfl
      have hbooked : (book loan (divisionOf db loanId loan p) p.paidOn).penaltiesCharged =
          loan.penaltiesCharged := by rw [book_eq]
      simp only [settled]
      split
      · exact hbooked
      · exact hbooked

/-- Of the events of a loan's life only the overdue sweep charges penalties. -/
theorem life_penalties {e : LifeEvent} (he : ∀ tenantId today, e ≠ .overdueAlerts tenantId today) :
    penalties (e.apply db) = penalties db := by
  have hsaved : ∀ {x : Except Failure Db}, (∀ db', x = .ok db' → penalties db' = penalties db) →
      penalties (db.saved x) = penalties db := by
    intro x hx
    cases x with
    | ok db' => exact hx db' rfl
    | error failure => rfl
  cases e with
  | decide tenantId loanId decider action => exact hsaved fun db' h => decideLoan_penalties h
  | transition tenantId loanId seesLoan status now =>
    exact hsaved fun db' h => transitionLoan_penalties h
  | disburse tenantId loanId actorUserId now =>
    refine hsaved fun db' h => ?_
    obtain ⟨out, hout, hcommit⟩ := bind_eq_ok.mp h
    obtain ⟨-, rfl⟩ := Db.commit_eq_ok.mp hcommit
    exact beginDisbursement_penalties hout
  | answer tenantId loanId txnId sent => exact hsaved fun db' h => finishDisbursement_penalties h
  | result body now =>
    refine hsaved fun db' h => ?_
    simp only [processB2cResult] at h
    split at h
    · cases h
    obtain ⟨out, hout, hcommit⟩ := bind_eq_ok.mp h
    obtain ⟨-, rfl⟩ := Db.commit_eq_ok.mp hcommit
    exact applyB2cResult_penalties hout
  | timeout body =>
    refine hsaved fun db' h => ?_
    simp only [processB2cTimeout] at h
    split at h
    · cases h
    rename_i txnId txn hfound
    obtain ⟨-, rfl⟩ := Db.commit_eq_ok.mp h
    obtain hsame | ⟨-, f, hmarked, -⟩ := markB2cTimeout_cases db txnId txn
    · rw [hsame]
    · rw [hmarked]
      rfl
  | resolve tenantId txnId checker outcome receipt note now =>
    refine hsaved fun db' h => ?_
    obtain ⟨txn, said, reply, -, -, -, -, happlied⟩ := resolvePayoutRequest_eq_ok h
    exact applyB2cResult_penalties happlied
  | payment loanId p => exact receivePayment_penalties p
  | settings tenantId order early =>
    simp only [LifeEvent.apply, Upkeep.apply]
    split
    · rename_i db' h
      obtain ⟨configs, rfl⟩ := setPaymentSettings_db h
      rfl
    · rfl
  | overdueAlerts tenantId today => exact absurd rfl (he tenantId today)
  | defaulting tenantId today graceDays =>
    simp only [LifeEvent.apply, runDefaulting, penalties, List.map_map]
    refine List.map_congr_left fun l _ => ?_
    simp only [Function.comp, defaultLoan]
    split <;> rfl

end Penalties

/-- What may charge a loan: what happens in the shop, and a penalty accrued on its own. -/
inductive ChargeEvent
  | shop (e : ShopEvent)
  | accrue (loanId : ℕ)

namespace Shop

def charge (s : Shop) : ChargeEvent → Shop
  | .shop e => s.step e
  | .accrue loanId => { s with db := (Upkeep.penalty loanId).apply s.db }

/-- A penalty that the event charges on the loan fits. -/
def PenaltiesFit (loanId : ℕ) (s : Shop) : ChargeEvent → Prop
  | .accrue id => id = loanId → ∀ l ∈ s.db.loans[loanId]?, PenaltyFits s.db.products[l.productId]? l
  | .shop (.life (.overdueAlerts tenantId today)) => ∀ l ∈ s.db.loans[loanId]?,
      l.pastDue tenantId today = true → l.status = .active →
        PenaltyFits s.db.products[l.productId]? l
  | _ => True

instance (loanId : ℕ) (s : Shop) (e : ChargeEvent) : Decidable (s.PenaltiesFit loanId e) := by
  unfold PenaltiesFit
  split <;> infer_instance

/-- The charges on the loan do not exceed its principal. -/
def InDuplum (loanId : ℕ) (s : Shop) : Prop := ∀ l ∈ s.db.loans[loanId]?, l.WithinPrincipal

instance (loanId : ℕ) (s : Shop) : Decidable (s.InDuplum loanId) :=
  inferInstanceAs (Decidable (∀ l ∈ s.db.loans[loanId]?, l.WithinPrincipal))

end Shop

/-- After its activation no step of a loan changes its terms. -/
theorem Loan.Step.terms {l l' : Loan} (h : l.Step l') (hstage : 1 ≤ l.status.stage) :
    l'.principal = l.principal ∧ l'.interestTotal = l.interestTotal ∧
      l'.feesInBalance = l.feesInBalance := by
  cases h with
  | moves h => cases h <;> exact ⟨rfl, rfl, rfl⟩
  | activates product today h hactive =>
    rw [h] at hstage
    exact absurd hstage (by decide)
  | settles hopen h =>
    obtain ⟨balance, rebate, at_, -, rfl⟩ := h
    exact ⟨rfl, rfl, rfl⟩

section Charge

variable {s : Shop} {loanId : ℕ} {l : Loan}

/-- An event that is no overdue sweep leaves the charges on an activated loan as they are. -/
theorem Shop.step_charges {e : ShopEvent} (hl : s.db.loans[loanId]? = some l)
    (hstage : 1 ≤ l.status.stage)
    (he : ∀ tenantId today, e ≠ .life (.overdueAlerts tenantId today)) :
    ∃ l', (s.step e).db.loans[loanId]? = some l' ∧ 1 ≤ l'.status.stage ∧
      (l'.WithinPrincipal ↔ l.WithinPrincipal) := by
  by_cases hlife : ∃ life, e = .life life
  · obtain ⟨life, rfl⟩ := hlife
    obtain ⟨l', hl', hstep⟩ := life_step life hl
    obtain ⟨hprincipal, hinterest, hfees⟩ := hstep.terms hstage
    have hlist : penalties (life.apply s.db) = penalties s.db :=
      life_penalties fun tenantId today h => he tenantId today (h ▸ rfl)
    have hrow := congrArg (·[loanId]?) hlist
    simp only [penalties, List.getElem?_map, hl, hl', Option.map_some, Option.some.injEq] at hrow
    refine ⟨l', hl', hstage.trans hstep.before.stage, ?_⟩
    simp only [Loan.WithinPrincipal, Loan.charges, hprincipal, hinterest, hfees, hrow]
  · exact ⟨l, Shop.step_aside (fun life h => hlife ⟨life, h⟩) hl, hstage, Iff.rfl⟩

theorem accrueOverduePenalty_status (product : Option Product) (l : Loan) :
    (accrueOverduePenalty product l).1.status = l.status := by
  rw [accrueOverduePenalty_loan]

/-- The overdue sweep charges a loan that is past due and still active. -/
theorem overdueAlert_withinPrincipal {products : List Product} {tenantId : ℕ} {today : ℤ}
    (hstage : 1 ≤ l.status.stage) :
    1 ≤ (overdueAlert products tenantId today l).1.status.stage ∧
      (l.WithinPrincipal → ((overdueAlert products tenantId today l).1.WithinPrincipal ↔
        (l.pastDue tenantId today = true → l.status = .active →
          PenaltyFits products[l.productId]? l))) := by
  simp only [overdueAlert, Bool.and_eq_true, decide_eq_true_eq]
  split_ifs with hdue
  · refine ⟨?_, fun h => ?_⟩
    · rw [accrueOverduePenalty_status]
      exact (by decide : 1 ≤ LoanStatus.overdue.stage)
    · have hfits :=
        @penalty_withinPrincipal_iff products[l.productId]? { l with status := .overdue } h
      exact hfits.trans ⟨fun hfits _ _ => hfits, fun hfits => hfits hdue.1 hdue.2⟩
  · exact ⟨hstage, fun h => iff_of_true h fun hpast hactive => absurd ⟨hpast, hactive⟩ hdue⟩

/-- An event keeps the charges on an activated loan within the principal exactly when a penalty
it charges fits. -/
theorem Shop.charge_inDuplum_iff (e : ChargeEvent) (hl : s.db.loans[loanId]? = some l)
    (hstage : 1 ≤ l.status.stage) :
    ∃ l', (s.charge e).db.loans[loanId]? = some l' ∧ 1 ≤ l'.status.stage ∧
      (l.WithinPrincipal → (l'.WithinPrincipal ↔ s.PenaltiesFit loanId e)) := by
  cases e with
  | accrue id =>
    by_cases hid : id = loanId
    · subst hid
      refine ⟨(accrueOverduePenalty s.db.products[l.productId]? l).1,
        by simp [Shop.charge, Upkeep.apply, Db.updateLoan, hl], ?_, fun h => ?_⟩
      · rw [accrueOverduePenalty_status]
        exact hstage
      · rw [penalty_withinPrincipal_iff h]
        simp [Shop.PenaltiesFit, hl]
    · refine ⟨l, by simp [Shop.charge, Upkeep.apply, Db.updateLoan, hl, hid], hstage, ?_⟩
      exact fun h => iff_of_true h fun hsame => absurd hsame hid
  | shop e =>
    by_cases hsweep : ∃ tenantId today, e = .life (.overdueAlerts tenantId today)
    · obtain ⟨tenantId, today, rfl⟩ := hsweep
      obtain ⟨hafter, hfits⟩ := @overdueAlert_withinPrincipal l s.db.products tenantId today hstage
      refine ⟨(overdueAlert s.db.products tenantId today l).1, ?_, hafter,
        fun h => (hfits h).trans ?_⟩
      · simp [Shop.charge, Shop.step, LifeEvent.apply, runOverdueAlerts, hl]
      · simp [Shop.PenaltiesFit, hl]
    · have hother : ∀ tenantId today, e ≠ .life (.overdueAlerts tenantId today) :=
        fun tenantId today he => hsweep ⟨tenantId, today, he⟩
      obtain ⟨l', hl', hafter, hsame⟩ := Shop.step_charges hl hstage hother
      refine ⟨l', hl', hafter, fun h => iff_of_true (hsame.mpr h) ?_⟩
      unfold Shop.PenaltiesFit
      split
      · rename_i heq
        cases heq
      · rename_i tenantId today heq
        obtain rfl := ChargeEvent.shop.inj heq
        exact absurd rfl (hother tenantId today)
      · trivial

end Charge

/-- In every run from its activation on, the charges on a loan never exceed its principal exactly
when every penalty that is charged on it fits. -/
theorem in_duplum_iff {s : Shop} {loanId : ℕ} {l : Loan} (hl : s.db.loans[loanId]? = some l)
    (hactive : l.status = .active) (hnew : l.penaltiesCharged = 0)
    (hcap : l.interestTotal + l.feesInBalance ≤ l.principal) (events : List ChargeEvent) :
    Always Shop.charge (Shop.InDuplum loanId) s events ↔
      AllSteps Shop.charge (Shop.PenaltiesFit loanId) s events := by
  have hstart : s.InDuplum loanId := by
    intro found hfound
    obtain rfl := Option.some.inj (hl.symm.trans hfound)
    simpa [Loan.WithinPrincipal, Loan.charges, hnew] using hcap
  have haux : ∃ l, s.db.loans[loanId]? = some l ∧ 1 ≤ l.status.stage :=
    ⟨l, hl, by rw [hactive]; exact le_refl 1⟩
  refine @always_iff_allSteps_of _ _ Shop.charge (Shop.PenaltiesFit loanId)
    (fun s => ∃ l, s.db.loans[loanId]? = some l ∧ 1 ≤ l.status.stage) (Shop.InDuplum loanId)
    (fun s e h => ?_) (fun s e h hs => ?_) s events haux hstart
  · obtain ⟨l, hl, hstage⟩ := h
    obtain ⟨l', hl', hafter, -⟩ := Shop.charge_inDuplum_iff e hl hstage
    exact ⟨l', hl', hafter⟩
  · obtain ⟨l, hl, hstage⟩ := h
    obtain ⟨l', hl', -, hiff⟩ := Shop.charge_inDuplum_iff e hl hstage
    rw [← hiff (hs l hl)]
    exact ⟨fun hafter => hafter l' hl', fun hafter found hfound =>
      Option.some.inj (hl'.symm.trans hfound) ▸ hafter⟩

/-- Ten thousand shillings at sixty per cent, with three thousand of fees and duty in the balance,
on a product with this penalty. -/
def dearShop (penaltyRate : ℚ) : Shop :=
  ⟨{ fourWeekBook with
      products := [⟨60, 4, "weeks", penaltyRate, ⟨25, 0, some "add_to_balance"⟩⟩]
      loans := [{ fourWeekLoan with
        interestRate := 60, feesInBalance := 300000, outstandingBalance := 1900000 }] },
          openCatalogue⟩

theorem in_duplum_iff_tenth : Always Shop.charge (Shop.InDuplum 0) (dearShop 10)
    [.shop (.life (.overdueAlerts 1 30)), .shop (.life (.overdueAlerts 1 31))] :=
  (in_duplum_iff (s := dearShop 10) rfl rfl rfl (by decide +kernel) _).mpr (by decide +kernel)

/-- A penalty of a fifth is within what the interest leaves, but with the fees the loan is charged
eleven thousand. -/
theorem in_duplum_broken :
    (∃ l ∈ (dearShop 20).db.loans[0]?, l.status = .active ∧ l.penaltiesCharged = 0 ∧
      l.interestTotal + l.feesInBalance ≤ l.principal) ∧
    ¬ Always Shop.charge (Shop.InDuplum 0) (dearShop 20) [.shop (.life (.overdueAlerts 1 30))] := by
  refine ⟨⟨_, rfl, rfl, rfl, by decide +kernel⟩, fun h => ?_⟩
  have hafter : ¬
      (run Shop.charge (dearShop 20) [.shop (.life (.overdueAlerts 1 30))]).InDuplum 0 := by
    decide +kernel
  exact hafter h.last

end FinylDcp
