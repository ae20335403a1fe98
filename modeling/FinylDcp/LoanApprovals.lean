import FinylDcp.AccessControl
import FinylDcp.LoanAuthority
import FinylDcp.LoanStages

/-!
# Loans are approved with authority

Over any run of applications, decisions, reassignments, access management and everything that
happens to loans and money: what got past its application was approved in one decision, by a user
who held the permission and approved loans at the tenant, saw the loan and had the limit for it.
-/
namespace FinylDcp
open Db Runs Tables

/-- Loans that nobody has decided on stay as they are. -/
def Spares (db db' : Db) : Prop :=
  ∀ (i : ℕ) (l : Loan), db.loans[i]? = some l → l.status.undecided = true →
    db'.loans[i]? = some l

section Spares

variable {db db' : Db} {tenantId loanId txnId : ℕ}

theorem Spares.of_loans (h : db'.loans = db.loans) : Spares db db' := fun _ _ hl _ => h ▸ hl

theorem Spares.update {f : Loan → Loan} (hloans : db'.loans = db.loans.modify loanId f)
    (h : ∀ l ∈ db.loans[loanId]?, l.status.undecided = true → f l = l) : Spares db db' := by
  intro i l hl hundecided
  rw [hloans, List.getElem?_modify, hl]
  split_ifs with hi
  · subst hi
    exact congrArg some (h l hl hundecided)
  · rfl

theorem Spares.replace {loan loan' : Loan} (hrow : db.loans[loanId]? = some loan)
    (hdecided : loan.status.undecided = false) (hloans : db'.loans = db.loans.set loanId loan') :
    Spares db db' := by
  intro i l hl hundecided
  have hother : loanId ≠ i := by
    rintro rfl
    obtain rfl := Option.some.inj (hrow.symm.trans hl)
    simp [hdecided] at hundecided
  rw [hloans, List.getElem?_set_ne hother, hl]

theorem Spares.mapped {f : Loan → Loan} (hloans : db'.loans = db.loans.map f)
    (h : ∀ l : Loan, l.status.undecided = true → f l = l) : Spares db db' := by
  intro i l hl hundecided
  rw [hloans, List.getElem?_map, hl, Option.map_some, h l hundecided]

theorem Spares.saved {x : Except Failure Db} (h : ∀ db', x = .ok db' → Spares db db') :
    Spares db (db.saved x) := by
  cases x with
  | ok db' => exact h db' rfl
  | error failure => exact .of_loans rfl

theorem beginDisbursement_spares {actorUserId : ℕ} {now : ℤ} {out : Db × ℕ}
    (h : beginDisbursement db tenantId loanId actorUserId now = .ok out) : Spares db out.1 := by
  simp only [beginDisbursement] at h
  split at h
  · cases h
  split at h
  · cases h
  rename_i loan hloan
  split at h
  · cases h
  rename_i happroved
  simp only [Bool.or_eq_true, decide_eq_true_eq, not_or, not_not] at happroved
  split at h
  · split at h
    · cases h
    · cases h
      refine .update rfl fun l hl hundecided => ?_
      obtain rfl := Option.some.inj (hloan.symm.trans hl)
      rw [happroved.2] at hundecided
      cases hundecided
  · cases h

theorem finishDisbursement_spares {sent : SendResult}
    (h : (finishDisbursement db tenantId loanId txnId sent).1 = .ok db') : Spares db db' := by
  cases sent with
  | refused why =>
    obtain ⟨-, rfl⟩ := Db.commit_eq_ok.mp h
    refine .update rfl fun l _ hundecided => ?_
    split
    · rename_i hwaits
      rw [hwaits.2] at hundecided
      cases hundecided
    · rfl
  | uncertain why =>
    obtain ⟨-, rfl⟩ := Db.commit_eq_ok.mp h
    exact .of_loans rfl
  | accepted ack =>
    obtain ⟨-, rfl⟩ := Db.commit_eq_ok.mp h
    exact .of_loans rfl

theorem settlePayout_spares {txn : PaymentTransaction} {resultCode : String}
    {receipt : Option String} {now : ℤ} {out : Db × ResultReply}
    (h : settlePayout db tenantId txnId txn (loanOf db tenantId txn) resultCode receipt now =
      .ok out) : Spares db out.1 := by
  simp only [settlePayout] at h
  split at h
  · cases h
    exact .of_loans rfl
  split at h
  · split at h
    · rename_i loanId loan hheld
      obtain ⟨-, hrow, -⟩ := loanOf_eq_some hheld
      split at h
      · rename_i hprocessing
        split at h
        · rename_i product hproduct
          cases h
          have hdecided : loan.status.undecided = false := by rw [hprocessing]; rfl
          exact .replace hrow hdecided
            (congrArg Db.loans (flushLoan_loaded (activate loan product (now / 86400)) hrow))
        · cases h
      · cases h
        exact .of_loans rfl
    · cases h
      exact .of_loans rfl
  · split at h
    · rename_i loanId loan hheld
      obtain ⟨-, hrow, -⟩ := loanOf_eq_some hheld
      split at h
      · rename_i hprocessing
        cases h
        refine .update rfl fun l hl hundecided => ?_
        obtain rfl := Option.some.inj (hrow.symm.trans hl)
        rw [hprocessing] at hundecided
        cases hundecided
      · cases h
        exact .of_loans rfl
    · cases h
      exact .of_loans rfl

theorem applyB2cResult_sparesUndecided {txn : PaymentTransaction} {resultCode : String}
    {receipt : Option String} {now : ℤ} {out : Db × ResultReply}
    (h : applyB2cResult db tenantId txnId txn resultCode receipt now = .ok out) :
    Spares db out.1 := by
  simp only [applyB2cResult] at h
  split at h
  · cases h
    exact .of_loans applyRefundResult_aside.1
  · exact settlePayout_spares h

theorem receivePayment_spares (p : Payment) : Spares db (receivePayment db loanId p) := by
  cases hrow : db.loans[loanId]? with
  | none => exact .of_loans (by simp only [receivePayment, hrow])
  | some loan =>
    obtain ⟨-, hdb⟩ | ⟨-, -, hdb⟩ | ⟨hacc, hopen, -⟩ := receivePayment_cases (p := p) hrow
    · exact .of_loans (by rw [hdb])
    · exact .of_loans (by rw [hdb]; rfl)
    · have hdecided : loan.status.undecided = false := by
        cases hstatus : loan.status <;> simp [hstatus, LoanStatus.collectible] at hopen <;> rfl
      exact .replace hrow hdecided (by rw [receivePayment_applied hrow hacc hopen])

theorem overdueAlert_spares (products : List Product) (tenantId : ℕ) (today : ℤ) {loan : Loan}
    (h : loan.status.undecided = true) :
    (overdueAlert products tenantId today loan).1 = loan := by
  simp only [overdueAlert]
  split
  · rename_i hdue
    simp only [Bool.and_eq_true, decide_eq_true_eq] at hdue
    rw [hdue.2] at h
    cases h
  · rfl

theorem defaultLoan_spares (cutoff : ℤ) {loan : Loan} (h : loan.status.undecided = true) :
    defaultLoan tenantId cutoff loan = loan := by
  simp only [defaultLoan]
  split
  · rename_i hdue
    simp only [Loan.pastDue, Bool.and_eq_true, Bool.or_eq_true, decide_eq_true_eq] at hdue
    obtain hactive | hoverdue := hdue.1.1.2
    · rw [hactive] at h
      cases h
    · rw [hoverdue] at h
      cases h
  · rfl

/-- A transition by hand takes no application past its decision. -/
theorem transition_status {seesLoan : Bool} {status : String} {now : ℤ} {i : ℕ} {l l' : Loan}
    (h : transitionLoan db tenantId loanId seesLoan status now = .ok db')
    (hl : db.loans[i]? = some l) (hundecided : l.status.undecided = true)
    (hl' : db'.loans[i]? = some l') :
    l' = l ∨ l' = { l with status := .underwriting } ∨ l' = { l with status := .rejected } := by
  simp only [transitionLoan] at h
  split at h
  · cases h
  rename_i loan hloan
  have hrow := (loanRow_eq_some hloan).1
  split at h
  · cases h
  split at h
  · cases h
  · cases h
  · cases h
  · rename_i hnext
    have hmem := List.mem_of_find?_eq_some hnext
    split at h
    · cases h
    have hspares : Spares db db' := by
      obtain ⟨-, rfl⟩ := Db.commit_eq_ok.mp h
      refine .update rfl fun m hm hundecided' => ?_
      obtain rfl := Option.some.inj (hrow.symm.trans hm)
      cases hstatus : loan.status <;>
        simp [hstatus, LoanStatus.validTransitions, LoanStatus.undecided] at hmem hundecided'
    exact .inl (Option.some.inj (hl'.symm.trans (hspares i l hl hundecided)))
  · rename_i next happroved hactive hpaid hnext
    have happroved : next ≠ .approved := happroved
    have hmem := List.mem_of_find?_eq_some hnext
    obtain ⟨-, rfl⟩ := Db.commit_eq_ok.mp h
    rw [Db.updateLoan, List.getElem?_modify, hl] at hl'
    split_ifs at hl' with hi
    · subst hi
      obtain rfl := Option.some.inj (hrow.symm.trans hl)
      obtain rfl := Option.some.inj hl'
      cases hstatus : loan.status with
      | pending =>
        obtain rfl | rfl : next = .underwriting ∨ next = .rejected := by
          simpa [hstatus, LoanStatus.validTransitions] using hmem
        · exact .inr (.inl rfl)
        · exact .inr (.inr rfl)
      | underwriting =>
        obtain rfl : next = .rejected := by
          simpa [hstatus, LoanStatus.validTransitions, happroved] using hmem
        exact .inr (.inr rfl)
      | _ => simp [hstatus, LoanStatus.undecided] at hundecided
    · exact .inl (Option.some.inj hl').symm

end Spares

/-- The loan got past its application. -/
def LoanStatus.passed : LoanStatus → Bool
  | pending | underwriting | rejected => false
  | _ => true

theorem LoanStatus.passed_of_undecided {status : LoanStatus} (h : status.undecided = true) :
    status.passed = false := by
  cases status <;> simp [undecided] at h <;> rfl

/-- What no step of a loan changes. -/
theorem Loan.Step.principal_tenantId {l l' : Loan} (h : l.Step l') :
    l'.principal = l.principal ∧ l'.tenantId = l.tenantId := by
  cases h with
  | moves hmoves => cases hmoves <;> exact ⟨rfl, rfl⟩
  | activates product today hstatus hactive =>
    subst hactive
    exact ⟨rfl, rfl⟩
  | settles hopen hsettles =>
    obtain ⟨balance, rebate, at_, -, rfl⟩ := hsettles
    exact ⟨rfl, rfl⟩

/-- Everything but a decision leaves an application undecided, or rejects it. -/
theorem life_undecided {db : Db} {e : LifeEvent} (he : e.decides = false) {i : ℕ} {l l' : Loan}
    (hl : db.loans[i]? = some l) (hundecided : l.status.undecided = true)
    (hl' : (e.apply db).loans[i]? = some l') : l'.status.passed = false := by
  have hspared : Spares db (e.apply db) → l'.status.passed = false := fun hspares => by
    obtain rfl := Option.some.inj (hl'.symm.trans (hspares i l hl hundecided))
    exact LoanStatus.passed_of_undecided hundecided
  cases e with
  | decide tenantId loanId decider action => cases he
  | transition tenantId loanId seesLoan status now =>
    simp only [LifeEvent.apply] at hl'
    cases h : transitionLoan db tenantId loanId seesLoan status now with
    | error failure =>
      refine hspared (.of_loans ?_)
      simp only [LifeEvent.apply, h, Db.saved]
    | ok db' =>
      rw [h] at hl'
      obtain rfl | rfl | rfl := transition_status h hl hundecided hl'
      · exact LoanStatus.passed_of_undecided hundecided
      · rfl
      · rfl
  | disburse tenantId loanId actorUserId now =>
    refine hspared (.saved fun db' h => ?_)
    obtain ⟨out, hout, hcommit⟩ := bind_eq_ok.mp h
    obtain ⟨-, rfl⟩ := Db.commit_eq_ok.mp hcommit
    exact beginDisbursement_spares hout
  | answer tenantId loanId txnId sent =>
    exact hspared (.saved fun db' h => finishDisbursement_spares h)
  | result body now =>
    refine hspared (.saved fun db' h => ?_)
    simp only [processB2cResult] at h
    split at h
    · cases h
    obtain ⟨out, hout, hcommit⟩ := bind_eq_ok.mp h
    obtain ⟨-, rfl⟩ := Db.commit_eq_ok.mp hcommit
    exact applyB2cResult_sparesUndecided hout
  | timeout body =>
    refine hspared (.saved fun db' h => ?_)
    simp only [processB2cTimeout] at h
    split at h
    · cases h
    rename_i txnId txn hfound
    obtain ⟨-, rfl⟩ := Db.commit_eq_ok.mp h
    obtain hsame | ⟨-, f, hmarked, -⟩ := markB2cTimeout_cases db txnId txn
    · exact .of_loans (by rw [hsame])
    · exact .of_loans (by rw [hmarked])
  | resolve tenantId txnId checker outcome receipt note now =>
    refine hspared (.saved fun db' h => ?_)
    obtain ⟨txn, said, reply, -, -, -, -, happlied⟩ := resolvePayoutRequest_eq_ok h
    exact applyB2cResult_sparesUndecided happlied
  | payment loanId p => exact hspared (receivePayment_spares p)
  | settings tenantId order early =>
    refine hspared (.of_loans ?_)
    simp only [LifeEvent.apply, Upkeep.apply]
    split
    · rename_i db' h
      obtain ⟨configs, rfl⟩ := setPaymentSettings_db h
      rfl
    · rfl
  | overdueAlerts tenantId today =>
    refine hspared (.mapped ?_ fun l h => overdueAlert_spares db.products tenantId today h)
    simp only [LifeEvent.apply, runOverdueAlerts, List.map_map]
    rfl
  | defaulting tenantId today graceDays =>
    exact hspared (.mapped rfl fun l h => defaultLoan_spares (today - graceDays) h)

theorem life_length (db : Db) (e : LifeEvent) : (e.apply db).loans.length = db.loans.length := by
  have heffect := life_effect db e
  generalize e.settled db = settled at heffect
  cases heffect with
  | moves hloans hborrowers hlogs => exact hloans.length_eq.symm
  | activates loanId loan product today hrow hstatus hproduct hproducts hloans hborrowers hlogs =>
    rw [hloans, List.length_set]
  | settles loanId loan paid now hrow hopen hpaid hloans hborrowers hlogs =>
    rw [hloans, List.length_set]

/-- Nothing but a decision takes a loan past its application. -/
theorem life_passed {db : Db} {e : LifeEvent} (he : e.decides = false) {i : ℕ} {l' : Loan}
    (hl' : (e.apply db).loans[i]? = some l') (hpassed : l'.status.passed = true) :
    ∃ l, db.loans[i]? = some l ∧ l.status.passed = true ∧ l'.principal = l.principal ∧
      l'.tenantId = l.tenantId := by
  cases hl : db.loans[i]? with
  | none =>
    have hlength := List.getElem?_eq_none_iff.mp hl
    rw [← life_length db e, ← List.getElem?_eq_none_iff, hl'] at hlength
    cases hlength
  | some l =>
    obtain ⟨l'', hl'', hstep⟩ := life_step e hl
    obtain rfl := Option.some.inj (hl'.symm.trans hl'')
    refine ⟨l, rfl, ?_, hstep.principal_tenantId⟩
    by_contra hnot
    have hbefore := hstep.before
    cases hstatus : l.status with
    | pending | underwriting =>
      have hundecided : l.status.undecided = true := by rw [hstatus]; rfl
      simp [life_undecided he hl hundecided hl'] at hpassed
    | rejected =>
      have hsame := hbefore.final (.inr hstatus)
      simp [hsame, hstatus, LoanStatus.passed] at hpassed
    | _ => simp [hstatus, LoanStatus.passed] at hnot

namespace CreditDesk

/-- What a decision of a user on a loan rests on: the permission of the role at the user's own
tenant, that the role approves loans at the tenant of the request, the data scope, and the
limit. -/
structure Authorised (desk : CreditDesk) (caller : Caller) (loanId : ℕ) (loan : Loan)
    (user : StaffedUser) (tenantId : ℕ) : Prop where
  signedIn : desk.access.users[caller.actorId]? = some user
  tenant : getTenantId (user.actor caller.actorId) caller.xTenantId = .ok tenantId
  permitted : user.account.role = "super_admin" ∨ "loans.approve" ∈ effectivePermissions
    desk.access.overrides.rows (user.account.tenantId.getD 0) user.account.role
  approver : approverEnabled desk.access.settings.rows tenantId "loan" user.account.role = true
  row : loanRow desk.db tenantId loanId = some loan
  undecided : loan.status.undecided = true
  sees : ∀ placement ∈ desk.placements[loanId]?, (desk.scope user).canSeeLoan placement = true
  limit : ∀ most ∈ loanApprovalLimit desk.access.thresholds.rows tenantId user,
    loan.principal ≤ most

/-- Who a loan was decided by. -/
def approvedBy (desk : CreditDesk) (loanId : ℕ) : Option ℕ :=
  (desk.placements[loanId]?).bind (·.approvedByUserId)

/-- Each loan has its place. -/
def Placed (desk : CreditDesk) : Prop := desk.placements.length = desk.db.loans.length

variable {desk : CreditDesk}

theorem enter_eq_ok {caller : Caller} {modules : List (String × Bool)} {user : StaffedUser}
    {tenantId : ℕ} (h : desk.enter caller modules = .ok (user, tenantId)) :
    desk.access.users[caller.actorId]? = some user ∧
      getTenantId (user.actor caller.actorId) caller.xTenantId = .ok tenantId := by
  unfold enter at h
  split at h
  · cases h
  rename_i found hfound
  obtain ⟨tenant, htenant, h⟩ := bind_eq_ok.mp h
  obtain ⟨-, -, h⟩ := bind_eq_ok.mp h
  obtain ⟨rfl, rfl⟩ := Prod.mk.inj (Except.ok.inj h)
  exact ⟨hfound, htenant⟩

theorem authorise_eq_ok {caller : Caller} {modules : List (String × Bool)} {key : String}
    {user : StaffedUser} {tenantId : ℕ}
    (h : desk.authorise caller modules key = .ok (user, tenantId)) :
    desk.access.users[caller.actorId]? = some user ∧
      getTenantId (user.actor caller.actorId) caller.xTenantId = .ok tenantId ∧
      (user.account.role = "super_admin" ∨ key ∈ effectivePermissions desk.access.overrides.rows
        (user.account.tenantId.getD 0) user.account.role) := by
  obtain ⟨⟨found, tenant⟩, hentered, h⟩ := bind_eq_ok.mp h
  obtain ⟨_, hpermitted, h⟩ := bind_eq_ok.mp h
  obtain ⟨rfl, rfl⟩ := Prod.mk.inj (Except.ok.inj h)
  refine ⟨(enter_eq_ok hentered).1, (enter_eq_ok hentered).2, ?_⟩
  unfold requireAny at hpermitted
  split at hpermitted
  · rename_i hadmin
    exact .inl hadmin
  · simpa [StaffedUser.actor] using Or.inr (refuseIf_eq_ok.mp hpermitted)

theorem loanDecision_approved {loan : Loan} {decider : LoanDecider} {action : String}
    (h : loanDecision loan decider action = .ok (some .approved)) :
    decider.seesLoan = true ∧ decider.approver = true ∧
      (∀ most ∈ decider.limit, loan.principal ≤ most) ∧ action ≠ "reject" ∧
      action ≠ "escalate" := by
  simp only [loanDecision] at h
  split_ifs at h with hscope hdecided happrover hreject hescalate
  · cases h
  · cases h
  · split at h
    · cases h
    · rename_i hnone
      refine ⟨by simpa using hscope, by simpa using happrover, fun most hmost => ?_, hreject,
        hescalate⟩
      rw [Option.filter_eq_none_iff] at hnone
      simpa using hnone most hmost

theorem loanDecision_none {loan : Loan} {decider : LoanDecider} {action : String}
    (h : loanDecision loan decider action = .ok none) : action = "escalate" := by
  simp only [loanDecision] at h
  split_ifs at h with hscope hdecided happrover hreject hescalate
  · cases h
  · exact hescalate
  · split at h <;> cases h

/-- What an event leaves of the loans that got past their application, and which it takes there:
of a loan that it takes there it is the decision, with authority, and the loan names who took it. -/
structure Passes (desk desk' : CreditDesk) (event : CreditEvent) : Prop where
  placed : desk'.Placed
  passes : ∀ (i : ℕ) (l' : Loan), desk'.db.loans[i]? = some l' → l'.status.passed = true →
    (∃ l, desk.db.loans[i]? = some l ∧ l.status.passed = true ∧ l'.principal = l.principal ∧
      l'.tenantId = l.tenantId ∧ desk'.approvedBy i = desk.approvedBy i) ∨
    ∃ caller action user tenantId loan, event = .decide caller i action ∧
      desk.Authorised caller i loan user tenantId ∧ l' = { loan with status := .approved } ∧
      desk'.approvedBy i = some caller.actorId

/-- An event that touches neither loans nor who decided on them. -/
theorem Passes.aside {desk' : CreditDesk} {event : CreditEvent} (hplaced : desk'.Placed)
    (hloans : desk'.db.loans = desk.db.loans)
    (happroved : ∀ i, desk'.approvedBy i = desk.approvedBy i) : desk.Passes desk' event where
  placed := hplaced
  passes i l' hl' hpassed := .inl ⟨l', hloans ▸ hl', hpassed, rfl, rfl, happroved i⟩

theorem approvedBy_set {desk' : CreditDesk} {loanId : ℕ} {placement : LoanPlacement}
    (h : desk'.placements = desk.placements.set loanId placement) (i : ℕ) :
    desk'.approvedBy i = if loanId = i ∧ i < desk.placements.length then
      placement.approvedByUserId else desk.approvedBy i := by
  unfold approvedBy
  rw [h, List.getElem?_set]
  by_cases hi : loanId = i
  · subst hi
    by_cases hlt : loanId < desk.placements.length
    · simp [hlt]
    · simp [hlt]
  · simp [hi]

/-- A placement written back with the same decider changes nobody's decider. -/
theorem approvedBy_set_same {desk' : CreditDesk} {loanId : ℕ} {placement : LoanPlacement}
    (h : desk'.placements = desk.placements.set loanId placement)
    (hsame : placement.approvedByUserId =
      ((desk.placements[loanId]?).getD ⟨none, none, none, none⟩).approvedByUserId) (i : ℕ) :
    desk'.approvedBy i = desk.approvedBy i := by
  rw [approvedBy_set h]
  split
  · rename_i hi
    obtain ⟨rfl, hlt⟩ := hi
    rw [hsame, approvedBy, List.getElem?_eq_getElem hlt]
    rfl
  · rfl

theorem decideAs_passes (hplaced : desk.Placed) (caller : Caller) (loanId : ℕ) (action : String) :
    desk.Passes (desk.decideAs caller loanId action).1 (.decide caller loanId action) := by
  unfold decideAs
  split
  · exact .aside hplaced rfl fun _ => rfl
  rename_i user tenantId hlogged
  obtain ⟨hsigned, htenant, hpermitted⟩ := authorise_eq_ok hlogged
  dsimp only
  generalize hplacement : (desk.placements[loanId]?).getD ⟨none, none, none, none⟩ = placement
  have hset : ∀ p : LoanPlacement, (desk.placements.set loanId p).length = desk.db.loans.length :=
    fun p => (List.length_set ..).trans hplaced
  split
  · rename_i db hdecide
    rw [decideLoan_eq] at hdecide
    split at hdecide
    · cases hdecide
    rename_i loan hloan
    obtain ⟨hrow, -⟩ := loanRow_eq_some hloan
    obtain ⟨decision, hdecision, hdecide⟩ := bind_eq_ok.mp hdecide
    cases decision with
    | none =>
      cases hdecide
      obtain rfl := loanDecision_none hdecision
      exact .aside (hset _) rfl (approvedBy_set_same rfl (by rw [hplacement]; rfl))
    | some status =>
      obtain ⟨-, rfl⟩ := Db.commit_eq_ok.mp hdecide
      obtain ⟨hundecided, hstatus⟩ := loanDecision_eq_ok hdecision
      refine ⟨(hset _).trans (List.length_modify ..).symm, fun i l' hl' hpassed => ?_⟩
      rw [Db.updateLoan, List.getElem?_modify] at hl'
      split_ifs at hl' with hi
      · subst hi
        rw [hrow] at hl'
        obtain rfl := Option.some.inj hl'
        obtain rfl | rfl := hstatus
        · obtain ⟨hsees, happrover, hlimit, hreject, hescalate⟩ := loanDecision_approved hdecision
          have hlt : loanId < desk.placements.length :=
            hplaced ▸ (List.getElem?_eq_some_iff.mp hrow).1
          refine .inr ⟨caller, action, user, tenantId, loan, rfl, ?_, rfl, ?_⟩
          · refine ⟨hsigned, htenant, hpermitted, happrover, hloan, hundecided, ?_, hlimit⟩
            intro p hp
            obtain rfl : p = placement := by rw [← hplacement, hp]; rfl
            exact hsees
          · rw [approvedBy_set rfl, if_pos ⟨rfl, hlt⟩]
            simp [decidedPlacement, hreject, hescalate]
        · cases hpassed
      · refine .inl ⟨l', ?_, hpassed, rfl, rfl, ?_⟩
        · simpa using hl'
        · rw [approvedBy_set rfl, if_neg fun h => hi h.1]
  · exact .aside (hset _) rfl (approvedBy_set_same rfl (by rw [hplacement]))
  · exact .aside hplaced rfl fun _ => rfl

theorem applyAs_passes {desk' : CreditDesk} (hplaced : desk.Placed) {caller : Caller}
    {lendingEnabled : Bool} {body : LoanApplication} {requestedStaffId : Option ℕ} {year : ℤ}
    (h : desk.applyAs caller lendingEnabled body requestedStaffId year = .ok desk')
    (event : CreditEvent) : desk.Passes desk' event := by
  obtain ⟨⟨user, tenantId⟩, -, h⟩ := bind_eq_ok.mp h
  obtain ⟨⟨db, id⟩, happlied, h⟩ := bind_eq_ok.mp h
  obtain rfl := Except.ok.inj h
  obtain ⟨borrower, product, -, -, -, -, hdb⟩ := applyForLoan_eq_ok happlied
  obtain rfl : db = _ := hdb
  refine ⟨by simp [Placed, hplaced.symm], fun i l' hl' hpassed => ?_⟩
  dsimp only at hl'
  obtain hlt | hle := Nat.lt_or_ge i desk.db.loans.length
  · rw [List.getElem?_append_left hlt] at hl'
    refine .inl ⟨l', hl', hpassed, rfl, rfl, ?_⟩
    unfold approvedBy
    rw [List.getElem?_append_left (hplaced ▸ hlt)]
  · rw [List.getElem?_append_right hle] at hl'
    obtain rfl := List.mem_singleton.mp (List.mem_of_getElem? hl')
    cases hpassed

theorem reassignAs_passes {desk' : CreditDesk} (hplaced : desk.Placed) {caller : Caller}
    {lendingEnabled : Bool} {loanId staffId : ℕ}
    (h : desk.reassignAs caller lendingEnabled loanId staffId = .ok desk') (event : CreditEvent) :
    desk.Passes desk' event := by
  obtain ⟨⟨user, tenantId⟩, -, h⟩ := bind_eq_ok.mp h
  dsimp only at h
  split at h
  · rename_i loan placement hloan hplacement
    obtain ⟨-, -, h⟩ := bind_eq_ok.mp h
    obtain ⟨-, -, h⟩ := bind_eq_ok.mp h
    obtain rfl := Except.ok.inj h
    refine .aside ((List.length_set ..).trans hplaced) rfl (approvedBy_set_same rfl ?_)
    rw [hplacement]
    rfl
  · cases h

/-- What any event does to the loans that got past their application. -/
theorem step_passes (hplaced : desk.Placed) (event : CreditEvent) :
    desk.Passes (desk.step event) event := by
  cases event with
  | access call => exact .aside hplaced rfl fun _ => rfl
  | apply caller lendingEnabled body requestedStaffId year =>
    simp only [step]
    cases h : desk.applyAs caller lendingEnabled body requestedStaffId year with
    | ok desk' => exact applyAs_passes hplaced h _
    | error failure => exact .aside hplaced rfl fun _ => rfl
  | reassign caller lendingEnabled loanId staffId =>
    simp only [step]
    cases h : desk.reassignAs caller lendingEnabled loanId staffId with
    | ok desk' => exact reassignAs_passes hplaced h _
    | error failure => exact .aside hplaced rfl fun _ => rfl
  | decide caller loanId action => exact decideAs_passes hplaced caller loanId action
  | life e =>
    simp only [step]
    cases he : e.decides with
    | true => exact .aside hplaced rfl fun _ => rfl
    | false =>
      refine ⟨hplaced.trans (life_length desk.db e).symm, fun i l' hl' hpassed => .inl ?_⟩
      obtain ⟨l, hl, hpassed', hprincipal, htenant⟩ := life_passed he hl' hpassed
      exact ⟨l, hl, hpassed', hprincipal, htenant, rfl⟩

end CreditDesk

/-- The decision of a run that took a loan past its application, which it still names. -/
def CreditDesk.ApprovedIn (desk : CreditDesk) (events : List CreditEvent) (i : ℕ) (l : Loan) :
    Prop :=
  ∃ early caller action later user tenantId loan,
    events = early ++ .decide caller i action :: later ∧
    (run CreditDesk.step desk early).Authorised caller i loan user tenantId ∧
    l.principal = loan.principal ∧ l.tenantId = tenantId ∧
    (run CreditDesk.step desk events).approvedBy i = some caller.actorId

/-- Over any run of applications, reassignments, decisions, access management, and everything
else that happens to loans and money: each loan that is past its application, be it approved, paid
out or repaid, was so at the start or was approved in one decision of the run, on the same
principal, by a user who then held the permission, whose role approved loans at the tenant, who
saw the loan and whose limit it was within; and it names that user still. -/
theorem loans_approved_with_authority (desk : CreditDesk) (hplaced : desk.Placed)
    (events : List CreditEvent) (i : ℕ) (l : Loan)
    (hl : (run CreditDesk.step desk events).db.loans[i]? = some l)
    (hpassed : l.status.passed = true) :
    (∃ l₀, desk.db.loans[i]? = some l₀ ∧ l₀.status.passed = true ∧ l.principal = l₀.principal ∧
      (run CreditDesk.step desk events).approvedBy i = desk.approvedBy i) ∨
    desk.ApprovedIn events i l := by
  induction events using List.reverseRecOn generalizing l with
  | nil => exact .inl ⟨l, hl, hpassed, rfl, rfl⟩
  | append_singleton events event ih =>
    have hbefore : (run CreditDesk.step desk events).Placed :=
      @invariant_run_of_step _ _ CreditDesk.step CreditDesk.Placed
        (fun _ event h => (CreditDesk.step_passes h event).placed) _ events hplaced
    unfold CreditDesk.ApprovedIn
    rw [run_concat] at hl ⊢
    obtain ⟨l₁, hl₁, hpassed₁, hprincipal, htenant, hby⟩ |
      ⟨caller, action, user, tenantId, loan, rfl, hauthorised, rfl, hby⟩ :=
      (CreditDesk.step_passes hbefore event).passes i l hl hpassed
    · obtain ⟨l₀, hl₀, hpassed₀, hsame, hby₀⟩ |
        ⟨early, caller, action, later, user, tenantId, loan, rfl, hauthorised, hsame, howned,
          hby₀⟩ := ih l₁ hl₁ hpassed₁
      · exact .inl ⟨l₀, hl₀, hpassed₀, hprincipal.trans hsame, hby.trans hby₀⟩
      · exact .inr ⟨early, caller, action, later ++ [event], user, tenantId, loan, by simp,
          hauthorised, hprincipal.trans hsame, htenant.trans howned, hby.trans hby₀⟩
    · exact .inr ⟨events, caller, action, [], user, tenantId, loan, rfl, hauthorised, rfl,
        (loanRow_eq_some hauthorised.row).2, hby⟩

/-- An application for 10,000.00. -/
def waitingApplication : Loan :=
  { fourWeekLoan with tenantId := 1, status := .pending, disbursementDate := none, dueDate := none }

/-- A branch with its manager, who may approve up to 50,000.00, and one application. -/
def branchDesk : CreditDesk where
  access :=
    { tenants := [1]
      users := [⟨⟨"manager@dcp.example", "", "branch_manager", some 1, true, false, false, 0,
        none, 0⟩, "Branch Manager", none, some 0, none⟩]
      customRoles := ∅
      overrides := ∅
      settings := ∅
      thresholds := (∅ : KeyTable ApprovalThreshold.key).write
        ⟨0, 1, "role", "branch_manager", "loan_approval", 5000000⟩
      nextThreshold := 1
      regions := [⟨1, "Rift"⟩]
      branches := [⟨1, "Eldoret", 0⟩] }
  db := { fourWeekBook with loans := [waitingApplication] }
  catalogue := ⟨[], []⟩
  placements := [⟨none, some 0, none, none⟩]
  clients := []
  staff := []

theorem branchDesk_approved : branchDesk.ApprovedIn [.decide ⟨0, none⟩ 0 "approve"] 0
    { waitingApplication with status := .approved } := by
  obtain ⟨l₀, hl₀, hpassed, -⟩ | happroved := loans_approved_with_authority branchDesk rfl
    [.decide ⟨0, none⟩ 0 "approve"] 0 { waitingApplication with status := .approved } rfl rfl
  · obtain rfl := Option.some.inj hl₀
    cases hpassed
  · exact happroved

end FinylDcp
