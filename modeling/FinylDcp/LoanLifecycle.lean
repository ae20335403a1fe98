import FinylDcp.LoanDecisionRace
import FinylDcp.OverdueJobs
import FinylDcp.PaymentEffects

/-!
# The life of a loan

Five modules write the status of a loan and its balance: applications and transitions,
decisions, payouts, payments, and the sweeps. One lemma says what any of their requests does:
the loans move from one stage to the next and nothing else changes, or one loan is activated
and its borrower locked, or one loan is settled and its lock released.
-/
namespace FinylDcp
open Db Tables

/-- Every request, callback and job that writes a loan. -/
inductive LifeEvent
  | decide (tenantId loanId : ℕ) (decider : LoanDecider) (action : String)
  | transition (tenantId loanId : ℕ) (seesLoan : Bool) (status : String) (now : ℤ)
  | disburse (tenantId loanId actorUserId : ℕ) (now : ℤ)
  | answer (tenantId loanId txnId : ℕ) (sent : SendResult)
  | result (body : ResultBody) (now : ℤ)
  | timeout (body : ResultBody)
  | resolve (tenantId txnId : ℕ) (checker : Checker) (outcome : String) (receipt : Option String)
      (note : String) (now : ℤ)
  | payment (loanId : ℕ) (p : Payment)
  | settings (tenantId : ℕ) (allocationOrder earlySettlementMethod : Option String)
  | overdueAlerts (tenantId : ℕ) (today : ℤ)
  | defaulting (tenantId : ℕ) (today graceDays : ℤ)

/-- What is committed of a request that may fail. -/
def Db.saved (db : Db) : Except Failure Db → Db
  | .ok saved => saved
  | .error _ => db

def LifeEvent.apply (db : Db) : LifeEvent → Db
  | .decide tenantId loanId decider action =>
      db.saved (decideLoan db tenantId loanId decider action)
  | .transition tenantId loanId seesLoan status now =>
    db.saved (transitionLoan db tenantId loanId seesLoan status now)
  | .disburse tenantId loanId actorUserId now =>
    db.saved ((beginDisbursement db tenantId loanId actorUserId now).bind (·.1.commit))
  | .answer tenantId loanId txnId sent =>
      db.saved (finishDisbursement db tenantId loanId txnId sent).1
  | .result body now => db.saved (processB2cResult db body now)
  | .timeout body => db.saved (processB2cTimeout db body)
  | .resolve tenantId txnId checker outcome receipt note now =>
    db.saved (resolvePayoutRequest db tenantId txnId checker outcome receipt note now)
  | .payment loanId p => receivePayment db loanId p
  | .settings tenantId order early => (Upkeep.settings tenantId order early).apply db
  | .overdueAlerts tenantId today => (runOverdueAlerts db tenantId today).1
  | .defaulting tenantId today graceDays => (runDefaulting db tenantId today graceDays).1

/-- A payment that is taken and covers the early payoff of its day, or the balance. -/
def Loan.SettledBy (db : Db) (loanId : ℕ) (loan : Loan) (p : Payment) : Prop :=
  Accepts db loan p ∧ loan.status.collectible = true ∧
    (SettlesEarly db loanId loan p ∨ loan.outstandingBalance ≤ p.amount)

instance (db : Db) (loanId : ℕ) (loan : Loan) (p : Payment) :
    Decidable (loan.SettledBy db loanId p) := by
  unfold Loan.SettledBy
  infer_instance

/-- A loan without a balance that a person may mark as paid. -/
def Loan.markable (loan : Loan) : Bool :=
  (loan.status = .active || loan.status = .overdue) && loan.outstandingBalance ≤ 0

/-- The loan that an event settles. -/
def LifeEvent.settled (db : Db) : LifeEvent → Option ℕ
  | .transition tenantId loanId seesLoan status _ =>
    if seesLoan && db.indexed && (loanRow db tenantId loanId).any Loan.markable &&
      status = "paid" then some loanId else none
  | .payment loanId p =>
    if ∃ loan ∈ db.loans[loanId]?, loan.SettledBy db loanId p then some loanId else none
  | _ => none

/-- From one stage to another, or the same: what happens to a loan that is neither activated
nor settled. -/
inductive Loan.Moves : Loan → Loan → Prop
  | same (l : Loan) : Moves l l
  | decided (l : Loan) (status : LoanStatus) (h : l.status.undecided = true)
      (hstatus : status = .underwriting ∨ status = .approved ∨ status = .rejected) :
      Moves l { l with status := status }
  | taken (l : Loan) (product : Product) (actorUserId : ℕ) (h : l.status = .approved) :
      Moves l { l with
        status := .processing
        pricingSnapshot := some (loanSnapshot l product)
        disbursedByUserId := some actorUserId }
  | reverted (l : Loan) (h : l.status = .processing) : Moves l { l with status := .approved }
  | reduced (l : Loan) (balance : ℤ) (h : l.status.collectible = true) (hleft : 0 < balance) :
      Moves l { l with outstandingBalance := balance }
  | fallsOverdue (l : Loan) (penalty : ℤ) (h : l.status = .active) (hpenalty : 0 ≤ penalty) :
      Moves l { l with
        status := .overdue
        outstandingBalance := l.outstandingBalance + penalty
        penaltiesCharged := l.penaltiesCharged + penalty }
  | defaults (l : Loan) (h : l.status = .active ∨ l.status = .overdue) :
      Moves l { l with status := .defaulted }

/-- A loan that is settled: a balance that was not negative is gone. -/
def Loan.Settles (l paid : Loan) : Prop :=
  ∃ balance rebate at_, (0 ≤ l.outstandingBalance → balance = 0) ∧ paid = { l with
    status := .paid
    outstandingBalance := balance
    interestRebate := rebate
    earlySettledAt := at_
    activeLock := false }

/-- What an event does to the loans and to the locks of their borrowers. -/
inductive LifeEffect (db : Db) : Option ℕ → Db → Prop
  | moves {db' : Db} (hloans : List.Forall₂ Loan.Moves db.loans db'.loans)
      (hborrowers : db'.borrowers = db.borrowers) (hlogs : db'.lockLogs = db.lockLogs) :
      LifeEffect db none db'
  | activates {db' : Db} (loanId : ℕ) (loan : Loan) (product : Product) (today : ℤ)
      (hrow : db.loans[loanId]? = some loan) (hstatus : loan.status = .processing)
      (hproduct : db.products[loan.productId]? = some product)
      (hproducts : db'.products = db.products)
      (hloans : db'.loans = db.loans.set loanId (activate loan product today))
      (hborrowers : db'.borrowers = db.borrowers.modify loan.borrowerId (fun b => { b with
        editLocked := true, editLockedReason := some s!"active_loan:{loanId}" }))
      (hlogs : db'.lockLogs = db.lockLogs ++ [⟨loan.tenantId, loanId, none, none⟩]) :
      LifeEffect db none db'
  | settles {db' : Db} (loanId : ℕ) (loan paid : Loan) (now : ℤ)
      (hrow : db.loans[loanId]? = some loan) (hopen : loan.status.collectible = true)
      (hpaid : loan.Settles paid) (hloans : db'.loans = db.loans.set loanId paid)
      (hborrowers : db'.borrowers =
        (releaseActiveLock db loanId { loan with status := .paid } now).1.borrowers)
      (hlogs : db'.lockLogs =
        (releaseActiveLock db loanId { loan with status := .paid } now).1.lockLogs) :
      LifeEffect db (some loanId) db'

section Events

variable {db db' : Db} {tenantId loanId txnId : ℕ}

/-- A loan that moves. -/
theorem LifeEffect.update {f : Loan → Loan} (hloans : db'.loans = db.loans.modify loanId f)
    (hborrowers : db'.borrowers = db.borrowers) (hlogs : db'.lockLogs = db.lockLogs)
    (h : ∀ l ∈ db.loans[loanId]?, l.Moves (f l)) : LifeEffect db none db' :=
  .moves (hloans ▸ forall₂_modify Loan.Moves.same h) hborrowers hlogs

/-- An event that touches no loan. -/
theorem LifeEffect.aside (hloans : db'.loans = db.loans) (hborrowers : db'.borrowers = db.borrowers)
    (hlogs : db'.lockLogs = db.lockLogs) : LifeEffect db none db' :=
  .moves (hloans ▸ List.forall₂_same.mpr fun l _ => .same l) hborrowers hlogs

theorem LifeEffect.saved {x : Except Failure Db} (h : ∀ db', x = .ok db' → LifeEffect db none db') :
    LifeEffect db none (db.saved x) := by
  cases x with
  | ok db' => exact h db' rfl
  | error failure => exact .aside rfl rfl rfl

theorem decideLoan_effect {decider : LoanDecider} {action : String}
    (h : decideLoan db tenantId loanId decider action = .ok db') : LifeEffect db none db' := by
  rw [decideLoan_eq] at h
  split at h
  · cases h
  rename_i loan hloan
  obtain ⟨decision, hdecision, h⟩ := bind_eq_ok.mp h
  cases decision with
  | none =>
    cases h
    exact .aside rfl rfl rfl
  | some status =>
    obtain ⟨hundecided, hstatus⟩ := loanDecision_eq_ok hdecision
    obtain ⟨-, rfl⟩ := Db.commit_eq_ok.mp h
    refine .update rfl rfl rfl fun l hl => ?_
    obtain rfl := Option.some.inj ((loanRow_eq_some hloan).1.symm.trans hl)
    exact .decided loan status hundecided (.inr hstatus)

/-- A stage that a person may move a loan to, payment apart. -/
theorem Loan.moves_of_valid {loan : Loan} {next : LoanStatus}
    (hnext : next ∈ loan.status.validTransitions) (happroved : next ≠ .approved)
    (hactive : next ≠ .active) (hpaid : next ≠ .paid) :
    loan.Moves { loan with status := next } := by
  cases hstatus : loan.status with
  | pending =>
    obtain rfl | rfl : next = .underwriting ∨ next = .rejected := by
      simpa [hstatus, LoanStatus.validTransitions] using hnext
    · exact .decided loan _ (by rw [hstatus]; rfl) (.inl rfl)
    · exact .decided loan _ (by rw [hstatus]; rfl) (.inr (.inr rfl))
  | underwriting =>
    obtain rfl : next = .rejected := by
      simpa [hstatus, LoanStatus.validTransitions, happroved] using hnext
    exact .decided loan _ (by rw [hstatus]; rfl) (.inr (.inr rfl))
  | active =>
    obtain rfl | rfl : next = .overdue ∨ next = .defaulted := by
      simpa [hstatus, LoanStatus.validTransitions, hpaid] using hnext
    · simpa using Moves.fallsOverdue loan 0 hstatus (le_refl 0)
    · exact .defaults loan (.inl hstatus)
  | overdue =>
    obtain rfl : next = .defaulted := by
      simpa [hstatus, LoanStatus.validTransitions, hpaid, hactive] using hnext
    exact .defaults loan (.inr hstatus)
  | approved => simp [hstatus, LoanStatus.validTransitions, hactive] at hnext
  | processing | paid | defaulted | rejected => simp [hstatus, LoanStatus.validTransitions] at hnext

/-- A transition that succeeds is to a stage that follows; it settles only a loan that may be
marked as paid. -/
theorem transitionLoan_effect {seesLoan : Bool} {status : String} {now : ℤ}
    (h : transitionLoan db tenantId loanId seesLoan status now = .ok db') :
    LifeEffect db ((LifeEvent.transition tenantId loanId seesLoan status now).settled db) db' := by
  simp only [transitionLoan] at h
  split at h
  · cases h
  rename_i loan hloan
  have hrow := (loanRow_eq_some hloan).1
  split at h
  · cases h
  rename_i hsees
  simp only [Bool.not_eq_true, Bool.not_eq_false'] at hsees
  have hfollows : ∀ s, loan.status.validTransitions.find? (fun s => s.label = status) = some s →
      s ∈ loan.status.validTransitions ∧ s.label = status := fun s hs =>
    ⟨List.mem_of_find?_eq_some hs, by simpa using List.find?_some hs⟩
  split at h
  · cases h
  · cases h
  · cases h
  · rename_i hnext
    obtain ⟨hmem, hlabel⟩ := hfollows _ hnext
    split at h
    · cases h
    rename_i hbalance
    obtain ⟨hindexed, rfl⟩ := Db.commit_eq_ok.mp h
    have hindexed : db.indexed = true := hindexed
    have hopen : loan.status = .active ∨ loan.status = .overdue := by
      cases hstatus : loan.status <;> simp [hstatus, LoanStatus.validTransitions] at hmem ⊢
    have hsettled : (LifeEvent.transition tenantId loanId seesLoan status now).settled db =
        some loanId := by
      simp [LifeEvent.settled, hsees, hindexed, hloan, Loan.markable, hopen, not_lt.mp hbalance,
        ← hlabel, LoanStatus.label]
    rw [hsettled, flushLoan_loaded _ (by exact hrow)]
    refine .settles loanId loan _ now hrow ?_ ⟨loan.outstandingBalance, loan.interestRebate,
      loan.earlySettledAt, fun hbalance' => le_antisymm (not_lt.mp hbalance) hbalance',
        rfl⟩ rfl rfl rfl
    obtain hopen | hopen := hopen <;> rw [hopen] <;> rfl
  · rename_i next happroved hactive hpaid hnext
    obtain ⟨hmem, hlabel⟩ := hfollows _ hnext
    obtain ⟨-, rfl⟩ := Db.commit_eq_ok.mp h
    have hstatus : status ≠ "paid" := by
      rintro rfl
      cases next <;> simp [LoanStatus.label] at hlabel hpaid
    have hsettled : (LifeEvent.transition tenantId loanId seesLoan status now).settled db =
        none := by
      simp [LifeEvent.settled, hstatus]
    rw [hsettled]
    refine .update rfl rfl rfl fun l hl => ?_
    obtain rfl := Option.some.inj (hrow.symm.trans hl)
    exact Loan.moves_of_valid hmem happroved hactive hpaid

/-- A loan that may be marked as paid is. -/
theorem transitionLoan_marks {seesLoan : Bool} {status : String} {now : ℤ} {id : ℕ}
    (h : (LifeEvent.transition tenantId loanId seesLoan status now).settled db = some id) :
    ∃ db', transitionLoan db tenantId loanId seesLoan status now = .ok db' := by
  simp only [LifeEvent.settled] at h
  split at h
  · rename_i hmarked
    simp only [Bool.and_eq_true, decide_eq_true_eq] at hmarked
    obtain ⟨⟨⟨rfl, hindexed⟩, hany⟩, rfl⟩ := hmarked
    obtain ⟨loan, hloan, hmarkable⟩ := (Option.any_eq_true _ _).mp hany
    simp only [Loan.markable, Bool.and_eq_true, Bool.or_eq_true, decide_eq_true_eq] at hmarkable
    obtain ⟨hopen, hbalance⟩ := hmarkable
    have hnext : loan.status.validTransitions.find? (fun s => s.label = "paid") = some .paid := by
      obtain hopen | hopen := hopen <;> rw [hopen] <;> rfl
    simp only [transitionLoan, hloan, hnext, Bool.not_true, Bool.false_eq_true, if_false,
      if_neg (not_lt.mpr hbalance)]
    exact ⟨_, Db.commit_eq_ok.mpr ⟨hindexed, rfl⟩⟩
  · cases h

theorem transition_effect (seesLoan : Bool) (status : String) (now : ℤ) :
    LifeEffect db ((LifeEvent.transition tenantId loanId seesLoan status now).settled db)
      ((LifeEvent.transition tenantId loanId seesLoan status now).apply db) := by
  simp only [LifeEvent.apply]
  cases h : transitionLoan db tenantId loanId seesLoan status now with
  | ok db' => exact transitionLoan_effect h
  | error failure =>
    cases hsettled : (LifeEvent.transition tenantId loanId seesLoan status now).settled db with
    | none => exact .aside rfl rfl rfl
    | some id =>
      obtain ⟨db', hok⟩ := transitionLoan_marks hsettled
      rw [h] at hok
      cases hok

theorem beginDisbursement_effect {actorUserId : ℕ} {now : ℤ} {out : Db × ℕ}
    (h : beginDisbursement db tenantId loanId actorUserId now = .ok out) :
    LifeEffect db none out.1 := by
  simp only [beginDisbursement] at h
  split at h
  · cases h
  split at h
  · cases h
  rename_i loan hloan
  split at h
  · cases h
  rename_i happroved
  simp only [Bool.or_eq_true, decide_eq_true_eq, not_or, not_not] at happroved
  split at h
  · rename_i product borrower hproduct hborrower
    split at h
    · cases h
    · cases h
      refine .update rfl rfl rfl fun l hl => ?_
      obtain rfl := Option.some.inj (hloan.symm.trans hl)
      exact .taken loan product actorUserId happroved.2
  · cases h

theorem finishDisbursement_effect {sent : SendResult}
    (h : (finishDisbursement db tenantId loanId txnId sent).1 = .ok db') :
    LifeEffect db none db' := by
  cases sent with
  | refused why =>
    obtain ⟨-, rfl⟩ := Db.commit_eq_ok.mp h
    refine .update rfl rfl rfl fun l _ => ?_
    split
    · rename_i hwaits
      exact .reverted l hwaits.2
    · exact .same l
  | uncertain why =>
    obtain ⟨-, rfl⟩ := Db.commit_eq_ok.mp h
    exact .aside rfl rfl rfl
  | accepted ack =>
    obtain ⟨-, rfl⟩ := Db.commit_eq_ok.mp h
    exact .aside rfl rfl rfl

/-- A result activates a loan that waits for it, or puts it back. -/
theorem settlePayout_effect {txn : PaymentTransaction} {resultCode : String}
    {receipt : Option String} {now : ℤ} {out : Db × ResultReply}
    (h : settlePayout db tenantId txnId txn (loanOf db tenantId txn) resultCode receipt now =
      .ok out) :
    LifeEffect db none out.1 := by
  simp only [settlePayout] at h
  split at h
  · cases h
    exact .aside rfl rfl rfl
  split at h
  · split at h
    · rename_i loanId loan hheld
      obtain ⟨-, hrow, htenant⟩ := loanOf_eq_some hheld
      split at h
      · rename_i hprocessing
        split at h
        · rename_i product hproduct
          cases h
          refine .activates loanId loan product
            (now / 86400) hrow hprocessing hproduct rfl ?_ rfl ?_
          · exact congrArg Db.loans (flushLoan_loaded (activate loan product (now / 86400)) hrow)
          · rw [htenant]
            rfl
        · cases h
      · cases h
        exact .aside rfl rfl rfl
    · cases h
      exact .aside rfl rfl rfl
  · split at h
    · rename_i loanId loan hheld
      obtain ⟨-, hrow, -⟩ := loanOf_eq_some hheld
      split at h
      · rename_i hprocessing
        cases h
        refine .update rfl rfl rfl fun l hl => ?_
        obtain rfl := Option.some.inj (hrow.symm.trans hl)
        rw [Loan.flush_loaded]
        exact .reverted loan hprocessing
      · cases h
        exact .aside rfl rfl rfl
    · cases h
      exact .aside rfl rfl rfl

/-- The result of a refund touches no loan. -/
theorem applyRefundResult_aside {txn : PaymentTransaction} {resultCode : String}
    {receipt : Option String} {now : ℤ} :
    (applyRefundResult db tenantId txnId txn resultCode receipt now).1.loans = db.loans ∧
      (applyRefundResult db tenantId txnId txn resultCode receipt now).1.borrowers = db.borrowers ∧
      (applyRefundResult db tenantId txnId txn resultCode receipt now).1.lockLogs =
        db.lockLogs := by
  simp only [applyRefundResult]
  split
  · exact ⟨rfl, rfl, rfl⟩
  split
  · split <;> exact ⟨rfl, rfl, rfl⟩
  · simp only [reopenRefundSource]
    split <;> exact ⟨rfl, rfl, rfl⟩

theorem applyB2cResult_effect {txn : PaymentTransaction} {resultCode : String}
    {receipt : Option String} {now : ℤ} {out : Db × ResultReply}
    (h : applyB2cResult db tenantId txnId txn resultCode receipt now = .ok out) :
    LifeEffect db none out.1 := by
  simp only [applyB2cResult] at h
  split at h
  · cases h
    obtain ⟨hloans, hborrowers, hlogs⟩ := @applyRefundResult_aside db tenantId txnId txn resultCode
      receipt now
    exact .aside hloans hborrowers hlogs
  · exact settlePayout_effect h

section Payment

variable {loan : Loan} {p : Payment}

/-- A payment that does not settle the loan leaves part of the balance. -/
theorem book_reduces (hamount : 0 < p.amount) (hearly : ¬ SettlesEarly db loanId loan p)
    (hleft : p.amount < loan.outstandingBalance) :
    book loan (divisionOf db loanId loan p) p.paidOn =
        { loan with outstandingBalance := loan.outstandingBalance - p.amount } ∧
      settled loan (divisionOf db loanId loan p) p.paidOn =
        { loan with outstandingBalance := loan.outstandingBalance - p.amount } := by
  obtain ⟨hsettles, happlied, -, -⟩ := divisionOf_plain hearly
  have hbook : book loan (divisionOf db loanId loan p) p.paidOn =
      { loan with outstandingBalance := loan.outstandingBalance - p.amount } := by
    simp [book, hsettles, happlied, min_eq_left hleft.le, hamount]
  exact ⟨hbook, by simp [settled, hbook, hleft]⟩

/-- What is booked of a payment that settles the loan: nothing is left of a balance. -/
theorem book_clears (h : loan.SettledBy db loanId p) :
    (book loan (divisionOf db loanId loan p) p.paidOn).outstandingBalance ≤ 0 ∧
      (0 ≤ loan.outstandingBalance →
        (book loan (divisionOf db loanId loan p) p.paidOn).outstandingBalance = 0) := by
  obtain ⟨hacc, -, hcovers⟩ := h
  rw [book_eq]
  by_cases hearly : SettlesEarly db loanId loan p
  · simp [(divisionOf_settles hearly).1]
  · obtain ⟨hsettles, happlied, -, -⟩ := divisionOf_plain hearly
    have hcovers := hcovers.resolve_left hearly
    have hamount := hacc.1
    simp only [hsettles, happlied, Bool.false_eq_true, if_false, min_eq_right hcovers]
    omega

theorem settled_settles (h : loan.SettledBy db loanId p) :
    loan.Settles (settled loan (divisionOf db loanId loan p) p.paidOn) := by
  obtain ⟨hcleared, hzero⟩ := book_clears h
  have hstatus : (book loan (divisionOf db loanId loan p) p.paidOn).status = loan.status := by
    rw [book_eq]
  have hpaid : settled loan (divisionOf db loanId loan p) p.paidOn =
      { book loan (divisionOf db loanId loan p) p.paidOn with
        status := .paid, activeLock := false } := by
    simp [settled, hcleared, hstatus, h.2.1]
  have hbook := book_eq loan (divisionOf db loanId loan p) p.paidOn
  generalize book loan (divisionOf db loanId loan p) p.paidOn = booked at hbook hpaid hzero
  refine ⟨booked.outstandingBalance, booked.interestRebate, booked.earlySettledAt, hzero, ?_⟩
  rw [hpaid, hbook]

/-- The locks after a payment are those that marking the booked loan leaves. -/
theorem applyToOpenLoan_locks : (applyToOpenLoan db loanId loan p).1.borrowers =
      (markPaid db loanId (book loan (divisionOf db loanId loan p) p.paidOn) p.now).1.borrowers ∧
    (applyToOpenLoan db loanId loan p).1.lockLogs =
      (markPaid db loanId (book loan (divisionOf db loanId loan p) p.paidOn) p.now).1.lockLogs := by
  simp only [applyToOpenLoan, recordSuspense, divisionOf]
  split_ifs <;> exact ⟨rfl, rfl⟩

theorem markPaid_settles (h : loan.SettledBy db loanId p) (now : ℤ) :
    (markPaid db loanId (book loan (divisionOf db loanId loan p) p.paidOn) now).1 =
      (releaseActiveLock db loanId { loan with status := .paid } now).1 := by
  have hstatus : (book loan (divisionOf db loanId loan p) p.paidOn).status = loan.status := by
    rw [book_eq]
  simp only [markPaid, (book_clears h).1, hstatus, h.2.1, decide_true, Bool.and_self, if_true]
  rw [book_eq]
  rfl

/-- The database after an accepted payment on an open loan. -/
theorem receivePayment_applied (hrow : db.loans[loanId]? = some loan) (hacc : Accepts db loan p)
    (hopen : loan.status.collectible = true) :
    receivePayment db loanId p = { (applyToOpenLoan db loanId loan p).1 with
      loans := db.loans.set loanId (settled loan (divisionOf db loanId loan p) p.paidOn) } := by
  obtain ⟨out, hok⟩ := applyPayment_ok loanId hacc
  obtain ⟨hno, -⟩ | ⟨-, hclosed, -⟩ | ⟨-, -, rfl⟩ := applyPayment_cases hok
  · exact absurd hacc hno
  · rw [hopen] at hclosed
    cases hclosed
  · obtain ⟨logs, borrowers, hdb⟩ := applyToOpenLoan_db db loanId loan p
    have hloans : (applyToOpenLoan db loanId loan p).1.loans = db.loans := by rw [hdb]
    simp only [receivePayment, hrow, payLoan, hok, Except.map, applyToOpenLoan_loan]
    rw [flushLoan_loaded _ (by rw [hloans]; exact hrow), hloans]

theorem payment_effect (p : Payment) : LifeEffect db ((LifeEvent.payment loanId p).settled db)
    ((LifeEvent.payment loanId p).apply db) := by
  simp only [LifeEvent.apply, LifeEvent.settled]
  cases hrow : db.loans[loanId]? with
  | none =>
    simp only [receivePayment, hrow]
    simpa using LifeEffect.aside rfl rfl rfl
  | some loan =>
    have hiff : (∃ l ∈ some loan, l.SettledBy db loanId p) ↔ loan.SettledBy db loanId p := by simp
    simp only [hiff]
    obtain ⟨hacc, hdb⟩ | ⟨hacc, hclosed, hdb⟩ | ⟨hacc, hopen, -⟩ :=
      receivePayment_cases (p := p) hrow
    · rw [if_neg fun h => hacc h.1, hdb]
      exact .aside rfl rfl rfl
    · rw [if_neg fun h => by simp [h.2.1] at hclosed, hdb]
      exact .aside rfl rfl rfl
    · rw [receivePayment_applied hrow hacc hopen]
      obtain ⟨hborrowers, hlogs⟩ := @applyToOpenLoan_locks db loanId loan p
      split_ifs with h
      · rw [markPaid_settles h] at hborrowers hlogs
        exact .settles loanId loan _ p.now hrow hopen (settled_settles h) rfl hborrowers hlogs
      · have hplain : ¬ SettlesEarly db loanId loan p := fun hearly => h ⟨hacc, hopen, .inl hearly⟩
        have hleft : p.amount < loan.outstandingBalance :=
          not_le.mp fun hcovers => h ⟨hacc, hopen, .inr hcovers⟩
        obtain ⟨hsame, hreduced⟩ := book_reduces hacc.1 hplain hleft
        rw [hreduced]
        have hmarked :
            (markPaid db loanId (book loan (divisionOf db loanId loan p) p.paidOn) p.now).1 =
            db := by
          simp [markPaid, hsame, not_le.mpr hleft]
        rw [hmarked] at hborrowers hlogs
        have hmoves := Loan.Moves.reduced loan (loan.outstandingBalance - p.amount) hopen (by omega)
        exact .moves (forall₂_set Loan.Moves.same hrow hmoves) hborrowers hlogs

end Payment

/-- The overdue sweep takes an active loan and adds a penalty that is not negative. -/
theorem overdueAlert_moves (products : List Product) (tenantId : ℕ) (today : ℤ) (loan : Loan) :
    loan.Moves (overdueAlert products tenantId today loan).1 := by
  simp only [overdueAlert]
  split
  · rename_i hdue
    simp only [Bool.and_eq_true, decide_eq_true_eq] at hdue
    have hpenalty : 0 ≤ (accrueOverduePenalty products[loan.productId]?
        { loan with status := .overdue }).2 := by
      simp only [accrueOverduePenalty]
      split_ifs with hfree hcapped
      · exact le_refl 0
      · exact le_refl 0
      · exact (not_le.mp hcapped).le
    rw [accrueOverduePenalty_loan]
    exact .fallsOverdue loan _ hdue.2 hpenalty
  · exact .same loan

theorem defaultLoan_moves (tenantId : ℕ) (cutoff : ℤ) (loan : Loan) :
    loan.Moves (defaultLoan tenantId cutoff loan) := by
  simp only [defaultLoan]
  split
  · rename_i hdue
    simp only [Loan.pastDue, Bool.and_eq_true, Bool.or_eq_true, decide_eq_true_eq] at hdue
    exact .defaults loan hdue.1.1.2
  · exact .same loan

/-- An application adds one loan, of a borrower of the tenant. -/
theorem applyForLoan_eq_ok {catalogue : Catalogue} {applicant : Applicant} {body : LoanApplication}
    {year : ℤ} {out : Db × ℕ}
    (h : applyForLoan db catalogue tenantId applicant body year = .ok out) :
    ∃ borrower product, db.borrowers[body.borrowerId]? = some borrower ∧
      borrower.tenantId = tenantId ∧ db.products[body.productId]? = some product ∧
      out.2 = db.loans.length ∧ out.1 = { db with loans := db.loans ++
        [appliedLoan tenantId body product (newAccountNumber db tenantId year)] } := by
  simp only [applyForLoan] at h
  split at h
  · rename_i borrower profile hborrower hprofile
    obtain ⟨-, -, h⟩ := bind_eq_ok.mp h
    obtain ⟨-, -, h⟩ := bind_eq_ok.mp h
    obtain ⟨-, -, h⟩ := bind_eq_ok.mp h
    split at h
    · rename_i product listing hproduct hlisting
      obtain ⟨-, -, h⟩ := bind_eq_ok.mp h
      obtain ⟨-, -, h⟩ := bind_eq_ok.mp h
      obtain ⟨saved, hsaved, h⟩ := bind_eq_ok.mp h
      obtain ⟨-, rfl⟩ := Db.commit_eq_ok.mp hsaved
      cases h
      obtain ⟨hborrower, htenant⟩ := Option.filter_eq_some_iff.mp hborrower
      exact ⟨borrower, product, hborrower, by simpa using htenant, hproduct, rfl, rfl⟩
    · cases h
  · cases h

end Events

/-- What any event does. -/
theorem life_effect (db : Db) (e : LifeEvent) : LifeEffect db (e.settled db) (e.apply db) := by
  cases e with
  | decide tenantId loanId decider action => exact .saved fun db' h => decideLoan_effect h
  | transition tenantId loanId seesLoan status now => exact transition_effect seesLoan status now
  | disburse tenantId loanId actorUserId now =>
    refine .saved fun db' h => ?_
    obtain ⟨out, hout, hcommit⟩ := bind_eq_ok.mp h
    obtain ⟨-, rfl⟩ := Db.commit_eq_ok.mp hcommit
    exact beginDisbursement_effect hout
  | answer tenantId loanId txnId sent => exact .saved fun db' h => finishDisbursement_effect h
  | result body now =>
    refine .saved fun db' h => ?_
    simp only [processB2cResult] at h
    split at h
    · cases h
    obtain ⟨out, hout, hcommit⟩ := bind_eq_ok.mp h
    obtain ⟨-, rfl⟩ := Db.commit_eq_ok.mp hcommit
    exact applyB2cResult_effect hout
  | timeout body =>
    refine .saved fun db' h => ?_
    simp only [processB2cTimeout] at h
    split at h
    · cases h
    rename_i txnId txn hfound
    obtain ⟨-, rfl⟩ := Db.commit_eq_ok.mp h
    obtain hsame | ⟨-, f, hmarked, -⟩ := markB2cTimeout_cases db txnId txn
    · rw [hsame]
      exact .aside rfl rfl rfl
    · rw [hmarked]
      exact .aside rfl rfl rfl
  | resolve tenantId txnId checker outcome receipt note now =>
    refine .saved fun db' h => ?_
    obtain ⟨txn, said, reply, -, -, -, -, happlied⟩ := resolvePayoutRequest_eq_ok h
    exact applyB2cResult_effect happlied
  | payment loanId p => exact payment_effect p
  | settings tenantId order early =>
    simp only [LifeEvent.apply, LifeEvent.settled, Upkeep.apply]
    split
    · rename_i db' h
      obtain ⟨configs, rfl⟩ := setPaymentSettings_db h
      exact .aside rfl rfl rfl
    · exact .aside rfl rfl rfl
  | overdueAlerts tenantId today =>
    refine .moves ?_ rfl rfl
    simp only [LifeEvent.apply, runOverdueAlerts, List.map_map, List.forall₂_map_right_iff]
    exact List.forall₂_same.mpr fun l _ => overdueAlert_moves db.products tenantId today l
  | defaulting tenantId today graceDays =>
    refine .moves ?_ rfl rfl
    simp only [LifeEvent.apply, runDefaulting, List.forall₂_map_right_iff]
    exact List.forall₂_same.mpr fun l _ => defaultLoan_moves tenantId (today - graceDays) l

end FinylDcp
