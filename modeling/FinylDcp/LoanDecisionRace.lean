import FinylDcp.Lending
import FinylDcp.MoneyDesk

/-!
# Two decisions on one application

A decider's request reads the loan, checks that nobody has decided on it yet, and writes the
decision at its commit. It locks nothing in between, so another decision, and a payout of the
loan, may come between the two. A payout takes the loan from `approved` by a conditional
update.
-/
namespace FinylDcp
open Db Runs

/-- Nobody has decided on the application. -/
def LoanStatus.undecided : LoanStatus → Bool
  | pending | underwriting => true
  | _ => false

/-- The payout of the loan has started. -/
def LoanStatus.payoutStarted : LoanStatus → Bool
  | pending | underwriting | approved | rejected => false
  | _ => true

/-- What `decide_loan` writes on the loan it has read: nothing where it escalates. -/
def loanDecision (loan : Loan) (decider : LoanDecider) (action : String) :
    Except Failure (Option LoanStatus) :=
  if !decider.seesLoan then .error (.http 403 "Loan is outside your scope")
  else if !loan.status.undecided then
    .error (.http 400 s!"Loan is '{loan.status.label}' and cannot be decided")
  else if !decider.approver then .error (.http 403
    "Your role is not configured as an approver for loan approvals at this DCP")
  else if action = "reject" then .ok (some .rejected)
  else if action = "escalate" then .ok none
  else
    match decider.limit.filter (fun limit => limit < loan.principal) with
    | some limit =>
      let amount := showThousands loan.principal
      let most := showThousands limit
      let level := Text.upper ((Text.nonEmpty decider.nextLevel).getD "hq")
      .error (.http 409
        (s!"Amount KES {amount} exceeds your approval limit of KES {most} — " ++
          s!"auto-escalated to {level}."))
    | none => .ok (some .approved)

theorem LoanStatus.undecided_eq (status : LoanStatus) :
    (!status.undecided) = (status ≠ .pending && status ≠ .underwriting) := by
  cases status <;> rfl

/-- A decision that is written as soon as the loan is read is `decide_loan` on its own. -/
theorem decideLoan_eq (db : Db) (tenantId loanId : ℕ) (decider : LoanDecider) (action : String) :
    decideLoan db tenantId loanId decider action =
      match loanRow db tenantId loanId with
      | none => .error (.http 404 "Loan not found")
      | some loan => (loanDecision loan decider action).bind (fun
        | none => .ok db
        | some status => (db.updateLoan loanId (fun l => { l with status := status })).commit) := by
  simp only [decideLoan, loanDecision, LoanStatus.undecided_eq]
  cases loanRow db tenantId loanId with
  | none => rfl
  | some loan =>
    dsimp only
    split_ifs with hscope hdecided happrover hreject hescalate
    · rfl
    · rfl
    · rfl
    · rfl
    · rfl
    · cases decider.limit.filter (fun limit => limit < loan.principal) <;> rfl

/-- A decider's request between its read and its commit: the loan object, and the status it
will write. -/
structure OpenDecision where
  loanId : ℕ
  loaded : Loan
  status : LoanStatus
  deriving DecidableEq, Repr

/-- The commit writes the status over the row as it is now. -/
def OpenDecision.save (o : OpenDecision) (db : Db) : Except Failure Db :=
  (db.updateLoan o.loanId (fun row =>
    row.flush o.loaded { o.loaded with status := o.status })).commit

/-- The committed database, the requests between read and commit, and the decisions that
were committed. -/
structure DecisionDesk where
  db : Db
  sessions : List OpenDecision
  decisions : List (ℕ × LoanStatus)

inductive DecisionEvent
  | read (tenantId loanId : ℕ) (decider : LoanDecider) (action : String)
  | save (n : ℕ)
  | disburse (tenantId loanId actorUserId : ℕ) (now : ℤ)
  | answer (tenantId loanId txnId : ℕ) (sent : SendResult)
  | result (body : ResultBody) (now : ℤ)
  | resolve (tenantId txnId : ℕ) (checker : Checker) (outcome : String) (receipt : Option String)
      (note : String) (now : ℤ)

namespace DecisionDesk

/-- What a payout's request commits, if it does. -/
def saved (s : DecisionDesk) : Except Failure Db → DecisionDesk
  | .ok db => { s with db := db }
  | .error _ => s

def step (s : DecisionDesk) : DecisionEvent → DecisionDesk
  | .read tenantId loanId decider action =>
    match loanRow s.db tenantId loanId with
    | none => s
    | some loan =>
      match loanDecision loan decider action with
      | .ok (some status) => { s with sessions := s.sessions ++ [⟨loanId, loan, status⟩] }
      | _ => s
  | .save n =>
    match s.sessions[n]? with
    | none => s
    | some o =>
      match o.save s.db with
      | .ok db => { db := db, sessions := s.sessions.eraseIdx n,
                    decisions := s.decisions ++ [(o.loanId, o.status)] }
      | .error _ => { s with sessions := s.sessions.eraseIdx n }
  | .disburse tenantId loanId actorUserId now =>
    s.saved ((beginDisbursement s.db tenantId loanId actorUserId now).bind (·.1.commit))
  | .answer tenantId loanId txnId sent =>
      s.saved (finishDisbursement s.db tenantId loanId txnId sent).1
  | .result body now => s.saved (processB2cResult s.db body now)
  | .resolve tenantId txnId checker outcome receipt note now =>
    s.saved (resolvePayoutRequest s.db tenantId txnId checker outcome receipt note now)

/-- No loan has been decided on twice. -/
def AtMostOneDecision (s : DecisionDesk) : Prop := (s.decisions.map (·.1)).Nodup

/-- A decision meets a loan that is still undecided. -/
def Fresh (s : DecisionDesk) : DecisionEvent → Prop
  | .save n => ∀ o ∈ s.sessions[n]?, ∀ loan ∈ s.db.loans[o.loanId]?, loan.status.undecided = true
  | _ => True

instance Fresh.decidable (s : DecisionDesk) : (e : DecisionEvent) → Decidable (s.Fresh e)
  | .save n => inferInstanceAs (Decidable (∀ o ∈ s.sessions[n]?, ∀ loan ∈ s.db.loans[o.loanId]?,
      loan.status.undecided = true))
  | .read .. | .disburse .. | .answer .. | .result .. | .resolve .. => isTrue trivial

/-- What was decided stays: a rejected loan stays rejected, an approved one is not rejected,
and no decision touches a loan whose payout has started. -/
def Final (s : DecisionDesk) (e : DecisionEvent) : Prop :=
  ∀ (i : ℕ) (l l' : Loan), s.db.loans[i]? = some l → (s.step e).db.loans[i]? = some l' →
    (l.status = .rejected → l'.status = .rejected) ∧
      (l.status = .approved → l'.status ≠ .rejected) ∧
      (∀ n, e = .save n → l.status.payoutStarted = true → l'.status = l.status)

end DecisionDesk

/-- A payout takes an approved loan, and leaves it approved again or active. -/
def LoanStatus.PayoutMove (a b : LoanStatus) : Prop :=
  b = a ∨ (a = .approved ∧ b = .processing) ∨ (a = .processing ∧ (b = .approved ∨ b = .active))

/-- Every loan stays a row, and moves as a payout moves it. -/
def LoansPaidOut (db db' : Db) : Prop :=
  ∀ (i : ℕ) (l : Loan), db.loans[i]? = some l →
    ∃ l', db'.loans[i]? = some l' ∧ l.status.PayoutMove l'.status

theorem LoansPaidOut.same {db db' : Db} (h : db'.loans = db.loans) : LoansPaidOut db db' :=
  fun i l hl => ⟨l, by rw [h, hl], .inl rfl⟩

theorem loansPaidOut_update {db db' : Db} {loanId : ℕ} {f : Loan → Loan}
    (hloans : db'.loans = db.loans.modify loanId f)
    (h : ∀ l ∈ db.loans[loanId]?, l.status.PayoutMove (f l).status) : LoansPaidOut db db' := by
  intro i l hl
  rw [hloans, List.getElem?_modify, hl]
  by_cases hi : loanId = i
  · subst hi
    exact ⟨f l, by simp, h l hl⟩
  · exact ⟨l, by simp [hi], .inl rfl⟩

theorem beginDisbursement_paidOut {db : Db} {tenantId loanId actorUserId : ℕ} {now : ℤ}
    {out : Db × ℕ} (h : beginDisbursement db tenantId loanId actorUserId now = .ok out) :
    LoansPaidOut db out.1 := by
  simp only [beginDisbursement] at h
  split at h
  · cases h
  split at h
  · cases h
  rename_i loan hloan
  split at h
  · cases h
  rename_i happroved
  simp only [Bool.or_eq_true, decide_eq_true_eq, not_or, not_not] at happroved
  split at h
  · split at h
    · cases h
    · cases h
      refine loansPaidOut_update rfl fun l hl => ?_
      obtain rfl := Option.some.inj (hl.symm.trans hloan)
      exact .inr (.inl ⟨happroved.2, rfl⟩)
  · cases h

theorem finishDisbursement_paidOut {db saved : Db} {tenantId loanId txnId : ℕ} {sent : SendResult}
    (h : (finishDisbursement db tenantId loanId txnId sent).1 = .ok saved) :
    LoansPaidOut db saved := by
  cases sent with
  | refused why =>
    obtain ⟨-, rfl⟩ := Db.commit_eq_ok.mp h
    refine loansPaidOut_update rfl fun l _ => ?_
    split
    · rename_i hwaits
      exact .inr (.inr ⟨hwaits.2, .inl rfl⟩)
    · exact .inl rfl
  | uncertain why =>
    obtain ⟨-, rfl⟩ := Db.commit_eq_ok.mp h
    exact .same rfl
  | accepted ack =>
    obtain ⟨-, rfl⟩ := Db.commit_eq_ok.mp h
    exact .same rfl

theorem settlePayout_paidOut {db : Db} {tenantId txnId : ℕ} {txn : PaymentTransaction}
    {resultCode : String} {receipt : Option String} {now : ℤ} {out : Db × ResultReply}
    (h : settlePayout db tenantId txnId txn (loanOf db tenantId txn) resultCode receipt now =
      .ok out) :
    LoansPaidOut db out.1 := by
  simp only [settlePayout] at h
  split at h
  · cases h
    exact .same rfl
  split at h
  · split at h
    · rename_i loanId loan hheld
      obtain ⟨-, hrow, -⟩ := loanOf_eq_some hheld
      split at h
      · rename_i hprocessing
        split at h
        · cases h
          refine loansPaidOut_update rfl fun l hl => ?_
          obtain rfl := Option.some.inj (hl.symm.trans hrow)
          rw [Loan.flush_loaded]
          exact .inr (.inr ⟨hprocessing, .inr rfl⟩)
        · cases h
      · cases h
        exact .same rfl
    · cases h
      exact .same rfl
  · split at h
    · rename_i loanId loan hheld
      obtain ⟨-, hrow, -⟩ := loanOf_eq_some hheld
      split at h
      · rename_i hprocessing
        cases h
        refine loansPaidOut_update rfl fun l hl => ?_
        obtain rfl := Option.some.inj (hl.symm.trans hrow)
        rw [Loan.flush_loaded]
        exact .inr (.inr ⟨hprocessing, .inl rfl⟩)
      · cases h
        exact .same rfl
    · cases h
      exact .same rfl

theorem applyB2cResult_paidOut {db : Db} {tenantId txnId : ℕ} {txn : PaymentTransaction}
    {resultCode : String} {receipt : Option String} {now : ℤ} {out : Db × ResultReply}
    (h : applyB2cResult db tenantId txnId txn resultCode receipt now = .ok out) :
    LoansPaidOut db out.1 := by
  simp only [applyB2cResult] at h
  split at h
  · cases h
    refine .same ?_
    simp only [applyRefundResult]
    split
    · rfl
    split
    · split <;> rfl
    · simp only [reopenRefundSource]
      split <;> rfl
  · exact settlePayout_paidOut h

theorem processB2cResult_paidOut {db saved : Db} {body : ResultBody} {now : ℤ}
    (h : processB2cResult db body now = .ok saved) : LoansPaidOut db saved := by
  simp only [processB2cResult] at h
  split at h
  · cases h
  obtain ⟨out, hout, hcommit⟩ := bind_eq_ok.mp h
  obtain ⟨-, rfl⟩ := Db.commit_eq_ok.mp hcommit
  exact applyB2cResult_paidOut hout

theorem resolvePayoutRequest_paidOut {db saved : Db} {tenantId txnId : ℕ} {checker : Checker}
    {outcome note : String} {receipt : Option String} {now : ℤ}
    (h : resolvePayoutRequest db tenantId txnId checker outcome receipt note now = .ok saved) :
    LoansPaidOut db saved := by
  obtain ⟨txn, said, reply, -, -, -, -, happlied⟩ := resolvePayoutRequest_eq_ok h
  exact applyB2cResult_paidOut happlied

theorem loanDecision_eq_ok {loan : Loan} {decider : LoanDecider} {action : String}
    {status : LoanStatus} (h : loanDecision loan decider action = .ok (some status)) :
    loan.status.undecided = true ∧ (status = .approved ∨ status = .rejected) := by
  simp only [loanDecision] at h
  split_ifs at h with hscope hdecided happrover hreject hescalate
  · cases h
    exact ⟨by simpa using hdecided, .inr rfl⟩
  · cases h
  · split at h
    · cases h
    · cases h
      exact ⟨by simpa using hdecided, .inl rfl⟩

/-- Whatever the row has become, the commit makes it the decision. -/
theorem OpenDecision.save_eq_ok {o : OpenDecision} {db saved : Db}
    (hloaded : o.loaded.status.undecided = true) (hstatus : o.status.undecided = false)
    (h : o.save db = .ok saved) : db.indexed = true ∧ ∃ f : Loan → Loan,
      saved = db.updateLoan o.loanId f ∧ ∀ l, (f l).status = o.status := by
  obtain ⟨hindexed, rfl⟩ := Db.commit_eq_ok.mp h
  refine ⟨hindexed, _, rfl, fun l => ?_⟩
  have hchanges : o.status ≠ o.loaded.status := by
    intro hsame
    rw [hsame, hloaded] at hstatus
    cases hstatus
  simp [Loan.flush, flushColumn, hchanges]

theorem OpenDecision.save_ok (o : OpenDecision) {db : Db} (h : db.indexed = true) :
    ∃ saved, o.save db = .ok saved :=
  ⟨_, Db.commit_eq_ok.mpr ⟨h, rfl⟩⟩

theorem LoanStatus.PayoutMove.undecided {a b : LoanStatus} (h : a.PayoutMove b) :
    b.undecided = a.undecided := by
  obtain rfl | ⟨rfl, rfl⟩ | ⟨rfl, rfl | rfl⟩ := h <;> rfl

namespace DecisionDesk

variable {s : DecisionDesk} {e : DecisionEvent}

/-- What every step keeps: a session read an undecided loan, which is undecided still or has
been decided on; and what was decided on is decided. -/
structure Sound (s : DecisionDesk) : Prop where
  indexed : s.db.indexed = true
  sessions : ∀ o ∈ s.sessions, o.loaded.status.undecided = true ∧ o.status.undecided = false ∧
    ∃ l, s.db.loans[o.loanId]? = some l ∧
      (l.status.undecided = true ∨ o.loanId ∈ s.decisions.map (·.1))
  decided : ∀ id ∈ s.decisions.map (·.1), ∃ l, s.db.loans[id]? = some l ∧ l.status.undecided = false

/-- What an event does. -/
inductive Turn (s : DecisionDesk) : DecisionEvent → DecisionDesk → Prop
  | idle (e : DecisionEvent) (hquiet : ∀ n, e ≠ .save n) : Turn s e s
  | reads (tenantId loanId : ℕ) (decider : LoanDecider) (action : String) (loan : Loan)
      (status : LoanStatus) (hrow : s.db.loans[loanId]? = some loan)
      (hundecided : loan.status.undecided = true) (hstatus : status.undecided = false) :
      Turn s (.read tenantId loanId decider action)
        { s with sessions := s.sessions ++ [⟨loanId, loan, status⟩] }
  | nothing (n : ℕ) (hnone : s.sessions[n]? = none) : Turn s (.save n) s
  | saves (n : ℕ) (o : OpenDecision) (ho : s.sessions[n]? = some o) (f : Loan → Loan)
      (hf : ∀ l, (f l).status = o.status) :
      Turn s (.save n) { db := s.db.updateLoan o.loanId f, sessions := s.sessions.eraseIdx n,
                         decisions := s.decisions ++ [(o.loanId, o.status)] }
  | pays (e : DecisionEvent) (db : Db) (hquiet : ∀ n, e ≠ .save n) (hindexed : db.indexed = true)
      (hloans : LoansPaidOut s.db db) : Turn s e { s with db := db }

theorem turn_saved {x : Except Failure Db} (hquiet : ∀ n, e ≠ .save n)
    (h : ∀ db, x = .ok db → db.indexed = true ∧ LoansPaidOut s.db db) : s.Turn e (s.saved x) := by
  cases x with
  | ok db => exact .pays e db hquiet (h db rfl).1 (h db rfl).2
  | error failure => exact .idle e hquiet

theorem step_turn (h : s.Sound) (e : DecisionEvent) : s.Turn e (s.step e) := by
  cases e with
  | read tenantId loanId decider action =>
    simp only [step]
    split
    · exact .idle _ (by simp)
    rename_i loan hloan
    split
    · rename_i status hdecision
      obtain ⟨hundecided, rfl | rfl⟩ := loanDecision_eq_ok hdecision
      · exact .reads _ _ _ _ loan _ (loanRow_eq_some hloan).1 hundecided rfl
      · exact .reads _ _ _ _ loan _ (loanRow_eq_some hloan).1 hundecided rfl
    · exact .idle _ (by simp)
  | save n =>
    simp only [step]
    split
    · rename_i hnone
      exact .nothing n hnone
    rename_i o ho
    obtain ⟨hloaded, hstatus, -⟩ := h.sessions o (List.mem_of_getElem? ho)
    obtain ⟨saved, hsaved⟩ := o.save_ok h.indexed
    obtain ⟨-, f, rfl, hf⟩ := OpenDecision.save_eq_ok hloaded hstatus hsaved
    rw [hsaved]
    exact .saves n o ho f hf
  | disburse tenantId loanId actorUserId now =>
    refine turn_saved (by simp) fun db hdb => ?_
    obtain ⟨out, hout, hcommit⟩ := bind_eq_ok.mp hdb
    obtain ⟨hindexed, rfl⟩ := Db.commit_eq_ok.mp hcommit
    exact ⟨hindexed, beginDisbursement_paidOut hout⟩
  | answer tenantId loanId txnId sent =>
    refine turn_saved (by simp) fun db hdb => ⟨?_, finishDisbursement_paidOut hdb⟩
    cases sent <;> exact indexed_of_commit hdb
  | result body now =>
    refine turn_saved (by simp) fun db hdb => ⟨?_, processB2cResult_paidOut hdb⟩
    simp only [processB2cResult] at hdb
    split at hdb
    · cases hdb
    · obtain ⟨out, -, hcommit⟩ := bind_eq_ok.mp hdb
      exact indexed_of_commit hcommit
  | resolve tenantId txnId checker outcome receipt note now =>
    refine turn_saved (by simp) fun db hdb => ⟨?_, resolvePayoutRequest_paidOut hdb⟩
    obtain ⟨txn, -, hdb⟩ := bind_eq_ok.mp hdb
    obtain ⟨out, -, hcommit⟩ := bind_eq_ok.mp hdb
    exact indexed_of_commit hcommit

/-- The row of a loan after a decision on some loan is written. -/
theorem updateLoan_row {db : Db} {loanId i : ℕ} {f : Loan → Loan} {l : Loan}
    (h : db.loans[i]? = some l) :
    (db.updateLoan loanId f).loans[i]? = some (if loanId = i then f l else l) := by
  rw [updateLoan, List.getElem?_modify, h]
  split_ifs <;> rfl

theorem Turn.sound {s' : DecisionDesk} (hturn : s.Turn e s') (h : s.Sound) : s'.Sound := by
  cases hturn with
  | idle => exact h
  | nothing => exact h
  | reads tenantId loanId decider action loan status hrow hundecided hstatus =>
    refine ⟨h.indexed, fun o ho => ?_, h.decided⟩
    obtain hold | hnew := List.mem_append.mp ho
    · exact h.sessions o hold
    · obtain rfl := List.mem_singleton.mp hnew
      exact ⟨hundecided, hstatus, loan, hrow, .inl hundecided⟩
  | saves n o ho f hf =>
    have hstatus := (h.sessions o (List.mem_of_getElem? ho)).2.1
    constructor
    · exact h.indexed
    · intro o' ho'
      obtain ⟨hloaded, hstatus', l, hrow, hl⟩ := h.sessions o' (List.mem_of_mem_eraseIdx ho')
      refine ⟨hloaded, hstatus', _, updateLoan_row hrow, ?_⟩
      rw [List.map_append, List.mem_append]
      by_cases hsame : o.loanId = o'.loanId
      · exact .inr (.inr (by simp [hsame]))
      · rw [if_neg hsame]
        exact hl.imp_right .inl
    · intro id hid
      rw [List.map_append, List.mem_append] at hid
      obtain hold | hnew := hid
      · obtain ⟨l, hrow, hl⟩ := h.decided id hold
        refine ⟨_, updateLoan_row hrow, ?_⟩
        split
        · rw [hf, hstatus]
        · exact hl
      · obtain rfl := List.mem_singleton.mp hnew
        obtain ⟨-, -, l, hrow, -⟩ := h.sessions o (List.mem_of_getElem? ho)
        exact ⟨_, updateLoan_row hrow, by rw [if_pos rfl, hf, hstatus]⟩
  | pays e db hquiet hindexed hloans =>
    refine ⟨hindexed, fun o ho => ?_, fun id hid => ?_⟩
    · obtain ⟨hloaded, hstatus, l, hrow, hl⟩ := h.sessions o ho
      obtain ⟨l', hrow', hmove⟩ := hloans o.loanId l hrow
      exact ⟨hloaded, hstatus, l', hrow', by rwa [hmove.undecided]⟩
    · obtain ⟨l, hrow, hl⟩ := h.decided id hid
      obtain ⟨l', hrow', hmove⟩ := hloans id l hrow
      exact ⟨l', hrow', by rwa [hmove.undecided]⟩

/-- Nobody decides twice exactly when the commit meets an undecided loan. -/
theorem atMostOne_step (h : s.Sound) (hone : s.AtMostOneDecision) :
    (s.step e).AtMostOneDecision ↔ s.Fresh e := by
  have hturn := step_turn h e
  revert hturn
  generalize s.step e = s'
  intro hturn
  cases hturn with
  | idle e hquiet =>
    refine iff_of_true hone ?_
    cases e with
    | save n => exact absurd rfl (hquiet n)
    | _ => trivial
  | nothing n hnone => exact iff_of_true hone (by simp [Fresh, hnone])
  | reads => exact iff_of_true hone trivial
  | pays e db hquiet =>
    refine iff_of_true hone ?_
    cases e with
    | save n => exact absurd rfl (hquiet n)
    | _ => trivial
  | saves n o ho f hf =>
    obtain ⟨-, -, l, hrow, hl⟩ := h.sessions o (List.mem_of_getElem? ho)
    have hfresh : s.Fresh (.save n) ↔ l.status.undecided = true := by
      simp [Fresh, ho, hrow]
    have honce : AtMostOneDecision ⟨s.db.updateLoan o.loanId f, s.sessions.eraseIdx n,
        s.decisions ++ [(o.loanId, o.status)]⟩ ↔ o.loanId ∉ s.decisions.map (·.1) := by
      rw [AtMostOneDecision, List.map_append, List.map_singleton, ← List.concat_eq_append,
        List.nodup_concat]
      exact and_iff_left hone
    rw [hfresh, honce]
    constructor
    · exact hl.resolve_right
    · intro hundecided hdecided
      obtain ⟨l', hrow', hl'⟩ := h.decided _ hdecided
      obtain rfl := Option.some.inj (hrow.symm.trans hrow')
      rw [hundecided] at hl'
      cases hl'

theorem final_step (h : s.Sound) (hfresh : s.Fresh e) : s.Final e := by
  have hturn := step_turn h e
  intro i l l' hl hl'
  revert hturn hl'
  generalize s.step e = s'
  intro hturn hl'
  cases hturn with
  | idle =>
    obtain rfl := Option.some.inj (hl.symm.trans hl')
    exact ⟨id, fun happroved => by simp [happroved], fun _ _ _ => rfl⟩
  | nothing =>
    obtain rfl := Option.some.inj (hl.symm.trans hl')
    exact ⟨id, fun happroved => by simp [happroved], fun _ _ _ => rfl⟩
  | reads =>
    obtain rfl := Option.some.inj (hl.symm.trans hl')
    exact ⟨id, fun happroved => by simp [happroved], fun _ _ _ => rfl⟩
  | saves n o ho f hf =>
    rw [updateLoan_row hl] at hl'
    obtain rfl := Option.some.inj hl'
    by_cases hsame : o.loanId = i
    · subst hsame
      have hundecided := hfresh o ho l hl
      cases hstatus : l.status <;> simp [hstatus, LoanStatus.undecided] at hundecided <;>
        simp [LoanStatus.payoutStarted]
    · rw [if_neg hsame]
      exact ⟨id, fun happroved => by simp [happroved], fun _ _ _ => rfl⟩
  | pays e db hquiet hindexed hloans =>
    obtain ⟨l'', hrow, hmove⟩ := hloans i l hl
    obtain rfl := Option.some.inj (hrow.symm.trans hl')
    refine ⟨fun hrejected => ?_, fun happroved => ?_, fun n hn => absurd hn (hquiet n)⟩
    · obtain hsame | ⟨hwas, -⟩ | ⟨hwas, -⟩ := hmove
      · exact hsame.trans hrejected
      · simp [hrejected] at hwas
      · simp [hrejected] at hwas
    · obtain hsame | ⟨-, hnow⟩ | ⟨hwas, -⟩ := hmove
      · simp [hsame, happroved]
      · simp [hnow]
      · simp [happroved] at hwas

theorem Sound.run {start : DecisionDesk} (h : start.Sound) (events : List DecisionEvent) :
    (Runs.run step start events).Sound := by
  induction events generalizing start with
  | nil => exact h
  | cons e events ih => exact ih ((step_turn h e).sound h)

/-- In every interleaving of decisions and payouts: at most one decision on a loan takes effect
and what was decided stays, exactly when every decision meets a loan that is undecided at its
commit. -/
theorem loan_decisions_final_iff (db : Db) (h : db.indexed = true) (events : List DecisionEvent) :
    (Always step AtMostOneDecision ⟨db, [], []⟩ events ∧ AllSteps step Final ⟨db, [], []⟩ events) ↔
      AllSteps step Fresh ⟨db, [], []⟩ events := by
  have hstart : Sound ⟨db, [], []⟩ := ⟨h, by simp, by simp⟩
  have hiff : Always step (fun s => s.Sound ∧ s.AtMostOneDecision) ⟨db, [], []⟩ events ↔
      AllSteps step Fresh ⟨db, [], []⟩ events := by
    refine always_iff_allSteps (fun s e hs => ?_) ⟨hstart, List.nodup_nil⟩
    have hsound := (step_turn hs.1 e).sound hs.1
    exact (and_iff_right hsound).trans (atMostOne_step hs.1 hs.2)
  constructor
  · rintro ⟨hone, -⟩
    exact hiff.mp fun done hdone => ⟨hstart.run done, hone done hdone⟩
  · intro hfresh
    refine ⟨fun done hdone => (hiff.mpr hfresh done hdone).2, ?_⟩
    exact allSteps_of_invariant (fun s e hs hok => ⟨(step_turn hs e).sound hs, final_step hs hok⟩)
      hstart hfresh

/-- An application that waits for a decision. -/
def pendingDesk : DecisionDesk :=
  ⟨{ approvedBook with loans := approvedBook.loans.map ({ · with status := .pending }) }, [], []⟩

/-- A branch manager who approves loans of any amount. -/
def manager : LoanDecider := ⟨true, true, none, none⟩

/-- A decision, the payout, and a second request that comes too late to decide. -/
theorem loan_decisions_final_iff_paidOut : pendingDesk.db.indexed = true ∧
    (Always step AtMostOneDecision pendingDesk
        [.read 1 0 manager "approve", .save 0, .disburse 1 0 7 0, .read 1 0 manager "reject",
          .save 0] ∧
      AllSteps step Final pendingDesk
        [.read 1 0 manager "approve", .save 0, .disburse 1 0 7 0, .read 1 0 manager "reject",
          .save 0]) :=
  ⟨by decide, (loan_decisions_final_iff pendingDesk.db (by decide) _).mpr
    (by decide +kernel)⟩

/-- Two managers read the same application. One approves it and it is paid out, and then the
other's rejection is written over the loan whose money is on its way. -/
theorem rejection_lands_after_payout :
    ((run step pendingDesk [.read 1 0 manager "approve", .read 1 0 manager "reject", .save 0,
        .disburse 1 0 7 0, .save 0]).db.loans.map (·.status) = [.rejected]) ∧
      ¬ (Always step AtMostOneDecision pendingDesk [.read 1 0 manager "approve",
          .read 1 0 manager "reject", .save 0, .disburse 1 0 7 0, .save 0] ∧
        AllSteps step Final pendingDesk [.read 1 0 manager "approve",
          .read 1 0 manager "reject", .save 0, .disburse 1 0 7 0, .save 0]) := by
  constructor
  · decide +kernel
  · rintro ⟨hone, -⟩
    have htwice : ¬ ((run step pendingDesk [.read 1 0 manager "approve",
        .read 1 0 manager "reject", .save 0, .disburse 1 0 7 0, .save 0]).decisions.map
          (·.1)).Nodup := by decide +kernel
    exact htwice hone.last

end DecisionDesk

end FinylDcp
