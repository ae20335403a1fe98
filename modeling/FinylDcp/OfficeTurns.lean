import FinylDcp.DecisionPostings
import FinylDcp.LoanLifecycle
import FinylDcp.Office
import FinylDcp.Runs

/-!
# Every event at the office is a chain of postings

An office whose calls are those of its transactions stays one, and whatever happens there
posts only what its event allows.
-/
namespace FinylDcp
open Db Runs

/-- The loan on which a decision sends a refund: the request is a waiting loan refund that its
overpayment covers. -/
def refundedLoan (db : Db) (tenantId pendingId : ℕ) (action : String) : Option ℕ :=
  (db.pending[pendingId]?).bind (fun p =>
    if p.tenantId = tenantId ∧ p.status = .pendingApproval ∧ p.actionType = .refund ∧
        action = "approve" then
      p.loanId.filter (fun loanId => (loanRow db tenantId loanId).any (fun loan =>
        p.amount ≤ refundableOverpayment db tenantId loanId loan none false))
    else none)

/-- An answer or result for a suspense entry comes while the entry is not disposed of. -/
def Timely (db : Db) (calls : List OpenCall) : MoneyEvent → Prop
  | .answer n _ _ _ => ∀ c ∈ calls[n]?, ∀ txnId ∈ c.call.refundTxn,
      ∀ row ∈ db.transactions[txnId]?, refundAnswerFlow db row = .still
  | .result body _ => ∀ found ∈ findB2cTxn db body.conversationId body.originatorId,
      resultFlow db found.2 body.resultCode = .still
  | .resolve _ txnId _ outcome _ _ _ => ∀ row ∈ db.transactions[txnId]?,
      resultFlow db row (if outcome = "paid" then "0" else "MANUAL_NOT_PAID") = .still
  | .reversalResult body _ => ∀ found ∈ findReversalTxn db body.conversationId body.originatorId,
      reversalFlow db found.2 = .still
  | _ => True

instance (db : Db) (calls : List OpenCall) (e : MoneyEvent) : Decidable (Timely db calls e) := by
  unfold Timely
  split <;> infer_instance

/-- The event brings money in, or moves it to a loan. -/
def OfficeEvent.takesIn : OfficeEvent → Bool
  | .receive _ _ | .money (.park ..) | .money (.allocate ..) | .money (.decide ..) => true
  | _ => false

/-- The flows an event may post. -/
def OfficeEvent.Allows (s : Office) (e : OfficeEvent) : Flow → Prop
  | .still | .payout => True
  | .listing product => match e with
    | .createProduct listed _ | .updateProduct _ _ listed _ => product = listed
    | _ => False
  | .application principal => match e with
    | .apply _ _ body _ => principal = body.principal
    | _ => False
  | .inward => e.takesIn = true
  | .loanRefund loanId => match e with
    | .money (.decide tenantId pendingId action ..) =>
      refundedLoan s.db tenantId pendingId action = some loanId
    | _ => False
  | .late => match e with
    | .money m => ¬ Timely s.db s.desk.calls m
    | _ => False

/-- A call is that of its transaction, and of its tenant. -/
structure OpenCall.Owned (db : Db) (c : OpenCall) : Prop where
  sound : CallSound db c
  tenant : ∀ txnId ∈ c.call.refundTxn, ∀ row ∈ db.transactions[txnId]?, row.tenantId = c.tenantId

/-- Every call under way is that of its transaction. -/
structure Office.Sound (s : Office) : Prop where
  calls : ∀ c ∈ s.desk.calls, c.Owned s.db
  payouts : ∀ call ∈ s.payouts, ∃ row ∈ s.db.transactions[call.txnId]?, row.outgoing = false

theorem outgoing_of_terms {t t' : PaymentTransaction} (h : t'.terms = t.terms) :
    t'.outgoing = t.outgoing := by
  have htype : t'.terms.type = t.terms.type := by rw [h]
  have htype : t'.type = t.type := htype
  simp [PaymentTransaction.outgoing, htype]

theorem purpose_of_terms {t t' : PaymentTransaction} (h : t'.terms = t.terms) :
    t'.purpose = t.purpose := by
  have hpurpose : t'.terms.purpose = t.terms.purpose := by rw [h]
  exact hpurpose

theorem actionType_of_terms {p p' : PendingApproval} (h : p'.terms = p.terms) :
    p'.actionType = p.actionType := by
  have htype : p'.terms.actionType = p.terms.actionType := by rw [h]
  exact htype

theorem tenantId_of_terms {t t' : PaymentTransaction} (h : t'.terms = t.terms) :
    t'.tenantId = t.tenantId := by
  have htenant : t'.terms.tenantId = t.terms.tenantId := by rw [h]
  exact htenant

theorem CallSound.of_terms {db db' : Db} {c : OpenCall} (h : CallSound db c)
    (hstay : TermsStay db db') : CallSound db' c :=
  h.of_stays
    (fun i t ht => (hstay.transactions i t ht).imp fun _ h => ⟨h.1, purpose_of_terms h.2⟩)
    fun i p hp => (hstay.pending i p hp).imp fun _ h => ⟨h.1, actionType_of_terms h.2⟩

theorem CallSound.refundRow {db : Db} {c : OpenCall} (h : CallSound db c) {txnId : ℕ}
    (htxn : c.call.refundTxn = some txnId) :
    ∃ row, db.transactions[txnId]? = some row ∧ row.type = .refund := by
  obtain ⟨tenantId, pendingId, checkerId, call⟩ := c
  cases call with
  | payout loanId id => cases htxn
  | refund id =>
    obtain rfl := Option.some.inj htxn
    obtain ⟨⟨row, hrow, htype, -⟩, -⟩ := h
    exact ⟨row, hrow, htype⟩
  | reversal entryId => cases htxn

theorem OpenCall.Owned.of_terms {db db' : Db} {c : OpenCall} (h : c.Owned db)
    (hstay : TermsStay db db') : c.Owned db' where
  sound := h.sound.of_terms hstay
  tenant := by
    intro txnId htxn row' hrow'
    obtain ⟨row, hrow, -⟩ := h.sound.refundRow htxn
    obtain ⟨kept, hkept, hterms⟩ := hstay.transactions txnId row hrow
    obtain rfl := Option.some.inj (hkept.symm.trans hrow')
    exact (tenantId_of_terms hterms).trans (h.tenant txnId htxn row hrow)

section Requests

variable {allowed : Flow → Prop}

theorem disburseLoan_postings (hstill : allowed .still) {db : Db} {tenantId makerId loanId : ℕ}
    {needsChecker : Bool} {reason : Option String} {now : ℤ} {out : Db × Option ℕ}
    (h : disburseLoan db tenantId makerId loanId needsChecker reason now = .ok out) :
    Postings allowed db out.1 ∧
      ∀ txnId ∈ out.2, ∃ row ∈ out.1.transactions[txnId]?, row.outgoing = false := by
  simp only [disburseLoan] at h
  split at h
  · cases h
  split at h
  · cases h
  split at h
  · split at h
    · cases h
    · obtain ⟨saved, hcommit, h⟩ := bind_eq_ok.mp h
      obtain ⟨-, rfl⟩ := Db.commit_eq_ok.mp hcommit
      cases h
      exact ⟨.single (.requested _ ⟨rfl, by simp [ActionType.ofSuspense], by simp⟩) hstill, by simp⟩
  · obtain ⟨begun, hbegun, h⟩ := bind_eq_ok.mp h
    obtain ⟨saved, hcommit, h⟩ := bind_eq_ok.mp h
    obtain ⟨-, rfl⟩ := Db.commit_eq_ok.mp hcommit
    cases h
    obtain ⟨-, -, hrow⟩ := beginDisbursement_deed hbegun
    refine ⟨beginDisbursement_postings hstill hbegun, fun txnId htxn => ?_⟩
    obtain rfl := Option.mem_some_iff.mp htxn
    exact hrow

theorem stkPush_postings (hstill : allowed .still) {db saved : Db} {tenantId loanId : ℕ}
    {amount : ℤ}
    {reply : StkReply} {now : ℤ} (h : stkPush db tenantId loanId amount reply now = .ok saved) :
    Postings allowed db saved := by
  simp only [stkPush] at h
  split at h
  · cases h
  split at h
  · cases h
  · cases h
  · cases h
  · cases h
  · obtain ⟨-, rfl⟩ := Db.commit_eq_ok.mp h
    exact .single (.noted _ (.inr rfl)) hstill

theorem applyForLoan_postings {db : Db} {catalogue : Catalogue} {tenantId : ℕ}
    {applicant : Applicant}
    {body : LoanApplication} {year : ℤ} {out : Db × ℕ}
    (hlends : allowed (.application body.principal))
    (h : applyForLoan db catalogue tenantId applicant body year = .ok out) :
    Postings allowed db out.1 := by
  obtain ⟨borrower, product, -, -, hproduct, -, hdb⟩ := applyForLoan_eq_ok h
  rw [hdb]
  exact .single (.applied tenantId body product _ (List.mem_of_getElem? hproduct)) hlends

/-- An edit of a product. -/
theorem editProduct_postings {db : Db} {product : Product} {productId : ℕ}
    (hlists : allowed (.listing product)) :
    Postings allowed db
      { db with products := db.products.modify productId (fun _ => product) } := by
  refine .single (.listed product _ fun listed hlisted => ?_) hlists
  obtain ⟨i, hi⟩ := List.mem_iff_getElem?.mp hlisted
  rw [List.getElem?_modify] at hi
  obtain ⟨old, hold, rfl⟩ := Option.map_eq_some_iff.mp hi
  split
  · exact .inr rfl
  · exact .inl (List.mem_of_getElem? hold)

/-- Money coming in on any channel. -/
theorem deliver_postings (hstill : allowed .still) (hinward : allowed .inward) {db : Db}
    {shortcodeToTenant : String → Option ℕ} {d : Delivery} {out : Db × Reply}
    (h : deliver shortcodeToTenant db d = .ok out) : Postings allowed db out.1 := by
  cases d with
  | c2b cb freshRef now =>
    rw [deliver] at h
    exact processC2bCallback_postings hstill hinward h
  | stk cb freshRef now =>
    rw [deliver] at h
    exact processStkCallback_postings hstill hinward h
  | manual tenantId makerId body needsChecker freshRef now =>
    rw [deliver] at h
    exact recordManualPayment_postings hstill hinward h
  | reconcile tenantId makerId loanId amount mpesaRef needsChecker freshRef now =>
    rw [deliver] at h
    exact reconcilePayment_postings hstill hinward h
  | allocate tenantId makerId entryId loanId needsChecker now =>
    rw [deliver] at h
    exact allocateSuspense_postings hstill hinward h
  | decide tenantId pendingId action checker freshRef now =>
    simp only [deliver, decideInward] at h
    split at h
    · rename_i hkind
      obtain ⟨begun, hbegun, rfl⟩ := map_eq_ok.mp h
      refine beginDecision_postings hstill (fun _ => hinward)
        (fun p loanId loan hp _ _ htype _ _ _ => ?_) hbegun
      simp [hp.row, ActionType.inward, htype] at hkind
    · cases h
  | upkeep u =>
    cases h
    exact upkeep_postings hstill db u

end Requests

theorem reversal_waits {db : Db} {tenantId pendingId : ℕ} {action : String} {checker : Checker}
    {freshRef : String} {now : ℤ} {db' : Db} {id : ℕ}
    (h : beginDecision db tenantId pendingId action checker freshRef now =
      .ok (db', .waiting (.reversal id))) : db' = db ∧ ∃ p entry, Waiting db pendingId p ∧
        p.tenantId = tenantId ∧ p.actionType = .suspenseReversal ∧ Locked db p id entry := by
  have hbegins := beginDecision_begins h
  generalize hout : ((db', .waiting (.reversal id)) : Db × Progress) = out at hbegins
  cases hbegins with
  | finishes => cases hout
  | pays => cases hout
  | refunds => cases hout
  | reverses p hp htype id entry hlocked htenant =>
    cases hout
    exact ⟨rfl, p, entry, hp, htenant, htype, hlocked⟩

section Desk

variable {allowed : Flow → Prop} {s : MoneyDesk}

theorem desk_saved_postings {x : Except Failure Db}
    (h : ∀ db, x = .ok db → Postings allowed s.db db) :
    Postings allowed s.db (s.saved x).db := by
  cases x with
  | ok db => exact h db rfl
  | error failure => exact .refl allowed s.db

/-- What a decision posts: nothing is committed of a reversal that was not taken in. -/
theorem decide_postings (hstill : allowed .still) {tenantId pendingId : ℕ} {action : String}
    {checker : Checker} {freshRef : String} {reply : B2cReply} {receipt : String} {now : ℤ}
    (hinward : (s.db.pending[pendingId]?).any (fun p => p.actionType.inward) = true →
      allowed .inward)
    (hrefund : ∀ loanId, refundedLoan s.db tenantId pendingId action = some loanId →
      allowed (.loanRefund loanId)) :
    Postings allowed s.db
      (s.step (.decide tenantId pendingId action checker freshRef reply receipt now)).db := by
  simp only [MoneyDesk.step]
  split
  · exact .refl allowed s.db
  rename_i begun hbegun
  have hposted : Postings allowed s.db begun.1 := by
    refine beginDecision_postings hstill hinward
      (fun p loanId loan hp htenant haction htype hid hloan hfits => ?_) hbegun
    subst htenant
    exact hrefund loanId
      (by simp [refundedLoan, hp.row, hp.waits, htype, haction, hid, hloan, hfits])
  obtain ⟨db, progress⟩ := begun
  cases progress with
  | finished payment => exact hposted
  | waiting call =>
    cases call with
    | payout loanId txnId => exact hposted
    | refund txnId => exact hposted
    | reversal entryId =>
      obtain ⟨rfl, p, entry, hp, rfl, htype, hlocked⟩ := reversal_waits hbegun
      simp only [MoneyDesk.decide]
      split
      · rename_i saved hsaved
        exact finishReversal_postings hstill hp htype hlocked hsaved
      · split
        · exact .refl allowed s.db
        · exact .refl allowed s.db

/-- What an event at the desk posts. -/
theorem desk_postings (hstill : allowed .still) (hpayout : allowed .payout) (e : MoneyEvent)
    (hcalls : ∀ c ∈ s.calls, c.Owned s.db)
    (hinward : (OfficeEvent.money e).takesIn = true → allowed .inward)
    (hrefund : ∀ loanId, (match e with
      | .decide tenantId pendingId action .. => refundedLoan s.db tenantId pendingId action
      | _ => none) = some loanId → allowed (.loanRefund loanId))
    (hlate : ¬ Timely s.db s.calls e → allowed .late) : Postings allowed s.db (s.step e).db := by
  have htimed : ∀ (late : Bool), (Timely s.db s.calls e → Flow.timed late = .still) →
      allowed (.timed late) := by
    intro late h
    by_cases htimely : Timely s.db s.calls e
    · rw [h htimely]
      exact hstill
    · exact allowed_timed hstill fun _ => hlate htimely
  cases e with
  | park x now =>
    refine desk_saved_postings fun db hdb => ?_
    obtain ⟨-, rfl⟩ := Db.commit_eq_ok.mp hdb
    exact recordSuspense_postings (hinward rfl) s.db x now
  | allocate tenantId makerId entryId loanId needsChecker now =>
    simp only [MoneyDesk.step]
    split
    · exact .refl allowed s.db
    · exact allocateSuspense_postings hstill (hinward rfl) ‹_›
    · exact allocateSuspense_postings hstill (hinward rfl) ‹_›
  | refund tenantId makerId entryId phone note =>
    exact desk_saved_postings fun db hdb => refundSuspense_postings hstill hdb
  | reverse tenantId makerId entryId note =>
    exact desk_saved_postings fun db hdb => reverseSuspense_postings hstill hdb
  | refundLoan tenantId makerId loanId phone amount reason =>
    exact desk_saved_postings fun db hdb => refundPayment_postings hstill hdb
  | decide tenantId pendingId action checker freshRef reply receipt now =>
    exact decide_postings hstill (fun _ => hinward rfl) hrefund
  | answer n reply receipt now =>
    simp only [MoneyDesk.step]
    split
    · exact .refl allowed s.db
    rename_i c hc
    have howned := hcalls c (List.mem_of_getElem? hc)
    refine desk_saved_postings fun db hdb => ?_
    obtain ⟨tenantId, pendingId, checkerId, call⟩ := c
    cases call with
    | payout loanId txnId =>
      obtain ⟨⟨row, hrow, hout⟩, -⟩ := howned.sound
      exact finishPayout_postings hstill hrow hout hdb
    | refund txnId =>
      obtain ⟨row, hrow, htype⟩ := howned.sound.refundRow rfl
      obtain rfl : row.tenantId = tenantId := howned.tenant txnId rfl row hrow
      exact finishRefund_postings hstill hrow htype
        (htimed _ fun htimely => htimely _ hc txnId rfl row hrow) hdb
    | reversal entryId => exact absurd howned.sound id
  | stop n => exact .refl allowed s.db
  | result body now =>
    exact desk_saved_postings fun db hdb => processB2cResult_postings hstill hpayout
      (fun found hfound => htimed _ fun htimely => htimely found hfound) hdb
  | timeout body => exact desk_saved_postings fun db hdb => processB2cTimeout_postings hstill hdb
  | reversalResult body now =>
    exact desk_saved_postings fun db hdb => processReversalResult_postings hstill
      (fun found hfound => htimed _ fun htimely => htimely found hfound) hdb
  | reversalTimeout body =>
    exact desk_saved_postings fun db hdb => processReversalTimeout_postings hstill hdb
  | resolve tenantId txnId checker outcome receipt note now =>
    exact desk_saved_postings fun db hdb => resolvePayoutRequest_postings hstill hpayout
      (fun row hrow => htimed _ fun htimely => htimely row hrow) hdb

@[simp] theorem desk_saved_calls (s : MoneyDesk) (x : Except Failure Db) :
    (s.saved x).calls = s.calls := by
  cases x <;> rfl

/-- A new call is that of the refund it was saved for, or none. -/
theorem desk_calls {e : MoneyEvent} {c : OpenCall} (hc : c ∈ (s.step e).calls) :
    c ∈ s.calls ∨ ∀ txnId ∈ c.call.refundTxn, ∃ row, (s.step e).db.transactions[txnId]? = some row ∧
      row.tenantId = c.tenantId := by
  cases e with
  | decide tenantId pendingId action checker freshRef reply receipt now =>
    simp only [MoneyDesk.step] at hc ⊢
    split at hc
    · exact .inl hc
    rename_i begun hbegun
    have hbegins := beginDecision_begins hbegun
    cases hbegins with
    | finishes => exact .inl hc
    | pays db p hp htype loanId txnId =>
      obtain hold | hnew := List.mem_append.mp hc
      · exact .inl hold
      · obtain rfl := List.mem_singleton.mp hnew
        exact .inr (by simp [OutgoingCall.refundTxn])
    | refunds db p hp htype row hrow hrefund hnew =>
      obtain hold | hcall := List.mem_append.mp hc
      · exact .inl hold
      · obtain rfl := List.mem_singleton.mp hcall
        refine .inr fun txnId htxn => ?_
        obtain rfl := Option.mem_some_iff.mp htxn
        exact ⟨row, hrow, hnew.2.2⟩
    | reverses p hp htype id entry hlocked htenant =>
      simp only [MoneyDesk.decide] at hc
      split at hc
      · exact .inl hc
      · split at hc <;> exact .inl hc
  | allocate tenantId makerId entryId loanId needsChecker now =>
    simp only [MoneyDesk.step] at hc
    split at hc <;> exact .inl hc
  | answer n reply receipt now =>
    simp only [MoneyDesk.step] at hc
    split at hc
    · exact .inl hc
    · exact .inl (List.mem_of_mem_eraseIdx hc)
  | stop n => exact .inl (List.mem_of_mem_eraseIdx hc)
  | _ => exact .inl (by simpa [MoneyDesk.step] using hc)

/-- Calls stay those of their transactions and tenants. -/
theorem desk_owned (hcalls : ∀ c ∈ s.calls, c.Owned s.db) (e : MoneyEvent) :
    ∀ c ∈ (s.step e).calls, c.Owned (s.step e).db := by
  have hposted : Postings (fun _ => True) s.db (s.step e).db :=
    desk_postings trivial trivial e hcalls (fun _ => trivial) (fun _ _ => trivial) fun _ => trivial
  have hsound := (MoneyDesk.step_turn (fun c hc => (hcalls c hc).sound) e).calls_sound
    fun c hc => (hcalls c hc).sound
  intro c hc
  obtain hold | hnew := desk_calls hc
  · exact (hcalls c hold).of_terms hposted.termsStay
  · refine ⟨hsound c hc, fun txnId htxn row hrow => ?_⟩
    obtain ⟨row', hrow', htenant⟩ := hnew txnId htxn
    obtain rfl := Option.some.inj (hrow'.symm.trans hrow)
    exact htenant

end Desk

theorem office_saved_postings {allowed : Flow → Prop} {s : Office} {x : Except Failure Db}
    (h : ∀ db, x = .ok db → Postings allowed s.db db) : Postings allowed s.db (s.saved x).db := by
  cases x with
  | ok db => exact h db rfl
  | error failure => exact .refl allowed s.db

/-- Every event at the office posts what it allows. -/
theorem Office.Sound.postings {s : Office} (h : s.Sound) (e : OfficeEvent) :
    Postings (e.Allows s) s.db (s.step e).db := by
  have hstill : e.Allows s .still := trivial
  have hpayout : e.Allows s .payout := trivial
  cases e with
  | createProduct product listing =>
    refine .single (.listed product _ fun listed hlisted => ?_) (show _ from rfl)
    simpa using hlisted
  | updateProduct tenantId productId product listing =>
    simp only [step, updateProduct]
    split
    · rename_i out hout
      split at hout
      · cases hout
        exact editProduct_postings (show _ from rfl)
      · cases hout
    · exact .refl _ s.db
  | clients borrowers profiles =>
    exact .single (.aside borrowers s.db.lockLogs s.db.paymentsConfigs) hstill
  | apply tenantId applicant body year =>
    refine office_saved_postings fun db hdb => ?_
    obtain ⟨out, hout, rfl⟩ := map_eq_ok.mp hdb
    exact applyForLoan_postings (show _ from rfl) hout
  | decideLoan tenantId loanId decider action =>
    exact office_saved_postings fun db hdb => decideLoan_postings hstill hdb
  | transition tenantId loanId seesLoan status now =>
    exact office_saved_postings fun db hdb => transitionLoan_postings hstill hdb
  | disburse tenantId makerId loanId needsChecker reason now =>
    simp only [step]
    split
    · exact .refl _ s.db
    · exact (disburseLoan_postings hstill ‹_›).1
    · exact (disburseLoan_postings hstill ‹_›).1
  | answerPayout txnId reply =>
    simp only [step]
    split
    · exact .refl _ s.db
    rename_i call hcall
    obtain ⟨row, hrow, hout⟩ := h.payouts call (List.mem_of_find?_eq_some hcall)
    have htxn : call.txnId = txnId := by simpa using List.find?_some hcall
    refine office_saved_postings fun db hdb => ?_
    exact finishDisbursement_postings hstill (htxn ▸ hrow) hout hdb
  | stopPayout txnId => exact .refl _ s.db
  | sweep tenantId configured stuckMinutes now receipts =>
    refine office_saved_postings fun db hdb => ?_
    obtain ⟨out, hout, rfl⟩ := map_eq_ok.mp hdb
    exact sweepTenant_postings hstill hpayout hout
  | reconcilePayouts tenantId configured olderThanMinutes now simulate receipts =>
    refine office_saved_postings fun db hdb => ?_
    obtain ⟨out, hout, rfl⟩ := map_eq_ok.mp hdb
    exact reconcileDisbursements_postings hstill hpayout hout
  | stkPush tenantId loanId amount reply now =>
    exact office_saved_postings fun db hdb => stkPush_postings hstill hdb
  | receive shortcodeToTenant d =>
    refine office_saved_postings fun db hdb => ?_
    obtain ⟨out, hout, rfl⟩ := map_eq_ok.mp hdb
    exact deliver_postings hstill (show _ from rfl) hout
  | money e =>
    refine desk_postings hstill hpayout e h.calls (fun htakes => htakes) (fun loanId hloan => ?_)
      fun hlate => hlate
    cases e with
    | decide tenantId pendingId action checker freshRef reply receipt now => exact hloan
    | _ => cases hloan

@[simp] theorem office_saved_calls (s : Office) (x : Except Failure Db) :
    (s.saved x).desk.calls = s.desk.calls ∧ (s.saved x).payouts = s.payouts := by
  cases x <;> exact ⟨rfl, rfl⟩

/-- Only the desk has calls of decisions. -/
theorem office_calls {s : Office} {e : OfficeEvent} (he : ∀ m, e ≠ .money m) :
    (s.step e).desk.calls = s.desk.calls := by
  cases e with
  | updateProduct | disburse | answerPayout =>
      simp only [Office.step]; split <;> simp [Office.withDb]
  | money m => exact absurd rfl (he m)
  | _ => simp [Office.step, Office.withDb]

/-- A payout call under way is an old one, or that of the payout just started. -/
theorem office_payouts {s : Office} {e : OfficeEvent} {call : PayoutCall}
    (hcall : call ∈ (s.step e).payouts) : call ∈ s.payouts ∨
      ∃ row ∈ (s.step e).db.transactions[call.txnId]?, row.outgoing = false := by
  cases e with
  | disburse tenantId makerId loanId needsChecker reason now =>
    simp only [Office.step] at hcall ⊢
    split at hcall
    · exact .inl hcall
    · exact .inl hcall
    · rename_i db txnId hdisbursed
      obtain hold | hnew := List.mem_append.mp hcall
      · exact .inl hold
      · obtain rfl := List.mem_singleton.mp hnew
        exact .inr ((@disburseLoan_postings
          (fun _ => True) trivial _ _ _ _ _ _ _ _ hdisbursed).2 txnId
          rfl)
  | answerPayout txnId reply =>
    simp only [Office.step] at hcall
    split at hcall
    · exact .inl hcall
    · exact .inl (List.mem_of_mem_filter hcall)
  | stopPayout txnId => exact .inl (List.mem_of_mem_filter hcall)
  | updateProduct tenantId productId product listing =>
    simp only [Office.step] at hcall
    split at hcall <;> exact .inl hcall
  | _ => exact .inl (by simpa [Office.step, Office.withDb] using hcall)

/-- An office stays sound. -/
theorem Office.Sound.step {s : Office} (h : s.Sound) (e : OfficeEvent) : (s.step e).Sound := by
  have hstay := (h.postings e).termsStay
  constructor
  · by_cases hmoney : ∃ m, e = .money m
    · obtain ⟨m, rfl⟩ := hmoney
      exact desk_owned h.calls m
    · intro c hc
      rw [office_calls fun m hm => hmoney ⟨m, hm⟩] at hc
      exact (h.calls c hc).of_terms hstay
  · intro call hcall
    obtain hold | hnew := office_payouts hcall
    · obtain ⟨row, hrow, hout⟩ := h.payouts call hold
      obtain ⟨row', hrow', hterms⟩ := hstay.transactions _ row hrow
      exact ⟨row', hrow', (outgoing_of_terms hterms).trans hout⟩
    · exact hnew

/-- An office with nothing under way. -/
def Office.opening (db : Db) (catalogue : Catalogue) : Office := ⟨⟨db, [], [], []⟩, [], catalogue⟩

theorem Office.opening_sound (db : Db) (catalogue : Catalogue) : (opening db catalogue).Sound :=
  ⟨by simp [opening], by simp [opening]⟩

end FinylDcp
