import FinylDcp.OfficeTurns
import FinylDcp.TenantPayouts

/-!
# Tenants are kept apart

Every event at the office is for one tenant at most, and keeps to the rows of its books. So
whatever is done for others, in any order, leaves the books of a tenant alone.
-/
namespace FinylDcp
open Db Tables Runs

/-- The tenant a delivery is for: the one that asks, or the one of the row or the number that a
callback names. -/
def Delivery.tenant (shortcodeToTenant : String → Option ℕ) (db : Db) : Delivery → Option ℕ
  | .c2b cb _ _ => (c2bTenant db shortcodeToTenant cb).toOption
  | .stk cb _ _ => (stkTransaction db cb).map (·.tenantId)
  | .manual tenantId .. | .reconcile tenantId .. | .allocate tenantId .. | .decide tenantId .. =>
    some tenantId
  | .upkeep u => u.tenant db

/-- The tenant an event at the desk is for. -/
def MoneyEvent.tenant (s : MoneyDesk) : MoneyEvent → Option ℕ
  | .park x _ => some x.tenantId
  | .allocate tenantId .. | .refund tenantId .. | .reverse tenantId .. | .refundLoan tenantId ..
  | .decide tenantId .. | .resolve tenantId .. => some tenantId
  | .answer n _ _ _ => (s.calls[n]?).map (·.tenantId)
  | .stop _ => none
  | .result body _ | .timeout body =>
    (findB2cTxn s.db body.conversationId body.originatorId).map (·.2.tenantId)
  | .reversalResult body _ | .reversalTimeout body =>
    (findReversalTxn s.db body.conversationId body.originatorId).map (·.2.tenantId)

/-- The tenant an event is for. A product and the client registry touch no row of the books. -/
def OfficeEvent.tenant (s : Office) : OfficeEvent → Option ℕ
  | .createProduct _ _ | .updateProduct .. | .clients _ _ | .stopPayout _ => none
  | .apply tenantId .. | .decideLoan tenantId .. | .transition tenantId .. | .disburse tenantId ..
  | .sweep tenantId .. | .reconcilePayouts tenantId .. | .stkPush tenantId .. => some tenantId
  | .answerPayout txnId _ => (s.payouts.find? (fun call => call.txnId = txnId)).map (·.tenantId)
  | .receive shortcodeToTenant d => d.tenant shortcodeToTenant s.db
  | .money e => e.tenant s.desk

/-- A call under way is about a request and a row of its tenant. -/
structure OpenCall.Tenanted (db : Db) (c : OpenCall) : Prop where
  request : ∃ p ∈ db.pending[c.pendingId]?, p.tenantId = c.tenantId
  row : c.call.About db c.tenantId

/-- Every call under way is about rows of its tenant. -/
structure Office.Tenanted (s : Office) : Prop where
  calls : ∀ c ∈ s.desk.calls, c.Tenanted s.db
  payouts : ∀ call ∈ s.payouts, ∃ t ∈ s.db.transactions[call.txnId]?, t.tenantId = call.tenantId

section Requests

variable {tenantId : ℕ} {db saved : Db}

theorem disburseLoan_confined {makerId loanId : ℕ} {needsChecker : Bool} {reason : Option String}
    {now : ℤ} {out : Db × Option ℕ}
    (h : disburseLoan db tenantId makerId loanId needsChecker reason now = .ok out) :
    Confined tenantId db out.1 ∧
      ∀ txnId ∈ out.2, ∃ t ∈ out.1.transactions[txnId]?, t.tenantId = tenantId := by
  simp only [disburseLoan] at h
  split at h
  · cases h
  split at h
  · cases h
  split at h
  · split at h
    · cases h
    · obtain ⟨saved, hcommit, h⟩ := bind_eq_ok.mp h
      obtain ⟨-, rfl⟩ := Db.commit_eq_ok.mp hcommit
      cases h
      exact ⟨.addRequest rfl, by simp⟩
  · obtain ⟨begun, hbegun, h⟩ := bind_eq_ok.mp h
    obtain ⟨saved, hcommit, h⟩ := bind_eq_ok.mp h
    obtain ⟨-, rfl⟩ := Db.commit_eq_ok.mp hcommit
    cases h
    refine ⟨beginDisbursement_confined hbegun, fun txnId htxn => ?_⟩
    obtain rfl := Option.mem_some_iff.mp htxn
    exact beginDisbursement_row hbegun

theorem stkPush_confined {loanId : ℕ} {amount : ℤ} {reply : StkReply} {now : ℤ}
    (h : stkPush db tenantId loanId amount reply now = .ok saved) : Confined tenantId db saved := by
  simp only [stkPush] at h
  split at h
  · cases h
  split at h
  · cases h
  · cases h
  · cases h
  · cases h
  · obtain ⟨-, rfl⟩ := Db.commit_eq_ok.mp h
    exact .addTransaction rfl

theorem deliver_confined {shortcodeToTenant : String → Option ℕ} {d : Delivery} {out : Db × Reply}
    (htenant : ∀ t ∈ d.tenant shortcodeToTenant db, t = tenantId)
    (h : deliver shortcodeToTenant db d = .ok out) : Confined tenantId db out.1 := by
  cases d with
  | c2b cb freshRef now =>
    rw [deliver] at h
    cases hrouted : c2bTenant db shortcodeToTenant cb with
    | error failure =>
      rw [processC2bCallback, hrouted] at h
      cases h
    | ok routed =>
      have hsome : (Delivery.c2b cb freshRef now).tenant shortcodeToTenant db = some routed := by
        rw [Delivery.tenant, hrouted]
        rfl
      obtain rfl := htenant routed hsome
      exact processC2bCallback_confined hrouted h
  | stk cb freshRef now =>
    rw [deliver] at h
    refine processStkCallback_confined (fun t ht => htenant _ ?_) h
    rw [Delivery.tenant, Option.mem_def.mp ht]
    rfl
  | manual maker makerId body needsChecker freshRef now =>
    obtain rfl := htenant maker rfl
    rw [deliver] at h
    exact recordManualPayment_confined h
  | reconcile maker makerId loanId amount mpesaRef needsChecker freshRef now =>
    obtain rfl := htenant maker rfl
    rw [deliver] at h
    exact reconcilePayment_confined h
  | allocate maker makerId entryId loanId needsChecker now =>
    obtain rfl := htenant maker rfl
    rw [deliver] at h
    exact allocateSuspense_confined h
  | decide maker pendingId action checker freshRef now =>
    obtain rfl := htenant maker rfl
    simp only [deliver, decideInward] at h
    split at h
    · obtain ⟨begun, hbegun, rfl⟩ := map_eq_ok.mp h
      exact beginDecision_confined hbegun
    · cases h
  | upkeep u =>
    cases h
    exact upkeep_confined fun t ht => htenant t ht

end Requests

section Desk

variable {tenantId : ℕ} {s : MoneyDesk}

theorem desk_saved_confined {x : Except Failure Db}
    (h : ∀ db, x = .ok db → Confined tenantId s.db db) : Confined tenantId s.db (s.saved x).db := by
  cases x with
  | ok db => exact h db rfl
  | error failure => exact .refl tenantId s.db

theorem decide_confined {pendingId : ℕ} {action : String} {checker : Checker} {freshRef : String}
    {reply : B2cReply} {receipt : String} {now : ℤ} : Confined tenantId s.db
      (s.step (.decide tenantId pendingId action checker freshRef reply receipt now)).db := by
  simp only [MoneyDesk.step]
  split
  · exact .refl tenantId s.db
  rename_i begun hbegun
  have hconfined : Confined tenantId s.db begun.1 := beginDecision_confined hbegun
  obtain ⟨db, progress⟩ := begun
  cases progress with
  | finished payment => exact hconfined
  | waiting call =>
    cases call with
    | payout loanId txnId => exact hconfined
    | refund txnId => exact hconfined
    | reversal entryId =>
      obtain ⟨hrequest, habout⟩ := beginDecision_about hbegun
      simp only [MoneyDesk.decide]
      split
      · rename_i saved hsaved
        have hown := own_of_exists PendingApproval.tenantId hrequest
        exact hconfined.trans
          (finishDecision_confined (hconfined.ownRequest hown) habout (by rw [hsaved]))
      · split
        · exact .refl tenantId s.db
        · exact .refl tenantId s.db

/-- An event at the desk keeps to the rows of the tenant it is for. -/
theorem desk_confined {e : MoneyEvent} (hcalls : ∀ c ∈ s.calls, c.Tenanted s.db)
    (htenant : ∀ t ∈ e.tenant s, t = tenantId) : Confined tenantId s.db (s.step e).db := by
  cases e with
  | park x now =>
    refine desk_saved_confined fun db hdb => ?_
    obtain ⟨-, rfl⟩ := Db.commit_eq_ok.mp hdb
    exact recordSuspense_confined s.db now (htenant _ rfl)
  | allocate maker makerId entryId loanId needsChecker now =>
    obtain rfl := htenant maker rfl
    simp only [MoneyDesk.step]
    split
    · exact .refl maker s.db
    · exact allocateSuspense_confined ‹_›
    · exact allocateSuspense_confined ‹_›
  | refund maker makerId entryId phone note =>
    obtain rfl := htenant maker rfl
    exact desk_saved_confined fun db hdb => refundSuspense_confined hdb
  | reverse maker makerId entryId note =>
    obtain rfl := htenant maker rfl
    exact desk_saved_confined fun db hdb => reverseSuspense_confined hdb
  | refundLoan maker makerId loanId phone amount reason =>
    obtain rfl := htenant maker rfl
    exact desk_saved_confined fun db hdb => refundPayment_confined hdb
  | decide maker pendingId action checker freshRef reply receipt now =>
    obtain rfl := htenant maker rfl
    exact decide_confined
  | answer n reply receipt now =>
    simp only [MoneyDesk.step]
    split
    · exact .refl tenantId s.db
    rename_i c hc
    have htenanted := hcalls c (List.mem_of_getElem? hc)
    obtain rfl := htenant c.tenantId (by simp [MoneyEvent.tenant, hc])
    refine desk_saved_confined fun db hdb => ?_
    have hown := own_of_exists PendingApproval.tenantId htenanted.request
    exact finishDecision_confined hown htenanted.row hdb
  | stop n => exact .refl tenantId s.db
  | result body now =>
    refine desk_saved_confined fun db hdb => processB2cResult_confined (fun found hfound => ?_) hdb
    exact htenant _ (by simp [MoneyEvent.tenant, Option.mem_def.mp hfound])
  | timeout body =>
    refine desk_saved_confined fun db hdb => processB2cTimeout_confined (fun found hfound => ?_) hdb
    exact htenant _ (by simp [MoneyEvent.tenant, Option.mem_def.mp hfound])
  | reversalResult body now =>
    refine desk_saved_confined fun db hdb =>
      processReversalResult_confined (fun found hfound => ?_) hdb
    exact htenant _ (by simp [MoneyEvent.tenant, Option.mem_def.mp hfound])
  | reversalTimeout body =>
    refine desk_saved_confined fun db hdb =>
      processReversalTimeout_confined (fun found hfound => ?_) hdb
    exact htenant _ (by simp [MoneyEvent.tenant, Option.mem_def.mp hfound])
  | resolve maker txnId checker outcome receipt note now =>
    obtain rfl := htenant maker rfl
    exact desk_saved_confined fun db hdb => resolvePayoutRequest_confined hdb

theorem OpenCall.Tenanted.of_terms {db db' : Db} {c : OpenCall} (h : c.Tenanted db)
    (hstay : TermsStay db db') : c.Tenanted db' := by
  have htxns : ∀ txnId : ℕ, (∃ t ∈ db.transactions[txnId]?, t.tenantId = c.tenantId) →
      ∃ t ∈ db'.transactions[txnId]?, t.tenantId = c.tenantId := by
    rintro txnId ⟨t, ht, hmine⟩
    obtain ⟨t', ht', hterms⟩ := hstay.transactions txnId t ht
    exact ⟨t', ht', (tenantId_of_terms hterms).trans hmine⟩
  constructor
  · obtain ⟨p, hp, hmine⟩ := h.request
    obtain ⟨p', hp', hterms⟩ := hstay.pending c.pendingId p hp
    have htenant : p'.terms.tenantId = p.terms.tenantId := by rw [hterms]
    exact ⟨p', hp', htenant.trans hmine⟩
  · have hrow := h.row
    cases hcall : c.call with
    | payout loanId txnId =>
      rw [hcall] at hrow
      exact htxns txnId hrow
    | refund txnId =>
      rw [hcall] at hrow
      exact htxns txnId hrow
    | reversal entryId =>
      rw [hcall] at hrow
      obtain ⟨e, he, hmine⟩ := hrow
      obtain ⟨e', he', hterms⟩ := hstay.suspense entryId e he
      have htenant : e'.terms.tenantId = e.terms.tenantId := by rw [hterms]
      exact ⟨e', he', htenant.trans hmine⟩

/-- A new call is about rows of its tenant. -/
theorem desk_tenanted {e : MoneyEvent} {c : OpenCall} (hc : c ∈ (s.step e).calls) :
    c ∈ s.calls ∨ c.Tenanted (s.step e).db := by
  cases e with
  | decide maker pendingId action checker freshRef reply receipt now =>
    simp only [MoneyDesk.step] at hc ⊢
    split at hc
    · exact .inl hc
    rename_i begun hbegun
    obtain ⟨db, progress⟩ := begun
    have hstay : TermsStay s.db db :=
      (@beginDecision_postings (fun _ => True) trivial _ _ _ _ _ _ _ _ (fun _ => trivial)
        (fun _ _ _ _ _ _ _ _ _ _ => trivial) hbegun).termsStay
    have hnew : ∀ call, progress = .waiting call → OpenCall.Tenanted db
        ⟨maker, pendingId, checker.id, call⟩ := by
      rintro call rfl
      obtain ⟨⟨p, hp, hmine⟩, habout⟩ := beginDecision_about hbegun
      obtain ⟨p', hp', hterms⟩ := hstay.pending pendingId p hp
      have htenant : p'.terms.tenantId = p.terms.tenantId := by rw [hterms]
      exact ⟨⟨p', hp', htenant.trans hmine⟩, habout⟩
    cases progress with
    | finished payment => exact .inl hc
    | waiting call =>
      cases call with
      | payout loanId txnId =>
        refine (List.mem_append.mp hc).imp_right fun hcall => ?_
        obtain rfl := List.mem_singleton.mp hcall
        exact hnew _ rfl
      | refund txnId =>
        refine (List.mem_append.mp hc).imp_right fun hcall => ?_
        obtain rfl := List.mem_singleton.mp hcall
        exact hnew _ rfl
      | reversal entryId =>
        simp only [MoneyDesk.decide] at hc
        split at hc
        · exact .inl hc
        · split at hc <;> exact .inl hc
  | allocate maker makerId entryId loanId needsChecker now =>
    simp only [MoneyDesk.step] at hc
    split at hc <;> exact .inl hc
  | answer n reply receipt now =>
    simp only [MoneyDesk.step] at hc
    split at hc
    · exact .inl hc
    · exact .inl (List.mem_of_mem_eraseIdx hc)
  | stop n => exact .inl (List.mem_of_mem_eraseIdx hc)
  | _ => exact .inl (by simpa [MoneyDesk.step] using hc)

end Desk

section Office

variable {tenantId : ℕ} {s : Office} {e : OfficeEvent}

theorem office_saved_confined {x : Except Failure Db}
    (h : ∀ db, x = .ok db → Confined tenantId s.db db) : Confined tenantId s.db (s.saved x).db := by
  cases x with
  | ok db => exact h db rfl
  | error failure => exact .refl tenantId s.db

/-- An event at the office keeps to the rows of the tenant it is for; one for no tenant changes
no row. -/
theorem Office.Tenanted.confined (h : s.Tenanted) (htenant : ∀ t ∈ e.tenant s, t = tenantId) :
    Confined tenantId s.db (s.step e).db := by
  cases e with
  | createProduct product listing => exact .aside s.db _ _ _
  | updateProduct maker productId product listing =>
    simp only [step, updateProduct]
    split
    · rename_i out hout
      split at hout
      · cases hout
        exact .aside s.db _ _ _
      · cases hout
    · exact .refl tenantId s.db
  | clients borrowers profiles => exact .aside s.db _ _ _
  | apply maker applicant body year =>
    obtain rfl := htenant maker rfl
    refine office_saved_confined fun db hdb => ?_
    obtain ⟨out, hout, rfl⟩ := map_eq_ok.mp hdb
    exact applyForLoan_confined hout
  | decideLoan maker loanId decider action =>
    obtain rfl := htenant maker rfl
    exact office_saved_confined fun db hdb => decideLoan_confined hdb
  | transition maker loanId seesLoan status now =>
    obtain rfl := htenant maker rfl
    exact office_saved_confined fun db hdb => transitionLoan_confined hdb
  | disburse maker makerId loanId needsChecker reason now =>
    obtain rfl := htenant maker rfl
    simp only [step]
    split
    · exact .refl maker s.db
    · exact (disburseLoan_confined ‹_›).1
    · exact (disburseLoan_confined ‹_›).1
  | answerPayout txnId reply =>
    simp only [step]
    split
    · exact .refl tenantId s.db
    rename_i call hcall
    obtain rfl := htenant call.tenantId (by simp [OfficeEvent.tenant, hcall])
    have htxn : call.txnId = txnId := by simpa using List.find?_some hcall
    have hrow := h.payouts call (List.mem_of_find?_eq_some hcall)
    rw [htxn] at hrow
    refine office_saved_confined fun db hdb => ?_
    exact finishDisbursement_confined (own_of_exists _ hrow) hdb
  | stopPayout txnId => exact .refl tenantId s.db
  | sweep maker configured stuckMinutes now receipts =>
    obtain rfl := htenant maker rfl
    refine office_saved_confined fun db hdb => ?_
    obtain ⟨out, hout, rfl⟩ := map_eq_ok.mp hdb
    exact sweepTenant_confined hout
  | reconcilePayouts maker configured olderThanMinutes now simulate receipts =>
    obtain rfl := htenant maker rfl
    refine office_saved_confined fun db hdb => ?_
    obtain ⟨out, hout, rfl⟩ := map_eq_ok.mp hdb
    exact reconcileDisbursements_confined hout
  | stkPush maker loanId amount reply now =>
    obtain rfl := htenant maker rfl
    exact office_saved_confined fun db hdb => stkPush_confined hdb
  | receive shortcodeToTenant d =>
    refine office_saved_confined fun db hdb => ?_
    obtain ⟨out, hout, rfl⟩ := map_eq_ok.mp hdb
    exact deliver_confined htenant hout
  | money m => exact desk_confined h.calls htenant

/-- A payout call under way is an old one, or that of an intent of its tenant. -/
theorem office_tenanted {call : PayoutCall} (hcall : call ∈ (s.step e).payouts) :
    call ∈ s.payouts ∨
      ∃ t ∈ (s.step e).db.transactions[call.txnId]?, t.tenantId = call.tenantId := by
  cases e with
  | disburse maker makerId loanId needsChecker reason now =>
    simp only [Office.step] at hcall ⊢
    split at hcall
    · exact .inl hcall
    · exact .inl hcall
    · rename_i db txnId hdisbursed
      refine (List.mem_append.mp hcall).imp_right fun hnew => ?_
      obtain rfl := List.mem_singleton.mp hnew
      exact (disburseLoan_confined hdisbursed).2 txnId rfl
  | answerPayout txnId reply =>
    simp only [Office.step] at hcall
    split at hcall
    · exact .inl hcall
    · exact .inl (List.mem_of_mem_filter hcall)
  | stopPayout txnId => exact .inl (List.mem_of_mem_filter hcall)
  | updateProduct maker productId product listing =>
    simp only [Office.step] at hcall
    split at hcall <;> exact .inl hcall
  | _ => exact .inl (by simpa [Office.step, Office.withDb] using hcall)

/-- Calls under way stay about rows of their tenants. -/
theorem Office.Tenanted.step (hs : s.Sound) (h : s.Tenanted) (e : OfficeEvent) :
    (s.step e).Tenanted := by
  have hstay := (hs.postings e).termsStay
  constructor
  · intro c hc
    by_cases hmoney : ∃ m, e = .money m
    · obtain ⟨m, rfl⟩ := hmoney
      obtain hold | hnew := desk_tenanted hc
      · exact (h.calls c hold).of_terms hstay
      · exact hnew
    · rw [office_calls fun m hm => hmoney ⟨m, hm⟩] at hc
      exact (h.calls c hc).of_terms hstay
  · intro call hcall
    obtain hold | hnew := office_tenanted hcall
    · obtain ⟨t, ht, hmine⟩ := h.payouts call hold
      obtain ⟨t', ht', hterms⟩ := hstay.transactions _ t ht
      exact ⟨t', ht', (tenantId_of_terms hterms).trans hmine⟩
    · exact hnew

/-- An office that opened with nothing under way stays sound, with its calls about rows of their
tenants. -/
theorem office_run_tenanted (db : Db) (catalogue : Catalogue) (events : List OfficeEvent) :
    (run Office.step (Office.opening db catalogue) events).Sound ∧
      (run Office.step (Office.opening db catalogue) events).Tenanted := by
  induction events using List.reverseRecOn with
  | nil =>
    exact ⟨Office.opening_sound db catalogue, by simp [Office.opening], by simp [Office.opening]⟩
  | append_singleton events e ih =>
    rw [run_concat]
    exact ⟨ih.1.step e, ih.2.step ih.1 e⟩

/-- The books of a tenant are as they were: its loans, repayments, suspense entries, transactions,
requests and settings. -/
structure SameBooks (tenantId : ℕ) (before after : Db) : Prop where
  loans : SameRows Loan.tenantId tenantId before.loans after.loans
  repayments : SameRows Repayment.tenantId tenantId before.repayments after.repayments
  suspense : SameRows SuspenseEntry.tenantId tenantId before.suspense after.suspense
  transactions : SameRows PaymentTransaction.tenantId tenantId
    before.transactions after.transactions
  pending : SameRows PendingApproval.tenantId tenantId before.pending after.pending
  settings : SameRows PaymentsConfig.tenantId tenantId
    before.paymentsConfigs after.paymentsConfigs

theorem SameBooks.refl (tenantId : ℕ) (db : Db) : SameBooks tenantId db db :=
  ⟨.refl _, .refl _, .refl _, .refl _, .refl _, .refl _⟩

theorem SameBooks.trans {db db' db'' : Db} (h : SameBooks tenantId db db')
    (h' : SameBooks tenantId db' db'') : SameBooks tenantId db db'' where
  loans := h.loans.trans h'.loans
  repayments := h.repayments.trans h'.repayments
  suspense := h.suspense.trans h'.suspense
  transactions := h.transactions.trans h'.transactions
  pending := h.pending.trans h'.pending
  settings := h.settings.trans h'.settings

theorem Confined.sameBooks {other : ℕ} {db db' : Db} (h : Confined other db db')
    (hother : other ≠ tenantId) : SameBooks tenantId db db' where
  loans := h.loans.sameRows hother
  repayments := h.repayments.sameRows hother
  suspense := h.suspense.sameRows hother
  transactions := h.transactions.sameRows hother
  pending := h.pending.sameRows hother
  settings := h.settings.sameRows hother

/-- What is done for others leaves the books of a tenant. -/
theorem Office.Tenanted.sameBooks (h : s.Tenanted) (hother : e.tenant s ≠ some tenantId) :
    SameBooks tenantId s.db (s.step e).db := by
  cases hfor : e.tenant s with
  | none =>
    have hnobody : Confined (tenantId + 1) s.db (s.step e).db := h.confined (by simp [hfor])
    exact hnobody.sameBooks (Nat.succ_ne_self tenantId)
  | some other =>
    have hkept : Confined other s.db (s.step e).db := h.confined (by simp [hfor])
    refine hkept.sameBooks fun hsame => ?_
    rw [hfor, hsame] at hother
    exact hother rfl

end Office

/-- Whatever happened at the office before, requests, callbacks, sweeps and decisions for other
tenants, in any order and any number, leave every row of a tenant's books where and what it was. -/
theorem tenants_kept_apart (db : Db) (catalogue : Catalogue) (tenantId : ℕ)
    (earlier later : List OfficeEvent)
    (hothers : AllSteps Office.step (fun s e => e.tenant s ≠ some tenantId)
      (run Office.step (Office.opening db catalogue) earlier) later) :
    SameBooks tenantId (run Office.step (Office.opening db catalogue) earlier).db
      (run Office.step (Office.opening db catalogue) (earlier ++ later)).db := by
  induction later using List.reverseRecOn with
  | nil =>
    rw [List.append_nil]
    exact .refl tenantId _
  | append_singleton later e ih =>
    rw [allSteps_append] at hothers
    obtain ⟨hbefore, hlast, -⟩ := hothers
    rw [← List.append_assoc, run_concat]
    refine (ih hbefore).trans ?_
    rw [← run_append] at hlast
    exact (office_run_tenanted db catalogue (earlier ++ later)).2.sameBooks hlast

/-- Tenant 2 tries to take an entry of tenant 1, parks a receipt of its own, and is paid under an
account number of tenant 1. -/
def othersAtWork : List OfficeEvent :=
  [.money (.allocate 2 9 0 0 false 300),
    .money (.park ⟨2, .unmatched, 70000, some "QB1", none, none, none, .c2b, none, none, none⟩ 400),
    .receive (fun _ => some 2) (.c2b (paybillConfirmation "QB2" "FL/1" 5000 3) "C2B-2" 500)]

theorem tenants_kept_apart_at_work :
    SameBooks 1 suspenseBook (run Office.step (Office.opening suspenseBook ⟨[], []⟩)
      ([] ++ othersAtWork)).db ∧
    ((run Office.step (Office.opening suspenseBook ⟨[], []⟩) othersAtWork).db.suspense.map
      (·.tenantId)) = [1, 2, 2] :=
  ⟨tenants_kept_apart suspenseBook ⟨[], []⟩ 1 [] othersAtWork (by decide),
    by decide⟩

end FinylDcp
