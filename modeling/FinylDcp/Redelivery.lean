import FinylDcp.PaymentWebhooks
import FinylDcp.PaymentEffects
import FinylDcp.PayoutEffects
import FinylDcp.PayoutRace
import FinylDcp.SuspenseEffects
import FinylDcp.Tables

/-!
# Deliveries that come again

A processor finds the row a body is about by a key the body carries. A body that comes
again is harmless where that row is still found and is past what the body would do to it.
A payout or STK push that succeeds takes its receipt for its key, so the body that said so
is not recognised any more.
-/
namespace FinylDcp
open Text Tables

/-- No loan balance or status, repayment, suspense entry or transaction status changes. -/
structure Harmless (before after : Db) : Prop where
  loans : after.loans.map (fun l => (l.outstandingBalance, l.status)) =
    before.loans.map (fun l => (l.outstandingBalance, l.status))
  repayments : after.repayments = before.repayments
  suspense : after.suspense = before.suspense
  statuses : after.transactions.map (·.status) = before.transactions.map (·.status)

theorem Harmless.refl (db : Db) : Harmless db db := ⟨rfl, rfl, rfl, rfl⟩

/-- The row a body is about is found by the key it carries, and is past what the body
would do to it. -/
def Recognised (platform : Platform) (db : Db) (endpoint : String) (body : WebhookBody) : Prop :=
  match endpoint with
  | "b2c-result" => ∃ x ∈ findB2cTxn db body.asResult.conversationId none,
      x.2.status.settleable = false
  | "b2c-timeout" => ∃ x ∈ findB2cTxn db body.asResult.conversationId body.asResult.originatorId,
      x.2.status ≠ .processing
  | "stk-callback" => nonEmpty body.asStk.checkoutRequestId = none ∨
      ∃ t ∈ findStkTxn db body.asStk, t.status ≠ .pending ∧ t.status ≠ .processing
  | "c2b-callback" => ∃ cb tenantId, body.asC2b = .ok cb ∧
      c2bTenant db platform.shortcodeToTenant cb = .ok tenantId ∧
      (referenceAlreadyUsed db tenantId cb.transId true).isSome = true
  | "reversal-result" => ∃ x ∈ findReversalTxn db body.asResult.conversationId none,
      x.2.status ≠ .processing ∧ x.2.status ≠ .timedOut
  | "reversal-timeout" => ∃ x ∈ findReversalTxn db body.asResult.conversationId
      body.asResult.originatorId, x.2.status ≠ .processing
  | _ => False

section Results

variable {db saved : Db} {body : ResultBody} {now : ℤ}

/-- Another status for a transaction is seen. -/
theorem not_harmless_of_status {i : ℕ} {t : PaymentTransaction} {status : TransactionStatus}
    {f : PaymentTransaction → PaymentTransaction} (ht : db.transactions[i]? = some t)
    (htxns : saved.transactions = db.transactions.modify i f) (hf : (f t).status = status)
    (hne : status ≠ t.status) : ¬ Harmless db saved := by
  intro h
  have hrow := congrArg (fun l => l[i]?) h.statuses
  simp only [htxns, List.getElem?_map, List.getElem?_modify_eq, ht, Option.map_eq_map,
    Option.map_some, Option.some.injEq] at hrow
  exact hne (hf ▸ hrow)

/-- What is found by the conversation id alone is found with an originator id, too. -/
theorem findB2cTxn_none {conversationId originatorId : Option String} {x : ℕ × PaymentTransaction}
    (h : findB2cTxn db conversationId none = some x) :
    findB2cTxn db conversationId originatorId = some x := by
  simp only [findB2cTxn, Option.map_eq_some_iff, Option.orElse_eq_orElse, Option.orElse_eq_or,
    Option.or_eq_some_iff] at h ⊢
  obtain ⟨y, hy, rfl⟩ := h
  rcases hy with hy | ⟨-, hy⟩
  · exact ⟨y, .inl hy, rfl⟩
  · cases hy

/-- A transaction that cannot be settled is not found by the originator id. -/
theorem findB2cTxn_settled {conversationId originatorId : Option String}
    {x : ℕ × PaymentTransaction} (h : findB2cTxn db conversationId originatorId = some x)
    (hsettled : x.2.status.settleable = false) : findB2cTxn db conversationId none = some x := by
  simp only [findB2cTxn, Option.map_eq_some_iff, Option.orElse_eq_orElse, Option.orElse_eq_or,
    Option.or_eq_some_iff] at h ⊢
  obtain ⟨y, hy, rfl⟩ := h
  rcases hy with hy | ⟨-, hy⟩
  · exact ⟨y, .inl hy, rfl⟩
  · obtain ⟨o, -, hfound⟩ := Option.bind_eq_some_iff.mp hy
    have hopen := List.find?_some hfound
    simp only [Bool.and_eq_true] at hopen
    rw [hopen.1] at hsettled
    cases hsettled

/-- The result of a payout or refund that can be settled settles it. -/
theorem applyB2cResult_settles {tenantId txnId : ℕ} {txn : PaymentTransaction} {resultCode : String}
    {receipt : Option String} {out : Db × ResultReply} (hsettleable : txn.status.settleable = true)
    (h : applyB2cResult db tenantId txnId txn resultCode receipt now = .ok out) :
    ∃ f, out.1.transactions = db.transactions.modify txnId f ∧
      SetsStatus (payoutOutcome resultCode) f := by
  simp only [applyB2cResult] at h
  split_ifs at h
  · cases h
    rcases (applyRefundResult_transactions db tenantId txnId txn resultCode receipt now).2 with
      ⟨hsettled, -⟩ | ⟨-, hmoved⟩
    · rw [hsettled] at hsettleable
      cases hsettleable
    · exact hmoved
  · rcases settlePayout_eq_ok h with ⟨hsettled, -⟩ | ⟨-, f, htxns, hf, -⟩
    · rw [hsettled] at hsettleable
      cases hsettleable
    · exact ⟨f, htxns, hf⟩

/-- A result that comes again is harmless exactly when its transaction is settled and still
found by the conversation id. -/
theorem processB2cResult_harmless (hindexed : db.indexed = true) :
    (∃ saved, processB2cResult db body now = .ok saved ∧ Harmless db saved) ↔
      ∃ x ∈ findB2cTxn db body.conversationId none, x.2.status.settleable = false := by
  constructor
  · rintro ⟨saved, h, hharmless⟩
    simp only [processB2cResult] at h
    split at h
    · cases h
    rename_i txnId txn hfound
    obtain ⟨out, hout, hsaved⟩ := bind_eq_ok.mp h
    obtain ⟨-, rfl⟩ := Db.commit_eq_ok.mp hsaved
    have hrow := (findB2cTxn_eq_some hfound).1
    by_cases hsettleable : txn.status.settleable = true
    · exfalso
      have hmoved : payoutOutcome body.resultCode ≠ txn.status := by
        intro heq
        rw [← heq] at hsettleable
        simp only [payoutOutcome] at hsettleable
        split_ifs at hsettleable <;> cases hsettleable
      obtain ⟨f, htxns, hf⟩ := applyB2cResult_settles hsettleable hout
      exact not_harmless_of_status hrow htxns (hf txn).2 hmoved hharmless
    · exact ⟨(txnId, txn), findB2cTxn_settled hfound (by simpa using hsettleable),
        by simpa using hsettleable⟩
  · rintro ⟨⟨txnId, txn⟩, hfound, hsettled⟩
    refine ⟨db, ?_, .refl db⟩
    simp only [processB2cResult, findB2cTxn_none hfound]
    refine bind_eq_ok.mpr ⟨(db, .ignored txn txnId), ?_, Db.commit_eq_ok.mpr ⟨hindexed, rfl⟩⟩
    simp only [applyB2cResult, applyRefundResult, settlePayout, hsettled, Bool.not_false, if_true,
      ite_self]

/-- A timeout notice that comes again is harmless exactly when its transaction is found and
not `processing`. -/
theorem processB2cTimeout_harmless (hindexed : db.indexed = true) :
    (∃ saved, processB2cTimeout db body = .ok saved ∧ Harmless db saved) ↔
      ∃ x ∈ findB2cTxn db body.conversationId body.originatorId, x.2.status ≠ .processing := by
  constructor
  · rintro ⟨saved, h, hharmless⟩
    simp only [processB2cTimeout] at h
    split at h
    · cases h
    rename_i txnId txn hfound
    obtain ⟨-, rfl⟩ := Db.commit_eq_ok.mp h
    refine ⟨(txnId, txn), hfound, fun (hprocessing : txn.status = .processing) => ?_⟩
    have hrow := (findB2cTxn_eq_some hfound).1
    refine not_harmless_of_status (f := fun t => { t with status := .timedOut }) hrow ?_ rfl ?_
      hharmless
    · simp only [markB2cTimeout, hprocessing, ne_eq, not_true_eq_false, if_false]
      rfl
    · intro heq
      cases heq.trans hprocessing
  · rintro ⟨⟨txnId, txn⟩, hfound, hstatus⟩
    refine ⟨db, ?_, .refl db⟩
    rw [Option.mem_def] at hfound
    simp only [processB2cTimeout, hfound, markB2cTimeout, if_pos hstatus]
    exact Db.commit_eq_ok.mpr ⟨hindexed, rfl⟩

theorem findReversalTxn_none {conversationId originatorId : Option String}
    {x : ℕ × PaymentTransaction} (h : findReversalTxn db conversationId none = some x) :
    findReversalTxn db conversationId originatorId = some x := by
  simp only [findReversalTxn, Option.map_eq_some_iff, Option.orElse_eq_orElse,
    Option.orElse_eq_or, Option.or_eq_some_iff] at h ⊢
  obtain ⟨y, hy, rfl⟩ := h
  rcases hy with hy | ⟨-, hy⟩
  · exact ⟨y, .inl hy, rfl⟩
  · cases hy

/-- A settled reversal is not found by the originator id. -/
theorem findReversalTxn_settled {conversationId originatorId : Option String}
    {x : ℕ × PaymentTransaction} (h : findReversalTxn db conversationId originatorId = some x)
    (hsettled : x.2.status ≠ .processing ∧ x.2.status ≠ .timedOut) :
    findReversalTxn db conversationId none = some x := by
  simp only [findReversalTxn, Option.map_eq_some_iff, Option.orElse_eq_orElse,
    Option.orElse_eq_or, Option.or_eq_some_iff] at h ⊢
  obtain ⟨y, hy, rfl⟩ := h
  rcases hy with hy | ⟨-, hy⟩
  · exact ⟨y, .inl hy, rfl⟩
  · obtain ⟨o, -, hfound⟩ := Option.bind_eq_some_iff.mp hy
    have hopen := List.find?_some hfound
    simp only [Bool.and_eq_true, Bool.or_eq_true, decide_eq_true_eq] at hopen
    rcases hopen.1 with hprocessing | htimedOut
    · exact absurd hprocessing hsettled.1
    · exact absurd htimedOut hsettled.2

/-- The result of an open reversal ends it. -/
theorem applyReversalResult_settles (db : Db) (tenantId txnId : ℕ) {txn : PaymentTransaction}
    (resultCode : String) (now : ℤ) (hopen : txn.status = .processing ∨ txn.status = .timedOut) :
    ∃ status f, (applyReversalResult db tenantId txnId txn resultCode now).transactions =
        db.transactions.modify txnId f ∧ (∀ t, (f t).status = status) ∧
      (status = .success ∨ status = .failed) := by
  have hgo : (decide (txn.status ≠ .processing) && decide (txn.status ≠ .timedOut)) = false := by
    rcases hopen with heq | heq <;> rw [heq] <;> rfl
  simp only [applyReversalResult, hgo, Bool.false_eq_true, if_false]
  refine ⟨if resultCode = "0" || resultCode = "R000001" then .success else .failed,
    fun t => { t with
      status := if resultCode = "0" || resultCode = "R000001" then .success else .failed },
    ?_, fun t => rfl, ?_⟩
  · split <;> rfl
  · split_ifs
    · exact .inl rfl
    · exact .inr rfl

theorem processReversalResult_harmless (hindexed : db.indexed = true) :
    (∃ saved, processReversalResult db body now = .ok saved ∧ Harmless db saved) ↔
      ∃ x ∈ findReversalTxn db body.conversationId none,
        x.2.status ≠ .processing ∧ x.2.status ≠ .timedOut := by
  constructor
  · rintro ⟨saved, h, hharmless⟩
    simp only [processReversalResult] at h
    split at h
    · cases h
    rename_i txnId txn hfound
    obtain ⟨-, rfl⟩ := Db.commit_eq_ok.mp h
    have hrow := (findReversalTxn_eq_some hfound).1
    by_cases hsettled : txn.status ≠ .processing ∧ txn.status ≠ .timedOut
    · exact ⟨(txnId, txn), findReversalTxn_settled hfound hsettled, hsettled⟩
    · exfalso
      have hopen : txn.status = .processing ∨ txn.status = .timedOut := by
        simpa only [not_and_or, not_not] using hsettled
      obtain ⟨status, f, htxns, hf, hdone⟩ :=
        applyReversalResult_settles db txn.tenantId txnId body.resultCode now hopen
      refine not_harmless_of_status hrow htxns (hf txn) ?_ hharmless
      rcases hopen with heq | heq <;> rw [heq] <;> rcases hdone with rfl | rfl <;> decide
  · rintro ⟨⟨txnId, txn⟩, hfound, hsettled⟩
    refine ⟨db, ?_, .refl db⟩
    have hskip : (decide (txn.status ≠ .processing) && decide (txn.status ≠ .timedOut)) = true := by
      simpa only [Bool.and_eq_true, decide_eq_true_eq] using hsettled
    simp only [processReversalResult, findReversalTxn_none hfound, applyReversalResult, hskip,
      if_true]
    exact Db.commit_eq_ok.mpr ⟨hindexed, rfl⟩

theorem processReversalTimeout_harmless (hindexed : db.indexed = true) :
    (∃ saved, processReversalTimeout db body = .ok saved ∧ Harmless db saved) ↔
      ∃ x ∈ findReversalTxn db body.conversationId body.originatorId, x.2.status ≠ .processing := by
  constructor
  · rintro ⟨saved, h, hharmless⟩
    simp only [processReversalTimeout] at h
    split at h
    · cases h
    rename_i txnId txn hfound
    obtain ⟨-, rfl⟩ := Db.commit_eq_ok.mp h
    refine ⟨(txnId, txn), hfound, fun (hprocessing : txn.status = .processing) => ?_⟩
    have hrow := (findReversalTxn_eq_some hfound).1
    refine not_harmless_of_status (f := fun t => { t with status := .timedOut }) hrow ?_ rfl ?_
      hharmless
    · simp only [markReversalTimeout, hprocessing, ne_eq, not_true_eq_false, if_false]
      rfl
    · intro heq
      cases heq.trans hprocessing
  · rintro ⟨⟨txnId, txn⟩, hfound, hstatus⟩
    refine ⟨db, ?_, .refl db⟩
    rw [Option.mem_def] at hfound
    simp only [processReversalTimeout, hfound, markReversalTimeout, if_pos hstatus]
    exact Db.commit_eq_ok.mpr ⟨hindexed, rfl⟩

end Results

section Receipts

variable {db : Db} {freshRef : String} {now : ℤ}

/-- A new transaction is seen. -/
theorem not_harmless_of_new {saved : Db} {t : PaymentTransaction}
    (htxns : saved.transactions = db.transactions ++ [t]) : ¬ Harmless db saved := by
  intro h
  have hlen := congrArg List.length h.statuses
  simp only [htxns, List.map_append, List.length_append, List.length_map,
    List.length_cons, List.length_nil] at hlen
  omega

/-- The callback of an open STK push ends it. -/
theorem processStkCallback_settles {cb : StkCallback} {checkoutId : String} {txnId : ℕ}
    {txn : PaymentTransaction} {out : Db × Reply}
    (hcheckout : nonEmpty cb.checkoutRequestId = some checkoutId)
    (hfound : db.transactions.findIdx?
      (fun t => t.type = .stkPush && t.mpesaRef = some checkoutId) = some txnId)
    (hrow : db.transactions[txnId]? = some txn)
    (hopen : txn.status = .pending ∨ txn.status = .processing)
    (h : processStkCallback db cb freshRef now = .ok out) :
    ∃ status f, out.1.transactions = db.transactions.modify txnId f ∧
      (∀ t, (f t).status = status) ∧ (status = .success ∨ status = .failed) := by
  have hgo : (decide (txn.status ≠ .pending) && decide (txn.status ≠ .processing)) = false := by
    rcases hopen with heq | heq <;> rw [heq] <;> rfl
  simp only [processStkCallback, hcheckout, hfound, hrow, hgo, Bool.false_eq_true, if_false] at h
  by_cases hcode : cb.resultCode = "0"
  · rw [if_neg (not_not.mpr hcode)] at h
    have hpaid : (stkPaid db txnId (cb.payment txn freshRef now).ref).transactions =
        db.transactions.modify txnId (fun t => { t with
          status := .success, mpesaRef := (cb.payment txn freshRef now).ref }) := rfl
    refine ⟨.success, fun t => { t with
      status := .success, mpesaRef := (cb.payment txn freshRef now).ref }, ?_, fun _ => rfl,
        .inl rfl⟩
    split at h
    · rename_i loanId loan _
      split_ifs at h
      · obtain ⟨paid, hpay, h⟩ := bind_eq_ok.mp h
        obtain ⟨-, rfl⟩ := commitWith_eq_ok.mp h
        exact (payLoan_rows hpay).1.trans hpaid
      · obtain ⟨-, rfl⟩ := commitWith_eq_ok.mp h
        exact hpaid
    · obtain ⟨-, rfl⟩ := commitWith_eq_ok.mp h
      exact hpaid
  · rw [if_pos hcode] at h
    obtain ⟨-, rfl⟩ := commitWith_eq_ok.mp h
    exact ⟨.failed, fun t => { t with status := .failed }, rfl, fun _ => rfl, .inr rfl⟩

/-- An STK callback that comes again is harmless exactly when it names no checkout, or its
push is found and over. -/
theorem processStkCallback_harmless (cb : StkCallback) :
    (∃ out, processStkCallback db cb freshRef now = .ok out ∧ Harmless db out.1) ↔
      nonEmpty cb.checkoutRequestId = none ∨
        ∃ t ∈ findStkTxn db cb, t.status ≠ .pending ∧ t.status ≠ .processing := by
  cases hcheckout : nonEmpty cb.checkoutRequestId with
  | none =>
    simp only [processStkCallback, hcheckout, true_or, iff_true]
    exact ⟨_, rfl, .refl db⟩
  | some checkoutId =>
    simp only [reduceCtorEq, false_or]
    cases hfound : db.transactions.findIdx?
        (fun t => t.type = .stkPush && t.mpesaRef = some checkoutId) with
    | none =>
      have hnone : findStkTxn db cb = none := by
        simp only [findStkTxn, hcheckout, Option.bind_some]
        rw [List.find?_eq_none]
        intro t ht
        rw [List.findIdx?_eq_none_iff.mp hfound t ht]
        exact Bool.false_ne_true
      simp only [processStkCallback, hcheckout, hfound, hnone, reduceCtorEq, false_and,
        exists_false, Option.not_mem_none]
    | some txnId =>
      obtain ⟨hlt, hpush, -⟩ := List.findIdx?_eq_some_iff_getElem.mp hfound
      have hrow := List.getElem?_eq_getElem hlt
      have htxn : findStkTxn db cb = some db.transactions[txnId] := by
        simp only [findStkTxn, hcheckout, Option.bind_some]
        exact find?_of_findIdx? hfound hrow
      simp only [htxn, Option.mem_def, Option.some.injEq, exists_eq_left']
      by_cases hover : db.transactions[txnId].status ≠ .pending ∧
          db.transactions[txnId].status ≠ .processing
      · simp only [processStkCallback, hcheckout, hfound, hrow]
        have hskip : (decide (db.transactions[txnId].status ≠ .pending) &&
            decide (db.transactions[txnId].status ≠ .processing)) = true := by
          simpa only [Bool.and_eq_true, decide_eq_true_eq] using hover
        simp only [hskip, if_true]
        exact ⟨fun _ => hover, fun _ => ⟨_, rfl, .refl db⟩⟩
      · have hopen : db.transactions[txnId].status = .pending ∨
            db.transactions[txnId].status = .processing := by
          simpa only [not_and_or, not_not] using hover
        refine ⟨?_, fun h => absurd h hover⟩
        rintro ⟨out, hout, hharmless⟩
        exfalso
        obtain ⟨status, f, htxns, hf, hdone⟩ :=
          processStkCallback_settles hcheckout hfound hrow hopen hout
        refine not_harmless_of_status hrow htxns (hf _) ?_ hharmless
        rcases hopen with heq | heq <;> rw [heq] <;> rcases hdone with rfl | rfl <;> decide

/-- The reference of a confirmation is new when its `TransID` is, or the one drawn for it. -/
theorem reference_new {cb : C2BCallback} {tenantId : ℕ}
    (hused : ¬ (referenceAlreadyUsed db tenantId cb.transId true).isSome = true)
    (hfresh : referenceAlreadyUsed db tenantId (some freshRef) true = none) :
    referenceAlreadyUsed db tenantId (some (cb.payment tenantId freshRef now).reference) true =
      none := by
  rw [Option.not_isSome_iff_eq_none] at hused
  simp only [Payment.reference, C2BCallback.payment]
  cases href : nonEmpty cb.transId with
  | none => exact hfresh
  | some ref =>
    rw [(nonEmpty_eq_some.mp href).1] at hused
    exact hused

/-- A confirmation that comes again is harmless exactly when it is routed to a tenant where
its reference is used. A reference the hub draws is new. -/
theorem processC2bCallback_harmless (shortcodeToTenant : String → Option ℕ) (cb : C2BCallback)
    (now : ℤ) (hfresh : ∀ tenantId, referenceAlreadyUsed db tenantId (some freshRef) true = none) :
    (∃ out, processC2bCallback db shortcodeToTenant cb freshRef now = .ok out ∧
        Harmless db out.1) ↔
      ∃ tenantId, c2bTenant db shortcodeToTenant cb = .ok tenantId ∧
        (referenceAlreadyUsed db tenantId cb.transId true).isSome = true := by
  cases htenant : c2bTenant db shortcodeToTenant cb with
  | error failure =>
    simp only [processC2bCallback, htenant, reduceCtorEq, false_and, exists_false, iff_false]
    rintro ⟨out, hout, -⟩
    cases hout
  | ok tenantId =>
    simp only [Except.ok.injEq, exists_eq_left']
    simp only [processC2bCallback, htenant, Bind.bind, Except.bind, Pure.pure, Except.pure]
    by_cases hused : (referenceAlreadyUsed db tenantId cb.transId true).isSome = true
    · rw [if_pos hused]
      exact ⟨fun _ => hused, fun _ => ⟨_, rfl, .refl db⟩⟩
    · rw [if_neg hused]
      refine ⟨?_, fun h => absurd h hused⟩
      rintro ⟨out, hout, hharmless⟩
      exfalso
      split at hout
      · obtain ⟨-, rfl⟩ := commitWith_eq_ok.mp hout
        exact not_harmless_of_new rfl hharmless
      split at hout
      · cases hout
      · rename_i loan hloan
        obtain ⟨paid, hpay, hout⟩ := bind_eq_ok.mp hout
        have hrows := payLoan_rows hpay
        split at hout
        · rename_i hduplicate
          have hacc : Accepts db loan (cb.payment tenantId freshRef now) :=
            ⟨payLoan_pos hpay, (loanRow_eq_some hloan).2, reference_new hused (hfresh tenantId)⟩
          rcases hrows.2.2 with ⟨hrefused, -⟩ | ⟨-, -, -, -, hstatus, -⟩ | ⟨-, -, -, -, hstatus, -⟩
          · exact hrefused hacc
          · rw [hstatus] at hduplicate
            cases hduplicate
          · rw [hstatus] at hduplicate
            cases hduplicate
        · obtain ⟨-, rfl⟩ := commitWith_eq_ok.mp hout
          exact not_harmless_of_new (by rw [hrows.1]) hharmless

end Receipts

/-- A processor completes harmlessly when the part of it that touches the database does. -/
theorem exists_ok_map {α β : Type} {x : Except Failure α} {f : α → β} {good : β → Prop} :
    (∃ out, x.map f = .ok out ∧ good out) ↔ ∃ a, x = .ok a ∧ good (f a) := by
  constructor
  · rintro ⟨out, hout, hgood⟩
    obtain ⟨a, ha, rfl⟩ := map_eq_ok.mp hout
    exact ⟨a, ha, hgood⟩
  · rintro ⟨a, ha, hgood⟩
    exact ⟨f a, map_eq_ok.mpr ⟨a, ha, rfl⟩, hgood⟩

/-- The processor of confirmations is harmless where the body parses and its reference is
used. -/
theorem c2bProcessor_harmless {db : Db} {freshRef : String} {now : ℤ} (platform : Platform)
    (body : WebhookBody)
    (hfresh : ∀ tenantId, referenceAlreadyUsed db tenantId (some freshRef) true = none) :
    (∃ out, (do
        let cb ← body.asC2b
        let tenantId ← c2bTenant db platform.shortcodeToTenant cb
        let out ← processC2bCallback db platform.shortcodeToTenant cb freshRef now
        return (out.1, some tenantId) : Except Failure (Db × Option ℕ)) = .ok out ∧
          Harmless db out.1) ↔ Recognised platform db "c2b-callback" body := by
  simp only [Recognised]
  cases hbody : body.asC2b with
  | error failure =>
    constructor
    · rintro ⟨out, hout, -⟩
      cases hout
    · rintro ⟨cb, tenantId, hcb, -⟩
      cases hcb
  | ok cb =>
    have hrecognised := processC2bCallback_harmless platform.shortcodeToTenant cb now hfresh
    constructor
    · rintro ⟨out, hout, hharmless⟩
      obtain ⟨cb', hcb, hout⟩ := bind_eq_ok.mp hout
      cases hcb
      obtain ⟨tenantId, -, hout⟩ := bind_eq_ok.mp hout
      obtain ⟨saved, hsaved, hout⟩ := bind_eq_ok.mp hout
      cases hout
      obtain ⟨tenantId, htenant, hused⟩ := hrecognised.mp ⟨saved, hsaved, hharmless⟩
      exact ⟨cb, tenantId, rfl, htenant, hused⟩
    · rintro ⟨cb', tenantId, hcb, htenant, hused⟩
      cases hcb
      obtain ⟨saved, hsaved, hharmless⟩ := hrecognised.mpr ⟨tenantId, htenant, hused⟩
      refine ⟨(saved.1, some tenantId), ?_, hharmless⟩
      exact bind_eq_ok.mpr ⟨cb, rfl, bind_eq_ok.mpr ⟨tenantId, htenant,
        bind_eq_ok.mpr ⟨saved, hsaved, rfl⟩⟩⟩

/-- Whatever state a body finds, its processor completes and is harmless exactly when the
body is recognised there. The state keeps its unique indexes, and references the hub
draws are new. -/
theorem redelivery_harmless_iff_recognised (platform : Platform) (endpoint : String)
    (processor : Db → WebhookBody → String → ℤ → Except Failure (Db × Option ℕ))
    (hprocessor : (paymentProcessors platform).lookup endpoint = some processor)
    (body : WebhookBody) (later : Db) (freshRef : String) (now : ℤ)
    (hindexed : later.indexed = true)
    (hfresh : ∀ tenantId, referenceAlreadyUsed later tenantId (some freshRef) true = none) :
    (∃ out, processor later body freshRef now = .ok out ∧ Harmless later out.1) ↔
      Recognised platform later endpoint body := by
  simp only [paymentProcessors] at hprocessor
  split at hprocessor
  · cases hprocessor
    exact exists_ok_map.trans (processB2cResult_harmless hindexed)
  · cases hprocessor
    exact exists_ok_map.trans (processB2cTimeout_harmless hindexed)
  · cases hprocessor
    exact exists_ok_map.trans (processStkCallback_harmless body.asStk)
  · cases hprocessor
    exact c2bProcessor_harmless platform body hfresh
  · cases hprocessor
    exact exists_ok_map.trans (processReversalResult_harmless hindexed)
  · cases hprocessor
    exact exists_ok_map.trans (processReversalTimeout_harmless hindexed)
  · cases hprocessor

/-- The book after the payout failed: the loan may be paid out again. -/
def failedPayout : Db :=
  { payoutBook with
    loans := payoutBook.loans.map (fun l => { l with status := .approved })
    transactions := payoutBook.transactions.map (fun t => { t with status := .failed }) }

/-- A failed result leaves the conversation id, and is recognised when it comes again. -/
theorem redelivery_harmless_iff_recognised_failed :
    processB2cResult payoutBook (resultOf "AG1" "2001" "") 100 = .ok failedPayout ∧
      ∃ out, (processB2cResult failedPayout (resultOf "AG1" "2001" "") 200).map (fun saved =>
        (saved, tenantOfTxn (findB2cTxn failedPayout (some "AG1") none))) = .ok out ∧
          Harmless failedPayout out.1 :=
  ⟨by decide,
    (redelivery_harmless_iff_recognised unfinishedPlatform "b2c-result" _ rfl
      (.result (resultOf "AG1" "2001" "")) failedPayout "FR1" 200 (by decide)
      (fun _ => rfl)).mpr ⟨(0, _), rfl, rfl⟩⟩

/-- The result of a payout that succeeded is delivered twice, and retried. -/
def repeatedResult : WebhookQueue Db WebhookBody :=
  let body := WebhookBody.result (resultOf "AG1" "0" "QR1")
  Runs.run (WebhookQueue.step (paymentProcessors unfinishedPlatform) ⟨5, 60, 168⟩)
    (WebhookQueue.start payoutBook)
    [.record "b2c-result" body (some 1) none 100, .finish 0 none "FR1" 100,
      .record "b2c-result" body (some 1) none 200, .finish 1 none "FR2" 200,
      .beginPass 400, .retry none "FR3" 400, .beginPass 600, .retry none "FR4" 600,
      .beginPass 1000, .retry none "FR5" 1000, .beginPass 1600, .retry none "FR6" 1600]

/-- The first delivery is processed and puts the receipt in the place of the conversation
id; the second finds no payout, and is dead after its last attempt. -/
theorem repeated_result_dead :
    repeatedResult.events.map (fun e => (e.processingStatus, e.attempts)) =
      [(.processed, 0), (.dead, 5)] := by
  decide

end FinylDcp
