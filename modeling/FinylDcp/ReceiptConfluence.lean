import FinylDcp.DecisionEffects
import FinylDcp.Redelivery
import FinylDcp.TenantIsolation
import FinylDcp.WebhookDurability

/-!
# One receipt by two webhooks

A customer who pays by STK push is reported twice: by the callback of the push and by the
confirmation of the paybill. The confirmation looks for the receipt among repayments and
suspense entries, and the callback puts it on the push; a transaction row of the
confirmation keeps the callback from doing so under the unique index.
-/
namespace FinylDcp
open Runs Tables Text

/-- What the retry worker does, or the end of its process. -/
inductive WorkerStep
  | beginPass (now : ℤ)
  | retry (markError : Option String) (freshRef : String) (now : ℤ)
  | skip (freshRef : String) (now : ℤ)
  | crash
  deriving DecidableEq, Repr

def WorkerStep.step {σ β : Type} : WorkerStep → QueueStep σ β
  | beginPass now => .beginPass now
  | retry markError freshRef now => .retry markError freshRef now
  | skip freshRef now => .skip freshRef now
  | crash => .crash

section Retries

variable {σ β : Type} {processors : Processors σ β} {settings : WebhookSettings}
  {s : WebhookQueue σ β} {db : σ}

/-- Processing the event changes nothing, if it completes at all. -/
def Idle (processors : Processors σ β) (db : σ) (e : MpesaWebhookEvent β) : Prop :=
  ∀ freshRef now out, WebhookQueue.process processors db e freshRef now = .ok out → out.1 = db

/-- The database is at rest: an event that is not processed would change nothing. -/
structure Rests (processors : Processors σ β) (db : σ) (s : WebhookQueue σ β) : Prop where
  same : s.db = db
  idle : ∀ e ∈ s.events, e.processingStatus ≠ .processed → Idle processors db e

/-- No event is added, and the processed ones stay as they are. -/
structure KeepsProcessed (s s' : WebhookQueue σ β) : Prop where
  length : s'.events.length = s.events.length
  kept : ∀ (i : ℕ) (e : MpesaWebhookEvent β), s.events[i]? = some e →
    e.processingStatus = .processed → s'.events[i]? = some e

theorem KeepsProcessed.of_eq {s' : WebhookQueue σ β} (h : s'.events = s.events) :
    KeepsProcessed s s' := ⟨by rw [h], fun _ _ he _ => by rw [h, he]⟩

/-- Events that are all processed stay so. -/
theorem KeepsProcessed.all {s' : WebhookQueue σ β} (h : KeepsProcessed s s')
    (hall : ∀ e ∈ s.events, e.processingStatus = .processed) :
    ∀ e ∈ s'.events, e.processingStatus = .processed := by
  intro e he
  obtain ⟨i, hlt, rfl⟩ := List.mem_iff_getElem.mp he
  have hold : i < s.events.length := h.length ▸ hlt
  have hprocessed := hall _ (List.getElem_mem hold)
  have hsame := h.kept i _ (List.getElem?_eq_getElem hold) hprocessed
  rw [List.getElem?_eq_getElem hlt] at hsame
  rw [Option.some.inj hsame]
  exact hprocessed

/-- Marks do not change what an event is about. -/
theorem Idle.congr {e e' : MpesaWebhookEvent β} (h : Idle processors db e)
    (hendpoint : e'.endpoint = e.endpoint) (hpayload : e'.rawPayload = e.rawPayload) :
    Idle processors db e' := by
  intro freshRef now out hout
  simp only [WebhookQueue.process, hendpoint, hpayload] at hout
  exact h freshRef now out hout

theorem markFailed_body (e : MpesaWebhookEvent β) (error : String) (now : ℤ) :
    (markFailed settings e error now).endpoint = e.endpoint ∧
      (markFailed settings e error now).rawPayload = e.rawPayload := by
  simp only [markFailed]
  split_ifs
  · exact ⟨rfl, rfl⟩
  · exact ⟨rfl, rfl⟩

variable (settings) in
/-- An attempt at an idle event changes that event alone, and its body not at all. -/
theorem attempt_idle {id : ℕ} {e : MpesaWebhookEvent β} (he : s.events[id]? = some e)
    (hidle : Idle processors s.db e) (markError : Option String) (freshRef : String) (now : ℤ) :
    (s.attempt processors settings id markError freshRef now).db = s.db ∧
      ∃ e', (s.attempt processors settings id markError freshRef now).events = s.events.set id e' ∧
        e'.endpoint = e.endpoint ∧ e'.rawPayload = e.rawPayload := by
  simp only [WebhookQueue.attempt, he]
  split
  · rename_i out hout
    exact ⟨hidle _ _ _ hout, _, rfl, rfl, rfl⟩
  · rename_i out error hout
    exact ⟨hidle _ _ _ hout, _, rfl, markFailed_body e error now⟩
  · rename_i failure _
    exact ⟨rfl, _, rfl, markFailed_body e failure.errorText now⟩

/-- The next event of the pass is failed, so a queue at rest stays as it is in its database
and in the events that are processed. -/
theorem Rests.retry {id : ℕ} {rest : List ℕ} (hs : QueueSound settings s)
    (h : Rests processors db s) (hpass : s.pass = id :: rest) (markError : Option String)
    (freshRef : String) (now : ℤ) :
    let s' := { s.attempt processors settings id markError freshRef now with pass := rest }
    Rests processors db s' ∧ KeepsProcessed s s' := by
  intro s'
  obtain ⟨e, he, hfailed⟩ := hs.passing id (by rw [hpass]; exact List.mem_cons_self)
  have hlt : id < s.events.length := (List.getElem?_eq_some_iff.mp he).1
  have hidle : Idle processors s.db e := by
    rw [h.same]
    exact h.idle e (List.mem_of_getElem? he) (by rw [hfailed]; decide)
  obtain ⟨hdb, e', hevents, hbody⟩ :=
    attempt_idle settings he hidle markError freshRef now
  refine ⟨⟨hdb.trans h.same, fun x hx hstatus => ?_⟩, ?_, fun i x hx hprocessed => ?_⟩
  · have hmem : x ∈ s.events.set id e' := hevents ▸ hx
    rcases List.mem_or_eq_of_mem_set hmem with hold | rfl
    · exact h.idle x hold hstatus
    · rw [h.same] at hidle
      exact hidle.congr hbody.1 hbody.2
  · change (s.attempt processors settings id markError freshRef now).events.length = _
    rw [hevents, List.length_set]
  · have hne : id ≠ i := by
      rintro rfl
      rw [he] at hx
      obtain rfl := Option.some.inj hx
      rw [hfailed] at hprocessed
      cases hprocessed
    change (s.attempt processors settings id markError freshRef now).events[i]? = some x
    rw [hevents, List.getElem?_set_ne hne, hx]

/-- So does a queue whose worker stops before it marks the outcome. -/
theorem Rests.skip {id : ℕ} {rest : List ℕ} (hs : QueueSound settings s)
    (h : Rests processors db s) (hpass : s.pass = id :: rest) (freshRef : String) (now : ℤ) :
    { s.unmarkedAttempt processors id freshRef now with pass := rest } =
      { s with pass := rest } := by
  obtain ⟨e, he, hfailed⟩ := hs.passing id (by rw [hpass]; exact List.mem_cons_self)
  have hidle : Idle processors s.db e := by
    rw [h.same]
    exact h.idle e (List.mem_of_getElem? he) (by rw [hfailed]; decide)
  simp only [WebhookQueue.unmarkedAttempt, he]
  split
  · rename_i out hout
    rw [hidle _ _ _ hout]
  · rfl

theorem Rests.step (hs : QueueSound settings s) (h : Rests processors db s) (a : WorkerStep) :
    let s' := s.step processors settings a.step
    Rests processors db s' ∧ KeepsProcessed s s' := by
  cases a with
  | beginPass now =>
    simp only [WorkerStep.step, WebhookQueue.step]
    split_ifs
    · exact ⟨⟨h.same, h.idle⟩, .of_eq rfl⟩
    · exact ⟨h, .of_eq rfl⟩
  | retry markError freshRef now =>
    simp only [WorkerStep.step, WebhookQueue.step]
    split
    · exact ⟨h, .of_eq rfl⟩
    · rename_i id rest hpass
      exact h.retry hs hpass markError freshRef now
  | skip freshRef now =>
    simp only [WorkerStep.step, WebhookQueue.step]
    split
    · exact ⟨h, .of_eq rfl⟩
    · rename_i id rest hpass
      rw [h.skip hs hpass]
      exact ⟨⟨h.same, h.idle⟩, .of_eq rfl⟩
  | crash => exact ⟨⟨h.same, h.idle⟩, .of_eq rfl⟩

/-- However long the worker goes on, a queue at rest keeps its database, its processed
events, and the bodies of the others. -/
theorem Rests.run (hs : QueueSound settings s) (h : Rests processors db s)
    (retries : List WorkerStep) :
    let s' := Runs.run (WebhookQueue.step processors settings) s (retries.map WorkerStep.step)
    Rests processors db s' ∧ KeepsProcessed s s' := by
  induction retries generalizing s with
  | nil => exact ⟨h, .of_eq rfl⟩
  | cons a retries ih =>
    obtain ⟨hnext, hkept⟩ := h.step hs a
    obtain ⟨hrest, hlater⟩ := ih (hs.step a.step) hnext
    exact ⟨hrest, hlater.length.trans hkept.length,
      fun i e he hp => hlater.kept i e (hkept.kept i e he hp) hp⟩

end Retries

/-- How a body comes in: what is known of its sender, and what its processing draws. -/
structure Arrival where
  tenantId : Option ℕ
  shortcode : Option String
  recordedAt : ℤ
  freshRef : String
  now : ℤ
  deriving DecidableEq, Repr

/-- The steps that record a body as event `id` and process it. -/
def arrive {σ β : Type} (id : ℕ) (endpoint : String) (body : β) (a : Arrival) :
    List (QueueStep σ β) :=
  [.record endpoint body a.tenantId a.shortcode a.recordedAt, .finish id none a.freshRef a.now]

section Deliveries

variable {σ β : Type} {processors : Processors σ β} {settings : WebhookSettings}
  {s : WebhookQueue σ β} {endpoint : String} {body : β} {a : Arrival}
  {processor : σ → β → String → ℤ → Except Failure (σ × Option ℕ)}

variable (settings) in
/-- A delivery that completes is marked as processed. -/
theorem arrive_ok (hlookup : processors.lookup endpoint = some processor) {out : σ × Option ℕ}
    (h : processor s.db body a.freshRef a.now = .ok out) :
    let s' := Runs.run (WebhookQueue.step processors settings) s
      (arrive s.events.length endpoint body a)
    s'.db = out.1 ∧ ∃ e, s'.events = s.events ++ [e] ∧ e.processingStatus = .processed := by
  simp only [arrive, run_cons, run_nil, WebhookQueue.step, recordEvent, List.mem_append,
    List.mem_singleton, or_true, if_true, WebhookQueue.attempt,
    List.getElem?_concat_length, WebhookQueue.process, hlookup, Option.getD_some, h, set_append_row]
  exact ⟨trivial, _, rfl, rfl⟩

variable (settings) in
/-- A delivery that fails leaves the database, and an event that would be tried again. -/
theorem arrive_error (hlookup : processors.lookup endpoint = some processor) {failure : Failure}
    (h : processor s.db body a.freshRef a.now = .error failure) :
    let s' := Runs.run (WebhookQueue.step processors settings) s
      (arrive s.events.length endpoint body a)
    s'.db = s.db ∧ ∃ e, s'.events = s.events ++ [e] ∧ e.endpoint = endpoint ∧
      e.rawPayload = some body := by
  simp only [arrive, run_cons, run_nil, WebhookQueue.step, recordEvent, List.mem_append,
    List.mem_singleton, or_true, if_true, WebhookQueue.attempt,
    List.getElem?_concat_length, WebhookQueue.process, hlookup, Option.getD_some, h, set_append_row]
  exact ⟨trivial, _, rfl, markFailed_body _ _ _⟩

/-- A body that changes nothing, or fails, leaves the queue at rest. -/
theorem Rests.arrive {db : σ} (h : Rests processors db s)
    (hlookup : processors.lookup endpoint = some processor)
    (hidle : ∀ freshRef now out, processor db body freshRef now = .ok out → out.1 = db) :
    Rests processors db (Runs.run (WebhookQueue.step processors settings) s
      (arrive s.events.length endpoint body a)) := by
  cases hout : processor s.db body a.freshRef a.now with
  | ok out =>
    obtain ⟨hdb, e, hevents, hprocessed⟩ := arrive_ok settings hlookup hout
    refine ⟨hdb.trans ?_, fun x hx hstatus => ?_⟩
    · rw [h.same] at hout
      exact hidle _ _ _ hout
    · rw [hevents, List.mem_append, List.mem_singleton] at hx
      rcases hx with hx | rfl
      · exact h.idle x hx hstatus
      · exact absurd hprocessed hstatus
  | error failure =>
    obtain ⟨hdb, e, hevents, hendpoint, hbody⟩ := arrive_error settings hlookup hout
    refine ⟨hdb.trans h.same, fun x hx hstatus => ?_⟩
    rw [hevents, List.mem_append, List.mem_singleton] at hx
    rcases hx with hx | rfl
    · exact h.idle x hx hstatus
    · intro freshRef now out hout
      simp only [WebhookQueue.process, hendpoint, hlookup, hbody, Option.getD_some] at hout
      exact hidle freshRef now out hout

end Deliveries

/-- A pending STK push of a loan, its successful callback, and the confirmation of the same
receipt and amount on the paybill of the same tenant. -/
structure ReceiptNews (platform : Platform) (db : Db) where
  txnId : ℕ
  push : PaymentTransaction
  loanId : ℕ
  loan : Loan
  stk : StkCallback
  c2b : C2BCallback
  checkoutId : String
  receipt : String
  amount : ℤ
  shortcode : String
  indexed : db.indexed = true
  checkout : nonEmpty stk.checkoutRequestId = some checkoutId
  found : db.transactions.findIdx?
    (fun t => t.type = .stkPush && t.mpesaRef = some checkoutId) = some txnId
  row : db.transactions[txnId]? = some push
  pending : push.status = .pending
  ofLoan : loanOf db push.tenantId push = some (loanId, loan)
  success : stk.resultCode = "0"
  stkReceipt : nonEmpty stk.receipt = some receipt
  stkAmount : stk.amount = some amount
  positive : 0 < amount
  c2bReceipt : c2b.transId = some receipt
  c2bAmount : c2b.transAmount = amount
  paybill : c2b.businessShortCode = some shortcode
  number : strip shortcode ≠ ""
  tenant : platform.shortcodeToTenant shortcode = some push.tenantId
  otherRef : checkoutId ≠ receipt

namespace ReceiptNews

variable {platform : Platform} {db : Db} (x : ReceiptNews platform db)

theorem receipt_ne_empty : x.receipt ≠ "" := (nonEmpty_eq_some.mp x.stkReceipt).2

/-- The key of the receipt in the reference indexes. -/
def key : ℕ × String := (x.push.tenantId, x.receipt)

/-- The payment the callback brings. -/
def payment (freshRef : String) (now : ℤ) : Payment := x.stk.payment x.push freshRef now

theorem payment_ref (freshRef : String) (now : ℤ) :
    (x.payment freshRef now).ref = some x.receipt := by
  simp only [payment, StkCallback.payment, x.stkReceipt, Option.getD_some]

theorem payment_reference (freshRef : String) (now : ℤ) :
    (x.payment freshRef now).reference = x.receipt := by
  have href : nonEmpty (some x.receipt) = some x.receipt :=
    nonEmpty_eq_some.mpr ⟨rfl, x.receipt_ne_empty⟩
  simp only [Payment.reference, x.payment_ref, href, Option.getD_some]

theorem payment_amount (freshRef : String) (now : ℤ) :
    (x.payment freshRef now).amount = x.amount := by
  have hne : x.amount ≠ 0 := by have := x.positive; omega
  simp only [payment, StkCallback.payment, x.stkAmount, if_neg hne]

/-- A database that still has the push as it is. -/
structure Waits (d : Db) : Prop where
  found : d.transactions.findIdx?
    (fun t => t.type = .stkPush && t.mpesaRef = some x.checkoutId) = some x.txnId
  row : d.transactions[x.txnId]? = some x.push

theorem waits : x.Waits db := ⟨x.found, x.row⟩

/-- A transaction other than the push carries the receipt. -/
def Taken (d : Db) : Prop :=
  ∃ i t, d.transactions[i]? = some t ∧ i ≠ x.txnId ∧ t.key = some x.key

/-- The callback marks the push as paid under the receipt. -/
theorem processStk_paid {d : Db} (hwaits : x.Waits d) {freshRef : String} {now : ℤ}
    {out : Db × Reply} (h : processStkCallback d x.stk freshRef now = .ok out) :
    out.1.transactions = (stkPaid d x.txnId (some x.receipt)).transactions ∧
      out.1.indexed = true := by
  have href := x.payment_ref freshRef now
  rw [payment] at href
  simp only [processStkCallback, x.checkout, hwaits.found, hwaits.row, x.pending, x.success, href,
    ne_eq, not_true_eq_false, decide_false, Bool.false_and, Bool.false_eq_true, if_false] at h
  split at h
  · split_ifs at h
    · obtain ⟨paid, hpay, h⟩ := bind_eq_ok.mp h
      obtain ⟨hindexed, rfl⟩ := commitWith_eq_ok.mp h
      exact ⟨(payLoan_rows hpay).1, hindexed⟩
    · obtain ⟨hindexed, rfl⟩ := commitWith_eq_ok.mp h
      exact ⟨rfl, hindexed⟩
  · obtain ⟨hindexed, rfl⟩ := commitWith_eq_ok.mp h
    exact ⟨rfl, hindexed⟩

/-- A transaction that carries the receipt already keeps the callback from its commit. -/
theorem processStk_blocked {d : Db} (hwaits : x.Waits d) (htaken : x.Taken d) (freshRef : String)
    (now : ℤ) (out : Db × Reply) : processStkCallback d x.stk freshRef now ≠ .ok out := by
  intro h
  obtain ⟨htxns, hindexed⟩ := x.processStk_paid hwaits h
  obtain ⟨i, t, ht, hi, hkey⟩ := htaken
  have hunique := (Db.indexed_iff.mp hindexed).2.1
  rw [htxns] at hunique
  have hpush : (stkPaid d x.txnId (some x.receipt)).transactions[x.txnId]? =
      some { x.push with status := .success, mpesaRef := some x.receipt } := by
    simp only [stkPaid, Db.updateTransaction, List.getElem?_modify_eq, hwaits.row]
    rfl
  have hother : (stkPaid d x.txnId (some x.receipt)).transactions[i]? = some t := by
    simp only [stkPaid, Db.updateTransaction, List.getElem?_modify, if_neg (Ne.symm hi), ht]
    rfl
  exact hi (index_eq_of_unique hunique hother hpush hkey rfl)

/-- A payment of the loan's own tenant that is positive completes. -/
theorem payLoan_ok (d : Db) (freshRef : String) (now : ℤ) :
    ∃ out, payLoan d x.loanId x.loan (x.payment freshRef now) = .ok out := by
  have hamount : 0 < (x.payment freshRef now).amount := by
    have hpos := x.positive
    rw [x.payment_amount]
    omega
  exact payLoan_completes d x.loanId hamount (loanOf_eq_some x.ofLoan).2.2

/-- The push itself carries its checkout id, not the receipt. -/
theorem push_other {j : ℕ} {t : PaymentTransaction} (hj : db.transactions[j]? = some t)
    (hkey : t.key = some x.key) : j ≠ x.txnId := by
  rintro rfl
  rw [x.row] at hj
  obtain rfl := Option.some.inj hj
  obtain ⟨hlt, hpush, -⟩ := List.findIdx?_eq_some_iff_getElem.mp x.found
  have hrow := x.row
  rw [List.getElem?_eq_getElem hlt] at hrow
  rw [Option.some.inj hrow, Bool.and_eq_true, decide_eq_true_eq, decide_eq_true_eq] at hpush
  simp only [PaymentTransaction.key, hpush.2, Option.map_some, key, Option.some.injEq,
    Prod.mk.injEq, true_and] at hkey
  exact x.otherRef hkey

/-- The callback of a receipt no transaction carries pays the loan and is committed. -/
theorem processStk_ok (hfree : ¬ x.Taken db) (freshRef : String) (now : ℤ) :
    ∃ out, payLoan (stkPaid db x.txnId (some x.receipt)) x.loanId x.loan (x.payment freshRef now) =
        .ok out ∧
      processStkCallback db x.stk freshRef now = .ok (out.1, .payment x.push.tenantId out.2) := by
  have hamount : 0 < (x.payment freshRef now).amount := by
    rw [x.payment_amount]
    exact x.positive
  have heq : processStkCallback db x.stk freshRef now = (do
      let out ← payLoan (stkPaid db x.txnId (some x.receipt)) x.loanId x.loan
          (x.payment freshRef now)
      commitWith out.1 (.payment x.push.tenantId out.2)) := by
    have href := x.payment_ref freshRef now
    rw [payment] at href hamount
    simp only [processStkCallback, x.checkout, x.found, x.row, x.pending, x.success, x.ofLoan, href,
      hamount, ne_eq, not_true_eq_false, decide_false, Bool.false_and, Bool.false_eq_true, if_false,
      if_true]
    rfl
  obtain ⟨out, hpay⟩ := x.payLoan_ok (stkPaid db x.txnId (some x.receipt)) freshRef now
  have hpaid : (stkPaid db x.txnId (some x.receipt)).indexed = true := by
    refine indexed_of_keys x.indexed rfl ?_ rfl
    refine nodup_modify (Db.indexed_iff.mp x.indexed).2.1 fun t ht k hk y hy hkey => ?_
    rw [x.row] at ht
    obtain rfl := Option.some.inj ht
    obtain rfl : x.key = k := by simpa [PaymentTransaction.key, key] using hk
    obtain ⟨j, hj⟩ := List.mem_iff_getElem?.mp hy
    exact hfree ⟨j, y, hj, x.push_other hj hkey, hkey⟩
  obtain ⟨hr, hs⟩ :=
    payLoan_nodup hpaid (by rw [x.payment_reference]; exact x.receipt_ne_empty) hpay
  have hindexed : out.1.indexed = true := by
    refine Db.indexed_iff.mpr ⟨hr, ?_, hs⟩
    rw [(payLoan_rows hpay).1]
    exact (Db.indexed_iff.mp hpaid).2.1
  refine ⟨out, hpay, ?_⟩
  rw [heq, hpay]
  exact commitWith_eq_ok.mpr ⟨hindexed, rfl⟩

/-- A repayment or suspense entry of the tenant carries the receipt. -/
def Used (d : Db) : Prop :=
  (referenceAlreadyUsed d x.push.tenantId (some x.receipt) true).isSome = true

theorem c2bTenant_eq (d : Db) :
    c2bTenant d platform.shortcodeToTenant x.c2b = .ok x.push.tenantId := by
  rw [c2bTenant_shortcode d platform x.paybill x.number, x.tenant]

theorem processC2b_used {d : Db} (hused : x.Used d) (freshRef : String) (now : ℤ) :
    processC2bCallback d platform.shortcodeToTenant x.c2b freshRef now =
      .ok (d, .acknowledged) := by
  rw [Used, ← x.c2bReceipt] at hused
  simp only [processC2bCallback, x.c2bTenant_eq, Bind.bind, Except.bind, Pure.pure, Except.pure,
    if_pos hused]

/-- A confirmation of a receipt that is not used leaves a transaction that carries it. -/
theorem processC2b_new {d : Db} (hused : ¬ x.Used d) {freshRef : String} {now : ℤ}
    {out : Db × Reply}
    (h : processC2bCallback d platform.shortcodeToTenant x.c2b freshRef now = .ok out) :
    ∃ t, out.1.transactions = d.transactions ++ [t] ∧ t.key = some x.key ∧ t.type = .c2b ∧
      out.1.indexed = true := by
  rw [Used, ← x.c2bReceipt] at hused
  simp only [processC2bCallback, x.c2bTenant_eq, Bind.bind, Except.bind, Pure.pure, Except.pure,
    if_neg hused] at h
  have href : nonEmpty x.c2b.transId = some x.receipt :=
    nonEmpty_eq_some.mpr ⟨x.c2bReceipt, x.receipt_ne_empty⟩
  split at h
  · obtain ⟨hindexed, rfl⟩ := commitWith_eq_ok.mp h
    refine ⟨_, rfl, ?_, rfl, hindexed⟩
    simp only [PaymentTransaction.key, C2BCallback.transaction, href, Option.map_some, key]
  split at h
  · cases h
  · rename_i loan hloan
    obtain ⟨paid, hpay, h⟩ := bind_eq_ok.mp h
    have hrows := payLoan_rows hpay
    have hreference : (x.c2b.payment x.push.tenantId freshRef now).reference = x.receipt := by
      simp only [Payment.reference, C2BCallback.payment, href, Option.getD_some]
    split at h
    · exfalso
      rename_i hduplicate
      have hnew : referenceAlreadyUsed d x.push.tenantId
          (some (x.c2b.payment x.push.tenantId freshRef now).reference) true = none := by
        rw [hreference, ← x.c2bReceipt]
        exact Option.not_isSome_iff_eq_none.mp hused
      have hacc : Accepts d loan (x.c2b.payment x.push.tenantId freshRef now) :=
        ⟨payLoan_pos hpay, (loanRow_eq_some hloan).2, hnew⟩
      rcases hrows.2.2 with ⟨hrefused, -⟩ | ⟨-, -, -, -, hstatus, -⟩ | ⟨-, -, -, -, hstatus, -⟩
      · exact hrefused hacc
      · rw [hstatus] at hduplicate
        cases hduplicate
      · rw [hstatus] at hduplicate
        cases hduplicate
    · rename_i hhandled
      obtain ⟨hindexed, rfl⟩ := commitWith_eq_ok.mp h
      have hpaidRef : paid.2.ref = x.receipt := by
        rw [← hreference]
        rcases hrows.2.2 with ⟨-, -, -, hstatus⟩ | ⟨-, -, -, -, -, href⟩ | ⟨-, -, -, -, -, href⟩
        · exact absurd hstatus hhandled
        · exact href
        · exact href
      refine ⟨_, by rw [hrows.1], ?_, rfl, hindexed⟩
      simp only [PaymentTransaction.key, C2BCallback.transaction, hpaidRef, Option.map_some, key]

/-- A confirmation changes nothing where its receipt is used, or a transaction carries it. -/
theorem processC2b_idle {d : Db} (h : x.Used d ∨ ∃ t ∈ d.transactions, t.key = some x.key)
    {freshRef : String} {now : ℤ} {out : Db × Reply}
    (hout : processC2bCallback d platform.shortcodeToTenant x.c2b freshRef now = .ok out) :
    x.Used d ∧ out.1 = d := by
  by_cases hused : x.Used d
  · rw [x.processC2b_used hused] at hout
    cases hout
    exact ⟨hused, rfl⟩
  · exfalso
    obtain ⟨t, ht, hkey⟩ := h.resolve_left hused
    obtain ⟨new, htxns, hnew, -, hindexed⟩ := x.processC2b_new hused hout
    have hunique := (Db.indexed_iff.mp hindexed).2.1
    rw [htxns, List.filterMap_append] at hunique
    refine (List.nodup_append.mp hunique).2.2 x.key ?_ x.key ?_ rfl
    · exact List.mem_filterMap.mpr ⟨t, ht, hkey⟩
    · exact List.mem_filterMap.mpr ⟨new, List.mem_singleton_self new, hnew⟩

/-- The confirmation of a receipt that nothing carries is committed. -/
theorem processC2b_ok (hused : ¬ x.Used db) (hfree : ¬ x.Taken db) (freshRef : String) (now : ℤ) :
    ∃ out, processC2bCallback db platform.shortcodeToTenant x.c2b freshRef now = .ok out := by
  have hnone : ∀ t ∈ db.transactions, t.key ≠ some x.key := by
    intro t ht hkey
    obtain ⟨i, hi⟩ := List.mem_iff_getElem?.mp ht
    exact hfree ⟨i, t, hi, x.push_other hi hkey, hkey⟩
  have hcommit : ∀ (d : Db) (txn : PaymentTransaction) (reply : Reply),
      d.transactions = db.transactions → txn.key = some x.key →
      (d.repayments.filterMap Repayment.key).Nodup →
        (d.suspense.filterMap SuspenseEntry.key).Nodup →
      ∃ out, commitWith { d with transactions := d.transactions ++ [txn] } reply = .ok out := by
    intro d txn reply htxns hkey hr hs
    refine ⟨_, commitWith_eq_ok.mpr ⟨Db.indexed_iff.mpr ⟨hr, ?_, hs⟩, rfl⟩⟩
    rw [htxns]
    refine nodup_append_row (Db.indexed_iff.mp x.indexed).2.1 fun k hk t ht hsame => ?_
    rw [hkey] at hk
    exact hnone t ht (hsame.trans hk.symm)
  obtain ⟨hr, -, hs⟩ := Db.indexed_iff.mp x.indexed
  have href : nonEmpty x.c2b.transId = some x.receipt :=
    nonEmpty_eq_some.mpr ⟨x.c2bReceipt, x.receipt_ne_empty⟩
  rw [Used, ← x.c2bReceipt] at hused
  simp only [processC2bCallback, x.c2bTenant_eq, Bind.bind, Except.bind, Pure.pure, Except.pure,
    if_neg hused]
  split
  · have hcarries : (x.c2b.receipt x.push.tenantId (matchReference db x.push.tenantId
        x.c2b.billRefNumber x.c2b.msisdn) freshRef).ref = some x.receipt := by
      simp only [C2BCallback.receipt, href, Option.getD_some]
    have hparked := park_nodup now hs hcarries x.receipt_ne_empty
    refine hcommit (recordSuspense db _ now).1 _ _ rfl ?_ hr hparked
    simp only [PaymentTransaction.key, C2BCallback.transaction, href, Option.map_some, key]
  · rename_i loanId hmatch
    obtain ⟨loan, hrow, htenant⟩ := matchReference_tenant hmatch
    have hloan : loanRow db x.push.tenantId loanId = some loan := by
      simp only [loanRow, hrow, Option.filter_some, htenant, decide_true, if_true]
    simp only [hloan]
    have hreference : (x.c2b.payment x.push.tenantId freshRef now).reference = x.receipt := by
      simp only [Payment.reference, C2BCallback.payment, href, Option.getD_some]
    have hacc : Accepts db loan (x.c2b.payment x.push.tenantId freshRef now) := by
      refine ⟨?_, htenant, ?_⟩
      · have hpos := x.positive
        rwa [← x.c2bAmount] at hpos
      · rw [hreference, ← x.c2bReceipt]
        exact Option.not_isSome_iff_eq_none.mp hused
    obtain ⟨applied, happlied⟩ := applyPayment_ok loanId hacc
    have hpay : payLoan db loanId loan (x.c2b.payment x.push.tenantId freshRef now) =
        .ok (applied.1.flushLoan loanId loan applied.2.1, applied.2.2) := by
      simp only [payLoan, happlied, Except.map]
    obtain ⟨hr', hs'⟩ := payLoan_nodup x.indexed
      (by rw [hreference]; exact x.receipt_ne_empty) hpay
    simp only [applyConfirmation, hpay, Bind.bind, Except.bind, Pure.pure, Except.pure]
    split
    · exact ⟨_, rfl⟩
    · rename_i hhandled
      refine hcommit _ _ _ (payLoan_rows hpay).1 ?_ hr' hs'
      have hpaidRef : applied.2.2.ref = x.receipt := by
        rw [← hreference]
        rcases (payLoan_rows hpay).2.2 with ⟨-, -, -, hstatus⟩ | ⟨-, -, -, -, -, href⟩ |
          ⟨-, -, -, -, -, href⟩
        · exact absurd hstatus hhandled
        · exact href
        · exact href
      simp only [PaymentTransaction.key, C2BCallback.transaction, hpaidRef, Option.map_some, key]

/-- A repayment of the push's loan carries the receipt. -/
def Credited (d : Db) : Prop := ∃ r ∈ d.repayments, r.key = some x.key ∧ r.loanId = x.loanId

theorem used_iff (d : Db) : ¬ x.Used d ↔
    ¬ Repaid d x.push.tenantId x.receipt ∧ ¬ Parked d x.push.tenantId x.receipt := by
  rw [Used, Option.not_isSome_iff_eq_none, referenceAlreadyUsed_eq_none x.receipt_ne_empty]
  simp only [true_imp_iff]

theorem key_iff (r : Repayment) :
    r.key = some x.key ↔ r.tenantId = x.push.tenantId ∧ r.mpesaRef = some x.receipt := by
  simp only [Repayment.key, key, Option.map_eq_some_iff, Prod.mk.injEq]
  constructor
  · rintro ⟨ref, href, htenant, rfl⟩
    exact ⟨htenant, href⟩
  · rintro ⟨htenant, href⟩
    exact ⟨_, href, htenant, rfl⟩

/-- The loans credited under the receipt. -/
def creditedLoans (d : Db) : List ℕ :=
  (d.repayments.filter (fun r => r.key = some x.key)).map (·.loanId)

/-- Under the index, the loan was credited once exactly where it was credited. -/
theorem creditedLoans_iff {d : Db} (hunique : (d.repayments.filterMap Repayment.key).Nodup) :
    x.creditedLoans d = [x.loanId] ↔ x.Credited d := by
  have hone : (d.repayments.filter (fun r => r.key = some x.key)).length ≤ 1 :=
    length_filter_le_one hunique (fun r hr => by simpa using hr)
  constructor
  · intro h
    have hmem : x.loanId ∈ x.creditedLoans d := by
      rw [h]
      exact List.mem_singleton_self _
    obtain ⟨r, hr, hloan⟩ := List.mem_map.mp hmem
    obtain ⟨hr, hkey⟩ := List.mem_filter.mp hr
    exact ⟨r, hr, by simpa using hkey, hloan⟩
  · rintro ⟨r, hr, hkey, hloan⟩
    have hmem : r ∈ d.repayments.filter (fun r => r.key = some x.key) :=
      List.mem_filter.mpr ⟨hr, by simpa using hkey⟩
    obtain ⟨y, hy⟩ := List.length_eq_one_iff.mp
      (le_antisymm hone (List.length_pos_of_mem hmem))
    rw [hy, List.mem_singleton] at hmem
    rw [creditedLoans, hy, List.map_singleton, ← hmem, hloan]

/-- No loan is credited where the receipt is not used. -/
theorem creditedLoans_nil {d : Db} (hused : ¬ x.Used d) : x.creditedLoans d = [] := by
  rw [creditedLoans, List.map_eq_nil_iff, List.filter_eq_nil_iff]
  intro r hr hkey
  have hrow := (x.key_iff r).mp (by simpa using hkey)
  exact ((x.used_iff d).mp hused).1 ⟨r, hr, hrow.1, hrow.2⟩

/-- The callback credits the loan where the receipt is new, the loan is collectible and has
something to pay. -/
def CallbackCredits (freshRef : String) (now : ℤ) : Prop :=
  ¬ x.Used db ∧ x.loan.status.collectible = true ∧
    SomethingToPay db x.loanId x.loan (x.payment freshRef now)

theorem payLoan_credits {freshRef : String} {now : ℤ} {out : Db × ApplyResult}
    (h : payLoan (stkPaid db x.txnId (some x.receipt)) x.loanId x.loan (x.payment freshRef now) =
      .ok out) :
    x.creditedLoans out.1 = [x.loanId] ↔ x.Credited db ∨ x.CallbackCredits freshRef now := by
  have hunique := (Db.indexed_iff.mp x.indexed).1
  have hreference := x.payment_reference freshRef now
  have hused : Accepts (stkPaid db x.txnId (some x.receipt)) x.loan (x.payment freshRef now) ↔
      ¬ x.Used db := by
    have hpos : 0 < (x.payment freshRef now).amount := by
      rw [x.payment_amount]
      exact x.positive
    have htenant : x.loan.tenantId = (x.payment freshRef now).tenantId :=
      (loanOf_eq_some x.ofLoan).2.2
    rw [Used, Option.not_isSome_iff_eq_none, Accepts, hreference]
    exact ⟨fun hacc => hacc.2.2, fun hnew => ⟨hpos, htenant, hnew⟩⟩
  rcases (payLoan_rows h).2.2 with ⟨hacc, hrep, -⟩ | ⟨hacc, hcoll, hrep, -⟩ | ⟨hacc, hcoll, hrep, -⟩
  · have hsame : x.creditedLoans out.1 = x.creditedLoans db := by
      rw [creditedLoans, hrep]
      rfl
    rw [hsame, x.creditedLoans_iff hunique]
    exact (or_iff_left fun hcredits => hacc (hused.mpr hcredits.1)).symm
  · have hsame : x.creditedLoans out.1 = x.creditedLoans db := by
      rw [creditedLoans, hrep]
      rfl
    rw [hsame, x.creditedLoans_iff hunique]
    refine (or_iff_left fun hcredits => ?_).symm
    have hopen := hcredits.2.1
    rw [hcoll] at hopen
    cases hopen
  · have hnew := hused.mp hacc
    have hnone : ¬ x.Credited db := by
      intro hcredited
      have hone := (x.creditedLoans_iff hunique).mpr hcredited
      rw [x.creditedLoans_nil hnew] at hone
      cases hone
    have hrows : x.creditedLoans out.1 = x.creditedLoans db ++
        (if SomethingToPay db x.loanId x.loan (x.payment freshRef now) then [x.loanId] else
          []) := by
      rw [creditedLoans, hrep, List.filter_append, List.map_append]
      refine congrArg (x.creditedLoans db ++ ·) ?_
      simp only [repaymentRow]
      have hpos : 0 < (divisionOf (stkPaid db x.txnId (some x.receipt)) x.loanId x.loan
          (x.payment freshRef now)).applied ↔
            SomethingToPay db x.loanId x.loan (x.payment freshRef now) := applied_pos hacc
      by_cases hpay : SomethingToPay db x.loanId x.loan (x.payment freshRef now)
      · rw [if_pos hpay, if_pos (hpos.mpr hpay), List.filter_singleton]
        have htenant : (x.payment freshRef now).tenantId = x.push.tenantId := rfl
        simp only [Repayment.key, Option.map_some, hreference, key, htenant, decide_true, cond_true,
          List.map_cons, List.map_nil]
      · have hnothing := fun happlied => hpay (hpos.mp happlied)
        simp only [if_neg hpay, if_neg hnothing, List.filter_nil, List.map_nil]
    rw [hrows, x.creditedLoans_nil hnew, List.nil_append, or_iff_right hnone]
    constructor
    · intro hone
      by_cases hpay : SomethingToPay db x.loanId x.loan (x.payment freshRef now)
      · exact ⟨hnew, hcoll, hpay⟩
      · rw [if_neg hpay] at hone
        cases hone
    · intro hcredits
      rw [if_pos hcredits.2.2]

/-- The confirmation that leaves its row keeps the callback from its commit for good. -/
theorem taken_of_confirmed {d : Db} {t : PaymentTransaction}
    (htxns : d.transactions = db.transactions ++ [t]) (hkey : t.key = some x.key) :
    x.Waits d ∧ x.Taken d := by
  have hlt : x.txnId < db.transactions.length := (List.getElem?_eq_some_iff.mp x.row).1
  refine ⟨⟨?_, ?_⟩, db.transactions.length, t, ?_, by omega, hkey⟩
  · rw [htxns, List.findIdx?_append, x.found]
    rfl
  · rw [htxns, List.getElem?_append_left hlt, x.row]
  · rw [htxns, List.getElem?_concat_length]

/-- The callback, or the confirmation, comes in as event `id`. -/
def report (isStk : Bool) (id : ℕ) (a : Arrival) : List (QueueStep Db WebhookBody) :=
  if isStk then arrive id "stk-callback" (.stk x.stk) a else arrive id "c2b-callback" (.c2b x.c2b) a

/-- Both are delivered, and the worker goes on for as long as it likes after each. -/
def schedule (stkFirst : Bool) (first second : Arrival) (between after : List WorkerStep) :
    List (QueueStep Db WebhookBody) :=
  x.report stkFirst 0 first ++ between.map WorkerStep.step ++
    (x.report (!stkFirst) 1 second ++ after.map WorkerStep.step)

/-- The loan is credited once under the receipt, the events are processed, and the push is
not pending. -/
structure CreditedOnce (s : WebhookQueue Db WebhookBody) : Prop where
  credited : x.creditedLoans s.db = [x.loanId]
  processed : ∀ e ∈ s.events, e.processingStatus = .processed
  left : ∀ t ∈ s.db.transactions[x.txnId]?, t.status ≠ .pending

end ReceiptNews

section Confluence

variable {platform : Platform} {settings : WebhookSettings} {db : Db}
  (x : ReceiptNews platform db) {s : WebhookQueue Db WebhookBody} {a : Arrival}

/-- The processor of the callback, and the one of the confirmation. -/
theorem lookup_stk : (paymentProcessors platform).lookup "stk-callback" =
    some (fun db body freshRef now => (processStkCallback db body.asStk freshRef now).map
      (fun out => (out.1, (findStkTxn db body.asStk).map (·.tenantId)))) := rfl

theorem lookup_c2b : (paymentProcessors platform).lookup "c2b-callback" =
    some (fun db body freshRef now => do
      let cb ← body.asC2b
      let tenantId ← c2bTenant db platform.shortcodeToTenant cb
      let out ← processC2bCallback db platform.shortcodeToTenant cb freshRef now
      return (out.1, some tenantId)) := rfl

variable (settings) in
/-- A delivered callback that completes, and one that never would. -/
theorem stk_ok {id : ℕ} (hid : id = s.events.length) {d : Db} (hd : s.db = d) {out : Db × Reply}
    (h : processStkCallback d x.stk a.freshRef a.now = .ok out) :
    let s' := Runs.run (WebhookQueue.step (paymentProcessors platform) settings) s
      (x.report true id a)
    s'.db = out.1 ∧ ∃ e, s'.events = s.events ++ [e] ∧ e.processingStatus = .processed := by
  subst hid hd
  have hdone : (processStkCallback s.db (WebhookBody.stk x.stk).asStk a.freshRef a.now).map
      (fun out => (out.1, (findStkTxn s.db (WebhookBody.stk x.stk).asStk).map (·.tenantId))) =
      .ok (out.1, (findStkTxn s.db x.stk).map (·.tenantId)) := by
    simp only [WebhookBody.asStk, h, Except.map]
  exact arrive_ok settings lookup_stk hdone

variable (settings) in
theorem stk_rests {id : ℕ} (hid : id = s.events.length) {d : Db}
    (h : Rests (paymentProcessors platform) d s)
    (hblocked : ∀ freshRef now out, processStkCallback d x.stk freshRef now ≠ .ok out) :
    Rests (paymentProcessors platform) d
      (Runs.run (WebhookQueue.step (paymentProcessors platform) settings) s
        (x.report true id a)) := by
  subst hid
  refine h.arrive lookup_stk fun freshRef now out hout => ?_
  obtain ⟨stored, hstored, -⟩ := map_eq_ok.mp hout
  exact absurd hstored (hblocked freshRef now stored)

variable (settings) in
/-- A delivered confirmation that completes, and one that changes nothing. -/
theorem c2b_ok {id : ℕ} (hid : id = s.events.length) {d : Db} (hd : s.db = d) {out : Db × Reply}
    (h : processC2bCallback d platform.shortcodeToTenant x.c2b a.freshRef a.now = .ok out) :
    let s' := Runs.run (WebhookQueue.step (paymentProcessors platform) settings) s
      (x.report false id a)
    s'.db = out.1 ∧ ∃ e, s'.events = s.events ++ [e] ∧ e.processingStatus = .processed := by
  subst hid hd
  refine arrive_ok settings lookup_c2b (?_ : _ = Except.ok (out.1, some x.push.tenantId))
  simp only [WebhookBody.asC2b, x.c2bTenant_eq, Bind.bind, Except.bind, h, Pure.pure, Except.pure]

variable (settings) in
theorem c2b_rests {id : ℕ} (hid : id = s.events.length) {d : Db}
    (h : Rests (paymentProcessors platform) d s)
    (hcarried : x.Used d ∨ ∃ t ∈ d.transactions, t.key = some x.key) :
    Rests (paymentProcessors platform) d
      (Runs.run (WebhookQueue.step (paymentProcessors platform) settings) s
        (x.report false id a)) := by
  subst hid
  refine h.arrive lookup_c2b fun freshRef now out hout => ?_
  simp only [WebhookBody.asC2b, x.c2bTenant_eq, Bind.bind, Except.bind, Pure.pure,
    Except.pure] at hout
  split at hout
  · cases hout
  · rename_i stored hstored
    cases hout
    exact (x.processC2b_idle hcarried hstored).2

/-- The order in which the two reports of a receipt end as they should: the receipt is on
no other transaction, and either the loan was credited under it before, or the callback
comes first, and its payment is new and has a collectible loan to go to. -/
def ReceiptNews.CallbackFirst (stkFirst : Bool) (first : Arrival) : Prop :=
  ¬ x.Taken db ∧ (x.Credited db ∨ (stkFirst = true ∧ x.CallbackCredits first.freshRef first.now))

variable (platform) in
/-- The events of a queue all of whose bodies were processed are all that counts. -/
theorem rests_of_processed {d : Db} (hdb : s.db = d)
    (hall : ∀ e ∈ s.events, e.processingStatus = .processed) :
    Rests (paymentProcessors platform) d s :=
  ⟨hdb, fun e he hstatus => absurd (hall e he) hstatus⟩

/-- One more event that is processed. -/
theorem processed_append {events events' : List (MpesaWebhookEvent WebhookBody)}
    (hall : ∀ e ∈ events, e.processingStatus = .processed)
    (h : ∃ e, events' = events ++ [e] ∧ e.processingStatus = .processed) :
    ∀ e ∈ events', e.processingStatus = .processed := by
  obtain ⟨new, rfl, hnew⟩ := h
  intro e he
  rcases List.mem_append.mp he with he | he
  · exact hall e he
  · rw [List.mem_singleton.mp he, hnew]

/-- A push that is still pending was not settled. -/
theorem not_creditedOnce_of_pending (hpush : s.db.transactions[x.txnId]? = some x.push) :
    ¬ x.CreditedOnce s := fun h => h.left x.push hpush x.pending

/-- The callback that is committed leaves its push paid. -/
theorem left_of_paid {d : Db} {out : Db × ApplyResult}
    (hrow : d.transactions[x.txnId]? = some x.push) {freshRef : String} {now : ℤ}
    (h : payLoan (stkPaid d x.txnId (some x.receipt)) x.loanId x.loan (x.payment freshRef now) =
      .ok out) : out.1.transactions[x.txnId]? =
        some { x.push with status := .success, mpesaRef := some x.receipt } := by
  rw [(payLoan_rows h).1]
  simp only [stkPaid, Db.updateTransaction, List.getElem?_modify_eq, hrow]
  rfl

/-- Once all events are processed, the worker changes nothing about the receipt. -/
theorem creditedOnce_iff_of_processed (hs : QueueSound settings s)
    (hall : ∀ e ∈ s.events, e.processingStatus = .processed)
    (hleft : ∀ t ∈ s.db.transactions[x.txnId]?, t.status ≠ .pending) (after : List WorkerStep) :
    x.CreditedOnce (Runs.run (WebhookQueue.step (paymentProcessors platform) settings) s
      (after.map WorkerStep.step)) ↔ x.creditedLoans s.db = [x.loanId] := by
  obtain ⟨hrest, hkept⟩ := (rests_of_processed platform rfl hall).run hs after
  rw [← hrest.same]
  refine ⟨fun h => h.credited, fun h => ⟨h, hkept.all hall, ?_⟩⟩
  rw [hrest.same]
  exact hleft

/-- The queue when the second report comes in, after the first and the retries. -/
theorem report_length (b : Bool) {id : ℕ} (hid : id = s.events.length) :
    (Runs.run (WebhookQueue.step (paymentProcessors platform) settings) s
      (x.report b id a)).events.length = s.events.length + 1 := by
  subst hid
  have hsame : ∀ (q : WebhookQueue Db WebhookBody) (n : ℕ), (q.attempt (paymentProcessors platform)
      settings n none a.freshRef a.now).events.length = q.events.length := by
    intro q n
    simp only [WebhookQueue.attempt]
    split
    · rfl
    split
    · exact List.length_set
    · exact List.length_set
    · exact List.length_set
  cases b
  all_goals
    simp only [ReceiptNews.report, Bool.false_eq_true, if_false, if_true, arrive, run_cons, run_nil,
      WebhookQueue.step, recordEvent, List.mem_append, List.mem_singleton, or_true, hsame,
      List.length_append, List.length_singleton]

/-- The queue `s'` after the first report left it as `s` and the worker went on. -/
structure Between (settings : WebhookSettings) (platform : Platform) (d : Db)
    (s s' : WebhookQueue Db WebhookBody) : Prop where
  sound : QueueSound settings s'
  rests : Rests (paymentProcessors platform) d s'
  one : 1 = s'.events.length
  kept : KeepsProcessed s s'

variable (settings) in
theorem between_of_rests (isStk : Bool) {d : Db}
    (h : Rests (paymentProcessors platform) d (run
      (WebhookQueue.step (paymentProcessors platform) settings) (WebhookQueue.start db)
      (x.report isStk 0 a))) (between : List WorkerStep) :
    Between settings platform d
      (run (WebhookQueue.step (paymentProcessors platform) settings) (WebhookQueue.start db)
        (x.report isStk 0 a))
      (run (WebhookQueue.step (paymentProcessors platform) settings) (WebhookQueue.start db)
        (x.report isStk 0 a ++ between.map WorkerStep.step)) := by
  obtain ⟨hrest, hkept⟩ := h.run (.run db _) between
  rw [← run_append] at hrest hkept
  exact ⟨.run db _, hrest, (hkept.length.trans (report_length x isStk rfl)).symm, hkept⟩

/-- Where another transaction carries the receipt, the push stays pending. -/
theorem not_creditedOnce_of_taken (htaken : x.Taken db) (stkFirst : Bool) (first second : Arrival)
    (between after : List WorkerStep) :
    ¬ x.CreditedOnce (run (WebhookQueue.step (paymentProcessors platform) settings)
      (WebhookQueue.start db) (x.schedule stkFirst first second between after)) := by
  have hcarried : x.Used db ∨ ∃ t ∈ db.transactions, t.key = some x.key := by
    obtain ⟨i, t, ht, -, hkey⟩ := htaken
    exact .inr ⟨t, List.mem_of_getElem? ht, hkey⟩
  have hreport : ∀ {s : WebhookQueue Db WebhookBody} (isStk : Bool) {id : ℕ} {a : Arrival},
      id = s.events.length → Rests (paymentProcessors platform) db s →
      Rests (paymentProcessors platform) db
        (run (WebhookQueue.step (paymentProcessors platform) settings) s
          (x.report isStk id a)) := by
    intro s isStk id a hid h
    cases isStk with
    | true => exact stk_rests settings x hid h (x.processStk_blocked x.waits htaken)
    | false => exact c2b_rests settings x hid h hcarried
  have hstart : Rests (paymentProcessors platform) db (WebhookQueue.start db) :=
    ⟨rfl, fun e he => absurd he List.not_mem_nil⟩
  have hbetween := between_of_rests settings x stkFirst
    (hreport (a := first) stkFirst rfl hstart) between
  have hsecond := hreport (a := second) (!stkFirst) hbetween.one hbetween.rests
  rw [← run_append] at hsecond
  obtain ⟨hlast, -⟩ := hsecond.run (.run db _) after
  rw [← run_append, List.append_assoc] at hlast
  refine not_creditedOnce_of_pending x ?_
  rw [ReceiptNews.schedule, hlast.same]
  exact x.row

/-- Where the confirmation comes first and is committed, the push stays pending as well. -/
theorem not_creditedOnce_of_confirmed (hused : ¬ x.Used db) (hfree : ¬ x.Taken db)
    (first second : Arrival) (between after : List WorkerStep) :
    ¬ x.CreditedOnce (run (WebhookQueue.step (paymentProcessors platform) settings)
      (WebhookQueue.start db) (x.schedule false first second between after)) := by
  obtain ⟨out, hout⟩ := x.processC2b_ok hused hfree first.freshRef first.now
  obtain ⟨t, htxns, hkey, -, -⟩ := x.processC2b_new hused hout
  obtain ⟨hwaits, htaken⟩ := x.taken_of_confirmed htxns hkey
  obtain ⟨hdb, hprocessed⟩ := c2b_ok (s := WebhookQueue.start db) settings x rfl rfl hout
  have hfirst := rests_of_processed platform hdb
    (processed_append (fun e he => absurd he List.not_mem_nil) hprocessed)
  have hbetween := between_of_rests settings x false hfirst between
  have hsecond := stk_rests (a := second) settings x hbetween.one hbetween.rests
    (x.processStk_blocked hwaits htaken)
  rw [← run_append] at hsecond
  obtain ⟨hlast, -⟩ := hsecond.run (.run db _) after
  rw [← run_append, List.append_assoc] at hlast
  refine not_creditedOnce_of_pending x ?_
  rw [ReceiptNews.schedule]
  exact hlast.same ▸ hwaits.row

/-- Where the confirmation comes first and finds its receipt recorded, the callback is
committed after it. -/
theorem creditedOnce_iff_of_acknowledged (hused : x.Used db) (hfree : ¬ x.Taken db)
    (first second : Arrival) (between after : List WorkerStep) :
    x.CreditedOnce (run (WebhookQueue.step (paymentProcessors platform) settings)
      (WebhookQueue.start db) (x.schedule false first second between after)) ↔ x.Credited db := by
  obtain ⟨hdb, hprocessed⟩ := c2b_ok (s := WebhookQueue.start db) (a := first)
    settings x rfl rfl (x.processC2b_used hused first.freshRef first.now)
  have hall : ∀ e ∈ (run (WebhookQueue.step (paymentProcessors platform) settings)
      (WebhookQueue.start db) (x.report false 0 first)).events, e.processingStatus = .processed :=
    processed_append (fun e he => absurd he List.not_mem_nil) hprocessed
  have hbetween := between_of_rests settings x false (rests_of_processed platform hdb hall) between
  obtain ⟨out, hpay, hout⟩ := x.processStk_ok hfree second.freshRef second.now
  obtain ⟨hdb', hprocessed'⟩ := stk_ok settings x hbetween.one hbetween.rests.same hout
  have hpaid := left_of_paid x x.row hpay
  rw [ReceiptNews.schedule, ← List.append_assoc, run_append, run_append,
    creditedOnce_iff_of_processed x]
  · rw [Bool.not_false, hdb', x.payLoan_credits hpay]
    exact or_iff_left fun hcredits => hcredits.1 hused
  · rw [← run_append]
    exact .run db _
  · exact processed_append (hbetween.kept.all hall) hprocessed'
  · rw [Bool.not_false, hdb', hpaid]
    intro t ht hpending
    obtain rfl := Option.some.inj ht
    cases hpending

/-- Where the callback comes first and is committed, the confirmation finds the receipt, or
never completes. -/
theorem creditedOnce_iff_of_callback (hfree : ¬ x.Taken db) (first second : Arrival)
    (between after : List WorkerStep) :
    x.CreditedOnce (run (WebhookQueue.step (paymentProcessors platform) settings)
      (WebhookQueue.start db) (x.schedule true first second between after)) ↔
      x.Credited db ∨ x.CallbackCredits first.freshRef first.now := by
  obtain ⟨out, hpay, hout⟩ := x.processStk_ok hfree first.freshRef first.now
  obtain ⟨hdb, hprocessed⟩ := stk_ok (s := WebhookQueue.start db)
    settings x rfl rfl hout
  have hall : ∀ e ∈ (run (WebhookQueue.step (paymentProcessors platform) settings)
      (WebhookQueue.start db) (x.report true 0 first)).events, e.processingStatus = .processed :=
    processed_append (fun e he => absurd he List.not_mem_nil) hprocessed
  have hbetween := between_of_rests settings x true (rests_of_processed platform hdb hall) between
  have hpaid := left_of_paid x x.row hpay
  rw [← x.payLoan_credits hpay, ReceiptNews.schedule, ← List.append_assoc, run_append, run_append,
    Bool.not_true]
  by_cases hused : x.Used out.1
  · have hack := x.processC2b_used hused second.freshRef second.now
    obtain ⟨hdb', hprocessed'⟩ := c2b_ok settings x hbetween.one
      hbetween.rests.same hack
    rw [creditedOnce_iff_of_processed x, hdb']
    · rw [← run_append]
      exact .run db _
    · exact processed_append (hbetween.kept.all hall) hprocessed'
    · rw [hdb', hpaid]
      intro t ht hpending
      obtain rfl := Option.some.inj ht
      cases hpending
  · have hcarried : ∃ t ∈ out.1.transactions, t.key = some x.key :=
      ⟨_, List.mem_of_getElem? hpaid, rfl⟩
    have hsecond := c2b_rests (a := second) settings x hbetween.one hbetween.rests
      (.inr hcarried)
    rw [← run_append] at hsecond
    obtain ⟨hlast, -⟩ := hsecond.run (.run db _) after
    have hnone := x.creditedLoans_nil hused
    rw [← run_append, List.append_assoc] at hlast
    rw [← run_append, ← run_append]
    constructor
    · intro h
      have hcredited := h.credited
      rw [hlast.same] at hcredited
      exact hcredited
    · intro h
      rw [hnone] at h
      cases h

/-- A pending push whose callback and paybill confirmation carry one receipt, delivered in
either order with any retries, ends credited once, with both events processed and the push
settled, exactly when the receipt is on no other transaction and either was credited to the
loan before, or the callback comes first with a payment the loan can take. -/
theorem receipt_credited_once_iff (settings : WebhookSettings) {platform : Platform} {db : Db}
    (x : ReceiptNews platform db) (stkFirst : Bool) (first second : Arrival)
    (between after : List WorkerStep) :
    x.CreditedOnce (run (WebhookQueue.step (paymentProcessors platform) settings)
      (WebhookQueue.start db) (x.schedule stkFirst first second between after)) ↔
      x.CallbackFirst stkFirst first := by
  by_cases htaken : x.Taken db
  · exact iff_of_false (not_creditedOnce_of_taken x htaken stkFirst first second between after)
      (fun h => h.1 htaken)
  cases stkFirst with
  | true =>
    rw [creditedOnce_iff_of_callback x htaken]
    simp only [ReceiptNews.CallbackFirst, htaken, not_false_eq_true, true_and]
  | false =>
    have hfirst : x.CallbackFirst false first ↔ x.Credited db := by
      simp only [ReceiptNews.CallbackFirst, htaken, not_false_eq_true, true_and,
        Bool.false_eq_true, false_and, or_false]
    rw [hfirst]
    by_cases hused : x.Used db
    · exact creditedOnce_iff_of_acknowledged x hused htaken first second between after
    · refine iff_of_false (not_creditedOnce_of_confirmed x hused htaken first second between after)
        fun hcredited => ?_
      have hone := (x.creditedLoans_iff (Db.indexed_iff.mp x.indexed).1).mpr hcredited
      rw [x.creditedLoans_nil hused] at hone
      cases hone

end Confluence

/-- The book with a push of 2,000 for the loan that waits for its callback. -/
def bookWithPush : Db :=
  { fourWeekBook with
    transactions := [⟨1, .stkPush, some 0, 200000, some "254700000001", some "ws_CO_1", .pending,
      ⟨none, none, none, none, none⟩, 0⟩] }

/-- M-Pesa reports the receipt `QA1` of the push twice. -/
def pushNews : ReceiptNews unfinishedPlatform bookWithPush where
  txnId := 0
  push := ⟨1, .stkPush, some 0, 200000, some "254700000001", some "ws_CO_1", .pending,
    ⟨none, none, none, none, none⟩, 0⟩
  loanId := 0
  loan := fourWeekLoan
  stk := ⟨some "ws_CO_1", "0", some "QA1", some 200000, some 259200, some "254700000001"⟩
  c2b := paybillConfirmation "QA1" "FL/1" 200000 3
  checkoutId := "ws_CO_1"
  receipt := "QA1"
  amount := 200000
  shortcode := "600100"
  indexed := by decide
  checkout := by decide
  found := by decide
  row := by decide
  pending := rfl
  ofLoan := by decide
  success := rfl
  stkReceipt := by decide
  stkAmount := rfl
  positive := by decide
  c2bReceipt := rfl
  c2bAmount := rfl
  paybill := rfl
  number := by decide
  tenant := by decide
  otherRef := by decide

/-- The arrival of a report on day 3. -/
def onDayThree : Arrival := ⟨some 1, some "600100", 259200, "MAN-1", 259200⟩

/-- With the callback first, both reports are processed and the loan is credited once. -/
theorem receipt_credited_once_iff_callback_first : pushNews.CreditedOnce
    (run (WebhookQueue.step (paymentProcessors unfinishedPlatform) ⟨5, 60, 168⟩)
      (WebhookQueue.start bookWithPush)
      (pushNews.schedule true onDayThree onDayThree [] [.beginPass 259300])) := by
  refine (receipt_credited_once_iff ⟨5, 60, 168⟩ pushNews true onDayThree onDayThree []
    [.beginPass 259300]).mpr ⟨?_, .inr ⟨rfl, ?_, by decide, by decide +kernel⟩⟩
  · rintro ⟨i, t, ht, hi, -⟩
    have hlt : i < 1 := (List.getElem?_eq_some_iff.mp ht).1
    exact hi (Nat.lt_one_iff.mp hlt)
  · change ¬ (referenceAlreadyUsed bookWithPush 1 (some "QA1") true).isSome = true
    decide

/-- With the confirmation first, its transaction row holds the receipt, the callback breaks
the index at every attempt, and the push stays pending. -/
theorem confirmation_first_leaves_push_pending : ¬ pushNews.CreditedOnce
    (run (WebhookQueue.step (paymentProcessors unfinishedPlatform) ⟨5, 60, 168⟩)
      (WebhookQueue.start bookWithPush)
      (pushNews.schedule false onDayThree onDayThree []
        [.beginPass 259320, .retry none "MAN-2" 259320])) := by
  intro h
  have hrow : (run (WebhookQueue.step (paymentProcessors unfinishedPlatform) ⟨5, 60, 168⟩)
      (WebhookQueue.start bookWithPush) (pushNews.schedule false onDayThree onDayThree []
        [.beginPass 259320, .retry none "MAN-2" 259320])).db.transactions[0]? =
      some pushNews.push := by
    decide +kernel
  exact h.left pushNews.push hrow rfl

end FinylDcp
