import FinylDcp.SuspenseDisposal

/-!
# One payment for a request

A request that is approved makes one outgoing payment. The lock on its row is gone once
the refund's intent is saved, and only an answer that Safaricom took the refund in reaches
the request's own status; so a second decision while the call is under way, or after an
answer that left the outcome open, finds the request waiting.
-/
namespace FinylDcp
open Db Runs Tables

/-- A transaction that sends money back for a request. -/
def PaymentTransaction.madeFor (pendingId : ℕ) (t : PaymentTransaction) : Bool :=
  t.outgoing && t.rawPayload.pendingId = some pendingId

/-- The payments of a request that did not fail, by rows. -/
def Db.sentFor (db : Db) (pendingId : ℕ) : ℕ :=
  (db.transactions.filter (fun t => t.madeFor pendingId && t.status ≠ .failed)).length

/-- The payments of a request: taken in, of unknown outcome, or still being called. -/
def MoneyDesk.payments (s : MoneyDesk) (pendingId : ℕ) : ℕ :=
  s.db.sentFor pendingId + (s.lost.filter (fun x => x.2 = pendingId)).length

/-- A request has at most one payment, and once the call of a payment that did not fail is
over, or nobody answered it, the request does not wait for a decision. -/
structure OnePayment (pendingId : ℕ) (s : MoneyDesk) : Prop where
  once : s.payments pendingId ≤ 1
  sent : ∀ x ∈ s.db.transactions.zipIdx, x.1.madeFor pendingId = true → x.1.status ≠ .failed →
    (∀ c ∈ s.calls, c.call.refundTxn ≠ some x.2) →
    ∀ p ∈ s.db.pending[pendingId]?, p.status ≠ .pendingApproval
  lost : ∀ x ∈ s.lost, x.2 = pendingId →
    ∀ p ∈ s.db.pending[pendingId]?, p.status ≠ .pendingApproval

instance (pendingId : ℕ) (s : MoneyDesk) : Decidable (OnePayment pendingId s) :=
  decidable_of_iff (s.payments pendingId ≤ 1 ∧
    (∀ x ∈ s.db.transactions.zipIdx, x.1.madeFor pendingId = true → x.1.status ≠ .failed →
      (∀ c ∈ s.calls, c.call.refundTxn ≠ some x.2) →
      ∀ p ∈ s.db.pending[pendingId]?, p.status ≠ .pendingApproval) ∧
    ∀ x ∈ s.lost, x.2 = pendingId → ∀ p ∈ s.db.pending[pendingId]?, p.status ≠ .pendingApproval)
    ⟨fun h => ⟨h.1, h.2.1, h.2.2⟩, fun h => ⟨h.once, h.sent, h.lost⟩⟩

/-- Nothing was sent for a request, if it is there at all. -/
def NothingSent (pendingId : ℕ) (db : Db) : Prop :=
  ∀ t ∈ db.transactions, t.madeFor pendingId = true → t.status = .failed

instance (pendingId : ℕ) (db : Db) : Decidable (NothingSent pendingId db) := by
  unfold NothingSent
  infer_instance

/-- A refund was refused, or taken in under a reference that is new. -/
def RefundKnown (db : Db) (tenantId : ℕ) (reply : B2cReply) (receipt : String) : Prop :=
  match sendB2c reply with
  | .refused _ => True
  | .uncertain _ => False
  | .accepted ack => RefFree db tenantId (refundRef ack receipt)

instance (db : Db) (tenantId : ℕ) (reply : B2cReply) (receipt : String) :
    Decidable (RefundKnown db tenantId reply receipt) := by
  unfold RefundKnown
  split <;> infer_instance

/-- A call is a refund for a request. -/
def OpenCall.refunds (pendingId : ℕ) (c : OpenCall) : Bool :=
  c.pendingId = pendingId && c.call.refundTxn.isSome

/-- An approval is refused for want of what it would send: no amount, too little left of the
overpayment, or an entry that is not held. -/
def NothingToSend (db : Db) (tenantId : ℕ) (p : PendingApproval) : Prop :=
  match p.actionType with
  | .refund => p.amount ≤ 0 ∨ ∀ loanId ∈ p.loanId, ∀ loan ∈ loanRow db tenantId loanId,
      refundableOverpayment db tenantId loanId loan none false < p.amount
  | .suspenseRefund => p.amount ≤ 0 ∨ ∀ id ∈ p.details.suspenseId, ∀ e ∈ db.suspense[id]?,
      e.tenantId = tenantId → e.status ≠ .pendingApproval
  | _ => False

instance (db : Db) (tenantId : ℕ) (p : PendingApproval) :
    Decidable (NothingToSend db tenantId p) := by
  unfold NothingToSend
  split <;> infer_instance

/-- A decision that its checks refuse. -/
def DecisionRefused (db : Db) (tenantId pendingId : ℕ) (action : String)
    (checker : Checker) : Prop :=
  match decidable db tenantId pendingId action checker with
  | .error _ => True
  | .ok p => action ≠ "reject" ∧ NothingToSend db tenantId p

instance (db : Db) (tenantId pendingId : ℕ) (action : String) (checker : Checker) :
    Decidable (DecisionRefused db tenantId pendingId action checker) := by
  unfold DecisionRefused
  split <;> infer_instance

/-- No decision on a request goes through while its refund is being called, and every call
made for it ends in a refusal or an acceptance. -/
def OneAtATime (pendingId : ℕ) (s : MoneyDesk) : MoneyEvent → Prop
  | .decide tenantId id action checker _ reply _ _ => id = pendingId →
      ((∀ c ∈ s.calls, c.refunds pendingId = false) ∨
        DecisionRefused s.db tenantId pendingId action checker) ∧
      (action ≠ "reject" → ∀ p ∈ s.db.pending[pendingId]?, p.actionType = .suspenseReversal →
        ReversalKnown s.db tenantId reply)
  | .answer n reply receipt _ => ∀ c ∈ s.calls[n]?, c.pendingId = pendingId →
      ∀ txnId ∈ c.call.refundTxn, ∀ row ∈ s.db.transactions[txnId]?,
        RefundKnown s.db row.tenantId reply receipt
  | .stop n => ∀ c ∈ s.calls[n]?, c.refunds pendingId = false
  | _ => True

instance (pendingId : ℕ) (s : MoneyDesk) : (e : MoneyEvent) → Decidable (OneAtATime pendingId s e)
  | .decide tenantId id action checker _ reply _ _ =>
    inferInstanceAs (Decidable (id = pendingId →
      ((∀ c ∈ s.calls, c.refunds pendingId = false) ∨
        DecisionRefused s.db tenantId pendingId action checker) ∧
      (action ≠ "reject" → ∀ p ∈ s.db.pending[pendingId]?, p.actionType = .suspenseReversal →
        ReversalKnown s.db tenantId reply)))
  | .answer n reply receipt _ =>
    inferInstanceAs (Decidable (∀ c ∈ s.calls[n]?, c.pendingId = pendingId →
      ∀ txnId ∈ c.call.refundTxn, ∀ row ∈ s.db.transactions[txnId]?,
        RefundKnown s.db row.tenantId reply receipt))
  | .stop n => inferInstanceAs (Decidable (∀ c ∈ s.calls[n]?, c.refunds pendingId = false))
  | .park .. | .allocate .. | .refund .. | .reverse .. | .refundLoan .. | .result .. | .timeout ..
  | .reversalResult .. | .reversalTimeout .. | .resolve .. => isTrue trivial

/-- A request waits, or is yet to come. -/
def Undecided (pendingId : ℕ) (db : Db) : Prop :=
  ∀ p ∈ db.pending[pendingId]?, p.status = .pendingApproval

theorem undecided_of_continues {pendingId : ℕ} {db db' : Db}
    (hstays : ∀ (i : ℕ) (p : PendingApproval), db.pending[i]? = some p →
      ∃ p' ∈ db'.pending[i]?, p.Continues p') :
    Undecided pendingId db' → Undecided pendingId db := by
  intro hundecided p hp
  obtain ⟨p', hp', -, -, -, hstatus⟩ := hstays pendingId p hp
  have hwaits := hundecided p' hp'
  exact hstatus.elim (fun h => h ▸ hwaits) fun h => absurd hwaits h

theorem Waiting.undecided {pendingId : ℕ} {db : Db} {p : PendingApproval}
    (h : Waiting db pendingId p) :
    Undecided pendingId db := by
  intro q hq
  obtain rfl := Option.some.inj (h.row.symm.trans hq)
  exact h.waits

section Payments

variable {pendingId : ℕ} {db db' : Db}

theorem sentFor_elsewhere (h : Elsewhere db.transactions db'.transactions) :
    db'.sentFor pendingId = db.sentFor pendingId := by
  have hfilter : ∀ rows : List PaymentTransaction,
      rows.filter (fun t => t.madeFor pendingId && t.status ≠ .failed) =
        (rows.filter (·.outgoing)).filter (fun t => t.madeFor pendingId && t.status ≠ .failed) := by
    intro rows
    rw [List.filter_filter]
    refine List.filter_congr fun t _ => ?_
    cases hout : t.outgoing <;> simp [PaymentTransaction.madeFor, hout]
  rw [sentFor, sentFor, hfilter, hfilter db.transactions, h.outgoing]

theorem madeFor_of_purpose {t t' : PaymentTransaction} (h : t'.purpose = t.purpose) :
    t'.madeFor pendingId = t.madeFor pendingId := by
  have hout := outgoing_of_purpose h
  simp only [PaymentTransaction.purpose, Prod.mk.injEq] at h
  simp only [PaymentTransaction.madeFor, hout, h]

/-- A payment for a request that did not fail is counted. -/
theorem one_le_sentFor {i : ℕ} {row : PaymentTransaction} (hrow : db.transactions[i]? = some row)
    (hfor : row.madeFor pendingId = true) (hlive : row.status ≠ .failed) :
    1 ≤ db.sentFor pendingId :=
  one_le_length_filter hrow (by simp [hfor, hlive])

theorem two_le_sentFor {i j : ℕ} {row row' : PaymentTransaction} (hij : i ≠ j)
    (hrow : db.transactions[i]? = some row) (hrow' : db.transactions[j]? = some row')
    (hfor : row.madeFor pendingId = true) (hlive : row.status ≠ .failed)
    (hfor' : row'.madeFor pendingId = true) (hlive' : row'.status ≠ .failed) :
    2 ≤ db.sentFor pendingId :=
  two_le_length_filter hij hrow hrow' (by simp [hfor, hlive]) (by simp [hfor', hlive'])

/-- Marking a transaction moves it in or out of the count. -/
theorem Marked.sentFor (pendingId : ℕ) {txnId : ℕ} {row : PaymentTransaction}
    {status : TransactionStatus}
    (h : Marked db db' txnId row status) :
    db'.sentFor pendingId + (if row.madeFor pendingId && row.status ≠ .failed then 1 else 0) =
      db.sentFor pendingId + (if row.madeFor pendingId && status ≠ .failed then 1 else 0) := by
  obtain ⟨f, htxns, hset⟩ := h.txns
  have hcount := length_filter_modify (fun t : PaymentTransaction => t.madeFor pendingId &&
    decide (t.status ≠ .failed)) f h.found
  rwa [← htxns, madeFor_of_purpose (hset row).1, (hset row).2] at hcount

/-- A deed adds a payment to the request it decides, and to no other. -/
theorem Deed.sentFor_le (pendingId : ℕ) {request allocated : Option ℕ}
    (h : Deed db db' request allocated) :
    db'.sentFor pendingId ≤ db.sentFor pendingId ∨
      (request = some pendingId ∧ db'.sentFor pendingId = db.sentFor pendingId + 1 ∧
        ∃ p, Waiting db pendingId p) := by
  have hsame : db'.transactions = db.transactions → db'.sentFor pendingId ≤ db.sentFor pendingId :=
    fun htxns => by rw [Db.sentFor, Db.sentFor, htxns]
  cases h with
  | aside htxns => exact .inl (sentFor_elsewhere htxns).le
  | asks _ _ _ htxns => exact .inl (hsame htxns)
  | parks _ _ _ _ _ _ _ _ _ htxns => exact .inl (hsame htxns)
  | allocates _ _ _ _ htxns => exact .inl (hsame htxns)
  | rejects _ _ _ _ htxns => exact .inl (hsame htxns)
  | approves _ _ _ _ _ htxns => exact .inl (sentFor_elsewhere htxns).le
  | approvesAllocation _ _ _ _ _ _ _ htxns => exact .inl (hsame htxns)
  | sends id p hp source hsource hnone t hout hlive hfrom hfor htxns =>
    by_cases hid : id = pendingId
    · subst hid
      refine .inr ⟨rfl, ?_, p, hp⟩
      simp [Db.sentFor, htxns, PaymentTransaction.madeFor, hout, hlive, hfor]
    · refine .inl (le_of_eq ?_)
      simp [Db.sentFor, htxns, PaymentTransaction.madeFor, hfor, hid]
  | marks txnId row status hmarked hlive =>
    have hcount := hmarked.sentFor pendingId
    refine .inl ?_
    cases hfor : row.madeFor pendingId
    · simp only [hfor, Bool.false_and, Bool.false_eq_true, if_false] at hcount
      omega
    · simp only [hfor, hlive, ne_eq, not_false_eq_true, decide_true, Bool.and_self,
        if_true] at hcount
      split_ifs at hcount <;> omega

/-- The payment of a call under way is the only one its request has. -/
def OnlyPayment (pendingId txnId : ℕ) (db : Db) : Prop :=
  ∀ row ∈ db.transactions[txnId]?, db.sentFor pendingId = if row.status = .failed then 0 else 1

/-- It stays so when the payment of another request is marked. -/
theorem OnlyPayment.marked {txnId i : ℕ} {row : PaymentTransaction} {status : TransactionStatus}
    (h : OnlyPayment pendingId txnId db) (hmarked : Marked db db' i row status) (hi : i ≠ txnId)
    (hnot : row.madeFor pendingId = false) : OnlyPayment pendingId txnId db' := by
  have hcount := hmarked.sentFor pendingId
  obtain ⟨f, htxns, -⟩ := hmarked.txns
  intro row' hrow'
  have hrow : db.transactions[txnId]? = some row' := by
    rwa [htxns, List.getElem?_modify_ne _ _ hi] at hrow'
  simp only [hnot, Bool.false_and, Bool.false_eq_true, if_false, add_zero] at hcount
  rw [hcount, h row' hrow]

/-- It stays so while others mark transactions and decide other requests. -/
theorem OnlyPayment.deed {txnId : ℕ} {request allocated : Option ℕ} {row : PaymentTransaction}
    (h : OnlyPayment pendingId txnId db) (hdeed : Deed db db' request allocated)
    (hother : request ≠ some pendingId ∨ Elsewhere db.transactions db'.transactions)
    (hrow : db.transactions[txnId]? = some row) (hfor : row.madeFor pendingId = true) :
    OnlyPayment pendingId txnId db' := by
  have honly := h row hrow
  have helsewhere : Elsewhere db.transactions db'.transactions →
      OnlyPayment pendingId txnId db' := by
    intro htxns row' hrow'
    obtain ⟨t, ht, -, hsame⟩ := htxns.stays txnId row hrow
    have hout : row.outgoing = true := by
      simp only [PaymentTransaction.madeFor, Bool.and_eq_true] at hfor
      exact hfor.1
    obtain rfl := Option.some.inj (hrow'.symm.trans ht)
    rw [hsame hout, sentFor_elsewhere htxns, honly]
  have hsame : db'.transactions = db.transactions → OnlyPayment pendingId txnId db' :=
    fun htxns => helsewhere (htxns ▸ .refl _)
  cases hdeed with
  | aside htxns => exact helsewhere htxns
  | asks _ _ _ htxns => exact hsame htxns
  | parks _ _ _ _ _ _ _ _ _ htxns => exact hsame htxns
  | allocates _ _ _ _ htxns => exact hsame htxns
  | rejects _ _ _ _ htxns => exact hsame htxns
  | approves _ _ _ _ _ htxns => exact helsewhere htxns
  | approvesAllocation _ _ _ _ _ _ _ htxns => exact hsame htxns
  | sends id p hp source hsource hnone t hout hlive hfrom hfor' htxns =>
    obtain hid | htxns' := hother
    · have hid : id ≠ pendingId := fun h => hid (congrArg some h)
      intro row' hrow'
      have hlt := (List.getElem?_eq_some_iff.mp hrow).1
      rw [htxns, List.getElem?_append_left hlt, Option.mem_def, hrow] at hrow'
      obtain rfl := Option.some.inj hrow'
      rw [← honly]
      simp [Db.sentFor, htxns, PaymentTransaction.madeFor, hfor', hid]
    · exact helsewhere htxns'
  | marks i marked status hmarked hlive =>
    by_cases hi : i = txnId
    · subst hi
      have hcount := hmarked.sentFor pendingId
      obtain ⟨f, htxns, hset⟩ := hmarked.txns
      intro row' hrow'
      rw [htxns, List.getElem?_modify_eq, hrow] at hrow'
      obtain rfl : f row = row' := by simpa using hrow'
      obtain rfl := Option.some.inj (hrow.symm.trans hmarked.found)
      rw [(hset row).2]
      simp only [hfor, hlive, ne_eq, not_false_eq_true, decide_true, Bool.and_self, if_true,
        Bool.true_and] at hcount
      rw [if_neg hlive] at honly
      split_ifs at hcount ⊢ <;> simp_all
    · have hnot : marked.madeFor pendingId = false := by
        by_contra hmade
        rw [Bool.not_eq_false] at hmade
        by_cases hfailed : row.status = .failed
        · have := one_le_sentFor hmarked.found hmade hlive
          rw [honly, if_pos hfailed] at this
          omega
        · have := two_le_sentFor hi hmarked.found hrow hmade hlive hfor hfailed
          rw [honly, if_neg hfailed] at this
          omega
      exact h.marked hmarked hi hnot

end Payments

theorem refundTxn_eq_some {call : OutgoingCall} {txnId : ℕ} :
    call.refundTxn = some txnId ↔ call = .refund txnId := by
  cases call <;> simp [OutgoingCall.refundTxn]

/-- The transaction of a refund's call is made for its request. -/
theorem CallSound.madeFor {db : Db} {c : OpenCall} {txnId : ℕ} (h : CallSound db c)
    (htxn : c.call.refundTxn = some txnId) :
    ∃ row, db.transactions[txnId]? = some row ∧ row.type = .refund ∧
      row.rawPayload.pendingId = some c.pendingId := by
  obtain ⟨tenantId, pendingId, checkerId, call⟩ := c
  obtain rfl := refundTxn_eq_some.mp htxn
  obtain ⟨⟨row, hrow, htype, hfor⟩, -⟩ := h
  exact ⟨row, hrow, htype, hfor⟩

theorem madeFor_of_refund {row : PaymentTransaction} {pendingId id : ℕ} (htype : row.type = .refund)
    (hfor : row.rawPayload.pendingId = some id) :
    row.madeFor pendingId = decide (id = pendingId) := by
  simp [PaymentTransaction.madeFor, PaymentTransaction.outgoing, htype, hfor]

/-- The payments of a request against the calls under way for it: without one, it has at most
one payment, and none while it waits; with one, that call's is all it has. -/
structure Tallied (pendingId : ℕ) (db : Db) (calls : List OpenCall) : Prop where
  single : (calls.filter (·.refunds pendingId)).length ≤ 1
  quiet : (∀ c ∈ calls, c.refunds pendingId = false) →
    db.sentFor pendingId ≤ 1 ∧ (Undecided pendingId db → db.sentFor pendingId = 0)
  busy : ∀ c ∈ calls, c.pendingId = pendingId → ∀ txnId ∈ c.call.refundTxn,
    OnlyPayment pendingId txnId db

section Calls

variable {pendingId : ℕ} {db db' : Db} {calls : List OpenCall}

theorem refunds_of_txn {c : OpenCall} {txnId : ℕ} (hc : c.pendingId = pendingId)
    (htxn : c.call.refundTxn = some txnId) : c.refunds pendingId = true := by
  simp [OpenCall.refunds, hc, htxn]

/-- A deed on another request, or on no money that leaves, keeps the account. -/
theorem Tallied.deed {request allocated : Option ℕ} (h : Tallied pendingId db calls)
    (hcalls : ∀ c ∈ calls, CallSound db c) (hdeed : Deed db db' request allocated)
    (hother : request ≠ some pendingId ∨ Elsewhere db.transactions db'.transactions) :
    Tallied pendingId db' calls := by
  have hsent : db'.sentFor pendingId ≤ db.sentFor pendingId := by
    obtain hother | htxns := hother
    · exact (hdeed.sentFor_le pendingId).resolve_right fun h => hother h.1
    · exact (sentFor_elsewhere htxns).le
  refine ⟨h.single, fun hquiet => ?_, fun c hc hid txnId htxn => ?_⟩
  · obtain ⟨hone, hzero⟩ := h.quiet hquiet
    refine ⟨hsent.trans hone, fun hundecided => ?_⟩
    have := hzero (undecided_of_continues (fun i p hp => hdeed.requests_stay hp) hundecided)
    omega
  · obtain ⟨row, hrow, htype, hfor⟩ := (hcalls c hc).madeFor htxn
    refine (h.busy c hc hid txnId htxn).deed hdeed hother hrow ?_
    simp [madeFor_of_refund htype hfor, hid]

/-- A call that is not a refund of the request may end. -/
theorem Tallied.drop {n : ℕ} (h : Tallied pendingId db calls)
    (hnot : ∀ c ∈ calls[n]?, c.refunds pendingId = false) :
    Tallied pendingId db (calls.eraseIdx n) := by
  refine ⟨((List.eraseIdx_sublist calls n).filter _).length_le.trans h.single, fun hquiet => ?_,
    fun c hc => h.busy c (List.mem_of_mem_eraseIdx hc)⟩
  refine h.quiet fun c hc => ?_
  obtain ⟨i, hi, rfl⟩ := List.mem_iff_getElem.mp hc
  by_cases hin : i = n
  · exact hnot _ (by simp [← hin, hi])
  · exact hquiet _ (List.mem_eraseIdx_iff_getElem.mpr ⟨i, hi, hin, rfl⟩)

/-- The answer to a refund of another request keeps the account. -/
theorem Tallied.answered_other {txnId checkerId id : ℕ} {row : PaymentTransaction}
    {sent : SendResult}
    (h : Tallied pendingId db calls) (hcalls : ∀ c ∈ calls, CallSound db c)
    (hanswered : RefundAnswered db txnId id checkerId row db' sent)
    (hnot : row.madeFor pendingId = false) : Tallied pendingId db' calls := by
  obtain ⟨⟨status, hmarked⟩, hpending⟩ := hanswered.stays
  have hcount := hmarked.sentFor pendingId
  simp only [hnot, Bool.false_and, Bool.false_eq_true, if_false, add_zero] at hcount
  refine ⟨h.single, fun hquiet => ?_, fun c hc hid i hi => ?_⟩
  · obtain ⟨hone, hzero⟩ := h.quiet hquiet
    exact ⟨hcount ▸ hone, fun hundecided => hcount ▸
      hzero (undecided_of_continues hpending hundecided)⟩
  · obtain ⟨row', hrow', htype, hfor⟩ := (hcalls c hc).madeFor hi
    refine (h.busy c hc hid i hi).marked hmarked (fun heq => ?_) hnot
    subst heq
    obtain rfl := Option.some.inj (hrow'.symm.trans hmarked.found)
    rw [madeFor_of_refund htype hfor, decide_eq_false_iff_not] at hnot
    exact hnot hid

/-- The answer to the refund of the request itself: refused, it was no payment; accepted, the
request is decided. -/
theorem Tallied.answered {n txnId : ℕ} {c : OpenCall} {row : PaymentTransaction} {sent : SendResult}
    (h : Tallied pendingId db calls) (hc : calls[n]? = some c) (hid : c.pendingId = pendingId)
    (htxn : c.call.refundTxn = some txnId) (hsound : CallSound db c)
    (hrow : db.transactions[txnId]? = some row)
    (hanswered : RefundAnswered db txnId c.pendingId c.checkerId row db' sent)
    (hknown : ∀ why, sent ≠ .uncertain why) : Tallied pendingId db' (calls.eraseIdx n) := by
  have hrefunds := refunds_of_txn hid htxn
  have hcount := length_filter_eraseIdx (p := fun c => c.refunds pendingId) hc
  rw [if_pos hrefunds] at hcount
  have hnone : ((calls.eraseIdx n).filter (·.refunds pendingId)).length = 0 := by
    have := h.single
    omega
  have hothers : ∀ c' ∈ calls.eraseIdx n, c'.refunds pendingId = false := by
    simpa [List.filter_eq_nil_iff] using hnone
  have honly := h.busy c (List.mem_of_getElem? hc) hid txnId htxn row hrow
  have hmade : row.madeFor pendingId = true := by
    obtain ⟨row', hrow', htype, hfor⟩ := hsound.madeFor htxn
    obtain rfl := Option.some.inj (hrow.symm.trans hrow')
    simp [madeFor_of_refund htype hfor, hid]
  have hstays := hanswered.stays.2
  refine ⟨by omega, fun _ => ?_, fun c' hc' hid' i hi => ?_⟩
  · cases hanswered with
    | refused why hmarked hpending =>
      have hsent := hmarked.sentFor pendingId
      have hsame : db'.sentFor pendingId = 0 := by
        by_cases hfailed : row.status = .failed <;> simp [hmade, hfailed] at hsent honly <;> omega
      exact ⟨by omega, fun _ => hsame⟩
    | uncertain why => exact absurd rfl (hknown why)
    | accepted ack status hlive hmarked hpending =>
      have hsent := hmarked.sentFor pendingId
      have hone : db'.sentFor pendingId = 1 := by
        by_cases hfailed : row.status = .failed <;>
          simp [hmade, hfailed, hlive] at hsent honly <;> omega
      refine ⟨by omega, fun hundecided => ?_⟩
      obtain ⟨tenantId, id, checkerId, call⟩ := c
      obtain rfl := refundTxn_eq_some.mp htxn
      obtain ⟨-, p, hp⟩ := hsound
      obtain rfl : id = pendingId := hid
      have hdecided : ∀ p ∈ db'.pending[id]?, p.status ≠ .pendingApproval := by
        rw [hpending]
        exact decided_status (by simp)
      obtain ⟨p', hp', -⟩ := hstays id p hp
      exact absurd (hundecided p' hp') (hdecided p' hp')
  · exact absurd (refunds_of_txn hid' hi) (by simp [hothers c' hc'])

/-- A call that is not a refund of the request may be made. -/
theorem Tallied.add {c : OpenCall} (h : Tallied pendingId db calls)
    (hnot : c.refunds pendingId = false) : Tallied pendingId db (calls ++ [c]) := by
  refine ⟨by simpa [hnot] using h.single,
    fun hquiet => h.quiet fun c' hc' => hquiet c' (by simp [hc']),
    fun c' hc' hid txnId htxn => ?_⟩
  obtain hold | hnew := List.mem_append.mp hc'
  · exact h.busy c' hold hid txnId htxn
  · obtain rfl := List.mem_singleton.mp hnew
    exact absurd (refunds_of_txn hid htxn) (by simp [hnot])

/-- The first refund of a request that waits is the only payment it has. -/
theorem Tallied.send {c : OpenCall} {request allocated : Option ℕ} (h : Tallied pendingId db calls)
    (hquiet : ∀ c' ∈ calls, c'.refunds pendingId = false) (hdeed : Deed db db' request allocated)
    (hid : c.pendingId = pendingId) (hsound : CallSound db' c)
    (hnew : ∀ txnId ∈ c.call.refundTxn, ∃ row ∈ db'.transactions[txnId]?, row.status ≠ .failed)
    (hpaid : c.call.refundTxn = none → request = none) : Tallied pendingId db' (calls ++ [c]) := by
  obtain ⟨hone, hzero⟩ := h.quiet hquiet
  have hfilter : calls.filter (·.refunds pendingId) = [] := by
    simpa [List.filter_eq_nil_iff] using hquiet
  have hsent : db'.sentFor pendingId ≤ 1 := by
    obtain hle | ⟨-, hadds, p, hp⟩ := hdeed.sentFor_le pendingId
    · exact hle.trans hone
    · have := hzero hp.undecided
      omega
  refine ⟨?_, fun hnone => ⟨hsent, fun hundecided => ?_⟩, fun c' hc' hid' txnId htxn => ?_⟩
  · rw [List.filter_append, hfilter, List.nil_append]
    exact List.length_filter_le _ _
  · have hnot : c.refunds pendingId = false := hnone c (by simp)
    have hnotxn : c.call.refundTxn = none := by simpa [OpenCall.refunds, hid] using hnot
    have hle := (hdeed.sentFor_le pendingId).resolve_right fun h => by simp [hpaid hnotxn] at h
    have := hzero (undecided_of_continues (fun i p hp => hdeed.requests_stay hp) hundecided)
    omega
  · obtain hold | hlast := List.mem_append.mp hc'
    · exact absurd (refunds_of_txn hid' htxn) (by simp [hquiet c' hold])
    · obtain rfl := List.mem_singleton.mp hlast
      intro row hrow
      obtain ⟨row', hrow', hlive⟩ := hnew txnId htxn
      obtain rfl := Option.some.inj (hrow.symm.trans hrow')
      obtain ⟨row', hrow', htype, hfor⟩ := hsound.madeFor htxn
      obtain rfl := Option.some.inj (hrow.symm.trans hrow')
      have hmade : row.madeFor pendingId = true := by simp [madeFor_of_refund htype hfor, hid]
      have := one_le_sentFor hrow hmade hlive
      rw [if_neg hlive]
      omega

end Calls

theorem NothingToSend.refused {db : Db} {tenantId : ℕ} {p : PendingApproval}
    (h : NothingToSend db tenantId p) (pendingId checkerId : ℕ) (freshRef : String) (now : ℤ) :
    ∃ failure, beginApproval db tenantId pendingId p checkerId freshRef now = .error failure := by
  unfold NothingToSend at h
  split at h
  · rename_i htype
    simp only [beginApproval, htype]
    split
    · exact ⟨_, rfl⟩
    · rename_i loanId loan hfound
      simp only [Option.bind_eq_some_iff, Option.map_eq_some_iff, Prod.mk.injEq] at hfound
      obtain ⟨id, hid, row, hrow, rfl, rfl⟩ := hfound
      split
      · exact ⟨_, rfl⟩
      rename_i hleft
      have hamount := h.resolve_right fun hall => hleft (hall id hid row hrow)
      simp only [beginRefund, hamount, if_true]
      exact ⟨_, rfl⟩
  · rename_i htype
    simp only [beginApproval, htype]
    cases hheld : lockedEntry db tenantId p with
    | error failure => exact ⟨failure, rfl⟩
    | ok held =>
      obtain ⟨habout, hentry, htenant, hstatus⟩ := lockedEntry_eq_ok hheld
      have hamount := h.resolve_right fun hall => hall held.1 habout held.2 hentry htenant hstatus
      simp only [beginRefund, hamount, if_true]
      exact ⟨_, rfl⟩
  · exact h.elim

/-- A decision that its checks refuse ends in an error. -/
theorem DecisionRefused.begin {db : Db} {tenantId pendingId : ℕ} {action : String}
    {checker : Checker}
    (h : DecisionRefused db tenantId pendingId action checker) (freshRef : String) (now : ℤ) :
    ∃ failure, beginDecision db tenantId pendingId action checker freshRef now =
      .error failure := by
  unfold DecisionRefused at h
  split at h
  · rename_i failure hfailed
    exact ⟨failure, by simp only [beginDecision, hfailed]; rfl⟩
  · rename_i p hp
    obtain ⟨haction, hnone⟩ := h
    have hbegin : beginDecision db tenantId pendingId action checker freshRef now =
        beginApproval db tenantId pendingId p checker.id freshRef now := by
      simp only [beginDecision, hp]
      exact if_neg haction
    exact hbegin ▸ hnone.refused pendingId checker.id freshRef now

theorem DecisionRefused.step {s : MoneyDesk} {tenantId pendingId : ℕ} {action : String}
    {checker : Checker} (h : DecisionRefused s.db tenantId pendingId action checker)
    (freshRef : String) (reply : B2cReply) (receipt : String) (now : ℤ) :
    s.step (.decide tenantId pendingId action checker freshRef reply receipt now) = s := by
  obtain ⟨failure, hfailed⟩ := h.begin freshRef now
  simp only [MoneyDesk.step, hfailed]

/-- The invariant of the desk. -/
structure PaidOnce (pendingId : ℕ) (s : MoneyDesk) : Prop where
  calls : ∀ c ∈ s.calls, CallSound s.db c
  indexed : s.db.indexed = true
  lost : ∀ x ∈ s.lost, x.2 ≠ pendingId
  tallied : Tallied pendingId s.db s.calls

theorem PaidOnce.onePayment {pendingId : ℕ} {s : MoneyDesk} (h : PaidOnce pendingId s) :
    OnePayment pendingId s := by
  have hlost : s.lost.filter (fun x => x.2 = pendingId) = [] := by
    simpa [List.filter_eq_nil_iff] using h.lost
  by_cases hquiet : ∀ c ∈ s.calls, c.refunds pendingId = false
  · obtain ⟨hone, hzero⟩ := h.tallied.quiet hquiet
    refine ⟨by simpa [MoneyDesk.payments, hlost] using hone, ?_,
      fun x hx hid => absurd hid (h.lost x hx)⟩
    intro x hx hfor hlive _ p hp hwaits
    have hpos := one_le_sentFor (List.mem_zipIdx_iff_getElem?.mp hx) hfor hlive
    have := hzero (Waiting.undecided ⟨hp, hwaits⟩)
    omega
  · push Not at hquiet
    obtain ⟨c, hc, hrefunds⟩ := hquiet
    rw [ne_eq, Bool.not_eq_false, OpenCall.refunds, Bool.and_eq_true, decide_eq_true_eq,
      Option.isSome_iff_exists] at hrefunds
    obtain ⟨hid, txnId, htxn⟩ := hrefunds
    obtain ⟨row, hrow, htype, hmade⟩ := (h.calls c hc).madeFor htxn
    have honly := h.tallied.busy c hc hid txnId htxn row hrow
    refine ⟨?_, ?_, fun x hx hid => absurd hid (h.lost x hx)⟩
    · simp only [MoneyDesk.payments, hlost, List.length_nil, add_zero, honly]
      split_ifs <;> simp
    · intro x hx hfor hlive hnocall p hp
      have hx := List.mem_zipIdx_iff_getElem?.mp hx
      have hne : x.2 ≠ txnId := fun heq => hnocall c hc (heq ▸ htxn)
      by_cases hfailed : row.status = .failed
      · have := one_le_sentFor hx hfor hlive
        rw [honly, if_pos hfailed] at this
        omega
      · have := two_le_sentFor hne hx hrow hfor hlive
          (by simp [madeFor_of_refund htype hmade, hid]) hfailed
        rw [honly, if_neg hfailed] at this
        omega

/-- A decision on the request that goes through is taken while no refund of it is being called. -/
theorem OneAtATime.alone {pendingId : ℕ} {s : MoneyDesk} {e : MoneyEvent}
    (hok : OneAtATime pendingId s e) (hidle : s.step e ≠ s)
    (hrequest : e.request = some pendingId) :
    ∀ c ∈ s.calls, c.refunds pendingId = false := by
  cases e with
  | decide tenantId id action checker freshRef reply receipt now =>
    obtain rfl : id = pendingId := Option.some.inj hrequest
    exact (hok rfl).1.resolve_right fun h => hidle (h.step freshRef reply receipt now)
  | _ => cases hrequest

/-- A decision on the request leaves at most one payment, and none while it waits. -/
theorem Tallied.decides {pendingId : ℕ} {db db' : Db} {calls : List OpenCall}
    {allocated : Option ℕ} (h : Tallied pendingId db calls)
    (hquiet : ∀ c ∈ calls, c.refunds pendingId = false)
    (hdeed : Deed db db' (some pendingId) allocated)
    (hdecided : ∀ p ∈ db'.pending[pendingId]?, p.status ≠ .pendingApproval) :
    Tallied pendingId db' calls := by
  obtain ⟨hone, hzero⟩ := h.quiet hquiet
  refine ⟨h.single, fun _ => ?_, fun c hc hid txnId htxn => ?_⟩
  · obtain hle | ⟨-, hsent, p, hp⟩ := hdeed.sentFor_le pendingId
    · refine ⟨hle.trans hone, fun hundecided => ?_⟩
      have := hzero (undecided_of_continues (fun i p hp => hdeed.requests_stay hp) hundecided)
      omega
    · have := hzero hp.undecided
      refine ⟨by omega, fun hundecided => ?_⟩
      obtain ⟨p', hp', -⟩ := hdeed.requests_stay hp.row
      exact absurd (hundecided p' hp') (hdecided p' hp')
  · exact absurd (refunds_of_txn hid htxn) (by simp [hquiet c hc])

section Answers

variable {pendingId n : ℕ} {s : MoneyDesk} {c : OpenCall} {reply : B2cReply} {receipt : String}
  {now : ℤ}

/-- A reversal that is lost is not the request's own. -/
theorem PaidOnce.loses (hs : PaidOnce pendingId s) {tenantId id entryId : ℕ} {action : String}
    {checker : Checker} {freshRef : String} {p : PendingApproval} {entry : SuspenseEntry}
    (hok : OneAtATime pendingId s (.decide tenantId id action checker freshRef reply receipt now))
    (haction : action ≠ "reject") (hp : Waiting s.db id p)
    (htype : p.actionType = .suspenseReversal) (hlocked : Locked s.db p entryId entry)
    (hgone : reply.mayHaveGone = true)
    (hlost : ∀ saved, finishDecision s.db tenantId id checker.id (.reversal entryId) reply receipt
      now ≠ (.ok saved, none)) : id ≠ pendingId := by
  rintro rfl
  obtain ⟨ack, hreply, hcode, hfree⟩ := (hok rfl).2 haction p hp.row htype hgone
  obtain ⟨saved, hsaved⟩ := finishReversal_saves id checker.id receipt now hs.indexed hlocked
    hreply hcode hfree
  exact hlost saved hsaved

/-- The answer to a refund, the request's own or another's. -/
theorem PaidOnce.answers (hs : PaidOnce pendingId s)
    (hok : OneAtATime pendingId s (.answer n reply receipt now)) (hc : s.calls[n]? = some c)
    {txnId : ℕ} (hcall : c.call = .refund txnId) {db : Db} {row : PaymentTransaction}
    (hrow : s.db.transactions[txnId]? = some row)
    (hanswered : RefundAnswered s.db txnId c.pendingId c.checkerId row db (sendB2c reply)) :
    Tallied pendingId db (s.calls.eraseIdx n) := by
  have hsound := hs.calls c (List.mem_of_getElem? hc)
  have htxn : c.call.refundTxn = some txnId := refundTxn_eq_some.mpr hcall
  by_cases hid : c.pendingId = pendingId
  · have hknown := hok c hc hid txnId htxn row hrow
    refine hs.tallied.answered hc hid htxn hsound hrow hanswered fun why hwhy => ?_
    simp [RefundKnown, hwhy] at hknown
  · obtain ⟨row', hrow', htype, hfor⟩ := hsound.madeFor htxn
    obtain rfl := Option.some.inj (hrow.symm.trans hrow')
    refine (hs.tallied.answered_other hs.calls hanswered ?_).drop fun c' hc' => ?_
    · simp [madeFor_of_refund htype hfor, hid]
    · obtain rfl := Option.some.inj (hc.symm.trans hc')
      simp [OpenCall.refunds, hid]

/-- An answer that cannot be saved is to no refund of the request. -/
theorem PaidOnce.unsaved (hs : PaidOnce pendingId s)
    (hok : OneAtATime pendingId s (.answer n reply receipt now)) (hc : s.calls[n]? = some c)
    (hfailed : ∀ db, (finishDecision s.db c.tenantId c.pendingId c.checkerId c.call reply receipt
      now).1 ≠ .ok db) : c.refunds pendingId = false := by
  by_contra hrefunds
  rw [Bool.not_eq_false, OpenCall.refunds, Bool.and_eq_true, decide_eq_true_eq,
    Option.isSome_iff_exists] at hrefunds
  obtain ⟨hid, txnId, htxn⟩ := hrefunds
  obtain ⟨row, hrow, htype, -⟩ := (hs.calls c (List.mem_of_getElem? hc)).madeFor htxn
  have hknown := hok c hc hid txnId htxn row hrow
  obtain ⟨tenantId, id, checkerId, call⟩ := c
  obtain rfl := refundTxn_eq_some.mp htxn
  have hfree : ∀ ack, sendB2c reply = .accepted ack →
      RefFree s.db row.tenantId (refundRef ack receipt) := fun ack hack => by
    simpa only [RefundKnown, hack] using hknown
  obtain ⟨saved, hsaved⟩ := finishRefund_saves hs.indexed hrow htype hfree
  exact hfailed saved hsaved

end Answers

/-- The step lemma: a request keeps at most one payment while one decision at a time is taken
on it and the calls made for it end. -/
theorem PaidOnce.step {pendingId : ℕ} {s : MoneyDesk} (hs : PaidOnce pendingId s) (e : MoneyEvent)
    (hok : OneAtATime pendingId s e) : PaidOnce pendingId (s.step e) := by
  have hindexed := MoneyDesk.step_indexed hs.indexed e
  have hturn := MoneyDesk.step_turn hs.calls e
  have hcalls := hturn.calls_sound hs.calls
  by_cases hidle : s.step e = s
  · rwa [hidle]
  have halone := hok.alone hidle
  clear hidle
  generalize s.step e = s' at hturn hcalls hindexed
  suffices h : (∀ x ∈ s'.lost, x.2 ≠ pendingId) ∧ Tallied pendingId s'.db s'.calls from
    ⟨hcalls, hindexed, h.1, h.2⟩
  cases hturn with
  | idle => exact ⟨hs.lost, hs.tallied⟩
  | deed _ db request allocated hdeed hrequest hdecided =>
    refine ⟨hs.lost, ?_⟩
    by_cases hown : request = some pendingId
    · subst hown
      have hquiet := halone (hrequest.resolve_left (by simp)).symm
      exact hs.tallied.decides hquiet hdeed (hdecided pendingId rfl)
    · exact hs.tallied.deed hs.calls hdeed (.inl hown)
  | calls _ db request hdeed hrequest c hsound hown hnew hpaid =>
    refine ⟨hs.lost, ?_⟩
    by_cases hid : c.pendingId = pendingId
    · have hquiet := halone (hown ▸ congrArg some hid)
      exact hs.tallied.send hquiet hdeed hid hsound hnew hpaid
    · have hother : request ≠ some pendingId := by
        rintro rfl
        have := hown.trans (hrequest.resolve_left (by simp)).symm
        exact hid (Option.some.inj this)
      exact (hs.tallied.deed hs.calls hdeed (.inl hother)).add (by simp [OpenCall.refunds, hid])
  | loses tenantId id action checker freshRef reply receipt now haction p hp htype htenant entryId
      entry hlocked hgone hlost =>
    refine ⟨fun x hx => ?_, hs.tallied⟩
    obtain hold | hnew := List.mem_append.mp hx
    · exact hs.lost x hold
    · obtain rfl := List.mem_singleton.mp hnew
      exact hs.loses hok haction hp htype hlocked hgone hlost
  | pays n reply receipt now c hc loanId txnId hcall db htxns hdeed =>
    have hnot : ∀ c' ∈ s.calls[n]?, c'.refunds pendingId = false := by
      intro c' hc'
      obtain rfl := Option.some.inj (hc.symm.trans hc')
      simp [OpenCall.refunds, hcall, OutgoingCall.refundTxn]
    refine ⟨hs.lost, ?_⟩
    obtain hdeed | hdeed := hdeed
    · exact (hs.tallied.deed hs.calls hdeed (.inr htxns)).drop hnot
    · exact (hs.tallied.deed hs.calls hdeed (.inr htxns)).drop hnot
  | answers n reply receipt now c hc txnId hcall db row hrow hanswered =>
    exact ⟨hs.lost, hs.answers hok hc hcall hrow hanswered⟩
  | unsaved n reply receipt now c hc hfailed =>
    refine ⟨hs.lost, hs.tallied.drop fun c' hc' => ?_⟩
    obtain rfl := Option.some.inj (hc.symm.trans hc')
    exact hs.unsaved hok hc hfailed
  | stops n => exact ⟨hs.lost, hs.tallied.drop hok⟩

/-- One payment for a request: in every run in which no decision on it goes through while its
refund is being called, and every call made for it is refused or taken in, it has at most one
payment, and does not wait for a decision once the payment's call is over. -/
theorem one_payment_per_request (pendingId : ℕ) (start : Db) (es : List MoneyEvent)
    (hindexed : start.indexed = true) (hstart : NothingSent pendingId start)
    (h : AllSteps MoneyDesk.step (OneAtATime pendingId) ⟨start, [], [], []⟩ es) :
    Always MoneyDesk.step (OnePayment pendingId) ⟨start, [], [], []⟩ es := by
  have hnone : start.sentFor pendingId = 0 := by
    rw [sentFor, List.length_eq_zero_iff, List.filter_eq_nil_iff]
    intro t ht hlive
    rw [Bool.and_eq_true, decide_eq_true_eq] at hlive
    exact hlive.2 (hstart t ht hlive.1)
  have htallied : Tallied pendingId start [] :=
    ⟨by simp, fun _ => ⟨by omega, fun _ => hnone⟩, by simp⟩
  have hpaid : PaidOnce pendingId ⟨start, [], [], []⟩ := ⟨by simp, hindexed, by simp, htallied⟩
  intro bs hbs
  exact (invariant_always (fun s e hs hok => hs.step e hok) hpaid h bs hbs).onePayment

/-- A refund is approved again while it is being called, which its checks refuse; it is taken
in, timed out and paid. -/
theorem one_payment_per_request_refund :
    Always MoneyDesk.step (OnePayment 0) ⟨suspenseBook, [], [], []⟩
      [.refund 1 7 0 none none, checkerDecides 0 "approve" .notConfigured 200,
        checkerDecides 0 "approve" .notConfigured 205, .answer 0 (acknowledged "AG1") "" 210,
        .timeout (resultOf "AG1" "1" ""), .result (resultOf "AG1" "0" "QB1") 300] :=
  one_payment_per_request 0 suspenseBook _ (by decide) (by decide)
    (by decide)

/-- Safaricom may have taken the refund in, and its request still waits for a decision. -/
theorem uncertain_refund_waits : suspenseBook.indexed = true ∧ NothingSent 0 suspenseBook ∧
    ¬ Always MoneyDesk.step (OnePayment 0) ⟨suspenseBook, [], [], []⟩
      [.refund 1 7 0 none none, checkerDecides 0 "approve" .notConfigured 200,
        .answer 0 (.httpStatus 500) "" 210] := by
  refine ⟨by decide, by decide, fun h => ?_⟩
  exact absurd h.last (by decide)

end FinylDcp
