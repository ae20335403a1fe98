import FinylDcp.SuspenseEffects

/-!
# What a decision does

A decision runs to its end, or to a provider call. Up to the call it is a deed on
suspense money; what the answer does is said here for each kind of call, with when the
answer can be saved at all.
-/
namespace FinylDcp
open Db Tables Text

/-- The intent of a payout is nothing to suspense money. -/
theorem beginDisbursement_deed {db : Db} {tenantId loanId actorUserId : ℕ} {now : ℤ} {out : Db × ℕ}
    (h : beginDisbursement db tenantId loanId actorUserId now = .ok out) :
    Deed db out.1 none none ∧ out.1.suspense = db.suspense ∧
      ∃ row ∈ out.1.transactions[out.2]?, row.outgoing = false := by
  simp only [beginDisbursement] at h
  split at h
  · cases h
  split at h
  · cases h
  split at h
  · cases h
  split at h
  · split at h
    · cases h
    · cases h
      exact ⟨.aside (elsewhere_append rfl) (entriesMove_refl fun _ _ => rfl) rfl, rfl, _,
        List.getElem?_concat_length, rfl⟩
  · cases h

/-- The entry an approved request allocates. -/
def allocationBy (db : Db) (pendingId : ℕ) : Option ℕ :=
  (db.pending[pendingId]?).bind (fun p =>
    if p.actionType = .suspenseAllocate then p.details.suspenseId else none)

theorem allocationBy_eq {db : Db} {pendingId : ℕ} {p : PendingApproval}
    (h : db.pending[pendingId]? = some p) : allocationBy db pendingId =
      if p.actionType = .suspenseAllocate then p.details.suspenseId else none := by
  simp [allocationBy, h]

/-- How far a decision gets: to its end, or to a provider call with what it saved before. -/
inductive Begins (db : Db) (tenantId pendingId : ℕ) : Db × Progress → Prop
  | finishes (db' : Db) (payment : Option ApplyResult) (allocated : Option ℕ)
      (hdeed : Deed db db' (some pendingId) allocated)
      (hdecided : ∀ p ∈ db'.pending[pendingId]?, p.status ≠ .pendingApproval)
      (hallocated : allocated = payment.bind (fun _ => allocationBy db pendingId)) :
      Begins db tenantId pendingId (db', .finished payment)
  | pays (db' : Db) (p : PendingApproval) (hp : Waiting db pendingId p)
      (htype : p.actionType = .disbursement) (loanId txnId : ℕ) (row : PaymentTransaction)
      (hrow : db'.transactions[txnId]? = some row) (hout : row.outgoing = false)
      (hdeed : Deed db db' none none) (hsuspense : db'.suspense = db.suspense) :
      Begins db tenantId pendingId (db', .waiting (.payout loanId txnId))
  | refunds (db' : Db) (p : PendingApproval) (hp : Waiting db pendingId p)
      (htype : p.actionType = .refund ∨ p.actionType = .suspenseRefund) (row : PaymentTransaction)
      (hrow : db'.transactions[db.transactions.length]? = some row) (hrefund : row.type = .refund)
      (hnew : row.status = .initiated ∧ row.mpesaRef = none ∧ row.tenantId = tenantId)
      (hdeed : ∀ (isDecided : Bool) (checkerId : ℕ), Deed db { db' with pending :=
        if isDecided then (decided db' pendingId .approved checkerId).pending else db'.pending }
        (some pendingId) none)
      (hfor : row.rawPayload.pendingId = some pendingId) (hsaved : db'.pending = db.pending)
      (hindexed : db'.indexed = true)
      (hsource : ∀ id ∈ row.rawPayload.suspenseId, ∃ entry, Locked db p id entry)
      (hfrom : p.actionType = .suspenseRefund → row.rawPayload.suspenseId = p.details.suspenseId)
      (htxns : db'.transactions = db.transactions ++ [row]) :
      Begins db tenantId pendingId (db', .waiting (.refund db.transactions.length))
  | reverses (p : PendingApproval) (hp : Waiting db pendingId p)
      (htype : p.actionType = .suspenseReversal) (id : ℕ) (entry : SuspenseEntry)
      (hlocked : Locked db p id entry) (htenant : p.tenantId = tenantId) :
      Begins db tenantId pendingId (db, .waiting (.reversal id))

/-- A decided request waits no more. -/
theorem decided_status {db : Db} {pendingId checkerId : ℕ} {status : ApprovalStatus}
    (h : status ≠ .pendingApproval) :
    ∀ p ∈ (decided db pendingId status checkerId).pending[pendingId]?, p.status ≠
      .pendingApproval := by
  intro p hp
  rw [decided, List.getElem?_modify_eq, Option.mem_def, Option.map_eq_map,
    Option.map_eq_some_iff] at hp
  obtain ⟨_, -, rfl⟩ := hp
  exact h

theorem onRejected_pending (db : Db) (tenantId : ℕ) (p : PendingApproval) :
    (onRejected db tenantId p).pending = db.pending := by
  simp only [onRejected]
  split <;> rfl

section Decisions

variable {db : Db} {tenantId pendingId : ℕ} {p : PendingApproval}

/-- A rejected request about an entry gives it back. -/
theorem onRejected_deed (hp : Waiting db pendingId p) (htenant : p.tenantId = tenantId)
    (checkerId : ℕ) : Deed db (onRejected (decided db pendingId .rejected checkerId) tenantId p)
      (some pendingId) none := by
  have hgives : ∀ sid, p.actionType.ofSuspense = true → p.details.suspenseId = some sid →
      Deed db ((decided db pendingId .rejected checkerId).updateSuspense sid (fun e =>
        if e.tenantId = tenantId ∧ e.status = .pendingApproval then
          { e with status := .open } else e))
        (some pendingId) none := by
    intro sid htype hsid
    refine .rejects pendingId p hp checkerId rfl ?_ rfl
    refine entriesMove_update (fun j e hj => ?_) fun e => ?_
    · rw [if_neg]
      rintro ⟨-, hsame, -⟩
      exact hj (Option.some.inj (hsame.symm.trans hsid))
    · by_cases hheld : e.tenantId = tenantId ∧ e.status = .pendingApproval
      · simp only [htype, hsid, htenant, hheld, and_self, if_true]
      · simp only [if_neg hheld, htype, hsid, htenant, true_and]
  simp only [onRejected]
  split
  · rename_i htype hsid
    exact hgives _ (by rw [htype]; rfl) hsid
  · rename_i htype hsid
    exact hgives _ (by rw [htype]; rfl) hsid
  · rename_i htype hsid
    exact hgives _ (by rw [htype]; rfl) hsid
  · rename_i hallocate hrefund hreversal
    refine .rejects pendingId p hp checkerId rfl (entriesMove_refl fun j e => ?_) rfl
    rw [if_neg]
    rintro ⟨htype, hsid, -⟩
    cases haction : p.actionType <;> simp [haction, ActionType.ofSuspense] at htype
    · exact hrefund _ haction hsid
    · exact hreversal _ haction hsid
    · exact hallocate _ haction hsid

/-- The entry of a request is held for some request. -/
theorem lockedEntry_locked {held : ℕ × SuspenseEntry} (htenant : p.tenantId = tenantId)
    (h : lockedEntry db tenantId p = .ok held) : Locked db p held.1 held.2 := by
  obtain ⟨habout, hrow, hentry, hheld⟩ := lockedEntry_eq_ok h
  exact ⟨habout, hrow, hentry.trans htenant.symm, hheld⟩

/-- The intent of a refund. -/
theorem beginRefund_eq_ok {amount : ℤ} {phone : Option String} {loanId : Option ℕ}
    {actorUserId : ℕ} {context : RefundContext} {now : ℤ} {out : Db × ℕ}
    (h : beginRefund db tenantId amount phone loanId actorUserId context now = .ok out) :
    ∃ t, out = ({ db with transactions := db.transactions ++ [t] }, db.transactions.length) ∧
      t.type = .refund ∧ t.status = .initiated ∧ t.mpesaRef = none ∧ t.tenantId = tenantId ∧
      t.rawPayload.suspenseId = context.suspenseId ∧
        t.rawPayload.pendingId = context.pendingId := by
  simp only [beginRefund] at h
  split at h
  · cases h
  · cases h
    exact ⟨_, rfl, rfl, rfl, rfl, rfl, rfl, rfl⟩

theorem beginApproval_begins {checkerId : ℕ} {freshRef : String} {now : ℤ} {out : Db × Progress}
    (hp : Waiting db pendingId p) (htenant : p.tenantId = tenantId)
    (h : beginApproval db tenantId pendingId p checkerId freshRef now = .ok out) :
    Begins db tenantId pendingId out := by
  have hallocation := allocationBy_eq hp.row
  cases beginApproval_approved h with
  | payout htype loanId begun hbegun hindexed =>
    obtain ⟨hdeed, hsuspense, row, hrow, hout⟩ := beginDisbursement_deed hbegun
    exact .pays _ p hp htype _ _ row hrow hout hdeed hsuspense
  | loanRefund htype loanId loan hid hloan hfits begun hbegun hindexed =>
    obtain ⟨t, rfl, hrefund, hstatus, href, htxn, hsource, hfor⟩ := beginRefund_eq_ok hbegun
    refine .refunds _ p hp (.inl htype) t List.getElem?_concat_length hrefund
      ⟨hstatus, href, htxn⟩ (fun isDecided checkerId => ?_) hfor rfl hindexed (by simp [hsource])
      (by simp [htype]) rfl
    exact .sends pendingId p hp none (by simp) (fun _ => by rw [htype]; rfl) t
      (by simp [PaymentTransaction.outgoing, hrefund]) (by simp [hstatus]) hsource hfor rfl
      (entriesMove_refl fun j e => by simp) isDecided checkerId (by split <;> rfl)
  | payment htype loanId loan hid hloan paid hpaid hindexed =>
    obtain ⟨htxns, hpending, entries, hsuspense, hopen⟩ := payLoan_grows hpaid
    have hdecided : (decided paid.1 pendingId .approved checkerId).pending =
        (decided db pendingId .approved checkerId).pending := by
      simp only [decided, hpending]
    refine .finishes _ _ none
      (.approves pendingId p hp.row (by rw [htype]; rfl) checkerId ?_ ?_ hdecided)
      (decided_status (by simp)) ?_
    · exact htxns ▸ .refl _
    · exact hsuspense ▸ entriesMove_append hopen fun _ _ => rfl
    · simp [hallocation, htype]
  | allocation htype held hheld loanId loan hid hloan moved hmoved hindexed =>
    have hlocked := lockedEntry_locked htenant hheld
    obtain ⟨htxns, hpending, hsuspense⟩ := allocateEntry_eq_ok hlocked.row hmoved
    refine .finishes _ _ (some held.1) (.approvesAllocation pendingId p hp held.1 held.2 hlocked
      checkerId htxns hsuspense ?_) (decided_status (by simp)) ?_
    · simp only [decided, hpending]
    · simp [hallocation, htype, hlocked.about]
  | entryRefund htype held hheld begun hbegun hindexed =>
    have hlocked := lockedEntry_locked htenant hheld
    obtain ⟨t, rfl, hrefund, hstatus, href, htxn, hsource, hfor⟩ := beginRefund_eq_ok hbegun
    have hlocks : ∀ id ∈ some held.1, ∃ entry, Locked db p id entry := fun id hid => by
      obtain rfl := Option.mem_some_iff.mp hid
      exact ⟨held.2, hlocked⟩
    refine .refunds _ p hp (.inr htype) t List.getElem?_concat_length hrefund
      ⟨hstatus, href, htxn⟩ (fun isDecided checkerId => ?_) hfor rfl hindexed
      (fun id hid => hlocks id (hsource.symm.trans hid))
        (fun _ => hsource.trans hlocked.about.symm) rfl
    refine .sends pendingId p hp (some held.1) hlocks (by simp) t
      (by simp [PaymentTransaction.outgoing, hrefund]) (by simp [hstatus]) hsource hfor rfl
      (entriesMove_update (fun j e hj => ?_) fun e => ⟨rfl, ?_⟩) isDecided checkerId
        (by split <;> rfl)
    · simp [Ne.symm hj]
    · simp [SuspenseStatus.held]
  | reversal htype held hheld =>
    exact .reverses p hp htype held.1 held.2 (lockedEntry_locked htenant hheld) htenant

theorem beginDecision_begins {action : String} {checker : Checker} {freshRef : String} {now : ℤ}
    {out : Db × Progress}
    (h : beginDecision db tenantId pendingId action checker freshRef now = .ok out) :
    Begins db tenantId pendingId out := by
  obtain ⟨p, hdecidable, h⟩ := bind_eq_ok.mp h
  obtain ⟨hrow, htenant, hwaits, -⟩ := decidable_eq_ok hdecidable
  split at h
  · obtain ⟨saved, hcommit, h⟩ := bind_eq_ok.mp h
    obtain ⟨-, rfl⟩ := Db.commit_eq_ok.mp hcommit
    cases h
    refine .finishes _ none none (onRejected_deed ⟨hrow, hwaits⟩ htenant checker.id) ?_ rfl
    rw [onRejected_pending]
    exact decided_status (by simp)
  · exact beginApproval_begins ⟨hrow, hwaits⟩ htenant h

/-- A rejection makes no call. -/
theorem beginDecision_waiting {action : String} {checker : Checker} {freshRef : String} {now : ℤ}
    {db' : Db} {call : OutgoingCall}
    (h : beginDecision db tenantId pendingId action checker freshRef now =
      .ok (db', .waiting call)) :
    action ≠ "reject" := by
  rintro rfl
  obtain ⟨_, -, hreject⟩ := bind_eq_ok.mp h
  obtain ⟨_, -, hreject⟩ := bind_eq_ok.mp (show (_ >>= _) = _ from hreject)
  cases hreject

end Decisions

/-- The request may have reached Safaricom: it was accepted, or nobody knows. -/
def B2cReply.mayHaveGone (reply : B2cReply) : Bool :=
  match sendB2c reply with
  | .refused _ => false
  | _ => true

/-- No transaction of the tenant has the reference. -/
def RefFree (db : Db) (tenantId : ℕ) (ref : Option String) : Prop :=
  ∀ r ∈ ref, ∀ t ∈ db.transactions, t.tenantId = tenantId → t.mpesaRef ≠ some r

instance (db : Db) (tenantId : ℕ) (ref : Option String) : Decidable (RefFree db tenantId ref) := by
  unfold RefFree
  infer_instance

theorem RefFree.key_ne {db : Db} {tenantId : ℕ} {t : PaymentTransaction} {k : ℕ × String}
    (h : RefFree db tenantId t.mpesaRef) (htenant : t.tenantId = tenantId) (hk : t.key = some k) :
    ∀ y ∈ db.transactions, y.key ≠ some k := by
  intro y hy hkey
  simp only [PaymentTransaction.key, Option.map_eq_some_iff] at hk hkey
  obtain ⟨r, hr, rfl⟩ := hk
  obtain ⟨r', hr', hpair⟩ := hkey
  obtain ⟨hsame, rfl⟩ := Prod.mk.inj hpair
  exact h r' hr y hy (hsame.trans htenant) hr'

/-- The reference an accepted refund is saved under. -/
def refundRef (ack : Ack) (simulatedReceipt : String) : Option String :=
  let conversationId := (nonEmpty ack.conversationId) <|> ack.transactionReceipt
  if ack.simulated then (nonEmpty (some simulatedReceipt)) <|> conversationId else conversationId

/-- The indexes hold while the keys do. -/
theorem indexed_of_keys {db db' : Db} (h : db.indexed = true)
    (hrepayments : db'.repayments = db.repayments)
    (htxns : (db'.transactions.filterMap PaymentTransaction.key).Nodup)
    (hsuspense : db'.suspense.filterMap SuspenseEntry.key =
      db.suspense.filterMap SuspenseEntry.key) :
    db'.indexed = true := by
  obtain ⟨hr, -, hs⟩ := Db.indexed_iff.mp h
  exact Db.indexed_iff.mpr ⟨by rwa [hrepayments], htxns, by rwa [hsuspense]⟩

theorem suspenseKeys_update {f : SuspenseEntry → SuspenseEntry} (db : Db) (id : ℕ)
    (h : ∀ e, (f e).key = e.key) :
    (db.updateSuspense id f).suspense.filterMap SuspenseEntry.key =
      db.suspense.filterMap SuspenseEntry.key :=
  filterMap_modify_of_eq h _ _

/-- A payout's answer is nothing to suspense money. -/
theorem finishDisbursement_elsewhere {db saved : Db} {tenantId loanId txnId : ℕ} {sent : SendResult}
    {row : PaymentTransaction} (hrow : db.transactions[txnId]? = some row)
    (hout : row.outgoing = false)
    (h : (finishDisbursement db tenantId loanId txnId sent).1 = .ok saved) :
    Elsewhere db.transactions saved.transactions ∧ saved.suspense = db.suspense ∧
      saved.pending = db.pending := by
  have hother : ∀ t, db.transactions[txnId]? = some t → t.outgoing = false := by
    intro t ht
    obtain rfl := Option.some.inj (ht.symm.trans hrow)
    exact hout
  cases sent with
  | refused why =>
    obtain ⟨-, rfl⟩ := Db.commit_eq_ok.mp h
    exact ⟨elsewhere_modify (fun t => rfl) hother, rfl, rfl⟩
  | uncertain why =>
    obtain ⟨-, rfl⟩ := Db.commit_eq_ok.mp h
    exact ⟨elsewhere_modify (fun t => rfl) hother, rfl, rfl⟩
  | accepted ack =>
    obtain ⟨-, rfl⟩ := Db.commit_eq_ok.mp h
    exact ⟨elsewhere_modify (fun t => rfl) hother, rfl, rfl⟩

/-- A payout's answer may approve its request, and does nothing else here. -/
theorem finishPayout_deed {db saved : Db} {tenantId pendingId checkerId loanId txnId : ℕ}
    {reply : B2cReply} {receipt : String} {now : ℤ} {row : PaymentTransaction} {p : PendingApproval}
    (hrow : db.transactions[txnId]? = some row) (hout : row.outgoing = false)
    (hp : db.pending[pendingId]? = some p) (htype : p.actionType.ofSuspense = false)
    (h : (finishDecision db tenantId pendingId checkerId
      (.payout loanId txnId) reply receipt now).1 =
      .ok saved) : Elsewhere db.transactions saved.transactions ∧ saved.suspense = db.suspense ∧
        (Deed db saved none none ∨ Deed db saved (some pendingId) none ∧
          ∀ p ∈ saved.pending[pendingId]?, p.status ≠ .pendingApproval) := by
  have haside : ∀ db', (finishDisbursement db tenantId loanId txnId (sendB2c reply)).1 = .ok db' →
      Elsewhere db.transactions db'.transactions ∧ db'.suspense = db.suspense ∧
        db'.pending = db.pending := fun db' hdb' => finishDisbursement_elsewhere hrow hout hdb'
  simp only [finishDecision] at h
  split at h
  · rename_i sent reply' hfinished
    obtain ⟨-, rfl⟩ := Db.commit_eq_ok.mp h
    obtain ⟨htxns, hsuspense, hpending⟩ := haside sent (by rw [hfinished])
    refine ⟨htxns, hsuspense, .inr ⟨.approves pendingId p hp htype checkerId htxns ?_ ?_,
      decided_status (by simp)⟩⟩
    · exact hsuspense ▸ entriesMove_refl fun _ _ => rfl
    · simp only [decided, hpending]
  · rename_i saved' failure hfinished
    obtain ⟨htxns, hsuspense, hpending⟩ := haside saved (by rw [hfinished, h])
    exact ⟨htxns, hsuspense,
      .inl (.aside htxns (hsuspense ▸ entriesMove_refl fun _ _ => rfl) hpending)⟩
  · cases h

section Refund

variable {db : Db} {tenantId txnId pendingId checkerId : ℕ} {row : PaymentTransaction}
  {reply : B2cReply} {receipt : String} {now : ℤ}

/-- What the answer to a refund saves: nothing was sent, or nobody knows, and the request
stays as it is; or the refund is on its way, and the request approved. -/
inductive RefundAnswered (db : Db) (txnId pendingId checkerId : ℕ) (row : PaymentTransaction)
    (db' : Db) : SendResult → Prop
  | refused (why : String) (hmarked : Marked db db' txnId row .failed)
      (hpending : db'.pending = db.pending) :
      RefundAnswered db txnId pendingId checkerId row db' (.refused why)
  | uncertain (why : String) (hmarked : Marked db db' txnId row .uncertain)
      (hpending : db'.pending = db.pending) :
      RefundAnswered db txnId pendingId checkerId row db' (.uncertain why)
  | accepted (ack : Ack) (status : TransactionStatus) (hlive : status ≠ .failed)
      (hmarked : Marked db db' txnId row status)
      (hpending : db'.pending = (decided db pendingId .approved checkerId).pending) :
      RefundAnswered db txnId pendingId checkerId row db' (.accepted ack)

/-- The answer to a refund, before its commit. -/
theorem finishRefund_answered (tenantId pendingId checkerId : ℕ) (reply : B2cReply)
    (receipt : String)
    (now : ℤ) (hrow : db.transactions[txnId]? = some row) (hrefund : row.type = .refund) :
    ∃ db', (finishDecision db tenantId pendingId checkerId (.refund txnId) reply receipt now).1 =
        db'.commit ∧ RefundAnswered db txnId pendingId checkerId row db' (sendB2c reply) ∧
      db'.repayments = db.repayments ∧
      db'.suspense.filterMap SuspenseEntry.key = db.suspense.filterMap SuspenseEntry.key ∧
      ∃ f, db'.transactions = db.transactions.modify txnId f ∧ ((∀ t, (f t).key = t.key) ∨
        ∃ ack, sendB2c reply = .accepted ack ∧ ∀ t, (f t).tenantId = t.tenantId ∧
          (f t).mpesaRef = refundRef ack receipt) := by
  have hout : row.outgoing = true := by simp [PaymentTransaction.outgoing, hrefund]
  have hstays : EntriesMove (Follows row .uncertain) db.suspense db.suspense :=
    entriesMove_refl fun _ _ => .inl rfl
  simp only [finishDecision]
  cases hsent : sendB2c reply with
  | refused why =>
    obtain ⟨htxns, hpending, hentries⟩ := reopenRefundSource_entries
      (db.updateTransaction txnId (fun t => { t with status := .failed })) tenantId
      (Eq.refl row.rawPayload.suspenseId)
    simp only [finishRefund, hrow]
    refine ⟨_, rfl, .refused why ⟨hrow, hout, ⟨_, htxns, fun t => ⟨rfl, rfl⟩⟩, hentries⟩ hpending,
      ?_, ?_, _, htxns, .inl fun t => rfl⟩
    · simp only [reopenRefundSource]
      split <;> rfl
    · simp only [reopenRefundSource]
      split
      · rfl
      · refine suspenseKeys_update _ _ fun e => ?_
        split <;> rfl
  | uncertain why =>
    exact ⟨_, rfl, .uncertain why ⟨hrow, hout, ⟨_, rfl, fun t => ⟨rfl, rfl⟩⟩, hstays⟩ rfl, rfl, rfl,
      _, rfl, .inl fun t => rfl⟩
  | accepted ack =>
    let sent : PaymentTransaction → PaymentTransaction := fun t => { t with
      status := .processing
      mpesaRef := (nonEmpty ack.conversationId) <|> ack.transactionReceipt
      rawPayload := { t.rawPayload with originatorConversationId := ack.originatorConversationId } }
    by_cases hsimulated : ack.simulated = true
    · have hrow' : (db.updateTransaction txnId sent).transactions[txnId]? = some (sent row) := by
        simp [updateTransaction, List.getElem?_modify_eq, hrow]
      let settled : PaymentTransaction → PaymentTransaction := fun t => { t with
        status := .success
        mpesaRef := settledRef (sent row) (some receipt) }
      have htxns : (db.transactions.modify txnId sent).modify txnId settled =
          db.transactions.modify txnId (settled ∘ sent) := List.modify_modify_eq _ _ _ _
      have hreturned : finishRefund db tenantId txnId (.accepted ack) receipt now =
          .returned (applyRefundResult (db.updateTransaction txnId sent) tenantId txnId
            (sent row) "0"
            (some receipt) now).1 := by
        simp only [finishRefund, hsimulated, if_true]
        rw [show (db.updateTransaction txnId _).transactions[txnId]? = some (sent row) from hrow']
      have hkeys : ∀ t, (settled (sent t)).tenantId = t.tenantId ∧
          (settled (sent t)).mpesaRef = refundRef ack receipt := by
        simp [settled, sent, settledRef, refundRef, hsimulated]
      have hset : Settles .success (settled ∘ sent) := fun t => ⟨rfl, rfl⟩
      simp only [hreturned, applyRefundResult, if_true]
      cases hsid : row.rawPayload.suspenseId with
      | none =>
        exact ⟨_, rfl, .accepted ack .success (by simp) ⟨hrow, hout, ⟨_, htxns, hset⟩,
          entriesMove_refl fun _ _ => .inl rfl⟩ rfl, rfl, rfl, _, htxns,
          .inr ⟨ack, rfl, hkeys⟩⟩
      | some sid =>
        refine ⟨_, rfl, .accepted ack .success (by simp)
          ⟨hrow, hout, ⟨_, htxns, hset⟩, ?_⟩ rfl, rfl,
          suspenseKeys_update _ sid fun e => ?_, _, htxns, .inr ⟨ack, rfl, hkeys⟩⟩
        · refine entriesMove_update (fun j e _ => .inl rfl) fun e => ?_
          split
          · exact ⟨rfl, .inr ⟨hsid, .inl rfl⟩⟩
          · exact ⟨rfl, .inl rfl⟩
        · split <;> rfl
    · refine ⟨decided (db.updateTransaction txnId sent) pendingId .approved checkerId, ?_,
        .accepted ack .processing (by simp) ⟨hrow, hout, ⟨sent, rfl, fun t => ⟨rfl, rfl⟩⟩,
          entriesMove_refl fun _ _ => .inl rfl⟩ rfl, rfl, rfl, sent, rfl,
        .inr ⟨ack, rfl, fun t => ⟨rfl, ?_⟩⟩⟩
      · simp only [finishRefund, hsimulated, Bool.false_eq_true, if_false]
        rfl
      · simp [refundRef, hsimulated, sent]

theorem finishRefund_eq_ok {db' : Db} (hrow : db.transactions[txnId]? = some row)
    (hrefund : row.type = .refund)
    (h : (finishDecision db tenantId pendingId checkerId (.refund txnId) reply receipt now).1 =
      .ok db') :
    RefundAnswered db txnId pendingId checkerId row db' (sendB2c reply) := by
  obtain ⟨saved, hsaved, hanswered, -⟩ :=
    finishRefund_answered tenantId pendingId checkerId reply receipt now hrow hrefund
  obtain ⟨-, rfl⟩ := Db.commit_eq_ok.mp (hsaved.symm.trans h)
  exact hanswered

/-- An answer is saved when the reference of an accepted refund is free. -/
theorem finishRefund_saves (hindexed : db.indexed = true)
    (hrow : db.transactions[txnId]? = some row)
    (hrefund : row.type = .refund)
    (hfree : ∀ ack, sendB2c reply = .accepted ack →
      RefFree db row.tenantId (refundRef ack receipt)) :
    ∃ db', (finishDecision db tenantId pendingId checkerId (.refund txnId) reply receipt now).1 =
      .ok db' := by
  obtain ⟨saved, hsaved, -, hrepayments, hsuspense, f, htxns, hkeys⟩ :=
    finishRefund_answered tenantId pendingId checkerId reply receipt now hrow hrefund
  refine ⟨saved, hsaved.trans (Db.commit_eq_ok.mpr ⟨?_, rfl⟩)⟩
  refine indexed_of_keys hindexed hrepayments ?_ hsuspense
  rw [htxns]
  obtain hsame | ⟨ack, hack, hsaves⟩ := hkeys
  · rw [filterMap_modify_of_eq hsame]
    exact (Db.indexed_iff.mp hindexed).2.1
  · refine nodup_modify (Db.indexed_iff.mp hindexed).2.1 fun x hx k hk => ?_
    obtain rfl := Option.some.inj (hx.symm.trans hrow)
    obtain ⟨htenant, href⟩ := hsaves x
    exact (href ▸ hfree ack hack).key_ne htenant hk

end Refund

section Reversal

variable {db : Db} {tenantId pendingId checkerId id : ℕ} {p : PendingApproval}
    {entry : SuspenseEntry}
  {reply : B2cReply} {receipt : String} {now : ℤ}

theorem applyReversalResult_reversed {txnId : ℕ} {txn : PaymentTransaction} (db : Db)
    (hstatus : txn.status = .processing) (hsource : txn.rawPayload.suspenseId = some id) :
    applyReversalResult db tenantId txnId txn "0" now =
      (db.updateTransaction txnId (fun t => { t with status := .success })).updateSuspense id
        (fun e =>
        if e.tenantId ≠ tenantId then e else
          { e with status := .reversed, resolvedAt := some now }) := by
  simp [applyReversalResult, hstatus, hsource]

/-- A reversal that Safaricom took in is saved in a row of its own, and its entry waits for
it, or is reversed at once. -/
theorem saveReversal_tables (db : Db) (tenantId id : ℕ) (entry : SuspenseEntry) (pendingId : ℕ)
    (ack : Ack) (now : ℤ) :
    ∃ (t : PaymentTransaction) (f : SuspenseEntry → SuspenseEntry),
      (saveReversal db tenantId id entry pendingId ack now).transactions = db.transactions ++ [t] ∧
      t.purpose = (.reversal, some id, some pendingId) ∧ t.status ≠ .failed ∧
      t.tenantId = tenantId ∧ t.mpesaRef = ack.conversationId ∧
      (saveReversal db tenantId id entry pendingId ack now).suspense = db.suspense.modify id f ∧
      (∀ e, (f e).tenantId = e.tenantId ∧ (f e).key = e.key ∧ (f e).status.held = false) ∧
      (saveReversal db tenantId id entry pendingId ack now).repayments = db.repayments ∧
      (saveReversal db tenantId id entry pendingId ack now).pending = db.pending := by
  simp only [saveReversal]
  split
  · rw [applyReversalResult_reversed _ rfl rfl]
    refine ⟨_, _, modify_append_row _ _ _, rfl, by simp, rfl, rfl, List.modify_modify_eq _ _ _ _,
      fun e => ?_, rfl, rfl⟩
    simp only [Function.comp_apply]
    split <;> exact ⟨rfl, rfl, rfl⟩
  · exact ⟨_, _, rfl, rfl, by simp [reversalTxn], rfl, rfl, rfl, fun e => ⟨rfl, rfl, rfl⟩, rfl, rfl⟩

theorem saveReversal_deed (ack : Ack) (hp : Waiting db pendingId p)
    (hlocked : Locked db p id entry) :
    Deed db (decided
      (saveReversal db tenantId id entry pendingId ack now) pendingId .approved checkerId)
      (some pendingId) none := by
  obtain ⟨t, f, htxns, hpurpose, hlive, -, -, hsuspense, hf, -, hpending⟩ :=
    saveReversal_tables db tenantId id entry pendingId ack now
  simp only [PaymentTransaction.purpose, Prod.mk.injEq] at hpurpose
  refine .sends pendingId p hp (some id) (fun sid hsid => ?_) (by simp) t
    (by simp [PaymentTransaction.outgoing,
      hpurpose.1]) hlive hpurpose.2.1 hpurpose.2.2 htxns ?_ true
    checkerId (by simp only [decided, hpending, if_true])
  · obtain rfl := Option.mem_some_iff.mp hsid
    exact ⟨entry, hlocked⟩
  · refine hsuspense ▸ entriesMove_update (fun j e hj => ?_) fun e =>
      ⟨(hf e).1, (if_pos rfl).mpr (hf e).2.2⟩
    exact (if_neg fun h => hj (Option.some.inj h).symm).mpr rfl

theorem finishReversal_deed {saved : Db} (hp : Waiting db pendingId p)
    (hlocked : Locked db p id entry)
    (h : finishDecision db tenantId pendingId checkerId (.reversal id) reply receipt now =
      (.ok saved, none)) : Deed db saved (some pendingId) none := by
  simp only [finishDecision] at h
  split at h
  · rename_i hentry _
    obtain ⟨hcommit, -⟩ := Prod.mk.inj h
    obtain ⟨-, rfl⟩ := Db.commit_eq_ok.mp hcommit
    obtain rfl := Option.some.inj (hentry.symm.trans hlocked.row)
    exact saveReversal_deed _ hp hlocked
  · simp at h
  · simp at h

theorem finishReversal_decided {saved : Db}
    (h : finishDecision db tenantId pendingId checkerId (.reversal id) reply receipt now =
      (.ok saved, none)) : ∀ p ∈ saved.pending[pendingId]?, p.status ≠ .pendingApproval := by
  simp only [finishDecision] at h
  split at h
  · obtain ⟨hcommit, -⟩ := Prod.mk.inj h
    obtain ⟨-, rfl⟩ := Db.commit_eq_ok.mp hcommit
    exact decided_status (by simp)
  · simp at h
  · simp at h

/-- A reversal that Safaricom took in is saved when its conversation is new. -/
theorem finishReversal_saves (pendingId checkerId : ℕ) (receipt : String) (now : ℤ)
    (hindexed : db.indexed = true) (hlocked : Locked db p id entry) {ack : Ack}
    (hreply : reply = .answered ack) (hcode : ack.responseCode = some "0")
    (hfree : RefFree db tenantId ack.conversationId) :
    ∃ saved, finishDecision db tenantId pendingId checkerId (.reversal id) reply receipt now =
      (.ok saved, none) := by
  obtain ⟨t, f, htxns, -, -, htenant, href, hsuspense, hf, hrepayments, -⟩ :=
    saveReversal_tables db tenantId id entry pendingId ack now
  have hsaved : (saveReversal db tenantId id entry pendingId ack now).indexed = true := by
    refine indexed_of_keys hindexed hrepayments ?_ ?_
    · rw [htxns]
      exact nodup_append_row (Db.indexed_iff.mp hindexed).2.1 fun k hk =>
        (href ▸ hfree).key_ne htenant hk
    · rw [hsuspense]
      exact filterMap_modify_of_eq (fun e => (hf e).2.1) _ _
  refine ⟨decided
    (saveReversal db tenantId id entry pendingId ack now) pendingId .approved checkerId, ?_⟩
  simp only [finishDecision, hreply, reversalFailure, hcode, ne_eq, not_true_eq_false, if_false,
    hlocked.row]
  rw [show (decided (saveReversal db tenantId id entry pendingId ack now) pendingId .approved
    checkerId).commit = .ok _ from Db.commit_eq_ok.mpr ⟨hsaved, rfl⟩]

end Reversal

end FinylDcp
