import FinylDcp.DecisionEffects
import FinylDcp.Runs

/-!
# The desk where suspense money is handled

Requests are put in and decided, provider calls are answered or never come back, results
and notices arrive, and a person resolves what stayed open. A refund's intent is saved
before its call, which releases the row of the request; a reversal holds the rows of the
request and the entry while it waits, and saves nothing before the answer.
-/
namespace FinylDcp
open Db Runs

/-- A decision whose provider call is not answered yet. -/
structure OpenCall where
  tenantId : ℕ
  pendingId : ℕ
  checkerId : ℕ
  call : OutgoingCall
  deriving DecidableEq, Repr

/-- The committed database and the calls under way; and what no row tells: the allocations
made, and the reversals sent (entry and request) that left nothing behind. -/
structure MoneyDesk where
  db : Db
  calls : List OpenCall
  allocated : List ℕ
  lost : List (ℕ × ℕ)

/-- What happens at the desk. The reply of a decision is that of the call it makes, if it
is a reversal; other calls are answered later, or the process stops. -/
inductive MoneyEvent
  | park (x : Receipt) (now : ℤ)
  | allocate (tenantId makerId entryId loanId : ℕ) (needsChecker : Bool) (now : ℤ)
  | refund (tenantId makerId entryId : ℕ) (phone note : Option String)
  | reverse (tenantId makerId entryId : ℕ) (note : Option String)
  | refundLoan (tenantId makerId loanId : ℕ) (phone : Option String) (amount : Option ℤ)
      (reason : Option String)
  | decide (tenantId pendingId : ℕ) (action : String) (checker : Checker) (freshRef : String)
      (reply : B2cReply) (receipt : String) (now : ℤ)
  | answer (n : ℕ) (reply : B2cReply) (receipt : String) (now : ℤ)
  | stop (n : ℕ)
  | result (body : ResultBody) (now : ℤ)
  | timeout (body : ResultBody)
  | reversalResult (body : ResultBody) (now : ℤ)
  | reversalTimeout (body : ResultBody)
  | resolve (tenantId txnId : ℕ) (checker : Checker) (outcome : String) (receipt : Option String)
      (note : String) (now : ℤ)

/-- The request an event decides. -/
def MoneyEvent.request : MoneyEvent → Option ℕ
  | .decide _ pendingId .. => some pendingId
  | _ => none

namespace MoneyDesk

/-- What a request commits, if it does. -/
def saved (s : MoneyDesk) : Except Failure Db → MoneyDesk
  | .ok db => { s with db := db }
  | .error _ => s

/-- A decision goes on after its first half. -/
def decide (s : MoneyDesk) (tenantId pendingId : ℕ) (checker : Checker) (reply : B2cReply)
    (receipt : String) (now : ℤ) : Db × Progress → MoneyDesk
  | (db, .finished payment) => { s with
      db := db
      allocated := s.allocated ++ (payment.bind (fun _ => allocationBy s.db pendingId)).toList }
  | (db, .waiting (.reversal entryId)) =>
    match finishDecision db tenantId pendingId checker.id (.reversal entryId) reply receipt now with
    | (.ok saved, none) => { s with db := saved }
    | _ => if reply.mayHaveGone then { s with lost := s.lost ++ [(entryId, pendingId)] } else s
  | (db, .waiting call) => { s with
      db := db
      calls := s.calls ++ [⟨tenantId, pendingId, checker.id, call⟩] }

def step (s : MoneyDesk) : MoneyEvent → MoneyDesk
  | .park x now => s.saved (recordSuspense s.db x now).1.commit
  | .allocate tenantId makerId entryId loanId needsChecker now =>
    match allocateSuspense s.db tenantId makerId entryId loanId needsChecker now with
    | .error _ => s
    | .ok (db, .payment _ _) => { s with db := db, allocated := s.allocated ++ [entryId] }
    | .ok (db, _) => { s with db := db }
  | .refund tenantId makerId entryId phone note =>
    s.saved (refundSuspense s.db tenantId makerId entryId phone note)
  | .reverse tenantId makerId entryId note =>
    s.saved (reverseSuspense s.db tenantId makerId entryId note)
  | .refundLoan tenantId makerId loanId phone amount reason =>
    s.saved (refundPayment s.db tenantId makerId loanId phone amount reason)
  | .decide tenantId pendingId action checker freshRef reply receipt now =>
    match beginDecision s.db tenantId pendingId action checker freshRef now with
    | .error _ => s
    | .ok begun => s.decide tenantId pendingId checker reply receipt now begun
  | .answer n reply receipt now =>
    match s.calls[n]? with
    | none => s
    | some c => { s.saved (finishDecision s.db c.tenantId c.pendingId c.checkerId c.call reply
        receipt now).1 with calls := s.calls.eraseIdx n }
  | .stop n => { s with calls := s.calls.eraseIdx n }
  | .result body now => s.saved (processB2cResult s.db body now)
  | .timeout body => s.saved (processB2cTimeout s.db body)
  | .reversalResult body now => s.saved (processReversalResult s.db body now)
  | .reversalTimeout body => s.saved (processReversalTimeout s.db body)
  | .resolve tenantId txnId checker outcome receipt note now =>
    s.saved (resolvePayoutRequest s.db tenantId txnId checker outcome receipt note now)

end MoneyDesk

/-- The refund a call is for. -/
def OutgoingCall.refundTxn : OutgoingCall → Option ℕ
  | .refund txnId => some txnId
  | _ => none

/-- The transaction of a call is the one it was made for. -/
def CallSound (db : Db) (c : OpenCall) : Prop :=
  match c.call with
  | .payout _ txnId => (∃ row ∈ db.transactions[txnId]?, row.outgoing = false) ∧
      ∃ p ∈ db.pending[c.pendingId]?, p.actionType.ofSuspense = false
  | .refund txnId => (∃ row ∈ db.transactions[txnId]?,
      row.type = .refund ∧ row.rawPayload.pendingId = some c.pendingId) ∧
      ∃ p, db.pending[c.pendingId]? = some p
  | .reversal _ => False

/-- Calls stay sound while the rows keep what they are. -/
theorem CallSound.of_stays {db db' : Db} {c : OpenCall} (h : CallSound db c)
    (htxns : ∀ (i : ℕ) (t : PaymentTransaction), db.transactions[i]? = some t →
      ∃ t' ∈ db'.transactions[i]?, t'.purpose = t.purpose)
    (hpending : ∀ (i : ℕ) (p : PendingApproval), db.pending[i]? = some p →
      ∃ p' ∈ db'.pending[i]?, p'.actionType = p.actionType) : CallSound db' c := by
  obtain ⟨tenantId, pendingId, checkerId, call⟩ := c
  cases call with
  | payout loanId txnId =>
    obtain ⟨⟨row, hrow, hout⟩, p, hp, htype⟩ := h
    obtain ⟨row', hrow', hpurpose⟩ := htxns txnId row hrow
    obtain ⟨p', hp', hsame⟩ := hpending pendingId p hp
    exact ⟨⟨row', hrow', outgoing_of_purpose hpurpose ▸ hout⟩, p', hp', hsame ▸ htype⟩
  | refund txnId =>
    obtain ⟨⟨row, hrow, htype, hfor⟩, p, hp⟩ := h
    obtain ⟨row', hrow', hpurpose⟩ := htxns txnId row hrow
    obtain ⟨p', hp', -⟩ := hpending pendingId p hp
    simp only [PaymentTransaction.purpose, Prod.mk.injEq] at hpurpose
    exact ⟨⟨row', hrow', hpurpose.1.trans htype, hpurpose.2.2.trans hfor⟩, p', hp'⟩
  | reversal entryId => exact h

/-- What one event does to the desk. -/
inductive MoneyDesk.Turn (s : MoneyDesk) : MoneyEvent → MoneyDesk → Prop
  | idle (e : MoneyEvent) : Turn s e s
  | deed (e : MoneyEvent) (db : Db) (request allocated : Option ℕ)
      (hdeed : Deed s.db db request allocated) (hrequest : request = none ∨ request = e.request)
      (hdecided : ∀ r ∈ request, ∀ p ∈ db.pending[r]?, p.status ≠ .pendingApproval) :
      Turn s e { s with db := db, allocated := s.allocated ++ allocated.toList }
  | calls (e : MoneyEvent) (db : Db) (request : Option ℕ) (hdeed : Deed s.db db request none)
      (hrequest : request = none ∨ request = e.request) (c : OpenCall) (hsound : CallSound db c)
      (hown : some c.pendingId = e.request)
      (hnew : ∀ txnId ∈ c.call.refundTxn, ∃ row ∈ db.transactions[txnId]?, row.status ≠ .failed)
      (hpaid : c.call.refundTxn = none → request = none) :
      Turn s e { s with db := db, calls := s.calls ++ [c] }
  | loses (tenantId pendingId : ℕ) (action : String) (checker : Checker) (freshRef : String)
      (reply : B2cReply) (receipt : String) (now : ℤ) (haction : action ≠ "reject")
      (p : PendingApproval) (hp : Waiting s.db pendingId p)
      (htype : p.actionType = .suspenseReversal)
      (htenant : p.tenantId = tenantId) (id : ℕ) (entry : SuspenseEntry)
      (hlocked : Locked s.db p id entry) (hgone : reply.mayHaveGone = true)
      (hlost : ∀ saved, finishDecision s.db tenantId pendingId checker.id
        (.reversal id) reply receipt
        now ≠ (.ok saved, none)) :
      Turn s (.decide tenantId pendingId action checker freshRef reply receipt now)
        { s with lost := s.lost ++ [(id, pendingId)] }
  | pays (n : ℕ) (reply : B2cReply) (receipt : String) (now : ℤ) (c : OpenCall)
      (hc : s.calls[n]? = some c) (loanId txnId : ℕ) (hcall : c.call = .payout loanId txnId)
      (db : Db)
      (htxns : Elsewhere s.db.transactions db.transactions)
      (hdeed : Deed s.db db none none ∨ Deed s.db db (some c.pendingId) none) :
      Turn s (.answer n reply receipt now) { s with db := db, calls := s.calls.eraseIdx n }
  | answers (n : ℕ) (reply : B2cReply) (receipt : String) (now : ℤ) (c : OpenCall)
      (hc : s.calls[n]? = some c) (txnId : ℕ) (hcall : c.call = .refund txnId) (db : Db)
      (row : PaymentTransaction) (hrow : s.db.transactions[txnId]? = some row)
      (hanswered : RefundAnswered s.db txnId c.pendingId c.checkerId row db (sendB2c reply)) :
      Turn s (.answer n reply receipt now) { s with db := db, calls := s.calls.eraseIdx n }
  | unsaved (n : ℕ) (reply : B2cReply) (receipt : String) (now : ℤ) (c : OpenCall)
      (hc : s.calls[n]? = some c)
      (hfailed : ∀ db, (finishDecision s.db c.tenantId c.pendingId c.checkerId c.call reply receipt
        now).1 ≠ .ok db) :
      Turn s (.answer n reply receipt now) { s with calls := s.calls.eraseIdx n }
  | stops (n : ℕ) : Turn s (.stop n) { s with calls := s.calls.eraseIdx n }

theorem MoneyDesk.turn_saved {s : MoneyDesk} {x : Except Failure Db} (e : MoneyEvent)
    (h : ∀ db, x = .ok db → Deed s.db db none none) : s.Turn e (s.saved x) := by
  cases x with
  | ok db => simpa [saved] using Turn.deed e db none none (h db rfl) (.inl rfl) (by simp)
  | error failure => exact .idle e

/-- What a decision does to the desk. -/
theorem MoneyDesk.decide_turn (s : MoneyDesk) (tenantId pendingId : ℕ) (action : String)
    (checker : Checker) (freshRef : String) (reply : B2cReply) (receipt : String) (now : ℤ) :
    s.Turn (.decide tenantId pendingId action checker freshRef reply receipt now)
      (s.step (.decide tenantId pendingId action checker freshRef reply receipt now)) := by
  simp only [step]
  split
  · exact .idle _
  rename_i begun hbegun
  cases beginDecision_begins hbegun with
  | finishes db payment allocated hdeed hdecided hallocated =>
    simp only [MoneyDesk.decide, ← hallocated]
    exact .deed _ db (some pendingId) allocated hdeed (.inr rfl) (by simpa using hdecided)
  | pays db p hp htype loanId txnId row hrow hout hdeed =>
    obtain ⟨p', hp', hsame, -⟩ := hdeed.requests_stay hp.row
    exact .calls _ db none hdeed (.inl rfl) _
      ⟨⟨row, hrow, hout⟩, p', hp', by rw [hsame, htype]; rfl⟩ rfl
        (by simp [OutgoingCall.refundTxn])
      fun _ => rfl
  | refunds db p hp htype row hrow hrefund hnew hdeed hfor hsaved hindexed =>
    refine .calls _ db (some pendingId) (by simpa using hdeed false 0) (.inr rfl) _
      ⟨⟨row, hrow, hrefund, hfor⟩, p, hsaved ▸ hp.row⟩ rfl (fun txnId htxn => ?_)
      (by simp [OutgoingCall.refundTxn])
    obtain rfl := Option.mem_some_iff.mp htxn
    exact ⟨row, hrow, by simp [hnew.1]⟩
  | reverses p hp htype id entry hlocked htenant =>
    simp only [MoneyDesk.decide]
    split
    · rename_i saved hsaved
      simpa using Turn.deed _ saved (some pendingId) none (finishReversal_deed hp hlocked hsaved)
        (.inr rfl) (by simpa using finishReversal_decided hsaved)
    · rename_i hlost
      split
      · rename_i hgone
        exact .loses _ _ _ _ _ _ _ _ (beginDecision_waiting hbegun) p hp htype htenant id entry
          hlocked hgone hlost
      · exact .idle _

/-- What the answer to a call does to the desk. -/
theorem MoneyDesk.answer_turn {s : MoneyDesk} (hcalls : ∀ c ∈ s.calls, CallSound s.db c) (n : ℕ)
    (reply : B2cReply) (receipt : String) (now : ℤ) :
    s.Turn (.answer n reply receipt now) (s.step (.answer n reply receipt now)) := by
  simp only [step]
  split
  · exact .idle _
  rename_i c hc
  have hsound := hcalls c (List.mem_of_getElem? hc)
  cases hfinish :
    (finishDecision s.db c.tenantId c.pendingId c.checkerId c.call reply receipt now).1 with
  | error failure =>
    exact .unsaved n reply receipt now c hc fun db hdb => by simp [hfinish] at hdb
  | ok db =>
    obtain ⟨tenantId, pendingId, checkerId, call⟩ := c
    cases call with
    | payout loanId txnId =>
      obtain ⟨⟨row, hrow, hout⟩, p, hp, htype⟩ := hsound
      obtain ⟨htxns, -, hdeed⟩ := finishPayout_deed hrow hout hp htype hfinish
      exact .pays n reply receipt now _ hc loanId txnId rfl db htxns (hdeed.imp_right (·.1))
    | refund txnId =>
      obtain ⟨⟨row, hrow, htype, -⟩, -⟩ := hsound
      exact .answers n reply receipt now _ hc txnId rfl db row hrow
        (finishRefund_eq_ok hrow htype hfinish)
    | reversal entryId => exact absurd hsound id

/-- The inversion of a step. -/
theorem MoneyDesk.step_turn {s : MoneyDesk} (hcalls : ∀ c ∈ s.calls, CallSound s.db c)
    (e : MoneyEvent) : s.Turn e (s.step e) := by
  cases e with
  | park x now =>
    refine turn_saved _ fun db hdb => ?_
    obtain ⟨-, rfl⟩ := Db.commit_eq_ok.mp hdb
    obtain ⟨entries, hsaved, hopen⟩ := recordSuspense_grows s.db x now
    rw [hsaved]
    exact .aside (.refl _) (entriesMove_append hopen fun _ _ => rfl) rfl
  | allocate tenantId makerId entryId loanId needsChecker now =>
    simp only [step]
    split
    · exact .idle _
    · rename_i db t r hallocated
      exact .deed _ db none (some entryId) (allocateSuspense_deed hallocated) (.inl rfl) (by simp)
    · rename_i db reply hreply hallocated
      have hdeed := allocateSuspense_deed hallocated
      cases reply with
      | payment t r => exact absurd rfl (hreply t r)
      | acknowledged => simpa using Turn.deed _ db none none hdeed (.inl rfl) (by simp)
      | parked t x => simpa using Turn.deed _ db none none hdeed (.inl rfl) (by simp)
      | awaitingApproval x => simpa using Turn.deed _ db none none hdeed (.inl rfl) (by simp)
  | refund tenantId makerId entryId phone note =>
    exact turn_saved _ fun db hdb => refundSuspense_deed hdb
  | reverse tenantId makerId entryId note =>
    exact turn_saved _ fun db hdb => reverseSuspense_deed hdb
  | refundLoan tenantId makerId loanId phone amount reason =>
    exact turn_saved _ fun db hdb => refundPayment_deed hdb
  | decide tenantId pendingId action checker freshRef reply receipt now =>
    exact decide_turn s tenantId pendingId action checker freshRef reply receipt now
  | answer n reply receipt now => exact answer_turn hcalls n reply receipt now
  | stop n => exact .stops n
  | result body now => exact turn_saved _ fun db hdb => processB2cResult_deed hdb
  | timeout body => exact turn_saved _ fun db hdb => processB2cTimeout_deed hdb
  | reversalResult body now => exact turn_saved _ fun db hdb => processReversalResult_deed hdb
  | reversalTimeout body => exact turn_saved _ fun db hdb => processReversalTimeout_deed hdb
  | resolve tenantId txnId checker outcome receipt note now =>
    exact turn_saved _ fun db hdb => resolvePayoutRequest_deed hdb

theorem RefundAnswered.stays {db db' : Db} {txnId pendingId checkerId : ℕ}
    {row : PaymentTransaction}
    {sent : SendResult} (h : RefundAnswered db txnId pendingId checkerId row db' sent) :
    (∃ status, Marked db db' txnId row status) ∧
      ∀ (i : ℕ) (p : PendingApproval), db.pending[i]? = some p →
        ∃ p' ∈ db'.pending[i]?, p.Continues p' := by
  cases h with
  | refused why hmarked hpending =>
    exact ⟨⟨_, hmarked⟩, fun i p hp => ⟨p, hpending ▸ hp, rfl, rfl, rfl, .inl rfl⟩⟩
  | uncertain why hmarked hpending =>
    exact ⟨⟨_, hmarked⟩, fun i p hp => ⟨p, hpending ▸ hp, rfl, rfl, rfl, .inl rfl⟩⟩
  | accepted ack status hlive hmarked hpending =>
    refine ⟨⟨_, hmarked⟩, fun i p hp => ?_⟩
    rw [hpending, decided, List.getElem?_modify, hp]
    by_cases hi : pendingId = i
    · exact ⟨{ p with status := .approved, checkerUserId := some checkerId }, by simp [hi],
        rfl, rfl,
        rfl, .inr (by simp)⟩
    · exact ⟨p, by simp [hi], rfl, rfl, rfl, .inl rfl⟩

/-- Calls under way stay those of their transactions. -/
theorem MoneyDesk.Turn.calls_sound {s s' : MoneyDesk} {e : MoneyEvent} (h : s.Turn e s')
    (hcalls : ∀ c ∈ s.calls, CallSound s.db c) : ∀ c ∈ s'.calls, CallSound s'.db c := by
  have hdeeds : ∀ {db : Db} {request allocated : Option ℕ}, Deed s.db db request allocated →
      ∀ c ∈ s.calls, CallSound db c := fun hdeed c hc =>
    (hcalls c hc).of_stays (fun i t ht => hdeed.stays ht) fun i p hp =>
      (hdeed.requests_stay hp).imp fun p' h => ⟨h.1, h.2.1⟩
  cases h with
  | idle => exact hcalls
  | deed _ db request allocated hdeed => exact hdeeds hdeed
  | calls _ db request hdeed hrequest c hsound =>
    intro c' hc'
    obtain hold | hnew := List.mem_append.mp hc'
    · exact hdeeds hdeed c' hold
    · obtain rfl := List.mem_singleton.mp hnew
      exact hsound
  | loses => exact hcalls
  | pays n reply receipt now c hc loanId txnId hcall db htxns hdeed =>
    intro c' hc'
    obtain hdeed | hdeed := hdeed
    · exact hdeeds hdeed c' (List.mem_of_mem_eraseIdx hc')
    · exact hdeeds hdeed c' (List.mem_of_mem_eraseIdx hc')
  | answers n reply receipt now c hc txnId hcall db row hrow hanswered =>
    obtain ⟨⟨status, hmarked⟩, hpending⟩ := hanswered.stays
    intro c' hc'
    exact (hcalls c' (List.mem_of_mem_eraseIdx hc')).of_stays (fun i t ht => hmarked.stays ht)
      fun i p hp => (hpending i p hp).imp fun p' h => ⟨h.1, h.2.1⟩
  | unsaved => exact fun c hc => hcalls c (List.mem_of_mem_eraseIdx hc)
  | stops => exact fun c hc => hcalls c (List.mem_of_mem_eraseIdx hc)

theorem indexed_of_commit {db saved : Db} (h : db.commit = .ok saved) : saved.indexed = true := by
  obtain ⟨hindexed, rfl⟩ := Db.commit_eq_ok.mp h
  exact hindexed

section Indexes

variable {db : Db} (hindexed : db.indexed = true)
include hindexed

theorem allocateSuspense_indexed {tenantId makerId entryId loanId : ℕ} {needsChecker : Bool}
    {now : ℤ}
    {out : Db × Reply}
    (h : allocateSuspense db tenantId makerId entryId loanId needsChecker now = .ok out) :
    out.1.indexed = true := by
  obtain ⟨found, hfound, h⟩ := bind_eq_ok.mp h
  split at h
  · cases h
    exact hindexed
  obtain ⟨-, -, h⟩ := bind_eq_ok.mp h
  split at h
  · cases h
  obtain ⟨-, -, h⟩ := bind_eq_ok.mp h
  split at h
  · obtain ⟨hsaved, rfl⟩ := commitWith_eq_ok.mp h
    exact hsaved
  · obtain ⟨paid, hpaid, h⟩ := bind_eq_ok.mp h
    obtain ⟨hsaved, rfl⟩ := commitWith_eq_ok.mp h
    exact hsaved

theorem refundSuspense_indexed {saved : Db} {tenantId makerId entryId : ℕ}
    {phone note : Option String}
    (h : refundSuspense db tenantId makerId entryId phone note = .ok saved) :
    saved.indexed = true := by
  obtain ⟨found, hfound, h⟩ := bind_eq_ok.mp h
  split at h
  · cases h
    exact hindexed
  · obtain ⟨out, -, h⟩ := bind_eq_ok.mp h
    exact indexed_of_commit h

theorem reverseSuspense_indexed {saved : Db} {tenantId makerId entryId : ℕ} {note : Option String}
    (h : reverseSuspense db tenantId makerId entryId note = .ok saved) : saved.indexed = true := by
  obtain ⟨found, hfound, h⟩ := bind_eq_ok.mp h
  split at h
  · cases h
    exact hindexed
  · obtain ⟨out, -, h⟩ := bind_eq_ok.mp h
    exact indexed_of_commit h

/-- A decision has committed what it goes on from. -/
theorem beginDecision_indexed {tenantId pendingId : ℕ} {action : String} {checker : Checker}
    {freshRef : String} {now : ℤ} {out : Db × Progress}
    (h : beginDecision db tenantId pendingId action checker freshRef now = .ok out) :
    out.1.indexed = true := by
  obtain ⟨p, -, h⟩ := bind_eq_ok.mp h
  split at h
  · obtain ⟨saved, hcommit, h⟩ := bind_eq_ok.mp h
    cases h
    exact indexed_of_commit hcommit
  · cases beginApproval_approved h with
    | payout htype loanId begun hbegun hsaved => exact hsaved
    | loanRefund htype loanId loan hid hloan hfits begun hbegun hsaved => exact hsaved
    | payment htype loanId loan hid hloan paid hpaid hsaved => exact hsaved
    | allocation htype held hheld loanId loan hid hloan moved hmoved hsaved => exact hsaved
    | entryRefund htype held hheld begun hbegun hsaved => exact hsaved
    | reversal htype held hheld => exact hindexed

/-- So has one that was answered. -/
theorem finishDecision_indexed {saved : Db} {tenantId pendingId checkerId : ℕ} {call : OutgoingCall}
    {reply : B2cReply} {receipt : String} {now : ℤ}
    (h : (finishDecision db tenantId pendingId checkerId call reply receipt now).1 = .ok saved) :
    saved.indexed = true := by
  cases call with
  | payout loanId txnId =>
    simp only [finishDecision] at h
    split at h
    · exact indexed_of_commit h
    · rename_i saved' failure hfinished
      have hcommit : (finishDisbursement db tenantId loanId txnId (sendB2c reply)).1 =
          .ok saved := by
        rw [hfinished]
        exact h
      cases hsent : sendB2c reply <;> rw [hsent] at hcommit <;> exact indexed_of_commit hcommit
    · cases h
  | refund txnId =>
    simp only [finishDecision] at h
    cases hsent : sendB2c reply with
    | refused why =>
      rw [hsent] at h
      exact indexed_of_commit h
    | uncertain why =>
      rw [hsent] at h
      exact indexed_of_commit h
    | accepted ack =>
      rw [hsent] at h
      split at h
      · exact indexed_of_commit h
      · rename_i hraised
        simp only [finishRefund] at hraised
        split at hraised
        · split at hraised <;> cases hraised
        · cases hraised
  | reversal entryId =>
    simp only [finishDecision] at h
    split at h
    · exact indexed_of_commit h
    · cases h
      exact hindexed
    · cases h
      exact hindexed

end Indexes

section Commits

variable {db saved : Db}

theorem refundPayment_indexed {tenantId makerId loanId : ℕ} {phone : Option String}
    {amount : Option ℤ} {reason : Option String}
    (h : refundPayment db tenantId makerId loanId phone amount reason = .ok saved) :
    saved.indexed = true := by
  simp only [refundPayment] at h
  split at h
  · cases h
  split at h
  · cases h
  split at h
  · cases h
  split at h
  · cases h
  split at h
  · cases h
  split at h
  · cases h
  exact indexed_of_commit h

theorem processB2cResult_indexed {body : ResultBody} {now : ℤ}
    (h : processB2cResult db body now = .ok saved) : saved.indexed = true := by
  simp only [processB2cResult] at h
  split at h
  · cases h
  obtain ⟨out, -, h⟩ := bind_eq_ok.mp h
  exact indexed_of_commit h

theorem processB2cTimeout_indexed {body : ResultBody}
    (h : processB2cTimeout db body = .ok saved) : saved.indexed = true := by
  simp only [processB2cTimeout] at h
  split at h
  · cases h
  exact indexed_of_commit h

theorem processReversalResult_indexed {body : ResultBody} {now : ℤ}
    (h : processReversalResult db body now = .ok saved) : saved.indexed = true := by
  simp only [processReversalResult] at h
  split at h
  · cases h
  exact indexed_of_commit h

theorem processReversalTimeout_indexed {body : ResultBody}
    (h : processReversalTimeout db body = .ok saved) : saved.indexed = true := by
  simp only [processReversalTimeout] at h
  split at h
  · cases h
  exact indexed_of_commit h

theorem resolvePayoutRequest_indexed {tenantId txnId : ℕ} {checker : Checker}
    {outcome note : String} {receipt : Option String} {now : ℤ}
    (h : resolvePayoutRequest db tenantId txnId checker outcome receipt note now = .ok saved) :
    saved.indexed = true := by
  obtain ⟨txn, -, h⟩ := bind_eq_ok.mp h
  obtain ⟨out, -, h⟩ := bind_eq_ok.mp h
  exact indexed_of_commit h

end Commits

/-- Every state of the desk was committed. -/
theorem MoneyDesk.step_indexed {s : MoneyDesk} (h : s.db.indexed = true) (e : MoneyEvent) :
    (s.step e).db.indexed = true := by
  have hsaved : ∀ x : Except Failure Db, (∀ db, x = .ok db → db.indexed = true) →
      (s.saved x).db.indexed = true := by
    intro x hx
    cases x with
    | ok db => exact hx db rfl
    | error failure => exact h
  cases e with
  | park x now => exact hsaved _ fun db hdb => indexed_of_commit hdb
  | allocate tenantId makerId entryId loanId needsChecker now =>
    simp only [step]
    split
    · exact h
    · rename_i hallocated
      exact allocateSuspense_indexed h hallocated
    · rename_i hallocated
      exact allocateSuspense_indexed h hallocated
  | refund tenantId makerId entryId phone note =>
    exact hsaved _ fun db hdb => refundSuspense_indexed h hdb
  | reverse tenantId makerId entryId note =>
    exact hsaved _ fun db hdb => reverseSuspense_indexed h hdb
  | refundLoan tenantId makerId loanId phone amount reason =>
    exact hsaved _ fun db hdb => refundPayment_indexed hdb
  | decide tenantId pendingId action checker freshRef reply receipt now =>
    simp only [step]
    split
    · exact h
    rename_i begun hbegun
    have hbegun := beginDecision_indexed h hbegun
    obtain ⟨db, progress⟩ := begun
    cases progress with
    | finished payment => exact hbegun
    | waiting call =>
      cases call with
      | payout loanId txnId => exact hbegun
      | refund txnId => exact hbegun
      | reversal entryId =>
        simp only [MoneyDesk.decide]
        split
        · rename_i hfinished
          exact finishDecision_indexed hbegun (by rw [hfinished])
        · split <;> exact h
  | answer n reply receipt now =>
    simp only [step]
    split
    · exact h
    · exact hsaved _ fun db hdb => finishDecision_indexed h hdb
  | stop n => exact h
  | result body now => exact hsaved _ fun db hdb => processB2cResult_indexed hdb
  | timeout body => exact hsaved _ fun db hdb => processB2cTimeout_indexed hdb
  | reversalResult body now => exact hsaved _ fun db hdb => processReversalResult_indexed hdb
  | reversalTimeout body => exact hsaved _ fun db hdb => processReversalTimeout_indexed hdb
  | resolve tenantId txnId checker outcome receipt note now =>
    exact hsaved _ fun db hdb => resolvePayoutRequest_indexed hdb

/-- The book with 500.00 that came in under an unknown account. -/
def suspenseBook : Db :=
  { fourWeekBook with
    suspense := [⟨1, .c2b, some "QA9", some "254700000002", 50000, .unmatched, .open, none, none,
      some "FL/9", none, none, 100, none, none⟩] }

/-- A decision by the checker, with the reply to the call it may make. -/
def checkerDecides (pendingId : ℕ) (action : String) (reply : B2cReply) (now : ℤ) : MoneyEvent :=
  .decide 1 pendingId action ⟨8, true, [], []⟩ "" reply "" now

end FinylDcp
