import FinylDcp.MoneyDesk

/-!
# Suspense money leaves once

An entry is disposed of by an allocation, a refund or a reversal. While its money has not
left it may be taken by one of them; a refund or reversal that fails gives it back. The
count of what has left never passes one, except where the desk does not know what it
sent: a reversal nobody answered leaves no row, and a refund resolved as not paid while
its call is under way may still be taken in.
-/
namespace FinylDcp
open Db Runs Tables

/-- A transaction that took or may take the money of an entry. -/
def PaymentTransaction.takes (entryId : ℕ) (t : PaymentTransaction) : Bool :=
  t.outgoing && t.rawPayload.suspenseId = some entryId

/-- What has left, or may still leave, of an entry's money by rows. -/
def Db.left (db : Db) (entryId : ℕ) : ℕ :=
  (db.transactions.filter (fun t => t.takes entryId && t.status ≠ .failed)).length

/-- The disposals of an entry: its allocations, its refunds and reversals that did not fail,
and its reversals nobody answered. -/
def MoneyDesk.disposals (s : MoneyDesk) (entryId : ℕ) : ℕ :=
  (s.allocated.filter (· = entryId)).length + s.db.left entryId +
    (s.lost.filter (fun x => x.1 = entryId)).length

/-- An entry is disposed of at most once, and is out of reach from then on. -/
structure LeavesOnce (entryId : ℕ) (s : MoneyDesk) : Prop where
  once : s.disposals entryId ≤ 1
  closed : 0 < s.disposals entryId → ∀ e ∈ s.db.suspense[entryId]?,
    e.status ≠ .open ∧ e.status ≠ .pendingApproval

instance (entryId : ℕ) (s : MoneyDesk) : Decidable (LeavesOnce entryId s) :=
  decidable_of_iff (s.disposals entryId ≤ 1 ∧ (0 < s.disposals entryId →
    ∀ e ∈ s.db.suspense[entryId]?, e.status ≠ .open ∧ e.status ≠ .pendingApproval))
    ⟨fun h => ⟨h.1, h.2⟩, fun h => ⟨h.once, h.closed⟩⟩

/-- Nothing of an entry has left, if it is there at all. -/
def NothingLeft (entryId : ℕ) (db : Db) : Prop :=
  ∀ t ∈ db.transactions, t.takes entryId = true → t.status = .failed

instance (entryId : ℕ) (db : Db) : Decidable (NothingLeft entryId db) := by
  unfold NothingLeft
  infer_instance

/-- A reversal was not sent, or it was taken in under a conversation that is new. -/
def ReversalKnown (db : Db) (tenantId : ℕ) (reply : B2cReply) : Prop :=
  reply.mayHaveGone = true → ∃ ack, reply = .answered ack ∧ ack.responseCode = some "0" ∧
    RefFree db tenantId ack.conversationId

instance (db : Db) (tenantId : ℕ) (reply : B2cReply) :
    Decidable (ReversalKnown db tenantId reply) :=
  match reply with
  | .answered ack => decidable_of_iff ((B2cReply.answered ack).mayHaveGone = true →
      ack.responseCode = some "0" ∧ RefFree db tenantId ack.conversationId)
      (by simp [ReversalKnown])
  | .notConfigured => isTrue (by simp [ReversalKnown, B2cReply.mayHaveGone, sendB2c])
  | .connectionFailed => isTrue (by simp [ReversalKnown, B2cReply.mayHaveGone, sendB2c])
  | .httpStatus code => decidable_of_iff ((B2cReply.httpStatus code).mayHaveGone = false)
      (by simp [ReversalKnown])
  | .dropped error => decidable_of_iff ((B2cReply.dropped error).mayHaveGone = false)
      (by simp [ReversalKnown])

/-- What becomes of a reversal of the entry is known when its call ends, and an answer to a
refund of the entry does not find it resolved as not paid. -/
def Accountable (entryId : ℕ) (s : MoneyDesk) : MoneyEvent → Prop
  | .decide tenantId pendingId action _ _ reply _ _ => action ≠ "reject" →
      ∀ p ∈ s.db.pending[pendingId]?, p.actionType = .suspenseReversal →
        p.details.suspenseId = some entryId → ReversalKnown s.db tenantId reply
  | .answer n _ _ _ => ∀ c ∈ s.calls[n]?, ∀ txnId ∈ c.call.refundTxn,
      ∀ row ∈ s.db.transactions[txnId]?, row.rawPayload.suspenseId = some entryId →
        row.status ≠ .failed
  | _ => True

instance (entryId : ℕ) (s : MoneyDesk) : (e : MoneyEvent) → Decidable (Accountable entryId s e)
  | .decide tenantId pendingId action _ _ reply _ _ =>
    inferInstanceAs (Decidable (action ≠ "reject" → ∀ p ∈ s.db.pending[pendingId]?,
      p.actionType = .suspenseReversal → p.details.suspenseId = some entryId →
        ReversalKnown s.db tenantId reply))
  | .answer n _ _ _ =>
    inferInstanceAs (Decidable (∀ c ∈ s.calls[n]?, ∀ txnId ∈ c.call.refundTxn,
      ∀ row ∈ s.db.transactions[txnId]?, row.rawPayload.suspenseId = some entryId →
        row.status ≠ .failed))
  | .park .. | .allocate .. | .refund .. | .reverse .. | .refundLoan .. | .stop .. | .result ..
  | .timeout .. | .reversalResult .. | .reversalTimeout .. | .resolve .. => isTrue trivial

/-- An entry's money can be taken; so can that of an entry that is yet to come. -/
def Available (entryId : ℕ) (db : Db) : Prop :=
  ∀ e ∈ db.suspense[entryId]?, e.status.held = true

/-- What a step does to the money of an entry: nothing, or it takes it, or gives it back. -/
inductive Shifts (entryId : ℕ) (db db' : Db) (allocated : Option ℕ) : Prop
  | keeps (hleft : db'.left entryId = db.left entryId) (hnone : allocated ≠ some entryId)
      (havailable : Available entryId db' → Available entryId db)
  | takes (hleft : db'.left entryId + (if allocated = some entryId then 1 else 0) =
        db.left entryId + 1)
      (hbefore : Available entryId db) (hafter : ¬ Available entryId db')
  | returns (hleft : db'.left entryId + 1 = db.left entryId) (hnone : allocated ≠ some entryId)

section Shifts

variable {entryId : ℕ} {db db' : Db}

theorem left_elsewhere (h : Elsewhere db.transactions db'.transactions) :
    db'.left entryId = db.left entryId := by
  have hfilter : ∀ rows : List PaymentTransaction,
      rows.filter (fun t => t.takes entryId && t.status ≠ .failed) =
        (rows.filter (·.outgoing)).filter (fun t => t.takes entryId && t.status ≠ .failed) := by
    intro rows
    rw [List.filter_filter]
    refine List.filter_congr fun t _ => ?_
    cases hout : t.outgoing <;> simp [PaymentTransaction.takes, hout]
  rw [left, left, hfilter, hfilter db.transactions, h.outgoing]

/-- What the entry became shows whether it can still be taken. -/
theorem available_of_moves {moves : ℕ → SuspenseEntry → SuspenseEntry → Prop}
    (h : EntriesMove moves db.suspense db'.suspense)
    (hmoves : ∀ e e', db.suspense[entryId]? = some e → moves entryId e e' →
      e'.status.held = true → e.status.held = true) :
    Available entryId db' → Available entryId db := by
  intro havailable e he
  obtain ⟨e', he', -, hm⟩ := h.rows entryId e he
  exact hmoves e e' he hm (havailable e' he')

theorem not_available_of_moves {moves : ℕ → SuspenseEntry → SuspenseEntry → Prop}
    {entry : SuspenseEntry}
    (h : EntriesMove moves db.suspense db'.suspense) (hentry : db.suspense[entryId]? = some entry)
    (hmoves : ∀ e', moves entryId entry e' → e'.status.held = false) : ¬ Available entryId db' := by
  intro havailable
  obtain ⟨e', he', -, hm⟩ := h.rows entryId entry hentry
  have := hmoves e' hm
  rw [havailable e' he'] at this
  cases this

theorem available_of_row {entry : SuspenseEntry} (hentry : db.suspense[entryId]? = some entry)
    (hheld : entry.status.held = true) : Available entryId db := by
  intro e he
  obtain rfl := Option.some.inj (hentry.symm.trans he)
  exact hheld

theorem takes_of_purpose {t t' : PaymentTransaction} (h : t'.purpose = t.purpose) :
    t'.takes entryId = t.takes entryId := by
  have hout := outgoing_of_purpose h
  simp only [PaymentTransaction.purpose, Prod.mk.injEq] at h
  simp only [PaymentTransaction.takes, hout, h]

/-- Marking a live transaction keeps the money out, or gives it back. -/
theorem Marked.shifts {txnId : ℕ} {row : PaymentTransaction} {status : TransactionStatus}
    (h : Marked db db' txnId row status)
    (hlive : row.rawPayload.suspenseId = some entryId → row.status ≠ .failed) :
    Shifts entryId db db' none := by
  obtain ⟨f, htxns, hset⟩ := h.txns
  have hcount := length_filter_modify (fun t : PaymentTransaction => t.takes entryId &&
    decide (t.status ≠ .failed)) f h.found
  rw [← htxns, takes_of_purpose (hset row).1, (hset row).2] at hcount
  change db'.left entryId + _ = db.left entryId + _ at hcount
  by_cases htakes : row.rawPayload.suspenseId = some entryId
  · have hrow : row.takes entryId = true := by simp [PaymentTransaction.takes, h.outgoing, htakes]
    by_cases hfailed : status = .failed
    · refine .returns ?_ (by simp)
      simpa [hrow, hlive htakes, hfailed] using hcount
    · refine .keeps (by simpa [hrow, hlive htakes, hfailed] using hcount) (by simp) ?_
      refine available_of_moves h.suspense fun e e' _ hfollows hheld => ?_
      obtain rfl | ⟨-, hclosed | hclosed | ⟨-, hopen⟩⟩ := hfollows
      · exact hheld
      · simp [hclosed, SuspenseStatus.held] at hheld
      · simp [hclosed, SuspenseStatus.held] at hheld
      · exact absurd hopen hfailed
  · refine .keeps ?_ (by simp) ?_
    · simpa [PaymentTransaction.takes, htakes] using hcount
    · refine available_of_moves h.suspense fun e e' _ hfollows hheld => ?_
      obtain rfl | ⟨hsource, -⟩ := hfollows
      · exact hheld
      · exact absurd hsource htakes

/-- An entry that becomes allocated is taken, or it is another one. -/
theorem shifts_of_allocation {id : ℕ} {entry : SuspenseEntry}
    (hentry : db.suspense[id]? = some entry)
    (hheld : entry.status.held = true) (htxns : db'.transactions = db.transactions)
    (hsuspense : EntriesMove (Becomes id (· = .allocated)) db.suspense db'.suspense) :
    Shifts entryId db db' (some id) := by
  have hleft : db'.left entryId = db.left entryId := by rw [left, left, htxns]
  by_cases hid : id = entryId
  · subst hid
    refine .takes (by simp [hleft]) (available_of_row hentry hheld)
      (not_available_of_moves hsuspense hentry fun e' he' => ?_)
    rw [(if_pos rfl).mp he']
    rfl
  · refine .keeps hleft (by simpa using hid)
      (available_of_moves hsuspense fun e e' _ he' hheld => ?_)
    rwa [(if_neg (Ne.symm hid)).mp he'] at hheld

/-- Every deed keeps the money of an entry, takes it or gives it back. -/
theorem Deed.shifts {request allocated : Option ℕ} (h : Deed db db' request allocated) :
    Shifts entryId db db' allocated := by
  have hsame : db'.transactions = db.transactions → db'.left entryId = db.left entryId :=
    fun htxns => by rw [left, left, htxns]
  cases h with
  | aside htxns hsuspense =>
    refine .keeps (left_elsewhere htxns) (by simp) (available_of_moves hsuspense ?_)
    rintro e _ - rfl hheld
    exact hheld
  | asks p hwaits habout htxns hsuspense =>
    refine .keeps (hsame htxns) (by simp) fun havailable => ?_
    rwa [Available, ← hsuspense]
  | parks id entry p hentry hopen habout htenant htype hwaits htxns hsuspense =>
    refine .keeps (hsame htxns) (by simp) (available_of_moves hsuspense fun e e' he he' hheld => ?_)
    by_cases hid : entryId = id
    · subst hid
      obtain rfl := Option.some.inj (hentry.symm.trans he)
      rw [hopen]
      rfl
    · rwa [(if_neg hid).mp he'] at hheld
  | allocates id entry hentry hopen htxns hsuspense =>
    exact shifts_of_allocation hentry (by rw [hopen]; rfl) htxns hsuspense
  | rejects pendingId p hp checkerId htxns hsuspense =>
    refine .keeps (hsame htxns) (by simp) (available_of_moves hsuspense fun e e' he he' hheld => ?_)
    split at he'
    · rename_i hreleased
      rw [hreleased.2.2.2]
      rfl
    · rwa [he'] at hheld
  | approves pendingId p hp htype checkerId htxns hsuspense =>
    refine .keeps (left_elsewhere htxns) (by simp) (available_of_moves hsuspense ?_)
    rintro e _ - rfl hheld
    exact hheld
  | approvesAllocation pendingId p hp id entry hlocked checkerId htxns hsuspense =>
    exact shifts_of_allocation hlocked.row (by rw [hlocked.held]; rfl) htxns hsuspense
  | sends pendingId p hp source hsource hnone t hout hlive hfrom hfor htxns hsuspense =>
    have hcount : db'.left entryId = db.left entryId + if source = some entryId then 1 else 0 := by
      by_cases hentry : source = some entryId <;>
        simp [left, htxns, PaymentTransaction.takes, hout, hlive, hfrom, hentry]
    by_cases hentry : source = some entryId
    · obtain ⟨entry, hlocked⟩ := hsource entryId hentry
      refine .takes (by simp [hcount, hentry])
        (available_of_row hlocked.row (by rw [hlocked.held]; rfl))
        (not_available_of_moves hsuspense hlocked.row fun e' he' => (if_pos hentry).mp he')
    · refine .keeps (by simp [hcount, hentry]) (by simp)
        (available_of_moves hsuspense fun e e' _ he' hheld => ?_)
      rwa [(if_neg hentry).mp he'] at hheld
  | marks txnId row status hmarked hlive => exact hmarked.shifts fun _ => hlive

end Shifts

/-- The invariant: what has left is counted, and while nothing has, or it came back, the
entry may be taken. -/
structure Disposed (entryId : ℕ) (s : MoneyDesk) : Prop where
  calls : ∀ c ∈ s.calls, CallSound s.db c
  indexed : s.db.indexed = true
  once : s.disposals entryId ≤ 1
  available : Available entryId s.db → s.disposals entryId = 0

theorem Disposed.leavesOnce {entryId : ℕ} {s : MoneyDesk} (h : Disposed entryId s) :
    LeavesOnce entryId s := by
  refine ⟨h.once, fun hpos e he => ?_⟩
  by_contra hheld
  have havailable : Available entryId s.db := available_of_row he <| by
    cases hstatus : e.status <;> simp [hstatus, SuspenseStatus.held] at hheld ⊢
  have := h.available havailable
  omega

/-- A step on the money of an entry, when the reversals nobody answered stay the same. -/
theorem Shifts.disposed {entryId : ℕ} {s : MoneyDesk} {db : Db} {allocated : Option ℕ}
    (h : Shifts entryId s.db db allocated) (calls : List OpenCall) (hs : Disposed entryId s) :
    MoneyDesk.disposals ⟨db, calls, s.allocated ++ allocated.toList, s.lost⟩ entryId ≤ 1 ∧
      (Available entryId db →
        MoneyDesk.disposals ⟨db, calls, s.allocated ++ allocated.toList, s.lost⟩ entryId = 0) := by
  have hallocated : ((s.allocated ++ allocated.toList).filter (· = entryId)).length =
      (s.allocated.filter (· = entryId)).length + if allocated = some entryId then 1 else 0 := by
    cases allocated with
    | none => simp
    | some id => by_cases hid : id = entryId <;> simp [hid]
  have honce := hs.once
  have havailable := hs.available
  simp only [MoneyDesk.disposals, hallocated] at honce havailable ⊢
  cases h with
  | keeps hleft hnone hkept =>
    rw [if_neg hnone, hleft]
    exact ⟨honce, fun h => havailable (hkept h)⟩
  | takes hleft hbefore hafter =>
    have hzero := havailable hbefore
    refine ⟨?_, fun h => absurd h hafter⟩
    split_ifs at hleft ⊢ <;> omega
  | returns hleft hnone =>
    rw [if_neg hnone]
    exact ⟨by omega, fun _ => by omega⟩

/-- The step lemma: what has left of an entry is counted, when what becomes of it is known. -/
theorem Disposed.step {entryId : ℕ} {s : MoneyDesk} (hs : Disposed entryId s) (e : MoneyEvent)
    (hok : Accountable entryId s e) : Disposed entryId (s.step e) := by
  have hindexed := MoneyDesk.step_indexed hs.indexed e
  have hturn := MoneyDesk.step_turn hs.calls e
  have hcalls := hturn.calls_sound hs.calls
  generalize s.step e = s' at hturn hcalls hindexed
  suffices h : s'.disposals entryId ≤ 1 ∧ (Available entryId s'.db → s'.disposals entryId = 0) from
    ⟨hcalls, hindexed, h.1, h.2⟩
  cases hturn with
  | idle => exact ⟨hs.once, hs.available⟩
  | deed _ db request allocated hdeed => exact hdeed.shifts.disposed s.calls hs
  | calls _ db request hdeed hrequest c =>
    simpa using hdeed.shifts.disposed (s.calls ++ [c]) hs
  | loses tenantId pendingId action checker freshRef reply receipt now haction p hp htype htenant id
      entry hlocked hgone hlost =>
    by_cases hid : id = entryId
    · obtain ⟨ack, hreply, hcode, hfree⟩ := hok haction p hp.row htype (hid ▸ hlocked.about) hgone
      obtain ⟨saved, hsaved⟩ := finishReversal_saves pendingId checker.id receipt now hs.indexed
        hlocked hreply hcode hfree
      exact absurd hsaved (hlost saved)
    · have honce := hs.once
      have havailable := hs.available
      simp only [MoneyDesk.disposals] at honce havailable ⊢
      simpa [hid] using And.intro honce havailable
  | pays n reply receipt now c hc loanId txnId hcall db htxns hdeed =>
    obtain hdeed | hdeed := hdeed
    · simpa using hdeed.shifts.disposed (s.calls.eraseIdx n) hs
    · simpa using hdeed.shifts.disposed (s.calls.eraseIdx n) hs
  | answers n reply receipt now c hc txnId hcall db row hrow hanswered =>
    obtain ⟨⟨status, hmarked⟩, -⟩ := hanswered.stays
    have hlive := hok c hc txnId (by rw [hcall]; rfl) row hrow
    simpa using (hmarked.shifts hlive).disposed (s.calls.eraseIdx n) hs
  | unsaved => exact ⟨hs.once, hs.available⟩
  | stops => exact ⟨hs.once, hs.available⟩

/-- Suspense money leaves at most once: in every run in which what becomes of the refunds
and reversals of an entry is known, it is disposed of at most once in every state. -/
theorem suspense_leaves_once (entryId : ℕ) (start : Db) (es : List MoneyEvent)
    (hindexed : start.indexed = true) (hstart : NothingLeft entryId start)
    (h : AllSteps MoneyDesk.step (Accountable entryId) ⟨start, [], [], []⟩ es) :
    Always MoneyDesk.step (LeavesOnce entryId) ⟨start, [], [], []⟩ es := by
  have hleft : start.left entryId = 0 := by
    rw [left, List.length_eq_zero_iff, List.filter_eq_nil_iff]
    intro t ht hlive
    rw [Bool.and_eq_true, decide_eq_true_eq] at hlive
    exact hlive.2 (hstart t ht hlive.1)
  have hnone : MoneyDesk.disposals ⟨start, [], [], []⟩ entryId = 0 := by
    simp [MoneyDesk.disposals, hleft]
  have hdisposed : Disposed entryId ⟨start, [], [], []⟩ :=
    ⟨by simp, hindexed, by omega, fun _ => hnone⟩
  intro bs hbs
  exact (invariant_always (fun s e hs hok => hs.step e hok) hdisposed h bs hbs).leavesOnce

/-- A refund whose outcome is unknown is resolved as not paid; a reversal is refused, sent
again, and fails after a timeout notice; the money is then allocated. -/
theorem suspense_leaves_once_allocated :
    Always MoneyDesk.step (LeavesOnce 0) ⟨suspenseBook, [], [], []⟩
      [.refund 1 7 0 none none, checkerDecides 0 "approve" .notConfigured 200,
        .answer 0 (.httpStatus 500) "" 210,
        .resolve 1 0 ⟨9, true, [], []⟩ "not_paid" none "Not on the portal" 300,
        .reverse 1 7 0 (some "Wrong paybill"), checkerDecides 1 "approve" (.httpStatus 400) 400,
        checkerDecides 1 "approve" (acknowledged "AG2") 410,
          .reversalTimeout (resultOf "AG2" "1" ""),
        .reversalResult (resultOf "AG2" "2001" "") 500, .allocate 1 7 0 0 false 600] :=
  suspense_leaves_once 0 suspenseBook _ (by decide) (by decide) (by decide)

/-- A reversal times out after it was sent: the request is rolled back, and the entry can be
approved, rejected and sent again. -/
theorem suspense_reversal_lost : suspenseBook.indexed = true ∧ NothingLeft 0 suspenseBook ∧
    ¬ Always MoneyDesk.step (LeavesOnce 0) ⟨suspenseBook, [], [], []⟩
      [.reverse 1 7 0 (some "Wrong paybill"),
        checkerDecides 0 "approve" (.dropped "read timeout") 300] := by
  refine ⟨by decide, by decide, fun h => ?_⟩
  exact absurd h.last (by decide)

end FinylDcp
