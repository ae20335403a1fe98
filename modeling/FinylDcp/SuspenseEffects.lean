import FinylDcp.PayoutEffects
import FinylDcp.ReferenceRows

/-!
# What a suspense step does

Suspense money is held for a request, and leaves by allocation, refund or reversal. Every
step on the way is one of a few deeds on three tables: the transactions that send money
back, the entries, and the requests. Later results go through the deeds and never open
the handlers again.
-/
namespace FinylDcp
open Db Text

/-- A transaction that sends money back. -/
def PaymentTransaction.outgoing (t : PaymentTransaction) : Bool :=
  t.type = .refund || t.type = .reversal

/-- What no step changes of a transaction: what it is, and the entry and the request it
was made for. -/
def PaymentTransaction.purpose (t : PaymentTransaction) : TransactionType × Option ℕ × Option ℕ :=
  (t.type, t.rawPayload.suspenseId, t.rawPayload.pendingId)

theorem outgoing_of_purpose {t t' : PaymentTransaction} (h : t'.purpose = t.purpose) :
    t'.outgoing = t.outgoing := by
  simp only [PaymentTransaction.purpose, Prod.mk.injEq] at h
  simp [PaymentTransaction.outgoing, h]

/-- Requests about an entry. -/
def ActionType.ofSuspense : ActionType → Bool
  | suspenseAllocate | suspenseRefund | suspenseReversal => true
  | _ => false

/-- Money that has not left: waiting for a decision of where to, or on one. -/
def SuspenseStatus.held : SuspenseStatus → Bool
  | .open | pendingApproval => true
  | _ => false

/-- Transactions stay, and nothing happens to those that send money back. -/
structure Elsewhere (before after : List PaymentTransaction) : Prop where
  outgoing : after.filter (·.outgoing) = before.filter (·.outgoing)
  stays : ∀ (i : ℕ) (t : PaymentTransaction), before[i]? = some t →
    ∃ t' ∈ after[i]?, t'.purpose = t.purpose ∧ (t.outgoing = true → t' = t)

theorem Elsewhere.refl (rows : List PaymentTransaction) : Elsewhere rows rows :=
  ⟨rfl, fun _ t ht => ⟨t, ht, rfl, fun _ => rfl⟩⟩

theorem elsewhere_append {before : List PaymentTransaction} {t : PaymentTransaction}
    (h : t.outgoing = false) : Elsewhere before (before ++ [t]) := by
  refine ⟨by simp [h], fun i x hx => ⟨x, ?_, rfl, fun _ => rfl⟩⟩
  show (before ++ [t])[i]? = some x
  rw [List.getElem?_append_left (List.getElem?_eq_some_iff.mp hx).1, hx]

theorem elsewhere_modify {before : List PaymentTransaction} {i : ℕ}
    {f : PaymentTransaction → PaymentTransaction} (hf : ∀ t, (f t).purpose = t.purpose)
    (h : ∀ t, before[i]? = some t → t.outgoing = false) : Elsewhere before (before.modify i f) := by
  refine ⟨?_, fun j t ht => ?_⟩
  · exact Tables.filter_modify_of_not fun t ht => ⟨h t ht, outgoing_of_purpose (hf t) ▸ h t ht⟩
  · rw [List.getElem?_modify, ht]
    by_cases hij : i = j
    · subst hij
      exact ⟨f t, by simp, hf t, fun hout => by simp [h t ht] at hout⟩
    · exact ⟨t, by simp [hij], rfl, fun _ => rfl⟩

/-- Entries stay with their tenants and move as a step moves them; those that come in are
open. -/
structure EntriesMove (moves : ℕ → SuspenseEntry → SuspenseEntry → Prop)
    (before after : List SuspenseEntry) : Prop where
  rows : ∀ (j : ℕ) (e : SuspenseEntry), before[j]? = some e →
    ∃ e' ∈ after[j]?, e'.tenantId = e.tenantId ∧ moves j e e'
  fresh : ∀ (j : ℕ) (e : SuspenseEntry), before[j]? = none → after[j]? = some e → e.status = .open

section EntriesMove

variable {moves : ℕ → SuspenseEntry → SuspenseEntry → Prop} {before : List SuspenseEntry}

theorem entriesMove_refl (h : ∀ j e, moves j e e) : EntriesMove moves before before :=
  ⟨fun j e he => ⟨e, he, rfl, h j e⟩, fun j e hnone he => by simp [hnone] at he⟩

/-- One entry is changed while others come in. -/
theorem entriesMove_modify {entries : List SuspenseEntry}
    {f : SuspenseEntry → SuspenseEntry} {id : ℕ}
    (hlt : id < before.length) (hopen : ∀ e ∈ entries, e.status = .open)
    (hstays : ∀ j e, j ≠ id → moves j e e)
    (hmoves : ∀ e, before[id]? = some e → (f e).tenantId = e.tenantId ∧ moves id e (f e)) :
    EntriesMove moves before ((before ++ entries).modify id f) := by
  refine ⟨fun j e he => ?_, fun j e hnone he => ?_⟩
  · have hold : (before ++ entries)[j]? = some e := by
      rw [List.getElem?_append_left (List.getElem?_eq_some_iff.mp he).1, he]
    rw [List.getElem?_modify, hold]
    by_cases hij : id = j
    · subst hij
      exact ⟨f e, by simp, hmoves e he⟩
    · exact ⟨e, by simp [hij], rfl, hstays j e (Ne.symm hij)⟩
  · have hj := List.getElem?_eq_none_iff.mp hnone
    rw [List.getElem?_modify_ne _ _ (by omega), List.getElem?_append_right hj] at he
    exact hopen e (List.mem_of_getElem? he)

theorem entriesMove_update {f : SuspenseEntry → SuspenseEntry} {id : ℕ}
    (hstays : ∀ j e, j ≠ id → moves j e e)
    (hmoves : ∀ e, (f e).tenantId = e.tenantId ∧ moves id e (f e)) :
    EntriesMove moves before (before.modify id f) := by
  refine ⟨fun j e he => ?_, fun j e hnone he => ?_⟩
  · rw [List.getElem?_modify, he]
    by_cases hij : id = j
    · subst hij
      exact ⟨f e, by simp, hmoves e⟩
    · exact ⟨e, by simp [hij], rfl, hstays j e (Ne.symm hij)⟩
  · rw [List.getElem?_modify, hnone] at he
    cases he

theorem entriesMove_append {entries : List SuspenseEntry} (hopen : ∀ e ∈ entries, e.status = .open)
    (h : ∀ j e, moves j e e) : EntriesMove moves before (before ++ entries) := by
  refine ⟨fun j e he => ⟨e, ?_, rfl, h j e⟩, fun j e hnone he => ?_⟩
  · show (before ++ entries)[j]? = some e
    rw [List.getElem?_append_left (List.getElem?_eq_some_iff.mp he).1, he]
  · rw [List.getElem?_append_right (List.getElem?_eq_none_iff.mp hnone)] at he
    exact hopen e (List.mem_of_getElem? he)

end EntriesMove

/-- An entry of some status becomes one of another, the rest stay as they are. -/
def Becomes (id : ℕ) (p : SuspenseStatus → Prop) (j : ℕ) (e e' : SuspenseEntry) : Prop :=
  if j = id then p e'.status else e' = e

theorem becomes_self {id : ℕ} {p : SuspenseStatus → Prop} {e e' : SuspenseEntry} (h : p e'.status) :
    Becomes id p id e e' :=
  (if_pos rfl).mpr h

theorem becomes_other {id j : ℕ} (p : SuspenseStatus → Prop) (e : SuspenseEntry) (h : j ≠ id) :
    Becomes id p j e e :=
  (if_neg h).mpr rfl

/-- What the marking of a transaction may do to an entry: only that of the transaction moves,
closed, or open again when the transaction failed. -/
def Follows (row : PaymentTransaction) (status : TransactionStatus) (j : ℕ) (e e' : SuspenseEntry) :
    Prop :=
  e' = e ∨ (row.rawPayload.suspenseId = some j ∧
    (e'.status = .refunded ∨ e'.status = .reversed ∨ (e'.status = .open ∧ status = .failed)))

/-- A change that gives a transaction a status and leaves what it is for. -/
def Settles (status : TransactionStatus) (f : PaymentTransaction → PaymentTransaction) : Prop :=
  ∀ t, (f t).purpose = t.purpose ∧ (f t).status = status

/-- A transaction that sends money back is marked, and its entry follows. -/
structure Marked (db db' : Db) (txnId : ℕ) (row : PaymentTransaction) (status : TransactionStatus) :
    Prop where
  found : db.transactions[txnId]? = some row
  outgoing : row.outgoing = true
  txns : ∃ f, db'.transactions = db.transactions.modify txnId f ∧ Settles status f
  suspense : EntriesMove (Follows row status) db.suspense db'.suspense

/-- A request is about an entry that is held, for it or for another request. -/
structure Locked (db : Db) (p : PendingApproval) (id : ℕ) (entry : SuspenseEntry) : Prop where
  about : p.details.suspenseId = some id
  row : db.suspense[id]? = some entry
  tenant : entry.tenantId = p.tenantId
  held : entry.status = .pendingApproval

/-- A request that can be decided. -/
structure Waiting (db : Db) (pendingId : ℕ) (p : PendingApproval) : Prop where
  row : db.pending[pendingId]? = some p
  waits : p.status = .pendingApproval

/-- What a step does to suspense money, with the request it decides and the entry it
allocates. -/
inductive Deed (db db' : Db) : Option ℕ → Option ℕ → Prop
  | aside (htxns : Elsewhere db.transactions db'.transactions)
      (hsuspense : EntriesMove (fun _ e e' => e' = e) db.suspense db'.suspense)
      (hpending : db'.pending = db.pending) : Deed db db' none none
  | asks (p : PendingApproval) (hwaits : p.status = .pendingApproval)
      (habout : p.details.suspenseId = none) (htxns : db'.transactions = db.transactions)
      (hsuspense : db'.suspense = db.suspense) (hpending : db'.pending = db.pending ++ [p]) :
      Deed db db' none none
  | parks (id : ℕ) (entry : SuspenseEntry) (p : PendingApproval)
      (hentry : db.suspense[id]? = some entry) (hopen : entry.status = .open)
      (habout : p.details.suspenseId = some id) (htenant : entry.tenantId = p.tenantId)
      (htype : p.actionType.ofSuspense = true) (hwaits : p.status = .pendingApproval)
      (htxns : db'.transactions = db.transactions)
      (hsuspense : EntriesMove (Becomes id (· = .pendingApproval)) db.suspense db'.suspense)
      (hpending : db'.pending = db.pending ++ [p]) : Deed db db' none none
  | allocates (id : ℕ) (entry : SuspenseEntry) (hentry : db.suspense[id]? = some entry)
      (hopen : entry.status = .open) (htxns : db'.transactions = db.transactions)
      (hsuspense : EntriesMove (Becomes id (· = .allocated)) db.suspense db'.suspense)
      (hpending : db'.pending = db.pending) : Deed db db' none (some id)
  | rejects (pendingId : ℕ) (p : PendingApproval) (hp : Waiting db pendingId p) (checkerId : ℕ)
      (htxns : db'.transactions = db.transactions)
      (hsuspense : EntriesMove (fun j e e' => if p.actionType.ofSuspense = true ∧
        p.details.suspenseId = some j ∧ e.tenantId = p.tenantId ∧ e.status = .pendingApproval
        then e'.status = .open else e' = e) db.suspense db'.suspense)
      (hpending : db'.pending = (decided db pendingId .rejected checkerId).pending) :
      Deed db db' (some pendingId) none
  | approves (pendingId : ℕ) (p : PendingApproval) (hp : db.pending[pendingId]? = some p)
      (htype : p.actionType.ofSuspense = false) (checkerId : ℕ)
      (htxns : Elsewhere db.transactions db'.transactions)
      (hsuspense : EntriesMove (fun _ e e' => e' = e) db.suspense db'.suspense)
      (hpending : db'.pending = (decided db pendingId .approved checkerId).pending) :
      Deed db db' (some pendingId) none
  | approvesAllocation (pendingId : ℕ) (p : PendingApproval) (hp : Waiting db pendingId p) (id : ℕ)
      (entry : SuspenseEntry) (hlocked : Locked db p id entry) (checkerId : ℕ)
      (htxns : db'.transactions = db.transactions)
      (hsuspense : EntriesMove (Becomes id (· = .allocated)) db.suspense db'.suspense)
      (hpending : db'.pending = (decided db pendingId .approved checkerId).pending) :
      Deed db db' (some pendingId) (some id)
  | sends (pendingId : ℕ) (p : PendingApproval) (hp : Waiting db pendingId p) (source : Option ℕ)
      (hsource : ∀ id ∈ source, ∃ entry, Locked db p id entry)
      (hnone : source = none → p.actionType.ofSuspense = false)
      (t : PaymentTransaction) (hout : t.outgoing = true) (hlive : t.status ≠ .failed)
      (hfrom : t.rawPayload.suspenseId = source) (hfor : t.rawPayload.pendingId = some pendingId)
      (htxns : db'.transactions = db.transactions ++ [t])
      (hsuspense : EntriesMove
        (fun j e e' => if source = some j then e'.status.held = false else e' = e)
        db.suspense db'.suspense)
      (isDecided : Bool) (checkerId : ℕ)
      (hpending : db'.pending =
        if isDecided then (decided db pendingId .approved checkerId).pending else db.pending) :
      Deed db db' (some pendingId) none
  | marks (txnId : ℕ) (row : PaymentTransaction) (status : TransactionStatus)
      (hmarked : Marked db db' txnId row status) (hlive : row.status ≠ .failed)
      (hpending : db'.pending = db.pending) : Deed db db' none none

theorem Deed.refl (db : Db) : Deed db db none none :=
  .aside (.refl _) (entriesMove_refl fun _ _ => rfl) rfl

/-- Transactions keep what they are for. -/
theorem Marked.stays {db db' : Db} {txnId : ℕ} {row : PaymentTransaction}
    {status : TransactionStatus}
    (h : Marked db db' txnId row status) {i : ℕ} {t : PaymentTransaction}
    (ht : db.transactions[i]? = some t) : ∃ t' ∈ db'.transactions[i]?, t'.purpose = t.purpose := by
  obtain ⟨f, htxns, hset⟩ := h.txns
  rw [htxns, List.getElem?_modify, ht]
  by_cases hi : txnId = i
  · exact ⟨f t, by simp [hi], (hset t).1⟩
  · exact ⟨t, by simp [hi], rfl⟩

theorem Deed.stays {db db' : Db} {request allocated : Option ℕ} (h : Deed db db' request allocated)
    {i : ℕ} {t : PaymentTransaction} (ht : db.transactions[i]? = some t) :
    ∃ t' ∈ db'.transactions[i]?, t'.purpose = t.purpose := by
  have hsame : db'.transactions = db.transactions →
      ∃ t' ∈ db'.transactions[i]?, t'.purpose = t.purpose := fun heq => ⟨t, heq ▸ ht, rfl⟩
  cases h with
  | aside htxns => exact (htxns.stays i t ht).imp fun t' h => ⟨h.1, h.2.1⟩
  | asks _ _ _ htxns => exact hsame htxns
  | parks _ _ _ _ _ _ _ _ _ htxns => exact hsame htxns
  | allocates _ _ _ _ htxns => exact hsame htxns
  | rejects _ _ _ _ htxns => exact hsame htxns
  | approves _ _ _ _ _ htxns => exact (htxns.stays i t ht).imp fun t' h => ⟨h.1, h.2.1⟩
  | approvesAllocation _ _ _ _ _ _ _ htxns => exact hsame htxns
  | sends pendingId p hp source hsource hnone t' hout hlive hfrom hfor htxns =>
    refine ⟨t, ?_, rfl⟩
    rw [htxns]
    show (db.transactions ++ [t'])[i]? = some t
    rw [List.getElem?_append_left (List.getElem?_eq_some_iff.mp ht).1, ht]
  | marks _ _ _ hmarked => exact hmarked.stays ht

/-- The same request later: it is about what it was about, and stays decided. -/
def PendingApproval.Continues (p p' : PendingApproval) : Prop :=
  p'.actionType = p.actionType ∧ p'.details = p.details ∧ p'.tenantId = p.tenantId ∧
    (p'.status = p.status ∨ p'.status ≠ .pendingApproval)

theorem Deed.requests_stay {db db' : Db} {request allocated : Option ℕ}
    (h : Deed db db' request allocated) {i : ℕ} {p : PendingApproval}
    (hp : db.pending[i]? = some p) :
    ∃ p' ∈ db'.pending[i]?, p.Continues p' := by
  have hsame : db'.pending = db.pending → ∃ p' ∈ db'.pending[i]?, p.Continues p' :=
    fun heq => ⟨p, heq ▸ hp, rfl, rfl, rfl, .inl rfl⟩
  have hgrows : ∀ new : PendingApproval, db'.pending = db.pending ++ [new] →
      ∃ p' ∈ db'.pending[i]?, p.Continues p' := by
    intro new heq
    refine ⟨p, ?_, rfl, rfl, rfl, .inl rfl⟩
    rw [heq]
    show (db.pending ++ [new])[i]? = some p
    rw [List.getElem?_append_left (List.getElem?_eq_some_iff.mp hp).1, hp]
  have hdecided : ∀ (pendingId : ℕ) (status : ApprovalStatus) (checkerId : ℕ),
      status ≠ .pendingApproval → db'.pending = (decided db pendingId status checkerId).pending →
      ∃ p' ∈ db'.pending[i]?, p.Continues p' := by
    intro pendingId status checkerId hstatus heq
    rw [heq, decided, List.getElem?_modify, hp]
    by_cases hi : pendingId = i
    · exact ⟨{ p with status := status, checkerUserId := some checkerId }, by simp [hi], rfl,
        rfl, rfl,
        .inr hstatus⟩
    · exact ⟨p, by simp [hi], rfl, rfl, rfl, .inl rfl⟩
  cases h with
  | aside _ _ hpending => exact hsame hpending
  | asks p' _ _ _ _ hpending => exact hgrows p' hpending
  | parks _ _ p' _ _ _ _ _ _ _ _ hpending => exact hgrows p' hpending
  | allocates _ _ _ _ _ _ hpending => exact hsame hpending
  | rejects pendingId _ _ checkerId _ _ hpending =>
    exact hdecided pendingId .rejected checkerId (by simp) hpending
  | approves pendingId _ _ _ checkerId _ _ hpending =>
    exact hdecided pendingId .approved checkerId (by simp) hpending
  | approvesAllocation pendingId _ _ _ _ _ checkerId _ _ hpending =>
    exact hdecided pendingId .approved checkerId (by simp) hpending
  | sends pendingId _ _ _ _ _ _ _ _ _ _ _ _ isDecided checkerId hpending =>
    cases isDecided
    · exact hsame hpending
    · exact hdecided pendingId .approved checkerId (by simp) hpending
  | marks _ _ _ _ _ hpending => exact hsame hpending

/-- A payment adds open entries, and leaves the transactions and the requests alone. -/
theorem payLoan_grows {db : Db} {loanId : ℕ} {loan : Loan} {p : Payment} {out : Db × ApplyResult}
    (h : payLoan db loanId loan p = .ok out) : out.1.transactions = db.transactions ∧
    out.1.pending = db.pending ∧ ∃ entries, out.1.suspense = db.suspense ++ entries ∧
      ∀ e ∈ entries, e.status = .open := by
  obtain ⟨htxns, hpending, ⟨-, -, hsuspense, -⟩ | ⟨-, -, -, hsuspense, -⟩ |
    ⟨-, -, -, hsuspense, -⟩⟩ :=
    payLoan_rows h
  · exact ⟨htxns, hpending, [], by simp [hsuspense], by simp⟩
  · refine ⟨htxns, hpending, ?_⟩
    rw [hsuspense]
    by_cases hfree : suspenseWithRef db.suspense (closedLoanReceipt loanId p).tenantId
        (closedLoanReceipt loanId p).ref = none
    · exact ⟨_, park_new hfree, by simp [Receipt.entry]⟩
    · exact ⟨[], by rw [park_known hfree, List.append_nil], by simp⟩
  · obtain ⟨excess, refund, hrows, hover, hrefund⟩ :=
      parkRest_rows db.suspense loanId p (divisionOf db loanId loan p)
    refine ⟨htxns, hpending, excess ++ refund, by rw [hsuspense, hrows, List.append_assoc],
      fun e he => ?_⟩
    obtain hmem | hmem := List.mem_append.mp he
    · obtain rfl | ⟨-, rfl⟩ := hover
      · cases hmem
      · obtain rfl := List.mem_singleton.mp hmem
        rfl
    · obtain rfl | rfl := hrefund
      · cases hmem
      · obtain rfl := List.mem_singleton.mp hmem
        rfl

theorem recordSuspense_grows (db : Db) (x : Receipt) (now : ℤ) :
    ∃ entries, (recordSuspense db x now).1 = { db with suspense := db.suspense ++ entries } ∧
      ∀ e ∈ entries, e.status = .open := by
  by_cases hfree : suspenseWithRef db.suspense x.tenantId x.ref = none
  · exact ⟨_, by rw [recordSuspense, park_new hfree], by simp [Receipt.entry]⟩
  · exact ⟨[], by rw [recordSuspense, park_known hfree, List.append_nil], by simp⟩

/-- Money moved out of suspense closes its entry. -/
theorem allocateEntry_eq_ok {db : Db} {tenantId entryId : ℕ} {entry : SuspenseEntry} {loanId : ℕ}
    {loan : Loan} {resolverUserId : ℕ} {now : ℤ} {out : Db × ApplyResult}
    (hentry : db.suspense[entryId]? = some entry)
    (h : allocateEntry db tenantId entryId entry loanId loan resolverUserId now = .ok out) :
    out.1.transactions = db.transactions ∧ out.1.pending = db.pending ∧
      EntriesMove (Becomes entryId (· = .allocated)) db.suspense out.1.suspense := by
  simp only [allocateEntry] at h
  split at h
  · cases h
  obtain ⟨paid, hpaid, rfl⟩ := map_eq_ok.mp h
  obtain ⟨htxns, hpending, entries, hsuspense, hopen⟩ := payLoan_grows hpaid
  refine ⟨htxns, hpending, ?_⟩
  show EntriesMove _ db.suspense (paid.1.suspense.modify entryId _)
  rw [hsuspense]
  exact entriesMove_modify (List.getElem?_eq_some_iff.mp hentry).1 hopen
    (fun j e hj => becomes_other _ e hj) fun e _ => ⟨rfl, becomes_self rfl⟩

/-- A request about an open entry is put in the inbox, and the entry is held. -/
theorem parkSuspense_deed {db : Db} {entryId : ℕ} {entry : SuspenseEntry} {p : PendingApproval}
    (hentry : db.suspense[entryId]? = some entry) (hopen : entry.status = .open)
    (habout : p.details.suspenseId = some entryId) (htenant : entry.tenantId = p.tenantId)
    (htype : p.actionType.ofSuspense = true) (hwaits : p.status = .pendingApproval) :
    Deed db (parkSuspense db entryId p).1 none none := by
  refine .parks entryId entry p hentry hopen habout htenant htype hwaits rfl ?_ rfl
  exact entriesMove_update (fun j e hj => becomes_other _ e hj) fun e => ⟨rfl, becomes_self rfl⟩

/-- An allocation asked for is parked, or made at once when no second person is needed. -/
theorem allocateSuspense_deed {db : Db} {tenantId makerId entryId loanId : ℕ} {needsChecker : Bool}
    {now : ℤ} {out : Db × Reply}
    (h : allocateSuspense db tenantId makerId entryId loanId needsChecker now = .ok out) :
    Deed db out.1 none (match out.2 with
      | .payment _ _ => some entryId
      | _ => none) := by
  obtain ⟨found, hfound, h⟩ := bind_eq_ok.mp h
  split at h
  · cases h
    exact .refl db
  rename_i entry
  obtain ⟨hentry, htenant, hopen⟩ := openEntry_eq_some hfound
  obtain ⟨-, -, h⟩ := bind_eq_ok.mp h
  split at h
  · cases h
  obtain ⟨-, -, h⟩ := bind_eq_ok.mp h
  split at h
  · obtain ⟨-, rfl⟩ := commitWith_eq_ok.mp h
    exact parkSuspense_deed hentry hopen rfl htenant rfl rfl
  · obtain ⟨paid, hpaid, h⟩ := bind_eq_ok.mp h
    obtain ⟨-, rfl⟩ := commitWith_eq_ok.mp h
    obtain ⟨htxns, hpending, hsuspense⟩ := allocateEntry_eq_ok hentry hpaid
    exact .allocates entryId entry hentry hopen htxns hsuspense hpending

theorem refundSuspense_deed {db saved : Db} {tenantId makerId entryId : ℕ}
    {phone note : Option String}
    (h : refundSuspense db tenantId makerId entryId phone note = .ok saved) :
    Deed db saved none none := by
  obtain ⟨found, hfound, h⟩ := bind_eq_ok.mp h
  split at h
  · cases h
    exact .refl db
  rename_i entry
  obtain ⟨hentry, htenant, hopen⟩ := openEntry_eq_some hfound
  obtain ⟨out, hout, h⟩ := bind_eq_ok.mp h
  obtain ⟨-, rfl⟩ := Db.commit_eq_ok.mp h
  obtain ⟨number, -, hout⟩ := bind_eq_ok.mp hout
  obtain ⟨-, -, hout⟩ := bind_eq_ok.mp hout
  cases hout
  exact parkSuspense_deed hentry hopen rfl htenant rfl rfl

theorem reverseSuspense_deed {db saved : Db} {tenantId makerId entryId : ℕ} {note : Option String}
    (h : reverseSuspense db tenantId makerId entryId note = .ok saved) :
    Deed db saved none none := by
  obtain ⟨found, hfound, h⟩ := bind_eq_ok.mp h
  split at h
  · cases h
    exact .refl db
  rename_i entry
  obtain ⟨hentry, htenant, hopen⟩ := openEntry_eq_some hfound
  obtain ⟨out, hout, h⟩ := bind_eq_ok.mp h
  obtain ⟨-, rfl⟩ := Db.commit_eq_ok.mp h
  simp only [parkSuspenseReversal] at hout
  split at hout
  · cases hout
  split at hout
  · cases hout
  cases hout
  exact parkSuspense_deed hentry hopen rfl htenant rfl rfl

/-- A refund of a loan's overpayment is asked for. -/
theorem refundPayment_deed {db saved : Db} {tenantId makerId loanId : ℕ} {phone : Option String}
    {amount : Option ℤ} {reason : Option String}
    (h : refundPayment db tenantId makerId loanId phone amount reason = .ok saved) :
    Deed db saved none none := by
  simp only [refundPayment] at h
  split at h
  · cases h
  split at h
  · cases h
  split at h
  · cases h
  split at h
  · cases h
  split at h
  · cases h
  split at h
  · cases h
  obtain ⟨-, rfl⟩ := Db.commit_eq_ok.mp h
  exact .asks _ rfl rfl rfl rfl rfl

/-- The entry of a failed refund is open again, if it still waited for the refund. -/
theorem reopenRefundSource_entries (db : Db) (tenantId : ℕ) {txn row : PaymentTransaction}
    (hsource : txn.rawPayload.suspenseId = row.rawPayload.suspenseId) :
    (reopenRefundSource db tenantId txn).transactions = db.transactions ∧
    (reopenRefundSource db tenantId txn).pending = db.pending ∧
    EntriesMove (Follows row .failed) db.suspense
      (reopenRefundSource db tenantId txn).suspense := by
  simp only [reopenRefundSource]
  split
  · exact ⟨rfl, rfl, entriesMove_refl fun _ _ => .inl rfl⟩
  · rename_i sid hsid
    refine ⟨rfl, rfl, entriesMove_update (fun j e _ => .inl rfl) fun e => ?_⟩
    split
    · exact ⟨rfl, .inr ⟨by rw [← hsource, hsid], .inr (.inr ⟨rfl, rfl⟩)⟩⟩
    · exact ⟨rfl, .inl rfl⟩

/-- The result of a refund marks its transaction, and the entry follows. -/
theorem applyRefundResult_marked {db : Db} {txnId : ℕ} {txn row : PaymentTransaction}
    (tenantId : ℕ) (resultCode : String) (receipt : Option String) (now : ℤ)
    (hrow : db.transactions[txnId]? = some row) (hpurpose : txn.purpose = row.purpose)
    (htype : txn.type = .refund) (hsettleable : txn.status.settleable = true) :
    Marked db (applyRefundResult db tenantId txnId txn resultCode receipt now).1 txnId row
        (payoutOutcome resultCode) ∧
      (applyRefundResult db tenantId txnId txn resultCode receipt now).1.pending = db.pending := by
  simp only [PaymentTransaction.purpose, Prod.mk.injEq] at hpurpose
  have hout : row.outgoing = true := by simp [PaymentTransaction.outgoing, ← hpurpose.1, htype]
  simp only [applyRefundResult, hsettleable, Bool.not_true, Bool.false_eq_true, if_false,
    payoutOutcome]
  split
  · cases hsid : txn.rawPayload.suspenseId with
    | none =>
      exact ⟨⟨hrow, hout, ⟨_, rfl, fun t => ⟨rfl, rfl⟩⟩, entriesMove_refl fun _ _ => .inl rfl⟩, rfl⟩
    | some sid =>
      refine ⟨⟨hrow, hout, ⟨_, rfl, fun t => ⟨rfl, rfl⟩⟩, ?_⟩, rfl⟩
      refine entriesMove_update (fun j e _ => .inl rfl) fun e => ?_
      split
      · exact ⟨rfl, .inr ⟨by rw [← hpurpose.2.1, hsid], .inl rfl⟩⟩
      · exact ⟨rfl, .inl rfl⟩
  · obtain ⟨htxns, hpending, hentries⟩ := reopenRefundSource_entries
      (db.updateTransaction txnId (fun t => { t with status := .failed })) tenantId hpurpose.2.1
    exact ⟨⟨hrow, hout, ⟨_, htxns, fun t => ⟨rfl, rfl⟩⟩, hentries⟩, hpending⟩

/-- The result of a payout is nothing to suspense money. -/
theorem settlePayout_deed {db : Db} {tenantId txnId : ℕ} {txn : PaymentTransaction}
    {held : Option (ℕ × Loan)} {resultCode : String} {receipt : Option String} {now : ℤ}
    {out : Db × ResultReply} (hother : ∀ t, db.transactions[txnId]? = some t → t.outgoing = false)
    (h : settlePayout db tenantId txnId txn held resultCode receipt now = .ok out) :
    Deed db out.1 none none := by
  have hmarked : ∀ (db' : Db) (f : PaymentTransaction → PaymentTransaction),
      db'.transactions = db.transactions.modify txnId f → (∀ t, (f t).purpose = t.purpose) →
      db'.suspense = db.suspense → db'.pending = db.pending → Deed db db' none none := by
    intro db' f htxns hf hsuspense hpending
    exact .aside (htxns ▸ elsewhere_modify hf hother)
      (hsuspense ▸ entriesMove_refl fun _ _ => rfl) hpending
  simp only [settlePayout] at h
  split at h
  · cases h
    exact .refl db
  split at h
  · split at h
    · split at h
      · split at h
        · cases h
          exact hmarked _ _ rfl (fun t => rfl) rfl rfl
        · cases h
      · cases h
        exact hmarked _ _ rfl (fun t => rfl) rfl rfl
    · cases h
      exact hmarked _ _ rfl (fun t => rfl) rfl rfl
  · split at h
    · split at h
      · cases h
        exact hmarked _ _ rfl (fun t => rfl) rfl rfl
      · cases h
        exact hmarked _ _ rfl (fun t => rfl) rfl rfl
    · cases h
      exact hmarked _ _ rfl (fun t => rfl) rfl rfl

/-- A result of a payout or refund, from Safaricom or from a person. -/
theorem applyB2cResult_deed {db : Db} {tenantId txnId : ℕ} {txn row : PaymentTransaction}
    {resultCode : String} {receipt : Option String} {now : ℤ} {out : Db × ResultReply}
    (hrow : db.transactions[txnId]? = some row) (hpurpose : txn.purpose = row.purpose)
    (htype : txn.type = .b2c ∨ txn.type = .refund)
    (hlive : txn.status.settleable = true → row.status ≠ .failed)
    (h : applyB2cResult db tenantId txnId txn resultCode receipt now = .ok out) :
    Deed db out.1 none none := by
  simp only [applyB2cResult] at h
  split at h
  · rename_i hrefund
    cases h
    by_cases hsettleable : txn.status.settleable = true
    · obtain ⟨hmarked, hpending⟩ :=
        applyRefundResult_marked tenantId resultCode receipt now hrow hpurpose hrefund hsettleable
      exact .marks txnId row _ hmarked (hlive hsettleable) hpending
    · simp only [applyRefundResult, hsettleable, Bool.not_false, if_true]
      exact .refl db
  · rename_i hrefund
    refine settlePayout_deed (fun t ht => ?_) h
    obtain rfl := Option.some.inj (ht.symm.trans hrow)
    simp only [PaymentTransaction.purpose, Prod.mk.injEq] at hpurpose
    simp [PaymentTransaction.outgoing, ← hpurpose.1, htype.resolve_right hrefund]

theorem ne_failed_of_settleable {s : TransactionStatus} (h : s.settleable = true) :
    s ≠ .failed := by
  rintro rfl
  cases h

theorem ne_failed_of_openPayout {s : TransactionStatus} (h : s.openPayout = true) :
    s ≠ .failed := by
  rintro rfl
  cases h

theorem processB2cResult_deed {db saved : Db} {body : ResultBody} {now : ℤ}
    (h : processB2cResult db body now = .ok saved) : Deed db saved none none := by
  simp only [processB2cResult] at h
  split at h
  · cases h
  rename_i txnId txn hfound
  obtain ⟨hrow, htype⟩ := findB2cTxn_eq_some hfound
  obtain ⟨out, hout, hcommit⟩ := bind_eq_ok.mp h
  obtain ⟨-, rfl⟩ := Db.commit_eq_ok.mp hcommit
  exact applyB2cResult_deed hrow rfl htype ne_failed_of_settleable hout

theorem resolvePayoutRequest_deed {db saved : Db} {tenantId txnId : ℕ} {checker : Checker}
    {outcome note : String} {receipt : Option String} {now : ℤ}
    (h : resolvePayoutRequest db tenantId txnId checker outcome receipt note now = .ok saved) :
    Deed db saved none none := by
  obtain ⟨txn, said, reply, hrow, -, htype, hsaid, happlied⟩ := resolvePayoutRequest_eq_ok h
  obtain ⟨hopen, hkind, hpayload, -⟩ := payoutResolution_eq_ok hsaid
  simp only [PaymentTransaction.kind, Prod.mk.injEq] at hkind
  refine applyB2cResult_deed hrow ?_ (hkind.2.1 ▸ htype)
    (fun _ => ne_failed_of_openPayout hopen) happlied
  simp only [PaymentTransaction.purpose, hkind.2.1, hpayload]

/-- A timeout notice marks its transaction, whatever it is. -/
theorem timedOut_deed {db : Db} {txnId : ℕ} {txn : PaymentTransaction}
    (hrow : db.transactions[txnId]? = some txn) (hlive : txn.status ≠ .failed) :
    Deed db (db.updateTransaction txnId (fun t => { t with status := .timedOut })) none none := by
  by_cases hout : txn.outgoing = true
  · exact .marks txnId txn .timedOut ⟨hrow, hout, ⟨_, rfl, fun t => ⟨rfl, rfl⟩⟩,
      entriesMove_refl fun _ _ => .inl rfl⟩ hlive rfl
  · refine .aside (elsewhere_modify (fun t => rfl) fun t ht => ?_)
      (entriesMove_refl fun _ _ => rfl) rfl
    obtain rfl := Option.some.inj (ht.symm.trans hrow)
    simpa using hout

theorem processB2cTimeout_deed {db saved : Db} {body : ResultBody}
    (h : processB2cTimeout db body = .ok saved) : Deed db saved none none := by
  simp only [processB2cTimeout] at h
  split at h
  · cases h
  rename_i txnId txn hfound
  obtain ⟨-, rfl⟩ := Db.commit_eq_ok.mp h
  simp only [markB2cTimeout]
  split
  · exact .refl db
  · rename_i hprocessing
    refine timedOut_deed (findB2cTxn_eq_some hfound).1 ?_
    rw [not_not.mp hprocessing]
    simp

theorem findReversalTxn_eq_some {db : Db} {conversationId originatorId : Option String} {txnId : ℕ}
    {txn : PaymentTransaction}
    (h : findReversalTxn db conversationId originatorId = some (txnId, txn)) :
    db.transactions[txnId]? = some txn ∧ txn.type = .reversal := by
  have hreversals : ∀ x ∈ db.transactions.zipIdx.filter (fun x => x.1.type = .reversal),
      db.transactions[x.2]? = some x.1 ∧ x.1.type = .reversal := by
    intro x hx
    obtain ⟨hmem, htype⟩ := List.mem_filter.mp hx
    exact ⟨List.mem_zipIdx_iff_getElem?.mp hmem, by simpa using htype⟩
  simp only [findReversalTxn, Option.map_eq_some_iff] at h
  obtain ⟨x, hx, hpair⟩ := h
  obtain ⟨rfl, rfl⟩ := Prod.mk.inj hpair
  rw [Option.orElse_eq_orElse, Option.orElse_eq_or, Option.or_eq_some_iff] at hx
  obtain hx | ⟨-, hx⟩ := hx
  · obtain ⟨c, -, hfound⟩ := Option.bind_eq_some_iff.mp hx
    exact hreversals x (List.mem_of_find?_eq_some hfound)
  · obtain ⟨o, -, hfound⟩ := Option.bind_eq_some_iff.mp hx
    exact hreversals x (List.mem_of_find?_eq_some hfound)

theorem processReversalTimeout_deed {db saved : Db} {body : ResultBody}
    (h : processReversalTimeout db body = .ok saved) : Deed db saved none none := by
  simp only [processReversalTimeout] at h
  split at h
  · cases h
  rename_i txnId txn hfound
  obtain ⟨-, rfl⟩ := Db.commit_eq_ok.mp h
  simp only [markReversalTimeout]
  split
  · exact .refl db
  · rename_i hprocessing
    refine timedOut_deed (findReversalTxn_eq_some hfound).1 ?_
    rw [not_not.mp hprocessing]
    simp

/-- The result of a reversal marks its transaction, and the entry is closed or open again. -/
theorem applyReversalResult_deed {db : Db} {txnId : ℕ} {txn : PaymentTransaction} (tenantId : ℕ)
    (resultCode : String) (now : ℤ) (hrow : db.transactions[txnId]? = some txn)
    (htype : txn.type = .reversal) :
    Deed db (applyReversalResult db tenantId txnId txn resultCode now) none none := by
  have hout : txn.outgoing = true := by simp [PaymentTransaction.outgoing, htype]
  simp only [applyReversalResult]
  split
  · exact .refl db
  rename_i hstatus
  have hlive : txn.status ≠ .failed := by
    intro hfailed
    simp [hfailed] at hstatus
  generalize houtcome :
    (if resultCode = "0" || resultCode = "R000001" then TransactionStatus.success
    else .failed) = outcome
  split
  · exact .marks txnId txn outcome ⟨hrow, hout, ⟨_, rfl, fun t => ⟨rfl, rfl⟩⟩,
      entriesMove_refl fun _ _ => .inl rfl⟩ hlive rfl
  · rename_i sid hsid
    refine .marks txnId txn outcome ⟨hrow, hout, ⟨_, rfl, fun t => ⟨rfl, rfl⟩⟩, ?_⟩ hlive rfl
    refine entriesMove_update (fun j e _ => .inl rfl) fun e => ?_
    split
    · exact ⟨rfl, .inl rfl⟩
    split
    · exact ⟨rfl, .inr ⟨hsid, .inr (.inl rfl)⟩⟩
    · rename_i hfailed
      have : outcome = .failed := by
        rw [← houtcome] at hfailed ⊢
        split_ifs at hfailed ⊢
        · exact absurd rfl hfailed
        · rfl
      exact ⟨rfl, .inr ⟨hsid, .inr (.inr ⟨rfl, this⟩)⟩⟩

theorem processReversalResult_deed {db saved : Db} {body : ResultBody} {now : ℤ}
    (h : processReversalResult db body now = .ok saved) : Deed db saved none none := by
  simp only [processReversalResult] at h
  split at h
  · cases h
  rename_i txnId txn hfound
  obtain ⟨-, rfl⟩ := Db.commit_eq_ok.mp h
  obtain ⟨hrow, htype⟩ := findReversalTxn_eq_some hfound
  exact applyReversalResult_deed _ _ _ hrow htype

end FinylDcp
