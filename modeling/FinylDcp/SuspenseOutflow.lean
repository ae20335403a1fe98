import FinylDcp.LedgerBalance

/-!
# Money paid back out of suspense

A refund is sent in whole shillings and a reversal takes back what came in. Where no answer or
result comes for an entry that is disposed of already, what was sent back is what the refunded
and the reversed entries tell.
-/
namespace FinylDcp
open Tables

/-- A transaction for a suspense entry is of its tenant and pays back what was parked; there is
no reversal but of an entry. -/
structure PaymentTransaction.Sourced (db : Db) (t : PaymentTransaction) : Prop where
  refund : t.type = .refund → ∀ id ∈ t.rawPayload.suspenseId, ∃ e, db.suspense[id]? = some e ∧
    e.tenantId = t.tenantId ∧ t.amount = ceilShillings e.amount
  reversal : t.type = .reversal → ∃ id e, t.rawPayload.suspenseId = some id ∧
    db.suspense[id]? = some e ∧ e.tenantId = t.tenantId ∧ t.amount = e.amount

/-- The transaction paid money back out of suspense. -/
def PaymentTransaction.paidBack (t : PaymentTransaction) : Bool :=
  t.fromSuspense && t.status = .success

/-- What a transaction paid back out of the suspense of a tenant. -/
def sentBack (tenantId : ℕ) (t : PaymentTransaction) : ℤ :=
  if t.tenantId = tenantId ∧ t.paidBack then t.amount else 0

/-- What was paid back for an entry, as its status tells. -/
def SuspenseEntry.returned (e : SuspenseEntry) : ℤ :=
  match e.status with
  | .refunded => ceilShillings e.amount
  | .reversed => e.amount
  | _ => 0

def returnedBy (tenantId : ℕ) (e : SuspenseEntry) : ℤ :=
  if e.tenantId = tenantId then e.returned else 0

/-- Books whose suspense accounts for what was paid back out of it. -/
structure Db.Returned (db : Db) : Prop where
  backed : ∀ p ∈ db.pending, p.Backed db
  sourced : ∀ t ∈ db.transactions, t.Sourced db
  disposed : ∀ t ∈ db.transactions, t.paidBack = true → ∀ id ∈ t.rawPayload.suspenseId,
    db.entryResolved id = true
  sent : ∀ (id : ℕ) (e : SuspenseEntry), db.suspense[id]? = some e → e.status = .refunded →
    ∃ t ∈ db.transactions, t.tenantId = e.tenantId ∧ t.type = .refund ∧ t.status = .success ∧
      t.rawPayload.suspenseId = some id
  dated : ∀ e ∈ db.suspense, e.status.resolved = true → e.resolvedAt.isSome = true
  balanced : ∀ tenantId, (db.transactions.map (sentBack tenantId)).sum =
    (db.suspense.map (returnedBy tenantId)).sum

theorem timed_eq_late {late : Bool} (h : Flow.timed late ≠ .late) : late = false := by
  cases late with
  | false => rfl
  | true => exact absurd rfl h

theorem returned_of_unresolved {e : SuspenseEntry} (h : e.status.resolved = false) :
    e.returned = 0 := by
  cases hstatus : e.status <;> simp [hstatus, SuspenseStatus.resolved] at h <;>
    simp [SuspenseEntry.returned, hstatus]

theorem returnedBy_of_unresolved (tenantId : ℕ) {e : SuspenseEntry}
    (h : e.status.resolved = false) : returnedBy tenantId e = 0 := by
  rw [returnedBy, returned_of_unresolved h, ite_self]

theorem sentBack_of_not (tenantId : ℕ) {t : PaymentTransaction} (h : t.paidBack = false) :
    sentBack tenantId t = 0 := by
  simp [sentBack, h]

theorem fromSuspense_of_terms {t t' : PaymentTransaction} (h : t'.terms = t.terms) :
    t'.fromSuspense = t.fromSuspense :=
  (congrArg PaymentTransaction.fromSuspense h :)

theorem PaymentTransaction.Sourced.stays {db db' : Db} {t t' : PaymentTransaction}
    (h : t.Sourced db) (hstay : TermsStay db db') (hterms : t'.terms = t.terms) :
    t'.Sourced db' := by
  have htype : t'.type = t.type := (congrArg PaymentTransaction.type hterms :)
  have hamount : t'.amount = t.amount := (congrArg PaymentTransaction.amount hterms :)
  have htenant := tenantId_of_terms hterms
  have hsource : t'.rawPayload.suspenseId = t.rawPayload.suspenseId :=
    (congrArg (fun t => t.rawPayload.suspenseId) hterms :)
  constructor
  · intro hrefund id hid
    obtain ⟨e, he, hown, hceil⟩ := h.refund (htype ▸ hrefund) id (hsource ▸ hid)
    obtain ⟨e', he', hentry⟩ := hstay.suspense id e he
    have hparked : e'.amount = e.amount := (congrArg SuspenseEntry.amount hentry :)
    have hkept : e'.tenantId = e.tenantId := (congrArg SuspenseEntry.tenantId hentry :)
    exact ⟨e', he', by rw [hkept, hown, htenant], by rw [hamount, hceil, hparked]⟩
  · intro hreversal
    obtain ⟨id, e, hid, he, hown, hwhole⟩ := h.reversal (htype ▸ hreversal)
    obtain ⟨e', he', hentry⟩ := hstay.suspense id e he
    have hparked : e'.amount = e.amount := (congrArg SuspenseEntry.amount hentry :)
    have hkept : e'.tenantId = e.tenantId := (congrArg SuspenseEntry.tenantId hentry :)
    exact ⟨id, e', hsource ▸ hid, he', by rw [hkept, hown, htenant],
      by rw [hamount, hwhole, hparked]⟩

section Postings

variable {db db' : Db} {flow : Flow} {t : PaymentTransaction}

theorem Noted.sourced (h : Noted db t) (hbacked : ∀ p ∈ db.pending, p.Backed db) :
    t.Sourced db := by
  cases h with
  | callback htype => obtain htype | htype := htype <;> exact ⟨by simp [htype], by simp [htype]⟩
  | payout loanId loan product hrow hproduct htype => exact ⟨by simp [htype], by simp [htype]⟩
  | refundsEntry entryId entry p hrow htenant hp hasked habout htype hsource hamount hstatus =>
    refine ⟨fun _ id hid => ?_, by simp [htype]⟩
    obtain rfl := Option.some.inj (hsource.symm.trans hid)
    exact ⟨entry, hrow, htenant, by rw [hamount, (hbacked p hp).entry hasked habout hrow]⟩
  | refundsLoan htype hsource => exact ⟨by simp [hsource], by simp [htype]⟩
  | reverses entryId entry hrow htenant htype hsource hamount hstatus =>
    exact ⟨by simp [htype], fun _ => ⟨entryId, entry, hsource, hrow, htenant, hamount⟩⟩

theorem Posting.sourced (h : Posting db flow db') (hdb : db.Returned) :
    ∀ t ∈ db'.transactions, t.Sourced db' := by
  intro t ht
  obtain ⟨t₀, ht₀, hterms⟩ | hnew := h.mem_transactions t ht
  · exact (hdb.sourced t₀ ht₀).stays h.termsStay hterms
  · exact (hnew.sourced hdb.backed).stays h.termsStay rfl

/-- The rows of a table of which one changes. -/
theorem forall_mem_modify_row {α : Type*} {P : α → Prop} {l : List α} {i : ℕ} {f : α → α}
    (hrow : ∀ x, l[i]? = some x → P (f x)) (h : ∀ x ∈ l, P x) : ∀ x ∈ l.modify i f, P x := by
  intro x hx
  obtain ⟨j, hj⟩ := List.mem_iff_getElem?.mp hx
  rw [List.getElem?_modify] at hj
  obtain ⟨y, hy, rfl⟩ := Option.map_eq_some_iff.mp hj
  split
  · rename_i hij
    exact hrow y (hij ▸ hy)
  · exact h y (List.mem_of_getElem? hy)

theorem mem_modify {α : Type*} {l : List α} {i : ℕ} (f : α → α) {x : α} (hx : l[i]? = some x) :
    f x ∈ l.modify i f :=
  List.mem_of_getElem? (by rw [List.getElem?_modify_eq, hx]; rfl)

/-- A row stays, or is the one that changes. -/
theorem mem_modify_of_mem {α : Type*} {l : List α} (i : ℕ) (f : α → α) {x : α} (hx : x ∈ l) :
    x ∈ l.modify i f ∨ l[i]? = some x ∧ f x ∈ l.modify i f := by
  obtain ⟨j, hj⟩ := List.mem_iff_getElem?.mp hx
  by_cases hij : i = j
  · subst hij
    exact .inr ⟨hj, mem_modify f hj⟩
  · exact .inl (List.mem_of_getElem? (by rw [List.getElem?_modify_ne _ _ hij, hj]))

/-- The mark of a transaction is none of money that is paid back out of suspense. -/
theorem not_paidBack_of_marked {row : PaymentTransaction} {status : TransactionStatus}
    {f : PaymentTransaction → PaymentTransaction}
    (hset : ∀ t, (f t).terms = t.terms ∧ (f t).status = status)
    (hquiet : row.fromSuspense = true → status ≠ .success) : (f row).paidBack = false := by
  rw [PaymentTransaction.paidBack, fromSuspense_of_terms (hset row).1, (hset row).2]
  cases hfrom : row.fromSuspense with
  | false => rfl
  | true => simp [hquiet hfrom]

/-- The entry of a refund that succeeds, and of a reversal. -/
theorem Db.Returned.source (hdb : db.Returned) {txnId entryId : ℕ} {row : PaymentTransaction}
    (hrow : db.transactions[txnId]? = some row) (hout : row.outgoing = true)
    (hsource : row.rawPayload.suspenseId = some entryId) :
    ∃ e, db.suspense[entryId]? = some e ∧ e.tenantId = row.tenantId ∧
      (row.type = .refund → row.amount = ceilShillings e.amount) ∧
      (row.type = .reversal → row.amount = e.amount) := by
  have hsourced := hdb.sourced row (List.mem_of_getElem? hrow)
  simp only [PaymentTransaction.outgoing, Bool.or_eq_true, decide_eq_true_eq] at hout
  obtain htype | htype := hout
  · obtain ⟨e, he, htenant, hamount⟩ := hsourced.refund htype entryId hsource
    exact ⟨e, he, htenant, fun _ => hamount, fun h => by simp [htype] at h⟩
  · obtain ⟨id, e, hid, he, htenant, hamount⟩ := hsourced.reversal htype
    obtain rfl := Option.some.inj (hsource.symm.trans hid)
    exact ⟨e, he, htenant, fun h => by simp [htype] at h, fun _ => hamount⟩

theorem unresolved_of_row {entryId : ℕ} {e : SuspenseEntry}
    (he : db.suspense[entryId]? = some e) (h : db.entryResolved entryId = false) :
    e.status.resolved = false := by
  rwa [Db.entryResolved, he, Option.any_some] at h

/-- Nothing was paid back for an entry that is not disposed of. -/
theorem Db.Returned.not_paidBack (hdb : db.Returned) {txnId entryId : ℕ} {row : PaymentTransaction}
    (hrow : db.transactions[txnId]? = some row)
    (hsource : row.rawPayload.suspenseId = some entryId) (h : db.entryResolved entryId = false) :
    row.paidBack = false := by
  rw [← Bool.not_eq_true]
  intro hpaid
  have hresolved := hdb.disposed row (List.mem_of_getElem? hrow) hpaid entryId hsource
  rw [h] at hresolved
  cases hresolved

/-- Money that was paid back stays so. -/
theorem Posting.paidBack_stays (h : Posting db flow db') (hflow : flow ≠ .late) :
    ∀ t ∈ db.transactions, t.paidBack = true →
      ∃ t' ∈ db'.transactions, t'.terms = t.terms ∧ t'.paidBack = true := by
  intro t ht hpaid
  have hkept : ∀ more, ∃ t' ∈ db.transactions ++ more, t'.terms = t.terms ∧ t'.paidBack = true :=
    fun more => ⟨t, List.mem_append_left _ ht, rfl, hpaid⟩
  have hset : ∀ (i : ℕ) (f : PaymentTransaction → PaymentTransaction),
      (db.transactions[i]? = some t → (f t).terms = t.terms ∧ (f t).paidBack = true) →
      ∃ t' ∈ db.transactions.modify i f, t'.terms = t.terms ∧ t'.paidBack = true := by
    intro i f hf
    obtain hmem | ⟨hrow, hmem⟩ := mem_modify_of_mem i f ht
    · exact ⟨t, hmem, rfl, hpaid⟩
    · exact ⟨f t, hmem, hf hrow⟩
  cases h with
  | noted | intended | refundsEntry | refundsLoan | reversalSent => exact hkept _
  | marked txnId row status f hrow hset' hquiet =>
    refine hset txnId f fun ht' => ?_
    obtain rfl := Option.some.inj (hrow.symm.trans ht')
    exact absurd hpaid (Bool.eq_false_iff.mp (timed_eq_late hflow))
  | refunded txnId row f entryId now hrow hset' htype hsource =>
    refine hset txnId f fun ht' => ⟨(hset' t).1, ?_⟩
    rw [PaymentTransaction.paidBack, Bool.and_eq_true] at hpaid ⊢
    exact ⟨fromSuspense_of_terms (hset' t).1 ▸ hpaid.1, by simp [(hset' t).2]⟩
  | reversalSettled txnId row entryId now isReversed hrow htype hopen hsource =>
    refine hset txnId _ fun ht' => ?_
    obtain rfl := Option.some.inj (hrow.symm.trans ht')
    rw [PaymentTransaction.paidBack, Bool.and_eq_true, decide_eq_true_eq] at hpaid
    obtain hopen | hopen := hopen <;> simp [hopen] at hpaid
  | _ => exact ⟨t, ht, rfl, hpaid⟩

/-- What is left of a payment is parked in rows that are open. -/
theorem parkRest_open (suspense : List SuspenseEntry) (loanId : ℕ) (p : Payment) (d : Division) :
    ∃ more, parkRest suspense loanId p d = suspense ++ more ∧ ∀ e ∈ more, e.status = .open := by
  obtain ⟨excess, refund, hrows, hexcess, hrefund⟩ := parkRest_rows suspense loanId p d
  refine ⟨excess ++ refund, by rw [hrows, List.append_assoc], fun e he => ?_⟩
  obtain he | he := List.mem_append.mp he
  · obtain rfl | ⟨-, rfl⟩ := hexcess
    · cases he
    · obtain rfl := List.mem_singleton.mp he
      rfl
  · obtain rfl | rfl := hrefund
    · cases he
    · obtain rfl := List.mem_singleton.mp he
      rfl

/-- What a posting that is not late makes of an entry: it stays, it waits as before or it leaves
suspense, refunded by a transaction if it is refunded. -/
inductive SuspenseEntry.Turns (db' : Db) (id : ℕ) (e e' : SuspenseEntry) : Prop
  | stays (h : e' = e)
  | waits (h : e.status.resolved = false) (h' : e'.status.resolved = false)
  | leaves (h : e.status.resolved = false) (h' : e'.status.resolved = true)
      (hdated : e'.resolvedAt.isSome = true)
      (hsent : e'.status = .refunded → ∃ t ∈ db'.transactions, t.tenantId = e'.tenantId ∧
        t.type = .refund ∧ t.status = .success ∧ t.rawPayload.suspenseId = some id)

/-- An entry of the rows after a posting is one that comes in, or what became of one. -/
theorem Posting.turns (h : Posting db flow db') (hflow : flow ≠ .late) :
    ∀ (id : ℕ) (e' : SuspenseEntry), db'.suspense[id]? = some e' →
      (db.suspense[id]? = none ∧ e'.status = .open) ∨
        ∃ e, db.suspense[id]? = some e ∧ e.Turns db' id e' := by
  intro id e' he'
  have hsame : db.suspense[id]? = some e' → (db.suspense[id]? = none ∧ e'.status = .open) ∨
      ∃ e, db.suspense[id]? = some e ∧ e.Turns db' id e' := fun he => .inr ⟨e', he, .stays rfl⟩
  have hmodify : ∀ (i : ℕ) (f : SuspenseEntry → SuspenseEntry),
      (∀ e, db.suspense[i]? = some e → e.Turns db' i (f e)) →
      (db.suspense.modify i f)[id]? = some e' → (db.suspense[id]? = none ∧ e'.status = .open) ∨
        ∃ e, db.suspense[id]? = some e ∧ e.Turns db' id e' := by
    intro i f hf hmodified
    rw [List.getElem?_modify] at hmodified
    obtain ⟨e, he, rfl⟩ := Option.map_eq_some_iff.mp hmodified
    refine .inr ⟨e, he, ?_⟩
    split
    · rename_i hid
      subst hid
      exact hf e he
    · exact .stays rfl
  have happend : ∀ more : List SuspenseEntry, (∀ e ∈ more, e.status = .open) →
      (db.suspense ++ more)[id]? = some e' → (db.suspense[id]? = none ∧ e'.status = .open) ∨
        ∃ e, db.suspense[id]? = some e ∧ e.Turns db' id e' := by
    intro more hopen he
    rw [List.getElem?_append] at he
    split at he
    · exact hsame he
    · rename_i hlength
      exact .inl ⟨List.getElem?_eq_none (not_lt.mp hlength), hopen e' (List.mem_of_getElem? he)⟩
  cases h with
  | moved entryId f hmoves =>
    refine hmodify entryId f (fun e he => ?_) he'
    obtain hkept | ⟨hbefore, hafter, -⟩ := hmoves e he
    · exact .stays hkept
    · exact .waits hbefore hafter
  | refunded txnId row f entryId now hrow hset htype hsource =>
    refine hmodify entryId _ (fun e he => ?_) he'
    have hwaits := unresolved_of_row he (timed_eq_late hflow)
    split
    · rename_i htenant
      refine .leaves hwaits rfl rfl fun _ => ⟨f row, ?_, ?_, ?_, (hset row).2, ?_⟩
      · exact mem_modify f hrow
      · exact (tenantId_of_terms (hset row).1).trans htenant.symm
      · exact ((congrArg PaymentTransaction.type (hset row).1 :)).trans htype
      · exact ((congrArg (fun t => t.rawPayload.suspenseId) (hset row).1 :)).trans hsource
    · exact .stays rfl
  | reversalSent pendingId p entryId entry ack now hp htype hlocked =>
    refine hmodify entryId _ (fun e he => ?_) he'
    obtain rfl := Option.some.inj (hlocked.row.symm.trans he)
    exact .waits (by rw [hlocked.held]; rfl) rfl
  | reversalSettled txnId row entryId now isReversed hrow htype hopen hsource =>
    refine hmodify entryId _ (fun e he => ?_) he'
    have hwaits := unresolved_of_row he (timed_eq_late hflow)
    by_cases htenant : e.tenantId = row.tenantId
    · rw [if_neg (not_not.mpr htenant)]
      cases isReversed with
      | false => exact .waits hwaits rfl
      | true => exact .leaves hwaits rfl rfl nofun
    · rw [if_pos htenant]
      exact .stays rfl
  | parked x now =>
    refine happend [x.entry now] (fun e he => ?_) he'
    obtain rfl := List.mem_singleton.mp he
    rfl
  | paid loanId loan p hrow haccepts hcollectible =>
    obtain ⟨more, hrows, hopen⟩ := parkRest_open db.suspense loanId p (divisionOf db loanId loan p)
    exact happend more hopen (hrows ▸ he')
  | allocated entryId entry loanId userId now hrow hheld =>
    refine hmodify entryId _ (fun e he => ?_) he'
    obtain rfl := Option.some.inj (hrow.symm.trans he)
    refine .leaves ?_ rfl rfl nofun
    obtain hheld | hheld := hheld <;> rw [hheld] <;> rfl
  | _ => exact hsame he'

/-- An entry that is disposed of stays so. -/
theorem Posting.entryResolved (h : Posting db flow db') (hflow : flow ≠ .late) {id : ℕ}
    (hid : db.entryResolved id = true) : db'.entryResolved id = true := by
  obtain ⟨e, he, hresolved⟩ := (Option.any_eq_true _ _).mp hid
  obtain ⟨e', he', -⟩ := h.termsStay.suspense id e he
  refine (Option.any_eq_true _ _).mpr ⟨e', he', ?_⟩
  obtain ⟨hnone, -⟩ | ⟨e₀, he₀, hturns⟩ := h.turns hflow id e' he'
  · rw [he] at hnone
    cases hnone
  · obtain rfl := Option.some.inj (he.symm.trans he₀)
    cases hturns with
    | stays hsame => rwa [hsame]
    | waits hbefore => rw [hbefore] at hresolved; cases hresolved
    | leaves hbefore => rw [hbefore] at hresolved; cases hresolved

/-- The transactions that a posting adds paid nothing back. -/
theorem paidBack_of_type {t : PaymentTransaction} (h : t.outgoing = false) :
    t.paidBack = false := by
  simp [PaymentTransaction.paidBack, PaymentTransaction.fromSuspense, h]

theorem paidBack_of_status {t : PaymentTransaction} (h : t.status ≠ .success) :
    t.paidBack = false := by
  simp [PaymentTransaction.paidBack, h]

theorem paidBack_of_source {t : PaymentTransaction} (h : t.rawPayload.suspenseId = none) :
    t.paidBack = false := by
  simp [PaymentTransaction.paidBack, PaymentTransaction.fromSuspense, h]

/-- A transaction that paid money back did so before, or its entry is disposed of now. -/
theorem Posting.mem_paidBack (h : Posting db flow db') (hflow : flow ≠ .late) (hdb : db.Returned) :
    ∀ t ∈ db'.transactions, t.paidBack = true →
      (∃ t₀ ∈ db.transactions, t₀.paidBack = true ∧ t.terms = t₀.terms) ∨
        ∀ id ∈ t.rawPayload.suspenseId, db'.entryResolved id = true := by
  have hold : ∀ t ∈ db.transactions, t.paidBack = true →
      (∃ t₀ ∈ db.transactions, t₀.paidBack = true ∧ t.terms = t₀.terms) ∨
        ∀ id ∈ t.rawPayload.suspenseId, db'.entryResolved id = true :=
    fun t ht hpaid => .inl ⟨t, ht, hpaid, rfl⟩
  have hidle : ∀ t : PaymentTransaction, t.paidBack = false → t.paidBack = true →
      (∃ t₀ ∈ db.transactions, t₀.paidBack = true ∧ t.terms = t₀.terms) ∨
        ∀ id ∈ t.rawPayload.suspenseId, db'.entryResolved id = true :=
    fun t hidle hpaid => absurd hpaid (Bool.eq_false_iff.mp hidle)
  cases h with
  | noted t htype =>
    refine forall_mem_concat hold (hidle t (paidBack_of_type ?_))
    obtain htype | htype := htype <;> simp [PaymentTransaction.outgoing, htype]
  | intended loanId loan product actorUserId phone now =>
    exact forall_mem_concat hold (hidle _ (paidBack_of_type rfl))
  | refundsEntry pendingId p entryId entry t hp htype hlocked hrefund htenant hamount hstatus =>
    exact forall_mem_concat hold (hidle t (paidBack_of_status (by simp [hstatus])))
  | refundsLoan pendingId p loanId loan t hp htype hrow hloan hfits hrefund htenant hfor hamount
      hstatus hsource =>
    exact forall_mem_concat hold (hidle t (paidBack_of_source hsource))
  | reversalSent pendingId p entryId entry ack now =>
    exact forall_mem_concat hold (hidle _ (paidBack_of_status (by simp [reversalTxn])))
  | marked txnId row status f hrow hset hquiet =>
    refine forall_mem_modify_row (fun t ht => hidle (f t) ?_) hold
    obtain rfl := Option.some.inj (hrow.symm.trans ht)
    exact not_paidBack_of_marked hset hquiet
  | refunded txnId row f entryId now hrow hset htype hsource =>
    refine forall_mem_modify_row (fun t ht _ => .inr fun id hid => ?_) hold
    obtain rfl := Option.some.inj (hrow.symm.trans ht)
    obtain ⟨e, he, htenant, -⟩ :=
      hdb.source hrow (by simp [PaymentTransaction.outgoing, htype]) hsource
    have hsame : (f row).rawPayload.suspenseId = row.rawPayload.suspenseId :=
      (congrArg (fun t => t.rawPayload.suspenseId) (hset row).1 :)
    obtain rfl := Option.some.inj (hsource.symm.trans (hsame.symm.trans hid))
    rw [Db.entryResolved, List.getElem?_modify_eq, he]
    simp [htenant, SuspenseStatus.resolved]
  | reversalSettled txnId row entryId now isReversed hrow htype hopen hsource =>
    refine forall_mem_modify_row (fun t ht hpaid => .inr fun id hid => ?_) hold
    obtain rfl := Option.some.inj (hrow.symm.trans ht)
    obtain ⟨e, he, htenant, -⟩ :=
      hdb.source hrow (by simp [PaymentTransaction.outgoing, htype]) hsource
    obtain rfl := Option.some.inj (hsource.symm.trans hid)
    cases isReversed with
    | false => simp [PaymentTransaction.paidBack] at hpaid
    | true =>
      rw [Db.entryResolved, List.getElem?_modify_eq, he]
      simp [htenant, SuspenseStatus.resolved]
  | _ => exact hold

/-- A refunded entry has a refund that succeeded, and keeps it. -/
theorem Posting.sent (h : Posting db flow db') (hflow : flow ≠ .late) (hdb : db.Returned) :
    ∀ (id : ℕ) (e : SuspenseEntry), db'.suspense[id]? = some e → e.status = .refunded →
      ∃ t ∈ db'.transactions, t.tenantId = e.tenantId ∧ t.type = .refund ∧ t.status = .success ∧
        t.rawPayload.suspenseId = some id := by
  intro id e' he' hrefunded
  obtain ⟨-, hopen⟩ | ⟨e, he, hturns⟩ := h.turns hflow id e' he'
  · simp [hrefunded] at hopen
  cases hturns with
  | stays hsame =>
    subst hsame
    obtain ⟨t, ht, htenant, htype, hstatus, hsource⟩ := hdb.sent id e' he hrefunded
    have hpaid : t.paidBack = true := by
      simp [PaymentTransaction.paidBack, PaymentTransaction.fromSuspense,
        PaymentTransaction.outgoing, htype, hstatus, hsource]
    obtain ⟨t', ht', hterms, hpaid'⟩ := h.paidBack_stays hflow t ht hpaid
    rw [PaymentTransaction.paidBack, Bool.and_eq_true, decide_eq_true_eq] at hpaid'
    exact ⟨t', ht', (tenantId_of_terms hterms).trans htenant,
      ((congrArg PaymentTransaction.type hterms :)).trans htype, hpaid'.2,
      ((congrArg (fun t => t.rawPayload.suspenseId) hterms :)).trans hsource⟩
  | waits hbefore hafter =>
    rw [hrefunded] at hafter
    cases hafter
  | leaves hbefore hafter hdated hsent => exact hsent hrefunded

theorem Posting.dated (h : Posting db flow db') (hflow : flow ≠ .late) (hdb : db.Returned) :
    ∀ e ∈ db'.suspense, e.status.resolved = true → e.resolvedAt.isSome = true := by
  intro e' he' hresolved
  obtain ⟨id, hid⟩ := List.mem_iff_getElem?.mp he'
  obtain ⟨-, hopen⟩ | ⟨e, he, hturns⟩ := h.turns hflow id e' hid
  · rw [hopen] at hresolved
    cases hresolved
  cases hturns with
  | stays hsame =>
    subst hsame
    exact hdb.dated e' (List.mem_of_getElem? he) hresolved
  | waits hbefore hafter =>
    rw [hafter] at hresolved
    cases hresolved
  | leaves hbefore hafter hdated => exact hdated

theorem Posting.disposed (h : Posting db flow db') (hflow : flow ≠ .late) (hdb : db.Returned) :
    ∀ t ∈ db'.transactions, t.paidBack = true → ∀ id ∈ t.rawPayload.suspenseId,
      db'.entryResolved id = true := by
  intro t ht hpaid id hid
  obtain ⟨t₀, ht₀, hpaid₀, hterms⟩ | hresolved := h.mem_paidBack hflow hdb t ht hpaid
  · have hsource : t.rawPayload.suspenseId = t₀.rawPayload.suspenseId :=
      (congrArg (fun t => t.rawPayload.suspenseId) hterms :)
    exact h.entryResolved hflow (hdb.disposed t₀ ht₀ hpaid₀ id (hsource ▸ hid))
  · exact hresolved id hid

/-- A transaction and the entry it takes money of change together. -/
theorem Db.Returned.balanced_pair {tenantId txnId entryId : ℕ} {row : PaymentTransaction}
    {e : SuspenseEntry} {f : PaymentTransaction → PaymentTransaction}
    {g : SuspenseEntry → SuspenseEntry} (hdb : db.Returned)
    (hrow : db.transactions[txnId]? = some row) (he : db.suspense[entryId]? = some e)
    (hidle : row.paidBack = false) (hopen : e.status.resolved = false)
    (hpair : sentBack tenantId (f row) = returnedBy tenantId (g e)) :
    ((db.transactions.modify txnId f).map (sentBack tenantId)).sum =
      ((db.suspense.modify entryId g).map (returnedBy tenantId)).sum := by
  rw [sum_map_modify (sentBack tenantId) f hrow, sum_map_modify (returnedBy tenantId) g he,
    hdb.balanced tenantId, sentBack_of_not tenantId hidle, returnedBy_of_unresolved tenantId hopen,
    hpair]

/-- A transaction that pays nothing back leaves the sum. -/
theorem sum_sentBack_append (tenantId : ℕ) (transactions : List PaymentTransaction)
    {t : PaymentTransaction} (ht : t.paidBack = false) :
    ((transactions ++ [t]).map (sentBack tenantId)).sum =
      (transactions.map (sentBack tenantId)).sum := by
  simp [sentBack_of_not tenantId ht]

/-- Entries that are open leave the sum. -/
theorem sum_returnedBy_append (tenantId : ℕ) (suspense : List SuspenseEntry)
    {more : List SuspenseEntry} (hmore : ∀ e ∈ more, e.status = .open) :
    ((suspense ++ more).map (returnedBy tenantId)).sum =
      (suspense.map (returnedBy tenantId)).sum := by
  have hnone : (more.map (returnedBy tenantId)).sum = 0 := sum_map_eq_zero fun e he =>
    returnedBy_of_unresolved tenantId (by rw [hmore e he]; rfl)
  rw [List.map_append, List.sum_append, hnone, add_zero]

/-- An entry that goes on returning what it did leaves the sum. -/
theorem sum_returnedBy_modify (tenantId : ℕ) {suspense : List SuspenseEntry} {i : ℕ}
    {f : SuspenseEntry → SuspenseEntry} (hf : ∀ e, suspense[i]? = some e →
      returnedBy tenantId (f e) = returnedBy tenantId e) :
    ((suspense.modify i f).map (returnedBy tenantId)).sum =
      (suspense.map (returnedBy tenantId)).sum := by
  rw [map_modify_of_row _ hf]

/-- A refund that succeeds pays back what its entry returns. -/
theorem Db.Returned.balanced_refund {tenantId txnId entryId : ℕ} {now : ℤ}
    {row : PaymentTransaction} {f : PaymentTransaction → PaymentTransaction} (hdb : db.Returned)
    (hrow : db.transactions[txnId]? = some row)
    (hset : ∀ t, (f t).terms = t.terms ∧ (f t).status = .success) (htype : row.type = .refund)
    (hsource : row.rawPayload.suspenseId = some entryId)
    (hlate : db.entryResolved entryId = false) :
    ((db.transactions.modify txnId f).map (sentBack tenantId)).sum =
      ((db.suspense.modify entryId (fun e => if e.tenantId = row.tenantId then
        { e with status := .refunded, resolvedAt := some now } else e)).map
          (returnedBy tenantId)).sum := by
  have hout : row.outgoing = true := by simp [PaymentTransaction.outgoing, htype]
  obtain ⟨e, he, htenant, hamount, -⟩ := hdb.source hrow hout hsource
  have hidle := hdb.not_paidBack hrow hsource hlate
  have hopen := unresolved_of_row he hlate
  have hfrom : row.fromSuspense = true := by simp [PaymentTransaction.fromSuspense, hout, hsource]
  have hpays : (f row).paidBack = true := by
    rw [PaymentTransaction.paidBack, Bool.and_eq_true, fromSuspense_of_terms (hset row).1]
    exact ⟨hfrom, by simp [(hset row).2]⟩
  have hsum : (f row).amount = row.amount :=
    (congrArg PaymentTransaction.amount (hset row).1 :)
  refine hdb.balanced_pair hrow he hidle hopen ?_
  rw [if_pos htenant]
  simp only [sentBack, returnedBy, SuspenseEntry.returned, hpays, hsum, hamount htype, htenant,
    tenantId_of_terms (hset row).1, and_true]

/-- A reversal that is settled pays back what its entry returns, and one that failed nothing. -/
theorem Db.Returned.balanced_reversal {tenantId txnId entryId : ℕ} {now : ℤ} {isReversed : Bool}
    {row : PaymentTransaction} (hdb : db.Returned)
    (hrow : db.transactions[txnId]? = some row) (htype : row.type = .reversal)
    (hsource : row.rawPayload.suspenseId = some entryId)
    (hlate : db.entryResolved entryId = false) :
    ((db.transactions.modify txnId (fun t => { t with
        status := if isReversed then .success else .failed })).map (sentBack tenantId)).sum =
      ((db.suspense.modify entryId (fun e =>
        if e.tenantId ≠ row.tenantId then e
        else if isReversed then { e with status := .reversed, resolvedAt := some now }
        else { e with status := .open })).map (returnedBy tenantId)).sum := by
  have hout : row.outgoing = true := by simp [PaymentTransaction.outgoing, htype]
  obtain ⟨e, he, htenant, -, hamount⟩ := hdb.source hrow hout hsource
  have hidle := hdb.not_paidBack hrow hsource hlate
  have hopen := unresolved_of_row he hlate
  refine hdb.balanced_pair hrow he hidle hopen ?_
  rw [if_neg (not_not.mpr htenant)]
  cases isReversed with
  | false => simp [sentBack, returnedBy, SuspenseEntry.returned, PaymentTransaction.paidBack]
  | true =>
    have hfrom : row.fromSuspense = true := by
      simp [PaymentTransaction.fromSuspense, hout, hsource]
    have hpays : ({ row with status := .success } : PaymentTransaction).paidBack = true := by
      rw [PaymentTransaction.paidBack, Bool.and_eq_true]
      exact ⟨hfrom, rfl⟩
    have hback : sentBack tenantId { row with status := .success } =
        if row.tenantId = tenantId then e.amount else 0 := by
      simp only [sentBack, hpays, and_true]
      rw [hamount htype]
    simp only [if_true, hback, returnedBy, SuspenseEntry.returned, htenant]

/-- What a transaction pays back counts for its entry as well. -/
theorem Posting.balanced (h : Posting db flow db') (hflow : flow ≠ .late) (hdb : db.Returned)
    (tenantId : ℕ) : (db'.transactions.map (sentBack tenantId)).sum =
      (db'.suspense.map (returnedBy tenantId)).sum := by
  have hbefore := hdb.balanced tenantId
  cases h with
  | noted t htype =>
    refine (sum_sentBack_append tenantId db.transactions (paidBack_of_type ?_)).trans hbefore
    obtain htype | htype := htype <;> simp [PaymentTransaction.outgoing, htype]
  | intended loanId loan product actorUserId phone now =>
    exact (sum_sentBack_append tenantId db.transactions (paidBack_of_type rfl)).trans hbefore
  | refundsEntry pendingId p entryId entry t hp htype hlocked hrefund htenant hamount hstatus =>
    exact (sum_sentBack_append tenantId db.transactions
      (paidBack_of_status (by simp [hstatus]))).trans hbefore
  | refundsLoan pendingId p loanId loan t hp htype hrow hloan hfits hrefund htenant hfor hamount
      hstatus hsource =>
    exact (sum_sentBack_append tenantId db.transactions (paidBack_of_source hsource)).trans hbefore
  | marked txnId row status f hrow hset hquiet =>
    have hidle : row.paidBack = false := timed_eq_late hflow
    refine (congrArg List.sum (map_modify_of_row (sentBack tenantId) fun t ht => ?_)).trans hbefore
    obtain rfl := Option.some.inj (hrow.symm.trans ht)
    rw [sentBack_of_not tenantId hidle,
      sentBack_of_not tenantId (not_paidBack_of_marked hset hquiet)]
  | moved entryId f hmoves =>
    refine hbefore.trans (sum_returnedBy_modify tenantId fun e he => ?_).symm
    obtain hsame | ⟨hwaiting, hwaiting', -⟩ := hmoves e he
    · rw [hsame]
    · rw [returnedBy_of_unresolved tenantId hwaiting, returnedBy_of_unresolved tenantId hwaiting']
  | reversalSent pendingId p entryId entry ack now hp htype hlocked =>
    refine ((sum_sentBack_append tenantId db.transactions
      (paidBack_of_status (by simp [reversalTxn]))).trans hbefore).trans
      (sum_returnedBy_modify tenantId fun e he => ?_).symm
    obtain rfl := Option.some.inj (hlocked.row.symm.trans he)
    rw [returnedBy_of_unresolved tenantId (e := entry) (by rw [hlocked.held]; rfl),
      returnedBy_of_unresolved tenantId rfl]
  | refunded txnId row f entryId now hrow hset htype hsource =>
    exact hdb.balanced_refund hrow hset htype hsource (timed_eq_late hflow)
  | reversalSettled txnId row entryId now isReversed hrow htype hopen hsource =>
    exact hdb.balanced_reversal hrow htype hsource (timed_eq_late hflow)
  | parked x now =>
    refine hbefore.trans (sum_returnedBy_append tenantId db.suspense fun e he => ?_).symm
    obtain rfl := List.mem_singleton.mp he
    rfl
  | paid loanId loan p hrow haccepts hcollectible =>
    obtain ⟨more, hrows, hopen⟩ := parkRest_open db.suspense loanId p (divisionOf db loanId loan p)
    exact hbefore.trans ((congrArg (fun rows => (rows.map (returnedBy tenantId)).sum) hrows).trans
      (sum_returnedBy_append tenantId db.suspense hopen)).symm
  | allocated entryId entry loanId userId now hrow hheld =>
    refine hbefore.trans (sum_returnedBy_modify tenantId fun e he => ?_).symm
    obtain rfl := Option.some.inj (hrow.symm.trans he)
    have hwaiting : entry.status.resolved = false := by
      obtain hheld | hheld := hheld <;> rw [hheld] <;> rfl
    rw [returnedBy_of_unresolved tenantId hwaiting]
    simp [returnedBy, SuspenseEntry.returned]
  | _ => exact hbefore

/-- Every posting that is not late keeps these books. -/
theorem Posting.returned (h : Posting db flow db') (hflow : flow ≠ .late) (hdb : db.Returned) :
    db'.Returned :=
  ⟨h.backed hdb.backed, h.sourced hdb, h.disposed hflow hdb, h.sent hflow hdb, h.dated hflow hdb,
    h.balanced hflow hdb⟩

end Postings

theorem Db.Unused.returned {db : Db} (h : db.Unused) : db.Returned where
  backed := by simp [h.pending]
  sourced := by simp [h.transactions]
  disposed := by simp [h.transactions]
  sent := by simp [h.suspense]
  dated := by simp [h.suspense]
  balanced tenantId := by simp [h.transactions, h.suspense]

end FinylDcp
