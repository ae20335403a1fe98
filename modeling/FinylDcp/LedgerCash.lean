import FinylDcp.SuspenseOutflow

/-!
# Cash in the journal

What moves on the cash account over days that cover everything that happened: what is booked as
received less what was paid out.
-/
namespace FinylDcp
open Tables

/-- The net movement on an account. -/
def netOn (account : Account) (lines : List GlLine) : ℤ :=
  net (lines.filter (fun line => line.account = account))

section Lines

variable {coa : String → Option String} {account : Account}

theorem netOn_append (xs ys : List GlLine) :
    netOn account (xs ++ ys) = netOn account xs + netOn account ys := by
  rw [netOn, List.filter_append, net_append]
  rfl

theorem netOn_perm {xs ys : List GlLine} (h : xs.Perm ys) : netOn account xs = netOn account ys :=
  ((h.filter _).map _).sum_eq

theorem netOn_flatMap {α : Type*} (f : α → List GlLine) (l : List α) :
    netOn account (l.flatMap f) = (l.map (fun x => netOn account (f x))).sum := by
  induction l with
  | nil => rfl
  | cons x l ih => rw [List.flatMap_cons, netOn_append, ih, List.map_cons, List.sum_cons]

theorem netOn_credit {other : Account} (x : GlEvent) (amount : ℤ) (h : other ≠ account) :
    netOn account (x.credit coa other amount) = 0 := by
  unfold GlEvent.credit
  split_ifs
  · simp [netOn, GlEvent.add, h]
  · rfl

theorem cash_disbursementLines (t : PaymentTransaction) (id : ℕ) :
    netOn .cash (disbursementLines coa t id) = -t.amount := by
  unfold disbursementLines
  dsimp only
  rw [netOn_append, netOn_append, netOn_credit _ _ (by decide)]
  split_ifs
  all_goals simp [netOn, GlEvent.add]

theorem cash_refundLines (t : PaymentTransaction) (id : ℕ) :
    netOn .cash (refundLines coa t id) = -t.amount := by
  simp [refundLines, netOn, GlEvent.add]

theorem cash_receivedLines (r : Repayment) (id : ℕ) :
    netOn .cash (receivedLines coa r id) = r.amount := by
  rw [receivedLines, netOn_append, netOn_append, netOn_credit _ _ (by decide),
    netOn_credit _ _ (by decide)]
  simp [netOn, GlEvent.add]

theorem cash_feeLines (x : GlEvent) (info : ℤ × ℚ) (paidBefore fee : ℤ) :
    netOn .cash (feeLines coa x info paidBefore fee) = 0 := by
  unfold feeLines
  dsimp only
  rw [netOn_append, netOn_append, netOn_credit _ _ (by decide), netOn_credit _ _ (by decide),
    netOn_credit _ _ (by decide)]
  rfl

theorem cash_repaymentLines (db : Db) (tenantId : ℕ) (start : ℤ) (feePaid : ℕ → Option ℤ)
    (rows : List (Repayment × ℕ)) :
    netOn .cash (repaymentLines coa db tenantId start feePaid rows) =
      (rows.map (fun x => x.1.amount)).sum := by
  induction rows generalizing feePaid with
  | nil => rfl
  | cons x rows ih =>
    obtain ⟨r, id⟩ := x
    rw [repaymentLines_cons, netOn_append, cash_receivedLines, List.map_cons, List.sum_cons]
    split_ifs
    · rw [netOn_append, cash_feeLines, ih, zero_add]
    · rw [ih]

theorem cash_parkedLines {w : GlWindow} {e : SuspenseEntry} (id : ℕ)
    (h : w.covers e.createdAt = true) : netOn .cash (parkedLines coa w e id) = e.amount := by
  simp [parkedLines, h, netOn, GlEvent.add]

/-- What left suspense for an entry: to a loan, or back to whoever paid. -/
def SuspenseEntry.left (e : SuspenseEntry) : ℤ :=
  if e.status = .allocated then e.amount else e.returned

/-- A refunded entry is booked at what was sent. -/
theorem Db.Returned.sent_eq {db : Db} (h : db.Returned) {id : ℕ} {e : SuspenseEntry}
    (he : db.suspense[id]? = some e) (hrefunded : e.status = .refunded) :
    refundSent db e.tenantId id = some (ceilShillings e.amount) := by
  obtain ⟨t, ht, htenant, htype, hstatus, hsource⟩ := h.sent id e he hrefunded
  unfold refundSent
  cases hlast : (db.transactions.filter (fun t => t.tenantId = e.tenantId && t.type = .refund &&
      t.status = .success && t.rawPayload.suspenseId = some id)).getLast? with
  | none =>
    have hnil := List.getLast?_eq_none_iff.mp hlast
    rw [List.filter_eq_nil_iff] at hnil
    exact absurd (by simp [htenant, htype, hstatus, hsource]) (hnil t ht)
  | some last =>
    have hmem := List.mem_of_getLast? hlast
    simp only [List.mem_filter, Bool.and_eq_true, decide_eq_true_eq] at hmem
    obtain ⟨hrow, ⟨⟨-, hrefund⟩, -⟩, hsource'⟩ := hmem
    obtain ⟨e', he', -, hamount⟩ := (h.sourced last hrow).refund hrefund id hsource'
    obtain rfl := Option.some.inj (he.symm.trans he')
    rw [Option.map_some, hamount]

theorem cash_disposedLines {db : Db} (h : db.Returned) {w : GlWindow} {id : ℕ} {e : SuspenseEntry}
    (he : db.suspense[id]? = some e) (hw : ∀ t ∈ e.resolvedAt, w.covers t = true) :
    netOn .cash (disposedLines coa db e.tenantId w e id) = -e.left := by
  cases hresolved : e.resolvedAt with
  | none =>
    have hwaits : e.status.resolved = false := by
      rw [← Bool.not_eq_true]
      intro hdone
      have hdated := h.dated e (List.mem_of_getElem? he) hdone
      rw [hresolved] at hdated
      cases hdated
    have hopen : e.status ≠ .allocated := by
      rintro hdone
      rw [hdone] at hwaits
      cases hwaits
    simp [disposedLines, hresolved, SuspenseEntry.left, hopen, returned_of_unresolved hwaits, netOn]
  | some resolvedAt =>
    have hcovers := hw resolvedAt hresolved
    cases hstatus : e.status with
    | refunded =>
      have hsent := h.sent_eq he hstatus
      simp only [disposedLines, hresolved, hstatus, hcovers, hsent, SuspenseEntry.left,
        SuspenseEntry.returned]
      split_ifs <;> simp_all [netOn, GlEvent.add]
    | _ => simp [disposedLines, hresolved, hstatus, hcovers, SuspenseEntry.left,
        SuspenseEntry.returned, netOn, GlEvent.add]

end Lines

/-- The days cover everything that happened. -/
structure GlWindow.Spans (w : GlWindow) (db : Db) : Prop where
  transactions : ∀ t ∈ db.transactions, w.covers t.createdAt = true
  repayments : ∀ r ∈ db.repayments, w.covers r.paymentDate = true
  parked : ∀ e ∈ db.suspense, w.covers e.createdAt = true
  resolved : ∀ e ∈ db.suspense, ∀ t ∈ e.resolvedAt, w.covers t = true

/-- Money that went out: a payout, a refund or a reversal that succeeded. -/
def PaymentTransaction.paysOut (t : PaymentTransaction) : Bool :=
  t.status = .success && (t.type = .b2c || t.type = .refund || t.type = .reversal)

/-- What a tenant paid out. -/
def paidOut (db : Db) (tenantId : ℕ) : ℤ :=
  ((db.transactions.filter (fun t => t.tenantId = tenantId && t.paysOut)).map (·.amount)).sum

/-- What a repayment is booked at. -/
def repaidTo (tenantId : ℕ) (r : Repayment) : ℤ := if r.tenantId = tenantId then r.amount else 0

/-- What a suspense row is booked at, until it is moved to a loan. -/
def heldFor (tenantId : ℕ) (e : SuspenseEntry) : ℤ :=
  if e.tenantId = tenantId ∧ e.status ≠ .allocated then e.amount else 0

/-- What a tenant's books have as received. -/
def bookedIn (db : Db) (tenantId : ℕ) : ℤ :=
  (db.repayments.map (repaidTo tenantId)).sum + (db.suspense.map (heldFor tenantId)).sum

theorem sum_filter_map {α : Type*} (p : α → Bool) (f : α → ℤ) (l : List α) :
    ((l.filter p).map f).sum = (l.map (fun x => if p x then f x else 0)).sum := by
  induction l with
  | nil => rfl
  | cons x l ih => by_cases h : p x = true <;> simp [h, ih]

theorem sum_map_sub {α : Type*} (f g : α → ℤ) (l : List α) :
    (l.map (fun x => f x - g x)).sum = (l.map f).sum - (l.map g).sum := by
  induction l with
  | nil => rfl
  | cons x l ih =>
    simp only [List.map_cons, List.sum_cons]
    omega

section Totals

variable {coa : String → Option String} {db : Db} {tenantId : ℕ} {w : GlWindow}

/-- A payout that went through. -/
def PaymentTransaction.paidToLoan (tenantId : ℕ) (t : PaymentTransaction) : Bool :=
  t.tenantId = tenantId && t.type = .b2c && t.status = .success

/-- A refund of a loan that went through. -/
def PaymentTransaction.refundedLoan (tenantId : ℕ) (t : PaymentTransaction) : Bool :=
  t.rawPayload.suspenseId.isNone && (t.tenantId = tenantId && t.type = .refund &&
    t.status = .success)

/-- What went out is a payout, a refund of a loan or money paid back out of suspense. -/
theorem paysOut_parts {t : PaymentTransaction} (h : t.Sourced db) :
    (if t.paidToLoan tenantId then -t.amount else 0) +
        (if t.refundedLoan tenantId then -t.amount else 0) =
      sentBack tenantId t - if (t.tenantId = tenantId && t.paysOut) then t.amount else 0 := by
  have hreversal : t.type = .reversal → t.rawPayload.suspenseId.isSome = true := fun htype => by
    obtain ⟨id, -, hid, -⟩ := h.reversal htype
    rw [hid]
    rfl
  by_cases htenant : t.tenantId = tenantId
  · cases htype : t.type <;> by_cases hstatus : t.status = .success <;>
      cases hsource : t.rawPayload.suspenseId <;>
        simp_all [PaymentTransaction.paidToLoan, PaymentTransaction.refundedLoan, sentBack,
          PaymentTransaction.paysOut, PaymentTransaction.paidBack, PaymentTransaction.fromSuspense,
          PaymentTransaction.outgoing]
  · simp [PaymentTransaction.paidToLoan, PaymentTransaction.refundedLoan, sentBack, htenant]

/-- The cash that went out on payouts and on refunds of loans. -/
theorem cash_settled (hdb : db.Returned) (hw : w.Spans db) :
    netOn .cash ((settledIn db tenantId .b2c w).flatMap (fun x => disbursementLines coa x.1 x.2)) +
      netOn .cash (((settledIn db tenantId .refund w).filter
        (fun x => x.1.rawPayload.suspenseId.isNone)).flatMap (fun x => refundLines coa x.1 x.2)) =
      (db.transactions.map (sentBack tenantId)).sum - paidOut db tenantId := by
  have hcovers : ∀ type, ∀ t ∈ db.transactions, (t.tenantId = tenantId && t.type = type &&
      t.status = .success && w.covers t.createdAt) =
        (decide (t.tenantId = tenantId) && decide (t.type = type) &&
          decide (t.status = .success)) := fun type t ht => by
    rw [hw.transactions t ht, Bool.and_true]
  have hpayouts : netOn .cash ((settledIn db tenantId .b2c w).flatMap
      (fun x => disbursementLines coa x.1 x.2)) =
      (db.transactions.map (fun t => if t.paidToLoan tenantId then -t.amount else 0)).sum := by
    simp only [netOn_flatMap, cash_disbursementLines]
    rw [settledIn, sum_zipIdx (fun t : PaymentTransaction => t.tenantId = tenantId &&
      t.type = .b2c && t.status = .success && w.covers t.createdAt) (fun t => -t.amount),
      List.filter_congr (hcovers .b2c), sum_filter_map]
    rfl
  have hrefunds : netOn .cash (((settledIn db tenantId .refund w).filter
      (fun x => x.1.rawPayload.suspenseId.isNone)).flatMap (fun x => refundLines coa x.1 x.2)) =
      (db.transactions.map (fun t => if t.refundedLoan tenantId then -t.amount else 0)).sum := by
    simp only [netOn_flatMap, cash_refundLines]
    rw [settledIn, List.filter_filter, sum_zipIdx (fun t : PaymentTransaction =>
      t.rawPayload.suspenseId.isNone && (t.tenantId = tenantId && t.type = .refund &&
        t.status = .success && w.covers t.createdAt)) (fun t => -t.amount),
      List.filter_congr (fun t ht => congrArg (t.rawPayload.suspenseId.isNone && ·)
        (hcovers .refund t ht)), sum_filter_map]
    rfl
  rw [hpayouts, hrefunds, paidOut, sum_filter_map, ← List.sum_map_add, ← sum_map_sub]
  exact congrArg List.sum (List.map_congr_left fun t ht => paysOut_parts (hdb.sourced t ht))

/-- The cash that came in with repayments. -/
theorem cash_repayments (hw : w.Spans db) :
    netOn .cash (repaymentLines coa db tenantId w.start (fun _ => none)
      (repaymentsIn db tenantId w)) = (db.repayments.map (repaidTo tenantId)).sum := by
  have hall : ∀ r ∈ db.repayments, (r.tenantId = tenantId && w.covers r.paymentDate) =
      decide (r.tenantId = tenantId) := fun r hr => by rw [hw.repayments r hr, Bool.and_true]
  rw [cash_repaymentLines, repaymentsIn, ((List.perm_insertionSort _ _).map _).sum_eq,
    sum_zipIdx (fun r : Repayment => r.tenantId = tenantId && w.covers r.paymentDate) (·.amount),
    List.filter_congr hall, sum_filter_map]
  simp only [decide_eq_true_eq]
  rfl

theorem left_eq (e : SuspenseEntry) :
    e.amount - e.left = (if e.status ≠ .allocated then e.amount else 0) - e.returned := by
  cases hstatus : e.status <;> simp [SuspenseEntry.left, SuspenseEntry.returned, hstatus]

/-- The cash that came into suspense and left it. -/
theorem cash_suspense (hdb : db.Returned) (hw : w.Spans db) :
    netOn .cash ((entriesOf db tenantId).flatMap (fun x => parkedLines coa w x.1 x.2 ++
      disposedLines coa db tenantId w x.1 x.2)) =
      (db.suspense.map (heldFor tenantId)).sum - (db.suspense.map (returnedBy tenantId)).sum := by
  have hrow : ∀ x ∈ entriesOf db tenantId, netOn .cash (parkedLines coa w x.1 x.2 ++
      disposedLines coa db tenantId w x.1 x.2) = x.1.amount - x.1.left := by
    intro x hx
    obtain ⟨hx, htenant⟩ := List.mem_filter.mp hx
    rw [decide_eq_true_eq] at htenant
    have hmem := List.fst_mem_of_mem_zipIdx hx
    rw [netOn_append, cash_parkedLines _ (hw.parked x.1 hmem), ← htenant,
      cash_disposedLines hdb (List.mem_zipIdx_iff_getElem?.mp hx) (hw.resolved x.1 hmem)]
    rfl
  rw [netOn_flatMap, List.map_congr_left hrow, entriesOf,
    sum_zipIdx (fun e : SuspenseEntry => decide (e.tenantId = tenantId))
      (fun e => e.amount - e.left),
    sum_filter_map, ← sum_map_sub]
  refine congrArg List.sum (List.map_congr_left fun e _ => ?_)
  by_cases htenant : e.tenantId = tenantId
  · simp [htenant, heldFor, returnedBy, left_eq]
  · simp [htenant, heldFor, returnedBy]

/-- The net movement on cash, over days that cover everything. -/
theorem netOn_cash (hdb : db.Returned) (hw : w.Spans db) :
    netOn .cash (glLines coa db tenantId w) = bookedIn db tenantId - paidOut db tenantId := by
  have hbalanced := hdb.balanced tenantId
  have hsettled := @cash_settled coa db tenantId w hdb hw
  have hrepayments := @cash_repayments coa db tenantId w hw
  have hsuspense := @cash_suspense coa db tenantId w hdb hw
  rw [glLines, netOn_perm (List.perm_insertionSort _ _), netOn_append, netOn_append, netOn_append,
    hrepayments, hsuspense, bookedIn]
  omega

end Totals

end FinylDcp
