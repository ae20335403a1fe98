import FinylDcp.OncePerReference
import FinylDcp.UploadOutcomes

/-!
# References and their columns over runs

A reference is cut to forty characters where it is taken in and may be written to a column
of thirty, and what is parked of a payment adds four characters to it, which count again
when the entry is allocated. The database refuses a write that does not fit.
-/
namespace FinylDcp
open Runs Tables Text

/-- An accepted payment has a reference that fits what is written of it: on an open loan its
repayment and what is parked of the rest, else the row it is parked in. -/
def Handed.LeavesRoom (h : Handed) : Prop :=
  Accepts h.db h.loan h.payment →
    (h.loan.status.collectible = true → ReferenceFits h.db h.loanId h.loan h.payment) ∧
    (h.loan.status.collectible = false → ¬ Parked h.db h.payment.tenantId h.payment.reference →
      h.payment.reference.length ≤ 40)

theorem Handed.leavesRoom_of_short {h : Handed} (hshort : h.payment.reference.length ≤ 30) :
    h.LeavesRoom := by
  refine fun _ => ⟨fun _ => ⟨fun _ => hshort, ?_, ?_⟩, ?_⟩
  · intros
    omega
  · intros
    omega
  · intros
    omega

/-- The references of a database, table by table. -/
def Db.references (db : Db) : List (Option String) × List (Option String) × List (Option String) :=
  (db.repayments.map (·.mpesaRef), db.suspense.map (·.mpesaRef), db.transactions.map (·.mpesaRef))

theorem referencesFit_eq (db : Db) : db.referencesFit = (db.references.1.all (fitsText 30) &&
    db.references.2.1.all (fitsText 40) && db.references.2.2.all (fitsText 40)) := by
  simp only [Db.referencesFit, Db.references, List.all_map]
  rfl

/-- Rows that keep their references fit as before. -/
theorem referencesFit_congr {db db' : Db} (h : db'.references = db.references) :
    db'.referencesFit = db.referencesFit := by
  rw [referencesFit_eq, referencesFit_eq, h]

theorem references_updateTransaction (db : Db) (txnId : ℕ)
    {f : PaymentTransaction → PaymentTransaction} (h : ∀ t, (f t).mpesaRef = t.mpesaRef) :
    (db.updateTransaction txnId f).references = db.references := by
  simp only [Db.references, Db.updateTransaction]
  rw [map_modify_of_eq (fun t : PaymentTransaction => t.mpesaRef) h]

theorem references_updateSuspense (db : Db) (entryId : ℕ) {f : SuspenseEntry → SuspenseEntry}
    (h : ∀ e, (f e).mpesaRef = e.mpesaRef) :
    (db.updateSuspense entryId f).references = db.references := by
  simp only [Db.references, Db.updateSuspense]
  rw [map_modify_of_eq (fun e : SuspenseEntry => e.mpesaRef) h]

theorem park_fits {suspense : List SuspenseEntry} {x : Receipt} {ref : String} (now : ℤ)
    (href : x.ref = some ref) (hfits : suspense.all (·.referenceFits) = true) :
    (park suspense x now).1.all (·.referenceFits) = true ↔
      ((∀ e ∈ suspense, e.tenantId = x.tenantId → e.mpesaRef ≠ some ref) → ref.length ≤ 40) := by
  have hentry : (x.entry now).referenceFits = true ↔ ref.length ≤ 40 := by
    by_cases hempty : ref = "" <;>
      simp [SuspenseEntry.referenceFits, fitsText, Receipt.entry, nonEmpty, href, hempty]
  by_cases hempty : ref = ""
  · have hfree : suspenseWithRef suspense x.tenantId x.ref = none := by
      simp [suspenseWithRef, nonEmpty, href, hempty]
    rw [park_new hfree, List.all_append, hfits]
    simp [hentry, hempty]
  · rw [← suspenseWithRef_eq_none hempty, ← href]
    by_cases hnew : suspenseWithRef suspense x.tenantId x.ref = none
    · rw [park_new hnew, List.all_append, hfits]
      simp [hentry, hnew]
    · rw [park_known hnew]
      simp [hfits, hnew]

/-- A payment on a stored loan leaves all references within their columns exactly when its own
leaves room. -/
theorem payLoan_fits {db : Db} {loanId : ℕ} {loan : Loan} {p : Payment} {out : Db × ApplyResult}
    (entry : Option SuspenseEntry) (hrow : db.loans[loanId]? = some loan)
    (hfits : db.referencesFit = true) (h : payLoan db loanId loan p = .ok out) :
    out.1.referencesFit = true ↔ Handed.LeavesRoom ⟨db, loanId, loan, p, entry⟩ := by
  obtain ⟨hno, hdb, -⟩ | ⟨hacc, hclosed, hdb, -⟩ | ⟨hacc, hopen, happlied, -⟩ :=
    payLoan_cases hrow h
  · rw [hdb]
    exact iff_of_true hfits fun hacc => absurd hacc hno
  · have hparked := park_fits p.now (x := closedLoanReceipt loanId p) rfl
      (by simp only [Db.referencesFit, Bool.and_eq_true] at hfits; exact hfits.1.2)
    simp only [Handed.LeavesRoom, hacc, hclosed, true_imp_iff, Bool.false_eq_true, false_imp_iff,
      true_and]
    rw [hdb]
    simp only [Db.referencesFit, Bool.and_eq_true] at hfits ⊢
    simp only [recordSuspense, hfits, true_and, and_true, hparked]
    simp [Parked, closedLoanReceipt]
  · rw [appliedTo_referencesFit hacc happlied hfits]
    simp [Handed.LeavesRoom, hacc, hopen]

/-- A callback reports a payment of a push that is still open. -/
def StkSucceeds (db : Db) (cb : StkCallback) : Prop :=
  cb.resultCode = "0" ∧ ∀ txn ∈ stkTransaction db cb, txn.status = .pending ∨
    txn.status = .processing

/-- The references a delivery books fit the rows it writes: those of the payment it hands over,
and for a callback the transaction's too, or the row an unmatched receipt is parked in. -/
def LeavesRoom (shortcodeToTenant : String → Option ℕ) (db : Db) (d : Delivery) : Prop :=
  match d with
  | .c2b cb freshRef _ => (∀ h ∈ handed shortcodeToTenant db d, h.LeavesRoom ∧
        (Accepts h.db h.loan h.payment → h.payment.reference.length ≤ 40)) ∧
      ∀ tenantId, c2bTenant db shortcodeToTenant cb = .ok tenantId →
        referenceAlreadyUsed db tenantId cb.transId true = none →
        (matchReference db tenantId cb.billRefNumber cb.msisdn).loan = none →
          fitsText 40 (nonEmpty cb.transId) = true ∧
            (¬ Parked db tenantId ((nonEmpty cb.transId).getD freshRef) →
              ((nonEmpty cb.transId).getD freshRef).length ≤ 40)
  | .stk cb freshRef _ => StkSucceeds db cb → (stkTransaction db cb).isSome = true →
      ((nonEmpty cb.receipt).getD freshRef).length ≤ 40 ∧
        ∀ h ∈ handed shortcodeToTenant db d, 0 < h.payment.amount → h.LeavesRoom
  | _ => ∀ h ∈ handed shortcodeToTenant db d, h.LeavesRoom

section Deliveries

variable {db : Db} {shortcodeToTenant : String → Option ℕ} {out : Db × Reply}

/-- The rows of a transaction beside those of a payment. -/
theorem fits_with_transaction {t : PaymentTransaction} {db' : Db}
    (hrepayments : db'.repayments = db.repayments) (hsuspense : db'.suspense = db.suspense)
    (htransactions : db'.transactions = db.transactions ++ [t]) :
    db'.referencesFit = true ↔ db.referencesFit = true ∧ fitsText 40 t.mpesaRef = true := by
  simp only [Db.referencesFit, hrepayments, hsuspense, htransactions, List.all_append,
    Bool.and_eq_true, List.all_cons, List.all_nil, and_true, PaymentTransaction.referenceFits]
  tauto

section Confirmations

variable {cb : C2BCallback} {freshRef : String} {now : ℤ} {tenantId loanId : ℕ} {loan : Loan}

theorem handed_c2b_iff (htenant : c2bTenant db shortcodeToTenant cb = .ok tenantId) (x : Handed) :
    handed shortcodeToTenant db (.c2b cb freshRef now) = some x ↔
      ∃ loanId loan, (matchReference db tenantId cb.billRefNumber cb.msisdn).loan = some loanId ∧
        loanRow db tenantId loanId = some loan ∧
          ⟨db, loanId, loan, cb.payment tenantId freshRef now, none⟩ = x := by
  simp [handed, htenant, Except.toOption, Option.bind_eq_some_iff]

/-- A known receipt leaves room: its payment is not accepted. -/
theorem leavesRoom_of_used (htenant : c2bTenant db shortcodeToTenant cb = .ok tenantId)
    (hused : (referenceAlreadyUsed db tenantId cb.transId true).isSome = true) :
    LeavesRoom shortcodeToTenant db (.c2b cb freshRef now) := by
  have hno : ∀ x ∈ handed shortcodeToTenant db (.c2b cb freshRef now),
      ¬ Accepts x.db x.loan x.payment := by
    intro x hx hacc
    obtain ⟨loanId, loan, -, -, rfl⟩ := (handed_c2b_iff htenant x).mp hx
    have hnone : referenceAlreadyUsed db tenantId
        (some ((nonEmpty cb.transId).getD freshRef)) true = none := hacc.2.2
    cases htrans : nonEmpty cb.transId with
    | none => simp [referenceAlreadyUsed, htrans] at hused
    | some r =>
      obtain ⟨hr, hne⟩ := nonEmpty_eq_some.mp htrans
      rw [htrans, Option.getD_some] at hnone
      rw [hr, hnone] at hused
      cases hused
  refine ⟨fun x hx => ⟨fun hacc => absurd hacc (hno x hx), fun hacc => absurd hacc (hno x hx)⟩,
    fun t ht hunused => ?_⟩
  obtain rfl := Except.ok.inj (ht.symm.trans htenant)
  rw [hunused] at hused
  cases hused

/-- A receipt that names no loan leaves room when the row it is parked in does. -/
theorem leavesRoom_unmatched_iff (htenant : c2bTenant db shortcodeToTenant cb = .ok tenantId)
    (hunused : referenceAlreadyUsed db tenantId cb.transId true = none)
    (hnone : (matchReference db tenantId cb.billRefNumber cb.msisdn).loan = none) :
    LeavesRoom shortcodeToTenant db (.c2b cb freshRef now) ↔
      fitsText 40 (nonEmpty cb.transId) = true ∧
        (¬ Parked db tenantId ((nonEmpty cb.transId).getD freshRef) →
          ((nonEmpty cb.transId).getD freshRef).length ≤ 40) := by
  constructor
  · intro hroom
    exact hroom.2 tenantId htenant hunused hnone
  · intro hthis
    refine ⟨fun x hx => ?_, fun t ht _ _ => ?_⟩
    · obtain ⟨loanId, loan, hmatch, -⟩ := (handed_c2b_iff htenant x).mp hx
      rw [hnone] at hmatch
      cases hmatch
    · obtain rfl := Except.ok.inj (ht.symm.trans htenant)
      exact hthis

/-- A receipt of a loan leaves room when its payment and its transaction do. -/
theorem leavesRoom_matched_iff (htenant : c2bTenant db shortcodeToTenant cb = .ok tenantId)
    (hmatch : (matchReference db tenantId cb.billRefNumber cb.msisdn).loan = some loanId)
    (hloan : loanRow db tenantId loanId = some loan) :
    LeavesRoom shortcodeToTenant db (.c2b cb freshRef now) ↔
      Handed.LeavesRoom ⟨db, loanId, loan, cb.payment tenantId freshRef now, none⟩ ∧
        (Accepts db loan (cb.payment tenantId freshRef now) →
          (cb.payment tenantId freshRef now).reference.length ≤ 40) := by
  have hthis : handed shortcodeToTenant db (.c2b cb freshRef now) =
      some ⟨db, loanId, loan, cb.payment tenantId freshRef now, none⟩ :=
    (handed_c2b_iff htenant _).mpr ⟨loanId, loan, hmatch, hloan, rfl⟩
  constructor
  · intro hroom
    exact hroom.1 _ hthis
  · intro hroom
    refine ⟨fun x hx => ?_, fun t ht _ hnone => ?_⟩
    · obtain rfl := Option.some.inj (hthis.symm.trans hx)
      exact hroom
    · obtain rfl := Except.ok.inj (ht.symm.trans htenant)
      rw [hmatch] at hnone
      cases hnone

/-- Parking a confirmation writes its entry and its transaction. -/
theorem parkConfirmation_fits {matched : Match} (hfits : db.referencesFit = true)
    (h : parkConfirmation db tenantId cb matched freshRef now = .ok out) :
    out.1.referencesFit = true ↔ fitsText 40 (nonEmpty cb.transId) = true ∧
      (¬ Parked db tenantId ((nonEmpty cb.transId).getD freshRef) →
        ((nonEmpty cb.transId).getD freshRef).length ≤ 40) := by
  obtain ⟨-, rfl⟩ := commitWith_eq_ok.mp h
  have hsuspense : db.suspense.all (·.referenceFits) = true := by
    simp only [Db.referencesFit, Bool.and_eq_true] at hfits
    exact hfits.1.2
  have hparked := @park_fits _ (cb.receipt tenantId matched freshRef) _ now rfl hsuspense
  rw [and_comm]
  refine Iff.trans (@fits_with_transaction
    (recordSuspense db (cb.receipt tenantId matched freshRef) now).1
    (cb.transaction tenantId none (nonEmpty cb.transId) now) _ ?_ ?_ ?_) (and_congr ?_ Iff.rfl)
  · rfl
  · rfl
  · rfl
  simp only [Db.referencesFit, Bool.and_eq_true] at hfits ⊢
  simp only [recordSuspense, hfits, true_and, and_true, hparked]
  simp [Parked, C2BCallback.receipt]

theorem c2b_fits (hfits : db.referencesFit = true)
    (h : processC2bCallback db shortcodeToTenant cb freshRef now = .ok out) :
    out.1.referencesFit = true ↔ LeavesRoom shortcodeToTenant db (.c2b cb freshRef now) := by
  obtain ⟨tenantId, htenant, h⟩ := bind_eq_ok.mp h
  split at h
  · rename_i hused
    cases h
    exact iff_of_true hfits (leavesRoom_of_used htenant hused)
  rename_i hused
  have hunused : referenceAlreadyUsed db tenantId cb.transId true = none := by simpa using hused
  dsimp only at h
  split at h
  · rename_i hnone
    rw [leavesRoom_unmatched_iff htenant hunused hnone]
    exact parkConfirmation_fits hfits h
  rename_i loanId hmatch
  split at h
  · cases h
  rename_i loan hloan
  have hrow := (loanRow_eq_some hloan).1
  obtain ⟨paid, hpay, h⟩ := bind_eq_ok.mp h
  have hpaid := payLoan_fits none hrow hfits hpay
  rw [leavesRoom_matched_iff htenant hmatch hloan]
  split at h
  · rename_i hduplicate
    cases h
    obtain ⟨hno, -⟩ | ⟨-, -, -, hstatus, -⟩ | ⟨-, -, -, hstatus, -⟩ := payLoan_cases hrow hpay
    · exact iff_of_true hfits ⟨fun hacc => absurd hacc hno, fun hacc => absurd hacc hno⟩
    · rw [hstatus] at hduplicate
      cases hduplicate
    · rw [hstatus] at hduplicate
      cases hduplicate
  · rename_i happlied
    obtain ⟨-, rfl⟩ := commitWith_eq_ok.mp h
    have haccepts : Accepts db loan (cb.payment tenantId freshRef now) ∧
        paid.2.ref = (cb.payment tenantId freshRef now).reference := by
      obtain ⟨-, -, hstatus⟩ | ⟨hacc, -, -, -, href, -⟩ | ⟨hacc, -, -, -, href, -⟩ :=
        payLoan_cases hrow hpay
      · exact absurd hstatus happlied
      · exact ⟨hacc, href⟩
      · exact ⟨hacc, href⟩
    refine Iff.trans (@fits_with_transaction paid.1
      (cb.transaction tenantId (some loanId) (some paid.2.ref) now) _ ?_ ?_ ?_) ?_
    · rfl
    · rfl
    · rfl
    rw [hpaid]
    refine and_congr Iff.rfl ?_
    simp [haccepts.1, haccepts.2, C2BCallback.transaction, fitsText]

end Confirmations

/-- The rows of a transaction whose reference is replaced by the receipt. -/
theorem stkPaid_fits {txnId : ℕ} {txn : PaymentTransaction} {receipt : String}
    (htxn : db.transactions[txnId]? = some txn) (hfits : db.referencesFit = true) :
    (stkPaid db txnId (some receipt)).referencesFit = true ↔ receipt.length ≤ 40 := by
  obtain ⟨hlt, -⟩ := List.getElem?_eq_some_iff.mp htxn
  simp only [Db.referencesFit, Bool.and_eq_true, List.all_eq_true] at hfits ⊢
  obtain ⟨hrows, htransactions⟩ := hfits
  have hsame : (∀ r ∈ (stkPaid db txnId (some receipt)).repayments, r.referenceFits = true) ∧
      ∀ e ∈ (stkPaid db txnId (some receipt)).suspense, e.referenceFits = true := hrows
  rw [and_iff_right hsame]
  constructor
  · intro hall
    have hmem : { txn with status := .success, mpesaRef := some receipt } ∈
        (stkPaid db txnId (some receipt)).transactions := by
      refine List.mem_iff_getElem?.mpr ⟨txnId, ?_⟩
      simp [stkPaid, Db.updateTransaction, htxn]
    simpa [PaymentTransaction.referenceFits, fitsText] using hall _ hmem
  · intro hroom t ht
    obtain ⟨i, hi⟩ := List.mem_iff_getElem?.mp ht
    simp only [stkPaid, Db.updateTransaction, List.getElem?_modify, Option.map_eq_map,
      Option.map_eq_some_iff] at hi
    obtain ⟨t', ht', rfl⟩ := hi
    split
    · simpa [PaymentTransaction.referenceFits, fitsText] using hroom
    · exact htransactions t' (List.mem_of_getElem? ht')

section Pushes

variable {cb : StkCallback} {freshRef checkoutId : String} {now : ℤ} {txnId : ℕ}
  {txn : PaymentTransaction}

/-- The push a callback answers. -/
theorem stkTransaction_eq (hcheckout : nonEmpty cb.checkoutRequestId = some checkoutId)
    (hfound : db.transactions.findIdx? (fun t =>
      t.type = .stkPush && t.mpesaRef = some checkoutId) = some txnId)
    (htxn : db.transactions[txnId]? = some txn) : stkTransaction db cb = some txn := by
  rw [stkTransaction, hcheckout, Option.bind_some, find?_of_findIdx? hfound htxn]

theorem handed_stk_iff (hcheckout : nonEmpty cb.checkoutRequestId = some checkoutId)
    (hfound : db.transactions.findIdx? (fun t =>
      t.type = .stkPush && t.mpesaRef = some checkoutId) = some txnId)
    (htxn : db.transactions[txnId]? = some txn) (x : Handed) :
    handed shortcodeToTenant db (.stk cb freshRef now) = some x ↔
      ∃ held, loanOf db txn.tenantId txn = some held ∧
        ⟨stkPaid db txnId (cb.payment txn freshRef now).ref, held.1, held.2,
          cb.payment txn freshRef now, none⟩ = x := by
  simp [handed, hcheckout, hfound, htxn, Option.bind_eq_some_iff]

/-- A callback that reports no payment of an open push leaves room. -/
theorem leavesRoom_of_not_succeeds (h : ¬StkSucceeds db cb) :
    LeavesRoom shortcodeToTenant db (.stk cb freshRef now) :=
  fun hsucceeds => absurd hsucceeds h

/-- A payment of an open push leaves room when the receipt does and what is handed over. -/
theorem leavesRoom_stk_iff (hsucceeds : StkSucceeds db cb)
    (htxn : stkTransaction db cb = some txn) :
    LeavesRoom shortcodeToTenant db (.stk cb freshRef now) ↔
      ((nonEmpty cb.receipt).getD freshRef).length ≤ 40 ∧
        ∀ x, handed shortcodeToTenant db (.stk cb freshRef now) = some x →
          0 < x.payment.amount → x.LeavesRoom := by
  have hpush : (stkTransaction db cb).isSome = true := by
    rw [htxn]
    rfl
  constructor
  · intro hroom
    exact hroom hsucceeds hpush
  · intro hboth _ _
    exact hboth

theorem stk_fits (hfits : db.referencesFit = true)
    (h : processStkCallback db cb freshRef now = .ok out) :
    out.1.referencesFit = true ↔ LeavesRoom shortcodeToTenant db (.stk cb freshRef now) := by
  simp only [processStkCallback] at h
  split at h
  · rename_i hcheckout
    cases h
    refine iff_of_true hfits fun _ hpush => ?_
    simp [stkTransaction, hcheckout] at hpush
  rename_i checkoutId hcheckout
  split at h
  · cases h
  rename_i txnId hfound
  split at h
  · cases h
  rename_i txn htxn
  have hpush := stkTransaction_eq hcheckout hfound htxn
  split at h
  · rename_i hsettled
    cases h
    refine iff_of_true hfits (leavesRoom_of_not_succeeds fun hsucceeds => ?_)
    obtain hopen | hopen := hsucceeds.2 txn hpush
    · simp [hopen] at hsettled
    · simp [hopen] at hsettled
  rename_i hwaits
  split at h
  · rename_i hfailed
    obtain ⟨-, rfl⟩ := commitWith_eq_ok.mp h
    refine iff_of_true ?_ (leavesRoom_of_not_succeeds fun hsucceeds => hfailed hsucceeds.1)
    rw [← hfits]
    exact referencesFit_congr (references_updateTransaction db txnId fun t => rfl)
  rename_i hcode
  have hsucceeds : StkSucceeds db cb := by
    refine ⟨not_not.mp hcode, fun t ht => ?_⟩
    obtain rfl := Option.some.inj (hpush.symm.trans ht)
    simpa [or_iff_not_imp_left] using hwaits
  have hpaid := @stkPaid_fits db txnId txn ((nonEmpty cb.receipt).getD freshRef) htxn hfits
  rw [leavesRoom_stk_iff hsucceeds hpush]
  simp only [handed_stk_iff hcheckout hfound htxn]
  split at h
  · rename_i loanId loan hloan
    split at h
    · rename_i hpositive
      obtain ⟨paid, hpay, h⟩ := bind_eq_ok.mp h
      obtain ⟨-, rfl⟩ := commitWith_eq_ok.mp h
      have hrow : (stkPaid db txnId (cb.payment txn freshRef now).ref).loans[loanId]? = some loan :=
        (loanOf_eq_some hloan).2.1
      have honly : (∀ x, (∃ held, loanOf db txn.tenantId txn = some held ∧
          (⟨stkPaid db txnId (cb.payment txn freshRef now).ref, held.1, held.2,
            cb.payment txn freshRef now, none⟩ : Handed) = x) → 0 < x.payment.amount →
              x.LeavesRoom) ↔
          Handed.LeavesRoom ⟨stkPaid db txnId (cb.payment txn freshRef now).ref, loanId, loan,
            cb.payment txn freshRef now, none⟩ := by
        constructor
        · intro hall
          exact hall _ ⟨_, hloan, rfl⟩ hpositive
        · rintro hthis x ⟨held, hheld, rfl⟩ -
          obtain rfl := Option.some.inj (hloan.symm.trans hheld)
          exact hthis
      rw [honly]
      by_cases hroom : ((nonEmpty cb.receipt).getD freshRef).length ≤ 40
      · rw [and_iff_right hroom]
        exact payLoan_fits none hrow (hpaid.mpr hroom) hpay
      · refine iff_of_false (fun hall => hroom (hpaid.mp ?_)) fun hboth => hroom hboth.1
        simp only [Db.referencesFit, Bool.and_eq_true, (payLoan_rows hpay).1] at hall hfits ⊢
        exact ⟨hfits.1, hall.2⟩
    · rename_i hnothing
      obtain ⟨-, rfl⟩ := commitWith_eq_ok.mp h
      refine hpaid.trans (and_iff_left_of_imp fun _ => ?_).symm
      rintro x ⟨held, -, rfl⟩ hpositive
      exact absurd hpositive hnothing
  · rename_i hnone
    obtain ⟨-, rfl⟩ := commitWith_eq_ok.mp h
    refine hpaid.trans (and_iff_left_of_imp fun _ => ?_).symm
    rintro x ⟨held, hheld, -⟩
    rw [hnone] at hheld
    cases hheld

end Pushes

theorem manual_fits {tenantId makerId : ℕ} {body : ManualPaymentIn} {needsChecker : Bool}
    {freshRef : String} {now : ℤ} (hfits : db.referencesFit = true)
    (h : recordManualPayment db tenantId makerId body needsChecker freshRef now = .ok out) :
    out.1.referencesFit = true ↔
      LeavesRoom shortcodeToTenant db
        (.manual tenantId makerId body needsChecker freshRef now) := by
  obtain ⟨entry, hentry, h⟩ := bind_eq_ok.mp h
  split at h
  · rename_i hchecker
    obtain ⟨-, rfl⟩ := commitWith_eq_ok.mp h
    refine iff_of_true hfits ?_
    simp [LeavesRoom, handed, hchecker]
  · rename_i hchecker
    obtain ⟨paid, hpay, h⟩ := bind_eq_ok.mp h
    obtain ⟨-, rfl⟩ := commitWith_eq_ok.mp h
    simp only [applyManual] at hpay
    split at hpay
    · cases hpay
    · have hthis : handed shortcodeToTenant db (.manual tenantId makerId body needsChecker freshRef
          now) = some ⟨db, entry.loanId, entry.loan,
            manualPayment tenantId entry.amount entry.details freshRef now, none⟩ := by
        simp [handed, hchecker, hentry, Except.toOption]
      simp only [LeavesRoom, hthis, Option.mem_some_iff, forall_eq']
      exact payLoan_fits none (validateManualPayment_eq_ok hentry).1 hfits hpay

theorem reconcile_fits {tenantId makerId loanId : ℕ} {amount : ℤ} {mpesaRef : Option String}
    {needsChecker : Bool} {freshRef : String} {now : ℤ} (hfits : db.referencesFit = true)
    (h : reconcilePayment db tenantId makerId loanId amount mpesaRef needsChecker freshRef now =
      .ok out) :
    out.1.referencesFit = true ↔ LeavesRoom shortcodeToTenant db
      (.reconcile tenantId makerId loanId amount mpesaRef needsChecker freshRef now) := by
  simp only [reconcilePayment] at h
  split at h
  · cases h
  split at h
  · cases h
  rename_i loan hloan
  have hthis : needsChecker = false →
      handed shortcodeToTenant db (.reconcile tenantId makerId loanId
      amount mpesaRef needsChecker freshRef now) = some ⟨db, loanId, loan,
        reconcilePaymentOf tenantId amount (cleanReference mpesaRef) freshRef now, none⟩ := by
    intro hchecker
    simp [handed, hchecker, hloan]
  have hnone : needsChecker = true → handed shortcodeToTenant db (.reconcile tenantId makerId loanId
      amount mpesaRef needsChecker freshRef now) = none := by
    intro hchecker
    simp [handed, hchecker]
  split at h
  · rename_i hknown
    cases h
    refine iff_of_true hfits ?_
    cases hchecker : needsChecker with
    | true => simp [LeavesRoom, ← hchecker, hnone hchecker]
    | false =>
      simp only [LeavesRoom, ← hchecker, hthis hchecker, Option.mem_some_iff, forall_eq']
      intro hacc
      obtain ⟨r, hr, hmatch⟩ := List.any_eq_true.mp hknown
      simp only [Bool.and_eq_true, decide_eq_true_eq, Option.isSome_iff_exists] at hmatch
      obtain ⟨⟨⟨ref, href⟩, htenant⟩, hrow⟩ := hmatch
      have hne : ref ≠ "" := by
        rw [cleanReference] at href
        exact (nonEmpty_eq_some.mp href).2
      have hreference : (reconcilePaymentOf tenantId amount (cleanReference mpesaRef) freshRef
          now).reference = ref := by
        have hown := nonEmpty_eq_some.mpr ⟨rfl, hne⟩
        simp [Payment.reference, reconcilePaymentOf, href, hown]
      have hnew := (hacc.new rfl (by rwa [hreference])).1
      rw [hreference] at hnew
      exact absurd ⟨r, hr, htenant, hrow.trans href⟩ hnew
  obtain ⟨-, -, h⟩ := bind_eq_ok.mp h
  obtain ⟨-, -, h⟩ := bind_eq_ok.mp h
  split at h
  · rename_i hchecker
    obtain ⟨-, rfl⟩ := commitWith_eq_ok.mp h
    refine iff_of_true hfits ?_
    simp [LeavesRoom, hnone hchecker]
  · rename_i hchecker
    obtain ⟨paid, hpay, h⟩ := bind_eq_ok.mp h
    obtain ⟨-, rfl⟩ := commitWith_eq_ok.mp h
    simp only [LeavesRoom, hthis (by simpa using hchecker), Option.mem_some_iff, forall_eq']
    exact payLoan_fits none (loanRow_eq_some hloan).1 hfits hpay

/-- An allocation writes what its payment does; the entry keeps its reference. -/
theorem allocateEntry_fits {tenantId entryId loanId resolver : ℕ} {entry : SuspenseEntry}
    {loan : Loan} {now : ℤ} {paid : Db × ApplyResult} (hrow : db.loans[loanId]? = some loan)
    (hfits : db.referencesFit = true)
    (h : allocateEntry db tenantId entryId entry loanId loan resolver now = .ok paid) :
    paid.1.referencesFit = true ↔ Handed.LeavesRoom
      ⟨db, loanId, loan, allocationPayment db tenantId entryId entry now, some entry⟩ := by
  simp only [allocateEntry] at h
  split at h
  · cases h
  obtain ⟨paid, hpay, rfl⟩ := map_eq_ok.mp h
  refine Iff.trans (iff_of_eq (congrArg (· = true) (referencesFit_congr ?_)))
    (payLoan_fits (some entry) hrow hfits hpay)
  exact references_updateSuspense paid.1 entryId fun e => rfl

theorem allocate_fits {tenantId makerId entryId loanId : ℕ} {needsChecker : Bool} {now : ℤ}
    (hfits : db.referencesFit = true)
    (h : allocateSuspense db tenantId makerId entryId loanId needsChecker now = .ok out) :
    out.1.referencesFit = true ↔ LeavesRoom shortcodeToTenant db
      (.allocate tenantId makerId entryId loanId needsChecker now) := by
  obtain ⟨found, hfound, h⟩ := bind_eq_ok.mp h
  split at h
  · cases h
    refine iff_of_true hfits ?_
    simp [LeavesRoom, handed, hfound, Except.toOption]
  rename_i entry
  obtain ⟨-, -, h⟩ := bind_eq_ok.mp h
  split at h
  · cases h
  rename_i loan hloan
  obtain ⟨-, -, h⟩ := bind_eq_ok.mp h
  split at h
  · rename_i hchecker
    obtain ⟨-, rfl⟩ := commitWith_eq_ok.mp h
    refine iff_of_true ?_ (by simp [LeavesRoom, handed, hchecker])
    rw [← hfits]
    exact referencesFit_congr (references_updateSuspense db entryId fun e => rfl)
  · rename_i hchecker
    obtain ⟨paid, hpay, h⟩ := bind_eq_ok.mp h
    obtain ⟨-, rfl⟩ := commitWith_eq_ok.mp h
    have hthis : handed shortcodeToTenant db (.allocate tenantId makerId entryId loanId needsChecker
        now) = some ⟨db, loanId, loan, allocationPayment db tenantId entryId entry now,
          some entry⟩ := by
      simp [handed, hchecker, hfound, hloan, Except.toOption]
    simp only [LeavesRoom, hthis, Option.mem_some_iff, forall_eq']
    exact allocateEntry_fits (loanRow_eq_some hloan).1 hfits hpay

theorem onRejected_references (db : Db) (tenantId : ℕ) (p : PendingApproval) :
    (onRejected db tenantId p).references = db.references := by
  have hreopened : ∀ sid, (db.updateSuspense sid (fun e =>
      if e.tenantId = tenantId ∧ e.status = .pendingApproval then { e with status := .open }
      else e)).references = db.references := by
    intro sid
    refine references_updateSuspense db sid fun e => ?_
    split_ifs <;> rfl
  simp only [onRejected]
  split
  · exact hreopened _
  · exact hreopened _
  · exact hreopened _
  · rfl

/-- An approved inward request writes what its payment does. -/
theorem approval_fits {tenantId pendingId checkerId : ℕ} {p : PendingApproval} {freshRef : String}
    {now : ℤ} {done : Db × Progress} (hfits : db.referencesFit = true)
    (hinward : p.actionType.inward = true)
    (h : beginApproval db tenantId pendingId p checkerId freshRef now = .ok done) :
    done.1.referencesFit = true ↔ ∀ x ∈ handedByRequest db tenantId p freshRef now,
      x.LeavesRoom := by
  cases beginApproval_inward hinward h with
  | paid loanId loan paid hhanded hrow hpaid hdone =>
    rw [hdone]
    simp only [hhanded, Option.mem_some_iff, forall_eq']
    exact payLoan_fits none hrow hfits hpaid
  | moved loanId entryId loan entry moved hhanded hrow hheld hmoved hdone =>
    rw [hdone]
    simp only [hhanded, Option.mem_some_iff, forall_eq']
    exact allocateEntry_fits hrow hfits hmoved

theorem decide_fits {tenantId pendingId : ℕ} {action : String} {checker : Checker}
    {freshRef : String} {now : ℤ} (hfits : db.referencesFit = true)
    (h : decideInward db tenantId pendingId action checker freshRef now = .ok out) :
    out.1.referencesFit = true ↔
      LeavesRoom shortcodeToTenant db (.decide tenantId pendingId action checker freshRef now) := by
  simp only [decideInward] at h
  split at h
  swap
  · cases h
  rename_i hinward
  obtain ⟨decision, hdecision, rfl⟩ := map_eq_ok.mp h
  obtain ⟨p, hp, hdecision⟩ := bind_eq_ok.mp hdecision
  split at hdecision
  · rename_i hreject
    obtain ⟨saved, hsaved, hdecision⟩ := bind_eq_ok.mp hdecision
    obtain ⟨-, rfl⟩ := Db.commit_eq_ok.mp hsaved
    cases hdecision
    refine iff_of_true ?_ (by simp [LeavesRoom, handed, hreject, Except.toOption])
    rw [← hfits]
    exact referencesFit_congr (onRejected_references (decided db pendingId .rejected checker.id)
      tenantId p)
  · rename_i happrove
    obtain ⟨hrow, -, -, -⟩ := decidable_eq_ok hp
    have hinward' : p.actionType.inward = true := by simpa [hrow] using hinward
    have hthis : handed shortcodeToTenant db
        (.decide tenantId pendingId action checker freshRef now) =
        handedByRequest db tenantId p freshRef now := by
      simp [handed, hp, happrove, Except.toOption]
    simp only [LeavesRoom, hthis]
    exact approval_fits hfits hinward' hdecision

/-- A delivery that goes through leaves all references within their columns exactly when those
it books leave room. -/
theorem deliver_fits {d : Delivery} (hfits : db.referencesFit = true)
    (h : deliver shortcodeToTenant db d = .ok out) :
    out.1.referencesFit = true ↔ LeavesRoom shortcodeToTenant db d := by
  cases d with
  | c2b cb freshRef now => exact c2b_fits hfits h
  | stk cb freshRef now => exact stk_fits hfits h
  | manual tenantId makerId body needsChecker freshRef now => exact manual_fits hfits h
  | reconcile tenantId makerId loanId amount mpesaRef needsChecker freshRef now =>
    exact reconcile_fits hfits h
  | allocate tenantId makerId entryId loanId needsChecker now => exact allocate_fits hfits h
  | decide tenantId pendingId action checker freshRef now => exact decide_fits hfits h
  | upkeep u =>
    cases h
    obtain ⟨loans, configs, hdb⟩ := Upkeep.apply_db db u
    refine iff_of_true ?_ (by simp [LeavesRoom, handed])
    rw [hdb, ← hfits]
    exact referencesFit_congr rfl

end Deliveries

/-- A row of the file at its turn, with the rows before it entered. -/
def RowAt (job : UploadJob) (db : Db) (file : PaymentFile) (s : UploadState) (x : FileRow × ℕ) :
    Prop :=
  ∃ rows rest, file.rows.take maxRows = rows ++ x.1 :: rest ∧ x.2 = rows.length + 2 ∧
    uploadRows job ⟨db, [], []⟩ 2 rows = .ok s

/-- An entry the upload accepts: it is new, and names an open loan. -/
structure EntryAccepted (job : UploadJob) (s : UploadState) (x : FileRow × ℕ) (e : FileEntry)
    (loanId : ℕ) (loan : Loan) : Prop where
  read : readRow x.1 x.2 job.now = .entry e
  new : e.reference ∉ s.seen
  free : ReferenceFree s.db job.tenantId e.reference
  names : openLoanNamed s.db job.tenantId e.account = some (loanId, loan)

/-- An accepted entry is written, and what is written fits exactly when a second person is to
decide on it, or its reference leaves room. -/
theorem writeEntry_spec {job : UploadJob} {s : UploadState} {x : FileRow × ℕ} {e : FileEntry}
    {loanId : ℕ} {loan : Loan} (h : EntryAccepted job s x e loanId loan)
    (hfits : s.db.referencesFit = true) :
    ∃ out, writeEntry job s.db x.2 e loanId loan = .ok out ∧ (out.1.referencesFit = true ↔
      (job.needsChecker e.amount = false → ReferenceFits s.db loanId loan (e.payment job))) := by
  obtain ⟨hrow, htenant, hopen⟩ := openLoanNamed_eq_some h.names
  obtain ⟨hamount, -, hchannel, hpaid⟩ := readRow_entry h.read
  have henter : Enterable job s.db e loanId loan :=
    ⟨hamount, (readRow_clean h.read).1, hchannel, hpaid, h.free, hrow, htenant, hopen⟩
  cases hchecker : job.needsChecker e.amount with
  | true =>
    generalize hparked : parkManualPayment s.db job.tenantId job.makerId loanId e.amount
      (e.details job.now) (some (cut 200 (uploadNote job x.2))) = parked
    refine ⟨(parked.1, .parked x.2 e.reference loanId parked.2), ?_, iff_of_true ?_ (by simp)⟩
    · simp only [writeEntry, hchecker, if_true, hparked]
    · rw [← hparked]
      exact hfits
  | false =>
    obtain ⟨paid, hpay⟩ := payLoan_completes s.db loanId henter.accepts.1 henter.accepts.2.1
    have hmanual : applyManual s.db job.tenantId loanId loan e.amount (e.details job.now) ""
        job.now = .ok paid := by
      simpa [applyManual, hopen, FileEntry.payment] using hpay
    refine ⟨(paid.1, .applied x.2 e.reference loanId paid.2.applied), ?_, ?_⟩
    · simp only [writeEntry, hchecker, Bool.false_eq_true, if_false, hmanual]
      rfl
    · refine (payLoan_fits none hrow hfits hpay).trans ?_
      simp only [Handed.LeavesRoom, hopen, true_imp_iff, reduceCtorEq, false_imp_iff, and_true]
      exact ⟨fun hall => hall henter.accepts, fun hall _ => hall⟩

theorem uploadRow_storable {job : UploadJob} {s s' : UploadState} {line : ℕ} {row : FileRow}
    (hstorable : s.db.storable = true) (h : uploadRow job s line row = .ok s') :
    s'.db.storable = true := by
  simp only [uploadRow] at h
  split at h
  · cases h
  · cases h
    exact hstorable
  split at h
  · cases h
    exact hstorable
  obtain ⟨out, hout, rfl⟩ := map_eq_ok.mp h
  simp only [enterRow] at hout
  split at hout
  · cases hout
  split at hout
  · cases hout
    exact hstorable
  · cases hout
  split at hout
  · cases hout
  split at hout
  · cases hout
    exact hstorable
  split at hout
  · cases hout
    exact hstorable
  · obtain ⟨written, -, hflushed⟩ := bind_eq_ok.mp hout
    obtain ⟨hstored, rfl⟩ := flushed_eq_ok.mp hflushed
    exact hstored

theorem uploadRows_storable {job : UploadJob} {s s' : UploadState} {line : ℕ} {rows : List FileRow}
    (hstorable : s.db.storable = true) (h : uploadRows job s line rows = .ok s') :
    s'.db.storable = true := by
  induction rows generalizing s line with
  | nil =>
    obtain rfl := Except.ok.inj h
    exact hstorable
  | cons row rows ih =>
    obtain ⟨mid, hmid, hrest⟩ := bind_eq_ok.mp h
    exact ih (uploadRow_storable hstorable hmid) hrest

/-- A delivery, or a file of payments. -/
inductive BookEvent
  | delivery (d : Delivery)
  | upload (job : UploadJob) (file : PaymentFile)

section Events

variable (shortcodeToTenant : String → Option ℕ)

/-- The book after an event. What does not fit its columns is not stored. -/
def bookStep (db : Db) : BookEvent → Db
  | .delivery d =>
    match deliver shortcodeToTenant db d with
    | .ok out => if out.1.storable then out.1 else db
    | .error _ => db
  | .upload job file =>
    match paymentUpload db job file with
    | .ok out => out.1
    | .error _ => db

/-- No write of an accepted payment fails because of a reference. -/
def ReferencesStored (db : Db) : BookEvent → Prop
  | .delivery d => ∀ out, deliver shortcodeToTenant db d = .ok out → out.1.referencesFit = true
  | .upload job file => ∀ s x, RowAt job db file s x → ∀ e loanId loan,
      EntryAccepted job s x e loanId loan →
        ∀ out, writeEntry job s.db x.2 e loanId loan = .ok out → out.1.referencesFit = true

/-- The reference of each accepted payment leaves room for what is derived from it. -/
def ReferencesRoomy (db : Db) : BookEvent → Prop
  | .delivery d => (∃ out, deliver shortcodeToTenant db d = .ok out) →
      LeavesRoom shortcodeToTenant db d
  | .upload job file => ∀ s x, RowAt job db file s x → ∀ e loanId loan,
      EntryAccepted job s x e loanId loan → job.needsChecker e.amount = false →
        ReferenceFits s.db loanId loan (e.payment job)

variable {shortcodeToTenant}

theorem bookStep_storable {db : Db} (event : BookEvent) (h : db.storable = true) :
    (bookStep shortcodeToTenant db event).storable = true := by
  cases event with
  | delivery d =>
    simp only [bookStep]
    split
    · split_ifs with hstorable
      · exact hstorable
      · exact h
    · exact h
  | upload job file =>
    simp only [bookStep]
    split
    · rename_i out hout
      obtain ⟨s, hs, hrest⟩ := bind_eq_ok.mp hout
      split at hrest
      · cases hrest
      · obtain ⟨saved, hsaved, hdone⟩ := bind_eq_ok.mp hrest
        obtain ⟨-, rfl⟩ := Db.commit_eq_ok.mp hsaved
        obtain rfl := Except.ok.inj hdone
        exact uploadRows_storable h hs
    · exact h

/-- The step lemma: the references of an event are stored exactly when they leave room. -/
theorem referencesStored_iff {db : Db} (event : BookEvent) (h : db.storable = true) :
    ReferencesStored shortcodeToTenant db event ↔ ReferencesRoomy shortcodeToTenant db event := by
  have hfits : ∀ {db : Db}, db.storable = true → db.referencesFit = true := by
    intro db hstorable
    simp only [Db.storable, Bool.and_eq_true] at hstorable
    exact hstorable.1
  cases event with
  | delivery d =>
    simp only [ReferencesStored, ReferencesRoomy]
    constructor
    · rintro hstored ⟨out, hout⟩
      exact (deliver_fits (hfits h) hout).mp (hstored out hout)
    · intro hroomy out hout
      exact (deliver_fits (hfits h) hout).mpr (hroomy ⟨out, hout⟩)
  | upload job file =>
    simp only [ReferencesStored, ReferencesRoomy]
    refine forall_congr' fun s => forall_congr' fun x => forall_congr' fun hturn =>
      forall_congr' fun e => forall_congr' fun loanId => forall_congr' fun loan =>
        forall_congr' fun haccepted => ?_
    obtain ⟨rows, rest, -, -, hrows⟩ := hturn
    obtain ⟨written, hwritten, hiff⟩ :=
      writeEntry_spec haccepted (hfits (uploadRows_storable h hrows))
    constructor
    · intro hstored
      exact hiff.mp (hstored written hwritten)
    · intro hroomy out hout
      obtain rfl := Except.ok.inj (hwritten.symm.trans hout)
      exact hiff.mpr hroomy

/-- Over a run, every accepted reference is stored exactly when each leaves room at its turn. -/
theorem references_stored_iff {db : Db} (events : List BookEvent) (h : db.storable = true) :
    AllSteps (bookStep shortcodeToTenant) (ReferencesStored shortcodeToTenant) db events ↔
      AllSteps (bookStep shortcodeToTenant) (ReferencesRoomy shortcodeToTenant) db events :=
  allSteps_congr (fun _ event => bookStep_storable event)
    (fun _ event => referencesStored_iff event) h

end Events

/-- A manual entry that is to wait for a second person, and that person's approval. -/
def entryToApprove (ref : String) (amount : ℤ) : BookEvent :=
  .delivery (.manual 1 7 (statementLine ref amount 6) true "MAN-1" 518400)

def approval : Delivery := .decide 1 0 "approve" ⟨8, true, [], []⟩ "" 518500

/-- The entry waits, is approved, and settles the loan with money left over. -/
theorem references_stored_iff_approved :
    AllSteps (bookStep fun _ => some 1) (ReferencesStored fun _ => some 1) fourWeekBook
      [entryToApprove "QA1" 1200000, .delivery approval] := by
  have hshort : ∀ x ∈ handed (fun _ => some 1) (bookStep (fun _ => some 1) fourWeekBook
      (entryToApprove "QA1" 1200000)) approval, x.payment.reference.length ≤ 30 := by
    decide
  refine (references_stored_iff _ (by decide)).mpr ⟨?_, ?_, trivial⟩
  · simp [ReferencesRoomy, entryToApprove, LeavesRoom, handed]
  · exact fun _ x hx => Handed.leavesRoom_of_short (hshort x hx)

/-- A reference of 31 characters is accepted and its payment approved: the repayment does not
fit. -/
theorem long_reference_refused : fourWeekBook.storable = true ∧
    ¬ AllSteps (bookStep fun _ => some 1) (ReferencesStored fun _ => some 1) fourWeekBook
      [entryToApprove "FT26091400000000000000000000QA1" 200000, .delivery approval] := by
  refine ⟨by decide, fun h => ?_⟩
  have happroved := h.2.1
  have hwrites : ((deliver (fun _ => some 1) (bookStep (fun _ => some 1) fourWeekBook
      (entryToApprove "FT26091400000000000000000000QA1" 200000)) approval).toOption.map
        (·.1.referencesFit)) = some false := by decide +kernel
  obtain ⟨out, hout, hlong⟩ := Option.map_eq_some_iff.mp hwrites
  have hfits := happroved out (ok_of_toOption hout)
  rw [hlong] at hfits
  cases hfits

end FinylDcp
