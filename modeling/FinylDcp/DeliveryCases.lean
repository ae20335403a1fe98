import FinylDcp.ReferenceEffects

/-!
# How a delivery ends

A delivery that goes through, on any channel, brings no money, brings money that is on the
books already, parks a confirmation that no loan is found for, hands a payment to a loan, or
moves an entry to one.
-/
namespace FinylDcp
open Tables Text

/-- The receipt of a payment. -/
def Payment.receipt (p : Payment) : Acceptance := ⟨p.tenantId, p.reference, p.amount⟩

/-- The receipt of a payment on its way to a loan, unless the money comes out of suspense. -/
def Handed.receipt (x : Handed) : Option Acceptance :=
  if x.entry.isSome then none else some x.payment.receipt

/-- The receipt a delivery would bring: that of a paybill confirmation, or of the payment it
hands over. -/
def Delivery.brings (shortcodeToTenant : String → Option ℕ) (db : Db) :
    Delivery → Option Acceptance
  | .c2b cb freshRef _ => (c2bTenant db shortcodeToTenant cb).toOption.map (fun tenantId =>
      ⟨tenantId, (nonEmpty cb.transId).getD freshRef, cb.transAmount⟩)
  | d => (handed shortcodeToTenant db d).bind Handed.receipt

/-- The receipt a delivery brings: a confirmation brings its own however it is answered, any
other when a payment was handled. -/
def Delivery.receipt (shortcodeToTenant : String → Option ℕ) (db : Db) (d : Delivery)
    (reply : Reply) : Option Acceptance :=
  match d, reply with
  | .c2b .., _ => d.brings shortcodeToTenant db
  | _, .payment .. => d.brings shortcodeToTenant db
  | _, _ => none

theorem Delivery.receipt_brings {shortcodeToTenant : String → Option ℕ} {db : Db} {d : Delivery}
    {reply : Reply} {r : Acceptance} (h : d.receipt shortcodeToTenant db reply = some r) :
    d.brings shortcodeToTenant db = some r := by
  unfold Delivery.receipt at h
  split at h
  · exact h
  · exact h
  · cases h

/-- A row of the tenant carries the reference. -/
def Carried (db : Db) (tenantId : ℕ) (ref : String) : Prop :=
  ref ≠ "" ∧ (Repaid db tenantId ref ∨ Parked db tenantId ref)

instance (db : Db) (tenantId : ℕ) (ref : String) : Decidable (Carried db tenantId ref) := by
  unfold Carried
  infer_instance

/-- A reference that the check finds is carried. -/
theorem carried_of_used {db : Db} {tenantId : ℕ} {ref : Option String} (freshRef : String)
    (h : (referenceAlreadyUsed db tenantId ref true).isSome = true) :
    Carried db tenantId ((nonEmpty ref).getD freshRef) := by
  cases href : nonEmpty ref with
  | none => simp [referenceAlreadyUsed, href] at h
  | some r =>
    obtain ⟨rfl, hne⟩ := nonEmpty_eq_some.mp href
    refine ⟨hne, ?_⟩
    by_contra hnew
    rw [not_or] at hnew
    rw [(referenceAlreadyUsed_eq_none hne).mpr ⟨hnew.1, fun _ => hnew.2⟩] at h
    cases h

/-- An answer that tells of no payment. -/
def Reply.silent : Reply → Bool
  | .acknowledged | .awaitingApproval _ => true
  | _ => false

/-- The ways a delivery that goes through ends. -/
inductive Delivery.Ends (shortcodeToTenant : String → Option ℕ) (db : Db) (d : Delivery)
    (out : Db × Reply) : Prop
  | quiet (hreceipt : d.receipt shortcodeToTenant db out.2 = none) (hreply : out.2.silent = true)
      (hrepayments : out.1.repayments = db.repayments)
      (hsuspense : out.1.suspense.map SuspenseEntry.face = db.suspense.map SuspenseEntry.face)
  | known (r : Acceptance) (hreceipt : d.receipt shortcodeToTenant db out.2 = some r)
      (hcarried : Carried db r.tenantId r.ref) (hout : out = (db, .acknowledged))
  | unmatched (cb : C2BCallback) (freshRef : String) (now : ℤ) (tenantId : ℕ)
      (hd : d = .c2b cb freshRef now) (htenant : c2bTenant db shortcodeToTenant cb = .ok tenantId)
      (hunused : referenceAlreadyUsed db tenantId cb.transId true = none)
      (hparked : parkConfirmation db tenantId cb
        (matchReference db tenantId cb.billRefNumber cb.msisdn) freshRef now = .ok out)
  | paid (x : Handed) (result : Db × ApplyResult)
      (hhanded : handed shortcodeToTenant db d = some x)
      (hsource : x.payment.fromSuspense = false) (hrow : x.db.loans[x.loanId]? = some x.loan)
      (hsame : x.db.repayments = db.repayments ∧ x.db.suspense = db.suspense)
      (hpaid : payLoan x.db x.loanId x.loan x.payment = .ok result)
      (hreceipt : d.receipt shortcodeToTenant db out.2 = some x.payment.receipt)
      (hreply : out.2 = .payment x.payment.tenantId result.2 ∨
        (result.2.status = .duplicateIgnored ∧ out.2 = .acknowledged))
      (hrows : out.1.repayments = result.1.repayments ∧ out.1.suspense = result.1.suspense)
  | moved (tenantId entryId loanId resolver : ℕ) (entry : SuspenseEntry) (loan : Loan) (now : ℤ)
      (result : Db × ApplyResult)
      (hhanded : handed shortcodeToTenant db d =
        some ⟨db, loanId, loan, allocationPayment db tenantId entryId entry now, some entry⟩)
      (hrow : db.loans[loanId]? = some loan) (hentry : db.suspense[entryId]? = some entry)
      (htenant : entry.tenantId = tenantId) (hheld : entry.status ≠ .allocated)
      (hmoved : allocateEntry db tenantId entryId entry loanId loan resolver now = .ok result)
      (hreceipt : d.receipt shortcodeToTenant db out.2 = none)
      (hreply : out.2 = .payment tenantId result.2)
      (hrows : out.1.repayments = result.1.repayments ∧ out.1.suspense = result.1.suspense)

section Channels

variable {shortcodeToTenant : String → Option ℕ} {db : Db} {out : Db × Reply}

theorem c2b_ends {cb : C2BCallback} {freshRef : String} {now : ℤ}
    (h : processC2bCallback db shortcodeToTenant cb freshRef now = .ok out) :
    Delivery.Ends shortcodeToTenant db (.c2b cb freshRef now) out := by
  obtain ⟨tenantId, htenant, h⟩ := bind_eq_ok.mp h
  have hreceipt : ∀ reply, (Delivery.c2b cb freshRef now).receipt shortcodeToTenant db reply =
      some ⟨tenantId, (nonEmpty cb.transId).getD freshRef, cb.transAmount⟩ := fun reply => by
    simp [Delivery.receipt, Delivery.brings, htenant, Except.toOption]
  split at h
  · rename_i hused
    cases h
    exact .known _ (hreceipt _) (carried_of_used freshRef hused) rfl
  rename_i hused
  have hunused : referenceAlreadyUsed db tenantId cb.transId true = none := by simpa using hused
  dsimp only at h
  split at h
  · exact .unmatched cb freshRef now tenantId rfl htenant hunused h
  rename_i loanId hmatch
  split at h
  · cases h
  rename_i loan hloan
  have hrow := (loanRow_eq_some hloan).1
  have hhanded : handed shortcodeToTenant db (.c2b cb freshRef now) =
      some ⟨db, loanId, loan, cb.payment tenantId freshRef now, none⟩ := by
    simp [handed, htenant, Except.toOption, hmatch, hloan]
  obtain ⟨paid, hpay, h⟩ := bind_eq_ok.mp h
  split at h
  · rename_i hduplicate
    cases h
    refine .paid _ paid hhanded rfl hrow ⟨rfl, rfl⟩ hpay (hreceipt _) (.inr ⟨hduplicate, rfl⟩) ?_
    obtain ⟨-, hdb, -⟩ | ⟨-, -, -, hstatus, -⟩ | ⟨-, -, -, hstatus, -⟩ := payLoan_cases hrow hpay
    · rw [hdb]
      exact ⟨rfl, rfl⟩
    · rw [hstatus] at hduplicate
      cases hduplicate
    · rw [hstatus] at hduplicate
      cases hduplicate
  · obtain ⟨-, rfl⟩ := commitWith_eq_ok.mp h
    exact .paid _ paid hhanded rfl hrow ⟨rfl, rfl⟩ hpay (hreceipt _) (.inl rfl) ⟨rfl, rfl⟩

theorem stk_ends {cb : StkCallback} {freshRef : String} {now : ℤ}
    (h : processStkCallback db cb freshRef now = .ok out) :
    Delivery.Ends shortcodeToTenant db (.stk cb freshRef now) out := by
  simp only [processStkCallback] at h
  split at h
  · cases h
    exact .quiet rfl rfl rfl rfl
  rename_i checkoutId hcheckout
  split at h
  · cases h
  rename_i txnId hfound
  split at h
  · cases h
  rename_i txn htxn
  split at h
  · cases h
    exact .quiet rfl rfl rfl rfl
  split at h
  · obtain ⟨-, rfl⟩ := commitWith_eq_ok.mp h
    exact .quiet rfl rfl rfl rfl
  split at h
  · rename_i loanId loan hloan
    split at h
    · obtain ⟨paid, hpay, h⟩ := bind_eq_ok.mp h
      obtain ⟨-, rfl⟩ := commitWith_eq_ok.mp h
      have hhanded : handed shortcodeToTenant db (.stk cb freshRef now) =
          some ⟨stkPaid db txnId (cb.payment txn freshRef now).ref, loanId, loan,
            cb.payment txn freshRef now, none⟩ := by
        simp [handed, hcheckout, hfound, htxn, hloan]
      have hreceipt : (Delivery.stk cb freshRef now).receipt shortcodeToTenant db
          (.payment txn.tenantId paid.2) = some (cb.payment txn freshRef now).receipt := by
        simp [Delivery.receipt, Delivery.brings, hhanded, Handed.receipt]
      exact .paid _ paid hhanded rfl (loanOf_eq_some hloan).2.1 ⟨rfl, rfl⟩ hpay hreceipt (.inl rfl)
        ⟨rfl, rfl⟩
    · obtain ⟨-, rfl⟩ := commitWith_eq_ok.mp h
      exact .quiet rfl rfl rfl rfl
  · obtain ⟨-, rfl⟩ := commitWith_eq_ok.mp h
    exact .quiet rfl rfl rfl rfl

/-- A manual entry is parked for approval, or applied at once. -/
theorem manual_ends {tenantId makerId : ℕ} {body : ManualPaymentIn} {needsChecker : Bool}
    {freshRef : String} {now : ℤ}
    (h : recordManualPayment db tenantId makerId body needsChecker freshRef now = .ok out) :
    Delivery.Ends shortcodeToTenant db (.manual tenantId makerId body needsChecker freshRef now)
      out := by
  obtain ⟨entry, hentry, h⟩ := bind_eq_ok.mp h
  split at h
  · obtain ⟨-, rfl⟩ := commitWith_eq_ok.mp h
    exact .quiet rfl rfl rfl rfl
  · rename_i hchecker
    obtain ⟨paid, hpay, h⟩ := bind_eq_ok.mp h
    obtain ⟨-, rfl⟩ := commitWith_eq_ok.mp h
    have hhanded : handed shortcodeToTenant db
        (.manual tenantId makerId body needsChecker freshRef now) = some ⟨db, entry.loanId,
          entry.loan, manualPayment tenantId entry.amount entry.details freshRef now, none⟩ := by
      simp [handed, hchecker, hentry, Except.toOption]
    simp only [applyManual] at hpay
    split at hpay
    · cases hpay
    · exact .paid _ paid hhanded rfl (validateManualPayment_eq_ok hentry).1 ⟨rfl, rfl⟩ hpay
        (by simp [Delivery.receipt, Delivery.brings, hhanded, Handed.receipt]) (.inl rfl) ⟨rfl, rfl⟩

theorem reconcile_ends {tenantId makerId loanId : ℕ} {amount : ℤ} {mpesaRef : Option String}
    {needsChecker : Bool} {freshRef : String} {now : ℤ}
    (h : reconcilePayment db tenantId makerId loanId amount mpesaRef needsChecker freshRef now =
      .ok out) :
    Delivery.Ends shortcodeToTenant db
      (.reconcile tenantId makerId loanId amount mpesaRef needsChecker freshRef now) out := by
  simp only [reconcilePayment] at h
  split at h
  · cases h
  split at h
  · cases h
  rename_i loan hloan
  split at h
  · cases h
    exact .quiet rfl rfl rfl rfl
  obtain ⟨-, -, h⟩ := bind_eq_ok.mp h
  obtain ⟨-, -, h⟩ := bind_eq_ok.mp h
  split at h
  · obtain ⟨-, rfl⟩ := commitWith_eq_ok.mp h
    exact .quiet rfl rfl rfl rfl
  · rename_i hchecker
    obtain ⟨paid, hpay, h⟩ := bind_eq_ok.mp h
    obtain ⟨-, rfl⟩ := commitWith_eq_ok.mp h
    have hhanded : handed shortcodeToTenant db
        (.reconcile tenantId makerId loanId amount mpesaRef needsChecker freshRef now) =
          some ⟨db, loanId, loan,
            reconcilePaymentOf tenantId amount (cleanReference mpesaRef) freshRef now, none⟩ := by
      simp [handed, hchecker, hloan]
    exact .paid _ paid hhanded rfl (loanRow_eq_some hloan).1 ⟨rfl, rfl⟩ hpay
      (by simp [Delivery.receipt, Delivery.brings, hhanded, Handed.receipt]) (.inl rfl) ⟨rfl, rfl⟩

theorem allocate_ends {tenantId makerId entryId loanId : ℕ} {needsChecker : Bool} {now : ℤ}
    (h : allocateSuspense db tenantId makerId entryId loanId needsChecker now = .ok out) :
    Delivery.Ends shortcodeToTenant db
      (.allocate tenantId makerId entryId loanId needsChecker now) out := by
  obtain ⟨found, hfound, h⟩ := bind_eq_ok.mp h
  split at h
  · cases h
    exact .quiet rfl rfl rfl rfl
  rename_i entry
  obtain ⟨hentry, htenant, hopen⟩ := openEntry_eq_some hfound
  obtain ⟨-, -, h⟩ := bind_eq_ok.mp h
  split at h
  · cases h
  rename_i loan hloan
  obtain ⟨-, -, h⟩ := bind_eq_ok.mp h
  split at h
  · obtain ⟨-, rfl⟩ := commitWith_eq_ok.mp h
    refine .quiet rfl rfl rfl (map_modify_of_row SuspenseEntry.face fun e he => ?_)
    obtain rfl : entry = e := Option.some.inj (hentry.symm.trans he)
    simp [SuspenseEntry.face, hopen]
  · rename_i hchecker
    obtain ⟨paid, hpay, h⟩ := bind_eq_ok.mp h
    obtain ⟨-, rfl⟩ := commitWith_eq_ok.mp h
    have hhanded : handed shortcodeToTenant db
        (.allocate tenantId makerId entryId loanId needsChecker now) = some ⟨db, loanId, loan,
          allocationPayment db tenantId entryId entry now, some entry⟩ := by
      simp [handed, hchecker, hfound, hloan, Except.toOption]
    exact .moved tenantId entryId loanId makerId entry loan now paid hhanded
      (loanRow_eq_some hloan).1 hentry htenant (by simp [hopen]) hpay
      (by simp [Delivery.receipt, Delivery.brings, hhanded, Handed.receipt]) rfl ⟨rfl, rfl⟩

/-- Rejecting a request moves no money. -/
theorem onRejected_faces (db : Db) (tenantId : ℕ) (p : PendingApproval) :
    (onRejected db tenantId p).repayments = db.repayments ∧
      (onRejected db tenantId p).suspense.map SuspenseEntry.face =
        db.suspense.map SuspenseEntry.face := by
  have hreopened : ∀ sid, (db.suspense.modify sid (fun e =>
      if e.tenantId = tenantId ∧ e.status = .pendingApproval then
        { e with status := .open } else e)).map
        SuspenseEntry.face = db.suspense.map SuspenseEntry.face := by
    intro sid
    refine map_modify_of_eq _ (fun e => ?_) _ _
    split_ifs with hheld
    · simp [SuspenseEntry.face, hheld.2]
    · rfl
  simp only [onRejected]
  split
  · exact ⟨rfl, hreopened _⟩
  · exact ⟨rfl, hreopened _⟩
  · exact ⟨rfl, hreopened _⟩
  · exact ⟨rfl, rfl⟩

/-- The ways an approved inward request goes through: its payment is applied, or its entry is
moved. -/
inductive InwardApproved (db : Db) (tenantId pendingId : ℕ) (p : PendingApproval) (checkerId : ℕ)
    (freshRef : String) (now : ℤ) (done : Db × Progress) : Prop
  | paid (loanId : ℕ) (loan : Loan) (paid : Db × ApplyResult)
      (hhanded : handedByRequest db tenantId p freshRef now =
        some ⟨db, loanId, loan, manualPayment tenantId p.amount p.details freshRef now, none⟩)
      (hrow : db.loans[loanId]? = some loan)
      (hpaid : payLoan db loanId loan (manualPayment tenantId p.amount p.details freshRef now) =
        .ok paid)
      (hdone : done = (decided paid.1 pendingId .approved checkerId, .finished (some paid.2)))
  | moved (loanId entryId : ℕ) (loan : Loan) (entry : SuspenseEntry) (moved : Db × ApplyResult)
      (hhanded : handedByRequest db tenantId p freshRef now =
        some ⟨db, loanId, loan, allocationPayment db tenantId entryId entry now, some entry⟩)
      (hrow : db.loans[loanId]? = some loan)
      (hheld : lockedEntry db tenantId p = .ok (entryId, entry))
      (hmoved : allocateEntry db tenantId entryId entry loanId loan checkerId now = .ok moved)
      (hdone : done = (decided moved.1 pendingId .approved checkerId, .finished (some moved.2)))

theorem beginApproval_inward {tenantId pendingId checkerId : ℕ} {p : PendingApproval}
    {freshRef : String} {now : ℤ} {done : Db × Progress} (hinward : p.actionType.inward = true)
    (h : beginApproval db tenantId pendingId p checkerId freshRef now = .ok done) :
    InwardApproved db tenantId pendingId p checkerId freshRef now done := by
  cases beginApproval_approved h with
  | payment htype loanId loan hid hloan paid hpaid hindexed =>
    have hhanded : handedByRequest db tenantId p freshRef now = some ⟨db, loanId, loan,
        manualPayment tenantId p.amount p.details freshRef now, none⟩ := by
      simp [handedByRequest, hid, hloan, htype]
    exact .paid loanId loan paid hhanded (loanRow_eq_some hloan).1 hpaid rfl
  | allocation htype held hheld loanId loan hid hloan moved hmoved hindexed =>
    have hhanded : handedByRequest db tenantId p freshRef now = some ⟨db, loanId, loan,
        allocationPayment db tenantId held.1 held.2 now, some held.2⟩ := by
      simp [handedByRequest, hid, hloan, htype, hheld, Except.toOption]
    exact .moved loanId held.1 loan held.2 moved hhanded (loanRow_eq_some hloan).1 hheld hmoved rfl
  | payout htype => simp [htype, ActionType.inward] at hinward
  | loanRefund htype => simp [htype, ActionType.inward] at hinward
  | entryRefund htype => simp [htype, ActionType.inward] at hinward
  | reversal htype => simp [htype, ActionType.inward] at hinward

/-- An approved inward request applies its payment, or moves its entry. -/
theorem approval_ends {d : Delivery} {tenantId pendingId checkerId : ℕ} {p : PendingApproval}
    {freshRef : String} {now : ℤ} {done : Db × Progress} (hinward : p.actionType.inward = true)
    (hd : handed shortcodeToTenant db d = handedByRequest db tenantId p freshRef now)
    (hreceipt : ∀ t result, d.receipt shortcodeToTenant db (.payment t result) =
      (handed shortcodeToTenant db d).bind Handed.receipt)
    (h : beginApproval db tenantId pendingId p checkerId freshRef now = .ok done) :
    ∃ result, done.2 = .finished (some result) ∧
      Delivery.Ends shortcodeToTenant db d (done.1, .payment tenantId result) := by
  cases beginApproval_inward hinward h with
  | paid loanId loan paid hhanded hrow hpaid hdone =>
    rw [← hd] at hhanded
    rw [hdone]
    exact ⟨paid.2, rfl, .paid _ paid hhanded rfl hrow ⟨rfl, rfl⟩ hpaid
      (by simp [hreceipt, hhanded, Handed.receipt]) (.inl rfl) ⟨rfl, rfl⟩⟩
  | moved loanId entryId loan entry moved hhanded hrow hheld hmoved hdone =>
    rw [← hd] at hhanded
    rw [hdone]
    obtain ⟨-, hentry, htenant, hstatus⟩ := lockedEntry_eq_ok hheld
    dsimp only at hstatus
    exact ⟨moved.2, rfl, .moved tenantId entryId loanId checkerId entry loan now moved hhanded
      hrow hentry htenant (by simp [hstatus]) hmoved
      (by simp [hreceipt, hhanded, Handed.receipt]) rfl ⟨rfl, rfl⟩⟩

theorem decide_ends {tenantId pendingId : ℕ} {action : String} {checker : Checker}
    {freshRef : String} {now : ℤ}
    (h : decideInward db tenantId pendingId action checker freshRef now = .ok out) :
    Delivery.Ends shortcodeToTenant db
      (.decide tenantId pendingId action checker freshRef now) out := by
  simp only [decideInward] at h
  split at h
  swap
  · cases h
  rename_i hinward
  obtain ⟨decision, hdecision, rfl⟩ := map_eq_ok.mp h
  obtain ⟨p, hp, hdecision⟩ := bind_eq_ok.mp hdecision
  split at hdecision
  · obtain ⟨saved, hsaved, hdecision⟩ := bind_eq_ok.mp hdecision
    obtain ⟨-, rfl⟩ := Db.commit_eq_ok.mp hsaved
    cases hdecision
    obtain ⟨hrepayments, hsuspense⟩ :=
      onRejected_faces (decided db pendingId .rejected checker.id) tenantId p
    exact .quiet rfl rfl hrepayments hsuspense
  · rename_i happrove
    obtain ⟨hrow, -, -, -⟩ := decidable_eq_ok hp
    have hinward' : p.actionType.inward = true := by simpa [hrow] using hinward
    have hhanded : handed shortcodeToTenant db
        (.decide tenantId pendingId action checker freshRef now) =
        handedByRequest db tenantId p freshRef now := by
      simp [handed, hp, happrove, Except.toOption]
    obtain ⟨result, hresult, hends⟩ :=
      approval_ends hinward' hhanded (fun _ _ => rfl) hdecision
    simpa only [hresult] using hends

/-- Every delivery that goes through ends in one of the ways. -/
theorem deliver_ends {d : Delivery} (h : deliver shortcodeToTenant db d = .ok out) :
    Delivery.Ends shortcodeToTenant db d out := by
  cases d with
  | c2b cb freshRef now => exact c2b_ends h
  | stk cb freshRef now => exact stk_ends h
  | manual tenantId makerId body needsChecker freshRef now => exact manual_ends h
  | reconcile tenantId makerId loanId amount mpesaRef needsChecker freshRef now =>
    exact reconcile_ends h
  | allocate tenantId makerId entryId loanId needsChecker now => exact allocate_ends h
  | decide tenantId pendingId action checker freshRef now => exact decide_ends h
  | upkeep u =>
    cases h
    obtain ⟨loans, configs, hdb⟩ := Upkeep.apply_db db u
    exact .quiet rfl rfl (by rw [hdb]) (by rw [hdb])

end Channels

end FinylDcp
