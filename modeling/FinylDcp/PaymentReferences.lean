import FinylDcp.Runs
import FinylDcp.Tables
import FinylDcp.PaymentEffects
import FinylDcp.PaymentRoutes
import FinylDcp.OverdueJobs

/-!
# One payment, one reference

A payment is recognised by its reference: a repayment or a suspense receipt that
carries it. Over a run of deliveries on every channel, an accepted payment leaves
such a row and no later delivery of the reference counts again, provided accepted
payments find something to pay.
-/
namespace FinylDcp
open Runs Tables Text

/-- A repayment of the tenant carries the reference. -/
def Repaid (db : Db) (tenantId : ℕ) (ref : String) : Prop :=
  ∃ x ∈ db.repayments, x.tenantId = tenantId ∧ x.mpesaRef = some ref

/-- Part of a payment that was applied, not a receipt of its own. -/
def SuspenseReason.ofRest (reason : SuspenseReason) : Bool :=
  reason = .overpayment || reason = .interestRefundDue

/-- Money that no loan is found for is not the rest of a payment. -/
theorem matchReference_reason (db : Db) (tenantId : ℕ) (billRef phone : Option String) :
    ((matchReference db tenantId billRef phone).reason.getD .unmatched).ofRest = false := by
  simp only [matchReference]
  split
  · rfl
  split
  · rfl
  split
  · split
    · simp only [matchCustomer]
      split <;> rfl
    · rfl
  · rfl

/-- A receipt of the tenant carries the reference. -/
def Receipted (db : Db) (tenantId : ℕ) (ref : String) : Prop :=
  ∃ e ∈ db.suspense, e.tenantId = tenantId ∧ e.mpesaRef = some ref ∧ e.reason.ofRest = false

/-- A suspense row of the tenant carries the reference. -/
def Parked (db : Db) (tenantId : ℕ) (ref : String) : Prop :=
  ∃ e ∈ db.suspense, e.tenantId = tenantId ∧ e.mpesaRef = some ref

instance (db : Db) (tenantId : ℕ) (ref : String) : Decidable (Repaid db tenantId ref) := by
  unfold Repaid
  infer_instance

instance (db : Db) (tenantId : ℕ) (ref : String) : Decidable (Parked db tenantId ref) := by
  unfold Parked
  infer_instance

theorem Receipted.parked {db : Db} {tenantId : ℕ} {ref : String} (h : Receipted db tenantId ref) :
    Parked db tenantId ref := by
  obtain ⟨e, he, htenant, href, -⟩ := h
  exact ⟨e, he, htenant, href⟩

/-- The check of a reference looks for repayments and, unless the money comes out of
suspense, for suspense rows. -/
theorem referenceAlreadyUsed_eq_none {db : Db} {tenantId : ℕ} {ref : String}
    {includeSuspense : Bool}
    (h : ref ≠ "") : referenceAlreadyUsed db tenantId (some ref) includeSuspense = none ↔
      ¬ Repaid db tenantId ref ∧ (includeSuspense = true → ¬ Parked db tenantId ref) := by
  have hrepaid : db.repayments.any
      (fun x => x.tenantId = tenantId && x.mpesaRef = some ref) = true ↔
      Repaid db tenantId ref := by
    simp [Repaid]
  have hparked : db.suspense.any (fun x => x.tenantId = tenantId && x.mpesaRef = some ref) = true ↔
      Parked db tenantId ref := by
    simp [Parked]
  have href : nonEmpty (some ref) = some ref := by simp [nonEmpty, h]
  simp only [referenceAlreadyUsed, href, hrepaid, Bool.and_eq_true, hparked]
  split_ifs <;> simp_all

/-- What a repayment counts for a reference. -/
def repaidFor (tenantId : ℕ) (ref : String) (x : Repayment) : ℤ :=
  if x.tenantId = tenantId ∧ x.mpesaRef = some ref then x.amount else 0

/-- What a suspense row counts for a reference: a receipt under it, until it is moved to
a loan, and the overpayment of a payment under it. -/
def parkedFor (tenantId : ℕ) (ref : String) (e : SuspenseEntry) : ℤ :=
  if e.tenantId = tenantId ∧
      ((e.mpesaRef = some ref ∧ e.reason.ofRest = false ∧ e.status ≠ .allocated) ∨
        (e.mpesaRef = some (ref ++ "-OVR") ∧ e.reason = .overpayment))
  then e.amount else 0

/-- The money recorded for a reference. -/
def recordedMoney (db : Db) (tenantId : ℕ) (ref : String) : ℤ :=
  (db.repayments.map (repaidFor tenantId ref)).sum + (db.suspense.map (parkedFor tenantId ref)).sum

/-- What reaches the payments hub: callbacks, manual entries, allocations, decisions on
both, and the upkeep between them. -/
inductive Delivery
  | c2b (cb : C2BCallback) (freshRef : String) (now : ℤ)
  | stk (cb : StkCallback) (freshRef : String) (now : ℤ)
  | manual (tenantId makerId : ℕ) (body : ManualPaymentIn) (needsChecker : Bool) (freshRef : String)
      (now : ℤ)
  | reconcile (tenantId makerId loanId : ℕ) (amount : ℤ) (mpesaRef : Option String)
      (needsChecker : Bool) (freshRef : String) (now : ℤ)
  | allocate (tenantId makerId entryId loanId : ℕ) (needsChecker : Bool) (now : ℤ)
  | decide (tenantId pendingId : ℕ) (action : String) (checker : Checker) (freshRef : String)
      (now : ℤ)
  | upkeep (u : Upkeep)

/-- Requests that bring money in or move it to a loan. -/
def ActionType.inward : ActionType → Bool
  | manualPayment | suspenseAllocate => true
  | _ => false

/-- A decision on an inward request, which runs to its end. -/
def decideInward (db : Db) (tenantId pendingId : ℕ) (action : String) (checker : Checker)
    (freshRef : String) (now : ℤ) : Except Failure (Db × Reply) :=
  if (db.pending[pendingId]?).any (fun p => p.actionType.inward) then
    (beginDecision db tenantId pendingId action checker freshRef now).map (fun out => (out.1,
      match out.2 with
      | .finished (some result) => .payment tenantId result
      | _ => .acknowledged))
  else .error (.http 404 "Pending action not found")

def deliver (shortcodeToTenant : String → Option ℕ) (db : Db) :
    Delivery → Except Failure (Db × Reply)
  | .c2b cb freshRef now => processC2bCallback db shortcodeToTenant cb freshRef now
  | .stk cb freshRef now => processStkCallback db cb freshRef now
  | .manual tenantId makerId body needsChecker freshRef now =>
    recordManualPayment db tenantId makerId body needsChecker freshRef now
  | .reconcile tenantId makerId loanId amount mpesaRef needsChecker freshRef now =>
    reconcilePayment db tenantId makerId loanId amount mpesaRef needsChecker freshRef now
  | .allocate tenantId makerId entryId loanId needsChecker now =>
    allocateSuspense db tenantId makerId entryId loanId needsChecker now
  | .decide tenantId pendingId action checker freshRef now =>
    decideInward db tenantId pendingId action checker freshRef now
  | .upkeep u => .ok (u.apply db, .acknowledged)

/-- A payment that was accepted. -/
structure Acceptance where
  tenantId : ℕ
  ref : String
  amount : ℤ
  deriving DecidableEq, Repr

/-- The acceptance of a handled payment. -/
def ApplyResult.acceptance (tenantId : ℕ) (result : ApplyResult) : Option Acceptance :=
  if result.status = .duplicateIgnored ∨ result.ref = "" then none
  else some ⟨tenantId, result.ref, result.applied + result.excess⟩

/-- The reference a confirmation came with. -/
def Delivery.transId : Delivery → Option String
  | .c2b cb .. => nonEmpty cb.transId
  | _ => none

/-- The acceptance a reply reports: a payment that was applied or parked, or a
confirmation parked whole in a row of its own. -/
def Reply.acceptance (before after : Db) (transId : Option String) : Reply → Option Acceptance
  | .payment tenantId result => result.acceptance tenantId
  | .parked tenantId suspenseId =>
    if suspenseId = before.suspense.length then
      transId.bind
        (fun ref => (after.suspense[suspenseId]?).map (fun e => ⟨tenantId, ref, e.amount⟩))
    else none
  | _ => none

/-- The database, and the payments accepted so far. -/
structure Till where
  db : Db
  accepted : List Acceptance

def Till.step (shortcodeToTenant : String → Option ℕ) (s : Till) (d : Delivery) : Till :=
  match deliver shortcodeToTenant s.db d with
  | .ok out => ⟨out.1, s.accepted ++ (out.2.acceptance s.db out.1 d.transId).toList⟩
  | .error _ => s

/-- A payment on its way into `apply_payment`, with the entry it comes out of. -/
structure Handed where
  db : Db
  loanId : ℕ
  loan : Loan
  payment : Payment
  entry : Option SuspenseEntry

/-- The payment of an approved inward request. -/
def handedByRequest (db : Db) (tenantId : ℕ) (p : PendingApproval) (freshRef : String) (now : ℤ) :
    Option Handed := do
  let loanId ← p.loanId
  let loan ← loanRow db tenantId loanId
  match p.actionType with
  | .manualPayment =>
    return ⟨db, loanId, loan, manualPayment tenantId p.amount p.details freshRef now, none⟩
  | .suspenseAllocate =>
    let held ← (lockedEntry db tenantId p).toOption
    return ⟨db, loanId, loan, allocationPayment db tenantId held.1 held.2 now, some held.2⟩
  | _ => none

/-- The payment a delivery hands over, if it gets that far. -/
def handed (shortcodeToTenant : String → Option ℕ) (db : Db) : Delivery → Option Handed
  | .c2b cb freshRef now => do
    let tenantId ← (c2bTenant db shortcodeToTenant cb).toOption
    let loanId ← (matchReference db tenantId cb.billRefNumber cb.msisdn).loan
    let loan ← loanRow db tenantId loanId
    return ⟨db, loanId, loan, cb.payment tenantId freshRef now, none⟩
  | .stk cb freshRef now => do
    let checkoutId ← nonEmpty cb.checkoutRequestId
    let txnId ← db.transactions.findIdx?
        (fun t => t.type = .stkPush && t.mpesaRef = some checkoutId)
    let txn ← db.transactions[txnId]?
    let held ← loanOf db txn.tenantId txn
    let p := cb.payment txn freshRef now
    return ⟨stkPaid db txnId p.ref, held.1, held.2, p, none⟩
  | .manual tenantId _ body needsChecker freshRef now =>
    if needsChecker then none
    else do
      let entry ← (validateManualPayment db tenantId body freshRef now).toOption
      return ⟨db, entry.loanId, entry.loan,
        manualPayment tenantId entry.amount entry.details freshRef now, none⟩
  | .reconcile tenantId _ loanId amount mpesaRef needsChecker freshRef now =>
    if needsChecker then none
    else do
      let loan ← loanRow db tenantId loanId
      return ⟨db, loanId, loan,
        reconcilePaymentOf tenantId amount (cleanReference mpesaRef) freshRef now, none⟩
  | .allocate tenantId _ entryId loanId needsChecker now =>
    if needsChecker then none
    else do
      let entry ← (openEntry db tenantId entryId).toOption.join
      let loan ← loanRow db tenantId loanId
      return ⟨db, loanId, loan, allocationPayment db tenantId entryId entry now, some entry⟩
  | .decide tenantId pendingId action checker freshRef now => do
    let p ← (decidable db tenantId pendingId action checker).toOption
    if action = "reject" then none else handedByRequest db tenantId p freshRef now
  | .upkeep _ => none

/-- An accepted payment on an open loan finds something to pay, and money moved out of
suspense keeps its receipt's reference or takes one that no suspense row carries. -/
def Lands (h : Handed) : Prop :=
  Accepts h.db h.loan h.payment → h.loan.status.collectible = true →
    SomethingToPay h.db h.loanId h.loan h.payment ∧
    ∀ e ∈ h.entry, e.mpesaRef = some h.payment.reference ∨
      referenceAlreadyUsed h.db h.payment.tenantId (some h.payment.reference) true = none

instance (h : Handed) : Decidable (Lands h) := by
  unfold Lands
  infer_instance

/-- A reference drawn for a confirmation that came without one is new. -/
def DrawsNew (db : Db) : Delivery → Prop
  | .c2b _ freshRef _ => ∀ x ∈ db.repayments, x.mpesaRef ≠ some freshRef
  | _ => True

instance (db : Db) (d : Delivery) : Decidable (DrawsNew db d) := by
  unfold DrawsNew
  split <;> infer_instance

/-- Every payment a delivery hands over lands, and the reference it draws is new. -/
def FindsItsPlace (shortcodeToTenant : String → Option ℕ) (db : Db) (d : Delivery) : Prop :=
  DrawsNew db d ∧ ∀ h ∈ handed shortcodeToTenant db d, Lands h

instance (shortcodeToTenant : String → Option ℕ) (db : Db) (d : Delivery) :
    Decidable (FindsItsPlace shortcodeToTenant db d) := by
  unfold FindsItsPlace
  infer_instance

/-- The transaction of an STK callback. -/
def stkTransaction (db : Db) (cb : StkCallback) : Option PaymentTransaction :=
  (nonEmpty cb.checkoutRequestId).bind (fun checkoutId =>
    db.transactions.find? (fun t => t.type = .stkPush && t.mpesaRef = some checkoutId))

/-- A callback that brings a reference to a tenant. -/
def Brings (shortcodeToTenant : String → Option ℕ) (db : Db) (tenantId : ℕ) (ref : String) :
    Delivery → Prop
  | .c2b cb _ _ => cb.transId = some ref ∧ c2bTenant db shortcodeToTenant cb = .ok tenantId
  | .stk cb _ _ => cb.receipt = some ref ∧ ∀ txn ∈ stkTransaction db cb, txn.tenantId = tenantId
  | _ => False

/-- No loan, repayment or suspense row differs. -/
def Untouched (db db' : Db) : Prop :=
  db'.loans = db.loans ∧ db'.repayments = db.repayments ∧ db'.suspense = db.suspense

/-- Every accepted reference counts once: no more is recorded for it than was received,
and a callback that brings it again changes nothing. -/
def OnceOnly (shortcodeToTenant : String → Option ℕ) (s : Till) : Prop :=
  ∀ a ∈ s.accepted, recordedMoney s.db a.tenantId a.ref ≤ a.amount ∧
    ∀ d, Brings shortcodeToTenant s.db a.tenantId a.ref d →
      Untouched s.db (s.step shortcodeToTenant d).db

end FinylDcp
