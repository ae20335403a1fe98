import FinylDcp.Lending
import FinylDcp.OncePerReference
import FinylDcp.Postings

/-!
# What each request posts

One lemma for each request, callback and job: what it commits is a chain of postings. Later
results work with the postings and do not open the requests again.
-/
namespace FinylDcp
open Db Tables Text

section Requests

variable {allowed : Flow → Prop}

theorem accrueOverduePenalty_nonneg (product : Option Product) (loan : Loan) :
    0 ≤ (accrueOverduePenalty product loan).2 := by
  simp only [accrueOverduePenalty]
  split_ifs with h1 h2
  · exact le_refl _
  · exact le_refl _
  · exact (not_le.mp h2).le

theorem accrueOverduePenalty_keeps (product : Option Product) (loan : Loan) :
    loan.Keeps (accrueOverduePenalty product loan).1 := by
  have hpenalty := accrueOverduePenalty_nonneg product loan
  rw [accrueOverduePenalty_loan]
  exact ⟨rfl, rfl, rfl, rfl, rfl, rfl, rfl, by dsimp only; omega, by dsimp only; omega, rfl⟩

/-- A change of status that neither pays a loan out nor takes that back. -/
theorem keeps_status (loan : Loan) {status : LoanStatus}
    (h : status.disbursed = loan.status.disbursed) : loan.Keeps { loan with status := status } :=
  ⟨rfl, rfl, rfl, rfl, rfl, rfl, rfl, by simp, le_refl _, h⟩

theorem Loan.Keeps.trans {l l' l'' : Loan} (h : l.Keeps l') (h' : l'.Keeps l'') : l.Keeps l'' where
  tenant := h'.tenant.trans h.tenant
  product := h'.product.trans h.product
  principal := h'.principal.trans h.principal
  interestRate := h'.interestRate.trans h.interestRate
  snapshot := h'.snapshot.trans h.snapshot
  fees := h'.fees.trans h.fees
  rebate := h'.rebate.trans h.rebate
  balance := by
    have := h.balance
    have := h'.balance
    omega
  penalties := h.penalties.trans h'.penalties
  disbursed := h'.disbursed.trans h.disbursed

theorem overdueAlert_keeps (products : List Product) (tenantId : ℕ) (today : ℤ) (loan : Loan) :
    loan.Keeps (overdueAlert products tenantId today loan).1 := by
  unfold overdueAlert
  split
  · rename_i hdue
    simp only [Bool.and_eq_true, decide_eq_true_eq] at hdue
    have hoverdue : loan.Keeps { loan with status := .overdue } :=
      keeps_status loan (by rw [hdue.2]; rfl)
    exact hoverdue.trans (accrueOverduePenalty_keeps _ _)
  · exact .refl loan

theorem defaultLoan_keeps (tenantId : ℕ) (cutoff : ℤ) (loan : Loan) :
    loan.Keeps (defaultLoan tenantId cutoff loan) := by
  unfold defaultLoan
  split
  · rename_i hdue
    refine keeps_status loan ?_
    simp only [Loan.pastDue, Bool.and_eq_true, Bool.or_eq_true, decide_eq_true_eq] at hdue
    obtain hactive | hoverdue := hdue.1.1.2
    · rw [hactive]
      rfl
    · rw [hoverdue]
      rfl
  · exact .refl loan

/-- Loans that change in place. -/
theorem updateLoan_postings (hstill : allowed .still) {db : Db} {loanId : ℕ} {f : Loan → Loan}
    (hf : ∀ l ∈ db.loans[loanId]?, l.Keeps (f l)) : Postings allowed db (db.updateLoan loanId f) :=
  .single (.kept _ (forall₂_modify Loan.Keeps.refl hf)) hstill

/-- Upkeep changes every loan in place, by penalties and a status at most. -/
theorem upkeep_keeps (db : Db) (u : Upkeep) :
    List.Forall₂ Loan.Keeps db.loans (u.apply db).loans := by
  cases u with
  | settings tenantId order early =>
    simp only [Upkeep.apply]
    split
    · obtain ⟨configs, rfl⟩ := setPaymentSettings_db ‹_›
      exact List.forall₂_same.mpr fun l _ => .refl l
    · exact List.forall₂_same.mpr fun l _ => .refl l
  | penalty loanId =>
    exact forall₂_modify Loan.Keeps.refl fun l _ => accrueOverduePenalty_keeps _ l
  | overdueAlerts tenantId today =>
    simp only [Upkeep.apply, runOverdueAlerts, List.map_map, List.forall₂_map_right_iff]
    exact List.forall₂_same.mpr fun l _ => overdueAlert_keeps db.products tenantId today l
  | defaulting tenantId today graceDays =>
    simp only [Upkeep.apply, runDefaulting, List.forall₂_map_right_iff]
    exact List.forall₂_same.mpr fun l _ => defaultLoan_keeps tenantId (today - graceDays) l

theorem upkeep_postings (hstill : allowed .still) (db : Db) (u : Upkeep) :
    Postings allowed db (u.apply db) := by
  have hkept := upkeep_keeps db u
  obtain ⟨loans, configs, hdb⟩ := u.apply_db db
  rw [hdb] at hkept ⊢
  have hloans : Postings allowed db { db with loans := loans } := .single (.kept loans hkept) hstill
  exact hloans.trans (.single (.aside db.borrowers db.lockLogs configs) hstill)

theorem decideLoan_postings (hstill : allowed .still) {db saved : Db} {tenantId loanId : ℕ}
    {decider : LoanDecider} {action : String}
    (h : decideLoan db tenantId loanId decider action = .ok saved) : Postings allowed db saved := by
  simp only [decideLoan] at h
  split at h
  · cases h
  rename_i loan hloan
  obtain ⟨hrow, -⟩ := loanRow_eq_some hloan
  split at h
  · cases h
  split at h
  · cases h
  rename_i hundecided
  have hdecided : ∀ status : LoanStatus, status.disbursed = false →
      Postings allowed db (db.updateLoan loanId (fun l => { l with status := status })) := by
    intro status hstatus
    refine updateLoan_postings hstill fun l hl => keeps_status l ?_
    obtain rfl := Option.some.inj (hl.symm.trans hrow)
    rw [hstatus]
    cases hl' : l.status <;> simp [hl', LoanStatus.disbursed] at hundecided ⊢
  split at h
  · cases h
  split at h
  · obtain ⟨-, rfl⟩ := Db.commit_eq_ok.mp h
    exact hdecided .rejected rfl
  split at h
  · cases h
    exact .refl allowed db
  split at h
  · cases h
  · obtain ⟨-, rfl⟩ := Db.commit_eq_ok.mp h
    exact hdecided .approved rfl

/-- Releasing the lock of a loan touches the lock log and the borrower. -/
theorem releaseActiveLock_db (db : Db) (loanId : ℕ) (loan : Loan) (now : ℤ) :
    ∃ logs borrowers, releaseActiveLock db loanId loan now =
      ({ db with lockLogs := logs, borrowers := borrowers }, { loan with activeLock := false }) :=
  ⟨_, _, rfl⟩

theorem transitionLoan_postings (hstill : allowed .still) {db saved : Db} {tenantId loanId : ℕ}
    {seesLoan : Bool} {status : String} {now : ℤ}
    (h : transitionLoan db tenantId loanId seesLoan status now = .ok saved) :
    Postings allowed db saved := by
  simp only [transitionLoan] at h
  split at h
  · cases h
  rename_i loan hloan
  obtain ⟨hrow, -⟩ := loanRow_eq_some hloan
  have hvalid : ∀ next, loan.status.validTransitions.find? (fun s => s.label = status) = some next →
      next ∈ loan.status.validTransitions := fun next hnext => List.mem_of_find?_eq_some hnext
  split at h
  · cases h
  split at h
  · cases h
  · cases h
  · cases h
  · rename_i hnext
    have hpaid := hvalid _ hnext
    split at h
    · cases h
    obtain ⟨-, rfl⟩ := Db.commit_eq_ok.mp h
    obtain ⟨logs, borrowers, hreleased⟩ :=
      releaseActiveLock_db db loanId { loan with status := .paid } now
    rw [hreleased]
    have haside : Postings allowed db { db with lockLogs := logs, borrowers := borrowers } :=
      .single (.aside borrowers logs db.paymentsConfigs) hstill
    refine haside.trans (updateLoan_postings hstill fun l hl => ?_)
    obtain rfl := Option.some.inj (hl.symm.trans hrow)
    rw [Loan.flush_loaded]
    refine ⟨rfl, rfl, rfl, rfl, rfl, rfl, rfl, by simp, le_refl _, ?_⟩
    cases hl' : l.status <;> simp [hl', LoanStatus.validTransitions] at hpaid ⊢ <;> rfl
  · rename_i next happrove hactivate hpay hnext
    have hmem := hvalid _ hnext
    obtain ⟨-, rfl⟩ := Db.commit_eq_ok.mp h
    refine updateLoan_postings hstill fun l hl => keeps_status l ?_
    obtain rfl := Option.some.inj (hl.symm.trans hrow)
    cases hl' : l.status <;> simp [hl', LoanStatus.validTransitions] at hmem <;>
      rcases hmem with rfl | rfl | rfl <;> simp_all [LoanStatus.disbursed]

theorem recordSuspense_postings (hinward : allowed .inward) (db : Db) (x : Receipt) (now : ℤ) :
    Postings allowed db (recordSuspense db x now).1 := by
  by_cases hfree : suspenseWithRef db.suspense x.tenantId x.ref = none
  · simp only [recordSuspense, park_new hfree]
    exact .single (.parked x now) hinward
  · simp only [recordSuspense, park_known hfree]
    exact .refl allowed db

theorem payLoan_postings (hstill : allowed .still) (hinward : allowed .inward) {db : Db}
    {loanId : ℕ} {loan : Loan} {p : Payment} {out : Db × ApplyResult}
    (hrow : db.loans[loanId]? = some loan) (h : payLoan db loanId loan p = .ok out) :
    Postings allowed db out.1 := by
  obtain ⟨-, hsame, -⟩ | ⟨-, -, hparked, -⟩ | ⟨haccepts, hcoll, ⟨logs, borrowers, hpaid⟩, -⟩ :=
    payLoan_cases hrow h
  · rw [hsame]
    exact .refl allowed db
  · rw [hparked]
    exact recordSuspense_postings hinward db _ _
  · rw [hpaid]
    have happlied := Postings.single (.paid loanId loan p hrow haccepts hcoll) hinward
    exact happlied.tail (.aside borrowers logs db.paymentsConfigs) hstill

/-- A status from which an entry can be allocated. -/
def SuspenseStatus.allocatable (status : SuspenseStatus) : Prop :=
  status = .open ∨ status = .pendingApproval

theorem allocateEntry_postings (hstill : allowed .still) (hinward : allowed .inward) {db : Db}
    {tenantId entryId loanId resolverUserId : ℕ} {entry : SuspenseEntry} {loan : Loan} {now : ℤ}
    {out : Db × ApplyResult} (hentry : db.suspense[entryId]? = some entry)
    (hheld : entry.status.allocatable) (hrow : db.loans[loanId]? = some loan)
    (h : allocateEntry db tenantId entryId entry loanId loan resolverUserId now = .ok out) :
    Postings allowed db out.1 := by
  simp only [allocateEntry] at h
  split at h
  · cases h
  obtain ⟨paid, hpaid, hout⟩ := map_eq_ok.mp h
  obtain ⟨-, -, entries, hsuspense, -⟩ := payLoan_grows hpaid
  have hstays : paid.1.suspense[entryId]? = some entry := by
    rw [hsuspense, List.getElem?_append_left (List.getElem?_eq_some_iff.mp hentry).1, hentry]
  rw [← hout]
  exact (payLoan_postings hstill hinward hrow hpaid).tail
    (.allocated entryId entry loanId resolverUserId now hstays hheld) hinward

theorem parkSuspense_postings (hstill : allowed .still) {db : Db} {entryId : ℕ}
    {entry : SuspenseEntry} {p : PendingApproval} (hentry : db.suspense[entryId]? = some entry)
    (hopen : entry.status = .open) (hfounded : p.Founded db) :
    Postings allowed db (parkSuspense db entryId p).1 := by
  refine (Postings.single (.requested p hfounded) hstill).tail (.moved entryId _ ?_) hstill
  intro e he
  obtain rfl := Option.some.inj (he.symm.trans hentry)
  exact .inr ⟨by rw [hopen]; rfl, rfl, rfl⟩

theorem allocateSuspense_postings (hstill : allowed .still) (hinward : allowed .inward) {db : Db}
    {tenantId makerId entryId loanId : ℕ} {needsChecker : Bool} {now : ℤ} {out : Db × Reply}
    (h : allocateSuspense db tenantId makerId entryId loanId needsChecker now = .ok out) :
    Postings allowed db out.1 := by
  obtain ⟨found, hfound, h⟩ := bind_eq_ok.mp h
  split at h
  · cases h
    exact .refl allowed db
  rename_i entry
  obtain ⟨hentry, htenant, hopen⟩ := openEntry_eq_some hfound
  obtain ⟨-, -, h⟩ := bind_eq_ok.mp h
  split at h
  · cases h
  rename_i loan hloan
  obtain ⟨-, -, h⟩ := bind_eq_ok.mp h
  split at h
  · obtain ⟨-, rfl⟩ := commitWith_eq_ok.mp h
    exact parkSuspense_postings hstill hentry hopen
      ⟨rfl, fun _ => ⟨entryId, entry, rfl, hentry, htenant, rfl⟩, by simp⟩
  · obtain ⟨paid, hpaid, h⟩ := bind_eq_ok.mp h
    obtain ⟨-, rfl⟩ := commitWith_eq_ok.mp h
    exact allocateEntry_postings hstill hinward hentry (.inl hopen) (loanRow_eq_some hloan).1 hpaid

theorem refundSuspense_postings (hstill : allowed .still) {db saved : Db}
    {tenantId makerId entryId : ℕ} {phone note : Option String}
    (h : refundSuspense db tenantId makerId entryId phone note = .ok saved) :
    Postings allowed db saved := by
  obtain ⟨found, hfound, h⟩ := bind_eq_ok.mp h
  split at h
  · cases h
    exact .refl allowed db
  rename_i entry
  obtain ⟨hentry, htenant, hopen⟩ := openEntry_eq_some hfound
  obtain ⟨parked, hparked, h⟩ := bind_eq_ok.mp h
  obtain ⟨-, rfl⟩ := Db.commit_eq_ok.mp h
  obtain ⟨sendTo, -, hparked⟩ := bind_eq_ok.mp hparked
  obtain ⟨-, -, hparked⟩ := bind_eq_ok.mp hparked
  cases hparked
  exact parkSuspense_postings hstill hentry hopen
    ⟨rfl, fun _ => ⟨entryId, entry, rfl, hentry, htenant, rfl⟩, by simp⟩

theorem reverseSuspense_postings (hstill : allowed .still) {db saved : Db}
    {tenantId makerId entryId : ℕ} {note : Option String}
    (h : reverseSuspense db tenantId makerId entryId note = .ok saved) :
    Postings allowed db saved := by
  obtain ⟨found, hfound, h⟩ := bind_eq_ok.mp h
  split at h
  · cases h
    exact .refl allowed db
  rename_i entry
  obtain ⟨hentry, htenant, hopen⟩ := openEntry_eq_some hfound
  obtain ⟨parked, hparked, h⟩ := bind_eq_ok.mp h
  obtain ⟨-, rfl⟩ := Db.commit_eq_ok.mp h
  simp only [parkSuspenseReversal] at hparked
  split at hparked
  · cases hparked
  split at hparked
  · cases hparked
  · cases hparked
    exact parkSuspense_postings hstill hentry hopen
      ⟨rfl, fun _ => ⟨entryId, entry, rfl, hentry, htenant, rfl⟩, by simp⟩

theorem refundPayment_postings (hstill : allowed .still) {db saved : Db}
    {tenantId makerId loanId : ℕ} {phone : Option String} {amount : Option ℤ}
    {reason : Option String}
    (h : refundPayment db tenantId makerId loanId phone amount reason = .ok saved) :
    Postings allowed db saved := by
  simp only [refundPayment] at h
  split at h
  · cases h
  split at h
  · cases h
  split at h
  · cases h
  split at h
  · cases h
  split at h
  · cases h
  rename_i hpositive
  split at h
  · cases h
  · obtain ⟨-, rfl⟩ := Db.commit_eq_ok.mp h
    exact .single
      (.requested _ ⟨rfl, by simp [ActionType.ofSuspense], fun _ => not_le.mp hpositive⟩)
      hstill

theorem parkConfirmation_postings (hstill : allowed .still) (hinward : allowed .inward) {db : Db}
    {tenantId : ℕ} {cb : C2BCallback} {m : Match} {freshRef : String} {now : ℤ} {out : Db × Reply}
    (h : parkConfirmation db tenantId cb m freshRef now = .ok out) : Postings allowed db out.1 := by
  obtain ⟨-, rfl⟩ := commitWith_eq_ok.mp h
  have hparked := recordSuspense_postings hinward db (cb.receipt tenantId m freshRef) now
  exact hparked.tail
    (.noted (cb.transaction tenantId none (nonEmpty cb.transId) now) (.inl rfl)) hstill

theorem processC2bCallback_postings (hstill : allowed .still) (hinward : allowed .inward) {db : Db}
    {shortcodeToTenant : String → Option ℕ} {cb : C2BCallback} {freshRef : String} {now : ℤ}
    {out : Db × Reply} (h : processC2bCallback db shortcodeToTenant cb freshRef now = .ok out) :
    Postings allowed db out.1 := by
  obtain ⟨tenantId, -, h⟩ := bind_eq_ok.mp h
  split at h
  · cases h
    exact .refl allowed db
  dsimp only at h
  split at h
  · exact parkConfirmation_postings hstill hinward h
  split at h
  · cases h
  rename_i loanId hmatched _ loan hloan
  obtain ⟨paid, hpaid, h⟩ := bind_eq_ok.mp h
  split at h
  · cases h
    exact .refl allowed db
  · obtain ⟨-, rfl⟩ := commitWith_eq_ok.mp h
    exact (payLoan_postings hstill hinward (loanRow_eq_some hloan).1 hpaid).tail
      (.noted (cb.transaction tenantId (some loanId) (some paid.2.ref) now) (.inl rfl)) hstill

/-- Marking a transaction that takes nothing out of suspense. -/
theorem mark_postings (hstill : allowed .still) {db : Db} {txnId : ℕ} {row : PaymentTransaction}
    {f : PaymentTransaction → PaymentTransaction} (status : TransactionStatus)
    (hrow : db.transactions[txnId]? = some row)
    (hset : ∀ t, (f t).terms = t.terms ∧ (f t).status = status)
    (hother : row.fromSuspense = false) :
    Postings allowed db (db.updateTransaction txnId f) := by
  have hposting := Posting.marked txnId row status f hrow hset (by simp [hother])
  rw [hother] at hposting
  exact .single hposting hstill

theorem processStkCallback_postings (hstill : allowed .still) (hinward : allowed .inward) {db : Db}
    {cb : StkCallback} {freshRef : String} {now : ℤ} {out : Db × Reply}
    (h : processStkCallback db cb freshRef now = .ok out) : Postings allowed db out.1 := by
  simp only [processStkCallback] at h
  split at h
  · cases h
    exact .refl allowed db
  rename_i checkoutId hcheckout
  split at h
  · cases h
  rename_i txnId hfound
  split at h
  · cases h
  rename_i txn htxn
  have hother : txn.fromSuspense = false := by
    obtain ⟨_, hstk, -⟩ := List.findIdx?_eq_some_iff_getElem.mp hfound
    obtain ⟨_, hget⟩ := List.getElem?_eq_some_iff.mp htxn
    rw [hget, Bool.and_eq_true, decide_eq_true_eq] at hstk
    simp [PaymentTransaction.fromSuspense, PaymentTransaction.outgoing, hstk.1]
  split at h
  · cases h
    exact .refl allowed db
  split at h
  · obtain ⟨-, rfl⟩ := commitWith_eq_ok.mp h
    exact mark_postings hstill .failed htxn (fun t => ⟨rfl, rfl⟩) hother
  have hpaidMark : Postings allowed db (db.updateTransaction txnId fun t =>
      { t with status := .success, mpesaRef := (cb.payment txn freshRef now).ref }) :=
    mark_postings hstill .success htxn (fun t => ⟨rfl, rfl⟩) hother
  split at h
  · rename_i loanId loan hheld
    split at h
    · obtain ⟨paid, hpaid, h⟩ := bind_eq_ok.mp h
      obtain ⟨-, rfl⟩ := commitWith_eq_ok.mp h
      obtain ⟨-, hrow, -⟩ := loanOf_eq_some hheld
      exact hpaidMark.trans (payLoan_postings hstill hinward hrow hpaid)
    · obtain ⟨-, rfl⟩ := commitWith_eq_ok.mp h
      exact hpaidMark
  · obtain ⟨-, rfl⟩ := commitWith_eq_ok.mp h
    exact hpaidMark

theorem parkManualPayment_postings (hstill : allowed .still) (db : Db) (tenantId makerId loanId : ℕ)
    (amount : ℤ) (details : ApprovalDetails) (reason : Option String) :
    Postings allowed db (parkManualPayment db tenantId makerId loanId amount details reason).1 :=
  .single (.requested _ ⟨rfl, by simp [ActionType.ofSuspense], by simp⟩) hstill

theorem recordManualPayment_postings (hstill : allowed .still) (hinward : allowed .inward) {db : Db}
    {tenantId makerId : ℕ} {body : ManualPaymentIn} {needsChecker : Bool} {freshRef : String}
    {now : ℤ}
    {out : Db × Reply}
    (h : recordManualPayment db tenantId makerId body needsChecker freshRef now = .ok out) :
    Postings allowed db out.1 := by
  obtain ⟨entry, hentry, h⟩ := bind_eq_ok.mp h
  split at h
  · obtain ⟨-, rfl⟩ := commitWith_eq_ok.mp h
    exact parkManualPayment_postings hstill db _ _ _ _ _ _
  · obtain ⟨paid, hpaid, h⟩ := bind_eq_ok.mp h
    obtain ⟨-, rfl⟩ := commitWith_eq_ok.mp h
    simp only [applyManual] at hpaid
    split at hpaid
    · cases hpaid
    exact payLoan_postings hstill hinward (validateManualPayment_eq_ok hentry).1 hpaid

theorem reconcilePayment_postings (hstill : allowed .still) (hinward : allowed .inward) {db : Db}
    {tenantId makerId loanId : ℕ} {amount : ℤ} {mpesaRef : Option String} {needsChecker : Bool}
    {freshRef : String} {now : ℤ} {out : Db × Reply}
    (h : reconcilePayment db tenantId makerId loanId amount mpesaRef needsChecker freshRef now =
      .ok out) : Postings allowed db out.1 := by
  simp only [reconcilePayment] at h
  split at h
  · cases h
  split at h
  · cases h
  rename_i loan hloan
  split at h
  · cases h
    exact .refl allowed db
  obtain ⟨-, -, h⟩ := bind_eq_ok.mp h
  obtain ⟨-, -, h⟩ := bind_eq_ok.mp h
  split at h
  · obtain ⟨-, rfl⟩ := commitWith_eq_ok.mp h
    exact parkManualPayment_postings hstill db _ _ _ _ _ _
  · obtain ⟨paid, hpaid, h⟩ := bind_eq_ok.mp h
    obtain ⟨-, rfl⟩ := commitWith_eq_ok.mp h
    exact payLoan_postings hstill hinward (loanRow_eq_some hloan).1 hpaid

end Requests

end FinylDcp
