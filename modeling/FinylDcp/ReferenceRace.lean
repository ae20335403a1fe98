import FinylDcp.ReferenceRows

/-!
# One reference, several transactions

Transactions that all carry one reference, in any interleaving. Each checks the
reference before it writes, and where two write at once a unique index they both hit
stops the second: the callbacks share the index of the payment transactions, and
payments that reach a loan share the index of the repayments. A manual entry and a
receipt parked in suspense share none.
-/
namespace FinylDcp
open Db Runs Interleaving Tables Text

/-- An approval carries the reference of the manual entry it is about. -/
def Route.Carries (db : Db) (ref : String) : Route → Prop
  | .c2b cb _ _ => cb.transId = some ref
  | .stk cb _ _ => cb.receipt = some ref
  | .manual _ _ body _ _ => cleanReference body.reference = some ref
  | .allocation .. => False
  | .approval _ pendingId _ _ _ => ∃ p ∈ db.pending[pendingId]?,
      p.actionType = .manualPayment ∧ p.details.reference = some ref

/-- What is left of such a transaction; a push is that of its loan. -/
def Handover.Carries (db : Db) (ref : String) (loanId : ℕ) : Handover → Prop
  | .confirmation _ cb _ _ => cb.transId = some ref
  | .push txnId txn cb _ _ => cb.receipt = some ref ∧ ∃ row ∈ db.transactions[txnId]?,
      row.kind = (txn.tenantId, .stkPush, some loanId)
  | .manual _ _ details _ _ _ => details.reference = some ref
  | .allocation .. => False

/-- What the first reads lead to. Money that is going to be parked for the tenant was not
recorded when the reference was checked, and is stopped if a callback has recorded it
since. -/
def Opening.Carries (db : Db) (tenantId : ℕ) (ref : String) : Opening → Prop
  | .park t cb _ _ _ => cb.transId = some ref ∧
      (t = tenantId → Used db tenantId ref → Marker tenantId ref none db)
  | .unlinked _ receipt => receipt = some ref
  | .onLoan loanId _ h => h.Carries db ref loanId
  | _ => True

/-- The payment is a manual entry. -/
def Handover.byHand : Handover → Bool
  | .manual .. => true
  | _ => false

def Opening.byHand : Opening → Bool
  | .onLoan _ _ h => h.byHand
  | _ => false

/-- Requests stay what they were about. -/
def SameRequests (before after : List PendingApproval) : Prop :=
  ∀ (i : ℕ) (b a : PendingApproval), before[i]? = some b → after[i]? = some a →
    a.actionType = b.actionType ∧ a.details = b.details

/-- The payment a transaction hands to the loan it holds. -/
def Handover.payment (db : Db) : Handover → Payment
  | .confirmation tenantId cb freshRef now => cb.payment tenantId freshRef now
  | .push _ txn cb freshRef now => cb.payment txn freshRef now
  | .manual tenantId amount details freshRef now _ =>
    manualPayment tenantId amount details freshRef now
  | .allocation tenantId entryId entry _ now _ => allocationPayment db tenantId entryId entry now

/-- The database as the payment finds it. -/
def Handover.seen (db : Db) : Handover → Db
  | .push txnId txn cb freshRef now => stkPaid db txnId (cb.payment txn freshRef now).ref
  | _ => db

/-- The repayments a transaction adds. -/
def newRepayments (before after : Db) : List Repayment :=
  after.repayments.drop before.repayments.length

/-- The suspense rows a transaction adds. -/
def newEntries (before after : Db) : List SuspenseEntry :=
  after.suspense.drop before.suspense.length

theorem Route.begin_carries {shortcodeToTenant : String → Option ℕ} {db : Db} {tenantId : ℕ}
    {ref : String} {route : Route} {work : Opening} (href : ref ≠ "") (h : route.Carries db ref)
    (hwork : route.begin shortcodeToTenant db = .ok work) : work.Carries db tenantId ref := by
  cases route with
  | c2b cb freshRef now =>
    obtain ⟨t, -, hwork⟩ := bind_eq_ok.mp hwork
    split at hwork
    · cases hwork
      trivial
    rename_i hfree
    generalize matchReference db t cb.billRefNumber cb.msisdn = m at hwork
    obtain hloan | ⟨loanId, hloan⟩ := Option.eq_none_or_eq_some m.loan
    · simp only [hloan] at hwork
      cases hwork
      refine ⟨h, fun htenant hused => absurd hused ?_⟩
      rw [Option.not_isSome_iff_eq_none, show cb.transId = some ref from h, htenant] at hfree
      obtain ⟨hrepaid, hparked⟩ := (referenceAlreadyUsed_eq_none href).mp hfree
      exact not_or.mpr ⟨hrepaid, hparked rfl⟩
    · simp only [hloan] at hwork
      split at hwork
      · cases hwork
      · cases hwork
        exact h
  | stk cb freshRef now =>
    have hreceipt : ∀ txn, (cb.payment txn freshRef now).ref = some ref := by
      intro txn
      simp [StkCallback.payment, nonEmpty_eq_some.mpr ⟨show cb.receipt = some ref from h, href⟩]
    simp only [Route.begin] at hwork
    split at hwork
    · cases hwork
      trivial
    rename_i checkoutId hcheckout
    split at hwork
    · cases hwork
    rename_i txnId hfound
    split at hwork
    · cases hwork
    rename_i txn htxn
    split at hwork
    · cases hwork
      trivial
    split at hwork
    · cases hwork
      trivial
    split at hwork
    · rename_i loanId loan hloan
      cases hwork
      have hpush := (List.findIdx?_eq_some_iff_getElem.mp hfound).2.1
      rw [(List.getElem?_eq_some_iff.mp htxn).2, Bool.and_eq_true, decide_eq_true_eq] at hpush
      refine ⟨h, txn, htxn, ?_⟩
      simp [PaymentTransaction.kind, hpush.1, (loanOf_eq_some hloan).1]
    · cases hwork
      exact hreceipt txn
  | manual t makerId body freshRef now =>
    obtain ⟨entry, hentry, hwork⟩ := bind_eq_ok.mp hwork
    cases hwork
    obtain ⟨-, hreference⟩ := validateManualPayment_eq_ok hentry
    rwa [show cleanReference body.reference = some ref from h] at hreference
  | allocation t makerId entryId loanId now => exact absurd h id
  | approval t pendingId checker freshRef now =>
    obtain ⟨p, hp, haction, hreference⟩ := h
    obtain ⟨p', hp', hwork⟩ := bind_eq_ok.mp hwork
    obtain rfl : p' = p := Option.some.inj ((decidable_eq_ok hp').1.symm.trans hp)
    simp only [haction] at hwork
    obtain ⟨-, -, hwork⟩ := bind_eq_ok.mp hwork
    split at hwork
    · cases hwork
    · cases hwork
      exact hreference

/-- What a transaction has written: rows under the reference, and, as a callback, its
trace in the transaction rows. A manual entry leaves no receipt. -/
structure Wrote (tenantId : ℕ) (ref : String) (work : Opening) (before after : Db) : Prop where
  repayments : after.repayments = before.repayments ++ newRepayments before after
  suspense : after.suspense = before.suspense ++ newEntries before after
  adds : Adds tenantId ref (newRepayments before after) (newEntries before after)
  sets : OnlySets ref before.transactions after.transactions
  requests : SameRequests before.pending after.pending
  marks : work.byHand = false → Records tenantId (newRepayments before after)
    (newEntries before after) → Marks tenantId ref work.loan before.transactions after.transactions
  byHand : work.byHand = true → ∀ e ∈ newEntries before after, e.mpesaRef ≠ some ref

theorem newRepayments_eq {before after : Db} {rows : List Repayment}
    (h : after.repayments = before.repayments ++ rows) : newRepayments before after = rows := by
  simp [newRepayments, h]

theorem newEntries_eq {before after : Db} {entries : List SuspenseEntry}
    (h : after.suspense = before.suspense ++ entries) : newEntries before after = entries := by
  simp [newEntries, h]

theorem SameRequests.refl (before : List PendingApproval) : SameRequests before before :=
  fun _ _ _ hb ha => by rw [Option.some.inj (hb.symm.trans ha)]; exact ⟨rfl, rfl⟩

/-- A transaction that adds no money. -/
theorem wrote_nothing {tenantId : ℕ} {ref : String} (work : Opening) {before after : Db}
    (hrepayments : after.repayments = before.repayments)
    (hsuspense : after.suspense = before.suspense)
    (hsets : OnlySets ref before.transactions after.transactions)
    (hpending : after.pending = before.pending) :
    Wrote tenantId ref work before after ∧
      ¬ Records tenantId (newRepayments before after) (newEntries before after) := by
  have hrows : newRepayments before after = [] := newRepayments_eq (by simp [hrepayments])
  have hentries : newEntries before after = [] := newEntries_eq (by simp [hsuspense])
  have hnone : ¬ Records tenantId (newRepayments before after) (newEntries before after) := by
    simp [Records, hrows, hentries]
  refine ⟨⟨by simp [hrows, hrepayments], by simp [hentries, hsuspense], ?_, hsets, ?_,
    fun _ h => absurd h hnone, by simp [hentries]⟩, hnone⟩
  · rw [hrows, hentries]
    exact .nothing (by simp) (by simp)
  · rw [hpending]
    exact .refl _

/-- A payment under the reference, and what its transaction does to the other tables. -/
theorem wrote_payment {tenantId loanId : ℕ} {ref : String} {loan : Loan} {h : Handover}
    {p : Payment} {before seen : Db} {paid : Db × ApplyResult} {after : Db}
    (hpay : payLoan seen loanId loan p = .ok paid) (href : p.reference ≠ "")
    (hown : p.reference = ref)
    (hsource : p.fromSuspense = false)
    (hplace : Accepts seen loan p → loan.status.collectible = true →
      SomethingToPay seen loanId loan p)
    (hrepaidBefore : seen.repayments = before.repayments)
    (hsuspenseBefore : seen.suspense = before.suspense)
    (hrepaidAfter : after.repayments = paid.1.repayments)
    (hsuspenseAfter : after.suspense = paid.1.suspense)
    (hsets : OnlySets ref before.transactions after.transactions)
    (hrequests : SameRequests before.pending after.pending)
    (hmarks : h.byHand = false → p.tenantId = tenantId → paid.2.status ≠ .duplicateIgnored →
      paid.2.ref = ref → Marks tenantId ref (some loanId) before.transactions after.transactions)
    (hopen : h.byHand = true → loan.status.collectible = true) :
    Wrote tenantId ref (.onLoan loanId none h) before after ∧
      (Records tenantId (newRepayments before after) (newEntries before after) →
        ¬ Used before tenantId ref) := by
  subst hown
  obtain ⟨rows, entries, hrows, hentries, hadds, hrecords, hreceipt⟩ :=
    payLoan_adds hsource href tenantId hplace hpay
  have hrowsAfter : after.repayments = before.repayments ++ rows := by
    rw [hrepaidAfter, hrows, hrepaidBefore]
  have hentriesAfter : after.suspense = before.suspense ++ entries := by
    rw [hsuspenseAfter, hentries, hsuspenseBefore]
  have hunused : Used seen tenantId p.reference ↔ Used before tenantId p.reference := by
    simp only [Used, Repaid, Parked, hrepaidBefore, hsuspenseBefore]
  rw [newRepayments_eq hrowsAfter, newEntries_eq hentriesAfter]
  refine ⟨⟨?_, ?_, ?_, hsets, hrequests, ?_, ?_⟩, fun h => ?_⟩
  · rw [newRepayments_eq hrowsAfter, hrowsAfter]
  · rw [newEntries_eq hentriesAfter, hentriesAfter]
  · rwa [newRepayments_eq hrowsAfter, newEntries_eq hentriesAfter]
  · rw [newRepayments_eq hrowsAfter, newEntries_eq hentriesAfter]
    intro hcallback hrec
    obtain ⟨htenant, -, hstatus, hout⟩ := hrecords hrec
    exact hmarks hcallback htenant hstatus hout
  · rw [newEntries_eq hentriesAfter]
    intro hhand
    exact hreceipt fun _ => hopen hhand
  · exact hunused.not.mp (hrecords h).2.1

theorem sameRequests_decided (db : Db) (decision : Option (ℕ × ℕ)) :
    SameRequests db.pending
      (decision.elim db (fun d => decided db d.1 .approved d.2)).pending := by
  cases decision with
  | none => exact .refl _
  | some d =>
    intro i b a hb ha
    simp only [Option.elim, decided, List.getElem?_modify, hb] at ha
    split_ifs at ha <;> obtain rfl := Option.some.inj ha <;> exact ⟨rfl, rfl⟩

theorem Payment.reference_of_ref {p : Payment} {ref : String} (h : p.ref = some ref)
    (href : ref ≠ "") :
    p.reference = ref := by
  simp [Payment.reference, nonEmpty_eq_some.mpr ⟨h, href⟩]

/-- The rest of a transaction on its loan. -/
theorem Handover.apply_wrote {tenantId loanId : ℕ} {ref : String} {db : Db} {loan : Loan}
    {h : Handover} {out : Db × Reply} (href : ref ≠ "") (hcarries : h.Carries db ref loanId)
    (hplace : Accepts (h.seen db) loan (h.payment db) → loan.status.collectible = true →
      SomethingToPay (h.seen db) loanId loan (h.payment db))
    (hout : h.apply db loanId loan = .ok out) :
    Wrote tenantId ref (.onLoan loanId none h) db out.1 ∧
      (Records tenantId (newRepayments db out.1) (newEntries db out.1) →
        ¬ Used db tenantId ref) := by
  cases h with
  | confirmation t cb freshRef now =>
    have hown : (cb.payment t freshRef now).reference = ref :=
      Payment.reference_of_ref (p := cb.payment t freshRef now) hcarries href
    obtain ⟨paid, hpay, hout⟩ := bind_eq_ok.mp hout
    split at hout
    · cases hout
      exact (wrote_nothing _ rfl rfl (.refl _ _) rfl).imp_right fun hnone hrec =>
        absurd hrec hnone
    · obtain ⟨-, rfl⟩ := commitWith_eq_ok.mp hout
      obtain ⟨htxns, hpending, -⟩ := payLoan_rows hpay
      refine wrote_payment hpay (hown ▸ href) hown rfl hplace rfl rfl rfl rfl ?_ ?_ ?_
        (by simp [byHand])
      · simpa only [htxns] using onlySets_append ref _ _
      · simpa only [hpending] using SameRequests.refl _
      · rintro - htenant - hpaidRef
        exact .added _ (by rw [htxns]) htenant (congrArg some hpaidRef)
          (by simp [C2BCallback.transaction])
  | push txnId txn cb freshRef now =>
    obtain ⟨hreceipt, row, hrow, hkind⟩ := hcarries
    have hpref : (cb.payment txn freshRef now).ref = some ref := by
      simp [StkCallback.payment, nonEmpty_eq_some.mpr ⟨hreceipt, href⟩]
    have hown := Payment.reference_of_ref hpref href
    have hsets : OnlySets ref db.transactions
        (stkPaid db txnId (cb.payment txn freshRef now).ref).transactions := by
      refine onlySets_modify (fun t => ?_) _ _
      exact ⟨rfl, .inr hpref⟩
    simp only [Handover.apply] at hout
    split at hout
    · obtain ⟨paid, hpay, hout⟩ := bind_eq_ok.mp hout
      obtain ⟨-, rfl⟩ := commitWith_eq_ok.mp hout
      obtain ⟨htxns, hpending, -⟩ := payLoan_rows hpay
      refine wrote_payment hpay (hown ▸ href) hown rfl hplace rfl rfl rfl rfl ?_ ?_ ?_
        (by simp [byHand])
      · rwa [htxns]
      · rw [hpending]
        exact .refl _
      · rintro - htenant - -
        have htenant : txn.tenantId = tenantId := htenant
        refine .pushed loanId txnId row
          { row with status := .success, mpesaRef := some ref } rfl hrow ?_
          rfl (hkind.trans (by rw [htenant]))
        rw [htxns, ← hpref]
        simp [stkPaid, updateTransaction, show db.transactions[txnId]? = _ from hrow]
    · obtain ⟨-, rfl⟩ := commitWith_eq_ok.mp hout
      refine And.imp_right (fun hnone hrec => absurd hrec hnone) ?_
      exact wrote_nothing _ rfl rfl hsets rfl
  | manual t amount details freshRef now decision =>
    have hown : (manualPayment t amount details freshRef now).reference = ref :=
      Payment.reference_of_ref (p := manualPayment t amount details freshRef now) hcarries href
    obtain ⟨paid, hpay, hout⟩ := bind_eq_ok.mp hout
    obtain ⟨-, rfl⟩ := commitWith_eq_ok.mp hout
    simp only [applyManual] at hpay
    split at hpay
    · cases hpay
    rename_i hcollectible
    obtain ⟨htxns, hpending, -⟩ := payLoan_rows hpay
    refine wrote_payment hpay (hown ▸ href) hown rfl hplace rfl rfl ?_ ?_ ?_ ?_ (by simp [byHand])
      fun _ => by simpa using hcollectible
    · cases decision <;> rfl
    · cases decision <;> rfl
    · have hsame : (decision.elim paid.1 (fun d => decided paid.1 d.1 .approved d.2)).transactions =
          db.transactions := by
        rw [← htxns]
        cases decision <;> rfl
      rw [hsame]
      exact .refl _ _
    · rw [← hpending]
      exact sameRequests_decided paid.1 decision
  | allocation t entryId entry resolverId now decision => exact absurd hcarries id

/-- Money parked whole, once per tenant and reference. -/
theorem wrote_parked {tenantId t : ℕ} {ref freshRef : String} {cb : C2BCallback} {m : Match}
    {now : ℤ}
    {before after : Db} (href : ref ≠ "") (hcarried : cb.transId = some ref)
    (hrepayments : after.repayments = before.repayments)
    (hsuspense : after.suspense = (park before.suspense (cb.receipt t m freshRef) now).1)
    (htransactions : after.transactions =
      before.transactions ++ [cb.transaction t none (nonEmpty cb.transId) now])
    (hpending : after.pending = before.pending) :
    Wrote tenantId ref (.park t cb m freshRef now) before after ∧
      (Records tenantId (newRepayments before after) (newEntries before after) → t = tenantId) := by
  have hown : nonEmpty cb.transId = some ref := nonEmpty_eq_some.mpr ⟨hcarried, href⟩
  have hsets : OnlySets ref before.transactions after.transactions :=
    htransactions ▸ onlySets_append ref _ _
  by_cases hnew : suspenseWithRef before.suspense t (some ref) = none
  · rw [park_new (by simpa [C2BCallback.receipt, hown] using hnew)] at hsuspense
    have hrows := newRepayments_eq (hrepayments.trans (List.append_nil _).symm)
    have hentries := newEntries_eq hsuspense
    have htenant : Records tenantId [] [(cb.receipt t m freshRef).entry now] → t = tenantId := by
      rintro (⟨x, hx, -⟩ | ⟨e, he, htenant⟩)
      · cases hx
      · rwa [List.mem_singleton.mp he] at htenant
    have hadds : Adds tenantId ref [] [(cb.receipt t m freshRef).entry now] := by
      by_cases h : t = tenantId
      · have hreceipt : (cb.receipt t m freshRef).ref = some ref := by
          simp [C2BCallback.receipt, hown]
        exact .receipt _ rfl rfl
          ⟨h, (congrArg nonEmpty hreceipt).trans (nonEmpty_eq_some.mpr ⟨rfl, href⟩)⟩
      · exact .nothing (by simp) (by simpa [Receipt.entry, C2BCallback.receipt] using h)
    refine ⟨⟨by simp [hrows, hrepayments], by rw [hentries, hsuspense], by rwa [hrows, hentries],
      hsets, hpending ▸ .refl _, fun _ hrec => ?_, by simp [Opening.byHand]⟩, fun hrec => ?_⟩
    · rw [hrows, hentries] at hrec
      exact .added _ htransactions (htenant hrec) (by simpa [C2BCallback.transaction] using hown)
        (by simp [C2BCallback.transaction])
    · rw [hrows, hentries] at hrec
      exact htenant hrec
  · rw [park_known (by simpa [C2BCallback.receipt, hown] using hnew)] at hsuspense
    exact (wrote_nothing _ hrepayments hsuspense hsets hpending).imp_right fun hnone hrec =>
      absurd hrec hnone

/-- A transaction that locks no loan. A receipt for the tenant is stopped if a callback has
recorded the reference since the check. -/
theorem Opening.alone_wrote {tenantId : ℕ} {ref : String} {db after : Db} {work : Opening}
    (href : ref ≠ "") (hcarries : work.Carries db tenantId ref)
    (hoff : ∀ loanId loaded h, work ≠ .onLoan loanId loaded h)
    (hafter : work.alone db = .ok after) :
    Wrote tenantId ref work db after ∧
      (Records tenantId (newRepayments db after) (newEntries db after) → Used db tenantId ref →
        Marker tenantId ref none db) := by
  cases work with
  | answered =>
    cases hafter
    exact (wrote_nothing _ rfl rfl (.refl _ _) rfl).imp_right fun hnone hrec =>
      absurd hrec hnone
  | park t cb m freshRef now =>
    obtain ⟨hcarried, hstopped⟩ := hcarries
    obtain ⟨parked, hparked, rfl⟩ := map_eq_ok.mp hafter
    simp only [parkConfirmation] at hparked
    obtain ⟨-, rfl⟩ := commitWith_eq_ok.mp hparked
    refine And.imp_right (fun (htenant : _ → t = tenantId) hrec => hstopped (htenant hrec)) ?_
    exact wrote_parked href hcarried rfl rfl rfl rfl
  | declined txnId =>
    cases hafter
    refine And.imp_right (fun hnone hrec => absurd hrec hnone)
      (wrote_nothing _ rfl rfl (onlySets_modify (fun t => ?_) _ _) rfl)
    exact ⟨rfl, .inl rfl⟩
  | unlinked txnId receipt =>
    cases hafter
    refine And.imp_right (fun hnone hrec => absurd hrec hnone)
      (wrote_nothing _ rfl rfl (onlySets_modify (fun t => ?_) _ _) rfl)
    exact ⟨rfl, .inr hcarries⟩
  | onLoan loanId loaded h => exact absurd rfl (hoff loanId loaded h)

section Merge

variable {tenantId : ℕ} {ref : String} {work : Opening} {before after : Db}

theorem merge_repayments (before after db : Db) :
    (Db.merge before after db).repayments = db.repayments ++ newRepayments before after := rfl

theorem Wrote.merge_suspense (h : Wrote tenantId ref work before after) (db : Db) :
    (Db.merge before after db).suspense = db.suspense ++ newEntries before after := by
  show mergeRows SuspenseEntry.flush before.suspense after.suspense db.suspense = _
  rw [h.suspense, mergeRows_append SuspenseEntry.flush_unchanged]

theorem Wrote.merge_grown (h : Wrote tenantId ref work before after) (db : Db) :
    Grown ref db.transactions (Db.merge before after db).transactions :=
  grown_merge h.sets db.transactions

/-- A request is still about what it was about. -/
theorem Wrote.merge_request (h : Wrote tenantId ref work before after) {db : Db} {i : ℕ}
    {p : PendingApproval} (hp : db.pending[i]? = some p) :
    ∃ p', (Db.merge before after db).pending[i]? = some p' ∧ p'.actionType = p.actionType ∧
      p'.details = p.details := by
  refine ⟨_, mergeRows_getElem? _ _ _ hp, ?_⟩
  split
  · rename_i b a hb ha
    obtain ⟨haction, hdetails⟩ := h.requests i b a hb ha
    simp [PendingApproval.flush, haction, hdetails]
  · exact ⟨rfl, rfl⟩

/-- What was recorded stays recorded. -/
theorem merge_repaid (before after : Db) {db : Db} (hrepaid : Repaid db tenantId ref) :
    Repaid (Db.merge before after db) tenantId ref := by
  obtain ⟨x, hx, hkey⟩ := hrepaid
  exact ⟨x, by rw [merge_repayments]; exact List.mem_append_left _ hx, hkey⟩

/-- The rows under the reference after a commit are those before and those it adds. -/
theorem Wrote.merge_cases (h : Wrote tenantId ref work before after) (db : Db) :
    (¬ Records tenantId (newRepayments before after) (newEntries before after) ∧
      (Repaid (Db.merge before after db) tenantId ref ↔ Repaid db tenantId ref) ∧
      (Parked (Db.merge before after db) tenantId ref ↔ Parked db tenantId ref)) ∨
    (Records tenantId (newRepayments before after) (newEntries before after) ∧
      newRepayments before after ≠ [] ∧ Repaid (Db.merge before after db) tenantId ref ∧
      (Parked (Db.merge before after db) tenantId ref ↔ Parked db tenantId ref)) ∨
    (Records tenantId (newRepayments before after) (newEntries before after) ∧
      (∃ e ∈ newEntries before after, e.tenantId = tenantId ∧ e.mpesaRef = some ref) ∧
      Parked (Db.merge before after db) tenantId ref ∧
      (Repaid (Db.merge before after db) tenantId ref ↔ Repaid db tenantId ref)) := by
  have hrepaid : Repaid (Db.merge before after db) tenantId ref ↔ Repaid db tenantId ref ∨
      ∃ x ∈ newRepayments before after, x.tenantId = tenantId ∧ x.mpesaRef = some ref := by
    simp only [Repaid, merge_repayments, List.mem_append, or_and_right, exists_or]
  have hparked : Parked (Db.merge before after db) tenantId ref ↔ Parked db tenantId ref ∨
      ∃ e ∈ newEntries before after, e.tenantId = tenantId ∧ e.mpesaRef = some ref := by
    simp only [Parked, h.merge_suspense, List.mem_append, or_and_right, exists_or]
  by_cases hrec : Records tenantId (newRepayments before after) (newEntries before after)
  · obtain ⟨x, hrows, hx, hother⟩ | ⟨e, hrows, hentries, he⟩ := h.adds.of_records hrec
    · refine .inr (.inl ⟨hrec, by simp [hrows], hrepaid.mpr (.inr ⟨x, by simp [hrows], hx⟩), ?_⟩)
      rw [hparked, or_iff_left]
      rintro ⟨e, he, -, hown⟩
      exact hother e he hown
    · have hown : ∃ e ∈ newEntries before after, e.tenantId = tenantId ∧ e.mpesaRef = some ref :=
        ⟨e, by simp [hentries], he⟩
      refine .inr (.inr ⟨hrec, hown, hparked.mpr (.inr hown), ?_⟩)
      rw [hrepaid, hrows]
      simp
  · refine .inl ⟨hrec, ?_, ?_⟩
    · rw [hrepaid, or_iff_left]
      rintro ⟨x, hx, htenant, -⟩
      exact hrec (.inl ⟨x, hx, htenant⟩)
    · rw [hparked, or_iff_left]
      rintro ⟨e, he, htenant, -⟩
      exact hrec (.inr ⟨e, he, htenant⟩)

/-- The commit of a transaction is going to break an index: the one of the repayments, or
the one of the transaction rows. -/
def Stopped (tenantId : ℕ) (ref : String) (work : Opening) (before after db : Db) : Prop :=
  (newRepayments before after ≠ [] ∧ Repaid db tenantId ref) ∨
    (work.byHand = false ∧ Marker tenantId ref work.loan db)

theorem Wrote.not_indexed {db : Db} (h : Wrote tenantId ref work before after)
    (hgrown : Grown ref before.transactions db.transactions)
    (hrec : Records tenantId (newRepayments before after) (newEntries before after))
    (hstopped : Stopped tenantId ref work before after db) :
    (Db.merge before after db).indexed ≠ true := by
  obtain ⟨hnew, y, hy, hkey⟩ | ⟨hcallback, hmarker⟩ := hstopped
  · intro hindexed
    obtain ⟨hunique, -, -⟩ := Db.indexed_iff.mp hindexed
    obtain ⟨x, hrows, hx, -⟩ | ⟨-, hrows, -⟩ := h.adds.of_records hrec
    · rw [merge_repayments, hrows, List.filterMap_append, List.nodup_append] at hunique
      refine hunique.2.2 (tenantId, ref) (List.mem_filterMap.mpr ⟨y, hy, ?_⟩) (tenantId, ref) ?_ rfl
      · simp [Repayment.key, hkey]
      · simp [Repayment.key, hx]
    · exact hnew hrows
  · exact hmarker.not_indexed (h.marks hcallback hrec) h.sets hgrown

end Merge

/-- A manual entry that is written and not committed. -/
def Session.Entering (tenantId : ℕ) : Session → Prop
  | .written work before after => work.byHand = true ∧
      Records tenantId (newRepayments before after) (newEntries before after)
  | _ => False

/-- A receipt under the reference that is written and not committed. -/
def Session.Receipting (tenantId : ℕ) (ref : String) : Session → Prop
  | .written _ before after =>
    ∃ e ∈ newEntries before after, e.tenantId = tenantId ∧ e.mpesaRef = some ref
  | _ => False

/-- Money that has passed its check and goes to suspense. -/
def Session.Parking (tenantId : ℕ) (ref : String) : Session → Prop
  | .opened (.park t ..) => t = tenantId
  | s => s.Receipting tenantId ref

/-- A payment that an open loan accepts finds something to pay. -/
def Session.FindsSomething (hub : Hub) : Session → Prop
  | .holding loanId loan h => Accepts (h.seen hub.db) loan (h.payment hub.db) →
      loan.status.collectible = true → SomethingToPay (h.seen hub.db) loanId loan (h.payment hub.db)
  | _ => True

/-- No manual entry commits while money under the reference is on its way to suspense, and
none such commits while a manual entry is written. -/
def KeepsApart (tenantId : ℕ) (ref : String) (w : World Hub Session) (i : ℕ) : Prop :=
  ∀ s ∈ w.locals[i]?, s.FindsSomething w.shared ∧ ∀ m ∈ w.locals,
    ¬ (s.Entering tenantId ∧ m.Parking tenantId ref) ∧
    ¬ (s.Receipting tenantId ref ∧ m.Entering tenantId)

section Decidable

variable (tenantId : ℕ) (ref : String)

instance (db : Db) (route : Route) : Decidable (route.Carries db ref) := by
  unfold Route.Carries
  split <;> infer_instance

instance (s : Session) : Decidable (s.Entering tenantId) := by
  unfold Session.Entering
  split <;> infer_instance

instance (s : Session) : Decidable (s.Receipting tenantId ref) := by
  unfold Session.Receipting
  split <;> infer_instance

instance (s : Session) : Decidable (s.Parking tenantId ref) := by
  unfold Session.Parking
  split <;> infer_instance

instance (hub : Hub) (s : Session) : Decidable (s.FindsSomething hub) := by
  unfold Session.FindsSomething
  split <;> infer_instance

instance (w : World Hub Session) (i : ℕ) : Decidable (KeepsApart tenantId ref w i) :=
  inferInstanceAs (Decidable (∀ s ∈ w.locals[i]?, _))

end Decidable

/-- The commit recorded money for the tenant. -/
def Commit.Recorded (tenantId : ℕ) (c : Commit) : Prop :=
  Records tenantId (newRepayments c.before c.after) (newEntries c.before c.after)

instance (tenantId : ℕ) (c : Commit) : Decidable (c.Recorded tenantId) := by
  unfold Commit.Recorded
  infer_instance

/-- At most one transaction has recorded money, in one place. -/
structure RecordedOnce (start : Db) (tenantId : ℕ) (ref : String) (hub : Hub) : Prop where
  commits : (hub.log.filter (fun c => c.Recorded tenantId)).length ≤ 1
  repayments : (hub.db.repayments.filter
    (fun x => x.tenantId = tenantId && x.mpesaRef = some ref)).length ≤ 1
  entries : (hub.db.suspense.filter
    (fun e => e.tenantId = tenantId && e.mpesaRef = some ref)).length ≤ 1
  apart : Repaid hub.db tenantId ref → Parked hub.db tenantId ref →
    Repaid start tenantId ref ∧ Parked start tenantId ref

/-- What keeps it so: the money a transaction has recorded is there to be seen. -/
structure RaceSafe (start : Db) (tenantId : ℕ) (ref : String) (hub : Hub) : Prop where
  indexed : hub.db.indexed = true
  commits : (hub.log.filter (fun c => c.Recorded tenantId)).length ≤ 1
  used : ∀ c ∈ hub.log, c.Recorded tenantId → Used hub.db tenantId ref
  apart : Repaid hub.db tenantId ref → Parked hub.db tenantId ref →
    Repaid start tenantId ref ∧ Parked start tenantId ref

theorem RaceSafe.recordedOnce {start : Db} {tenantId : ℕ} {ref : String} {hub : Hub}
    (h : RaceSafe start tenantId ref hub) : RecordedOnce start tenantId ref hub := by
  obtain ⟨hrepayments, -, hsuspense⟩ := Db.indexed_iff.mp h.indexed
  refine ⟨h.commits, length_filter_le_one (k := (tenantId, ref)) hrepayments fun x hx => ?_,
    length_filter_le_one (k := (tenantId, ref)) hsuspense fun e he => ?_, h.apart⟩
  · simp only [Bool.and_eq_true, decide_eq_true_eq] at hx
    simp [Repayment.key, hx]
  · simp only [Bool.and_eq_true, decide_eq_true_eq] at he
    simp [SuspenseEntry.key, he]

/-- What each session relies on. -/
def InRace (tenantId : ℕ) (ref : String) (i : ℕ) (hub : Hub) : Session → Prop
  | .waiting route => route.Carries hub.db ref
  | .opened work => work.Carries hub.db tenantId ref
  | .holding loanId _ h => h.Carries hub.db ref loanId ∧ hub.locks (.loan loanId) = some i
  | .written work before after => Wrote tenantId ref work before after ∧
      Grown ref before.transactions hub.db.transactions ∧
      (∀ loanId, work.loan = some loanId → hub.locks (.loan loanId) = some i) ∧
      (Records tenantId (newRepayments before after) (newEntries before after) →
        Used hub.db tenantId ref → Stopped tenantId ref work before after hub.db)
  | .ended => True

section Race

variable {shortcodeToTenant : String → Option ℕ} {start : Db} {tenantId : ℕ} {ref : String}
  {i j : ℕ} {hub : Hub}

theorem InRace.of_locks {hub' : Hub} {s : Session} (h : InRace tenantId ref j hub s)
    (hdb : hub'.db = hub.db)
    (hlocks : ∀ row, hub.locks row = some j → hub'.locks row = some j) :
    InRace tenantId ref j hub' s := by
  cases s with
  | waiting route => simpa only [InRace, hdb] using h
  | opened work => simpa only [InRace, hdb] using h
  | holding loanId loan order => exact ⟨by rw [hdb]; exact h.1, hlocks _ h.2⟩
  | written work before after =>
    obtain ⟨hwrote, hgrown, hlock, hstopped⟩ := h
    exact ⟨hwrote, by rwa [hdb], fun loanId hloan => hlocks _ (hlock loanId hloan), by rwa [hdb]⟩
  | ended => trivial

/-- A callback that records leaves a marker for everyone on another loan or on none. -/
theorem Wrote.marker {work : Opening} {before after db : Db} {loan : Option ℕ}
    (h : Wrote tenantId ref work before after)
    (hgrown : Grown ref before.transactions db.transactions) (hcallback : work.byHand = false)
    (hrec : Records tenantId (newRepayments before after) (newEntries before after))
    (hloan : ∀ loanId, work.loan = some loanId → loan ≠ some loanId) :
    Marker tenantId ref loan (Db.merge before after db) := by
  obtain ⟨x, row, hrow, htenant, href, hwhere⟩ := (h.marks hcallback hrec).merge h.sets hgrown
  refine ⟨x, row, hrow, htenant, href, fun hpush => ?_⟩
  obtain ⟨-, htype⟩ | ⟨loanId, hwork, hkind⟩ := hwhere
  · exact htype hpush.1
  · simp only [PaymentTransaction.kind, Prod.mk.injEq] at hkind
    exact hloan loanId hwork (hpush.2.symm.trans hkind.2.2)

/-- A manual entry that records leaves a repayment. -/
theorem Wrote.repays_by_hand {work : Opening} {before after : Db}
    (h : Wrote tenantId ref work before after) (hhand : work.byHand = true)
    (hrec : Records tenantId (newRepayments before after) (newEntries before after)) :
    newRepayments before after ≠ [] := by
  obtain ⟨x, hrows, -⟩ | ⟨e, -, hentries, -, hown⟩ := h.adds.of_records hrec
  · simp [hrows]
  · exact absurd hown (h.byHand hhand e (by simp [hentries]))

/-- What was to be stopped still is, and what the commit of another has just recorded is
in its way. -/
theorem Stopped.merge {work work' : Opening} {before after before' after' : Db}
    (hmine : InRace tenantId ref i hub (.written work before after))
    (htheirs : InRace tenantId ref j hub (.written work' before' after')) (hij : i ≠ j)
    (hapart : ¬ (Session.Entering tenantId (.written work before after) ∧
        Session.Parking tenantId ref (.written work' before' after')) ∧
      ¬ (Session.Receipting tenantId ref (.written work before after) ∧
        Session.Entering tenantId (.written work' before' after')))
    (hrec' : Records tenantId (newRepayments before' after') (newEntries before' after'))
    (hused : Used (Db.merge before after hub.db) tenantId ref) :
    Stopped tenantId ref work' before' after' (Db.merge before after hub.db) := by
  obtain ⟨hwrote, hgrown, hlock, -⟩ := hmine
  obtain ⟨hwrote', -, hlock', hstopped'⟩ := htheirs
  by_cases hbefore : Used hub.db tenantId ref
  · exact (hstopped' hrec' hbefore).imp (And.imp_right (merge_repaid before after))
      (And.imp_right fun hmarker => hmarker.grown (hwrote.merge_grown _))
  have hcases := hwrote.merge_cases hub.db
  by_cases hhand : work.byHand = true
  · obtain ⟨-, hrepaid, hparked⟩ | ⟨hrec, -, hrepaid, -⟩ | ⟨-, ⟨e, he, -, hown⟩, -⟩ := hcases
    · exact absurd (hused.imp hrepaid.mp hparked.mp) hbefore
    · refine .inl ⟨fun hnone => hapart.1 ⟨⟨hhand, hrec⟩, ?_⟩, hrepaid⟩
      obtain ⟨x, hrows, -⟩ | ⟨e, -, hentries, he⟩ := hwrote'.adds.of_records hrec'
      · simp [hrows] at hnone
      · exact ⟨e, by simp [hentries], he⟩
    · exact absurd hown (hwrote.byHand hhand e he)
  · have hcallback : work.byHand = false := by simpa using hhand
    by_cases hhand' : work'.byHand = true
    · obtain ⟨-, hrepaid, hparked⟩ | ⟨-, -, hrepaid, -⟩ | ⟨-, hreceipt, -⟩ := hcases
      · exact absurd (hused.imp hrepaid.mp hparked.mp) hbefore
      · exact .inl ⟨hwrote'.repays_by_hand hhand' hrec', hrepaid⟩
      · exact absurd ⟨hreceipt, hhand', hrec'⟩ hapart.2
    · have hrec : Records tenantId (newRepayments before after) (newEntries before after) := by
        obtain ⟨-, hrepaid, hparked⟩ | ⟨hrec, -⟩ | ⟨hrec, -⟩ := hcases
        · exact absurd (hused.imp hrepaid.mp hparked.mp) hbefore
        · exact hrec
        · exact hrec
      refine .inr
        ⟨by simpa using hhand', hwrote.marker hgrown hcallback hrec fun loanId hloan hloan' => ?_⟩
      exact hij (Option.some.inj ((hlock loanId hloan).symm.trans (hlock' loanId hloan')))

/-- Only a transaction that adds the first money under the reference commits it. -/
theorem RaceSafe.commit {work : Opening} {before after : Db} {c : Commit}
    (h : RaceSafe start tenantId ref hub)
    (hmine : InRace tenantId ref i hub (.written work before after))
    (hindexed : (Db.merge before after hub.db).indexed = true)
    (hc : c.before = before ∧ c.after = after)
    (locks : Row → Option ℕ) :
    RaceSafe start tenantId ref ⟨Db.merge before after hub.db, locks, hub.log ++ [c]⟩ := by
  obtain ⟨hwrote, hgrown, -, hstopped⟩ := hmine
  obtain ⟨rfl, rfl⟩ := hc
  have hfirst : c.Recorded tenantId → ¬ Used hub.db tenantId ref := fun hrec hused =>
    hwrote.not_indexed hgrown hrec (hstopped hrec hused) hindexed
  obtain ⟨hnone, hrepaid, hparked⟩ | ⟨hrec, -, hrepaid, hparked⟩ | ⟨hrec, -, hparked, hrepaid⟩ :=
    hwrote.merge_cases hub.db
  · refine ⟨hindexed, ?_, fun d hd hrec => ?_, fun hr hp => h.apart (hrepaid.mp hr) (hparked.mp hp)⟩
    · have hnone : ¬ c.Recorded tenantId := hnone
      simpa [List.filter_append, hnone] using h.commits
    · obtain hold | hnew := List.mem_append.mp hd
      · exact (h.used d hold hrec).imp hrepaid.mpr hparked.mpr
      · obtain rfl := List.mem_singleton.mp hnew
        exact absurd hrec hnone
  all_goals
    have hempty : hub.log.filter (fun d => d.Recorded tenantId) = [] := by
      rw [List.filter_eq_nil_iff]
      intro d hd hd'
      exact hfirst hrec (h.used d hd (by simpa using hd'))
    have hcommits : ((hub.log ++ [c]).filter (fun d => d.Recorded tenantId)).length ≤ 1 := by
      rw [List.filter_append, hempty, List.nil_append]
      exact List.length_filter_le _ _
  · exact ⟨hindexed, hcommits, fun _ _ _ => .inl hrepaid,
      fun _ hp => absurd (.inr (hparked.mp hp)) (hfirst hrec)⟩
  · exact ⟨hindexed, hcommits, fun _ _ _ => .inr hparked,
      fun hr => absurd (.inl (hrepaid.mp hr)) (hfirst hrec)⟩

/-- A transaction that commits leaves the others what they rely on. -/
theorem InRace.of_commit {work : Opening} {before after : Db} {s : Session}
    (hmine : InRace tenantId ref i hub (.written work before after)) (hij : i ≠ j)
    (h : InRace tenantId ref j hub s)
    (hapart : ¬ (Session.Entering tenantId (.written work before after) ∧ s.Parking tenantId ref) ∧
      ¬ (Session.Receipting tenantId ref (.written work before after) ∧ s.Entering tenantId))
    (log : List Commit) :
    InRace tenantId ref j ⟨Db.merge before after hub.db, (hub.release i).locks, log⟩ s := by
  obtain ⟨hwrote, hgrown, -, -⟩ := id hmine
  have hpush : ∀ loanId (order : Handover), order.Carries hub.db ref loanId →
      order.Carries (Db.merge before after hub.db) ref loanId := by
    intro loanId order horder
    cases order with
    | push txnId txn cb freshRef now =>
      obtain ⟨hreceipt, row, hrow, hkind⟩ := horder
      obtain ⟨row', hrow', hkind', -⟩ := hwrote.merge_grown hub.db txnId row hrow
      exact ⟨hreceipt, row', hrow', hkind'.trans hkind⟩
    | _ => exact horder
  cases s with
  | waiting route =>
    cases route with
    | approval t pendingId checker freshRef now =>
      obtain ⟨p, hp, haction, hreference⟩ := h
      obtain ⟨p', hp', haction', hdetails⟩ := hwrote.merge_request hp
      exact ⟨p', hp', haction'.trans haction, by rwa [hdetails]⟩
    | _ => exact h
  | opened work' =>
    cases work' with
    | park t cb m freshRef now =>
      refine ⟨h.1, fun htenant hused => ?_⟩
      by_cases hbefore : Used hub.db tenantId ref
      · exact (h.2 htenant hbefore).grown (hwrote.merge_grown _)
      have hrec : Records tenantId (newRepayments before after) (newEntries before after) := by
        obtain ⟨-, hrepaid, hparked⟩ | ⟨hrec, -⟩ | ⟨hrec, -⟩ := hwrote.merge_cases hub.db
        · exact absurd (hused.imp hrepaid.mp hparked.mp) hbefore
        · exact hrec
        · exact hrec
      have hcallback : work.byHand = false := by
        by_contra hhand
        exact hapart.1 ⟨⟨by simpa using hhand, hrec⟩, htenant⟩
      exact hwrote.marker hgrown hcallback hrec fun loanId _ => by simp
    | onLoan loanId loaded order => exact hpush loanId order h
    | _ => exact h
  | holding loanId loan order => exact ⟨hpush loanId order h.1, Hub.release_other hij h.2⟩
  | written work' before' after' =>
    obtain ⟨hwrote', hgrown', hlock', -⟩ := id h
    exact ⟨hwrote', hgrown'.trans (hwrote.merge_grown _),
      fun loanId hloan => Hub.release_other hij (hlock' loanId hloan),
      fun hrec hused => Stopped.merge hmine h hij hapart hrec hused⟩
  | ended => trivial

theorem undisturbed_race (href : ref ≠ "") : Undisturbed (Session.next shortcodeToTenant)
    (KeepsApart tenantId ref) (RaceSafe start tenantId ref) (InRace tenantId ref) where
  mover := by
    intro w i s out hw hok hs hout
    have hmine := hw.own i s hs
    have hcommon := hw.common
    have hsame : ∀ hub : Hub, hub.db = w.shared.db → hub.log = w.shared.log →
        RaceSafe start tenantId ref hub := fun hub hdb hlog =>
      ⟨hdb ▸ hcommon.indexed, hlog ▸ hcommon.commits, by rw [hdb, hlog]; exact hcommon.used,
        by rw [hdb]; exact hcommon.apart⟩
    cases Session.next_moves hout with
    | ends => exact ⟨hsame _ rfl rfl, trivial⟩
    | opens route work hfree hopen hwork =>
      exact ⟨hsame _ rfl rfl, Route.begin_carries href hmine hwork⟩
    | alone work after hoff hafter =>
      obtain ⟨hwrote, hstopped⟩ := Opening.alone_wrote href hmine hoff hafter
      have hloan : work.loan = none := by
        cases work with
        | onLoan loanId loaded h => exact absurd rfl (hoff loanId loaded h)
        | _ => rfl
      have hcallback : work.byHand = false := by
        cases work with
        | onLoan loanId loaded h => exact absurd rfl (hoff loanId loaded h)
        | _ => rfl
      exact ⟨hcommon, hwrote, .refl _ _, by simp [hloan], fun hrec hused =>
        .inr ⟨hcallback, hloan ▸ hstopped hrec hused⟩⟩
    | locks loanId loaded loan h hfree hloan =>
      exact ⟨hsame _ rfl rfl, hmine, Hub.lock_self (List.mem_singleton_self _)⟩
    | applies loanId loan h res hres =>
      obtain ⟨hcarries, hlock⟩ := hmine
      obtain ⟨hwrote, hunused⟩ := Handover.apply_wrote href hcarries (hok _ hs).1 hres
      refine ⟨hcommon, hwrote, .refl _ _, fun id hid => ?_, fun hrec hused =>
        absurd hused (hunused hrec)⟩
      obtain rfl : loanId = id := by simpa [Opening.loan] using hid
      exact hlock
    | commits work before after hindexed =>
      exact ⟨hcommon.commit hmine hindexed ⟨rfl, rfl⟩ _, trivial⟩
  others := by
    intro w i j s m out hw hok hij hs hm hout
    have hmine := hw.own i s hs
    have htheirs := hw.own j m hm
    cases Session.next_moves hout with
    | ends => exact htheirs.of_locks rfl fun _ => Hub.release_other hij
    | opens route work hfree hopen hwork =>
      exact htheirs.of_locks rfl fun _ => Hub.lock_keeps hij (List.all_eq_true.mp hfree)
    | alone work after hoff hafter => exact htheirs.of_locks rfl fun _ => id
    | locks loanId loaded loan h hfree hloan =>
      exact htheirs.of_locks rfl fun _ => Hub.lock_keeps hij (by simpa using hfree)
    | applies loanId loan h res hres => exact htheirs
    | commits work before after hindexed =>
      exact InRace.of_commit hmine hij htheirs ((hok _ hs).2 m (List.mem_of_getElem? hm)) _

/-- Transactions that carry one reference record its money once: after every step of every
interleaving that keeps manual entries apart from money on its way to suspense. -/
theorem reference_recorded_once (shortcodeToTenant : String → Option ℕ) (routes : List Route)
    (start : Db) (tenantId : ℕ) (ref : String) (schedule : List ℕ) (hindexed : start.indexed = true)
    (href : ref ≠ "") (hcarry : ∀ route ∈ routes, route.Carries start ref)
    (h : AllSteps (World.step (Session.next shortcodeToTenant)) (KeepsApart tenantId ref)
      (sessions start routes) schedule) :
    Always (World.step (Session.next shortcodeToTenant))
      (fun w => RecordedOnce start tenantId ref w.shared) (sessions start routes) schedule := by
  have hstart : Holds (RaceSafe start tenantId ref) (InRace tenantId ref)
      (sessions start routes) := by
    refine ⟨⟨hindexed, by simp [sessions], by simp [sessions], fun hr hp => ⟨hr, hp⟩⟩,
      fun i s hs => ?_⟩
    simp only [sessions, List.getElem?_map, Option.map_eq_some_iff] at hs
    obtain ⟨route, hroute, rfl⟩ := hs
    exact hcarry route (List.mem_of_getElem? hroute)
  intro is his
  exact ((undisturbed_race href).always hstart h is his).common.recordedOnce

end Race

/-- Two confirmations of one receipt, one that matches no loan and one that does, pass the
check side by side, and the request to enter it by hand is approved after them. -/
theorem reference_recorded_once_confirmations : Always (World.step (Session.next fun _ => some 1))
    (fun w => RecordedOnce bookWithRequest 1 "QA5" w.shared)
    (sessions bookWithRequest
      [.c2b (paybillConfirmation "QA5" "FL/9" 200000 3) "C2B-1" 518400,
        .c2b (paybillConfirmation "QA5" "FL/1" 200000 3) "C2B-2" 518400,
        .approval 1 0 ⟨8, true, [], []⟩ "MAN-1" 518400])
    [0, 1, 0, 1, 1, 0, 1, 2, 2] :=
  reference_recorded_once _ _ _ _ _ _ (by decide) (by decide) (by decide)
    (by decide +kernel)

/-- A statement line is entered by hand while the confirmation of the same receipt, with an
account number that matches nothing, is parked: the money is repaid and in suspense. -/
theorem reference_recorded_twice :
    fourWeekBook.indexed = true ∧ ¬ Repaid fourWeekBook 1 "QA5" ∧
    (∀ route ∈ [Route.manual 1 7 (statementLine "QA5" 400000 3) "MAN-1" 518400,
      .c2b (paybillConfirmation "QA5" "FL/9" 400000 3) "C2B-1" 518400],
      route.Carries fourWeekBook "QA5") ∧
    ¬ RecordedOnce fourWeekBook 1 "QA5" (run (World.step (Session.next fun _ => some 1))
      (sessions fourWeekBook
        [.manual 1 7 (statementLine "QA5" 400000 3) "MAN-1" 518400,
          .c2b (paybillConfirmation "QA5" "FL/9" 400000 3) "C2B-1" 518400])
      [0, 1, 0, 0, 1, 0, 1]).shared := by
  refine ⟨by decide, by decide, by decide, fun h => ?_⟩
  exact absurd (h.apart (by decide +kernel) (by decide +kernel)).1 (by decide +kernel)

end FinylDcp
