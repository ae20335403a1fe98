import FinylDcp.LedgerCash

/-!
# Receipts on the books

Where a payment is booked at what it is, a delivery adds its receipt to the books of its tenant
unless they carry it already, and an allocation adds nothing.
-/
namespace FinylDcp
open Tables Text

/-- No more interest was paid ahead than the payoff of the payment's day covers. -/
def PayoffCovers (db : Db) (loanId : ℕ) (loan : Loan) (p : Payment) : Prop :=
  let owed := owedBreakdown db loanId loan
  0 ≤ owed.principal + owed.fees + (earnedBy db loan (kenyaDate p.paidOn) - owed.interestPaid)

instance (db : Db) (loanId : ℕ) (loan : Loan) (p : Payment) :
    Decidable (PayoffCovers db loanId loan p) := by
  unfold PayoffCovers
  infer_instance

/-- The payment is more than the loan takes. -/
def LeavesOver (db : Db) (loanId : ℕ) (loan : Loan) (p : Payment) : Prop :=
  if SettlesEarly db loanId loan p then
    (payoffQuote db loanId loan (kenyaDate p.paidOn)
      (getPaymentSettings db p.tenantId).earlySettlementMethod).payoffAmount < p.amount
  else loan.outstandingBalance < p.amount

instance (db : Db) (loanId : ℕ) (loan : Loan) (p : Payment) :
    Decidable (LeavesOver db loanId loan p) := by
  unfold LeavesOver
  infer_instance

/-- An open loan takes a payment at what it is: the balance is not overdrawn, interest paid ahead
is not owed back, and what is left over can be parked. -/
structure TakenWhole (db : Db) (loanId : ℕ) (loan : Loan) (p : Payment) : Prop where
  balance : 0 ≤ loan.outstandingBalance
  covered : SettlesEarly db loanId loan p → PayoffCovers db loanId loan p
  free : LeavesOver db loanId loan p → ¬ Parked db p.tenantId (p.reference ++ "-OVR")

theorem takenWhole_iff {db : Db} {loanId : ℕ} {loan : Loan} {p : Payment} :
    TakenWhole db loanId loan p ↔ 0 ≤ loan.outstandingBalance ∧
      (SettlesEarly db loanId loan p → PayoffCovers db loanId loan p) ∧
      (LeavesOver db loanId loan p → ¬ Parked db p.tenantId (p.reference ++ "-OVR")) :=
  ⟨fun h => ⟨h.balance, h.covered, h.free⟩, fun h => ⟨h.1, h.2.1, h.2.2⟩⟩

instance (db : Db) (loanId : ℕ) (loan : Loan) (p : Payment) :
    Decidable (TakenWhole db loanId loan p) :=
  decidable_of_iff' _ takenWhole_iff

/-- A payment on its way to an open loan is taken whole if it is accepted, and money out of
suspense is accepted. -/
def Handed.Whole (x : Handed) : Prop :=
  x.loan.status.collectible = true →
    (Accepts x.db x.loan x.payment → TakenWhole x.db x.loanId x.loan x.payment) ∧
    (x.entry.isSome = true → Accepts x.db x.loan x.payment)

instance (x : Handed) : Decidable x.Whole := by
  unfold Handed.Whole
  infer_instance

section Division

variable {db : Db} {loanId : ℕ} {loan : Loan} {p : Payment}

/-- Interest paid ahead is not owed back. -/
theorem TakenWhole.noCredit (h : TakenWhole db loanId loan p) (haccepts : Accepts db loan p) :
    (divisionOf db loanId loan p).interestCredit ≤ 0 := by
  by_cases hearly : SettlesEarly db loanId loan p
  · obtain ⟨-, -, -, hcredit⟩ := divisionOf_settles hearly
    obtain ⟨start, due, base, hstart, hdue, -, hout, -, -, hquote, -⟩ := payoffQuote_early hearly.1
    obtain ⟨-, hprincipal, hinterest, hfees⟩ := owedBreakdown_parts db loanId hout.le
    have hcovered := h.covered hearly
    rw [PayoffCovers, earnedBy_eq haccepts hstart hdue] at hcovered
    rw [hcredit, hquote]
    simp only [earlyQuote]
    split_ifs <;> omega
  · rw [(divisionOf_plain hearly).2.2.2]

theorem TakenWhole.applied_nonneg (h : TakenWhole db loanId loan p) (haccepts : Accepts db loan p) :
    0 ≤ (divisionOf db loanId loan p).applied := by
  by_cases hearly : SettlesEarly db loanId loan p
  · obtain ⟨start, due, base, -, -, -, -, -, -, hquote, -⟩ := payoffQuote_early hearly.1
    rw [(divisionOf_settles hearly).2.1, hquote]
    exact le_max_right _ _
  · rw [(divisionOf_plain hearly).2.1]
    exact le_min haccepts.1.le h.balance

/-- What is left over can be parked. -/
theorem TakenWhole.rest (h : TakenWhole db loanId loan p)
    (hrest : 0 < p.amount - (divisionOf db loanId loan p).applied) :
    ¬ Parked db p.tenantId (p.reference ++ "-OVR") := by
  refine h.free ?_
  by_cases hearly : SettlesEarly db loanId loan p
  · rw [(divisionOf_settles hearly).2.1] at hrest
    rw [LeavesOver, if_pos hearly]
    omega
  · rw [(divisionOf_plain hearly).2.1] at hrest
    rw [LeavesOver, if_neg hearly]
    omega

end Division

section Booked

variable {db db' : Db} (tenantId : ℕ)

theorem bookedIn_congr (hrepayments : db'.repayments = db.repayments)
    (hsuspense : db'.suspense = db.suspense) : bookedIn db' tenantId = bookedIn db tenantId := by
  rw [bookedIn, bookedIn, hrepayments, hsuspense]

/-- What is booked of a suspense row is seen on its face. -/
theorem heldFor_congr {e e' : SuspenseEntry} (h : e'.face = e.face) :
    heldFor tenantId e' = heldFor tenantId e := by
  simp only [SuspenseEntry.face, Prod.mk.injEq, decide_eq_decide] at h
  obtain ⟨htenant, -, -, hamount, hstatus⟩ := h
  simp only [heldFor, htenant, hamount, ne_eq, hstatus]

theorem sum_heldFor_congr {xs ys : List SuspenseEntry}
    (h : ys.map SuspenseEntry.face = xs.map SuspenseEntry.face) :
    (ys.map (heldFor tenantId)).sum = (xs.map (heldFor tenantId)).sum := by
  induction xs generalizing ys with
  | nil =>
    obtain rfl : ys = [] := by simpa using h
    rfl
  | cons x xs ih =>
    cases ys with
    | nil => simp at h
    | cons y ys =>
      simp only [List.map_cons, List.cons.injEq] at h
      simp only [List.map_cons, List.sum_cons, heldFor_congr tenantId h.1, ih h.2]

theorem heldFor_entry (x : Receipt) (now : ℤ) :
    heldFor tenantId (x.entry now) = if x.tenantId = tenantId then x.amount else 0 := by
  simp [heldFor, Receipt.entry]

theorem sum_heldFor_parked (suspense : List SuspenseEntry) (x : Receipt) (now : ℤ) :
    ((suspense ++ [x.entry now]).map (heldFor tenantId)).sum =
      (suspense.map (heldFor tenantId)).sum + if x.tenantId = tenantId then x.amount else 0 := by
  simp [heldFor_entry]

theorem sum_repaidTo_row (loanId : ℕ) (p : Payment) {d : Division} (happlied : 0 ≤ d.applied) :
    ((repaymentRow loanId p d).map (repaidTo tenantId)).sum =
      if p.tenantId = tenantId then d.applied else 0 := by
  unfold repaymentRow
  split_ifs with hpos htenant
  · simp [repaidTo, htenant]
  · simp [repaidTo, htenant]
  · have hnothing : d.applied = 0 := by omega
    simp [hnothing]
  · rfl

/-- What is left over is parked, and no more. -/
theorem sum_heldFor_rest {loanId : ℕ} {p : Payment} {d : Division} (hle : d.applied ≤ p.amount)
    (hcredit : d.interestCredit ≤ 0)
    (hfree : 0 < p.amount - d.applied → ¬ Parked db p.tenantId (p.reference ++ "-OVR")) :
    ((parkRest db.suspense loanId p d).map (heldFor tenantId)).sum =
      (db.suspense.map (heldFor tenantId)).sum +
        if p.tenantId = tenantId then p.amount - d.applied else 0 := by
  simp only [parkRest, if_neg (not_lt.mpr hcredit)]
  by_cases hrest : 0 < p.amount - d.applied
  · have hnew : suspenseWithRef db.suspense p.tenantId (some (p.reference ++ "-OVR")) = none := by
      refine suspenseWithRef_of_new fun r hr => ?_
      obtain ⟨hr, -⟩ := nonEmpty_eq_some.mp hr
      exact Option.some.inj hr ▸ hfree hrest
    rw [if_pos hrest, park_new hnew, sum_heldFor_parked]
    rfl
  · have hnothing : p.amount - d.applied = 0 := by omega
    rw [if_neg hrest, hnothing, ite_self, add_zero]

/-- A payment that is taken whole is booked at what it is. -/
theorem bookedIn_applied {loanId : ℕ} {loan : Loan} {p : Payment} (haccepts : Accepts db loan p)
    (hwhole : TakenWhole db loanId loan p) (happlied : AppliedTo db loanId loan p db') :
    bookedIn db' tenantId = bookedIn db tenantId +
      if p.tenantId = tenantId then p.amount else 0 := by
  obtain ⟨logs, borrowers, rfl⟩ := happlied
  have hheld := @sum_heldFor_rest db tenantId loanId p (divisionOf db loanId loan p)
    (divisionOf_applied_le db loanId loan p) (hwhole.noCredit haccepts) hwhole.rest
  have hrepaid := sum_repaidTo_row tenantId loanId p (hwhole.applied_nonneg haccepts)
  simp only [bookedIn, List.map_append, List.sum_append, hheld, hrepaid]
  split_ifs <;> omega

/-- What a receipt adds to a tenant's books, unless they carry it already. -/
def newFor (db : Db) (tenantId : ℕ) (r : Acceptance) : ℤ :=
  if r.tenantId = tenantId ∧ ¬ Carried db r.tenantId r.ref then r.amount else 0

theorem newFor_carried {r : Acceptance} (h : Carried db r.tenantId r.ref) :
    newFor db tenantId r = 0 := by
  simp [newFor, h]

theorem newFor_new {r : Acceptance} (h : ¬ Carried db r.tenantId r.ref) :
    newFor db tenantId r = if r.tenantId = tenantId then r.amount else 0 := by
  simp [newFor, h]

theorem newFor_congr (hrepayments : db'.repayments = db.repayments)
    (hsuspense : db'.suspense = db.suspense) : newFor db' tenantId = newFor db tenantId := by
  have hsame : ∀ t ref, Carried db' t ref ↔ Carried db t ref := by
    simp [Carried, Repaid, Parked, hrepayments, hsuspense]
  funext r
  simp only [newFor, hsame]

/-- What a payment that is not accepted brings is on the books. -/
theorem carried_of_duplicate {loanId : ℕ} {loan : Loan} {p : Payment} {out : Db × ApplyResult}
    (hsource : p.fromSuspense = false) (h : payLoan db loanId loan p = .ok out)
    (hduplicate : ¬ Accepts db loan p) : Carried db p.tenantId p.reference := by
  have hused : referenceAlreadyUsed db p.tenantId (some p.reference) true ≠ none := fun hnone =>
    hduplicate ⟨payLoan_pos h, payLoan_tenant h, by rwa [hsource]⟩
  have hcarried := carried_of_used "" (Option.isSome_iff_ne_none.mpr hused)
  have hne : p.reference ≠ "" := by
    intro hempty
    rw [hempty] at hused
    exact hused rfl
  rwa [nonEmpty_eq_some.mpr ⟨rfl, hne⟩, Option.getD_some] at hcarried

/-- What an accepted payment from outside brings is not. -/
theorem Accepts.uncarried {loan : Loan} {p : Payment} (h : Accepts db loan p)
    (hsource : p.fromSuspense = false) : ¬ Carried db p.tenantId p.reference := by
  rintro ⟨hne, hcarried⟩
  obtain ⟨hrepaid, hparked⟩ := h.new hsource hne
  exact hcarried.elim hrepaid hparked

/-- A receipt that is parked in a row of its own. -/
theorem bookedIn_parked {x : Receipt} {now : ℤ} (hnew : ∀ r, nonEmpty x.ref = some r →
    ¬ Parked db x.tenantId r) : bookedIn (recordSuspense db x now).1 tenantId =
      bookedIn db tenantId + if x.tenantId = tenantId then x.amount else 0 := by
  simp only [bookedIn, recordSuspense, park_new (suspenseWithRef_of_new hnew), sum_heldFor_parked]
  omega

/-- Money that is parked is booked unless its reference is parked already. -/
theorem recordSuspense_booked (x : Receipt) (now : ℤ) :
    bookedIn (recordSuspense db x now).1 tenantId = bookedIn db tenantId +
      if x.tenantId = tenantId ∧ ¬ (x.ref.getD "" ≠ "" ∧ Parked db x.tenantId (x.ref.getD ""))
      then x.amount else 0 := by
  by_cases hparked : x.ref.getD "" ≠ "" ∧ Parked db x.tenantId (x.ref.getD "")
  · have hknown : suspenseWithRef db.suspense x.tenantId x.ref ≠ none := by
      obtain ⟨hne, e, he, hte, hre⟩ := hparked
      cases href : x.ref with
      | none => simp [href] at hne
      | some r =>
        rw [href, Option.getD_some] at hne hre
        rw [ne_eq, suspenseWithRef_eq_none hne]
        exact fun hfree => hfree e he hte hre
    rw [if_neg fun h => h.2 hparked, add_zero]
    exact bookedIn_congr tenantId rfl (park_known hknown)
  · rw [bookedIn_parked tenantId fun r hr => ?_]
    · simp only [hparked, not_false_eq_true, and_true]
    · obtain ⟨hr, hne⟩ := nonEmpty_eq_some.mp hr
      rw [hr, Option.getD_some] at hparked
      exact fun hthis => hparked ⟨hne, hthis⟩

/-- A payment from outside adds its receipt. -/
theorem payLoan_booked {loanId : ℕ} {loan : Loan} {p : Payment} {out : Db × ApplyResult}
    (hrow : db.loans[loanId]? = some loan) (hsource : p.fromSuspense = false)
    (hwhole : loan.status.collectible = true → Accepts db loan p → TakenWhole db loanId loan p)
    (h : payLoan db loanId loan p = .ok out) :
    bookedIn out.1 tenantId = bookedIn db tenantId + newFor db tenantId p.receipt := by
  obtain ⟨hduplicate, hdb, -⟩ | ⟨haccepts, hclosed, hdb, -⟩ | ⟨haccepts, hopen, happlied, -⟩ :=
    payLoan_cases hrow h
  · have hcarried := carried_of_duplicate hsource h hduplicate
    rw [hdb, newFor_carried (r := p.receipt) tenantId hcarried, add_zero]
  · have hnew := haccepts.uncarried hsource
    rw [hdb, newFor_new (r := p.receipt) tenantId hnew]
    refine bookedIn_parked tenantId fun r hr hparked => hnew ?_
    obtain ⟨hr, hne⟩ := nonEmpty_eq_some.mp hr
    obtain rfl := Option.some.inj hr
    exact ⟨hne, .inr hparked⟩
  · rw [newFor_new (r := p.receipt) tenantId (haccepts.uncarried hsource)]
    exact bookedIn_applied tenantId haccepts (hwhole hopen haccepts) happlied

/-- An allocation adds what it takes out of suspense. -/
theorem allocateEntry_booked {entryId loanId resolver : ℕ} {entry : SuspenseEntry} {loan : Loan}
    {now : ℤ} {out : Db × ApplyResult} (hrow : db.loans[loanId]? = some loan)
    (hentry : db.suspense[entryId]? = some entry) (hheld : entry.status ≠ .allocated)
    (hwhole : Handed.Whole ⟨db, loanId, loan,
      allocationPayment db entry.tenantId entryId entry now, some entry⟩)
    (h : allocateEntry db entry.tenantId entryId entry loanId loan resolver now = .ok out) :
    bookedIn out.1 tenantId = bookedIn db tenantId := by
  simp only [allocateEntry] at h
  split at h
  · cases h
  rename_i hopen
  rw [Bool.not_eq_true, Bool.not_eq_false'] at hopen
  obtain ⟨paid, hpaid, rfl⟩ := map_eq_ok.mp h
  obtain ⟨htaken, haccepts⟩ := hwhole hopen
  replace haccepts := haccepts rfl
  replace htaken := htaken haccepts
  obtain ⟨hduplicate, -⟩ | ⟨-, hclosed, -⟩ | ⟨-, -, happlied, -⟩ := payLoan_cases hrow hpaid
  · exact absurd haccepts hduplicate
  · rw [hopen] at hclosed
    cases hclosed
  have hbooked := bookedIn_applied tenantId haccepts htaken happlied
  obtain ⟨logs, borrowers, hdb⟩ := happlied
  have hstays : paid.1.suspense[entryId]? = some entry := by
    obtain ⟨more, hmore, -⟩ := parkRest_open db.suspense loanId
      (allocationPayment db entry.tenantId entryId entry now)
      (divisionOf db loanId loan (allocationPayment db entry.tenantId entryId entry now))
    rw [hdb]
    simp only [hmore]
    rw [List.getElem?_append_left (List.getElem?_eq_some_iff.mp hentry).1, hentry]
  have hleaves := sum_map_modify (heldFor tenantId) (fun e => { e with
      status := SuspenseStatus.allocated, matchedLoanId := some loanId, resolvedAt := some now,
      resolvedByUserId := some resolver }) hstays
  simp only [bookedIn, Db.updateSuspense] at hbooked hleaves ⊢
  rw [hleaves]
  simp only [heldFor, hheld, allocationPayment, ne_eq, not_true_eq_false, not_false_eq_true,
    and_false, and_true, if_false] at hbooked ⊢
  omega

/-- A confirmation that no loan is found for adds its receipt. -/
theorem parkConfirmation_booked {cb : C2BCallback} {freshRef : String} {now : ℤ} {m : Match}
    {out : Db × Reply} {t : ℕ} (hnew : DrawsNew db (.c2b cb freshRef now))
    (hunused : referenceAlreadyUsed db t cb.transId true = none)
    (h : parkConfirmation db t cb m freshRef now = .ok out) :
    bookedIn out.1 tenantId = bookedIn db tenantId +
      newFor db tenantId ⟨t, (nonEmpty cb.transId).getD freshRef, cb.transAmount⟩ := by
  obtain ⟨-, rfl⟩ := commitWith_eq_ok.mp h
  refine (@bookedIn_congr (recordSuspense db (cb.receipt t m freshRef) now).1 _ tenantId
    rfl rfl).trans ?_
  have hcarried : Carried db t ((nonEmpty cb.transId).getD freshRef) ↔
      (nonEmpty cb.transId).getD freshRef ≠ "" ∧
        Parked db t ((nonEmpty cb.transId).getD freshRef) := by
    refine and_congr_right fun hne => or_iff_right ?_
    exact unrepaid_reference hnew hunused (nonEmpty_eq_some.mpr ⟨rfl, hne⟩)
  rw [recordSuspense_booked]
  simp only [newFor, hcarried]
  rfl

/-- What a delivery adds to a tenant's books: its receipt, unless they carry it. -/
theorem deliver_booked {shortcodeToTenant : String → Option ℕ} {d : Delivery} {out : Db × Reply}
    (hnew : DrawsNew db d) (hwhole : ∀ x ∈ handed shortcodeToTenant db d, x.Whole)
    (h : deliver shortcodeToTenant db d = .ok out) :
    bookedIn out.1 tenantId = bookedIn db tenantId +
      ((d.receipt shortcodeToTenant db out.2).map (newFor db tenantId)).getD 0 := by
  cases deliver_ends h with
  | quiet hreceipt hreply hrepayments hsuspense =>
    rw [hreceipt, bookedIn, hrepayments, sum_heldFor_congr tenantId hsuspense]
    exact (add_zero _).symm
  | known r hreceipt hcarried hout =>
    rw [hreceipt, hout, Option.map_some, Option.getD_some, newFor_carried tenantId hcarried,
      add_zero]
  | unmatched cb freshRef now t hd htenant hunused hparked =>
    subst hd
    simp only [Delivery.receipt, Delivery.brings, htenant, Except.toOption, Option.map_some,
      Option.getD_some]
    exact parkConfirmation_booked tenantId hnew hunused hparked
  | paid x result hhanded hsource hrow hsame hpaid hreceipt hreply hrows =>
    have hbooked := payLoan_booked tenantId hrow hsource
      (fun hopen haccepts => (hwhole x hhanded hopen).1 haccepts) hpaid
    rw [bookedIn_congr tenantId hsame.1 hsame.2, newFor_congr tenantId hsame.1 hsame.2] at hbooked
    rw [hreceipt, bookedIn_congr tenantId hrows.1 hrows.2]
    exact hbooked
  | moved t entryId loanId resolver entry loan now result hhanded hrow hentry htenant hheld hmoved
      hreceipt hreply hrows =>
    subst htenant
    rw [hreceipt, bookedIn_congr tenantId hrows.1 hrows.2,
      allocateEntry_booked tenantId hrow hentry hheld (hwhole _ hhanded) hmoved]
    exact (add_zero _).symm

end Booked

end FinylDcp
