import FinylDcp.DeliveryCases

/-!
# Once per reference

Every channel changes the rows in one of the ways the accounting of references knows,
and a confirmation that comes again changes nothing. Over a run whose payments find
something to pay, no reference is counted twice.
-/
namespace FinylDcp
open Runs Tables Text

/-- An effect is about repayments and suspense rows only. -/
theorem Effect.congr {a b a' b' : Db} {acc : Option Acceptance} (h : Effect a b acc)
    (harepayments : a'.repayments = a.repayments) (hasuspense : a'.suspense = a.suspense)
    (hbrepayments : b'.repayments = b.repayments) (hbsuspense : b'.suspense = b.suspense) :
    Effect a' b' acc := by
  have hrepaid : ∀ t r, Repaid a' t r ↔ Repaid a t r := by simp [Repaid, harepayments]
  have hparked : ∀ t r, Parked a' t r ↔ Parked a t r := by simp [Parked, hasuspense]
  cases h with
  | kept hr hs =>
    exact .kept (by rw [hbrepayments, hr, harepayments]) (by rw [hbsuspense, hs, hasuspense])
  | parkedWhole x now ref hreason href hnew hr hs =>
    exact .parkedWhole x now ref hreason href (by simpa only [hrepaid, hparked] using hnew)
      (by rw [hbrepayments, hr, harepayments]) (by rw [hbsuspense, hs, hasuspense])
  | applied loanId p d hnew hpos hle hr hs =>
    exact .applied loanId p d (by simpa only [hrepaid, hparked] using hnew) hpos hle
      (by rw [hbrepayments, hr, harepayments]) (by rw [hbsuspense, hs, hasuspense])
  | allocated loanId p d entryId entry mark hmark hentry htenant hstatus hamount href hfree hown
      hpos hle hr hs =>
    exact .allocated loanId p d entryId entry mark hmark (by rwa [hasuspense]) htenant hstatus
      hamount href (by rwa [hrepaid]) (by rwa [hparked]) hpos hle
      (by rw [hbrepayments, hr, harepayments]) (by rw [hbsuspense, hs, hasuspense])
  | spent entryId entry mark hmark hentry hpos hr hs =>
    exact .spent entryId entry mark hmark (by rwa [hasuspense]) hpos
      (by rw [hbrepayments, hr, harepayments]) (by rw [hbsuspense, hs, hasuspense])

theorem ApplyResult.acceptance_of {tenantId : ℕ} {result : ApplyResult}
    (h : result.status ≠ .duplicateIgnored) : result.acceptance tenantId =
      (nonEmpty (some result.ref)).map
        (fun r => ⟨tenantId, r, result.applied + result.excess⟩) := by
  by_cases href : result.ref = "" <;> simp [acceptance, h, href, nonEmpty]

/-- A new reference is neither repaid nor parked. -/
theorem Accepts.new {db : Db} {loan : Loan} {p : Payment} (h : Accepts db loan p)
    (hsource : p.fromSuspense = false) (href : p.reference ≠ "") :
    ¬ Repaid db p.tenantId p.reference ∧ ¬ Parked db p.tenantId p.reference := by
  obtain ⟨hrepaid, hparked⟩ := (referenceAlreadyUsed_eq_none href).mp h.2.2
  exact ⟨hrepaid, hparked (by rw [hsource]; rfl)⟩

/-- A payment from outside is ignored, parked whole, or applied. -/
theorem payLoan_effect {db : Db} {loanId : ℕ} {loan : Loan} {p : Payment} {out : Db × ApplyResult}
    (hrow : db.loans[loanId]? = some loan) (hsource : p.fromSuspense = false)
    (hplace : Accepts db loan p → loan.status.collectible = true → SomethingToPay db loanId loan p)
    (h : payLoan db loanId loan p = .ok out) :
    Effect db out.1 (out.2.acceptance p.tenantId) := by
  obtain ⟨hacc, hdb, hstatus⟩ | ⟨hacc, hcoll, hdb, hstatus, href, hamount⟩ |
    ⟨hacc, hcoll, ⟨logs, borrowers, hdb⟩, hstatus, href, hamount⟩ := payLoan_cases hrow h
  · rw [hdb, ApplyResult.acceptance, if_pos (.inl hstatus)]
    exact .kept rfl rfl
  · have hnew : ∀ r, nonEmpty (some p.reference) = some r →
        ¬ Repaid db p.tenantId r ∧ ¬ Parked db p.tenantId r := by
      intro r hr
      obtain ⟨hown, hne⟩ := nonEmpty_eq_some.mp hr
      obtain rfl := Option.some.inj hown
      exact hacc.new hsource hne
    have hfree := suspenseWithRef_of_new fun r hr => (hnew r hr).2
    rw [ApplyResult.acceptance_of (by simp [hstatus]), href, hamount]
    exact .parkedWhole (closedLoanReceipt loanId p) p.now _ rfl (fun _ hr => hr) hnew
      (by rw [hdb]; rfl) (by rw [hdb]; exact park_new hfree)
  · have hpos := (applied_pos hacc).mpr (hplace hacc hcoll)
    rw [ApplyResult.acceptance_of (by simp [hstatus]), href, hamount]
    exact .applied loanId p (divisionOf db loanId loan p) (hacc.new hsource) hpos
      (divisionOf_applied_le db loanId loan p) (by rw [hdb]) (by rw [hdb])

theorem allocationRef_ne (db : Db) (tenantId entryId : ℕ) (entry : SuspenseEntry) :
    allocationRef db tenantId entryId entry ≠ "" := by
  simp only [allocationRef]
  split
  · intro h
    have := congrArg String.toList h
    simp at this
  · rename_i r hr
    split
    · intro h
      have := congrArg String.toList h
      simp [cut] at this
    · exact (nonEmpty_eq_some.mp hr).2

theorem allocationPayment_reference (db : Db) (tenantId entryId : ℕ) (entry : SuspenseEntry)
    (now : ℤ) : (allocationPayment db tenantId entryId entry now).reference =
      allocationRef db tenantId entryId entry := by
  have hown := nonEmpty_eq_some.mpr ⟨rfl, allocationRef_ne db tenantId entryId entry⟩
  simp only [Payment.reference, allocationPayment, hown, Option.getD_some]

/-- An allocation moves the entry's money to the loan, or finds its reference used and
closes the entry. -/
theorem allocateEntry_effect {db : Db} {tenantId entryId loanId resolver : ℕ}
    {entry : SuspenseEntry}
    {loan : Loan} {now : ℤ} {out : Db × ApplyResult} (hrow : db.loans[loanId]? = some loan)
    (hentry : db.suspense[entryId]? = some entry) (htenant : entry.tenantId = tenantId)
    (hstatus : entry.status ≠ .allocated)
    (hlands : Lands ⟨db, loanId, loan, allocationPayment db tenantId entryId entry now, some entry⟩)
    (h : allocateEntry db tenantId entryId entry loanId loan resolver now = .ok out) :
    Effect db out.1 (out.2.acceptance tenantId) := by
  simp only [allocateEntry] at h
  split at h
  · cases h
  rename_i hcoll
  obtain ⟨paid, hpay, rfl⟩ := map_eq_ok.mp h
  generalize hp : allocationPayment db tenantId entryId entry now = p at hpay hlands
  have htenantP : p.tenantId = tenantId := by rw [← hp]; rfl
  have hamountP : p.amount = entry.amount := by rw [← hp]; rfl
  have href : p.reference ≠ "" := by
    rw [← hp, allocationPayment_reference]
    exact allocationRef_ne db tenantId entryId entry
  have hpositive := payLoan_pos hpay
  dsimp only [Db.updateSuspense]
  obtain ⟨-, hdb, hresult⟩ | ⟨-, hclosed, -⟩ |
    ⟨hacc, hopen, ⟨logs, borrowers, hdb⟩, hresult, hreference, hamount⟩ := payLoan_cases hrow hpay
  · rw [hdb, ApplyResult.acceptance, if_pos (.inl hresult)]
    refine .spent entryId entry _ (fun e => ?_) hentry (by omega) rfl rfl
    simp [SuspenseEntry.IsAllocated, SuspenseEntry.face]
  · simp [hclosed] at hcoll
  · obtain ⟨hplace, hown⟩ := hlands hacc hopen
    have hfree := ((referenceAlreadyUsed_eq_none href).mp hacc.2.2).1
    have hown' : entry.mpesaRef = some p.reference ∨ ¬ Parked db p.tenantId p.reference :=
      (hown entry rfl).imp_right fun hnone => ((referenceAlreadyUsed_eq_none href).mp hnone).2 rfl
    rw [ApplyResult.acceptance_of (by simp [hresult]), hreference, hamount,
      show nonEmpty (some p.reference) = some p.reference from nonEmpty_eq_some.mpr ⟨rfl, href⟩,
      ← htenantP]
    refine .allocated loanId p (divisionOf db loanId loan p) entryId entry _ (fun e => ?_) hentry
      (htenant.trans htenantP.symm) hstatus hamountP href hfree hown'
        ((applied_pos hacc).mpr hplace)
      (divisionOf_applied_le db loanId loan p) (by rw [hdb]) (by rw [hdb])
    simp [SuspenseEntry.IsAllocated, SuspenseEntry.face]

/-- The reference a new confirmation is parked under is not repaid. -/
theorem unrepaid_reference {db : Db} {tenantId : ℕ} {cb : C2BCallback} {freshRef : String} {now : ℤ}
    (hnew : DrawsNew db (.c2b cb freshRef now))
    (hunused : referenceAlreadyUsed db tenantId cb.transId true = none) {r : String}
    (hr : nonEmpty (some ((nonEmpty cb.transId).getD freshRef)) = some r) :
    ¬ Repaid db tenantId r := by
  obtain ⟨hr, hne⟩ := nonEmpty_eq_some.mp hr
  cases htrans : nonEmpty cb.transId with
  | some own =>
    obtain rfl : own = r := by simpa [htrans] using hr
    rw [(nonEmpty_eq_some.mp htrans).1, referenceAlreadyUsed_eq_none hne] at hunused
    exact hunused.1
  | none =>
    obtain rfl : freshRef = r := by simpa [htrans] using hr
    rintro ⟨e, he, -, hre⟩
    exact hnew e he hre

/-- A confirmation no loan is found for is parked, or was parked under a drawn
reference before. -/
theorem parkConfirmation_effect {db : Db} {tenantId : ℕ} {cb : C2BCallback} {freshRef : String}
    {now : ℤ} {out : Db × Reply} (hnew : DrawsNew db (.c2b cb freshRef now))
    (hunused : referenceAlreadyUsed db tenantId cb.transId true = none)
    (h : parkConfirmation db tenantId cb (matchReference db tenantId cb.billRefNumber cb.msisdn)
      freshRef now = .ok out) :
    Effect db out.1 (out.2.acceptance db out.1 (nonEmpty cb.transId)) := by
  simp only [parkConfirmation, recordSuspense] at h
  obtain ⟨-, rfl⟩ := commitWith_eq_ok.mp h
  have hreason := matchReference_reason db tenantId cb.billRefNumber cb.msisdn
  generalize matchReference db tenantId cb.billRefNumber cb.msisdn = m at hreason ⊢
  generalize hx : cb.receipt tenantId m freshRef = x
  replace hreason : x.reason.ofRest = false := by rwa [← hx]
  have href : x.ref = some ((nonEmpty cb.transId).getD freshRef) := by rw [← hx]; rfl
  have htenant : x.tenantId = tenantId := by rw [← hx]; rfl
  cases hfree : suspenseWithRef db.suspense x.tenantId x.ref with
  | some i =>
    have hlt := suspenseWithRef_lt hfree
    simp only [park, hfree, Reply.acceptance, hlt.ne, if_false]
    exact .kept rfl rfl
  | none =>
    have hacc : (nonEmpty cb.transId).bind (fun ref =>
        ((db.suspense ++ [x.entry now])[db.suspense.length]?).map
          (fun e => (⟨tenantId, ref, e.amount⟩ : Acceptance))) =
        (nonEmpty cb.transId).map (fun r => ⟨x.tenantId, r, x.amount⟩) := by
      simp [htenant, Receipt.entry, Option.map_eq_bind]
    simp only [park, hfree, Reply.acceptance, if_true, hacc]
    refine .parkedWhole x now _ hreason (fun r hr => ?_) (fun r hr => ?_) rfl rfl
    · rw [href, hr]
      exact nonEmpty_eq_some.mpr ⟨rfl, (nonEmpty_eq_some.mp hr).2⟩
    · refine ⟨?_, fun hparked => ?_⟩
      · rw [href] at hr
        exact htenant ▸ unrepaid_reference hnew hunused hr
      · obtain ⟨hr, hne⟩ := nonEmpty_eq_some.mp hr
        obtain ⟨e, he, hte, hre⟩ := hparked
        rw [hr, suspenseWithRef_eq_none hne] at hfree
        exact hfree e he hte hre

/-- Every delivery that goes through is one of the effects. -/
theorem deliver_effect {db : Db} {shortcodeToTenant : String → Option ℕ} {d : Delivery}
    {out : Db × Reply} (hplace : FindsItsPlace shortcodeToTenant db d)
    (h : deliver shortcodeToTenant db d = .ok out) :
    Effect db out.1 (out.2.acceptance db out.1 d.transId) := by
  cases deliver_ends h with
  | quiet hreceipt hreply hrepayments hsuspense =>
    have hnone : out.2.acceptance db out.1 d.transId = none := by
      cases hout : out.2 with
      | parked tenantId suspenseId => simp [hout, Reply.silent] at hreply
      | payment tenantId result => simp [hout, Reply.silent] at hreply
      | _ => rfl
    rw [hnone]
    exact .kept hrepayments hsuspense
  | known r hreceipt hcarried hout =>
    rw [hout]
    exact .kept rfl rfl
  | unmatched cb freshRef now tenantId hd htenant hunused hparked =>
    subst hd
    exact parkConfirmation_effect hplace.1 hunused hparked
  | paid x result hhanded hsource hrow hsame hpaid hreceipt hreply hrows =>
    have heffect := payLoan_effect hrow hsource
      (fun hacc hcoll => (hplace.2 x hhanded hacc hcoll).1) hpaid
    have hbooked := heffect.congr hsame.1.symm hsame.2.symm hrows.1 hrows.2
    obtain hreply | ⟨hduplicate, hreply⟩ := hreply
    · rw [hreply]
      exact hbooked
    · rw [ApplyResult.acceptance, if_pos (.inl hduplicate)] at hbooked
      rw [hreply]
      exact hbooked
  | moved tenantId entryId loanId resolver entry loan now result hhanded hrow hentry htenant hheld
      hmoved hreceipt hreply hrows =>
    rw [hreply]
    exact (allocateEntry_effect hrow hentry htenant hheld (hplace.2 _ hhanded) hmoved).congr
      rfl rfl hrows.1 hrows.2

/-- The step lemma: a delivery whose payments find their place keeps the books in order. -/
theorem Ledgered.deliver {shortcodeToTenant : String → Option ℕ} {s : Till} {d : Delivery}
    (hs : Ledgered s) (hplace : FindsItsPlace shortcodeToTenant s.db d) :
    Ledgered (s.step shortcodeToTenant d) := by
  simp only [Till.step]
  split
  · rename_i out hout
    exact hs.step (deliver_effect hplace hout)
  · exact hs

theorem Untouched.refl (db : Db) : Untouched db db := ⟨rfl, rfl, rfl⟩

/-- The check sees a recorded reference. -/
theorem Recorded.used {db : Db} {tenantId : ℕ} {ref : String} (h : Recorded db tenantId ref)
    (hne : ref ≠ "") : referenceAlreadyUsed db tenantId (some ref) true ≠ none := by
  intro hnone
  obtain ⟨hrepaid, hparked⟩ := (referenceAlreadyUsed_eq_none hne).mp hnone
  exact h.not_new hrepaid (hparked rfl)

/-- A callback that brings a recorded reference changes nothing. -/
theorem redelivery_untouched {db : Db} {shortcodeToTenant : String → Option ℕ} {tenantId : ℕ}
    {ref : String} {d : Delivery} {out : Db × Reply} (hr : Recorded db tenantId ref)
    (hne : ref ≠ "")
    (hbrings : Brings shortcodeToTenant db tenantId ref d)
    (h : deliver shortcodeToTenant db d = .ok out) : Untouched db out.1 := by
  cases d with
  | c2b cb freshRef now =>
    obtain ⟨href, htenant⟩ := hbrings
    have hused := Option.isSome_iff_ne_none.mpr (hr.used hne)
    obtain ⟨t, ht, h⟩ := bind_eq_ok.mp h
    obtain rfl : tenantId = t := Except.ok.inj (htenant.symm.trans ht)
    rw [href, if_pos hused] at h
    cases h
    exact .refl db
  | stk cb freshRef now =>
    obtain ⟨href, htenant⟩ := hbrings
    simp only [deliver, processStkCallback] at h
    split at h
    · cases h
      exact .refl db
    rename_i checkoutId hcheckout
    split at h
    · cases h
    rename_i txnId hfound
    split at h
    · cases h
    rename_i txn htxn
    split at h
    · cases h
      exact .refl db
    split at h
    · obtain ⟨-, rfl⟩ := commitWith_eq_ok.mp h
      exact .refl db
    split at h
    · rename_i loanId loan hloan
      split at h
      · obtain ⟨paid, hpay, h⟩ := bind_eq_ok.mp h
        obtain ⟨-, rfl⟩ := commitWith_eq_ok.mp h
        have htxn' : stkTransaction db cb = some txn := by
          rw [stkTransaction, hcheckout]
          exact find?_of_findIdx? hfound htxn
        have hpref : (cb.payment txn freshRef now).reference = ref := by
          have hown : nonEmpty (some ref) = some ref := nonEmpty_eq_some.mpr ⟨rfl, hne⟩
          simp [Payment.reference, StkCallback.payment, href, hown]
        have hduplicate : ¬ Accepts (stkPaid db txnId (cb.payment txn freshRef now).ref) loan
            (cb.payment txn freshRef now) := by
          rintro ⟨-, -, hnew⟩
          rw [hpref, show (cb.payment txn freshRef now).tenantId = tenantId from htenant txn htxn']
            at hnew
          exact hr.used hne hnew
        obtain ⟨-, hdb, -⟩ | ⟨hacc, -⟩ | ⟨hacc, -⟩ :=
          payLoan_cases (show (stkPaid db txnId _).loans[loanId]? = some loan from
            (loanOf_eq_some hloan).2.1) hpay
        · rw [hdb]
          exact .refl db
        · exact absurd hacc hduplicate
        · exact absurd hacc hduplicate
      · obtain ⟨-, rfl⟩ := commitWith_eq_ok.mp h
        exact .refl db
    · obtain ⟨-, rfl⟩ := commitWith_eq_ok.mp h
      exact .refl db
  | manual => exact hbrings.elim
  | reconcile => exact hbrings.elim
  | allocate => exact hbrings.elim
  | decide => exact hbrings.elim
  | upkeep => exact hbrings.elim

/-- Books in order count every accepted reference once. -/
theorem Ledgered.onceOnly {shortcodeToTenant : String → Option ℕ} {s : Till} (hs : Ledgered s) :
    OnceOnly shortcodeToTenant s := by
  intro a ha
  refine ⟨hs.money a ha, fun d hbrings => ?_⟩
  simp only [Till.step]
  split
  · rename_i out hout
    exact redelivery_untouched (hs.recorded a ha) (hs.named a ha) hbrings hout
  · exact .refl s.db

/-- Over a run whose payments find their place, every accepted reference counts once. -/
theorem reference_counts_once (shortcodeToTenant : String → Option ℕ) {db : Db}
    (ds : List Delivery) (hindexed : db.indexed = true) (htraced : OverpaidTraced db)
    (h : AllSteps (Till.step shortcodeToTenant)
      (fun s d => FindsItsPlace shortcodeToTenant s.db d) ⟨db, []⟩ ds) :
    Always (Till.step shortcodeToTenant) (OnceOnly shortcodeToTenant) ⟨db, []⟩ ds := by
  have hstart : Ledgered ⟨db, []⟩ :=
    ⟨(Db.indexed_iff.mp hindexed).2.2, htraced, by simp, by simp, by simp⟩
  intro bs hbs
  exact (invariant_run (fun _ _ hs hplace => hs.deliver hplace) hstart (h.of_prefix hbs)).onceOnly

/-- A confirmation delivered twice, one parked and then allocated, and a manual entry that
settles the loan with money left over. -/
theorem reference_counts_once_allocated :
    Always (Till.step fun _ => some 1) (OnceOnly fun _ => some 1) ⟨fourWeekBook, []⟩
      [.c2b (paybillConfirmation "QA1" "FL/1" 400000 3) "C2B-1" 259300,
        .c2b (paybillConfirmation "QA1" "FL/1" 400000 3) "C2B-2" 259400,
        .c2b (paybillConfirmation "QA2" "FL/9" 250000 5) "C2B-3" 432100,
        .allocate 1 7 0 0 false 518400,
        .manual 1 7 (statementLine "QA3" 900000 12) false "MAN-1" 1036900] :=
  reference_counts_once _ _ (by decide) (by simp [OverpaidTraced, fourWeekBook])
    (by decide +kernel)

/-- Under the proportional split 10,900 paid on day 27 pays 990.91 of interest. A manual
entry then dated day 1 finds the payoff covered by interest paid ahead: all of it is
overpaid, no row carries its reference, and a confirmation of the reference is parked
once more. -/
theorem reference_counts_twice : fourWeekBook.indexed = true ∧ OverpaidTraced fourWeekBook ∧
    ¬ Always (Till.step fun _ => some 1) (OnceOnly fun _ => some 1) ⟨fourWeekBook, []⟩
      [.upkeep (.settings 1 (some "proportional") none),
        .c2b (paybillConfirmation "QA1" "FL/1" 1090000 27) "C2B-1" 2332900,
        .manual 1 7 (statementLine "QA2" 50000 1) false "MAN-1" 2333000,
        .c2b (paybillConfirmation "QA2" "FL/1" 50000 1) "C2B-2" 2333100] := by
  refine ⟨by decide, by simp [OverpaidTraced, fourWeekBook], fun h => ?_⟩
  have hcounts := (h.last ⟨1, "QA2", 50000⟩ (by decide +kernel)).1
  exact absurd hcounts (by decide +kernel)

end FinylDcp
