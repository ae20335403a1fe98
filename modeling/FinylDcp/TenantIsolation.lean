import FinylDcp.Integrations
import FinylDcp.PaymentRoutes
import FinylDcp.PaymentEffects
import FinylDcp.Tables

/-!
# Paybill money stays with its tenant

A confirmation is routed by its paybill number before anything it says is looked at. What
it says then selects among the rows of that tenant only, so the rows of the others are as
they were. A number that is blank counts as absent, and the account number decides.
-/
namespace FinylDcp
open Text Tables

/-- The loans, repayments, suspense entries and transactions of all tenants but one are as
they were. -/
structure OthersUntouched (tenantId : ℕ) (before after : Db) : Prop where
  loans : SameElsewhere (fun l : Loan => l.tenantId = tenantId) before.loans after.loans
  repayments : SameElsewhere (fun r : Repayment => r.tenantId = tenantId)
    before.repayments after.repayments
  suspense : SameElsewhere (fun e : SuspenseEntry => e.tenantId = tenantId)
    before.suspense after.suspense
  transactions : SameElsewhere (fun t : PaymentTransaction => t.tenantId = tenantId)
    before.transactions after.transactions

theorem OthersUntouched.refl (tenantId : ℕ) (db : Db) : OthersUntouched tenantId db db :=
  ⟨.refl _, .refl _, .refl _, .refl _⟩

/-- The committed database once a callback is handled: a failure is rolled back. -/
def Db.handled (db : Db) : Except Failure (Db × Reply) → Db
  | .ok out => out.1
  | .error _ => db

section Rows

variable {db : Db} {tenantId loanId : ℕ} {loan : Loan} {p : Payment}

theorem park_untouched (suspense : List SuspenseEntry) {x : Receipt} (now : ℤ)
    (h : x.tenantId = tenantId) : SameElsewhere (fun e : SuspenseEntry => e.tenantId = tenantId)
      suspense (park suspense x now).1 := by
  by_cases hfree : suspenseWithRef suspense x.tenantId x.ref = none
  · rw [park_new hfree]
    refine .append suspense ?_
    intro e he
    rw [List.mem_singleton.mp he]
    exact decide_eq_true h
  · rw [park_known hfree]
    exact .refl suspense

theorem settled_tenantId (loan : Loan) (d : Division) (paidOn : ℤ) :
    (settled loan d paidOn).tenantId = loan.tenantId := by
  obtain ⟨status, lock, hloan⟩ := settled_loan loan d paidOn
  rw [hloan]

/-- A payment of a tenant leaves rows of that tenant only. -/
theorem applied_untouched {db' : Db} (hrow : db.loans[loanId]? = some loan)
    (hloan : loan.tenantId = tenantId) (hp : p.tenantId = tenantId)
    (h : AppliedTo db loanId loan p db') : OthersUntouched tenantId db db' := by
  obtain ⟨logs, borrowers, rfl⟩ := h
  constructor
  · have hsettled := settled_tenantId loan (divisionOf db loanId loan p) p.paidOn
    exact .set hrow (decide_eq_true hloan) (decide_eq_true (hsettled.trans hloan))
  · refine .append _ ?_
    intro r hr
    simp only [repaymentRow] at hr
    split at hr
    · rw [List.mem_singleton.mp hr]
      exact decide_eq_true hp
    · exact absurd hr List.not_mem_nil
  · have hexcess (rows : List SuspenseEntry) (x : ℤ) :=
      park_untouched rows p.now (x := overpaymentReceipt loanId p x) hp
    have hcredit (rows : List SuspenseEntry) (x : ℤ) :=
      park_untouched rows p.now (x := interestRefundReceipt loanId p x) hp
    simp only [parkRest]
    split_ifs
    · exact (hexcess _ _).trans (hcredit _ _)
    · exact hcredit _ _
    · exact hexcess _ _
    · exact .refl _
  · exact .refl _

theorem payLoan_untouched {out : Db × ApplyResult} (hrow : db.loans[loanId]? = some loan)
    (hloan : loan.tenantId = tenantId) (hp : p.tenantId = tenantId)
    (h : payLoan db loanId loan p = .ok out) : OthersUntouched tenantId db out.1 := by
  rcases payLoan_cases hrow h with ⟨-, hdb, -⟩ | ⟨-, -, hdb, -⟩ | ⟨-, -, happlied, -⟩
  · rw [hdb]
    exact .refl tenantId db
  · rw [hdb]
    exact ⟨.refl _, .refl _, park_untouched _ _ hp, .refl _⟩
  · exact applied_untouched hrow hloan hp happlied

/-- A transaction of the tenant is recorded. -/
theorem OthersUntouched.record {db' : Db} (h : OthersUntouched tenantId db db')
    {txn : PaymentTransaction} (htxn : txn.tenantId = tenantId) :
    OthersUntouched tenantId db { db' with transactions := db'.transactions ++ [txn] } := by
  refine ⟨h.loans, h.repayments, h.suspense, h.transactions.trans (.append _ ?_)⟩
  intro t ht
  rw [List.mem_singleton.mp ht]
  exact decide_eq_true htxn

end Rows

section Confirmation

variable {db : Db} {shortcodeToTenant : String → Option ℕ} {tenantId : ℕ} {cb : C2BCallback}
  {freshRef : String} {now : ℤ} {out : Db × Reply}

/-- A confirmation touches the rows of the tenant it was routed to only. -/
theorem processC2bCallback_untouched (htenant : c2bTenant db shortcodeToTenant cb = .ok tenantId)
    (h : processC2bCallback db shortcodeToTenant cb freshRef now = .ok out) :
    OthersUntouched tenantId db out.1 := by
  simp only [processC2bCallback, htenant] at h
  change (if _ then _ else _) = _ at h
  split at h
  · cases h
    exact .refl tenantId db
  split at h
  · obtain ⟨-, rfl⟩ := commitWith_eq_ok.mp h
    let receipt := cb.receipt tenantId (matchReference db tenantId cb.billRefNumber cb.msisdn)
      freshRef
    have hparked : OthersUntouched tenantId db (recordSuspense db receipt now).1 :=
      ⟨.refl _, .refl _, park_untouched db.suspense now rfl, .refl _⟩
    exact hparked.record rfl
  split at h
  · cases h
  · rename_i loan hloan
    obtain ⟨hrow, hown⟩ := loanRow_eq_some hloan
    obtain ⟨paid, hpay, h⟩ := bind_eq_ok.mp h
    have hpaid := payLoan_untouched hrow hown rfl hpay
    split at h
    · cases h
      exact .refl tenantId db
    · obtain ⟨-, rfl⟩ := commitWith_eq_ok.mp h
      exact hpaid.record rfl

end Confirmation

/-- The tenant of a confirmation with a paybill number is the number's, whatever else the
confirmation says. -/
theorem c2bTenant_shortcode (db : Db) (platform : Platform) {cb : C2BCallback} {shortcode : String}
    (hcode : cb.businessShortCode = some shortcode) (hblank : strip shortcode ≠ "") :
    c2bTenant db platform.shortcodeToTenant cb =
      match platform.shortcodeToTenant shortcode with
      | some tenantId => .ok tenantId
      | none => .error
          (.unresolved s!"paybill {strip shortcode} is not registered to any DCP") := by
  have hnumber : nonEmpty (cb.businessShortCode.map strip) = some (strip shortcode) := by
    rw [nonEmpty_eq_some, hcode]
    exact ⟨rfl, hblank⟩
  cases hfound : platform.shortcodeToTenant shortcode with
  | some tenantId => simp only [c2bTenant, hnumber, platform.shortcodeToTenant_strip hblank, hfound]
  | none => simp only [c2bTenant, hnumber, platform.shortcodeToTenant_strip hblank, hfound]

/-- A payment to tenant 1's account that names a paybill number. -/
def namedPaybill (shortcode : String) : C2BCallback :=
  { paybillConfirmation "QA1" "FL/1" 200000 3 with businessShortCode := some shortcode }

/-- A confirmation whose paybill number is a tenant's touches no row of another tenant. One
whose number several settings claim, or none does and it is not the own number of a
platform with one tenant that takes payments, is unresolved and touches no row at all. -/
theorem paybill_money_stays_with_tenant (platform : Platform) (db : Db) (cb : C2BCallback)
    (shortcode freshRef : String) (now : ℤ) (hcode : cb.businessShortCode = some shortcode)
    (hblank : strip shortcode ≠ "") :
    (∀ tenantId, platform.shortcodeToTenant shortcode = some tenantId →
      OthersUntouched tenantId db
        (db.handled (processC2bCallback db platform.shortcodeToTenant cb freshRef now))) ∧
    (1 < (platform.claimants shortcode).length ∨ platform.claimants shortcode = [] ∧
        ¬ (platform.isDefault shortcode = true ∧ platform.paymentTenants.length = 1) →
      (∃ why, processC2bCallback db platform.shortcodeToTenant cb freshRef now =
        .error (.unresolved why)) ∧
      db.handled (processC2bCallback db platform.shortcodeToTenant cb freshRef now) = db) := by
  have htenant := c2bTenant_shortcode db platform hcode hblank
  constructor
  · intro tenantId hresolved
    rw [hresolved] at htenant
    cases hout : processC2bCallback db platform.shortcodeToTenant cb freshRef now with
    | error failure => exact .refl tenantId db
    | ok out => exact processC2bCallback_untouched htenant hout
  · intro hunknown
    have hnone : platform.shortcodeToTenant shortcode = none := by
      rcases hunknown with hseveral | ⟨hnone, hdefault⟩
      · exact platform.shortcodeToTenant_several hseveral
      · exact platform.shortcodeToTenant_unclaimed hnone hdefault
    rw [hnone] at htenant
    have hout : processC2bCallback db platform.shortcodeToTenant cb freshRef now = .error
        (.unresolved s!"paybill {strip shortcode} is not registered to any DCP") := by
      simp only [processC2bCallback, htenant]
      rfl
    exact ⟨⟨_, hout⟩, by rw [hout]; rfl⟩

/-- Money on tenant 1's number stays with tenant 1; a number nobody claims changes nothing. -/
theorem paybill_money_stays_with_tenant_named :
    OthersUntouched 1 fourWeekBook (fourWeekBook.handled (processC2bCallback fourWeekBook
        unfinishedPlatform.shortcodeToTenant (namedPaybill "600100") "FR1" 259200)) ∧
      fourWeekBook.handled (processC2bCallback fourWeekBook unfinishedPlatform.shortcodeToTenant
        (namedPaybill "600200") "FR1" 259200) = fourWeekBook :=
  ⟨(paybill_money_stays_with_tenant unfinishedPlatform fourWeekBook (namedPaybill "600100")
      "600100" "FR1" 259200 rfl (by decide)).1 1 (by decide),
    ((paybill_money_stays_with_tenant unfinishedPlatform fourWeekBook (namedPaybill "600200")
      "600200" "FR1" 259200 rfl (by decide)).2 (.inr (by decide))).2⟩

/-- A paybill number of one blank resolves to the tenant without a number, and the account
number credits a loan of another. -/
theorem blank_paybill_credits_other_tenant :
    unfinishedPlatform.shortcodeToTenant " " = some 2 ∧
      (fourWeekBook.handled (processC2bCallback fourWeekBook unfinishedPlatform.shortcodeToTenant
        (namedPaybill " ") "FR1" 259200)).repayments.map (fun r => (r.tenantId, r.amount)) =
          [(1, 200000)] ∧
      ¬ OthersUntouched 2 fourWeekBook (fourWeekBook.handled (processC2bCallback fourWeekBook
        unfinishedPlatform.shortcodeToTenant (namedPaybill " ") "FR1" 259200)) := by
  refine ⟨by decide +kernel, by decide +kernel, fun h => ?_⟩
  have hrow := h.repayments 0
  revert hrow
  decide +kernel

end FinylDcp
