import FinylDcp.DecisionEffects
import FinylDcp.PayoutEffects
import FinylDcp.Permissions
import FinylDcp.ReceiptConfluence

/-!
# Who may decide about money

The routes that decide a pending action and resolve a payout let a user in who has any of
the approval permissions at the tenant. Which of them the action needs is then looked up in
the catalogue, without the overrides of the tenant.
-/
namespace FinylDcp
open Db Text

/-- Whether a role approves a type of action at a tenant. -/
structure ApproverSetting where
  tenantId : ℕ
  approvalType : String
  role : String
  enabled : Bool
  deriving DecidableEq, Repr

/-- `APPROVAL_TYPE_PERMISSION`. -/
def approvalTypePermission : String → Option String
  | "loan" => some "loans.approve"
  | "client" => some "clients.approve"
  | "disbursement" => some "disburse.approve"
  | "refund" => some "refund.approve"
  | "manual_payment" => some "reconcile.approve"
  | _ => none

def defaultApproverEnabled (approvalType role : String) : Bool :=
  role ≠ "relationship_officer" &&
    (approvalTypePermission approvalType).any (fun perm => hasPermission role perm)

def approverEnabled (settings : List ApproverSetting) (tenantId : ℕ) (approvalType role : String) :
    Bool :=
  if role = "super_admin" then true
  else
    match settings.find? (fun s => s.tenantId = tenantId && s.approvalType = approvalType &&
      s.role = role) with
    | some row => row.enabled
    | none => defaultApproverEnabled approvalType role

/-- `APPROVAL_TYPES`. -/
def approvalTypes : List String := ["loan", "client", "disbursement", "refund", "manual_payment"]

/-- What the routes look up of a user: the permissions of the role in the catalogue, and the
types it approves at the tenant. -/
def User.checker (user : User) (settings : List ApproverSetting) (tenantId : ℕ) : Checker where
  id := user.id
  superAdmin := user.role = "super_admin"
  permissions := permissionsFor user.role
  approverFor := approvalTypes.filter (fun type => approverEnabled settings tenantId type user.role)

/-- `_MONEY_APPROVE_PERMS`. -/
def moneyApprovePerms : List String := ["disburse.approve", "refund.approve", "reconcile.approve"]

/-- `POST /approvals/pending-actions/{id}`, up to its end or its provider call. -/
def decidePendingAction (overrides : List RolePermissionOverride) (settings : List ApproverSetting)
    (db : Db) (user : User) (xTenantId : Option ℕ) (pendingId : ℕ) (action freshRef : String)
    (now : ℤ) : Except Failure (Db × Progress) := do
  let tenantId ← getTenantId user xTenantId
  requireAny overrides user moneyApprovePerms
  beginDecision db tenantId pendingId action (user.checker settings tenantId) freshRef now

def payoutResolvePerms : List String := ["disburse.approve", "refund.approve"]

/-- `POST /payments/payouts/{id}/resolve`, with whether the tenant has payments switched on. -/
def resolvePayoutAs (overrides : List RolePermissionOverride) (db : Db) (user : User)
    (xTenantId : Option ℕ) (paymentsEnabled : Bool) (txnId : ℕ) (outcome : String)
    (receipt : Option String) (note : String) (now : ℤ) : Except Failure Db := do
  let tenantId ← getTenantId user xTenantId
  refuseIf (user.role ≠ "super_admin" ∧ !paymentsEnabled)
    (.http 403 "Module 'payments' is not enabled for this tenant")
  requireAny overrides user payoutResolvePerms
  resolvePayoutRequest db tenantId txnId (user.checker [] tenantId) outcome receipt note now

/-- A request of 1.00 about the first rows of the book. -/
def waitingRequest (a : ActionType) (tenantId : ℕ) : PendingApproval where
  tenantId := tenantId
  actionType := a
  loanId := some 0
  amount := 100
  phone := some "254700000001"
  reason := none
  status := .pendingApproval
  makerUserId := 1
  checkerUserId := none
  details := ⟨some 0, some "QA9", none, none, none, none⟩

/-- A receipt of the same amount, held for the request. -/
def waitingEntry (tenantId : ℕ) : SuspenseEntry where
  tenantId := tenantId
  source := .c2b
  mpesaRef := none
  phone := none
  amount := 100
  reason := .unmatched
  status := .pendingApproval
  matchedLoanId := none
  suggestedLoanId := none
  billRef := none
  payerName := none
  paidAt := none
  createdAt := 0
  resolvedAt := none
  resolvedByUserId := none

def waitingLoan (a : ActionType) (tenantId : ℕ) : Loan :=
  { fourWeekLoan with
    tenantId := tenantId
    status := if a = .disbursement then .approved else .active
    dueDate := none }

/-- A book of a tenant where a request of any kind can be approved: its loan has been repaid
twice over, or waits for its payout. -/
def waitingBook (a : ActionType) (tenantId : ℕ) : Db where
  products := fourWeekBook.products
  borrowers := [⟨tenantId, "254700000001", none, true, none⟩]
  loans := [waitingLoan a tenantId]
  lockLogs := []
  repayments := [⟨tenantId, 0, 2000000, 0, 0, 0, 0, "mpesa_c2b", none⟩]
  transactions := []
  suspense := [waitingEntry tenantId]
  pending := [waitingRequest a tenantId]
  paymentsConfigs := []

section Waiting

variable (a : ActionType) (tenantId : ℕ)

theorem waitingBook_indexed : (waitingBook a tenantId).indexed = true := by
  simp [Db.indexed, Db.uniqueRefs, waitingBook, waitingEntry]

theorem waitingBook_loan : loanRow (waitingBook a tenantId) tenantId 0 =
    some (waitingLoan a tenantId) := by
  simp [loanRow, waitingBook, waitingLoan]

theorem lockedEntry_waiting : lockedEntry (waitingBook a tenantId) tenantId
    (waitingRequest a tenantId) = .ok (0, waitingEntry tenantId) := by
  simp [lockedEntry, waitingRequest, waitingBook, waitingEntry, Option.filter]

theorem waitingQuote : (loanSnapshot (waitingLoan .disbursement tenantId)
    ⟨10, 4, "weeks", 5, ⟨0, 0, none⟩⟩).payoutAmount = 1000000 := by
  have hfresh : loanSnapshot (waitingLoan .disbursement tenantId)
      ⟨10, 4, "weeks", 5, ⟨0, 0, none⟩⟩ =
      quoteBreakdown ⟨10, 4, "weeks", 5, ⟨0, 0, none⟩⟩ 1000000 := rfl
  rw [hfresh]
  decide +kernel

theorem beginDisbursement_waiting : ∃ out, beginDisbursement (waitingBook .disbursement tenantId)
    tenantId 0 2 0 = .ok out ∧ out.1.indexed = true := by
  have hloan : (waitingBook .disbursement tenantId).loans[0]? =
      some (waitingLoan .disbursement tenantId) := rfl
  have hproduct : (waitingBook .disbursement tenantId).products[
      (waitingLoan .disbursement tenantId).productId]? =
        some ⟨10, 4, "weeks", 5, ⟨0, 0, none⟩⟩ := rfl
  have hborrower : (waitingBook .disbursement tenantId).borrowers[
      (waitingLoan .disbursement tenantId).borrowerId]? =
        some ⟨tenantId, "254700000001", none, true, none⟩ := rfl
  have hopen : openPayout (waitingBook .disbursement tenantId) tenantId 0 = none := rfl
  have hstatus : (waitingLoan .disbursement tenantId).status = .approved := rfl
  have htenant : (waitingLoan .disbursement tenantId).tenantId = tenantId := rfl
  have hpositive : ¬ (1000000 : ℤ) ≤ 0 := by omega
  simp only [beginDisbursement, hopen, hloan, htenant, hstatus, hproduct, hborrower, waitingQuote,
    ne_eq, not_true_eq_false, decide_false, Bool.or_self, Bool.false_eq_true, if_false, hpositive]
  refine ⟨_, rfl, ?_⟩
  simp [Db.indexed, Db.uniqueRefs, waitingBook, waitingEntry, payoutIntent, Db.updateLoan]

theorem beginRefund_waiting {db : Db} (hindexed : db.indexed = true) (loanId : Option ℕ)
    (context : RefundContext) : ∃ out, beginRefund db tenantId 100 (some "254700000001") loanId 2
      context 0 = .ok out ∧ out.1.indexed = true := by
  refine ⟨_, rfl, ?_⟩
  obtain ⟨hr, ht, hs⟩ := Db.indexed_iff.mp hindexed
  refine Db.indexed_iff.mpr ⟨hr, ?_, hs⟩
  rw [List.filterMap_append]
  simpa [List.filterMap_cons, PaymentTransaction.key] using ht

theorem refundable_waiting : ¬ refundableOverpayment (waitingBook .refund tenantId) tenantId 0
    (waitingLoan .refund tenantId) none false < 100 := by
  have hdue : (waitingLoan .refund tenantId).totalDue = 1100000 := by
    have hsame : (waitingLoan .refund tenantId).totalDue = fourWeekLoan.totalDue := rfl
    rw [hsame]
    decide +kernel
  have hfees : (waitingLoan .refund tenantId).feesInBalance = 0 := rfl
  simp [refundableOverpayment, Db.repaymentsOf, waitingBook, hdue, hfees]

/-- A payment of 1.00 without a reference of its own on the loan of the book. -/
theorem payLoan_waiting {p : Payment} (htenant : p.tenantId = tenantId)
    (hamount : p.amount = 100) (href : p.reference ≠ "") : ∃ out,
    payLoan (waitingBook a tenantId) 0 (waitingLoan a tenantId) p = .ok out ∧
      out.1.indexed = true := by
  have hloan : (waitingLoan a tenantId).tenantId = p.tenantId := htenant.symm
  obtain ⟨out, hout⟩ := payLoan_completes (waitingBook a tenantId) 0 (by omega : 0 < p.amount) hloan
  have hbook := waitingBook_indexed a tenantId
  obtain ⟨hrepayments, hsuspense⟩ := payLoan_nodup hbook href hout
  refine ⟨out, hout, Db.indexed_iff.mpr ⟨hrepayments, ?_, hsuspense⟩⟩
  rw [(payLoan_grows hout).1]
  exact (Db.indexed_iff.mp hbook).2.1

end Waiting

/-- Every kind of request in the book can be approved. -/
theorem beginApproval_waiting (a : ActionType) (tenantId : ℕ) : ∃ out,
    beginApproval (waitingBook a tenantId) tenantId 0 (waitingRequest a tenantId) 2 "QB2" 0 =
      .ok out := by
  have hloan := waitingBook_loan a tenantId
  have hlocked := lockedEntry_waiting a tenantId
  have hbook := waitingBook_indexed a tenantId
  have haction : (waitingRequest a tenantId).actionType = a := rfl
  have hheld : (waitingRequest a tenantId).loanId.bind (fun id =>
      (loanRow (waitingBook a tenantId) tenantId id).map (fun loan => (id, loan))) =
        some (0, waitingLoan a tenantId) := by
    simp only [waitingRequest, Option.bind_some, hloan, Option.map_some]
  cases a with
  | disbursement =>
    obtain ⟨out, hout, hindexed⟩ := beginDisbursement_waiting tenantId
    have hid : (waitingRequest .disbursement tenantId).loanId.filter (fun id =>
        (loanRow (waitingBook .disbursement tenantId) tenantId id).isSome) = some 0 := by
      simp [waitingRequest, hloan, Option.filter]
    simp only [beginApproval, haction, hid]
    exact ⟨_, bind_eq_ok.mpr ⟨0, rfl, bind_eq_ok.mpr ⟨out, hout, bind_eq_ok.mpr
      ⟨out.1, Db.commit_eq_ok.mpr ⟨hindexed, rfl⟩, rfl⟩⟩⟩⟩
  | refund =>
    obtain ⟨out, hout, hindexed⟩ := beginRefund_waiting tenantId hbook (some 0) ⟨none, some 0⟩
    have havailable : ¬ refundableOverpayment (waitingBook .refund tenantId) tenantId 0
        (waitingLoan .refund tenantId) none false < (waitingRequest .refund tenantId).amount :=
      refundable_waiting tenantId
    simp only [beginApproval, haction, hheld]
    rw [if_neg havailable]
    exact ⟨_, bind_eq_ok.mpr ⟨out, hout, bind_eq_ok.mpr
      ⟨out.1, Db.commit_eq_ok.mpr ⟨hindexed, rfl⟩, rfl⟩⟩⟩
  | suspenseRefund =>
    have hupdated : ((waitingBook .suspenseRefund tenantId).updateSuspense 0 (fun e => { e with
        status := .refundProcessing, resolvedByUserId := some 2 })).indexed = true := hbook
    obtain ⟨out, hout, hindexed⟩ := beginRefund_waiting tenantId hupdated (some 0) ⟨some 0, some 0⟩
    simp only [beginApproval, haction]
    exact ⟨_, bind_eq_ok.mpr ⟨_, hlocked, bind_eq_ok.mpr ⟨out, hout, bind_eq_ok.mpr
      ⟨out.1, Db.commit_eq_ok.mpr ⟨hindexed, rfl⟩, rfl⟩⟩⟩⟩
  | suspenseReversal =>
    simp only [beginApproval, haction]
    exact ⟨_, bind_eq_ok.mpr ⟨_, hlocked, rfl⟩⟩
  | manualPayment =>
    have hreference : nonEmpty (some "QA9") = some "QA9" := by decide
    have hunused : referenceAlreadyUsed (waitingBook .manualPayment tenantId) tenantId
        (waitingRequest .manualPayment tenantId).details.reference true = none := by
      simp [referenceAlreadyUsed, waitingRequest, waitingBook, waitingEntry, hreference]
    obtain ⟨out, hout, hindexed⟩ := payLoan_waiting .manualPayment tenantId
      (p := manualPayment tenantId 100
        (waitingRequest .manualPayment tenantId).details "QB2" 0) rfl rfl
      (by simp [Payment.reference, manualPayment, waitingRequest, hreference])
    simp only [beginApproval, haction, hunused, hheld]
    exact ⟨_, bind_eq_ok.mpr ⟨out, hout, bind_eq_ok.mpr
      ⟨decided out.1 0 .approved 2, Db.commit_eq_ok.mpr ⟨hindexed, rfl⟩, rfl⟩⟩⟩
  | suspenseAllocate =>
    have hreference : (nonEmpty (some s!"SUS-{0}")).getD "" ≠ "" := by decide
    obtain ⟨out, hout, hindexed⟩ := payLoan_waiting .suspenseAllocate tenantId
      (p := allocationPayment (waitingBook .suspenseAllocate tenantId) tenantId 0
        (waitingEntry tenantId) 0) rfl rfl
      hreference
    simp only [beginApproval, haction, hheld]
    refine ⟨_, bind_eq_ok.mpr ⟨_, hlocked, bind_eq_ok.mpr ⟨_, map_eq_ok.mpr ⟨out, hout, rfl⟩,
      bind_eq_ok.mpr ⟨_, Db.commit_eq_ok.mpr ⟨?_, rfl⟩, rfl⟩⟩⟩⟩
    obtain ⟨hr, ht, hs⟩ := Db.indexed_iff.mp hindexed
    refine Db.indexed_iff.mpr ⟨hr, ht, ?_⟩
    rw [← suspenseKeys_update out.1 0 (f := fun e => { e with
      status := .allocated
      matchedLoanId := some 0
      resolvedAt := some 0
      resolvedByUserId := some 2 }) fun e => rfl] at hs
    exact hs

/-- A payout whose outcome nobody knows. -/
def uncertainTxn (type : TransactionType) (tenantId : ℕ) : PaymentTransaction :=
  ⟨tenantId, type, none, 100, none, none, .uncertain, ⟨none, none, none, none, none⟩, 0⟩

def uncertainPayout (type : TransactionType) (tenantId : ℕ) : Db :=
  { waitingBook .refund tenantId with transactions := [uncertainTxn type tenantId] }

/-- The permission a payout is resolved with. -/
def payoutPermission (type : TransactionType) : String :=
  if type = .b2c then "disburse.approve" else "refund.approve"

/-- With the permission, a person can say that it was not paid. -/
theorem resolvePayout_uncertain {type : TransactionType} (htype : type = .b2c ∨ type = .refund)
    {tenantId : ℕ} {checker : Checker} (hpermission : payoutPermission type ∈ checker.permissions) :
    ∃ saved, resolvePayoutRequest (uncertainPayout type tenantId) tenantId 0 checker "not_paid" none
      "checked" 0 = .ok saved := by
  have htxn : payoutToResolve (uncertainPayout type tenantId) tenantId 0 checker =
      .ok (uncertainTxn type tenantId) := by
    rw [payoutPermission] at hpermission
    obtain rfl | rfl := htype <;>
      simp_all [payoutToResolve, uncertainPayout, uncertainTxn, Option.filter]
  have hsaid : payoutResolution (uncertainTxn type tenantId) "not_paid" none "checked" =
      .ok (uncertainTxn type tenantId, "MANUAL_NOT_PAID", none) := rfl
  have hindexed : ∀ t : PaymentTransaction, t.mpesaRef = none →
      Db.indexed { waitingBook .refund tenantId with transactions := [t] } = true := by
    intro t ht
    simp [Db.indexed, Db.uniqueRefs, waitingBook, waitingEntry, ht]
  obtain rfl | rfl := htype
  · exact ⟨_, bind_eq_ok.mpr ⟨_, htxn, bind_eq_ok.mpr ⟨_, bind_eq_ok.mpr ⟨_, hsaid, rfl⟩,
      Db.commit_eq_ok.mpr ⟨hindexed _ rfl, rfl⟩⟩⟩⟩
  · exact ⟨_, bind_eq_ok.mpr ⟨_, htxn, bind_eq_ok.mpr ⟨_, bind_eq_ok.mpr ⟨_, hsaid, rfl⟩,
      Db.commit_eq_ok.mpr ⟨hindexed _ rfl, rfl⟩⟩⟩⟩

theorem requireAny_eq_ok {overrides : List RolePermissionOverride} {user : User}
    {keys : List String}
    {u : Unit} : requireAny overrides user keys = .ok u ↔ user.role = "super_admin" ∨
      ∃ key ∈ keys, key ∈ effectivePermissions overrides user.tenantId user.role := by
  simp only [requireAny]
  split_ifs with hsuper
  · simp [hsuper]
  · simp [refuseIf_eq_ok, hsuper]

theorem getTenantId_own {user : User} {xTenantId : Option ℕ} {tenantId : ℕ}
    (hrole : user.role ≠ "super_admin") (h : getTenantId user xTenantId = .ok tenantId) :
    user.tenantId = tenantId := by
  unfold getTenantId at h
  rw [if_neg hrole] at h
  exact Except.ok.inj h

/-- What the checks of a decision say of the one who decides. -/
theorem decidable_checker {db : Db} {tenantId pendingId : ℕ} {action : String} {checker : Checker}
    {p : PendingApproval} (h : decidable db tenantId pendingId action checker = .ok p) :
    p.makerUserId ≠ checker.id ∧ (checker.superAdmin = true ∨
      checker.permissions.contains p.actionType.rule.1 = true ∧
        checker.approverFor.contains p.actionType.rule.2 = true) := by
  simp only [decidable] at h
  split at h
  · cases h
  split_ifs at h with hstatus haction hmaker hpermission happrover
  obtain rfl := Except.ok.inj h
  refine ⟨hmaker, ?_⟩
  cases hsuper : checker.superAdmin
  · simp only [hsuper, Bool.not_false, Bool.true_and, Bool.not_eq_true', Bool.not_eq_false]
      at hpermission happrover
    exact .inr ⟨hpermission, happrover⟩
  · exact .inl rfl

theorem rule_mem (a : ActionType) : a.rule.1 ∈ permissions ∧ a.rule.2 ∈ approvalTypes := by
  cases a <;> decide

/-- Who decides about money: not who asked for it, with the permission the action needs at the
tenant, and as an approver of its kind. -/
structure Entitled (overrides : List RolePermissionOverride) (settings : List ApproverSetting)
    (tenantId : ℕ) (user : User) (p : PendingApproval) : Prop where
  notMaker : p.makerUserId ≠ user.id
  permitted : p.actionType.rule.1 ∈ effectivePermissions overrides tenantId user.role
  approver : user.role = "super_admin" ∨
    approverEnabled settings tenantId p.actionType.rule.2 user.role = true

/-- Whoever of a role approves an action of a kind at a tenant, so that it is executed, is
entitled to. -/
def ApprovedByEntitled (overrides : List RolePermissionOverride) (tenantId : ℕ) (role : String)
    (a : ActionType) : Prop :=
  ∀ (settings : List ApproverSetting) (db : Db) (user : User) (xTenantId : Option ℕ) (pendingId : ℕ)
    (p : PendingApproval) (freshRef : String) (now : ℤ) (out : Db × Progress), user.role = role →
    getTenantId user xTenantId = .ok tenantId → db.pending[pendingId]? = some p → p.actionType = a →
    decidePendingAction overrides settings db user xTenantId pendingId "approve" freshRef now =
      .ok out → Entitled overrides settings tenantId user p

/-- Whoever of a role resolves a payout of a kind at a tenant has the permission for it. -/
def ResolvedByEntitled (overrides : List RolePermissionOverride) (tenantId : ℕ) (role : String)
    (type : TransactionType) : Prop :=
  ∀ (db : Db) (user : User) (xTenantId : Option ℕ) (paymentsEnabled : Bool) (txnId : ℕ)
    (txn : PaymentTransaction) (outcome : String) (receipt : Option String) (note : String)
    (now : ℤ)
    (saved : Db), user.role = role → getTenantId user xTenantId = .ok tenantId →
    db.transactions[txnId]? = some txn → txn.type = type →
    resolvePayoutAs overrides db user xTenantId paymentsEnabled txnId outcome receipt note now =
      .ok saved → payoutPermission type ∈ effectivePermissions overrides tenantId role

/-- The tenant has taken a permission of the catalogue from a role that keeps another one the
route asks for. -/
def Overlooked (overrides : List RolePermissionOverride) (tenantId : ℕ) (role need : String)
    (gate : List String) : Prop :=
  role ≠ "super_admin" ∧ hasPermission role need = true ∧ Revoked overrides tenantId role need ∧
    ∃ key ∈ gate, key ∈ effectivePermissions overrides tenantId role

theorem approvedByEntitled_iff (overrides : List RolePermissionOverride) (tenantId : ℕ)
    (role : String) (a : ActionType) : ApprovedByEntitled overrides tenantId role a ↔
      ¬ Overlooked overrides tenantId role a.rule.1 moneyApprovePerms := by
  obtain ⟨hneed, htype⟩ := rule_mem a
  constructor
  · rintro happroved ⟨hrole, hhas, hrevoked, hgate⟩
    have hmissing := (revoked_iff hneed hrole hhas).mp hrevoked
    have hsettings : approverEnabled [⟨tenantId, a.rule.2, role, true⟩] tenantId a.rule.2 role =
        true := by
      simp [approverEnabled]
    let user : User := ⟨2, tenantId, role⟩
    have htenant : getTenantId user none = .ok tenantId := by
      simp [getTenantId, user, hrole]
    have hdecidable : decidable (waitingBook a tenantId) tenantId 0 "approve"
        (user.checker [⟨tenantId, a.rule.2, role, true⟩] tenantId) =
          .ok (waitingRequest a tenantId) := by
      have hpermission : a.rule.1 ∈ permissionsFor role := (hasPermission_iff hneed).mp hhas
      simp [decidable, waitingBook, waitingRequest, User.checker, user, hpermission, htype,
        hsettings,
        Option.filter]
    obtain ⟨out, hout⟩ := beginApproval_waiting a tenantId
    refine hmissing
      (happroved [⟨tenantId, a.rule.2, role, true⟩] (waitingBook a tenantId) user none 0
      (waitingRequest a tenantId) "QB2" 0 out rfl htenant rfl rfl ?_).permitted
    refine bind_eq_ok.mpr
      ⟨tenantId, htenant, bind_eq_ok.mpr ⟨(), requireAny_eq_ok.mpr (.inr hgate), ?_⟩⟩
    exact bind_eq_ok.mpr ⟨_, hdecidable, hout⟩
  · intro hseen settings db user xTenantId pendingId p freshRef now out hrole htenant hp haction h
    subst hrole haction
    obtain ⟨tenantId', htenant', h⟩ := bind_eq_ok.mp h
    obtain rfl := Except.ok.inj (htenant'.symm.trans htenant)
    obtain ⟨u, hgate, h⟩ := bind_eq_ok.mp h
    obtain ⟨p', hdecidable, -⟩ := bind_eq_ok.mp h
    obtain rfl := Option.some.inj (hp.symm.trans (decidable_eq_ok hdecidable).1)
    obtain ⟨hmaker, hchecker⟩ := decidable_checker hdecidable
    by_cases hsuper : user.role = "super_admin"
    · exact ⟨hmaker, by rwa [hsuper, effectivePermissions, if_pos rfl], .inl hsuper⟩
    have hnotSuper : (user.checker settings tenantId').superAdmin = false := by
      simp [User.checker, hsuper]
    obtain ⟨hpermission, happrover⟩ := hchecker.resolve_left (by simp [hnotSuper])
    have hhas : hasPermission user.role p.actionType.rule.1 = true := by
      rw [hasPermission_iff hneed]
      simpa [User.checker] using hpermission
    have henabled : approverEnabled settings tenantId' p.actionType.rule.2 user.role = true := by
      simpa [User.checker, htype] using happrover
    have howner := getTenantId_own hsuper htenant
    refine ⟨hmaker, ?_, .inr henabled⟩
    by_contra hmissing
    refine hseen ⟨hsuper, hhas, (revoked_iff hneed hsuper hhas).mpr hmissing, ?_⟩
    have hgate := (requireAny_eq_ok.mp hgate).resolve_left hsuper
    rwa [howner] at hgate

theorem resolvedByEntitled_iff (overrides : List RolePermissionOverride) (tenantId : ℕ)
    (role : String) {type : TransactionType} (htype : type = .b2c ∨ type = .refund) :
    ResolvedByEntitled overrides tenantId role type ↔
      ¬ Overlooked overrides tenantId role (payoutPermission type) payoutResolvePerms := by
  have hneed : payoutPermission type ∈ permissions := by
    obtain rfl | rfl := htype
    · decide
    · decide
  constructor
  · rintro hresolved ⟨hrole, hhas, hrevoked, hgate⟩
    have hmissing := (revoked_iff hneed hrole hhas).mp hrevoked
    let user : User := ⟨2, tenantId, role⟩
    have htenant : getTenantId user none = .ok tenantId := by
      simp [getTenantId, user, hrole]
    have hpermission : payoutPermission type ∈ (user.checker [] tenantId).permissions :=
      (hasPermission_iff hneed).mp hhas
    obtain ⟨saved, hsaved⟩ := @resolvePayout_uncertain type htype tenantId _ hpermission
    refine hmissing (hresolved (uncertainPayout type tenantId) user none true 0
      (uncertainTxn type tenantId) "not_paid" none "checked" 0 saved rfl htenant rfl rfl ?_)
    exact bind_eq_ok.mpr ⟨tenantId, htenant, bind_eq_ok.mpr ⟨(), refuseIf_eq_ok.mpr (by simp),
      bind_eq_ok.mpr ⟨(), requireAny_eq_ok.mpr (.inr hgate), hsaved⟩⟩⟩
  · intro hseen db user xTenantId paymentsEnabled txnId txn outcome receipt note now saved hrole
      htenant htxn hkind h
    subst hrole hkind
    obtain ⟨tenantId', htenant', h⟩ := bind_eq_ok.mp h
    obtain rfl := Except.ok.inj (htenant'.symm.trans htenant)
    obtain ⟨-, -, h⟩ := bind_eq_ok.mp h
    obtain ⟨u, hgate, h⟩ := bind_eq_ok.mp h
    obtain ⟨txn', htxn', -⟩ := bind_eq_ok.mp h
    by_cases hsuper : user.role = "super_admin"
    · rwa [hsuper, effectivePermissions, if_pos rfl]
    have hhas : hasPermission user.role (payoutPermission txn.type) = true := by
      rw [hasPermission_iff hneed]
      simp only [payoutToResolve] at htxn'
      split at htxn'
      · cases htxn'
      rename_i found hfound
      simp only [Option.filter_eq_some_iff] at hfound
      obtain rfl := Option.some.inj (htxn.symm.trans hfound.1)
      by_contra hno
      unfold payoutPermission at hno
      simp [User.checker, hsuper, hno] at htxn'
    have howner := getTenantId_own hsuper htenant
    by_contra hmissing
    refine hseen ⟨hsuper, hhas, (revoked_iff hneed hsuper hhas).mpr hmissing, ?_⟩
    have hgate := (requireAny_eq_ok.mp hgate).resolve_left hsuper
    rwa [howner] at hgate

/-- Money decisions are made by those entitled to them exactly where the tenant has not taken
the permission from a role that the catalogue gives it to and that keeps another approval
permission. -/
theorem money_decisions_entitled_iff (overrides : List RolePermissionOverride) (tenantId : ℕ)
    (role : String) :
    (∀ a, ApprovedByEntitled overrides tenantId role a ↔
      ¬ Overlooked overrides tenantId role a.rule.1 moneyApprovePerms) ∧
    (∀ type ∈ [TransactionType.b2c, .refund], ResolvedByEntitled overrides tenantId role type ↔
      ¬ Overlooked overrides tenantId role (payoutPermission type) payoutResolvePerms) := by
  refine ⟨approvedByEntitled_iff overrides tenantId role, fun type htype => ?_⟩
  exact resolvedByEntitled_iff overrides tenantId role (by simpa using htype)

/-- A branch manager whose tenant has taken `refund.approve` away approves a refund. -/
theorem revoked_manager_approves_refund :
    let overrides : List RolePermissionOverride := [⟨1, "branch_manager", "refund.approve", false⟩]
    "refund.approve" ∉ effectivePermissions overrides 1 "branch_manager" ∧
      (decidePendingAction overrides [] (waitingBook .refund 1)
        ⟨2, 1, "branch_manager"⟩ none 0 "approve"
        "QB2" 0).isOk = true ∧
      ¬ ApprovedByEntitled overrides 1 "branch_manager" .refund := by
  have hgone : "refund.approve" ∉ effectivePermissions
      [⟨1, "branch_manager", "refund.approve", false⟩]
    1 "branch_manager" := by decide
  have hdone : (decidePendingAction [⟨1, "branch_manager", "refund.approve", false⟩] []
    (waitingBook .refund 1) ⟨2, 1, "branch_manager"⟩ none 0 "approve" "QB2" 0).isOk = true := by
    decide +kernel
  refine ⟨hgone, hdone, fun happroved => hgone ?_⟩
  cases hout : decidePendingAction [⟨1, "branch_manager", "refund.approve", false⟩] []
      (waitingBook .refund 1) ⟨2, 1, "branch_manager"⟩ none 0 "approve" "QB2" 0 with
  | ok out =>
    exact (happroved [] (waitingBook .refund 1) ⟨2, 1, "branch_manager"⟩ none 0
      (waitingRequest .refund 1) "QB2" 0 out rfl rfl rfl rfl hout).permitted
  | error failure => simp [hout, Except.isOk, Except.toBool] at hdone

end FinylDcp
